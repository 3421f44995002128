/-
L4AudioMixer.Decoder.FifoTheorems — the decoder's FIFO conserves samples
and stays bounded.

`FifoInvariant` is the conservation law: what was delivered followed by
what the FIFO holds is what the codec returned, and the FIFO exceeds the
fill level of `FillFifo` by less than one frame. `FillFifo` tests the
level before it asks for a frame, which is where the overshoot by the
largest frame comes from. `consume_spec` is the one fact callers of
`Consume` need: the call returns, and gives the front of the filled FIFO.
-/
import L4AudioMixer.Decoder.PumpTheorems

namespace L4AudioMixer.Decoder

open L4AudioMixer.Lib
open L4AudioMixer.Libav

variable {σ α : Type}

/-- The size of the largest of some frames. -/
def largestFrame (frames : List (List α)) : Nat :=
  (frames.map List.length).foldr max 0

theorem largestFrame_append (frames frames' : List (List α)) :
    largestFrame (frames ++ frames') = max (largestFrame frames) (largestFrame frames') := by
  induction frames with
  | nil => simp [largestFrame]
  | cons f fs ih =>
      simp only [largestFrame, List.cons_append, List.map_cons, List.foldr_cons] at ih ⊢
      rw [ih, max_assoc]

theorem largestFrame_singleton (f : List α) : largestFrame [f] = f.length := by
  simp [largestFrame]

/-- The bound on the FIFO level: one sample below the capacity, and one frame. -/
def levelBound (d : AudioFileDecoder σ α) : Int :=
  max (d.fifoCapacity - 1) 0 + largestFrame d.log.received

/-- What relates the FIFO of a decoder to the frames its codec returned. -/
structure FifoInvariant (file : MediaFile σ α) (fifoCapacity : Int)
    (d : AudioFileDecoder σ α) : Prop extends LogRecords file d where
  capacity : d.fifoCapacity = fifoCapacity
  /-- Delivered samples, then the FIFO: the frames received, in order. -/
  conserved : d.log.delivered ++ d.fifo = d.log.received.flatten
  bounded : (d.fifo.length : Int) ≤ levelBound d

theorem FifoInvariant.opened (file : MediaFile σ α) (fifoCapacity : Int) :
    FifoInvariant file fifoCapacity (Decoder.opened file fifoCapacity) where
  toLogRecords := .opened file fifoCapacity
  capacity := rfl
  conserved := rfl
  bounded := by
    simp only [Decoder.opened, levelBound, List.length_nil]
    omega

variable {file : MediaFile σ α} {fifoCapacity : Int} {d d' : AudioFileDecoder σ α}

/-- `FillDecoder` does not touch the FIFO. -/
theorem FifoInvariant.pumpStep (hstep : PumpStep d d')
    (hd : FifoInvariant file fifoCapacity d) : FifoInvariant file fifoCapacity d' := by
  have hlog := hd.toLogRecords.pumpStep hstep
  cases hstep <;> exact ⟨hlog, hd.capacity, hd.conserved, hd.bounded⟩

/-- `FillFifo` appends whole frames, and only below the capacity. -/
theorem FifoInvariant.fifoStep (hstep : FifoStep d d')
    (hd : FifoInvariant file fifoCapacity d) : FifoInvariant file fifoCapacity d' := by
  have hlog := hd.toLogRecords.fifoStep hstep
  cases hstep with
  | received c samples hlevel hr =>
      refine ⟨hlog, hd.capacity, ?_, ?_⟩
      · simp only [receiveSamples, List.flatten_append, List.flatten_cons, List.flatten_nil,
          List.append_nil, ← hd.conserved, List.append_assoc]
      · have hmax := largestFrame_append d.log.received [samples]
        rw [largestFrame_singleton] at hmax
        simp only [receiveSamples, levelBound, List.length_append, hmax]
        omega
  | nothing answer c hlevel hr ha => exact ⟨hlog, hd.capacity, hd.conserved, hd.bounded⟩

/-- The front of a FIFO, for a request that is not negative. -/
theorem takeFromFifo_of_nonneg (d : AudioFileDecoder σ α) {k : Int} (hk : 0 ≤ k) :
    takeFromFifo d k =
      ({ d with
          fifo := d.fifo.drop k.toNat
          log := { d.log with delivered := d.log.delivered ++ d.fifo.take k.toNat } },
        { size := (d.fifo.take k.toNat).length * 2 * d.channels
          samples := d.fifo.take k.toNat }) := by
  -- the target is cut to the level first, which changes neither part
  have htake : d.fifo.take (min (d.fifo.length : Int) k).toNat = d.fifo.take k.toNat := by
    rw [show (min (d.fifo.length : Int) k).toNat = min d.fifo.length k.toNat by omega,
      List.take_eq_take_iff]
    omega
  have hdrop : d.fifo.drop (min (d.fifo.length : Int) k).toNat = d.fifo.drop k.toNat := by
    rw [show (min (d.fifo.length : Int) k).toNat = min d.fifo.length k.toNat by omega]
    rcases Nat.le_total d.fifo.length k.toNat with h | h
    · rw [Nat.min_eq_left h, List.drop_length, List.drop_eq_nil_of_le h]
    · rw [Nat.min_eq_right h]
  have hneg : ¬ min (d.fifo.length : Int) k < 0 := by omega
  simp only [takeFromFifo, avAudioFifoRead, if_neg hneg, htake, hdrop]

/-- Taking from the front keeps the law. -/
theorem FifoInvariant.takeFromFifo (hd : FifoInvariant file fifoCapacity d) {k : Int}
    (hk : 0 ≤ k) : FifoInvariant file fifoCapacity (Decoder.takeFromFifo d k).1 := by
  have hbound := hd.bounded
  rw [takeFromFifo_of_nonneg d hk]
  refine ⟨⟨hd.codec, hd.exchanged⟩, hd.capacity, ?_, ?_⟩
  · simpa only [List.append_assoc, List.take_append_drop] using hd.conserved
  · simp only [levelBound, List.length_drop] at hbound ⊢
    omega

/-- `Consume` is its two fill calls and a take. -/
theorem consume_of_fill {fuel : Nat} {d a b : AudioFileDecoder σ α}
    (ha : fillDecoder fuel d = .ok a) (hb : fillFifo fuel a = .ok b) (k : Int) :
    consume fuel d k = .ok (takeFromFifo b k) := by
  simp only [consume, ha, hb, bind, Except.bind]
  rfl

/-- **`Consume` returns**, and gives the front of the FIFO as the two
fill calls leave it. -/
theorem consume_spec (hsend : SendsWithoutError file.codec)
    (hframes : RunsOutOfFrames file.codec) (hd : FifoInvariant file fifoCapacity d) (k : Int) :
    ∃ filled bound, FifoInvariant file fifoCapacity filled ∧
      filled.log.delivered = d.log.delivered ∧
      (∀ fuel, bound ≤ fuel → (fillDecoder fuel d >>= fillFifo fuel) = .ok filled) ∧
      ∀ fuel, bound ≤ fuel → consume fuel d k = .ok (takeFromFifo filled k) := by
  obtain ⟨a, b₁, ha⟩ := fillDecoder_ends (d := d) (hd.codec ▸ hsend)
  -- both calls keep the invariant and the delivered samples
  have hinv₁ : FifoInvariant file fifoCapacity a ∧ a.log.delivered = d.log.delivered := by
    refine fillDecoder_preserves
      (fun s => FifoInvariant file fifoCapacity s ∧ s.log.delivered = d.log.delivered)
      ?_ ⟨hd, rfl⟩ (ha b₁ le_rfl)
    intro s s' hs hI
    refine ⟨hI.1.pumpStep hs, ?_⟩
    cases hs <;> exact hI.2
  obtain ⟨b, b₂, hb⟩ := fillFifo_ends (d := a) (hinv₁.1.codec ▸ hframes a.codecContext)
  have hinv₂ : FifoInvariant file fifoCapacity b ∧ b.log.delivered = d.log.delivered := by
    refine fillFifo_preserves
      (fun s => FifoInvariant file fifoCapacity s ∧ s.log.delivered = d.log.delivered)
      ?_ hinv₁ (hb b₂ le_rfl)
    intro s s' hs hI
    refine ⟨hI.1.fifoStep hs, ?_⟩
    cases hs <;> exact hI.2
  refine ⟨b, max b₁ b₂, hinv₂.1, hinv₂.2, fun fuel hle => ?_, fun fuel hle => ?_⟩
  · rw [ha fuel (by omega)]
    exact hb fuel (by omega)
  · exact consume_of_fill (ha fuel (by omega)) (hb fuel (by omega)) k

/-- `Consume` calls as a machine. -/
def consumeMachine (fuel : Nat) :
    Machine (AudioFileDecoder σ α) Int (Consumed α) Fault where
  step d k := consume fuel d k

/-- A decoder is opened, the constructor fills the codec, and `Consume`
is called with the given numbers of samples. -/
def consumeSession (fuel : Nat) (file : MediaFile σ α) (fifoCapacity : Int)
    (requests : List Int) : Except Fault (AudioFileDecoder σ α × List (Consumed α)) := do
  let d ← fillDecoder fuel (opened file fifoCapacity)
  (consumeMachine fuel).run d requests

/-- The replies of a run are what the log says was delivered. -/
theorem delivered_of_run {fuel : Nat} {requests : List Int} {replies : List (Consumed α)}
    (hreq : ∀ k ∈ requests, 0 ≤ k)
    (h : (consumeMachine fuel).run d requests = .ok (d', replies)) :
    d'.log.delivered = d.log.delivered ++ (replies.map Consumed.samples).flatten := by
  induction requests generalizing d replies with
  | nil => cases h; simp
  | cons k ks ih =>
      obtain ⟨s, r, rs, hstep, hrun, rfl⟩ := Machine.of_run_cons h
      rw [ih (fun j hj => hreq j (by simp [hj])) hrun]
      have hk : 0 ≤ k := hreq k (by simp)
      -- what one call delivers is what it appends to the log
      have hdel : s.log.delivered = d.log.delivered ++ r.samples := by
        simp only [consumeMachine, consume, bind_eq_ok] at hstep
        obtain ⟨a, ha, b, hb, htake⟩ := hstep
        have hab : b.log.delivered = d.log.delivered := by
          refine fillFifo_preserves (fun s => s.log.delivered = d.log.delivered)
            (fun s s' hs hI => by cases hs <;> exact hI) ?_ hb
          exact fillDecoder_preserves (fun s => s.log.delivered = d.log.delivered)
            (fun s s' hs hI => by cases hs <;> exact hI) rfl ha
        rw [takeFromFifo_of_nonneg b hk] at htake
        cases htake
        simp only [hab]
      simp only [hdel, List.map_cons, List.flatten_cons, List.append_assoc]

/-- **The FIFO conserves samples and stays bounded.** For every file,
every codec that runs out of frames and sends without error, and every
sequence of `Consume` calls with requests that are not negative: all
calls return; the samples delivered so far followed by the FIFO are the
frames received, in order, which are the frames the codec gave; and from
the state reached, the next call fills the FIFO to at most the level
bound and delivers the first `min k level` samples of it. -/
theorem consume_conserves_samples (file : MediaFile σ α) (fifoCapacity : Int)
    (hsend : SendsWithoutError file.codec) (hframes : RunsOutOfFrames file.codec)
    (requests : List Int) (hreq : ∀ k ∈ requests, 0 ≤ k) :
    ∃ d replies bound,
      (∀ fuel, bound ≤ fuel →
        consumeSession fuel file fifoCapacity requests = .ok (d, replies)) ∧
      (replies.map Consumed.samples).flatten ++ d.fifo = d.log.received.flatten ∧
      Exchanged file.codec file.codecContext d.log.accepted d.log.received d.codecContext ∧
      (d.fifo.length : Int) ≤ max (fifoCapacity - 1) 0 + largestFrame d.log.received ∧
      ∀ k : Int, 0 ≤ k → ∃ filled d' reply bound',
        (∀ fuel, bound' ≤ fuel →
          (fillDecoder fuel d >>= fillFifo fuel) = .ok filled ∧
          consume fuel d k = .ok (d', reply)) ∧
        Exchanged file.codec file.codecContext filled.log.accepted filled.log.received
          filled.codecContext ∧
        (filled.fifo.length : Int)
          ≤ max (fifoCapacity - 1) 0 + largestFrame filled.log.received ∧
        reply.samples = filled.fifo.take k.toNat ∧
        (reply.samples.length : Int) = min k filled.fifo.length := by
  -- the constructor's call
  obtain ⟨d₀, b₀, h₀⟩ := fillDecoder_ends (d := opened file fifoCapacity) hsend
  have hinv₀ : FifoInvariant file fifoCapacity d₀ ∧ d₀.log.delivered = [] := by
    refine fillDecoder_preserves
      (fun s => FifoInvariant file fifoCapacity s ∧ s.log.delivered = []) ?_
      ⟨FifoInvariant.opened file fifoCapacity, rfl⟩ (h₀ b₀ le_rfl)
    intro s s' hs hI
    refine ⟨hI.1.pumpStep hs, ?_⟩
    cases hs <;> exact hI.2
  -- the run of `Consume` calls
  obtain ⟨d, replies, b₁, hd, hrun⟩ :=
    Machine.run_ends (M := consumeMachine) (FifoInvariant file fifoCapacity) (fun k => 0 ≤ k)
      (fun s k hs hk => by
        obtain ⟨filled, bound, hfilled, -, -, hcons⟩ := consume_spec hsend hframes hs k
        exact ⟨_, _, bound, hfilled.takeFromFifo hk, hcons⟩)
      hinv₀.1 hreq
  have hdel := delivered_of_run hreq (hrun b₁ le_rfl)
  rw [hinv₀.2, List.nil_append] at hdel
  refine ⟨d, replies, max b₀ b₁, fun fuel hle => ?_, ?_, hd.exchanged, ?_, fun k hk => ?_⟩
  · simp only [consumeSession, h₀ fuel (by omega)]
    exact hrun fuel (by omega)
  · rw [← hdel]
    exact hd.conserved
  · rw [← hd.capacity]
    exact hd.bounded
  · obtain ⟨filled, bound, hfilled, -, hfill, hcons⟩ := consume_spec hsend hframes hd k
    refine ⟨filled, (takeFromFifo filled k).1, (takeFromFifo filled k).2, bound,
      fun fuel hle => ⟨hfill fuel hle, hcons fuel hle⟩, hfilled.exchanged, ?_, ?_, ?_⟩
    · rw [← hfilled.capacity]
      exact hfilled.bounded
    · rw [takeFromFifo_of_nonneg filled hk]
    · rw [takeFromFifo_of_nonneg filled hk, List.length_take]
      omega

/-! ### The codec with one slot -/

theorem slotCodec_runsOutOfFrames : RunsOutOfFrames slotCodec := by
  intro c
  refine ⟨2, ?_⟩
  obtain ⟨flushed, frame⟩ := c
  cases frame <;> cases flushed <;> simp [YieldsFrames, slotCodec]

/-- Two packets, three requests: the second is larger than the FIFO. -/
theorem consume_conserves_samples_slot :
    (SendsWithoutError slotCodec ∧ RunsOutOfFrames slotCodec ∧
      ∀ k ∈ [(1 : Int), 9, 0], 0 ≤ k) ∧
    ∃ d replies bound,
      (∀ fuel, bound ≤ fuel →
        consumeSession fuel (slotFile [.packet ⟨0, [1, 2]⟩, .packet ⟨0, [3]⟩]) 800 [1, 9, 0]
          = .ok (d, replies)) ∧
      (replies.map Consumed.samples).flatten ++ d.fifo = d.log.received.flatten ∧
      Exchanged slotCodec {} d.log.accepted d.log.received d.codecContext ∧
      (d.fifo.length : Int) ≤ max (800 - 1) 0 + largestFrame d.log.received ∧
      ∀ k : Int, 0 ≤ k → ∃ filled d' reply bound',
        (∀ fuel, bound' ≤ fuel →
          (fillDecoder fuel d >>= fillFifo fuel) = .ok filled ∧
          consume fuel d k = .ok (d', reply)) ∧
        Exchanged slotCodec {} filled.log.accepted filled.log.received filled.codecContext ∧
        (filled.fifo.length : Int) ≤ max (800 - 1) 0 + largestFrame filled.log.received ∧
        reply.samples = filled.fifo.take k.toNat ∧
        (reply.samples.length : Int) = min k filled.fifo.length :=
  ⟨⟨slotCodec_sendsWithoutError, slotCodec_runsOutOfFrames, by decide⟩,
    consume_conserves_samples _ 800 slotCodec_sendsWithoutError slotCodec_runsOutOfFrames
      [1, 9, 0] (by decide)⟩

end L4AudioMixer.Decoder
