/-
L4AudioMixer.Decoder.SupplyTheorems — what one `Consume` call gets out of
the codec, and how that relates to the decoded stream.

One call makes one round: the packets to come are offered until the codec
refuses one (`afterOffer`), then frames are taken while the FIFO is below
its capacity. `CanSupply` says, of the state before the call, that these
frames bring the FIFO to `n` samples; `fillFifo_level` shows it is exactly
when the FIFO holds `n` samples after the two fill calls.

`StreamInvariant` is about order: whatever the codec still has to say,
the samples received so far stand in front of it in the decoded stream.
-/
import L4AudioMixer.Decoder.FifoTheorems

namespace L4AudioMixer.Decoder

open L4AudioMixer.Lib
open L4AudioMixer.Libav

variable {σ α : Type}

/-! ## One round -/

/-- The codec after the packets were offered in order, up to the first it
does not take. -/
def afterOffer (k : Codec σ α) : σ → List AVPacket → σ
  | c, [] => c
  | c, p :: ps =>
      match k.sendPacket c (some p) with
      | (.ok, c') => afterOffer k c' ps
      | (_, c') => c'

/-- The packets of a decoder's stream the codec has not taken yet. -/
def pendingPackets (d : AudioFileDecoder σ α) : List AVPacket :=
  heldPackets d ++ ownPackets d.streamNo (packetsOf d.formatContext)

/-- From codec state `c`, receiving while the level is below `capacity`
brings the level to `n`. -/
inductive CanSupply (k : Codec σ α) (capacity n : Int) : Int → σ → Prop where
  | enough {level : Int} {c : σ} (h : n ≤ level) : CanSupply k capacity n level c
  | frame {level : Int} {c c' : σ} {samples : List α} (hlevel : level < capacity)
      (hr : k.receiveFrame c = (.frame samples, c'))
      (h : CanSupply k capacity n (level + samples.length) c') : CanSupply k capacity n level c

/-- The FIFO of `d`, with what the codec has to give in one round, comes
to `n` samples. -/
def Supplied (n : Int) (d : AudioFileDecoder σ α) : Prop :=
  CanSupply d.codec d.fifoCapacity n d.fifo.length
    (afterOffer d.codec d.codecContext (pendingPackets d))

theorem afterOffer_accepted {k : Codec σ α} {c c' : σ} {p : AVPacket}
    (h : k.sendPacket c (some p) = (.ok, c')) (ps : List AVPacket) :
    afterOffer k c (p :: ps) = afterOffer k c' ps := by
  simp only [afterOffer, h]

theorem afterOffer_refused {k : Codec σ α} {c c' : σ} {p : AVPacket} {answer : SendPacket}
    (h : k.sendPacket c (some p) = (answer, c')) (ha : answer ≠ .ok) (ps : List AVPacket) :
    afterOffer k c (p :: ps) = c' := by
  simp only [afterOffer, h]

/-- A file without failing reads, and a held packet exactly when
`packet_consumed_` is false. -/
structure Readable (d : AudioFileDecoder σ α) : Prop where
  packets : ∃ ps : List AVPacket, d.formatContext = ps.map .packet
  held : d.packet.isSome ↔ d.packetConsumed = false

theorem packetsOf_map_packet (ps : List AVPacket) : packetsOf (ps.map .packet) = ps := by
  induction ps with
  | nil => rfl
  | cons p ps ih => simp [packetsOf]

theorem exists_rest {s rest : AVFormatContext} {r : ReadFrame}
    (hs : ∃ ps : List AVPacket, s = ps.map .packet) (h : avReadFrame s = (r, rest)) :
    ∃ ps : List AVPacket, rest = ps.map .packet := by
  obtain ⟨ps, rfl⟩ := hs
  cases ps with
  | nil => cases h; exact ⟨[], rfl⟩
  | cons p ps => cases h; exact ⟨ps, rfl⟩

theorem Readable.pumpStep {d d' : AudioFileDecoder σ α} (hstep : PumpStep d d')
    (hd : Readable d) : Readable d' := by
  cases hstep with
  | readFailed rest hc hr => exact ⟨exists_rest hd.packets hr, hd.held⟩
  | readForeign p rest hc hr hp =>
      exact ⟨exists_rest hd.packets hr, by simp [skipPacket, hc]⟩
  | readOwn p rest hc hr hp => exact ⟨exists_rest hd.packets hr, by simp [holdPacket]⟩
  | sendAccepted c hc hs => exact ⟨hd.packets, by simp [acceptPacket]⟩
  | sendRefused answer c hc hs ha => exact ⟨hd.packets, hd.held⟩

theorem ownPackets_cons_own {streamNo : Int} {p : AVPacket} (h : p.streamIndex = streamNo)
    (ps : List AVPacket) : ownPackets streamNo (p :: ps) = p :: ownPackets streamNo ps := by
  simp [ownPackets, h]

theorem ownPackets_cons_foreign {streamNo : Int} {p : AVPacket} (h : p.streamIndex ≠ streamNo)
    (ps : List AVPacket) : ownPackets streamNo (p :: ps) = ownPackets streamNo ps := by
  simp [ownPackets, h]

/-- Without a held packet, what is pending is the own packets not read. -/
theorem pendingPackets_consumed {d : AudioFileDecoder σ α} (hc : d.packetConsumed = true) :
    pendingPackets d = ownPackets d.streamNo (packetsOf d.formatContext) := by
  simp [pendingPackets, heldPackets, hc]

theorem pendingPackets_skip {d : AudioFileDecoder σ α} {p : AVPacket} {rest : AVFormatContext}
    (hc : d.packetConsumed = true) (hr : avReadFrame d.formatContext = (.packet p, rest))
    (hp : p.streamIndex ≠ d.streamNo) :
    pendingPackets (skipPacket d p rest) = pendingPackets d := by
  rw [pendingPackets_consumed hc, packetsOf_packet hr, ownPackets_cons_foreign hp]
  exact pendingPackets_consumed (d := skipPacket d p rest) hc

theorem pendingPackets_hold {d : AudioFileDecoder σ α} {p : AVPacket} {rest : AVFormatContext}
    (hc : d.packetConsumed = true) (hr : avReadFrame d.formatContext = (.packet p, rest))
    (hp : p.streamIndex = d.streamNo) :
    pendingPackets (holdPacket d p rest) = pendingPackets d := by
  rw [pendingPackets_consumed hc, packetsOf_packet hr, ownPackets_cons_own hp]
  rfl

/-- The first pending packet is the held one. -/
theorem pendingPackets_held {d : AudioFileDecoder σ α} (hc : d.packetConsumed = false)
    (hd : Readable d) : ∃ p, d.packet = some p ∧
      pendingPackets d = p :: ownPackets d.streamNo (packetsOf d.formatContext) := by
  obtain ⟨p, hp⟩ := Option.isSome_iff_exists.mp (hd.held.mpr hc)
  refine ⟨p, hp, ?_⟩
  simp [pendingPackets, heldPackets, hc, hp]

/-- Where one round of offering ends. -/
def offered (d : AudioFileDecoder σ α) : σ :=
  afterOffer d.codec d.codecContext (pendingPackets d)

/-- Offering the held packet: when it is taken the round goes on to the
same end, and otherwise this is the end. -/
theorem sendHeldPacket_offered {d : AudioFileDecoder σ α} (hc : d.packetConsumed = false)
    (hd : Readable d) :
    (∀ d', sendHeldPacket d = .next d' → offered d' = offered d) ∧
    ∀ d', sendHeldPacket d = .done (.ok d') → d'.codecContext = offered d := by
  obtain ⟨p, hp, hpending⟩ := pendingPackets_held hc hd
  unfold sendHeldPacket
  rw [hp]
  split
  · rename_i c hs
    constructor
    · intro d' h
      cases h
      simp only [offered, hpending, afterOffer_accepted hs]
      rw [pendingPackets_consumed rfl]
    · intro d' h
      cases h
  · rename_i c hs
    constructor
    · intro d' h
      cases h
    · intro d' h
      cases h
      simp only [offered, hpending, afterOffer_refused hs (by simp)]
  · rename_i c hs
    constructor
    · intro d' h
      cases h
    · intro d' h
      cases h
      simp only [offered, hpending, afterOffer_refused hs (by simp)]
  · constructor
    · intro d' h
      cases h
    · intro d' h
      cases h

/-- A pass of `FillDecoder` heads for the end of the same round. -/
theorem fillDecoderBody_offered {d : AudioFileDecoder σ α} (hd : Readable d) :
    (∀ d', fillDecoderBody d = .next d' → offered d' = offered d) ∧
    ∀ d', fillDecoderBody d = .done (.ok d') → d'.codecContext = offered d := by
  unfold fillDecoderBody
  split
  · rename_i hc
    split
    · -- the only failing read is the one at the end of the file
      rename_i rest hr
      constructor
      · intro d' h
        cases h
      · intro d' h
        cases h
        obtain ⟨ps, hps⟩ := hd.packets
        cases ps with
        | nil =>
            simp [offered, pendingPackets_consumed hc, hps, packetsOf, ownPackets, afterOffer]
        | cons p ps =>
            rw [hps] at hr
            cases hr
    · rename_i p rest hr
      simp only
      split
      · rename_i hp
        constructor
        · intro d' h
          cases h
          exact congrArg (afterOffer d.codec d.codecContext) (pendingPackets_skip hc hr hp)
        · intro d' h
          cases h
      · rename_i hp
        have hown : p.streamIndex = d.streamNo := by simpa using hp
        have hheld : Readable (holdPacket d p rest) :=
          hd.pumpStep (.readOwn d p rest hc hr hown)
        have hsame : offered (holdPacket d p rest) = offered d :=
          congrArg (afterOffer d.codec d.codecContext) (pendingPackets_hold hc hr hown)
        obtain ⟨hnext, hdone⟩ := sendHeldPacket_offered (d := holdPacket d p rest) rfl hheld
        exact ⟨fun d' h => (hnext d' h).trans hsame, fun d' h => (hdone d' h).trans hsame⟩
  · rename_i hc
    exact sendHeldPacket_offered (by simpa using hc) hd

/-- **`FillDecoder` offers one round**: it leaves the codec where
offering all pending packets ends. -/
theorem fillDecoder_offered {fuel : Nat} {d d' : AudioFileDecoder σ α} (hd : Readable d)
    (h : fillDecoder fuel d = .ok d') : d'.codecContext = offered d := by
  unfold fillDecoder at h
  cases hl : loop fillDecoderBody fuel d with
  | none => simp [hl] at h
  | some r =>
      rw [hl, Option.getD_some] at h
      subst h
      refine loop_invariant (fun s => Readable s ∧ offered s = offered d)
        (fun r => ∀ d', r = .ok d' → d'.codecContext = offered d) ?_ ?_ ⟨hd, rfl⟩ hl d' rfl
      · intro s s' hs hb
        have hread : Readable s' :=
          pumpSteps_preserve (fun _ _ => Readable.pumpStep) (fillDecoderBody_next hb) hs.1
        exact ⟨hread, ((fillDecoderBody_offered hs.1).1 s' hb).trans hs.2⟩
      · intro s r hs hb d'' hr
        subst hr
        exact ((fillDecoderBody_offered hs.1).2 d'' hb).trans hs.2

/-- A pass of `FillFifo` does not change what the codec can supply. -/
theorem canSupply_received {k : Codec σ α} {capacity n level : Int} {c c' : σ}
    {samples : List α} (hlevel : level < capacity)
    (hr : k.receiveFrame c = (.frame samples, c')) :
    CanSupply k capacity n (level + samples.length) c' ↔ CanSupply k capacity n level c := by
  constructor
  · intro h
    exact .frame hlevel hr h
  · intro h
    cases h with
    | enough h => exact .enough (by omega)
    | frame _ hr' h =>
        rw [hr] at hr'
        cases hr'
        exact h

/-- Where `FillFifo` stops, the level is all there is. -/
theorem canSupply_stopped {k : Codec σ α} {capacity n level : Int} {c : σ}
    (hstop : level < capacity → ∀ samples c', k.receiveFrame c ≠ (.frame samples, c')) :
    CanSupply k capacity n level c ↔ n ≤ level := by
  constructor
  · intro h
    cases h with
    | enough h => exact h
    | frame hlevel hr _ => exact absurd hr (hstop hlevel _ _)
  · intro h
    exact .enough h

/-- **`FillFifo` takes what the codec can supply.** -/
theorem fillFifo_level {fuel : Nat} {d d' : AudioFileDecoder σ α}
    (h : fillFifo fuel d = .ok d') (n : Int) :
    n ≤ d'.fifo.length ↔ CanSupply d.codec d.fifoCapacity n d.fifo.length d.codecContext := by
  unfold fillFifo at h
  split at h
  · cases h
  · rename_i r hl
    cases h
    refine loop_invariant
      (fun s => CanSupply s.codec s.fifoCapacity n s.fifo.length s.codecContext ↔
        CanSupply d.codec d.fifoCapacity n d.fifo.length d.codecContext)
      (fun s => n ≤ s.fifo.length ↔
        CanSupply d.codec d.fifoCapacity n d.fifo.length d.codecContext) ?_ ?_ Iff.rfl hl
    · intro s s' hs hb
      obtain ⟨c, samples, hlevel, hr, rfl⟩ := fillFifoBody_next hb
      rw [← hs, ← canSupply_received hlevel hr]
      simp [receiveSamples]
    · intro s s' hs hb
      rw [← hs]
      rcases fillFifoBody_done hb with ⟨hfull, rfl⟩ | ⟨hlevel, answer, c, hr, hne, rfl⟩
      · exact (canSupply_stopped (fun hlt => absurd hlt (by omega))).symm
      · refine (canSupply_stopped fun _ samples c' hr' => ?_).symm
        rw [hr] at hr'
        cases hr'
        exact hne samples rfl

/-! ## Order -/

/-- What relates a decoder to the decoded stream of `file`. -/
structure StreamInvariant (file : MediaFile σ α) (feeding : σ → Prop)
    (d : AudioFileDecoder σ α) : Prop where
  codec : d.codec = file.codec
  feeding : feeding d.codecContext
  readable : Readable d
  /-- What is still to come follows what was received. -/
  ahead : ∀ T, Yields file.codec d.codecContext (pendingPackets d) T →
    Yields file.codec file.codecContext
      (ownPackets file.findBestStream (packetsOf file.formatContext)) (d.log.received.flatten ++ T)
  /-- Delivered samples, then the FIFO: the frames received, in order. -/
  conserved : d.log.delivered ++ d.fifo = d.log.received.flatten

variable {file : MediaFile σ α} {feeding : σ → Prop} {d d' : AudioFileDecoder σ α}

theorem StreamInvariant.opened {packets : List AVPacket}
    (hfile : file.formatContext = packets.map .packet) (hc : feeding file.codecContext)
    (fifoCapacity : Int) : StreamInvariant file feeding (Decoder.opened file fifoCapacity) where
  codec := rfl
  feeding := hc
  readable := ⟨⟨packets, hfile⟩, by simp [Decoder.opened]⟩
  ahead := fun T h => by
    rw [pendingPackets_consumed rfl] at h
    exact h
  conserved := rfl

/-- The held packet is taken or refused, never answered with an error. -/
theorem StreamInvariant.offers (hk : ObeysContract file.codec feeding)
    (hd : StreamInvariant file feeding d) (hc : d.packetConsumed = false) :
    ∃ p c, d.packet = some p ∧ feeding c ∧
      (file.codec.sendPacket d.codecContext (some p) = (.ok, c) ∨
        file.codec.sendPacket d.codecContext (some p) = (.eagain, c)) := by
  obtain ⟨p, hp, -⟩ := pendingPackets_held hc hd.readable
  obtain ⟨c, hfeed, hs⟩ := hk.send d.codecContext p hd.feeding
  exact ⟨p, c, hp, hfeed, hs⟩

theorem StreamInvariant.offersWithoutError (hk : ObeysContract file.codec feeding)
    (hd : StreamInvariant file feeding d) (hc : d.packetConsumed = false) :
    OffersWithoutError d := by
  intro code
  obtain ⟨p, c, hp, -, hs | hs⟩ := hd.offers hk hc
  · simp [hd.codec, hp, hs]
  · simp [hd.codec, hp, hs]

/-- Every effect of `FillDecoder` keeps the order. -/
theorem StreamInvariant.pumpStep (hk : ObeysContract file.codec feeding) (hstep : PumpStep d d')
    (hd : StreamInvariant file feeding d) : StreamInvariant file feeding d' := by
  have hread : Readable d' := hd.readable.pumpStep hstep
  cases hstep with
  | readFailed rest hc hr =>
      refine ⟨hd.codec, hd.feeding, hread, fun T hT => hd.ahead T ?_, hd.conserved⟩
      rw [pendingPackets_consumed hc, packetsOf_failure hr,
        ← pendingPackets_consumed (d := { d with formatContext := rest }) hc]
      exact hT
  | readForeign p rest hc hr hp =>
      refine ⟨hd.codec, hd.feeding, hread, fun T hT => hd.ahead T ?_, hd.conserved⟩
      rw [← pendingPackets_skip hc hr hp]
      exact hT
  | readOwn p rest hc hr hp =>
      refine ⟨hd.codec, hd.feeding, hread, fun T hT => hd.ahead T ?_, hd.conserved⟩
      rw [← pendingPackets_hold hc hr hp]
      exact hT
  | sendAccepted c hc hs =>
      obtain ⟨p, hp, hpending⟩ := pendingPackets_held hc hd.readable
      rw [hd.codec, hp] at hs
      refine ⟨hd.codec, hk.feeding_of_send hd.feeding hs, hread, fun T hT => hd.ahead T ?_,
        hd.conserved⟩
      rw [hpending]
      exact .accepted hs hT
  | sendRefused answer c hc hs ha =>
      obtain ⟨p, hp, hpending⟩ := pendingPackets_held hc hd.readable
      obtain ⟨p', c', hp', hfeed, hs' | hs'⟩ := hd.offers hk hc
      · rw [hd.codec, hp', hs'] at hs
        cases hs
        exact absurd rfl ha
      · rw [hd.codec, hp', hs'] at hs
        cases hs
        rw [hp] at hp'
        cases hp'
        refine ⟨hd.codec, hfeed, hread, fun T hT => hd.ahead T ?_, hd.conserved⟩
        rw [hpending]
        exact .refused hs' (hpending ▸ hT)

/-- Every effect of `FillFifo` keeps the order. -/
theorem StreamInvariant.fifoStep (hk : ObeysContract file.codec feeding) (hstep : FifoStep d d')
    (hd : StreamInvariant file feeding d) : StreamInvariant file feeding d' := by
  cases hstep with
  | received c samples hlevel hr =>
      rw [hd.codec] at hr
      refine ⟨hd.codec, hk.feeding_of_receive hd.feeding hr,
        ⟨hd.readable.packets, hd.readable.held⟩, fun T hT => ?_, ?_⟩
      · have hall := hd.ahead (samples ++ T) (.frame hr hT)
        simpa [receiveSamples] using hall
      · simp [receiveSamples, ← hd.conserved]
  | nothing answer c hlevel hr ha =>
      rw [hd.codec] at hr
      obtain ⟨c', hfeed, ⟨xs, _, hr'⟩ | hr'⟩ := hk.receive d.codecContext hd.feeding
      · rw [hr'] at hr
        cases hr
        exact absurd rfl (ha xs)
      · rw [hr'] at hr
        cases hr
        exact ⟨hd.codec, hfeed, ⟨hd.readable.packets, hd.readable.held⟩,
          fun T hT => hd.ahead T (.nothing hr' hT), hd.conserved⟩

/-- Taking samples keeps the order. -/
theorem StreamInvariant.takeFromFifo (hd : StreamInvariant file feeding d) {n : Int}
    (hn : 0 ≤ n) : StreamInvariant file feeding (Decoder.takeFromFifo d n).1 := by
  rw [takeFromFifo_of_nonneg d hn]
  refine ⟨hd.codec, hd.feeding, ⟨hd.readable.packets, hd.readable.held⟩, hd.ahead, ?_⟩
  simpa only [List.append_assoc, List.take_append_drop] using hd.conserved

/-- **What was received is the front of the decoded stream.** -/
theorem StreamInvariant.received_prefix (hk : ObeysContract file.codec feeding)
    (hd : StreamInvariant file feeding d) {S : List α}
    (hS : DecodesTo file.codec file.codecContext
      (ownPackets file.findBestStream (packetsOf file.formatContext)) S) :
    ∃ T, d.log.received.flatten ++ T = S := by
  obtain ⟨T, hT⟩ := hk.exists_yields (pendingPackets d) hd.feeding
  exact ⟨T, (hS _).mp (hd.ahead T hT)⟩

/-- What neither fill call changes. -/
structure SameOutlet (d d' : AudioFileDecoder σ α) : Prop where
  capacity : d'.fifoCapacity = d.fifoCapacity
  channels : d'.channels = d.channels
  delivered : d'.log.delivered = d.log.delivered

theorem SameOutlet.pumpStep {e : AudioFileDecoder σ α} (hstep : PumpStep d d')
    (h : SameOutlet e d) : SameOutlet e d' := by
  cases hstep <;> exact ⟨h.capacity, h.channels, h.delivered⟩

theorem SameOutlet.fifoStep {e : AudioFileDecoder σ α} (hstep : FifoStep d d')
    (h : SameOutlet e d) : SameOutlet e d' := by
  cases hstep <;> exact ⟨h.capacity, h.channels, h.delivered⟩

/-- `FillDecoder` does not touch the FIFO. -/
theorem fifo_pumpStep (hstep : PumpStep d d') : d'.fifo = d.fifo := by
  cases hstep <;> rfl

/-- **`Consume` for a codec that keeps the contract**: it returns, gives
the front of a FIFO that is still in order, and that FIFO holds `n`
samples exactly when the decoder was supplied with `n`. -/
theorem consume_round (hk : ObeysContract file.codec feeding)
    (hd : StreamInvariant file feeding d) (n : Int) :
    ∃ filled bound, StreamInvariant file feeding filled ∧ SameOutlet d filled ∧
      (∀ fuel, bound ≤ fuel → consume fuel d n = .ok (takeFromFifo filled n)) ∧
      (n ≤ filled.fifo.length ↔ Supplied n d) := by
  obtain ⟨a, b₁, ha⟩ := fillDecoder_ends_of (I := StreamInvariant file feeding)
    (fun _ _ hs hI => hI.pumpStep hk hs) (fun _ hI hc => hI.offersWithoutError hk hc) hd
  have hinv₁ : StreamInvariant file feeding a ∧ SameOutlet d a ∧ a.fifo = d.fifo := by
    refine fillDecoder_preserves
      (fun s => StreamInvariant file feeding s ∧ SameOutlet d s ∧ s.fifo = d.fifo)
      ?_ ⟨hd, ⟨rfl, rfl, rfl⟩, rfl⟩ (ha b₁ le_rfl)
    intro s s' hs hI
    exact ⟨hI.1.pumpStep hk hs, hI.2.1.pumpStep hs, (fifo_pumpStep hs).trans hI.2.2⟩
  obtain ⟨hstream, hsame, hfifo⟩ := hinv₁
  obtain ⟨b, b₂, hb⟩ := fillFifo_ends (d := a)
    (hstream.codec ▸ hk.finite a.codecContext hstream.feeding)
  have hinv₂ : StreamInvariant file feeding b ∧ SameOutlet d b := by
    refine fillFifo_preserves (fun s => StreamInvariant file feeding s ∧ SameOutlet d s)
      ?_ ⟨hstream, hsame⟩ (hb b₂ le_rfl)
    intro s s' hs hI
    exact ⟨hI.1.fifoStep hk hs, hI.2.fifoStep hs⟩
  refine ⟨b, max b₁ b₂, hinv₂.1, hinv₂.2, fun fuel hle => ?_, ?_⟩
  · exact consume_of_fill (ha fuel (by omega)) (hb fuel (by omega)) n
  · rw [fillFifo_level (hb b₂ le_rfl) n, fillDecoder_offered hd.readable (ha b₁ le_rfl),
      hsame.capacity, hfifo, hstream.codec, ← hd.codec]
    rfl

/-- The same for the caller: what `Consume` stores and returns. -/
theorem consume_block (hk : ObeysContract file.codec feeding)
    (hd : StreamInvariant file feeding d) (n : Nat) :
    ∃ d' taken bound, StreamInvariant file feeding d' ∧
      d'.log.delivered = d.log.delivered ++ taken ∧
      (∀ fuel, bound ≤ fuel → consume fuel d n =
        .ok (d', { size := taken.length * 2 * d.channels, samples := taken })) ∧
      taken.length ≤ n ∧ (taken.length = n ↔ Supplied n d) := by
  obtain ⟨filled, bound, hfilled, hsame, hcons, hlevel⟩ := consume_round hk hd n
  have htake := takeFromFifo_of_nonneg filled (k := n) (by omega)
  rw [Int.toNat_natCast, hsame.channels, hsame.delivered] at htake
  have hstream : StreamInvariant file feeding (takeFromFifo filled n).1 :=
    hfilled.takeFromFifo (by omega)
  refine ⟨(takeFromFifo filled n).1, filled.fifo.take n, bound, hstream, ?_, ?_, ?_, ?_⟩
  · rw [htake]
  · intro fuel hle
    rw [hcons fuel hle, htake]
  · exact List.length_take_le n filled.fifo
  · rw [← hlevel, List.length_take]
    omega

end L4AudioMixer.Decoder
