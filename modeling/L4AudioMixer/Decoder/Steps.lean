/-
L4AudioMixer.Decoder.Steps — what `FillDecoder` and `FillFifo` can do,
said once.

`PumpStep` lists the single effects of `FillDecoder` on the decoder: a
failed read, a packet of another stream read and dropped, a packet of the
decoder's own stream read and held, the held packet accepted by the codec
or refused by it. A pass of the loop is one or two of these, and a whole
call is a chain of them (`fillDecoder_steps`), so a property of the pump
is proved for five small updates and never by unfolding the loop.
`FifoStep` does the same for `FillFifo`. `LogRecords` ties the log of a
decoder to the answers of its codec over a whole run.

Both loops end: `FillDecoder` for every codec that does not answer with
an error (`fillDecoder_ends`, the unread packets run out), `FillFifo` for
every codec that runs out of frames when it is given no further packet
(`fillFifo_ends`).
-/
import Mathlib.Logic.Relation
import L4AudioMixer.Decoder.AudioFileDecoder
import L4AudioMixer.Libav.CodecContract

namespace L4AudioMixer.Decoder

open L4AudioMixer.Lib
open L4AudioMixer.Libav

variable {σ α : Type}

/-! ## The effects of `FillDecoder` -/

/-- The decoder after `av_read_frame` gave a packet it keeps. -/
def holdPacket (d : AudioFileDecoder σ α) (p : AVPacket) (rest : AVFormatContext) :
    AudioFileDecoder σ α :=
  { d with
    formatContext := rest, packet := some p, packetConsumed := false
    log := { d.log with read := d.log.read ++ [p] } }

/-- The decoder after it dropped a packet of another stream. -/
def skipPacket (d : AudioFileDecoder σ α) (p : AVPacket) (rest : AVFormatContext) :
    AudioFileDecoder σ α :=
  { d with
    formatContext := rest, packet := none
    log := { d.log with read := d.log.read ++ [p] } }

/-- The decoder after the codec took the held packet. -/
def acceptPacket (d : AudioFileDecoder σ α) (c : σ) : AudioFileDecoder σ α :=
  { d with
    codecContext := c, packet := none, packetConsumed := true
    log := { d.log with accepted := d.log.accepted ++ d.packet.toList } }

/-- One effect of `FillDecoder`. -/
inductive PumpStep : AudioFileDecoder σ α → AudioFileDecoder σ α → Prop where
  | readFailed (d : AudioFileDecoder σ α) (rest : AVFormatContext)
      (hc : d.packetConsumed = true) (hr : avReadFrame d.formatContext = (.failure, rest)) :
      PumpStep d { d with formatContext := rest }
  | readForeign (d : AudioFileDecoder σ α) (p : AVPacket) (rest : AVFormatContext)
      (hc : d.packetConsumed = true) (hr : avReadFrame d.formatContext = (.packet p, rest))
      (hp : p.streamIndex ≠ d.streamNo) :
      PumpStep d (skipPacket d p rest)
  | readOwn (d : AudioFileDecoder σ α) (p : AVPacket) (rest : AVFormatContext)
      (hc : d.packetConsumed = true) (hr : avReadFrame d.formatContext = (.packet p, rest))
      (hp : p.streamIndex = d.streamNo) :
      PumpStep d (holdPacket d p rest)
  | sendAccepted (d : AudioFileDecoder σ α) (c : σ) (hc : d.packetConsumed = false)
      (hs : d.codec.sendPacket d.codecContext d.packet = (.ok, c)) :
      PumpStep d (acceptPacket d c)
  | sendRefused (d : AudioFileDecoder σ α) (answer : SendPacket) (c : σ)
      (hc : d.packetConsumed = false)
      (hs : d.codec.sendPacket d.codecContext d.packet = (answer, c)) (ha : answer ≠ .ok) :
      PumpStep d { d with codecContext := c }

/-- A chain of effects. -/
abbrev PumpSteps : AudioFileDecoder σ α → AudioFileDecoder σ α → Prop :=
  Relation.ReflTransGen PumpStep

theorem sendHeldPacket_next {d d' : AudioFileDecoder σ α} (hc : d.packetConsumed = false)
    (h : sendHeldPacket d = .next d') : PumpStep d d' := by
  unfold sendHeldPacket at h
  split at h
  · rename_i c hs
    cases h
    exact .sendAccepted d c hc hs
  · cases h
  · cases h
  · cases h

theorem sendHeldPacket_done {d d' : AudioFileDecoder σ α} (hc : d.packetConsumed = false)
    (h : sendHeldPacket d = .done (.ok d')) : PumpStep d d' := by
  unfold sendHeldPacket at h
  split at h
  · cases h
  · rename_i c hs
    cases h
    exact .sendRefused d .eagain c hc hs (by simp)
  · rename_i c hs
    cases h
    exact .sendRefused d .eof c hc hs (by simp)
  · cases h

/-- A pass that goes round again is a chain of effects. -/
theorem fillDecoderBody_next {d d' : AudioFileDecoder σ α}
    (h : fillDecoderBody d = .next d') : PumpSteps d d' := by
  unfold fillDecoderBody at h
  split at h
  · rename_i hc
    split at h
    · cases h
    · rename_i p rest hr
      simp only at h
      split at h
      · rename_i hp
        cases h
        exact .single (.readForeign d p rest hc hr hp)
      · rename_i hp
        have hown := PumpStep.readOwn d p rest hc hr (by simpa using hp)
        exact (Relation.ReflTransGen.single hown).tail
          (sendHeldPacket_next (d := holdPacket d p rest) rfl h)
  · rename_i hc
    exact .single (sendHeldPacket_next (by simpa using hc) h)

/-- A pass that leaves the loop is a chain of effects. -/
theorem fillDecoderBody_done {d d' : AudioFileDecoder σ α}
    (h : fillDecoderBody d = .done (.ok d')) : PumpSteps d d' := by
  unfold fillDecoderBody at h
  split at h
  · rename_i hc
    split at h
    · rename_i rest hr
      cases h
      exact .single (.readFailed d rest hc hr)
    · rename_i p rest hr
      simp only at h
      split at h
      · cases h
      · rename_i hp
        have hown := PumpStep.readOwn d p rest hc hr (by simpa using hp)
        exact (Relation.ReflTransGen.single hown).tail
          (sendHeldPacket_done (d := holdPacket d p rest) rfl h)
  · rename_i hc
    exact .single (sendHeldPacket_done (by simpa using hc) h)

/-- **A call of `FillDecoder` that returns is a chain of effects.** -/
theorem fillDecoder_steps {fuel : Nat} {d d' : AudioFileDecoder σ α}
    (h : fillDecoder fuel d = .ok d') : PumpSteps d d' := by
  unfold fillDecoder at h
  cases hl : loop fillDecoderBody fuel d with
  | none => simp [hl] at h
  | some r =>
      rw [hl, Option.getD_some] at h
      subst h
      -- the invariant of the loop is the chain from `d` to the current state
      refine loop_invariant (PumpSteps d) (fun r => ∀ d', r = .ok d' → PumpSteps d d')
        ?_ ?_ .refl hl d' rfl
      · intro s s' hs hb
        exact hs.trans (fillDecoderBody_next hb)
      · intro s r hs hb d'' hr
        subst hr
        exact hs.trans (fillDecoderBody_done hb)

/-- What every effect keeps, a chain of effects keeps. -/
theorem pumpSteps_preserve {I : AudioFileDecoder σ α → Prop}
    (hstep : ∀ d d', PumpStep d d' → I d → I d') {d d' : AudioFileDecoder σ α}
    (h : PumpSteps d d') (hd : I d) : I d' := by
  induction h with
  | refl => exact hd
  | tail _ hs ih => exact hstep _ _ hs ih

/-- What every effect keeps, a call of `FillDecoder` keeps. -/
theorem fillDecoder_preserves (I : AudioFileDecoder σ α → Prop)
    (hstep : ∀ d d', PumpStep d d' → I d → I d') {fuel : Nat} {d d' : AudioFileDecoder σ α}
    (hd : I d) (h : fillDecoder fuel d = .ok d') : I d' :=
  pumpSteps_preserve hstep (fillDecoder_steps h) hd

/-! ## `FillDecoder` ends -/

/-- A codec that answers `avcodec_send_packet` only with 0, `EAGAIN` and
`AVERROR_EOF`. -/
def SendsWithoutError (codec : Codec σ α) : Prop :=
  ∀ c p code, (codec.sendPacket c p).1 ≠ .error code

/-- The passes `FillDecoder` can still make: two for an unread packet,
one for a held one. -/
def passesLeft (d : AudioFileDecoder σ α) : Nat :=
  2 * d.formatContext.length + if d.packetConsumed then 0 else 1

theorem length_avReadFrame_packet {p : AVPacket} {s rest : AVFormatContext}
    (h : avReadFrame s = (.packet p, rest)) : s.length = rest.length + 1 := by
  cases s with
  | nil => simp [avReadFrame] at h
  | cons x xs => cases h; rfl

theorem sendHeldPacket_passesLeft {d d' : AudioFileDecoder σ α}
    (h : sendHeldPacket d = .next d') : passesLeft d' = 2 * d.formatContext.length := by
  unfold sendHeldPacket at h
  split at h
  · cases h
    rfl
  · cases h
  · cases h
  · cases h

theorem fillDecoderBody_passesLeft {d d' : AudioFileDecoder σ α}
    (h : fillDecoderBody d = .next d') : passesLeft d' < passesLeft d := by
  unfold fillDecoderBody at h
  split at h
  · rename_i hc
    split at h
    · cases h
    · rename_i p rest hr
      have hlen := length_avReadFrame_packet hr
      simp only at h
      split at h
      · cases h
        simp only [passesLeft, hc, if_true]
        omega
      · have hp := sendHeldPacket_passesLeft h
        simp only [passesLeft, hc, if_true] at hp ⊢
        omega
  · rename_i hc
    rw [sendHeldPacket_passesLeft h]
    simp [passesLeft, hc]

/-- The codec does not answer the offer of the held packet with an error. -/
def OffersWithoutError (d : AudioFileDecoder σ α) : Prop :=
  ∀ code, (d.codec.sendPacket d.codecContext d.packet).1 ≠ .error code

theorem sendHeldPacket_ok {d : AudioFileDecoder σ α}
    {r : Except Fault (AudioFileDecoder σ α)} (hk : OffersWithoutError d)
    (h : sendHeldPacket d = .done r) : ∃ d', r = .ok d' := by
  unfold sendHeldPacket at h
  split at h
  · cases h
  · cases h; exact ⟨_, rfl⟩
  · cases h; exact ⟨_, rfl⟩
  · rename_i code c hs
    exact absurd (congrArg Prod.fst hs) (hk code)

section Ends

variable {I : AudioFileDecoder σ α → Prop} (hstep : ∀ d d', PumpStep d d' → I d → I d')
  (hoffer : ∀ d, I d → d.packetConsumed = false → OffersWithoutError d)
include hstep hoffer

theorem fillDecoderBody_ok {d : AudioFileDecoder σ α}
    {r : Except Fault (AudioFileDecoder σ α)} (hd : I d)
    (h : fillDecoderBody d = .done r) : ∃ d', r = .ok d' := by
  unfold fillDecoderBody at h
  split at h
  · rename_i hc
    split at h
    · cases h; exact ⟨_, rfl⟩
    · rename_i p rest hr
      simp only at h
      split at h
      · cases h
      · rename_i hp
        have hheld : I (holdPacket d p rest) :=
          hstep _ _ (.readOwn d p rest hc hr (by simpa using hp)) hd
        exact sendHeldPacket_ok (hoffer _ hheld rfl) h
  · rename_i hc
    exact sendHeldPacket_ok (hoffer d hd (by simpa using hc)) h

/-- **`FillDecoder` returns**, under an invariant of the pump that rules
out error answers. -/
theorem fillDecoder_ends_of {d : AudioFileDecoder σ α} (hd : I d) :
    ∃ d' bound, ∀ fuel, bound ≤ fuel → fillDecoder fuel d = .ok d' := by
  have hacc : Acc (fun s' s => fillDecoderBody s = .next s') d :=
    acc_of_measure (fun _ => True) passesLeft
      (fun s s' _ hb => ⟨trivial, fillDecoderBody_passesLeft hb⟩) trivial
  obtain ⟨r, bound, hr⟩ := loop_terminates hacc
  have hok : ∃ d', r = .ok d' := by
    refine loop_invariant I (fun r => ∃ d', r = .ok d') ?_ ?_ hd (hr bound le_rfl)
    · intro s s' hs hb
      exact pumpSteps_preserve hstep (fillDecoderBody_next hb) hs
    · intro s r hs hb
      exact fillDecoderBody_ok hstep hoffer hs hb
  obtain ⟨d', rfl⟩ := hok
  refine ⟨d', bound, fun fuel hle => ?_⟩
  simp [fillDecoder, hr fuel hle]

end Ends

/-- No effect replaces the codec. -/
theorem codec_pumpStep {d d' : AudioFileDecoder σ α} (h : PumpStep d d') : d'.codec = d.codec := by
  cases h <;> rfl

/-- **`FillDecoder` returns**, from every state, for every codec that
does not answer with an error. -/
theorem fillDecoder_ends {d : AudioFileDecoder σ α} (hk : SendsWithoutError d.codec) :
    ∃ d' bound, ∀ fuel, bound ≤ fuel → fillDecoder fuel d = .ok d' := by
  refine fillDecoder_ends_of (I := fun s => s.codec = d.codec) ?_ ?_ rfl
  · intro s s' hs hI
    exact (codec_pumpStep hs).trans hI
  · intro s hI _ code
    rw [hI]
    exact hk s.codecContext s.packet code

/-! ## The effects of `FillFifo` -/

/-- The decoder after a frame was written to the FIFO. -/
def receiveSamples (d : AudioFileDecoder σ α) (c : σ) (samples : List α) :
    AudioFileDecoder σ α :=
  { d with
    codecContext := c, fifo := d.fifo ++ samples
    log := { d.log with received := d.log.received ++ [samples] } }

/-- One effect of `FillFifo`. -/
inductive FifoStep : AudioFileDecoder σ α → AudioFileDecoder σ α → Prop where
  | received (d : AudioFileDecoder σ α) (c : σ) (samples : List α)
      (hlevel : (d.fifo.length : Int) < d.fifoCapacity)
      (hr : d.codec.receiveFrame d.codecContext = (.frame samples, c)) :
      FifoStep d (receiveSamples d c samples)
  | nothing (d : AudioFileDecoder σ α) (answer : ReceiveFrame α) (c : σ)
      (hlevel : (d.fifo.length : Int) < d.fifoCapacity)
      (hr : d.codec.receiveFrame d.codecContext = (answer, c))
      (ha : ∀ samples, answer ≠ .frame samples) :
      FifoStep d { d with codecContext := c }

abbrev FifoSteps : AudioFileDecoder σ α → AudioFileDecoder σ α → Prop :=
  Relation.ReflTransGen FifoStep

theorem fillFifoBody_next {d d' : AudioFileDecoder σ α} (h : fillFifoBody d = .next d') :
    ∃ c samples, (d.fifo.length : Int) < d.fifoCapacity ∧
      d.codec.receiveFrame d.codecContext = (.frame samples, c) ∧
      d' = receiveSamples d c samples := by
  unfold fillFifoBody at h
  split at h
  · rename_i hlevel
    split at h
    · rename_i samples c hr
      cases h
      exact ⟨c, samples, hlevel, hr, rfl⟩
    · cases h
  · cases h

/-- A pass that leaves the loop leaves it at the capacity, or because
the codec had no frame. -/
theorem fillFifoBody_done {d d' : AudioFileDecoder σ α} (h : fillFifoBody d = .done d') :
    (d.fifoCapacity ≤ d.fifo.length ∧ d' = d) ∨
    ((d.fifo.length : Int) < d.fifoCapacity ∧
      ∃ answer c, d.codec.receiveFrame d.codecContext = (answer, c) ∧
        (∀ samples, answer ≠ .frame samples) ∧ d' = { d with codecContext := c }) := by
  unfold fillFifoBody at h
  split at h
  · rename_i hlevel
    split at h
    · cases h
    · rename_i answer c hne hr
      cases h
      exact .inr ⟨hlevel, answer, c, hr, hne, rfl⟩
  · rename_i hlevel
    cases h
    exact .inl ⟨by omega, rfl⟩

/-- **A call of `FillFifo` that returns is a chain of effects.** -/
theorem fillFifo_steps {fuel : Nat} {d d' : AudioFileDecoder σ α}
    (h : fillFifo fuel d = .ok d') : FifoSteps d d' := by
  unfold fillFifo at h
  split at h
  · cases h
  · rename_i r hl
    cases h
    refine loop_invariant (FifoSteps d) (FifoSteps d) ?_ ?_ .refl hl
    · intro s s' hs hb
      obtain ⟨c, samples, hlevel, hr, rfl⟩ := fillFifoBody_next hb
      exact hs.tail (.received s c samples hlevel hr)
    · intro s r hs hb
      rcases fillFifoBody_done hb with ⟨_, rfl⟩ | ⟨hlevel, answer, c, hr, ha, rfl⟩
      · exact hs
      · exact hs.tail (.nothing s answer c hlevel hr ha)

/-- What every effect keeps, a call of `FillFifo` keeps. -/
theorem fillFifo_preserves (I : AudioFileDecoder σ α → Prop)
    (hstep : ∀ d d', FifoStep d d' → I d → I d') {fuel : Nat} {d d' : AudioFileDecoder σ α}
    (hd : I d) (h : fillFifo fuel d = .ok d') : I d' := by
  have hsteps := fillFifo_steps h
  clear h
  induction hsteps with
  | refl => exact hd
  | tail _ hs ih => exact hstep _ _ hs ih

/-! ## What the log records -/

/-- The packets and frames in the log of a decoder are those its codec
took and gave, in order, from the state `file` left it in. -/
structure LogRecords (file : MediaFile σ α) (d : AudioFileDecoder σ α) : Prop where
  codec : d.codec = file.codec
  exchanged : Exchanged file.codec file.codecContext d.log.accepted d.log.received
    d.codecContext

section Log

variable {file : MediaFile σ α} {d d' : AudioFileDecoder σ α}

theorem LogRecords.opened (file : MediaFile σ α) (fifoCapacity : Int) :
    LogRecords file (Decoder.opened file fifoCapacity) where
  codec := rfl
  exchanged := .start

/-- `FillDecoder` logs a packet exactly when the codec takes it. -/
theorem LogRecords.pumpStep (hstep : PumpStep d d') (hd : LogRecords file d) :
    LogRecords file d' := by
  cases hstep with
  | readFailed rest hc hr => exact ⟨hd.codec, hd.exchanged⟩
  | readForeign p rest hc hr hp => exact ⟨hd.codec, hd.exchanged⟩
  | readOwn p rest hc hr hp => exact ⟨hd.codec, hd.exchanged⟩
  | sendAccepted c hc hs =>
      rw [hd.codec] at hs
      exact ⟨hd.codec, hd.exchanged.accepted hs⟩
  | sendRefused answer c hc hs ha =>
      rw [hd.codec] at hs
      exact ⟨hd.codec, hd.exchanged.refused hs ha⟩

/-- `FillFifo` logs exactly the frames the codec gives. -/
theorem LogRecords.fifoStep (hstep : FifoStep d d') (hd : LogRecords file d) :
    LogRecords file d' := by
  cases hstep with
  | received c samples hlevel hr =>
      rw [hd.codec] at hr
      exact ⟨hd.codec, hd.exchanged.frame hr⟩
  | nothing answer c hlevel hr ha =>
      rw [hd.codec] at hr
      exact ⟨hd.codec, hd.exchanged.noFrame hr ha⟩

end Log

/-! ## `FillFifo` ends -/

/-- A codec that, without a further packet, runs out of frames. -/
def RunsOutOfFrames (codec : Codec σ α) : Prop :=
  ∀ c, ∃ n, ¬ YieldsFrames codec n c

theorem fillFifo_acc {n : Nat} {d : AudioFileDecoder σ α}
    (h : ¬ YieldsFrames d.codec n d.codecContext) :
    Acc (fun s' s => fillFifoBody s = .next s') d := by
  -- induction on the number of frames the codec cannot deliver in a row
  induction n generalizing d with
  | zero => exact absurd trivial h
  | succ n ih =>
      refine ⟨d, fun d' hb => ?_⟩
      obtain ⟨c, samples, _, hr, rfl⟩ := fillFifoBody_next hb
      exact ih (fun hy => h ⟨samples, c, hr, hy⟩)

/-- **`FillFifo` returns** when the codec runs out of frames. -/
theorem fillFifo_ends {d : AudioFileDecoder σ α}
    (hk : ∃ n, ¬ YieldsFrames d.codec n d.codecContext) :
    ∃ d' bound, ∀ fuel, bound ≤ fuel → fillFifo fuel d = .ok d' := by
  obtain ⟨n, hn⟩ := hk
  obtain ⟨d', bound, hr⟩ := loop_terminates (fillFifo_acc hn)
  refine ⟨d', bound, fun fuel hle => ?_⟩
  simp [fillFifo, hr fuel hle]

end L4AudioMixer.Decoder
