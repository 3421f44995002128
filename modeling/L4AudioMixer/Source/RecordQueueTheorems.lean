/-
L4AudioMixer.Source.RecordQueueTheorems — recorded data is a lossless
queue.

`AudioRecordSource` keeps an array that grows by appends and shrinks by an
overlapping `memmove`. What it is for is a `Lib.BlockQueue`: chunks of any
size go in, blocks of `real_buffer_num_elements_` elements come out.
`Refines` relates the two by their contents; `onAudioRecorded_refines` and
`takeFrame_normal` show that each call simulates the queue's operation,
and `run_refines` follows a whole interleaving of calls, where the queue
remembers everything that was ever recorded.
-/
import Mathlib.Algebra.Order.Ring.Int
import L4AudioMixer.Lib.BlockQueue
import L4AudioMixer.Lib.Machine
import L4AudioMixer.Source.AudioRecordSource

namespace L4AudioMixer.Source

open L4AudioMixer.Lib
open L4AudioMixer.WebRtc

/-- The parameters with which a mixer builds record sources: positive
rate and channel count whose product is an `int32_t`, a frame duration of
one to ten milliseconds, and a 10 ms frame that fits `AudioFrame` (what
the mixer constructor's own `UpdateFrame` call checks). -/
structure RecordSettings where
  sampleRate : Int
  channelNum : Int
  frameDurationMs : Int
  rate_pos : 0 < sampleRate
  channels_pos : 0 < channelNum
  duration_pos : 1 ≤ frameDurationMs
  duration_le : frameDurationMs ≤ 10
  product_fits : IsInt32 (channelNum * sampleRate)
  frame_fits : sampleRate.tdiv 100 * channelNum ≤ 3840

namespace RecordSettings

variable (p : RecordSettings)

/-- `report_output_samples_`. -/
def reportOutputSamples : Int := p.sampleRate.tdiv 100

/-- `real_buffer_num_elements_`. -/
def realBufferNumElements : Int :=
  (p.channelNum * p.sampleRate).tdiv (Int.tdiv 1000 p.frameDurationMs)

/-- The number of elements one block of the queue has. -/
def blockSize : Nat := p.realBufferNumElements.toNat

/-- The number of elements one 10 ms frame declares. -/
def frameSize : Nat := (p.reportOutputSamples * p.channelNum).toNat

theorem framesPerSecond_pos : 0 < Int.tdiv 1000 p.frameDurationMs := by
  have hlow := p.duration_pos
  have hhigh := p.duration_le
  exact tdiv_pos_of_le (by omega) (by omega)

theorem product_nonneg : 0 ≤ p.channelNum * p.sampleRate :=
  Int.mul_nonneg (Int.le_of_lt p.channels_pos) (Int.le_of_lt p.rate_pos)

theorem report_nonneg : 0 ≤ p.reportOutputSamples :=
  Int.tdiv_nonneg (Int.le_of_lt p.rate_pos) (by omega)

/-- A factor of the product is an `int32_t` too. -/
theorem isInt32_channelNum : IsInt32 p.channelNum := by
  obtain ⟨_, hhigh⟩ := p.product_fits
  have hrate := p.rate_pos
  have hch := p.channels_pos
  have hle : p.channelNum ≤ p.channelNum * p.sampleRate :=
    le_mul_of_one_le_right (by omega) (by omega)
  constructor <;> omega

theorem isInt32_sampleRate : IsInt32 p.sampleRate := by
  obtain ⟨_, hhigh⟩ := p.product_fits
  have hrate := p.rate_pos
  have hch := p.channels_pos
  have hle : p.sampleRate ≤ p.channelNum * p.sampleRate :=
    le_mul_of_one_le_left (by omega) (by omega)
  constructor <;> omega

/-- The block size is not changed by its conversion to `size_t`. -/
theorem toSizeT_realBufferNumElements (abi : Abi) :
    toSizeT abi p.realBufferNumElements = p.blockSize := by
  have hq := Int.le_of_lt p.framesPerSecond_pos
  exact toSizeT_of_nonneg abi (Int.tdiv_nonneg p.product_nonneg hq)
    (isInt32_tdiv_of_nonneg p.product_nonneg hq p.product_fits)

/-- The length `UpdateFrame` computes is the frame size, and fits. -/
theorem length_updateFrame (abi : Abi) :
    toSizeT abi p.reportOutputSamples * toSizeT abi p.channelNum % abi.sizeModulus
      = p.frameSize ∧ p.frameSize ≤ kMaxDataSizeSamples := by
  have hch := Int.le_of_lt p.channels_pos
  have hrep : toSizeT abi p.reportOutputSamples = p.reportOutputSamples.toNat :=
    toSizeT_of_nonneg abi p.report_nonneg
      (isInt32_tdiv_of_nonneg (Int.le_of_lt p.rate_pos) (by omega) p.isInt32_sampleRate)
  have hnum : toSizeT abi p.channelNum = p.channelNum.toNat :=
    toSizeT_of_nonneg abi hch p.isInt32_channelNum
  have hfits : p.frameSize ≤ kMaxDataSizeSamples := by
    have := p.frame_fits
    simp only [frameSize, reportOutputSamples, kMaxDataSizeSamples]
    omega
  refine ⟨?_, hfits⟩
  rw [hrep, hnum, ← Int.toNat_mul p.report_nonneg hch]
  apply Nat.mod_eq_of_lt
  have : kMaxDataSizeSamples < abi.sizeModulus := by
    cases abi <;> simp [kMaxDataSizeSamples, Abi.sizeModulus]
  exact Nat.lt_of_le_of_lt hfits this

end RecordSettings

/-! ## Single calls -/

/-- The source has the settings' sizes, and its buffer holds what the
queue holds. -/
structure Refines (p : RecordSettings) (q : BlockQueue Int16 p.blockSize)
    (s : AudioRecordSource) : Prop where
  sampleRate : s.sampleRate = p.sampleRate
  channelNum : s.channelNum = p.channelNum
  reportOutputSamples : s.reportOutputSamples = p.reportOutputSamples
  realBufferNumElements : s.realBufferNumElements = p.realBufferNumElements
  contents : s.buffer.contents = q.contents

variable {p : RecordSettings} {q : BlockQueue Int16 p.blockSize} {s : AudioRecordSource}

theorem Refines.size (h : Refines p q s) : s.buffer.size = q.contents.length := by
  rw [← h.contents, BufferT.length_contents]

/-- The constructor returns, and a new source refines the empty queue. -/
theorem create_refines (p : RecordSettings) (ssrc : Int32) (volume : Float32)
    (uninit : Nat → Int16) :
    ∃ s, AudioRecordSource.create ssrc p.sampleRate p.channelNum p.frameDurationMs volume uninit
        = .ok s ∧ Refines p BlockQueue.empty s := by
  have hlow := p.duration_pos
  have hq := p.framesPerSecond_pos
  refine ⟨{ volume := volume, ssrc := ssrc, sampleRate := p.sampleRate
            channelNum := p.channelNum, frameDurationMs := p.frameDurationMs
            reportOutputSamples := p.reportOutputSamples
            realBufferNumElements := p.realBufferNumElements
            buffer := BufferT.empty uninit }, ?_, ?_⟩
  · simp only [AudioRecordSource.create]
    rw [divInt32_of_pos (by omega), mulInt32_of_fits p.product_fits,
      divInt32_of_pos (by omega)]
    simp only [bind, Except.bind]
    rw [divInt32_of_pos hq]
    rfl
  · exact ⟨rfl, rfl, rfl, rfl, by simp⟩

/-- The `int16_t` values of a recorded chunk. -/
def chunk (data : Nat → UInt8) (size : Int) : List Int16 :=
  firstN (AudioRecordSource.asInt16 data) (size.toNat / 2)

/-- **`OnAudioRecorded` pushes its chunk.** -/
theorem onAudioRecorded_refines (abi : Abi) (h : Refines p q s) (data : Nat → UInt8)
    {size : Int} (hsize : 0 ≤ size) (h32 : IsInt32 size) (uninit : Nat → Int16) :
    ∃ s', s.onAudioRecorded abi data size uninit = .ok s' ∧
      Refines p (q.push (chunk data size)) s' := by
  have hn : toSizeT abi size = size.toNat := toSizeT_of_nonneg abi hsize h32
  have hsmall : size.toNat / 2 * 2 ≤ abi.maxObjectBytes := by
    obtain ⟨_, hhigh⟩ := h32
    cases abi <;> simp only [Abi.maxObjectBytes] <;> omega
  obtain ⟨b, hb, hcontents⟩ := s.buffer.appendData_of_le (AudioRecordSource.asInt16 data)
    uninit hsmall
  refine ⟨{ s with buffer := b }, ?_, ?_⟩
  · simp only [AudioRecordSource.onAudioRecorded, hn, hb]
    rfl
  · refine ⟨h.sampleRate, h.channelNum, h.reportOutputSamples, h.realBufferNumElements, ?_⟩
    rw [hcontents, h.contents, BlockQueue.contents_push]
    rfl

/-- A call at another rate is answered `kError`. -/
theorem takeFrame_error (abi : Abi) (h : Refines p q s) {hz : Int} (hhz : hz ≠ p.sampleRate)
    (frame : AudioFrame) (uninit : Nat → Int16) :
    s.takeFrame abi hz frame uninit = .ok (.kError, frame, s) := by
  have hne : hz ≠ s.sampleRate := by rw [h.sampleRate]; exact hhz
  simp only [AudioRecordSource.takeFrame, if_pos hne]
  rfl

/-- A call without a whole block is answered `kMuted`. -/
theorem takeFrame_muted (abi : Abi) (h : Refines p q s) {hz : Int} (hhz : hz = p.sampleRate)
    (hlen : q.contents.length < p.blockSize) (frame : AudioFrame) (uninit : Nat → Int16) :
    s.takeFrame abi hz frame uninit = .ok (.kMuted, frame, s) := by
  have heq : ¬ hz ≠ s.sampleRate := by rw [h.sampleRate]; simpa using hhz
  have hlt : s.buffer.size < toSizeT abi s.realBufferNumElements := by
    rw [h.realBufferNumElements, p.toSizeT_realBufferNumElements, h.size]
    exact hlen
  simp only [AudioRecordSource.takeFrame, if_neg heq, if_pos hlt]
  rfl

/-- The first elements of a frame, as a reader of the frame sees them. -/
def leading (frame : AudioFrame) (k : Nat) : List Int16 := firstN frame.data k

/-- **A call with a whole block pops it**: the frame starts with the
block, as far as the frame goes. -/
theorem takeFrame_normal (abi : Abi) (h : Refines p q s) {hz : Int} (hhz : hz = p.sampleRate)
    (hlen : p.blockSize ≤ q.contents.length) (frame : AudioFrame) (uninit : Nat → Int16) :
    ∃ taken s', s.takeFrame abi hz frame uninit = .ok (.kNormal, taken, s') ∧
      Refines p (q.pop hlen) s' ∧
      leading taken (min p.blockSize p.frameSize)
        = q.contents.take (min p.blockSize p.frameSize) := by
  have heq : ¬ hz ≠ s.sampleRate := by rw [h.sampleRate]; simpa using hhz
  have hn : toSizeT abi s.realBufferNumElements = p.blockSize := by
    rw [h.realBufferNumElements, p.toSizeT_realBufferNumElements]
  have hge : ¬ s.buffer.size < p.blockSize := by rw [h.size]; omega
  obtain ⟨hlength, hfits⟩ := p.length_updateFrame abi
  rw [← h.reportOutputSamples, ← h.channelNum] at hlength
  have hupdate : ∃ taken, frame.updateFrame abi 0 s.buffer.data
        (toSizeT abi s.reportOutputSamples) s.sampleRate .kNormalSpeech .kVadActive
        (toSizeT abi s.channelNum) = .ok taken ∧
      leading taken (min p.blockSize p.frameSize)
        = q.contents.take (min p.blockSize p.frameSize) := by
    simp only [AudioFrame.updateFrame, hlength, if_pos hfits]
    refine ⟨_, rfl, ?_⟩
    by_cases hcap : s.buffer.capacity = 0
    · -- nothing was ever allocated: the block is empty and the frame muted
      have hsize : s.buffer.size = 0 := by
        have := s.buffer.consistent
        omega
      have hzero : min p.blockSize p.frameSize = 0 := by omega
      simp [hzero, leading]
    · have hmin : min p.blockSize p.frameSize ≤ s.buffer.size := by omega
      simp only [leading, AudioFrame.data, BufferT.data, if_neg hcap, Option.isNone_some,
        Bool.false_eq_true, if_false]
      rw [firstN_copy_front _ _ (Nat.min_le_right _ _), ← h.contents, BufferT.contents,
        take_firstN _ hmin]
  obtain ⟨taken, htaken, hlead⟩ := hupdate
  refine ⟨taken,
    { s with
      buffer := (s.buffer.moveToFront p.blockSize (s.buffer.size - p.blockSize)).setSize
        (s.buffer.size - p.blockSize) uninit }, ?_, ?_, hlead⟩
  · simp only [AudioRecordSource.takeFrame, if_neg heq, hn, if_neg hge, htaken]
    rfl
  · refine ⟨h.sampleRate, h.channelNum, h.reportOutputSamples, h.realBufferNumElements, ?_⟩
    rw [BufferT.contents_moveToFront_setSize, h.contents, BlockQueue.contents_pop]

/-- The frame a call gives back: one that was taken has `ApplyVolume`
behind it. -/
def AudioRecordSource.handedOut (s : AudioRecordSource) (scaleWithSat : ScaleWithSat)
    (info : AudioFrameInfo) (taken : AudioFrame) : AudioFrame :=
  if info = .kNormal then applyVolume scaleWithSat s.volume taken else taken

/-- A frame call leaves the volume as it is. -/
theorem volume_of_takeFrame {abi : Abi} {hz : Int} {frame taken : AudioFrame}
    {uninit : Nat → Int16} {info : AudioFrameInfo} {s' : AudioRecordSource}
    (h : s.takeFrame abi hz frame uninit = .ok (info, taken, s')) : s'.volume = s.volume := by
  unfold AudioRecordSource.takeFrame at h
  split at h
  · cases h
    rfl
  · simp only at h
    split at h
    · cases h
      rfl
    · obtain ⟨_, -, hret⟩ := bind_eq_ok.mp h
      cases hret
      rfl

/-- **`ApplyVolume` is the last step** of a frame call. -/
theorem getAudioFrameWithInfo_of_takeFrame {abi : Abi} (scaleWithSat : ScaleWithSat)
    {hz : Int} {frame taken : AudioFrame} {uninit : Nat → Int16} {info : AudioFrameInfo}
    {s' : AudioRecordSource} (h : s.takeFrame abi hz frame uninit = .ok (info, taken, s')) :
    s.getAudioFrameWithInfo abi scaleWithSat hz frame uninit
      = .ok (info, s.handedOut scaleWithSat info taken, s') := by
  simp only [AudioRecordSource.getAudioFrameWithInfo, h, bind, Except.bind,
    AudioRecordSource.handedOut]
  by_cases hinfo : info = .kNormal
  · rw [if_pos hinfo, if_pos hinfo, volume_of_takeFrame h]
    rfl
  · rw [if_neg hinfo, if_neg hinfo]
    rfl

/-! ## Interleavings of calls -/

/-- The two calls a record source takes. -/
inductive RecordOp where
  | onAudioRecorded (data : Nat → UInt8) (size : Int32) (uninit : Nat → Int16)
  | getAudioFrameWithInfo (hz : Int) (frame : AudioFrame) (uninit : Nat → Int16)

/-- What a call gives back; for a frame, also as it was before
`ApplyVolume`. -/
inductive RecordReply where
  | recorded
  | answered (info : AudioFrameInfo) (taken final : AudioFrame)

/-- The record source as a machine. A frame call is `getAudioFrameWithInfo`
with the frame shown in front of `ApplyVolume` too (`step_getAudioFrameWithInfo`). -/
def recordMachine (abi : Abi) (scaleWithSat : ScaleWithSat) :
    Machine AudioRecordSource RecordOp RecordReply Fault where
  step s
    | .onAudioRecorded data size uninit => do
        let s' ← s.onAudioRecorded abi data size.toInt uninit
        return (s', .recorded)
    | .getAudioFrameWithInfo hz frame uninit => do
        let (info, taken, s') ← s.takeFrame abi hz frame uninit
        return (s', .answered info taken (s.handedOut scaleWithSat info taken))

/-- **A frame call of the machine is `GetAudioFrameWithInfo`**, with the
frame it had in front of `ApplyVolume`. -/
theorem step_getAudioFrameWithInfo {abi : Abi} {scaleWithSat : ScaleWithSat} {hz : Int}
    {frame taken final : AudioFrame} {uninit : Nat → Int16} {info : AudioFrameInfo}
    {s' : AudioRecordSource} :
    (recordMachine abi scaleWithSat).step s (.getAudioFrameWithInfo hz frame uninit)
        = .ok (s', .answered info taken final) ↔
      s.takeFrame abi hz frame uninit = .ok (info, taken, s') ∧
        s.getAudioFrameWithInfo abi scaleWithSat hz frame uninit = .ok (info, final, s') := by
  simp only [recordMachine, bind_eq_ok]
  constructor
  · rintro ⟨⟨info₁, taken₁, s₁⟩, htake, hret⟩
    cases hret
    exact ⟨htake, getAudioFrameWithInfo_of_takeFrame scaleWithSat htake⟩
  · rintro ⟨htake, hget⟩
    rw [getAudioFrameWithInfo_of_takeFrame scaleWithSat htake] at hget
    cases hget
    exact ⟨_, htake, rfl⟩

/-- Recording calls have a size that is not negative. -/
def RecordOp.NonNeg : RecordOp → Prop
  | .onAudioRecorded _ size _ => 0 ≤ size.toInt
  | .getAudioFrameWithInfo _ _ _ => True

instance : DecidablePred RecordOp.NonNeg
  | .onAudioRecorded _ size _ => inferInstanceAs (Decidable (0 ≤ size.toInt))
  | .getAudioFrameWithInfo _ _ _ => inferInstanceAs (Decidable True)

/-- Recording calls have an even size. -/
def RecordOp.EvenSize : RecordOp → Prop
  | .onAudioRecorded _ size _ => size.toInt.toNat % 2 = 0
  | .getAudioFrameWithInfo _ _ _ => True

instance : DecidablePred RecordOp.EvenSize
  | .onAudioRecorded _ size _ => inferInstanceAs (Decidable (size.toInt.toNat % 2 = 0))
  | .getAudioFrameWithInfo _ _ _ => inferInstanceAs (Decidable True)

/-- What a call records. -/
def RecordOp.elements : RecordOp → List Int16
  | .onAudioRecorded data size _ => chunk data size.toInt
  | .getAudioFrameWithInfo _ _ _ => []

/-- Everything a sequence of calls records, in order. -/
def recorded (ops : List RecordOp) : List Int16 := ops.flatMap RecordOp.elements

/-- The number of `kNormal` answers. -/
def normals (replies : List RecordReply) : Nat :=
  replies.countP fun
    | .answered .kNormal _ _ => true
    | _ => false

/-- The answers of a sequence of calls: the result, and for `kNormal` the
first `k` elements of the frame. -/
def results (k : Nat) (replies : List RecordReply) : List (AudioFrameInfo × List Int16) :=
  replies.filterMap fun
    | .recorded => none
    | .answered info taken _ => some (info, if info = .kNormal then leading taken k else [])

/-- The answer the queue gives after `popped` blocks to a call at rate
`hz`, when `pushed` was recorded. -/
def RecordSettings.answer (p : RecordSettings) (popped : Nat) (pushed : List Int16) (hz : Int) :
    AudioFrameInfo × List Int16 :=
  let contents := pushed.drop (popped * p.blockSize)
  if hz ≠ p.sampleRate then (.kError, [])
  else if contents.length < p.blockSize then (.kMuted, [])
  else (.kNormal, contents.take (min p.blockSize p.frameSize))

/-- The answer to a call, for the calls that have one. -/
def RecordSettings.answersTo (p : RecordSettings) (popped : Nat) (pushed : List Int16) :
    RecordOp → List (AudioFrameInfo × List Int16)
  | .onAudioRecorded _ _ _ => []
  | .getAudioFrameWithInfo hz _ _ => [p.answer popped pushed hz]

/-- One call simulates one operation of the queue. -/
theorem recordMachine_step (abi : Abi) (scaleWithSat : ScaleWithSat) (h : Refines p q s)
    (op : RecordOp) (hop : op.NonNeg) :
    ∃ s' reply q', (recordMachine abi scaleWithSat).step s op = .ok (s', reply) ∧
      Refines p q' s' ∧ q'.pushed = q.pushed ++ op.elements ∧
      q'.popped = q.popped + normals [reply] ∧
      results (min p.blockSize p.frameSize) [reply] = p.answersTo q.popped q.pushed op := by
  cases op with
  | onAudioRecorded data size uninit =>
      obtain ⟨s', hs', href⟩ := onAudioRecorded_refines abi h data hop (isInt32_toInt size) uninit
      refine ⟨s', .recorded, _, ?_, href, rfl, rfl, rfl⟩
      simp only [recordMachine, hs']
      rfl
  | getAudioFrameWithInfo hz frame uninit =>
      -- the three answers, each with the state it leaves
      have key : ∃ info taken s' q', s.takeFrame abi hz frame uninit = .ok (info, taken, s') ∧
          Refines p q' s' ∧ q'.pushed = q.pushed ∧
          q'.popped = q.popped + normals [.answered info taken taken] ∧
          (info, if info = .kNormal then leading taken (min p.blockSize p.frameSize) else [])
            = p.answer q.popped q.pushed hz := by
        by_cases hhz : hz = p.sampleRate
        · by_cases hlen : q.contents.length < p.blockSize
          · refine ⟨_, _, s, q, takeFrame_muted abi h hhz hlen frame uninit, h, rfl, rfl, ?_⟩
            rw [BlockQueue.contents] at hlen
            have hanswer : p.answer q.popped q.pushed hz = (.kMuted, []) := by
              simp only [RecordSettings.answer]
              rw [if_neg (by simpa using hhz), if_pos hlen]
            rw [hanswer]
            rfl
          · obtain ⟨taken, s', htake, href, hlead⟩ :=
              takeFrame_normal abi h hhz (Nat.le_of_not_lt hlen) frame uninit
            refine ⟨_, taken, s', _, htake, href, rfl, rfl, ?_⟩
            rw [BlockQueue.contents] at hlen hlead
            rw [if_pos rfl, hlead]
            simp only [RecordSettings.answer]
            rw [if_neg (by simpa using hhz), if_neg hlen]
        · refine ⟨_, _, s, q, takeFrame_error abi h hhz frame uninit, h, rfl, rfl, ?_⟩
          simp [RecordSettings.answer, hhz]
      obtain ⟨info, taken, s', q', htake, href, hpushed, hpopped, hanswer⟩ := key
      refine ⟨s', .answered info taken (s.handedOut scaleWithSat info taken), q', ?_, href, ?_,
        ?_, ?_⟩
      · simp only [recordMachine, htake]
        rfl
      · rw [hpushed, RecordOp.elements, List.append_nil]
      · rw [hpopped]
        cases info <;> rfl
      · simp only [RecordSettings.answersTo]
        rw [← hanswer]
        rfl

/-- What has been recorded before each frame call, with the rate asked for. -/
def schedule : List Int16 → List RecordOp → List (Int × List Int16)
  | _, [] => []
  | pushed, .onAudioRecorded data size _ :: ops => schedule (pushed ++ chunk data size.toInt) ops
  | pushed, .getAudioFrameWithInfo hz _ _ :: ops => (hz, pushed) :: schedule pushed ops

/-- The answers to a schedule, a block being popped for every `kNormal`. -/
def RecordSettings.answers (p : RecordSettings) :
    Nat → List (Int × List Int16) → List (AudioFrameInfo × List Int16)
  | _, [] => []
  | popped, (hz, pushed) :: rest =>
      let answer := p.answer popped pushed hz
      answer :: p.answers (popped + if answer.1 = .kNormal then 1 else 0) rest

theorem normals_cons (reply : RecordReply) (replies : List RecordReply) :
    normals (reply :: replies) = normals [reply] + normals replies := by
  simp only [normals, List.countP_cons, List.countP_nil]
  omega

theorem results_cons (k : Nat) (reply : RecordReply) (replies : List RecordReply) :
    results k (reply :: replies) = results k [reply] ++ results k replies := by
  cases reply <;> rfl

/-- A single answer counts as a popped block exactly when it is `kNormal`. -/
theorem normals_of_results {k : Nat} {reply : RecordReply}
    {answer : AudioFrameInfo × List Int16} (h : results k [reply] = [answer]) :
    normals [reply] = if answer.1 = .kNormal then 1 else 0 := by
  cases reply with
  | recorded => simp [results] at h
  | answered info taken final =>
      simp only [results, List.filterMap_cons, List.filterMap_nil, List.cons.injEq,
        and_true] at h
      subst h
      cases info <;> rfl

/-- **A whole interleaving simulates the queue**: every call returns, the
queue has all that was recorded and has popped one block for each
`kNormal`, and the answers are those of the schedule. -/
theorem run_refines (abi : Abi) (scaleWithSat : ScaleWithSat) (h : Refines p q s)
    (ops : List RecordOp) (hops : ∀ op ∈ ops, op.NonNeg) :
    ∃ s' replies q', (recordMachine abi scaleWithSat).run s ops = .ok (s', replies) ∧
      Refines p q' s' ∧ q'.pushed = q.pushed ++ recorded ops ∧
      q'.popped = q.popped + normals replies ∧
      results (min p.blockSize p.frameSize) replies
        = p.answers q.popped (schedule q.pushed ops) := by
  induction ops generalizing s q with
  | nil => exact ⟨s, [], q, rfl, h, by simp [recorded], rfl, rfl⟩
  | cons op ops ih =>
      obtain ⟨s₁, reply, q₁, hstep, href₁, hpushed₁, hpopped₁, hres₁⟩ :=
        recordMachine_step abi scaleWithSat h op (hops op (by simp))
      obtain ⟨s₂, replies, q₂, hrun, href₂, hpushed₂, hpopped₂, hres₂⟩ :=
        ih href₁ (fun o ho => hops o (by simp [ho]))
      refine ⟨s₂, reply :: replies, q₂, Machine.run_cons hstep hrun, href₂, ?_, ?_, ?_⟩
      · rw [hpushed₂, hpushed₁]
        simp [recorded]
      · rw [hpopped₂, hpopped₁, normals_cons reply replies, Nat.add_assoc]
      · rw [results_cons, hres₁, hres₂, hpushed₁, hpopped₁]
        cases op with
        | onAudioRecorded data size uninit =>
            -- a recording call has no answer, so nothing was popped
            have hzero : normals [reply] = 0 := by
              cases reply with
              | recorded => rfl
              | answered info taken final => simp [results, RecordSettings.answersTo] at hres₁
            rw [hzero]
            rfl
        | getAudioFrameWithInfo hz frame uninit =>
            rw [normals_of_results hres₁]
            simp only [RecordOp.elements, List.append_nil]
            rfl

/-! ## Chunks as bytes -/

/-- The `int16_t` values of a list of bytes; an odd last byte is left. -/
def int16s : List UInt8 → List Int16
  | low :: high :: rest => AudioRecordSource.int16OfBytes low high :: int16s rest
  | _ => []

theorem int16s_append : ∀ (xs ys : List UInt8), xs.length % 2 = 0 →
    int16s (xs ++ ys) = int16s xs ++ int16s ys
  | [], ys, _ => by simp [int16s]
  | [x], ys, h => by simp at h
  | low :: high :: rest, ys, h => by
      have hrest : rest.length % 2 = 0 := by
        simp only [List.length_cons] at h
        omega
      simp only [List.cons_append, int16s]
      rw [int16s_append rest ys hrest]

/-- Reading half as many values is reading the bytes in pairs. -/
theorem firstN_asInt16 : ∀ (n : Nat) (data : Nat → UInt8),
    firstN (AudioRecordSource.asInt16 data) (n / 2) = int16s (firstN data n)
  | 0, data => rfl
  | 1, data => rfl
  | n + 2, data => by
      have hhalf : (n + 2) / 2 = n / 2 + 1 := by omega
      have hshift : (fun i => AudioRecordSource.asInt16 data (i + 1))
          = AudioRecordSource.asInt16 (fun i => data (i + 1 + 1)) := by
        funext i
        simp only [AudioRecordSource.asInt16, Nat.mul_add]
      rw [hhalf, firstN_succ, hshift, firstN_asInt16 n, firstN_succ, firstN_succ, int16s]
      rfl

/-- The bytes recorded before each frame call, with the rate asked for. -/
def byteSchedule : List UInt8 → List RecordOp → List (Int × List UInt8)
  | _, [] => []
  | bytes, .onAudioRecorded data size _ :: ops =>
      byteSchedule (bytes ++ firstN data size.toInt.toNat) ops
  | bytes, .getAudioFrameWithInfo hz _ _ :: ops => (hz, bytes) :: byteSchedule bytes ops

/-- For chunks of even size the recorded values are those of the bytes. -/
theorem schedule_int16s (ops : List RecordOp) (heven : ∀ op ∈ ops, op.EvenSize)
    (bytes : List UInt8) (hbytes : bytes.length % 2 = 0) :
    schedule (int16s bytes) ops
      = (byteSchedule bytes ops).map (fun call => (call.1, int16s call.2)) := by
  induction ops generalizing bytes with
  | nil => rfl
  | cons op ops ih =>
      have hrest : ∀ o ∈ ops, o.EvenSize := fun o ho => heven o (by simp [ho])
      cases op with
      | onAudioRecorded data size uninit =>
          have hsize : size.toInt.toNat % 2 = 0 :=
            heven (.onAudioRecorded data size uninit) (by simp)
          simp only [schedule, byteSchedule, chunk]
          rw [firstN_asInt16, ← int16s_append _ _ hbytes]
          refine ih hrest _ ?_
          simp only [List.length_append, length_firstN]
          omega
      | getAudioFrameWithInfo hz frame uninit =>
          simp only [schedule, byteSchedule, List.map_cons]
          rw [ih hrest bytes hbytes]

/-- The number of elements a `kNormal` call removes. -/
def AudioRecordSource.blockElements (s : AudioRecordSource) : Nat :=
  s.realBufferNumElements.toNat

/-- The number of those that are in the frame too. -/
def AudioRecordSource.leadingElements (s : AudioRecordSource) : Nat :=
  min s.blockElements (s.reportOutputSamples * s.channelNum).toNat

theorem Refines.blockElements (h : Refines p q s) : s.blockElements = p.blockSize := by
  rw [AudioRecordSource.blockElements, h.realBufferNumElements]
  rfl

theorem Refines.leadingElements (h : Refines p q s) :
    s.leadingElements = min p.blockSize p.frameSize := by
  rw [AudioRecordSource.leadingElements, h.blockElements, h.reportOutputSamples, h.channelNum]
  rfl

/-- What a frame call does at a state that refines a queue. -/
theorem takeFrame_law (abi : Abi) (scaleWithSat : ScaleWithSat) (h : Refines p q s) (hz : Int)
    (frame : AudioFrame) (uninit : Nat → Int16) :
    ∃ info taken final s',
      (recordMachine abi scaleWithSat).step s (.getAudioFrameWithInfo hz frame uninit)
        = .ok (s', .answered info taken final) ∧
      s.getAudioFrameWithInfo abi scaleWithSat hz frame uninit = .ok (info, final, s') ∧
      (info = .kNormal ↔ hz = p.sampleRate ∧ p.blockSize ≤ s.buffer.size) ∧
      (info = .kNormal → final = applyVolume scaleWithSat s.volume taken ∧
        leading taken (min p.blockSize p.frameSize)
          = q.contents.take (min p.blockSize p.frameSize)) ∧
      (info ≠ .kNormal → taken = frame ∧ final = frame ∧ s'.buffer = s.buffer) := by
  rw [h.size]
  by_cases hhz : hz = p.sampleRate
  · by_cases hlen : q.contents.length < p.blockSize
    · have htake := takeFrame_muted abi h hhz hlen frame uninit
      have hget := getAudioFrameWithInfo_of_takeFrame scaleWithSat htake
      refine ⟨_, _, _, s, step_getAudioFrameWithInfo.mpr ⟨htake, hget⟩, hget, ?_, by simp,
        fun _ => ⟨rfl, rfl, rfl⟩⟩
      simp only [reduceCtorEq, false_iff, not_and, Nat.not_le]
      exact fun _ => hlen
    · have hle := Nat.le_of_not_lt hlen
      obtain ⟨taken, s', htake, -, hlead⟩ := takeFrame_normal abi h hhz hle frame uninit
      have hget := getAudioFrameWithInfo_of_takeFrame scaleWithSat htake
      exact ⟨_, taken, _, s', step_getAudioFrameWithInfo.mpr ⟨htake, hget⟩, hget,
        by simp [hhz, hle], fun _ => ⟨rfl, hlead⟩, by simp⟩
  · have htake := takeFrame_error abi h hhz frame uninit
    have hget := getAudioFrameWithInfo_of_takeFrame scaleWithSat htake
    exact ⟨_, _, _, s, step_getAudioFrameWithInfo.mpr ⟨htake, hget⟩, hget, by simp [hhz],
      by simp, fun _ => ⟨rfl, rfl, rfl⟩⟩

/-- Two interleavings that record the same bytes before each frame call
get the same answers. -/
theorem results_eq_of_byteSchedule (abi : Abi) (scaleWithSat : ScaleWithSat)
    (h : Refines p BlockQueue.empty s) {ops ops' : List RecordOp}
    (hops : ∀ op ∈ ops, op.NonNeg ∧ op.EvenSize) (hops' : ∀ op ∈ ops', op.NonNeg ∧ op.EvenSize)
    (hbytes : byteSchedule [] ops = byteSchedule [] ops') :
    ∃ t t' replies replies', (recordMachine abi scaleWithSat).run s ops = .ok (t, replies) ∧
      (recordMachine abi scaleWithSat).run s ops' = .ok (t', replies') ∧
      results (min p.blockSize p.frameSize) replies
        = results (min p.blockSize p.frameSize) replies' := by
  obtain ⟨t, replies, _, hrun, -, -, -, hres⟩ :=
    run_refines abi scaleWithSat h ops (fun op hop => (hops op hop).1)
  obtain ⟨t', replies', _, hrun', -, -, -, hres'⟩ :=
    run_refines abi scaleWithSat h ops' (fun op hop => (hops' op hop).1)
  refine ⟨t, t', replies, replies', hrun, hrun', ?_⟩
  have hsched : schedule (int16s []) ops = schedule (int16s []) ops' := by
    rw [schedule_int16s ops (fun op hop => (hops op hop).2) [] rfl,
      schedule_int16s ops' (fun op hop => (hops' op hop).2) [] rfl, hbytes]
  rw [hres, hres']
  exact congrArg (p.answers _) hsched

/-- **Recorded data is a lossless queue.** For every source a mixer can
build and every interleaving of `OnAudioRecorded` calls with sizes that
are not negative and `GetAudioFrameWithInfo` calls: with `R` all that was
recorded, `N` the block size and `m` the number of `kNormal` answers so
far, the buffer is `R` without its first `m * N` elements; the next call
is answered `kNormal` exactly when the rate is the source's and `N`
elements are buffered, and then its frame before `ApplyVolume` starts with
the elements of `R` from `m * N` on, and is handed out with `ApplyVolume`
behind it; any other answer leaves the buffer and the frame alone. For
chunks of even size the answers depend only on the bytes recorded before
each call, however they were cut into chunks. -/
theorem record_buffer_lossless (abi : Abi) (scaleWithSat : ScaleWithSat) (p : RecordSettings)
    (ssrc : Int32) (volume : Float32) (uninit : Nat → Int16) :
    ∃ src, AudioRecordSource.create ssrc p.sampleRate p.channelNum p.frameDurationMs volume uninit
        = .ok src ∧
      (∀ ops : List RecordOp, (∀ op ∈ ops, op.NonNeg) →
        ∃ s replies, (recordMachine abi scaleWithSat).run src ops = .ok (s, replies) ∧
          s.buffer.contents = (recorded ops).drop (normals replies * src.blockElements) ∧
          ∀ hz frame uninit', ∃ info taken final s',
            (recordMachine abi scaleWithSat).step s (.getAudioFrameWithInfo hz frame uninit')
              = .ok (s', .answered info taken final) ∧
            s.getAudioFrameWithInfo abi scaleWithSat hz frame uninit' = .ok (info, final, s') ∧
            (info = .kNormal ↔ hz = src.sampleRate ∧ src.blockElements ≤ s.buffer.size) ∧
            (info = .kNormal → final = applyVolume scaleWithSat s.volume taken ∧
              leading taken src.leadingElements
                = ((recorded ops).drop (normals replies * src.blockElements)).take
                    src.leadingElements) ∧
            (info ≠ .kNormal → taken = frame ∧ final = frame ∧ s'.buffer = s.buffer)) ∧
      ∀ ops ops' : List RecordOp, (∀ op ∈ ops, op.NonNeg ∧ op.EvenSize) →
        (∀ op ∈ ops', op.NonNeg ∧ op.EvenSize) → byteSchedule [] ops = byteSchedule [] ops' →
        ∃ s s' replies replies',
          (recordMachine abi scaleWithSat).run src ops = .ok (s, replies) ∧
          (recordMachine abi scaleWithSat).run src ops' = .ok (s', replies') ∧
          results src.leadingElements replies = results src.leadingElements replies' := by
  obtain ⟨src, hsrc, href⟩ := create_refines p ssrc volume uninit
  refine ⟨src, hsrc, ?_⟩
  rw [href.blockElements, href.leadingElements, href.sampleRate]
  refine ⟨fun ops hops => ?_, fun ops ops' hops hops' hbytes => ?_⟩
  · obtain ⟨s, replies, q, hrun, hq, hpushed, hpopped, -⟩ :=
      run_refines abi scaleWithSat href ops hops
    have hcontents : q.contents = (recorded ops).drop (normals replies * p.blockSize) := by
      rw [BlockQueue.contents, hpushed, hpopped]
      simp [BlockQueue.empty]
    refine ⟨s, replies, hrun, hq.contents.trans hcontents, fun hz frame uninit' => ?_⟩
    rw [← hcontents]
    exact takeFrame_law abi scaleWithSat hq hz frame uninit'
  · exact results_eq_of_byteSchedule abi scaleWithSat href hops hops' hbytes

/-- Stereo at 400 Hz in frames of 5 ms: a block has 4 elements and a 10 ms
frame 8. -/
def stereo400 : RecordSettings where
  sampleRate := 400
  channelNum := 2
  frameDurationMs := 5
  rate_pos := by decide
  channels_pos := by decide
  duration_pos := by decide
  duration_le := by decide
  product_fits := by decide
  frame_fits := by decide

/-- A chunk of bytes. -/
def recordBytes (bytes : List UInt8) : RecordOp :=
  .onAudioRecorded (fun i => bytes.getD i 0) (Int32.ofNat bytes.length) (fun _ => 0)

/-- A call for a frame at a rate. -/
def askFrame (hz : Int) : RecordOp :=
  .getAudioFrameWithInfo hz { dataArray := fun _ => 0 } (fun _ => 0)

/-- Three elements, a call, three elements, calls at the right and at
another rate, and three elements. -/
def threeChunks : List RecordOp :=
  [recordBytes [1, 0, 2, 0, 3, 0], askFrame 400, recordBytes [4, 0, 5, 0, 6, 0], askFrame 400,
    askFrame 48000, recordBytes [7, 0, 8, 0, 9, 0]]

/-- The same bytes in front of each call, in other chunks. -/
def sevenChunks : List RecordOp :=
  [recordBytes [1, 0], recordBytes [2, 0, 3, 0], askFrame 400, recordBytes [4, 0, 5, 0],
    recordBytes [6, 0], askFrame 400, askFrame 48000, recordBytes [7, 0], recordBytes [8, 0],
    recordBytes [9, 0]]

/-- After both the buffer holds the elements 5 to 9, the next call takes
the first four of them, and the calls so far were answered alike. -/
theorem record_buffer_lossless_stereo :
    ∃ src, AudioRecordSource.create 1 400 2 5 1 (fun _ => 0) = .ok src ∧
      (∃ s replies, (recordMachine .lp64 (fun _ frame => frame)).run src threeChunks
          = .ok (s, replies) ∧
        results src.leadingElements replies
          = [(.kMuted, []), (.kNormal, [1, 2, 3, 4]), (.kError, [])] ∧
        s.buffer.contents = [5, 6, 7, 8, 9] ∧
        ∃ taken final s', s.getAudioFrameWithInfo .lp64 (fun _ frame => frame) 400
            { dataArray := fun _ => 0 } (fun _ => 0) = .ok (.kNormal, final, s') ∧
          final = applyVolume (fun _ frame => frame) s.volume taken ∧
          leading taken src.leadingElements = [5, 6, 7, 8]) ∧
      ∃ s s' replies replies',
        (recordMachine .lp64 (fun _ frame => frame)).run src threeChunks = .ok (s, replies) ∧
        (recordMachine .lp64 (fun _ frame => frame)).run src sevenChunks = .ok (s', replies') ∧
        results src.leadingElements replies = results src.leadingElements replies' := by
  obtain ⟨src, hsrc, hruns, hchunks⟩ :=
    record_buffer_lossless .lp64 (fun _ frame => frame) stereo400 1 1 (fun _ => 0)
  have hthree : ∀ op ∈ threeChunks, op.NonNeg ∧ op.EvenSize := by decide
  have hseven : ∀ op ∈ sevenChunks, op.NonNeg ∧ op.EvenSize := by decide
  obtain ⟨s, replies, hrun, hcontents, hnext⟩ :=
    hruns threeChunks (fun op hop => (hthree op hop).1)
  cases hsrc
  have hresults : results 4 replies = [(.kMuted, []), (.kNormal, [1, 2, 3, 4]), (.kError, [])] := by
    cases hrun
    rfl
  have hnormals : normals replies = 1 := by
    cases hrun
    rfl
  have hbuffer : s.buffer.contents = [5, 6, 7, 8, 9] := by
    rw [hcontents, hnormals]
    rfl
  obtain ⟨info, taken, final, s', -, hget, hnormal, hframe, -⟩ :=
    hnext 400 { dataArray := fun _ => 0 } (fun _ => 0)
  have hinfo : info = .kNormal := by
    refine hnormal.mpr ⟨rfl, ?_⟩
    rw [← BufferT.length_contents, hbuffer]
    decide
  subst hinfo
  obtain ⟨hfinal, hlead⟩ := hframe rfl
  refine ⟨_, rfl, ⟨s, replies, hrun, hresults, hbuffer, taken, final, s', hget, hfinal, ?_⟩, ?_⟩
  · refine hlead.trans ?_
    rw [← hcontents, hbuffer]
    rfl
  · exact hchunks threeChunks sevenChunks hthree hseven rfl

end L4AudioMixer.Source
