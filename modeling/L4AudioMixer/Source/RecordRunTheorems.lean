/-
L4AudioMixer.Source.RecordRunTheorems — runs of a record source of any
settings.

`RecordQueueTheorems` follows the sources whose 10 ms frame fits an
`AudioFrame`, and shows that their calls return. Here the settings are
arbitrary and a run is followed for as long as it returns: `RecordStep`
says once what a call that returns has done, and `run_queued` derives
from it where in the recorded stream the buffer stands.
-/
import L4AudioMixer.Source.RecordQueueTheorems
import L4AudioMixer.Source.RecordSourceTheorems

namespace L4AudioMixer.Source

open L4AudioMixer.Lib
open L4AudioMixer.WebRtc

namespace AudioRecordSource

/-- The number of elements a `kNormal` call removes: `N` as the `size_t`
the buffer is measured in. -/
def removed (abi : Abi) (s : AudioRecordSource) : Nat := toSizeT abi s.realBufferNumElements

/-- The number of elements of the frame, a `size_t` product. -/
def frameElements (abi : Abi) (s : AudioRecordSource) : Nat :=
  toSizeT abi s.reportOutputSamples * toSizeT abi s.channelNum % abi.sizeModulus

/-- The number of elements `UpdateFrame` copies: none from a null pointer. -/
def copied (abi : Abi) (s : AudioRecordSource) : Nat :=
  if s.buffer.data.isSome then s.frameElements abi else 0

end AudioRecordSource

variable {abi : Abi} {scaleWithSat : ScaleWithSat} {s s' t : AudioRecordSource}

/-! ## Steps -/

/-- What a call that returns has done. -/
inductive RecordStep (abi : Abi) (s s' : AudioRecordSource) : RecordOp → RecordReply → Prop where
  | recorded (data : Nat → UInt8) (size : Int32) (uninit : Nat → Int16) (buffer : BufferT Int16)
      (hs : s' = { s with buffer })
      (hcontents : buffer.contents = s.buffer.contents ++ chunk data size.toInt) :
      RecordStep abi s s' (.onAudioRecorded data size uninit) .recorded
  | refused (hz : Int) (frame : AudioFrame) (uninit : Nat → Int16) (info : AudioFrameInfo)
      (taken final : AudioFrame) (hinfo : info ≠ .kNormal) (hs : s' = s) :
      RecordStep abi s s' (.getAudioFrameWithInfo hz frame uninit) (.answered info taken final)
  | normal (hz : Int) (frame : AudioFrame) (uninit : Nat → Int16) (taken final : AudioFrame)
      (hsize : s.removed abi ≤ s.buffer.size)
      (hs : s' = { s with buffer := shifted abi s uninit })
      (hframe : frame.updateFrame abi 0 s.buffer.data (toSizeT abi s.reportOutputSamples)
        s.sampleRate .kNormalSpeech .kVadActive (toSizeT abi s.channelNum) = .ok taken) :
      RecordStep abi s s' (.getAudioFrameWithInfo hz frame uninit)
        (.answered .kNormal taken final)

/-- A recording call that returns had a size that is not negative: for a
negative one `operator new[]` throws. -/
theorem onAudioRecorded_contents {data : Nat → UInt8} {size : Int32} {uninit : Nat → Int16}
    (h : s.onAudioRecorded abi data size.toInt uninit = .ok s') :
    ∃ buffer, s' = { s with buffer } ∧
      buffer.contents = s.buffer.contents ++ chunk data size.toInt := by
  obtain ⟨buffer, happend, hs⟩ := onAudioRecorded_cases h
  refine ⟨buffer, hs, ?_⟩
  have hnonneg : 0 ≤ size.toInt := by
    by_contra hneg
    rw [onAudioRecorded_of_neg abi s data (by omega) (isInt32_toInt size) uninit] at h
    cases h
  have hcount : toSizeT abi size.toInt = size.toInt.toNat :=
    toSizeT_of_nonneg abi hnonneg (isInt32_toInt size)
  rw [BufferT.contents_appendData happend, hcount]
  rfl

/-- The frame before `ApplyVolume` is the one `UpdateFrame` leaves. -/
theorem takeFrame_of_updateFrame {hz : Int} {frame updated : AudioFrame} (uninit : Nat → Int16)
    (hhz : hz = s.sampleRate) (hsize : s.removed abi ≤ s.buffer.size)
    (hframe : frame.updateFrame abi 0 s.buffer.data (toSizeT abi s.reportOutputSamples)
      s.sampleRate .kNormalSpeech .kVadActive (toSizeT abi s.channelNum) = .ok updated) :
    s.takeFrame abi hz frame uninit
      = .ok (.kNormal, updated, { s with buffer := shifted abi s uninit }) := by
  have hrate : ¬ hz ≠ s.sampleRate := by simpa using hhz
  have hlong : ¬ s.buffer.size < toSizeT abi s.realBufferNumElements := Nat.not_lt.mpr hsize
  simp only [AudioRecordSource.takeFrame, if_neg hrate, if_neg hlong, hframe]
  rfl

/-- **Every call that returns is one of the three.** -/
theorem recordStep_of_step {op : RecordOp} {reply : RecordReply}
    (h : (recordMachine abi scaleWithSat).step s op = .ok (s', reply)) :
    RecordStep abi s s' op reply := by
  cases op with
  | onAudioRecorded data size uninit =>
      simp only [recordMachine, bind_eq_ok] at h
      obtain ⟨s₁, hrec, hret⟩ := h
      cases hret
      obtain ⟨buffer, hs, hcontents⟩ := onAudioRecorded_contents hrec
      exact .recorded data size uninit buffer hs hcontents
  | getAudioFrameWithInfo hz frame uninit =>
      obtain ⟨info, taken, final, rfl⟩ :
          ∃ info taken final, reply = .answered info taken final := by
        simp only [recordMachine, bind_eq_ok] at h
        obtain ⟨_, -, hret⟩ := h
        cases hret
        exact ⟨_, _, _, rfl⟩
      obtain ⟨htake, hget⟩ := step_getAudioFrameWithInfo.mp h
      rcases record_getAudioFrameWithInfo_cases hget with
        ⟨_, rfl, hs⟩ | ⟨_, _, rfl, hs⟩ | ⟨hhz, hsize, rfl, hs, updated, hupdated, _⟩
      · exact .refused hz frame uninit .kError taken final (by simp) hs
      · exact .refused hz frame uninit .kMuted taken final (by simp) hs
      · rw [takeFrame_of_updateFrame uninit hhz hsize hupdated] at htake
        cases htake
        exact .normal hz frame uninit taken final hsize hs hupdated

/-- A frame call at the right rate with a whole block is answered
`kNormal`, if the frame fits. -/
theorem step_normal (scaleWithSat : ScaleWithSat) (frame : AudioFrame) (uninit : Nat → Int16)
    (hsize : s.removed abi ≤ s.buffer.size) (hfits : s.frameElements abi ≤ kMaxDataSizeSamples) :
    ∃ s' taken final, (recordMachine abi scaleWithSat).step s
        (.getAudioFrameWithInfo s.sampleRate frame uninit)
          = .ok (s', .answered .kNormal taken final) ∧
      ∀ i, i < s.copied abi → taken.data i = s.buffer.array i := by
  rw [AudioRecordSource.frameElements] at hfits
  obtain ⟨taken, hframe⟩ : ∃ taken, frame.updateFrame abi 0 s.buffer.data
      (toSizeT abi s.reportOutputSamples) s.sampleRate .kNormalSpeech .kVadActive
      (toSizeT abi s.channelNum) = .ok taken := by
    simp only [AudioFrame.updateFrame, if_pos hfits]
    exact ⟨_, rfl⟩
  have htake := takeFrame_of_updateFrame uninit rfl hsize hframe
  refine ⟨{ s with buffer := shifted abi s uninit }, taken, _,
    step_getAudioFrameWithInfo.mpr ⟨htake, getAudioFrameWithInfo_of_takeFrame scaleWithSat htake⟩,
    fun i hi => ?_⟩
  unfold AudioRecordSource.copied at hi
  cases hdata : s.buffer.data with
  | none => simp [hdata] at hi
  | some array =>
      have harray : array = s.buffer.array := BufferT.data_eq_some hdata
      rw [hdata, Option.isSome_some, if_pos rfl] at hi
      rw [hdata] at hframe
      rw [← harray]
      exact AudioFrame.data_of_updateFrame hframe hi

/-- No call changes what the constructor left. -/
theorem BuiltRecord.step {c : SourceSettings} {op : RecordOp} {reply : RecordReply}
    (hs : BuiltRecord c s) (h : (recordMachine abi scaleWithSat).step s op = .ok (s', reply)) :
    BuiltRecord c s' := by
  have hstep := recordStep_of_step h
  cases hstep with
  | recorded data size uninit buffer hs' _ =>
      subst hs'
      exact hs.withBuffer buffer
  | refused hz frame uninit info taken final _ hs' =>
      subst hs'
      exact hs
  | normal hz frame uninit taken final _ hs' _ =>
      subst hs'
      exact hs.withBuffer _

theorem BuiltRecord.run {c : SourceSettings} {ops : List RecordOp} {replies : List RecordReply}
    (hs : BuiltRecord c s) (h : (recordMachine abi scaleWithSat).run s ops = .ok (t, replies)) :
    BuiltRecord c t :=
  Machine.run_invariant (BuiltRecord c) (fun _ _ _ _ hI hstep => hI.step hstep) hs h

/-! ## Runs -/

/-- One call is one operation of the queue of blocks of `removed`
elements. -/
theorem step_queued {n : Nat} {op : RecordOp} {reply : RecordReply} (hn : s.removed abi = n)
    {q : BlockQueue Int16 n} (hq : s.buffer.contents = q.contents)
    (h : (recordMachine abi scaleWithSat).step s op = .ok (s', reply)) :
    s'.removed abi = n ∧ ∃ q' : BlockQueue Int16 n, s'.buffer.contents = q'.contents ∧
      q'.pushed = q.pushed ++ op.elements ∧ q'.popped = q.popped + normals [reply] := by
  have hstep := recordStep_of_step h
  cases hstep with
  | recorded data size uninit buffer hs hcontents =>
      subst hs
      refine ⟨hn, q.push (chunk data size.toInt), ?_, rfl, rfl⟩
      rw [BlockQueue.contents_push, ← hq]
      exact hcontents
  | refused hz frame uninit info taken final hinfo hs =>
      subst hs
      refine ⟨hn, q, hq, by simp [RecordOp.elements], ?_⟩
      cases info with
      | kNormal => exact absurd rfl hinfo
      | kMuted => rfl
      | kError => rfl
  | normal hz frame uninit taken final hsize hs _ =>
      subst hs
      have hlen : n ≤ q.contents.length := by
        rw [← hq, BufferT.length_contents, ← hn]
        exact hsize
      refine ⟨hn, q.pop hlen, ?_, by simp [BlockQueue.pop, RecordOp.elements], rfl⟩
      rw [BlockQueue.contents_pop, ← hq, ← hn]
      exact BufferT.contents_moveToFront_setSize _ _

/-- **Where a run stands**: the queue has all that was recorded and has
popped one block for each `kNormal`. -/
theorem run_queued {n : Nat} {ops : List RecordOp} {replies : List RecordReply}
    (hn : s.removed abi = n) {q : BlockQueue Int16 n} (hq : s.buffer.contents = q.contents)
    (h : (recordMachine abi scaleWithSat).run s ops = .ok (t, replies)) :
    ∃ q' : BlockQueue Int16 n, t.buffer.contents = q'.contents ∧
      q'.pushed = q.pushed ++ recorded ops ∧ q'.popped = q.popped + normals replies := by
  induction ops generalizing s q replies with
  | nil =>
      cases h
      exact ⟨q, hq, by simp [recorded], rfl⟩
  | cons op ops ih =>
      obtain ⟨s₁, reply, rest, hstep, hrun, rfl⟩ := Machine.of_run_cons h
      obtain ⟨hn₁, q₁, hq₁, hpushed₁, hpopped₁⟩ := step_queued hn hq hstep
      obtain ⟨q₂, hq₂, hpushed₂, hpopped₂⟩ := ih hn₁ hq₁ hrun
      refine ⟨q₂, hq₂, ?_, ?_⟩
      · rw [hpushed₂, hpushed₁]
        simp [recorded]
      · rw [hpopped₂, hpopped₁, normals_cons reply rest, Nat.add_assoc]

/-- The buffer of a run from an empty one is what was recorded, without a
block for each `kNormal`. -/
theorem run_position {ops : List RecordOp} {replies : List RecordReply}
    (hempty : s.buffer.contents = [])
    (h : (recordMachine abi scaleWithSat).run s ops = .ok (t, replies)) :
    ∃ front, recorded ops = front ++ t.buffer.contents ∧
      front.length = normals replies * s.removed abi := by
  have hq : s.buffer.contents = (BlockQueue.empty : BlockQueue Int16 (s.removed abi)).contents := by
    rw [hempty, BlockQueue.contents_empty]
  obtain ⟨q, hcontents, hpushed, hpopped⟩ := run_queued rfl hq h
  have hpushed' : q.pushed = recorded ops := by
    rw [hpushed]
    rfl
  have hpopped' : q.popped = normals replies := by
    rw [hpopped]
    exact Nat.zero_add _
  refine ⟨q.pushed.take (q.popped * s.removed abi), ?_, ?_⟩
  · rw [hcontents, ← hpushed', BlockQueue.contents, List.take_append_drop]
  · rw [List.length_take_of_le q.enough, hpopped']

end L4AudioMixer.Source
