/-
L4AudioMixer.Source.RecordSourceTheorems — what a record source keeps,
and what its calls do, for arguments of any sign and size.

`RecordQueueTheorems` studies the sources a sensible configuration
builds. The results about whole mixers range over every configuration the
constructor accepts; they need only what is here.
-/
import L4AudioMixer.Source.AudioRecordSource

namespace L4AudioMixer.Source

open L4AudioMixer.Lib
open L4AudioMixer.WebRtc

/-- What the constructor of a record source leaves for good. -/
structure BuiltRecord (c : SourceSettings) (s : AudioRecordSource) : Prop where
  ssrc : s.ssrc = c.ssrc
  sampleRate : s.sampleRate = c.outputSampleRate
  channelNum : s.channelNum = c.outputChannelNum
  reportOutputSamples : s.reportOutputSamples = c.outputSampleRate.tdiv 100
  productFits : IsInt32 (c.outputChannelNum * c.outputSampleRate)
  realBufferNumElements : s.realBufferNumElements
    = (c.outputChannelNum * c.outputSampleRate).tdiv ((1000 : Int).tdiv c.frameDurationMs)

variable {c : SourceSettings} {volume : Float32} {uninit : Nat → Int16} {s s' : AudioRecordSource}

/-- The constructor establishes it, with an empty buffer. -/
theorem builtRecord_of_create
    (h : AudioRecordSource.create c.ssrc c.outputSampleRate c.outputChannelNum c.frameDurationMs
      volume uninit = .ok s) :
    BuiltRecord c s ∧
      s.volume = volume ∧ s.buffer = BufferT.empty uninit := by
  simp only [AudioRecordSource.create, bind_eq_ok] at h
  obtain ⟨report, hreport, elements, helements, perSecond, hper, real, hreal, hs⟩ := h
  obtain ⟨-, rfl⟩ := divInt32_eq_ok hreport
  obtain ⟨hfits, rfl⟩ := mulInt32_eq_ok helements
  obtain ⟨-, rfl⟩ := divInt32_eq_ok hper
  obtain ⟨-, rfl⟩ := divInt32_eq_ok hreal
  cases hs
  exact ⟨⟨rfl, rfl, rfl, rfl, hfits, rfl⟩, rfl, rfl⟩

/-- Whether a record source can be built does not depend on fresh memory. -/
theorem create_ok_of_ok
    (h : AudioRecordSource.create c.ssrc c.outputSampleRate c.outputChannelNum c.frameDurationMs
      volume uninit = .ok s) (uninit' : Nat → Int16) :
    AudioRecordSource.create c.ssrc c.outputSampleRate c.outputChannelNum c.frameDurationMs
        volume uninit' = .ok { s with buffer := BufferT.empty uninit' } := by
  simp only [AudioRecordSource.create, bind_eq_ok] at h ⊢
  obtain ⟨report, hreport, elements, helements, perSecond, hper, real, hreal, hs⟩ := h
  cases hs
  exact ⟨report, hreport, elements, helements, perSecond, hper, real, hreal, rfl⟩

/-- `OnAudioRecorded` changes the buffer only. -/
theorem onAudioRecorded_cases {abi : Abi} {data : Nat → UInt8} {size : Int}
    (h : s.onAudioRecorded abi data size uninit = .ok s') :
    ∃ buffer, s.buffer.appendData abi 2 (AudioRecordSource.asInt16 data)
      (toSizeT abi size / 2) uninit = .ok buffer ∧ s' = { s with buffer } := by
  simp only [AudioRecordSource.onAudioRecorded, bind_eq_ok] at h
  obtain ⟨buffer, hbuffer, hs⟩ := h
  cases hs
  exact ⟨buffer, hbuffer, rfl⟩

/-- `OnAudioRecorded` with a size that is not negative returns. -/
theorem onAudioRecorded_of_nonneg (abi : Abi) (s : AudioRecordSource) (data : Nat → UInt8)
    {size : Int} (hsize : 0 ≤ size) (h32 : IsInt32 size) (uninit : Nat → Int16) :
    ∃ buffer, s.onAudioRecorded abi data size uninit = .ok { s with buffer } ∧
      buffer.contents
        = s.buffer.contents ++ firstN (AudioRecordSource.asInt16 data) (size.toNat / 2) := by
  have hcount : toSizeT abi size = size.toNat := toSizeT_of_nonneg abi hsize h32
  have hbytes : size.toNat / 2 * 2 ≤ abi.maxObjectBytes := by
    obtain ⟨_, hhigh⟩ := h32
    cases abi <;> simp only [Abi.maxObjectBytes] <;> omega
  obtain ⟨buffer, happend, hcontents⟩ := s.buffer.appendData_of_le
    (AudioRecordSource.asInt16 data) uninit hbytes
  refine ⟨buffer, ?_, hcontents⟩
  simp only [AudioRecordSource.onAudioRecorded, hcount, happend]
  rfl

/-- With a negative size it does not: the array it asks for is too large. -/
theorem onAudioRecorded_of_neg (abi : Abi) (s : AudioRecordSource) (data : Nat → UInt8)
    {size : Int} (hsize : size < 0) (h32 : IsInt32 size) (uninit : Nat → Int16) :
    s.onAudioRecorded abi data size uninit = .error .badAlloc := by
  have hbytes : abi.maxObjectBytes < toSizeT abi size / 2 * 2 := by
    have hlarge := maxObjectBytes_lt_toSizeT abi hsize h32
    cases abi <;> simp only [Abi.maxObjectBytes] at hlarge ⊢ <;> omega
  simp only [AudioRecordSource.onAudioRecorded, BufferT.appendData, if_pos hbytes]
  rfl

/-- The buffer a `kNormal` answer leaves. -/
def shifted (abi : Abi) (s : AudioRecordSource) (uninit : Nat → Int16) : BufferT Int16 :=
  let n := toSizeT abi s.realBufferNumElements
  (s.buffer.moveToFront n (s.buffer.size - n)).setSize (s.buffer.size - n) uninit

/-- **The three outcomes of a call**: another rate, or too little in the
buffer, and nothing happens; or the frame starts with the front of the
buffer, with the volume applied, and the buffer moves on. -/
theorem record_getAudioFrameWithInfo_cases {abi : Abi} {scaleWithSat : ScaleWithSat} {hz : Int}
    {frame frame' : AudioFrame} {info : AudioFrameInfo}
    (h : s.getAudioFrameWithInfo abi scaleWithSat hz frame uninit = .ok (info, frame', s')) :
    (hz ≠ s.sampleRate ∧ info = .kError ∧ s' = s) ∨
    (hz = s.sampleRate ∧ s.buffer.size < toSizeT abi s.realBufferNumElements ∧
      info = .kMuted ∧ s' = s) ∨
    (hz = s.sampleRate ∧ toSizeT abi s.realBufferNumElements ≤ s.buffer.size ∧
      info = .kNormal ∧ s' = { s with buffer := shifted abi s uninit } ∧
      ∃ updated, frame.updateFrame abi 0 s.buffer.data (toSizeT abi s.reportOutputSamples)
          s.sampleRate .kNormalSpeech .kVadActive (toSizeT abi s.channelNum) = .ok updated ∧
        frame' = applyVolume scaleWithSat s.volume updated) := by
  simp only [AudioRecordSource.getAudioFrameWithInfo, AudioRecordSource.takeFrame] at h
  by_cases hhz : hz = s.sampleRate
  · rw [if_neg (by simpa using hhz)] at h
    by_cases hsize : s.buffer.size < toSizeT abi s.realBufferNumElements
    · rw [if_pos hsize] at h
      cases h
      exact .inr (.inl ⟨hhz, hsize, rfl, rfl⟩)
    · rw [if_neg hsize] at h
      simp only [bind_eq_ok] at h
      obtain ⟨⟨info₁, frame₁, s₁⟩, ⟨updated, hupdated, htaken⟩, hret⟩ := h
      cases htaken
      cases hret
      exact .inr (.inr ⟨hhz, by omega, rfl, rfl, frame₁, hupdated, rfl⟩)
  · rw [if_pos hhz] at h
    cases h
    exact .inl ⟨hhz, rfl, rfl⟩

/-- No call changes what the constructor left. -/
theorem BuiltRecord.withBuffer (hs : BuiltRecord c s)
    (buffer : BufferT Int16) :
    BuiltRecord c { s with buffer } :=
  ⟨hs.ssrc, hs.sampleRate, hs.channelNum, hs.reportOutputSamples, hs.productFits,
    hs.realBufferNumElements⟩

theorem BuiltRecord.getAudioFrameWithInfo {abi : Abi} {scaleWithSat : ScaleWithSat} {hz : Int}
    {frame frame' : AudioFrame} {info : AudioFrameInfo}
    (hs : BuiltRecord c s)
    (h : s.getAudioFrameWithInfo abi scaleWithSat hz frame uninit = .ok (info, frame', s')) :
    BuiltRecord c s' := by
  rcases record_getAudioFrameWithInfo_cases h with
    ⟨_, _, rfl⟩ | ⟨_, _, _, rfl⟩ | ⟨_, _, _, rfl, _⟩
  · exact hs
  · exact hs
  · exact hs.withBuffer _

end L4AudioMixer.Source
