/-
L4AudioMixer.WebRtc.AudioFrame — `webrtc::AudioFrame` and the callback
interface of `api/audio/audio_mixer.h`.

The header gives the fields and what they mean; the two member functions
the sources call are defined after it: `UpdateFrame` copies its data or,
without data, marks the frame muted, and aborts on more than
`kMaxDataSizeSamples` elements; `mutable_data` zeroes a muted frame and
unmutes it, and `data` reads zeros from a muted one.
-/
import L4AudioMixer.Lib.Cxx
import L4AudioMixer.Lib.Memory

namespace L4AudioMixer.WebRtc

open L4AudioMixer.Lib

/-- `AudioMixer::Source::AudioFrameInfo`. -/
inductive AudioFrameInfo where
  | kNormal
  | kMuted
  | kError
  deriving DecidableEq, Repr

/-- `AudioFrame::SpeechType`. -/
inductive SpeechType where
  | kNormalSpeech | kPLC | kCNG | kPLCCNG | kUndefined
  deriving DecidableEq, Repr

/-- `AudioFrame::VADActivity`. -/
inductive VADActivity where
  | kVadActive | kVadPassive | kVadUnknown
  deriving DecidableEq, Repr

/-- `AudioFrame::kMaxDataSizeSamples`. -/
def kMaxDataSizeSamples : Nat := 3840

/-- `class AudioFrame`, without the clock fields nothing here reads. -/
structure AudioFrame where
  timestamp : Nat := 0
  samplesPerChannel : Nat := 0
  sampleRateHz : Int := 0
  numChannels : Nat := 0
  speechType : SpeechType := .kUndefined
  vadActivity : VADActivity := .kVadUnknown
  /-- `data_`; at and past `kMaxDataSizeSamples` what lies behind it. -/
  dataArray : Nat → Int16
  muted : Bool := true

namespace AudioFrame

/-- `AudioFrame::data`. -/
def data (f : AudioFrame) : Nat → Int16 := if f.muted then fun _ => 0 else f.dataArray

/-- `AudioFrame::mutable_data`: the frame after the call. -/
def mutableData (f : AudioFrame) : AudioFrame :=
  if f.muted then { f with dataArray := fun _ => 0, muted := false } else f

/-- The number of elements a frame declares. -/
def declared (f : AudioFrame) : Nat := f.samplesPerChannel * f.numChannels

/-- The elements a frame declares. -/
def samples (f : AudioFrame) : List Int16 := firstN f.data f.declared

/-- `AudioFrame::UpdateFrame`. A null `data` is `none`; the length is a
`size_t` product. -/
def updateFrame (abi : Abi) (f : AudioFrame) (timestamp : Nat) (data : Option (Nat → Int16))
    (samplesPerChannel : Nat) (sampleRateHz : Int) (speechType : SpeechType)
    (vadActivity : VADActivity) (numChannels : Nat) : Except Fault AudioFrame :=
  let length := samplesPerChannel * numChannels % abi.sizeModulus
  if length ≤ kMaxDataSizeSamples then
    .ok { f with
      timestamp, samplesPerChannel, sampleRateHz, numChannels, speechType, vadActivity
      dataArray := match data with
        | some src => copy f.dataArray 0 src length
        | none => f.dataArray
      muted := data.isNone }
  else .error (.check "length <= kMaxDataSizeSamples")

/-- `UpdateFrame` returns when the elements fit. -/
theorem updateFrame_of_le {abi : Abi} {samplesPerChannel numChannels : Nat} (f : AudioFrame)
    (timestamp : Nat) (data : Option (Nat → Int16)) (sampleRateHz : Int)
    (speechType : SpeechType) (vadActivity : VADActivity)
    (h : samplesPerChannel * numChannels % abi.sizeModulus ≤ kMaxDataSizeSamples) :
    ∃ f', f.updateFrame abi timestamp data samplesPerChannel sampleRateHz speechType vadActivity
      numChannels = .ok f' := by
  simp only [updateFrame, if_pos h]
  exact ⟨_, rfl⟩

/-- Otherwise it does not. -/
theorem length_le_of_updateFrame {abi : Abi} {f f' : AudioFrame} {timestamp : Nat}
    {data : Option (Nat → Int16)} {samplesPerChannel numChannels : Nat} {sampleRateHz : Int}
    {speechType : SpeechType} {vadActivity : VADActivity}
    (h : f.updateFrame abi timestamp data samplesPerChannel sampleRateHz speechType vadActivity
      numChannels = .ok f') :
    samplesPerChannel * numChannels % abi.sizeModulus ≤ kMaxDataSizeSamples := by
  by_contra hlong
  simp only [updateFrame, if_neg hlong] at h
  cases h

/-- What `UpdateFrame` copied is read back. -/
theorem data_of_updateFrame {abi : Abi} {f f' : AudioFrame} {timestamp : Nat}
    {src : Nat → Int16} {samplesPerChannel numChannels : Nat} {sampleRateHz : Int}
    {speechType : SpeechType} {vadActivity : VADActivity}
    (h : f.updateFrame abi timestamp (some src) samplesPerChannel sampleRateHz speechType
      vadActivity numChannels = .ok f')
    {i : Nat} (hi : i < samplesPerChannel * numChannels % abi.sizeModulus) :
    f'.data i = src i := by
  have hlength := length_le_of_updateFrame h
  simp only [updateFrame, if_pos hlength] at h
  cases h
  show copy f.dataArray 0 src _ i = src i
  simp only [copy]
  rw [if_pos (by omega), Nat.sub_zero]

end AudioFrame

end L4AudioMixer.WebRtc
