/-
L4AudioMixer.WebRtc.AudioMixerImpl — the mixer of
`modules/audio_mixer/audio_mixer_impl.h` as far as its headers fix it.

The implementation is a library. What the headers fix is defined: the
list of registered sources, which `AddSource` extends and `RemoveSource`
shortens. The rate calculator and the frame combiner, which ramps the
sources' frames and adds them up, are functions the model takes as
parameters (`MixerLibrary`); the combiner keeps a state `γ` of its own.
-/
import L4AudioMixer.Lib.Heap
import L4AudioMixer.WebRtc.AudioFrame

namespace L4AudioMixer.WebRtc

open L4AudioMixer.Lib

/-- `AudioMixerImpl::SourceStatus`. -/
structure SourceStatus where
  audioSource : Ptr
  isMixed : Bool := false
  gain : Float32 := 0
  audioFrame : AudioFrame

/-- `AddSource`: a status with a new frame, at the end of the list. The
array of a new `AudioFrame` is not initialised. -/
def SourceStatus.add (list : List SourceStatus) (p : Ptr) (uninit : Nat → Int16) :
    List SourceStatus :=
  list ++ [{ audioSource := p, audioFrame := { dataArray := uninit } }]

/-- `RemoveSource`: the first status with this pointer goes. -/
def SourceStatus.remove (list : List SourceStatus) (p : Ptr) : List SourceStatus :=
  list.eraseP (fun status => status.audioSource = p)

/-- A source that was asked for a frame: its status with the frame it
gave, its answer, and the volume it had. -/
structure Asked where
  status : SourceStatus
  info : AudioFrameInfo
  volume : Float32

/-- What the combiner leaves in the status of a source. -/
structure Ramped where
  isMixed : Bool
  gain : Float32
  audioFrame : AudioFrame

/-- What one pass of the combiner comes to. -/
structure Combined (γ : Type) where
  combiner : γ
  /-- The statuses, by position in the list. -/
  ramped : Nat → Ramped
  mixedFrame : AudioFrame

/-- The parts of the library behind the headers. -/
structure MixerLibrary (γ : Type) where
  /-- `DefaultOutputRateCalculator::CalculateOutputRate`. -/
  calculateOutputRate : List Int → Int
  initial : γ
  combine : γ → (numberOfChannels : Nat) → (sampleRateHz : Int) → List Asked → AudioFrame →
    Combined γ

/-- The list after the combiner. -/
def SourceStatus.rampAll (asked : List Asked) (ramped : Nat → Ramped) : List SourceStatus :=
  asked.mapIdx fun i a =>
    { a.status with
      isMixed := (ramped i).isMixed, gain := (ramped i).gain, audioFrame := (ramped i).audioFrame }

/-- `AudioProcessing::NativeRate`. -/
def nativeRates : List Int := [8000, 16000, 32000, 48000]

/-- What `default_output_rate_calculator.h` says the calculator produces:
the least native rate that is not below the preferred rates. The default,
48000, is also the answer when no native rate is high enough. -/
def defaultOutputRate (preferredRates : List Int) : Int :=
  if preferredRates = [] then 48000
  else (nativeRates.find? fun native => preferredRates.all (· ≤ native)).getD 48000

end L4AudioMixer.WebRtc
