/-
L4AudioMixer.Mixer.Ensemble — what a mixer is for, without pointers.

An ensemble holds voices under distinct ssrcs in the order in which they
are asked: those of the configuration in the order of their ssrcs, then
each in the order of its addition. A voice is a source and what WebRTC
keeps for it between two mixes. There is no map beside the list, no heap,
and nothing that could dangle; an ssrc that is taken is left as it is.

The ensemble is the abstract model. That the mixer of
`src/audio_mixer.cpp` has the same outcomes, failures and replies included,
is `Mixer.EnsembleTheorems`.
-/
import L4AudioMixer.Lib.Roster
import L4AudioMixer.Mixer.Entries

namespace L4AudioMixer.Mixer

open L4AudioMixer.Lib
open L4AudioMixer.Libav
open L4AudioMixer.WebRtc
open L4AudioMixer.Source

/-- A source that is mixed, and what WebRTC keeps for it. -/
structure Voice (σ ρ α : Type) where
  source : AudioSource σ ρ α
  status : Ramped

/-- A voice that was asked for a frame: the source afterwards, its status
with the frame it gave, its answer, and the volume it had. -/
structure Heard (σ ρ α : Type) where
  source : AudioSource σ ρ α
  status : Ramped
  info : AudioFrameInfo
  volume : Float32

/-- The voices of a mixer, and what it keeps besides. -/
structure Ensemble (σ ρ α γ : Type) where
  numbers : Numbers
  voices : Roster Int32 (Voice σ ρ α)
  combiner : γ
  mixedFrame : AudioFrame

/-- What `Mix` tells of a source it asked. -/
structure VoiceReply where
  ssrc : Option Int32
  status : Ramped
  info : AudioFrameInfo
  volume : Float32

/-- What a call gives back. -/
inductive EnsembleReply where
  | added (ok : Bool)
  | removed (ok : Bool)
  | done
  | mixed (size : Int) (output : List Int16) (voices : List VoiceReply)

variable {σ ρ α γ : Type}

/-- A mixer of these numbers without sources: `DoAddSource` makes the same
objects in it as in any other of these numbers. -/
def Numbers.mixer (P : Platform σ ρ α γ) (c : Numbers) : AudioMixer σ ρ α γ where
  outputSampleRate := c.outputSampleRate
  outputChannelNum := c.outputChannelNum
  frameDurationMs := c.frameDurationMs
  reportOutputSamples := c.reportOutputSamples
  realOutputSamples := c.realOutputSamples
  heap := Heap.empty
  sources := ∅
  registered := []
  combiner := P.webrtc.initial
  mixedFrame := { dataArray := fun _ => 0 }

/-- The numbers of a configuration that passes the checks on them. -/
def Numbers.check (config : MixerConfig) : Except Fault Numbers := do
  require (config.frameDurationMs.toInt ≤ 10) (.check "frame duration too long")
  let reportOutputSamples ← divInt32 config.outputSampleRate.toInt (1000 / 10)
  let framesPerSecond ← divInt32 1000 config.frameDurationMs.toInt
  let realOutputSamples ← divInt32 config.outputSampleRate.toInt framesPerSecond
  return {
    outputSampleRate := config.outputSampleRate
    outputChannelNum := config.outputChannelNum
    frameDurationMs := config.frameDurationMs
    reportOutputSamples, realOutputSamples }

/-- Ask a voice for a frame. -/
def Voice.ask (P : Platform σ ρ α γ) (sampleRateHz : Int) (uninit : Nat → Int16)
    (v : Voice σ ρ α) : Except Fault (Heard σ ρ α) := do
  let (info, frame, source) ←
    v.source.getAudioFrameWithInfo P sampleRateHz v.status.audioFrame uninit
  return { source, status := { v.status with audioFrame := frame }, info
           volume := v.source.volume }

/-- What the combiner is given for a voice. It has no pointer to give. -/
def Heard.asked (h : Heard σ ρ α) : Asked where
  status := {
    audioSource := 0, isMixed := h.status.isMixed, gain := h.status.gain
    audioFrame := h.status.audioFrame }
  info := h.info
  volume := h.volume

namespace Ensemble

/-- Every source of the configuration is made; the first of each ssrc
becomes a voice. -/
def addAll (P : Platform σ ρ α γ) (c : Numbers) (uninit : Nat → Int16) :
    Roster Int32 (Voice σ ρ α) → List MixerSource → Except Fault (Roster Int32 (Voice σ ρ α))
  | voices, [] => .ok voices
  | voices, source :: rest => do
      let object ← (c.mixer P).makeSource P source uninit
      addAll P c uninit (voices.add source.ssrc ⟨object, .fresh uninit⟩) rest

/-- The ensemble of a configuration. -/
def create (P : Platform σ ρ α γ) (config : MixerConfig) (uninit : Nat → Int16) :
    Except Fault (Ensemble σ ρ α γ) := do
  let numbers ← Numbers.check config
  let voices ← addAll P numbers uninit Roster.empty config.sources
  let frame : AudioFrame := { dataArray := uninit }
  let mixedFrame ← frame.updateFrame P.abi 0 none (toSizeT P.abi numbers.reportOutputSamples)
    numbers.outputSampleRate.toInt .kUndefined .kVadUnknown
    (toSizeT P.abi numbers.outputChannelNum.toInt)
  return { numbers, voices := voices.sorted, combiner := P.webrtc.initial, mixedFrame }

/-- A voice is added behind the others. -/
def addSource (P : Platform σ ρ α γ) (e : Ensemble σ ρ α γ) (source : MixerSource)
    (uninit : Nat → Int16) : Except Fault (Ensemble σ ρ α γ) := do
  let object ← (e.numbers.mixer P).makeSource P source uninit
  return { e with voices := e.voices.add source.ssrc ⟨object, .fresh uninit⟩ }

/-- Recorded data goes to the source under the ssrc, if there is one. -/
def addRecordedData (P : Platform σ ρ α γ) (e : Ensemble σ ρ α γ) (ssrc : Int32)
    (data : Nat → UInt8) (size : Int32) (uninit : Nat → Int16) :
    Except Fault (Ensemble σ ρ α γ) :=
  match (e.voices.get? ssrc).map Voice.source with
  | none => .ok e
  | some (.file _) => .error .invalidCast
  | some (.record s) => do
      let s ← s.onAudioRecorded P.abi data size.toInt uninit
      return { e with voices := e.voices.modify ssrc fun v => { v with source := .record s } }

/-- Every voice is asked once, in order, at the rate all of them together
lead to; the combiner gets what they answered. -/
def mix (P : Platform σ ρ α γ) (e : Ensemble σ ρ α γ) (uninit : Nat → Int16) :
    Except Fault (Ensemble σ ρ α γ × EnsembleReply) := do
  let sampleRateHz := P.webrtc.calculateOutputRate
    (e.voices.values.map fun v => v.source.preferredSampleRate)
  let heard ← e.voices.traverse (Voice.ask P sampleRateHz uninit)
  let combined := P.webrtc.combine e.combiner (toSizeT P.abi e.numbers.outputChannelNum.toInt)
    sampleRateHz (heard.values.map Heard.asked) e.mixedFrame
  let size := P.av.samplesGetBufferSize e.numbers.outputChannelNum.toInt
    e.numbers.realOutputSamples kOutputSampleFormat 1
  require (0 ≤ size) .invalidCopy
  return ({ e with
      voices := heard.mapIdx fun i h => ⟨h.source, combined.ramped i⟩
      combiner := combined.combiner
      mixedFrame := combined.mixedFrame },
    .mixed size (firstN combined.mixedFrame.data (size.toNat / 2))
      (heard.items.map fun item => ⟨some item.1, item.2.status, item.2.info, item.2.volume⟩))

end Ensemble

/-- The ensemble as a machine. -/
def ensembleMachine (P : Platform σ ρ α γ) :
    Machine (Ensemble σ ρ α γ) MixerOp EnsembleReply Fault where
  step e op :=
    match op.call with
    | .addSource source => do
        let e' ← e.addSource P source op.uninit
        return (e', .added true)
    | .removeSource ssrc =>
        .ok ({ e with voices := e.voices.remove ssrc }, .removed (e.voices.get? ssrc).isSome)
    | .updateVolume ssrc volume =>
        .ok ({ e with voices := e.voices.modify ssrc fun v =>
          { v with source := v.source.updateVolume volume } }, .done)
    | .addRecordedData ssrc data size => do
        let e' ← e.addRecordedData P ssrc data size op.uninit
        return (e', .done)
    | .mix => e.mix P op.uninit

/-! ## The mixer seen as an ensemble -/

/-- The ssrc under which `sources_` holds a pointer. -/
def ownerOf (sources : Std.ExtTreeMap Int32 Ptr) (p : Ptr) : Option Int32 :=
  (sources.toList.find? fun item => item.2 = p).map Prod.fst

/-- A reply of the mixer without pointers. -/
def MixerReply.view : MixerReply → EnsembleReply
  | .added ok => .added ok
  | .removed ok => .removed ok
  | .done => .done
  | .mixed result sources => .mixed result.size result.output
      (result.asked.map fun a =>
        ⟨ownerOf sources a.status.audioSource, a.status.rest, a.info, a.volume⟩)

/-- A registered status stands for a voice: its pointer is the one
`sources_` holds under the ssrc, and leads to the source. -/
structure Stands (sources : Std.ExtTreeMap Int32 Ptr) (heap : Heap (AudioSource σ ρ α))
    (status : SourceStatus) (item : Int32 × Voice σ ρ α) : Prop where
  owner : sources[item.1]? = some status.audioSource
  source : heap.get? status.audioSource = some item.2.source
  rest : status.rest = item.2.status

/-- The ensemble a mixer looks like. -/
structure Shows (m : AudioMixer σ ρ α γ) (e : Ensemble σ ρ α γ) : Prop where
  numbers : m.numbers = e.numbers
  combiner : m.combiner = e.combiner
  mixedFrame : m.mixedFrame = e.mixedFrame
  voices : List.Forall₂ (Stands m.sources m.heap) m.registered e.voices.items

/-- A well-formed mixer with an exact registry that looks like an
ensemble. -/
structure Represents (P : Platform σ ρ α γ) (m : AudioMixer σ ρ α γ) (e : Ensemble σ ρ α γ) :
    Prop where
  wellFormed : WellFormed P m
  registry : Registry m
  shows : Shows m e

end L4AudioMixer.Mixer
