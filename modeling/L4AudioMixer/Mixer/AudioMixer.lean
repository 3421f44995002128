/-
L4AudioMixer.Mixer.AudioMixer — the model of `src/audio_mixer.cpp`.

Two collections refer to the sources. `sources_` owns them through
`shared_ptr`; WebRTC's list holds plain pointers. Objects live in a
`Lib.Heap`, and a `shared_ptr` that goes away destroys its object unless
`sources_` owns it too (`release`): this is what makes a registered
pointer dangle when `AddSource` meets an ssrc that is already there.

Everything outside the repository comes in through `Platform`. Fresh
memory is not initialised; each call takes what the memory it allocates
holds as a parameter of its own.
-/
import Std.Data.ExtTreeMap
import L4AudioMixer.Lib.Machine
import L4AudioMixer.Source.AudioFileSource
import L4AudioMixer.Source.AudioRecordSource
import L4AudioMixer.WebRtc.AudioMixerImpl

namespace L4AudioMixer.Mixer

open L4AudioMixer.Lib
open L4AudioMixer.Libav
open L4AudioMixer.WebRtc
open L4AudioMixer.Source

/-- What the mixer runs on: the ABI, FFmpeg, the files behind the paths,
the WebRTC library, and the bound under which the decode loops are run. -/
structure Platform (σ ρ α γ : Type) where
  abi : Abi
  av : LibAv ρ α
  files : String → MediaFile σ α
  scaleWithSat : ScaleWithSat
  webrtc : MixerLibrary γ
  fuel : Nat

/-! ## The records of the API -/

/-- `AudioMixerApi::MAX_BUF_SIZE`, the length of the buffers the Java and
Objective-C wrappers pass to `Mix`. -/
def maxBufSize : Int := 7680

/-- `AudioMixerApi::SAMPLE_SIZE`. -/
def sampleSize : Int := 2

/-- `struct MixerSource`. -/
structure MixerSource where
  type : Int32
  ssrc : Int32
  volume : Float32
  path : String
  sampleRate : Int32
  channelNum : Int32

/-- `MixerSource::TYPE_FILE`. -/
def MixerSource.typeFile : Int32 := 1

/-- `MixerSource::TYPE_RECORD`. -/
def MixerSource.typeRecord : Int32 := 2

/-- `struct MixerConfig`. -/
structure MixerConfig where
  sources : List MixerSource
  outputSampleRate : Int32
  outputChannelNum : Int32
  frameDurationMs : Int32

/-! ## Sources of either kind -/

/-- An object derived from `AudioSource`. -/
inductive AudioSource (σ ρ α : Type) where
  | file (source : AudioFileSource σ ρ α)
  | record (source : AudioRecordSource)

namespace AudioSource

variable {σ ρ α γ : Type}

/-- `Ssrc`. -/
def ssrc : AudioSource σ ρ α → Int32
  | .file s => s.ssrc
  | .record s => s.ssrc

/-- `volume_`. -/
def volume : AudioSource σ ρ α → Float32
  | .file s => s.volume
  | .record s => s.volume

/-- `PreferredSampleRate`. -/
def preferredSampleRate : AudioSource σ ρ α → Int
  | .file s => s.preferredSampleRate
  | .record s => s.preferredSampleRate

/-- `UpdateVolume`. -/
def updateVolume (volume : Float32) : AudioSource σ ρ α → AudioSource σ ρ α
  | .file s => .file { s with volume }
  | .record s => .record { s with volume }

/-- `GetAudioFrameWithInfo`. -/
def getAudioFrameWithInfo (P : Platform σ ρ α γ) (source : AudioSource σ ρ α)
    (sampleRateHz : Int) (audioFrame : AudioFrame) (uninit : Nat → Int16) :
    Except Fault (AudioFrameInfo × AudioFrame × AudioSource σ ρ α) :=
  match source with
  | .file s => do
      let (info, frame, s) ←
        s.getAudioFrameWithInfo P.abi P.av P.scaleWithSat P.fuel sampleRateHz audioFrame
      return (info, frame, .file s)
  | .record s => do
      let (info, frame, s) ←
        s.getAudioFrameWithInfo P.abi P.scaleWithSat sampleRateHz audioFrame uninit
      return (info, frame, .record s)

end AudioSource

/-! ## The mixer -/

/-- `class AudioMixer`, with the state behind `mixer_` and the objects
that exist. -/
structure AudioMixer (σ ρ α γ : Type) where
  outputSampleRate : Int32
  outputChannelNum : Int32
  frameDurationMs : Int32
  reportOutputSamples : Int
  realOutputSamples : Int
  heap : Heap (AudioSource σ ρ α)
  /-- `sources_`. -/
  sources : Std.ExtTreeMap Int32 Ptr
  /-- The list of `mixer_`. -/
  registered : List SourceStatus
  /-- The frame combiner of `mixer_`. -/
  combiner : γ
  mixedFrame : AudioFrame

/-- What `Mix` gives back: its return value, the elements it copied out,
and how the sources answered. -/
structure MixResult where
  size : Int
  output : List Int16
  asked : List Asked

namespace AudioMixer

variable {σ ρ α γ : Type}

/-- The object `DoAddSource` makes, after its checks. -/
def makeSource (P : Platform σ ρ α γ) (m : AudioMixer σ ρ α γ) (source : MixerSource)
    (uninit : Nat → Int16) : Except Fault (AudioSource σ ρ α) :=
  if source.type = MixerSource.typeRecord then do
    require (source.sampleRate = m.outputSampleRate)
      (.check "record source must have the same sample rate as output")
    require (source.channelNum = m.outputChannelNum)
      (.check "record source must have the same channels as output")
    let record ← AudioRecordSource.create source.ssrc m.outputSampleRate.toInt
      m.outputChannelNum.toInt m.frameDurationMs.toInt source.volume uninit
    return .record record
  else do
    let file ← AudioFileSource.create P.av P.fuel source.ssrc (P.files source.path)
      m.outputSampleRate.toInt m.outputChannelNum.toInt m.frameDurationMs.toInt source.volume
    return .file file

/-- `DoAddSource`: the mixer and the pointer returned. Both `insert` and
`emplace` leave an entry that is already there. -/
def doAddSource (P : Platform σ ρ α γ) (m : AudioMixer σ ρ α γ) (source : MixerSource)
    (uninit : Nat → Int16) : Except Fault (AudioMixer σ ρ α γ × Ptr) := do
  let object ← m.makeSource P source uninit
  let (p, heap) := m.heap.alloc object
  return ({ m with heap, sources := m.sources.insertIfNew source.ssrc p }, p)

/-- A `shared_ptr` to `p` other than those in `sources_` goes away. -/
def release (m : AudioMixer σ ρ α γ) (p : Ptr) : AudioMixer σ ρ α γ :=
  if m.sources.toList.any (fun item => item.2 = p) then m
  else { m with heap := m.heap.free p }

/-- `mixer_->AddSource(p)`. -/
def register (m : AudioMixer σ ρ α γ) (p : Ptr) (uninit : Nat → Int16) : AudioMixer σ ρ α γ :=
  { m with registered := SourceStatus.add m.registered p uninit }

/-- The members before the constructor adds sources. -/
def bare (P : Platform σ ρ α γ) (config : MixerConfig)
    (reportOutputSamples realOutputSamples : Int) (uninit : Nat → Int16) :
    AudioMixer σ ρ α γ where
  outputSampleRate := config.outputSampleRate
  outputChannelNum := config.outputChannelNum
  frameDurationMs := config.frameDurationMs
  reportOutputSamples := reportOutputSamples
  realOutputSamples := realOutputSamples
  heap := Heap.empty
  sources := ∅
  registered := []
  combiner := P.webrtc.initial
  mixedFrame := { dataArray := uninit }

/-- The first loop of the constructor. The pointer `DoAddSource` returns
is dropped at once. -/
def addAll (P : Platform σ ρ α γ) (uninit : Nat → Int16) :
    AudioMixer σ ρ α γ → List MixerSource → Except Fault (AudioMixer σ ρ α γ)
  | m, [] => .ok m
  | m, source :: rest => do
      let (m, p) ← m.doAddSource P source uninit
      addAll P uninit (m.release p) rest

/-- The second loop of the constructor, over `sources_` in the order of
its keys. -/
def registerAll (uninit : Nat → Int16) (m : AudioMixer σ ρ α γ) : AudioMixer σ ρ α γ :=
  m.sources.toList.foldl (fun m item => m.register item.2 uninit) m

/-- `AudioMixer::AudioMixer`. The number 10 is
`AudioMixerImpl::kFrameDurationInMs`. -/
def create (P : Platform σ ρ α γ) (config : MixerConfig) (uninit : Nat → Int16) :
    Except Fault (AudioMixer σ ρ α γ) := do
  require (config.frameDurationMs.toInt ≤ 10) (.check "frame duration too long")
  let reportOutputSamples ← divInt32 config.outputSampleRate.toInt (1000 / 10)
  let framesPerSecond ← divInt32 1000 config.frameDurationMs.toInt
  let realOutputSamples ← divInt32 config.outputSampleRate.toInt framesPerSecond
  let m ← addAll P uninit (bare P config reportOutputSamples realOutputSamples uninit)
    config.sources
  let m := m.registerAll uninit
  let mixedFrame ← m.mixedFrame.updateFrame P.abi 0 none (toSizeT P.abi m.reportOutputSamples)
    m.outputSampleRate.toInt .kUndefined .kVadUnknown (toSizeT P.abi m.outputChannelNum.toInt)
  return { m with mixedFrame }

/-- `AudioMixer::UpdateVolume`. -/
def updateVolume (m : AudioMixer σ ρ α γ) (ssrc : Int32) (volume : Float32) :
    AudioMixer σ ρ α γ :=
  match m.sources[ssrc]? with
  | some p => { m with heap := m.heap.modify p (AudioSource.updateVolume volume) }
  | none => m

/-- `AudioMixer::AddSource`. The local `shared_ptr` goes away when it
returns. -/
def addSource (P : Platform σ ρ α γ) (m : AudioMixer σ ρ α γ) (source : MixerSource)
    (uninit : Nat → Int16) : Except Fault (AudioMixer σ ρ α γ × Bool) := do
  let (m, p) ← m.doAddSource P source uninit
  return ((m.register p uninit).release p, true)

/-- `AudioMixer::RemoveSource`. -/
def removeSource (m : AudioMixer σ ρ α γ) (ssrc : Int32) : AudioMixer σ ρ α γ × Bool :=
  match m.sources[ssrc]? with
  | some p =>
      let m := { m with
        registered := SourceStatus.remove m.registered p
        sources := m.sources.erase ssrc }
      (m.release p, true)
  | none => (m, false)

/-- `AudioMixer::AddRecordedData`. The `reinterpret_cast` does not look
at the kind of the source. -/
def addRecordedData (P : Platform σ ρ α γ) (m : AudioMixer σ ρ α γ) (ssrc : Int32)
    (data : Nat → UInt8) (size : Int32) (uninit : Nat → Int16) :
    Except Fault (AudioMixer σ ρ α γ) :=
  match m.sources[ssrc]? with
  | none => .ok m
  | some p =>
      match m.heap.get? p with
      | none => .error .danglingPointer
      | some (.file _) => .error .invalidCast
      | some (.record s) => do
          let s ← s.onAudioRecorded P.abi data size.toInt uninit
          return { m with heap := m.heap.modify p (fun _ => .record s) }

/-- The rates `CalculateOutputFrequency` collects. -/
def preferredRates (heap : Heap (AudioSource σ ρ α)) :
    List SourceStatus → Except Fault (List Int)
  | [] => .ok []
  | status :: rest =>
      match heap.get? status.audioSource with
      | none => .error .danglingPointer
      | some source => do
          let rates ← preferredRates heap rest
          return source.preferredSampleRate :: rates

/-- `GetAudioFromSources`: every source of the list is asked once. -/
def askSources (P : Platform σ ρ α γ) (sampleRateHz : Int) (uninit : Nat → Int16) :
    Heap (AudioSource σ ρ α) → List SourceStatus →
      Except Fault (Heap (AudioSource σ ρ α) × List Asked)
  | heap, [] => .ok (heap, [])
  | heap, status :: rest =>
      match heap.get? status.audioSource with
      | none => .error .danglingPointer
      | some source => do
          let (info, frame, source') ←
            source.getAudioFrameWithInfo P sampleRateHz status.audioFrame uninit
          let (heap, asked) ← askSources P sampleRateHz uninit
            (heap.modify status.audioSource (fun _ => source')) rest
          return (heap, ⟨{ status with audioFrame := frame }, info, source.volume⟩ :: asked)

/-- The size `Mix` obtains from `av_samples_get_buffer_size`. -/
def mixSize (P : Platform σ ρ α γ) (m : AudioMixer σ ρ α γ) : Int :=
  P.av.samplesGetBufferSize m.outputChannelNum.toInt m.realOutputSamples kOutputSampleFormat 1

/-- `AudioMixer::Mix`. -/
def mix (P : Platform σ ρ α γ) (m : AudioMixer σ ρ α γ) (uninit : Nat → Int16) :
    Except Fault (AudioMixer σ ρ α γ × MixResult) := do
  let rates ← preferredRates m.heap m.registered
  let sampleRateHz := P.webrtc.calculateOutputRate rates
  let (heap, asked) ← askSources P sampleRateHz uninit m.heap m.registered
  let combined := P.webrtc.combine m.combiner (toSizeT P.abi m.outputChannelNum.toInt)
    sampleRateHz asked m.mixedFrame
  let size := m.mixSize P
  require (0 ≤ size) .invalidCopy
  return ({ m with
      heap
      registered := SourceStatus.rampAll asked combined.ramped
      combiner := combined.combiner
      mixedFrame := combined.mixedFrame },
    { size, output := firstN combined.mixedFrame.data (size.toNat / 2), asked })

/-- `AudioMixer::~AudioMixer`: every source of `sources_` is unregistered,
then the map is cleared, and its pointers go away. -/
def destroy (m : AudioMixer σ ρ α γ) : AudioMixer σ ρ α γ :=
  let registered := m.sources.toList.foldl
    (fun list item => SourceStatus.remove list item.2) m.registered
  m.sources.toList.foldl (fun m item => m.release item.2) { m with registered, sources := ∅ }

end AudioMixer

/-! ## Calls and runs -/

/-- A call of the public API after construction. -/
inductive MixerCall where
  | addSource (source : MixerSource)
  | removeSource (ssrc : Int32)
  | updateVolume (ssrc : Int32) (volume : Float32)
  | addRecordedData (ssrc : Int32) (data : Nat → UInt8) (size : Int32)
  | mix

/-- A call, and what the memory allocated during it holds at first. -/
structure MixerOp where
  call : MixerCall
  uninit : Nat → Int16

/-- What a call gives back. For `Mix` also `sources_` at the time, so
that an answer can be attributed to an ssrc. -/
inductive MixerReply where
  | added (ok : Bool)
  | removed (ok : Bool)
  | done
  | mixed (result : MixResult) (sources : Std.ExtTreeMap Int32 Ptr)

/-- The mixer as a machine. -/
def mixerMachine {σ ρ α γ : Type} (P : Platform σ ρ α γ) :
    Machine (AudioMixer σ ρ α γ) MixerOp MixerReply Fault where
  step m op :=
    match op.call with
    | .addSource source => do
        let (m', ok) ← m.addSource P source op.uninit
        return (m', .added ok)
    | .removeSource ssrc => .ok ((m.removeSource ssrc).1, .removed (m.removeSource ssrc).2)
    | .updateVolume ssrc volume => .ok (m.updateVolume ssrc volume, .done)
    | .addRecordedData ssrc data size => do
        let m' ← m.addRecordedData P ssrc data size op.uninit
        return (m', .done)
    | .mix => do
        let (m', result) ← m.mix P op.uninit
        return (m', .mixed result m.sources)

/-- `m` is a state of a mixer: constructed, then used. -/
def Reachable {σ ρ α γ : Type} (P : Platform σ ρ α γ) (m : AudioMixer σ ρ α γ) : Prop :=
  ∃ config uninit m₀ ops replies, AudioMixer.create P config uninit = .ok m₀ ∧
    (mixerMachine P).run m₀ ops = .ok (m, replies)

end L4AudioMixer.Mixer
