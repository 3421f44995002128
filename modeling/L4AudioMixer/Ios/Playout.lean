/-
L4AudioMixer.Ios.Playout — the model of the playout tests of
`AudioMixerTestController.mm`: `doDecodeMono`, `doResample`,
`doDecodeAny`, `doMix`, `doStopTest` and `NeedMorePlayData`.

The audio device calls back for any number of samples; a test gets its
data in blocks. Three of the four `deliver…Data` methods are the same two
steps around a different block: copy what `_remainingData` counts of the
block in the buffer, then get new blocks until the request is served.
`BlockSupply` is what differs: how a block is got, where it lies and the
size its rest is looked for behind.

A session is a sequence of buttons and callbacks. `doStopTest` deletes
what a test uses before it stops the device, so a callback can come in
between; `stop` takes the list of those that do. Null pointers are
`none`.
-/
import L4AudioMixer.Ios.AudioMixerTestController
import L4AudioMixer.Libav.SampleContract

namespace L4AudioMixer.Ios

open L4AudioMixer.Lib
open L4AudioMixer.Libav
open L4AudioMixer.Source
open L4AudioMixer.Mixer
open L4AudioMixer.Decoder (AudioFileDecoder)

variable {σ ρ α γ κ ω : Type}

/-- How the app can fail: a null pointer is followed, or a call of the
library does not return. -/
inductive PlayoutFault where
  | nullPointer
  | fault (fault : Fault)
  deriving DecidableEq, Repr

/-- A call of the library. -/
def libraryCall {β : Type} (x : Except Fault β) : Except PlayoutFault β := x.mapError .fault

/-! ## Bytes -/

/-- The bytes of 16-bit elements, low byte first. -/
def pcmBytes (xs : List Int16) : List UInt8 := xs.flatMap (elementBytes 2)

/-- A block of 16-bit elements, as bytes. -/
def asBytes (data : Nat → Int16) : Nat → UInt8 := fun i =>
  if i % 2 = 0 then (data (i / 2)).toUInt16.toUInt8
  else ((data (i / 2)).toUInt16 >>> 8).toUInt8

/-- `memcpy((int8_t*)buf + pos, ((int8_t*)src) + offset, size)`, from a
block of `length` bytes. -/
def memcpyToDevice (buf : Nat → UInt8) (pos : Int) (src : Option (Nat → UInt8)) (length : Nat)
    (offset size : Int) : Except PlayoutFault (Nat → UInt8) :=
  match src with
  | none => .error .nullPointer
  | some src => do
      libraryCall (require (0 ≤ size ∧ 0 ≤ offset ∧ offset + size ≤ length) .invalidCopy)
      return copy buf pos.toNat (fun i => src (i + offset.toNat)) size.toNat

/-! ## Delivering from blocks -/

/-- Where a test gets its blocks: `κ` are the members this changes, `ω`
what it finds in fresh memory. -/
structure BlockSupply (κ ω : Type) where
  /-- Get the next block; the number is what the code takes for its size. -/
  next : κ → ω → Except PlayoutFault (κ × Int)
  /-- The memory the block lies in, and its length. -/
  data : κ → Option (Nat → UInt8)
  length : Nat
  /-- The size from which the offset of the remaining data is computed. -/
  size : κ → Int

/-- The variables of a `deliver…Data` method while it runs, with the
members it uses. -/
structure Playing (κ : Type) where
  supply : κ
  remainingData : Int
  wantedSize : Int
  bufWritePos : Int
  buf : Nat → UInt8

/-- `if (_remainingData > 0)`. -/
def takeRemaining (B : BlockSupply κ ω) (d : Playing κ) : Except PlayoutFault (Playing κ) :=
  if 0 < d.remainingData then do
    let size := min d.remainingData d.wantedSize
    let buf ← memcpyToDevice d.buf 0 (B.data d.supply) B.length
      (B.size d.supply - d.remainingData) size
    return { d with
      remainingData := d.remainingData - size
      wantedSize := d.wantedSize - size
      bufWritePos := d.bufWritePos + size
      buf }
  else return d

/-- One pass of `while (wantedSize > 0)`. -/
def pullBody (B : BlockSupply κ ω) (uninit : ω) (d : Playing κ) :
    LoopStep (Playing κ) (Except PlayoutFault (Playing κ)) :=
  if 0 < d.wantedSize then
    match B.next d.supply uninit with
    | .error fault => .done (.error fault)
    | .ok (supply, n) =>
        let size := min n d.wantedSize
        match memcpyToDevice d.buf d.bufWritePos (B.data supply) B.length 0 size with
        | .error fault => .done (.error fault)
        | .ok buf =>
            .next {
              supply
              remainingData := n - size
              wantedSize := d.wantedSize - size
              bufWritePos := d.bufWritePos + size
              buf }
  else .done (.ok d)

/-- The two steps. A pass of the loop delivers at least a byte, or fails,
so there are no more passes than bytes, and one at the end. -/
def deliver (B : BlockSupply κ ω) (supply : κ) (remainingData wantedSize : Int)
    (buf : Nat → UInt8) (uninit : ω) : Except PlayoutFault (Playing κ) := do
  let d ← takeRemaining B { supply, remainingData, wantedSize, bufWritePos := 0, buf }
  (loop (pullBody B uninit) (wantedSize.toNat + 1) d).getD (.error (.fault .outOfFuel))

/-! ## The controller -/

/-- `TestType`. -/
inductive TestType where
  | none
  | decodeMono
  | resample
  | decodeAny
  | mix
  | recordAndMix
  deriving DecidableEq, Repr

/-- What the app runs on: the library, the build's channel number, the
bundle, and how samples lie in memory. -/
structure PlayoutSetup (σ ρ α γ : Type) where
  platform : Platform σ ρ α γ
  kChannelNum : Int32
  pathForFileName : String → String
  /-- The contents of `morning.raw`. -/
  raw : List UInt8
  /-- Interleaved 16-bit data as samples. -/
  samples : (Nat → UInt8) → Nat → α
  /-- What `Consume` stores for samples. -/
  stored : List α → List UInt8

/-- The members of `AudioMixerTestController` the playout tests use. `adm`
is `_adm` and whether it plays; `resamplerReader` is what `read` has not
come to. -/
structure PlayoutController (σ ρ α γ : Type) where
  testType : TestType
  sampleRate : Int32
  channelNum : Int32
  remainingData : Int
  decoder : Option (AudioFileDecoder σ α)
  resampler : Option (AudioResampler ρ)
  source : Option (AudioFileSource σ ρ α)
  buffer : Option (Nat → UInt8)
  mixedBuffer : Option PYAAudioBuffer
  mixer : Option (PYAAudioMixer σ ρ α γ)
  resamplerInputSampleRate : Int32
  resamplerInputChannelNum : Int32
  resamplerReader : Option (List UInt8)
  resamplerInputBuffer : Option (Nat → UInt8)
  adm : Option Bool

/-- A playout callback: the device's buffer, the number of sample frames
it asks for, and what memory allocated meanwhile holds at first. -/
structure PlayCallback where
  buf : Nat → UInt8
  nSamples : Nat
  uninit : Nat → Int16

/-- `(int32_t)nSamples`. -/
def PlayCallback.numFrames (callback : PlayCallback) : Int := toInt32 callback.nSamples

/-- What a callback comes to: `nSamplesOut`, and the device's buffer. -/
structure Played where
  nSamplesOut : Nat
  buf : Nat → UInt8

/-- The number of bytes `malloc` is called with for `_buffer`. -/
def mallocSize : Nat := 7680

/-- Blocks from `[_mixer mix]`. -/
def mixSupply (P : Platform σ ρ α γ) :
    BlockSupply (Option (PYAAudioMixer σ ρ α γ) × Option PYAAudioBuffer) (Nat → Int16) where
  next members uninit :=
    match members.1 with
    | none => .ok ((none, none), 0)
    | some mixer => do
        let (mixer, mixedBuffer) ← libraryCall (mixer.mix P uninit)
        return ((some mixer, some mixedBuffer), mixedBuffer.size)
  data members := members.2.map fun mixedBuffer => asBytes mixedBuffer.data
  length := maxBufSize.toNat
  size members := (members.2.map PYAAudioBuffer.size).getD 0

/-- Blocks from `_source->Read(&_buffer)`. -/
def sourceSupply (P : Platform σ ρ α γ) (decodeOutputSize : Int) :
    BlockSupply (Option (AudioFileSource σ ρ α) × Option (Nat → UInt8)) Unit where
  next members _ :=
    match members with
    | (none, _) => .error .nullPointer
    | (some source, buffer) => do
        let (source, result) ← libraryCall (source.read P.av P.fuel)
        match buffer with
        | none => .error .nullPointer
        | some buffer =>
            libraryCall (require ((pcmBytes result.written).length ≤ mallocSize) .invalidCopy)
            return ((some source, some (store buffer (pcmBytes result.written))), result.ret)
  data members := members.2
  length := mallocSize
  size _ := decodeOutputSize

/-- The members the resampler test gets its blocks with. -/
structure ResampleMembers (ρ : Type) where
  resampler : Option (AudioResampler ρ)
  reader : Option (List UInt8)
  inputBuffer : Option (Nat → UInt8)
  buffer : Option (Nat → UInt8)

/-- Blocks from `read` and `_resampler->Resample`. Neither result is
looked at. -/
def resampleSupply (E : PlayoutSetup σ ρ α γ) (resampleInputSize resampleOutputSize : Int) :
    BlockSupply (ResampleMembers ρ) Unit where
  next members _ :=
    match members with
    | { resampler := some resampler, reader, inputBuffer := some inputBuffer
        buffer := some buffer } => do
        let bytes := reader.getD []
        let inputBuffer := store inputBuffer (bytes.take resampleInputSize.toNat)
        let (resampler, resampled) ← libraryCall
          (resampler.resample E.platform.av (E.samples inputBuffer) resampleInputSize)
        libraryCall (require ((pcmBytes resampled.written).length ≤ mallocSize) .invalidCopy)
        return ({
          resampler := some resampler
          reader := reader.map (List.drop resampleInputSize.toNat)
          inputBuffer := some inputBuffer
          buffer := some (store buffer (pcmBytes resampled.written)) }, resampleOutputSize)
    | _ => .error .nullPointer
  data members := members.buffer
  length := mallocSize
  size _ := resampleOutputSize

namespace PlayoutController

/-- The members `init` leaves. -/
def init : PlayoutController σ ρ α γ where
  testType := .none
  sampleRate := 0
  channelNum := 0
  remainingData := 0
  decoder := none
  resampler := none
  source := none
  buffer := none
  mixedBuffer := none
  mixer := none
  resamplerInputSampleRate := 0
  resamplerInputChannelNum := 0
  resamplerReader := none
  resamplerInputBuffer := none
  adm := none

/-- `wantedSize`, as a callback begins. -/
def wantedSize (c : PlayoutController σ ρ α γ) (numFrames : Int) : Except Fault Int := do
  let samples ← mulInt32 numFrames c.channelNum.toInt
  mulInt32 samples kBytesPerSample

/-- `kBytesPerSample * channelNum * sampleRate / 100`. -/
def tenMsSize (channelNum sampleRate : Int32) : Except Fault Int := do
  let frame ← mulInt32 kBytesPerSample channelNum.toInt
  let second ← mulInt32 frame sampleRate.toInt
  divInt32 second 100

/-! ### The `deliver…Data` methods -/

/-- `deliverMonoDecodedData:numFrames:`. The return value of `Consume` is
not looked at. -/
def deliverMonoDecodedData (E : PlayoutSetup σ ρ α γ) (c : PlayoutController σ ρ α γ)
    (callback : PlayCallback) :
    Except PlayoutFault (PlayoutController σ ρ α γ × (Nat → UInt8)) :=
  match c.decoder with
  | none => .error .nullPointer
  | some decoder => do
      let (decoder, consumed) ← libraryCall
        (Decoder.consume E.platform.fuel decoder callback.numFrames)
      return ({ c with decoder := some decoder },
        store callback.buf (E.stored consumed.samples))

/-- `deliverResampledData:numFrames:`. -/
def deliverResampledData (E : PlayoutSetup σ ρ α γ) (c : PlayoutController σ ρ α γ)
    (callback : PlayCallback) :
    Except PlayoutFault (PlayoutController σ ρ α γ × (Nat → UInt8)) := do
  let frame ← libraryCall (mulInt32 kBytesPerSample c.channelNum.toInt)
  let wantedSize ← libraryCall (mulInt32 frame callback.numFrames)
  let resampleInputSize ←
    libraryCall (tenMsSize c.resamplerInputChannelNum c.resamplerInputSampleRate)
  let resampleOutputSize ← libraryCall (tenMsSize c.channelNum c.sampleRate)
  let d ← deliver (resampleSupply E resampleInputSize resampleOutputSize)
    { resampler := c.resampler
      reader := c.resamplerReader
      inputBuffer := c.resamplerInputBuffer
      buffer := c.buffer } c.remainingData wantedSize callback.buf ()
  return ({ c with
    resampler := d.supply.resampler
    resamplerReader := d.supply.reader
    resamplerInputBuffer := d.supply.inputBuffer
    buffer := d.supply.buffer
    remainingData := d.remainingData }, d.buf)

/-- `deliverAnyDecodedData:numFrames:`. -/
def deliverAnyDecodedData (E : PlayoutSetup σ ρ α γ) (c : PlayoutController σ ρ α γ)
    (callback : PlayCallback) :
    Except PlayoutFault (PlayoutController σ ρ α γ × (Nat → UInt8)) := do
  let wantedSize ← libraryCall (c.wantedSize callback.numFrames)
  let decodeOutputSize ← libraryCall (tenMsSize c.channelNum c.sampleRate)
  let d ← deliver (sourceSupply E.platform decodeOutputSize) (c.source, c.buffer)
    c.remainingData wantedSize callback.buf ()
  return ({ c with
    source := d.supply.1, buffer := d.supply.2, remainingData := d.remainingData }, d.buf)

/-- `deliverMixedData:numFrames:`. -/
def deliverMixedData (E : PlayoutSetup σ ρ α γ) (c : PlayoutController σ ρ α γ)
    (callback : PlayCallback) :
    Except PlayoutFault (PlayoutController σ ρ α γ × (Nat → UInt8)) := do
  let wantedSize ← libraryCall (c.wantedSize callback.numFrames)
  let d ← deliver (mixSupply E.platform) (c.mixer, c.mixedBuffer) c.remainingData wantedSize
    callback.buf callback.uninit
  return ({ c with
    mixer := d.supply.1, mixedBuffer := d.supply.2, remainingData := d.remainingData }, d.buf)

/-- `NeedMorePlayData`. -/
def needMorePlayData (E : PlayoutSetup σ ρ α γ) (c : PlayoutController σ ρ α γ)
    (callback : PlayCallback) : Except PlayoutFault (PlayoutController σ ρ α γ × Played) :=
  match c.testType with
  | .decodeMono => do
      let (c, buf) ← c.deliverMonoDecodedData E callback
      return (c, { nSamplesOut := callback.nSamples, buf })
  | .resample => do
      let (c, buf) ← c.deliverResampledData E callback
      return (c, { nSamplesOut := callback.nSamples, buf })
  | .decodeAny => do
      let (c, buf) ← c.deliverAnyDecodedData E callback
      return (c, { nSamplesOut := callback.nSamples, buf })
  | .mix => do
      let (c, buf) ← c.deliverMixedData E callback
      return (c, { nSamplesOut := callback.nSamples, buf })
  | .none | .recordAndMix => .ok (c, { nSamplesOut := 0, buf := callback.buf })

/-! ### The buttons -/

/-- `doStartTest`, for a playout test: the device plays if `InitPlayout`
returns 0. -/
def doStartTest (c : PlayoutController σ ρ α γ) (initPlayout : Bool) :
    PlayoutController σ ρ α γ :=
  { c with adm := some initPlayout }

/-- `doDecodeMono`. -/
def doDecodeMono (E : PlayoutSetup σ ρ α γ) (c : PlayoutController σ ρ α γ)
    (initPlayout : Bool) : Except PlayoutFault (PlayoutController σ ρ α γ) :=
  if c.testType ≠ .none then .ok c
  else do
    let decoder ← libraryCall (Decoder.create E.platform.fuel
      (E.platform.files (E.pathForFileName "morning-mono-16k.mp3")))
    return { c with
      testType := .decodeMono
      sampleRate := 16000
      channelNum := E.kChannelNum
      remainingData := 0
      decoder := some decoder }.doStartTest initPlayout

/-- `doResample`. `malloced` and `mallocedInput` are what the two buffers
hold at first. -/
def doResample (E : PlayoutSetup σ ρ α γ) (c : PlayoutController σ ρ α γ)
    (malloced mallocedInput : Nat → UInt8) (initPlayout : Bool) :
    Except PlayoutFault (PlayoutController σ ρ α γ) :=
  if c.testType ≠ .none then .ok c
  else do
    let resampler ← libraryCall (AudioResampler.create E.platform.av kOutputSampleFormat 44100 2
      kOutputSampleFormat 16000 E.kChannelNum.toInt)
    return { c with
      testType := .resample
      resamplerInputSampleRate := 44100
      resamplerInputChannelNum := 2
      sampleRate := 16000
      channelNum := E.kChannelNum
      remainingData := 0
      resampler := some resampler
      resamplerReader := some E.raw
      buffer := some malloced
      resamplerInputBuffer := some mallocedInput }.doStartTest initPlayout

/-- `doDecodeAny`. -/
def doDecodeAny (E : PlayoutSetup σ ρ α γ) (c : PlayoutController σ ρ α γ)
    (malloced : Nat → UInt8) (initPlayout : Bool) :
    Except PlayoutFault (PlayoutController σ ρ α γ) :=
  if c.testType ≠ .none then .ok c
  else do
    let sampleRate : Int32 := 48000
    let source ← libraryCall (AudioFileSource.create E.platform.av E.platform.fuel 1
      (E.platform.files (E.pathForFileName "morning-48k.mp3")) sampleRate.toInt
      E.kChannelNum.toInt 10 1)
    return { c with
      testType := .decodeAny
      sampleRate
      channelNum := E.kChannelNum
      remainingData := 0
      source := some source
      buffer := some malloced }.doStartTest initPlayout

/-- The sources of the mix test. -/
def mixerSources (E : PlayoutSetup σ ρ α γ) : List MixerSource :=
  [(1, "morning-48k.mp3"), (2, "iamyou-48k.mp3"), (3, "lion-48k.mp3")].map fun file =>
    { type := MixerSource.typeFile, ssrc := file.1, volume := 1
      path := E.pathForFileName file.2, sampleRate := 0, channelNum := 0 }

/-- `doMix`. -/
def doMix (E : PlayoutSetup σ ρ α γ) (c : PlayoutController σ ρ α γ) (uninit : Nat → Int16)
    (initPlayout : Bool) : Except PlayoutFault (PlayoutController σ ρ α γ) :=
  if c.testType ≠ .none then .ok c
  else do
    let sampleRate : Int32 := 48000
    let mixer ← libraryCall (PYAAudioMixer.initWithConfig E.platform
      { sources := mixerSources E
        outputSampleRate := sampleRate
        outputChannelNum := E.kChannelNum
        frameDurationMs := 3 } uninit)
    return { c with
      testType := .mix
      sampleRate
      channelNum := E.kChannelNum
      remainingData := 0
      mixer := some mixer }.doStartTest initPlayout

/-- `doStopTest`, up to the call of `StopPlayout`. -/
def stopReleases (c : PlayoutController σ ρ α γ) : PlayoutController σ ρ α γ :=
  { c with
    buffer := none
    resamplerInputBuffer := none
    decoder := none
    resampler := none
    source := none
    resamplerReader := none }

/-- `doStopTest`, from the call of `StopPlayout` on. -/
def stopEnds (c : PlayoutController σ ρ α γ) : Except PlayoutFault (PlayoutController σ ρ α γ) :=
  match c.adm with
  | none => .error .nullPointer
  | some _ => .ok { c with adm := none, testType := .none }

end PlayoutController

/-! ## Sessions -/

/-- The buttons that start a playout test. -/
inductive PlayoutButton where
  | doDecodeMono
  | doResample
  | doDecodeAny
  | doMix
  deriving DecidableEq, Repr

/-- What happens to the controller. -/
inductive PlayoutEvent where
  | start (button : PlayoutButton) (malloced mallocedInput : Nat → UInt8)
      (uninit : Nat → Int16) (initPlayout : Bool)
  | needMorePlayData (callback : PlayCallback)
  /-- `doStopTest`, with the callbacks that come before it stops the
  device. -/
  | stop (during : List PlayCallback)

/-- The controller as the device sees it: it is called back only while
the device plays. -/
def deviceMachine (E : PlayoutSetup σ ρ α γ) :
    Machine (PlayoutController σ ρ α γ) PlayCallback (Option Played) PlayoutFault where
  step c callback :=
    if c.adm = some true then do
      let (c', played) ← c.needMorePlayData E callback
      return (c', some played)
    else .ok (c, none)

/-- A press of a button. -/
def press (E : PlayoutSetup σ ρ α γ) (c : PlayoutController σ ρ α γ)
    (malloced mallocedInput : Nat → UInt8) (uninit : Nat → Int16) (initPlayout : Bool) :
    PlayoutButton → Except PlayoutFault (PlayoutController σ ρ α γ)
  | .doDecodeMono => c.doDecodeMono E initPlayout
  | .doResample => c.doResample E malloced mallocedInput initPlayout
  | .doDecodeAny => c.doDecodeAny E malloced initPlayout
  | .doMix => c.doMix E uninit initPlayout

/-- The controller as a machine; the replies are what the device got. -/
def playoutMachine (E : PlayoutSetup σ ρ α γ) :
    Machine (PlayoutController σ ρ α γ) PlayoutEvent (List (Option Played)) PlayoutFault where
  step c event :=
    match event with
    | .start button malloced mallocedInput uninit initPlayout => do
        let c' ← press E c malloced mallocedInput uninit initPlayout button
        return (c', [])
    | .needMorePlayData callback => do
        let (c', played) ← (deviceMachine E).step c callback
        return (c', [played])
    | .stop during => do
        let (c', played) ← (deviceMachine E).run c.stopReleases during
        let c' ← c'.stopEnds
        return (c', played)

end L4AudioMixer.Ios
