/-
L4AudioMixer.Ios.AudioMixerTestController — the model of the record test
of `AudioMixerTestController.mm`, with `PYAAudioMixer.mm` and
`PYAAudioBuffer.mm` below it.

The audio device calls back with recorded data of any size; the mixer is
to be given blocks of 10 ms. `deliverRecordAndMixedData` keeps what is
less than a block in `_buffer` until the next callback: first it
completes the block left there, then it copies whole blocks out of the
callback's data one by one, and what is left at the end stays in
`_buffer`. The model also gives back the blocks it handed to
`addRecordedData`.

`_buffer` comes from `malloc`; a copy that does not lie in it, or has a
negative length, is undefined behaviour.
-/
import L4AudioMixer.Lib.Loop
import L4AudioMixer.Mixer.AudioMixer

namespace L4AudioMixer.Ios

open L4AudioMixer.Lib
open L4AudioMixer.Mixer

variable {σ ρ α γ : Type}

/-! ## `PYAAudioMixer` -/

/-- `PYAAudioBuffer`: what lies behind `data`, and `size` in bytes. -/
structure PYAAudioBuffer where
  data : Nat → Int16
  size : Int

/-- `PYAAudioMixer`, with the object behind `nativeMixer`. -/
structure PYAAudioMixer (σ ρ α γ : Type) where
  nativeMixer : Option (AudioMixer σ ρ α γ)
  buffer : PYAAudioBuffer

namespace PYAAudioMixer

/-- `initWithConfig:`. -/
def initWithConfig (P : Platform σ ρ α γ) (config : MixerConfig) (uninit : Nat → Int16) :
    Except Fault (PYAAudioMixer σ ρ α γ) := do
  let nativeMixer ← AudioMixer.create P config uninit
  return { nativeMixer := some nativeMixer, buffer := { data := uninit, size := 0 } }

/-- `addRecordedData:data:size:`. -/
def addRecordedData (P : Platform σ ρ α γ) (m : PYAAudioMixer σ ρ α γ) (ssrc : Int32)
    (data : Nat → UInt8) (size : Int32) (uninit : Nat → Int16) :
    Except Fault (PYAAudioMixer σ ρ α γ) :=
  match m.nativeMixer with
  | none => .ok m
  | some nativeMixer => do
      let nativeMixer ← nativeMixer.addRecordedData P ssrc data size uninit
      return { m with nativeMixer := some nativeMixer }

/-- `mix`: the buffer returned is the mixer's own. -/
def mix (P : Platform σ ρ α γ) (m : PYAAudioMixer σ ρ α γ) (uninit : Nat → Int16) :
    Except Fault (PYAAudioMixer σ ρ α γ × PYAAudioBuffer) :=
  match m.nativeMixer with
  | none => .ok (m, m.buffer)
  | some nativeMixer => do
      let (nativeMixer, result) ← nativeMixer.mix P uninit
      let buffer := { data := store m.buffer.data result.output, size := result.size }
      return ({ nativeMixer := some nativeMixer, buffer }, buffer)

end PYAAudioMixer

/-! ## The controller -/

/-- `kBytesPerSample`. -/
def kBytesPerSample : Int := 2

/-- The members of `AudioMixerTestController` that the record test uses;
`bufferLength` is the number of bytes `_buffer` was allocated with, and
`dump` what was written through `_recordAndMixDumper`. -/
structure AudioMixerTestController (σ ρ α γ : Type) where
  sampleRate : Int32
  channelNum : Int32
  buffer : Nat → UInt8
  bufferLength : Nat
  remainingData : Int
  mixer : PYAAudioMixer σ ρ α γ
  dump : List Int16

/-- A record callback: the data, the number of sample frames, and what
the memory allocated during it holds at first. -/
structure RecordCallback where
  buf : Nat → UInt8
  numFrames : Int32
  uninit : Nat → Int16

/-- The variables of `deliverRecordAndMixedData` while it runs, and the
blocks handed over so far. -/
structure Delivery (σ ρ α γ : Type) where
  controller : AudioMixerTestController σ ρ α γ
  recordedSize : Int
  bufReadPos : Int
  handed : List (List UInt8)

namespace AudioMixerTestController

/-- `doRecordAndMix`, while no test runs. `kChannelNum` is fixed by the
build, `path` is that of `morning-48k.mp3`, and `malloced` what `_buffer`
holds at first. -/
def doRecordAndMix (P : Platform σ ρ α γ) (kChannelNum : Int32) (path : String)
    (malloced : Nat → UInt8) (uninit : Nat → Int16) :
    Except Fault (AudioMixerTestController σ ρ α γ) := do
  let sampleRate : Int32 := 48000
  let mixerSources : List MixerSource := [
    { type := MixerSource.typeFile, ssrc := 1, volume := 1, path
      sampleRate := 0, channelNum := 0 },
    { type := MixerSource.typeRecord, ssrc := 2, volume := 1, path := ""
      sampleRate, channelNum := kChannelNum }]
  let mixer ← PYAAudioMixer.initWithConfig P
    { sources := mixerSources
      outputSampleRate := sampleRate
      outputChannelNum := kChannelNum
      frameDurationMs := 10 } uninit
  return {
    sampleRate, channelNum := kChannelNum
    buffer := malloced, bufferLength := 7860
    remainingData := 0, mixer, dump := [] }

/-- `recordedSize`, as a callback begins. -/
def recordedSize (c : AudioMixerTestController σ ρ α γ) (numFrames : Int32) :
    Except Fault Int := do
  let samples ← mulInt32 numFrames.toInt c.channelNum.toInt
  mulInt32 samples kBytesPerSample

/-- `mixerInputSize`. -/
def mixerInputSize (c : AudioMixerTestController σ ρ α γ) : Except Fault Int := do
  let frame ← mulInt32 kBytesPerSample c.channelNum.toInt
  let second ← mulInt32 frame c.sampleRate.toInt
  divInt32 second 100

/-- `memcpy((int8_t*)_buffer + offset, src, size)`. -/
def memcpyToBuffer (c : AudioMixerTestController σ ρ α γ) (offset : Int) (src : Nat → UInt8)
    (size : Int) : Except Fault (AudioMixerTestController σ ρ α γ) := do
  require (0 ≤ size ∧ offset + size ≤ c.bufferLength) .invalidCopy
  return { c with buffer := copy c.buffer offset.toNat src size.toNat }

/-- `[_mixer addRecordedData:2 data:_buffer size:mixerInputSize]`, `mix`,
and the `write` of what it mixed. -/
def mixBlock (P : Platform σ ρ α γ) (c : AudioMixerTestController σ ρ α γ)
    (mixerInputSize : Int) (uninit : Nat → Int16) :
    Except Fault (AudioMixerTestController σ ρ α γ) := do
  let mixer ← c.mixer.addRecordedData P 2 c.buffer (Int32.ofInt mixerInputSize) uninit
  let (mixer, mixedBuffer) ← mixer.mix P uninit
  return { c with
    mixer, dump := c.dump ++ firstN mixedBuffer.data (mixedBuffer.size.toNat / 2) }

/-- `if (_remainingData > 0)`: the front of the data goes behind what is
left of the callbacks before. -/
def fillRemaining (P : Platform σ ρ α γ) (buf : Nat → UInt8) (mixerInputSize : Int)
    (uninit : Nat → Int16) (d : Delivery σ ρ α γ) : Except Fault (Delivery σ ρ α γ) :=
  let c := d.controller
  if 0 < c.remainingData then do
    let size := min d.recordedSize (mixerInputSize - c.remainingData)
    let c ← c.memcpyToBuffer c.remainingData buf size
    let d := { d with
      recordedSize := d.recordedSize - size, bufReadPos := d.bufReadPos + size }
    if size = mixerInputSize - c.remainingData then
      let c' ← c.mixBlock P mixerInputSize uninit
      return { d with
        controller := { c' with remainingData := 0 }
        handed := d.handed ++ [firstN c.buffer mixerInputSize.toNat] }
    else
      -- `_remainingData` stays as it was
      return { d with controller := c }
  else return d

/-- One pass of `while (recordedSize > 0)`. -/
def deliverBody (P : Platform σ ρ α γ) (buf : Nat → UInt8) (mixerInputSize : Int)
    (uninit : Nat → Int16) (d : Delivery σ ρ α γ) :
    LoopStep (Delivery σ ρ α γ) (Except Fault (Delivery σ ρ α γ)) :=
  if 0 < d.recordedSize then
    let size := min d.recordedSize mixerInputSize
    match d.controller.memcpyToBuffer 0 (fun i => buf (i + d.bufReadPos.toNat)) size with
    | .error fault => .done (.error fault)
    | .ok c =>
        if d.recordedSize < mixerInputSize then
          .done (.ok { d with controller := { c with remainingData := d.recordedSize } })
        else
          match c.mixBlock P mixerInputSize uninit with
          | .error fault => .done (.error fault)
          | .ok c' =>
              .next {
                controller := c'
                recordedSize := d.recordedSize - mixerInputSize
                bufReadPos := d.bufReadPos + mixerInputSize
                handed := d.handed ++ [firstN c.buffer mixerInputSize.toNat] }
  else .done (.ok d)

/-- The loop. A pass takes a block, so with blocks of at least a byte
there are no more passes than bytes, and one at the end. -/
def deliverLoop (P : Platform σ ρ α γ) (buf : Nat → UInt8) (mixerInputSize : Int)
    (uninit : Nat → Int16) (d : Delivery σ ρ α γ) : Except Fault (Delivery σ ρ α γ) :=
  (loop (deliverBody P buf mixerInputSize uninit) (d.recordedSize.toNat + 1) d).getD
    (.error .outOfFuel)

/-- `deliverRecordAndMixedData:numFrames:`, with the blocks handed to
`addRecordedData`. -/
def deliverRecordAndMixedData (P : Platform σ ρ α γ) (c : AudioMixerTestController σ ρ α γ)
    (callback : RecordCallback) :
    Except Fault (AudioMixerTestController σ ρ α γ × List (List UInt8)) := do
  let recordedSize ← c.recordedSize callback.numFrames
  let mixerInputSize ← c.mixerInputSize
  let d ← fillRemaining P callback.buf mixerInputSize callback.uninit
    { controller := c, recordedSize, bufReadPos := 0, handed := [] }
  let d ← deliverLoop P callback.buf mixerInputSize callback.uninit d
  return (d.controller, d.handed)

end AudioMixerTestController

/-! ## Runs -/

/-- What a callback comes to: the blocks handed to `addRecordedData`, and
`_remainingData` after it. -/
structure Delivered where
  handed : List (List UInt8)
  remainingData : Int

/-- The controller as a machine that takes record callbacks. -/
def recordAndMixMachine (P : Platform σ ρ α γ) :
    Machine (AudioMixerTestController σ ρ α γ) RecordCallback Delivered Fault where
  step c callback := do
    let (c', handed) ← c.deliverRecordAndMixedData P callback
    return (c', { handed, remainingData := c'.remainingData })

end L4AudioMixer.Ios
