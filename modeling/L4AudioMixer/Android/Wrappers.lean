/-
L4AudioMixer.Android.Wrappers — the model of the Java classes over the
native ones: `AudioFileDecoder.java`, `AudioFileSource.java`,
`AudioResampler.java`, `AudioBuffer.java`, and the functions of
`audio_mixer_jni.cpp` behind them.

Each class owns a native object and the arrays it passes down. A native
call gets the address of an array, so nothing tells it the length; an
`AudioBuffer` here is that length and the `size` the last call left. The
contents are what the native model returns.
-/
import L4AudioMixer.Lib.Java
import L4AudioMixer.Lib.Machine
import L4AudioMixer.Mixer.AudioMixer

namespace L4AudioMixer.Android

open L4AudioMixer.Lib
open L4AudioMixer.Libav
open L4AudioMixer.Source (kOutputSampleFormat ReadResult Resampled)
open L4AudioMixer.Decoder (Consumed)
open L4AudioMixer.Mixer (maxBufSize sampleSize)

/-- `class AudioBuffer`. -/
structure AudioBuffer where
  length : Nat
  size : Int
  deriving DecidableEq, Repr

/-- `AudioBuffer.setSize`. -/
def AudioBuffer.setSize (buffer : AudioBuffer) (size : Int) : AudioBuffer :=
  { buffer with size }

variable {σ ρ α : Type}

/-! ## `AudioFileDecoder` -/

/-- `class AudioFileDecoder`. -/
structure AudioFileDecoder (σ α : Type) where
  native : Decoder.AudioFileDecoder σ α
  samplesPerBuf : Int
  buffer : AudioBuffer

namespace AudioFileDecoder

/-- The constructor, on the file its path opens. -/
def create (fuel : Nat) (file : MediaFile σ α) (frameDurationMs : Int) :
    Except Java.Abrupt (AudioFileDecoder σ α) := do
  let native ← Java.native (Decoder.create fuel file)
  let framesPerSecond ← Java.div 1000 frameDurationMs
  let samplesPerBuf ← Java.div native.sampleRate framesPerSecond
  let bufferSize := Java.mul (Java.mul samplesPerBuf native.channels) sampleSize
  let length ← Java.newArray bufferSize
  return { native, samplesPerBuf, buffer := { length, size := bufferSize } }

/-- `consume`, with what the native call stored. -/
def consume (fuel : Nat) (d : AudioFileDecoder σ α) :
    Except Java.Abrupt (AudioFileDecoder σ α × Consumed α) := do
  let (native, consumed) ← Java.native (Decoder.consume fuel d.native d.samplesPerBuf)
  return ({ d with native, buffer := d.buffer.setSize consumed.size }, consumed)

/-- A decoder as a machine that takes `consume` calls. -/
def machine (fuel : Nat) : Machine (AudioFileDecoder σ α) Unit (Consumed α) Java.Abrupt where
  step d _ := d.consume fuel

end AudioFileDecoder

/-! ## `AudioFileSource` -/

/-- `class AudioFileSource`. -/
structure AudioFileSource (σ ρ α : Type) where
  native : Source.AudioFileSource σ ρ α
  buffer : AudioBuffer

namespace AudioFileSource

/-- `nativeInit`. -/
def nativeInit (av : LibAv ρ α) (fuel : Nat) (file : MediaFile σ α)
    (outputSampleRate outputChannelNum frameDurationMs : Int) :
    Except Fault (Source.AudioFileSource σ ρ α) :=
  Source.AudioFileSource.create av fuel 0 file outputSampleRate outputChannelNum
    frameDurationMs 1

/-- The constructor, on the file its path opens. -/
def create (av : LibAv ρ α) (fuel : Nat) (file : MediaFile σ α)
    (outputSampleRate outputChannelNum frameDurationMs : Int) :
    Except Java.Abrupt (AudioFileSource σ ρ α) := do
  let native ← Java.native
    (nativeInit av fuel file outputSampleRate outputChannelNum frameDurationMs)
  let length ← Java.newArray maxBufSize
  return { native, buffer := { length, size := 0 } }

/-- `read`, with what the native call returned. -/
def read (av : LibAv ρ α) (fuel : Nat) (s : AudioFileSource σ ρ α) :
    Except Java.Abrupt (AudioFileSource σ ρ α × ReadResult α) := do
  let (native, result) ← Java.native (s.native.read av fuel)
  return ({ s with native, buffer := s.buffer.setSize result.ret }, result)

/-- A file source as a machine that takes `read` calls. -/
def machine (av : LibAv ρ α) (fuel : Nat) :
    Machine (AudioFileSource σ ρ α) Unit (ReadResult α) Java.Abrupt where
  step s _ := s.read av fuel

end AudioFileSource

/-! ## `AudioResampler` -/

/-- `class AudioResampler`. -/
structure AudioResampler (ρ : Type) where
  native : Source.AudioResampler ρ
  inputBuffer : AudioBuffer
  outputBuffer : AudioBuffer

/-- A call of `AudioResampler.resample`: the samples in the buffer passed,
and its size. -/
structure ResampleCall (α : Type) where
  inputBuffer : Nat → α
  inputSize : Int

namespace AudioResampler

/-- The constructor. -/
def create (av : LibAv ρ α)
    (inputSampleRate inputChannelNum outputSampleRate outputChannelNum frameDurationMs : Int) :
    Except Java.Abrupt (AudioResampler ρ) := do
  let native ← Java.native (Source.AudioResampler.create av kOutputSampleFormat inputSampleRate
    inputChannelNum kOutputSampleFormat outputSampleRate outputChannelNum)
  let framesPerSecond ← Java.div 1000 frameDurationMs
  let inputSamplesPerBuf ← Java.div inputSampleRate framesPerSecond
  let inputBufferSize := Java.mul (Java.mul inputSamplesPerBuf inputChannelNum) sampleSize
  let inputLength ← Java.newArray inputBufferSize
  let outputSamplesPerBuf ← Java.div outputSampleRate framesPerSecond
  let outputBufferSize := Java.mul (Java.mul outputSamplesPerBuf outputChannelNum) sampleSize
  -- there may be some delay in swr, so the output buffer may be larger
  let outputBufferSize := Java.mul outputBufferSize 2
  let outputLength ← Java.newArray outputBufferSize
  return {
    native
    inputBuffer := { length := inputLength, size := inputBufferSize }
    outputBuffer := { length := outputLength, size := 0 } }

/-- `resample`, with what the native call returned. -/
def resample (av : LibAv ρ α) (r : AudioResampler ρ) (call : ResampleCall α) :
    Except Java.Abrupt (AudioResampler ρ × Resampled α) := do
  let (native, resampled) ←
    Java.native (r.native.resample av call.inputBuffer call.inputSize)
  return ({ r with native, outputBuffer := r.outputBuffer.setSize resampled.ret }, resampled)

/-- A resampler as a machine that takes `resample` calls. -/
def machine (av : LibAv ρ α) :
    Machine (AudioResampler ρ) (ResampleCall α) (Resampled α) Java.Abrupt where
  step r call := r.resample av call

end AudioResampler

/-! ## Blocks per second -/

/-- The block durations of the wrappers come at least once a second. -/
theorem framesPerSecond_pos {frameDurationMs : Int} (hlow : 1 ≤ frameDurationMs)
    (hhigh : frameDurationMs ≤ 1000) : 0 < (1000 : Int).tdiv frameDurationMs :=
  tdiv_pos_of_le (by omega) hhigh

/-- `1000 / frameDurationMs`, in Java. -/
theorem div_framesPerSecond {frameDurationMs : Int} (hlow : 1 ≤ frameDurationMs) :
    Java.div 1000 frameDurationMs = .ok ((1000 : Int).tdiv frameDurationMs) :=
  Java.div_of_pos (by decide) (by omega)

end L4AudioMixer.Android
