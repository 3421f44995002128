/-
L4AudioMixer.Source.AudioResampler — the model of
`src/audio_resampler.cpp`.

The conversion itself is `libswresample`'s. What the class adds is the
accounting: the sample count it derives from a byte count, the output
space it offers, and the byte count it reports.
-/
import L4AudioMixer.Lib.Memory
import L4AudioMixer.Libav.Api

namespace L4AudioMixer.Source

open L4AudioMixer.Lib
open L4AudioMixer.Libav

/-- `class AudioResampler`. -/
structure AudioResampler (ρ : Type) where
  context : ρ
  inputFormat : AVSampleFormat
  inputSampleRate : Int
  inputChannelNum : Int
  outputFormat : AVSampleFormat
  outputSampleRate : Int
  outputChannelNum : Int

/-- What `Resample` gives back, with the samples it handed to
`swr_convert` and the elements written to the output buffer. -/
structure Resampled (α : Type) where
  ret : Int
  input : List α
  written : List Int16

namespace AudioResampler

variable {ρ α : Type}

/-- The layout the constructor picks for a channel count. -/
def channelLayout (channelNum : Int) : ChannelLayout :=
  if channelNum = 1 then .mono else .stereo

/-- `AudioResampler::AudioResampler`. -/
def create (av : LibAv ρ α) (inputFormat : AVSampleFormat)
    (inputSampleRate inputChannelNum : Int) (outputFormat : AVSampleFormat)
    (outputSampleRate outputChannelNum : Int) : Except Fault (AudioResampler ρ) := do
  require av.swrAllocated (.check "context_.get()")
  let (error, context) := av.swrInit
    { inChannelLayout := channelLayout inputChannelNum
      inSampleRate := inputSampleRate
      inSampleFmt := inputFormat
      outChannelLayout := channelLayout outputChannelNum
      outSampleRate := outputSampleRate
      outSampleFmt := outputFormat }
  require (0 ≤ error) (.checkCode error)
  return {
    context, inputFormat, inputSampleRate, inputChannelNum
    outputFormat, outputSampleRate, outputChannelNum }

/-- `output_samples` for so many `input_samples`: the space `swr_convert`
is offered, in samples per channel. -/
def spaceFor (av : LibAv ρ α) (r : AudioResampler ρ) (inputSamples : Int) : Int :=
  toInt32 (av.rescaleRndUp inputSamples r.outputSampleRate r.inputSampleRate)

/-- What `Resample` returns for what `swr_convert` returned. -/
def reported (av : LibAv ρ α) (r : AudioResampler ρ) (convertedSamples : Int) : Int :=
  if convertedSamples < 0 then convertedSamples
  else av.samplesGetBufferSize r.outputChannelNum convertedSamples r.outputFormat 0

theorem reported_of_nonneg (av : LibAv ρ α) (r : AudioResampler ρ) {samples : Int}
    (h : 0 ≤ samples) :
    r.reported av samples = av.samplesGetBufferSize r.outputChannelNum samples r.outputFormat 0 :=
  if_neg (Int.not_lt.mpr h)

theorem reported_of_neg (av : LibAv ρ α) (r : AudioResampler ρ) {code : Int} (h : code < 0) :
    r.reported av code = code := if_pos h

/-- `AudioResampler::Resample(input_buffer, input_size, output_buffer)`. -/
def resample (av : LibAv ρ α) (r : AudioResampler ρ) (inputBuffer : Nat → α) (inputSize : Int) :
    Except Fault (AudioResampler ρ × Resampled α) := do
  let bytesPerChannel ← divInt32 inputSize r.inputChannelNum
  let inputSamples ← divInt32 bytesPerChannel r.inputFormat.bytesPerSample
  let input := firstN inputBuffer inputSamples.toNat
  let converted := av.swrConvert r.context (r.spaceFor av inputSamples) input
  return ({ r with context := converted.context },
    { ret := r.reported av converted.ret, input := input, written := converted.written })

end AudioResampler

end L4AudioMixer.Source
