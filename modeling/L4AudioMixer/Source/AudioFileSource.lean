/-
L4AudioMixer.Source.AudioFileSource — the model of
`src/audio_file_source.cpp`.

`input_buffer_` is the block of memory into which `Consume` stores and
from which `Resample` reads; a short read leaves what it held before
behind the new samples. `Read` tells end of file from the byte count
alone.
-/
import L4AudioMixer.Decoder.AudioFileDecoder
import L4AudioMixer.Source.AudioResampler
import L4AudioMixer.Source.AudioSource

namespace L4AudioMixer.Source

open L4AudioMixer.Lib
open L4AudioMixer.Libav
open L4AudioMixer.WebRtc
open L4AudioMixer.Decoder (AudioFileDecoder)

/-- `class AudioFileSource`, with the `volume_` of its base. -/
structure AudioFileSource (σ ρ α : Type) where
  volume : Float32
  ssrc : Int32
  inputSampleRate : Int
  inputChannelNum : Int
  inputFormat : AVSampleFormat
  inputSamples : Int
  outputSampleRate : Int
  outputChannelNum : Int
  frameDurationMs : Int
  reportOutputSamples : Int
  realOutputSamples : Int
  inputBuffer : Nat → α
  decoder : AudioFileDecoder σ α
  resampler : AudioResampler ρ

/-- `kOutputSampleFormat`. -/
def kOutputSampleFormat : AVSampleFormat := .s16

/-- What `Read` gives back: its return value, the samples it handed to
the resampler (none when it reported end of file) and the elements the
resampler wrote. -/
structure ReadResult (α : Type) where
  ret : Int
  handed : Option (List α)
  written : List Int16

namespace AudioFileSource

variable {σ ρ α : Type}

/-- The constructor, on the file its path opens. The number 10 is
`AudioMixerImpl::kFrameDurationInMs`. -/
def create (av : LibAv ρ α) (fuel : Nat) (ssrc : Int32) (file : MediaFile σ α)
    (outputSampleRate outputChannelNum frameDurationMs : Int) (volume : Float32) :
    Except Fault (AudioFileSource σ ρ α) := do
  let reportOutputSamples ← divInt32 outputSampleRate (1000 / 10)
  let framesPerSecond ← divInt32 1000 frameDurationMs
  let realOutputSamples ← divInt32 outputSampleRate framesPerSecond
  let decoder ← Decoder.create fuel file
  let inputSamples ← divInt32 decoder.sampleRate framesPerSecond
  let error := av.samplesAllocArrayAndSamples decoder.channels inputSamples
    decoder.sampleFormat 0
  require (0 ≤ error) (.checkCode error)
  let resampler ← AudioResampler.create av decoder.sampleFormat decoder.sampleRate
    decoder.channels kOutputSampleFormat outputSampleRate outputChannelNum
  return {
    volume, ssrc
    inputSampleRate := decoder.sampleRate
    inputChannelNum := decoder.channels
    inputFormat := decoder.sampleFormat
    inputSamples, outputSampleRate, outputChannelNum, frameDurationMs
    reportOutputSamples, realOutputSamples
    inputBuffer := av.freshSamples
    decoder, resampler }

/-- `AudioFileSource::Read`. -/
def read (av : LibAv ρ α) (fuel : Nat) (s : AudioFileSource σ ρ α) :
    Except Fault (AudioFileSource σ ρ α × ReadResult α) := do
  let (decoder, consumed) ← Decoder.consume fuel s.decoder s.inputSamples
  let inputBuffer := store s.inputBuffer consumed.samples
  if consumed.size ≠ av.samplesGetBufferSize s.inputChannelNum s.inputSamples s.inputFormat 1 then
    return ({ s with decoder, inputBuffer },
      { ret := averrorEof, handed := none, written := [] })
  let (resampler, resampled) ← s.resampler.resample av inputBuffer consumed.size
  return ({ s with decoder, inputBuffer, resampler },
    { ret := resampled.ret, handed := some resampled.input, written := resampled.written })

/-- `AudioFileSource::GetAudioFrameWithInfo`. -/
def getAudioFrameWithInfo (abi : Abi) (av : LibAv ρ α) (scaleWithSat : ScaleWithSat) (fuel : Nat)
    (s : AudioFileSource σ ρ α) (sampleRateHz : Int) (audioFrame : AudioFrame) :
    Except Fault (AudioFrameInfo × AudioFrame × AudioFileSource σ ρ α) := do
  if sampleRateHz ≠ s.outputSampleRate then
    return (.kError, audioFrame, s)
  let frame ← audioFrame.updateFrame abi 0 none (toSizeT abi s.reportOutputSamples)
    s.outputSampleRate .kNormalSpeech .kVadActive (toSizeT abi s.outputChannelNum)
  let frame := frame.mutableData
  let (s, result) ← s.read av fuel
  let frame := { frame with dataArray := store frame.dataArray result.written }
  if result.ret < 0 then
    return (.kError, frame, s)
  return (.kNormal, applyVolume scaleWithSat s.volume frame, s)

/-- `PreferredSampleRate`. -/
def preferredSampleRate (s : AudioFileSource σ ρ α) : Int := s.outputSampleRate

end AudioFileSource

end L4AudioMixer.Source
