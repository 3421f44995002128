/-
L4AudioMixer.Source.AudioRecordSource — the model of
`src/audio_record_source.cpp`.

`takeFrame` is `GetAudioFrameWithInfo` up to the call of `ApplyVolume`.
A recorded chunk is a pointer to bytes and a signed size, as the caller
passes it; the conversion of the size to `size_t` comes before the
division by `sizeof(int16_t)`, as in the source. The platforms are all
little-endian.
-/
import L4AudioMixer.WebRtc.BufferT
import L4AudioMixer.Source.AudioSource

namespace L4AudioMixer.Source

open L4AudioMixer.Lib
open L4AudioMixer.WebRtc

/-- `class AudioRecordSource`, with the `volume_` of its base. -/
structure AudioRecordSource where
  volume : Float32
  ssrc : Int32
  sampleRate : Int
  channelNum : Int
  frameDurationMs : Int
  reportOutputSamples : Int
  realBufferNumElements : Int
  buffer : BufferT Int16

namespace AudioRecordSource

/-- The 16-bit value stored in two bytes, low byte first. -/
def int16OfBytes (low high : UInt8) : Int16 := (low.toUInt16 ||| (high.toUInt16 <<< 8)).toInt16

/-- A pointer to bytes taken as a pointer to `int16_t`. -/
def asInt16 (data : Nat → UInt8) : Nat → Int16 :=
  fun i => int16OfBytes (data (2 * i)) (data (2 * i + 1))

/-- The constructor. The number 10 is `AudioMixerImpl::kFrameDurationInMs`. -/
def create (ssrc : Int32) (sampleRate channelNum frameDurationMs : Int) (volume : Float32)
    (uninit : Nat → Int16) : Except Fault AudioRecordSource := do
  let reportOutputSamples ← divInt32 sampleRate (1000 / 10)
  let elements ← mulInt32 channelNum sampleRate
  let framesPerSecond ← divInt32 1000 frameDurationMs
  let realBufferNumElements ← divInt32 elements framesPerSecond
  return {
    volume, ssrc, sampleRate, channelNum, frameDurationMs
    reportOutputSamples, realBufferNumElements
    buffer := BufferT.empty uninit }

/-- `OnAudioRecorded(data, size)`. -/
def onAudioRecorded (abi : Abi) (s : AudioRecordSource) (data : Nat → UInt8) (size : Int)
    (uninit : Nat → Int16) : Except Fault AudioRecordSource := do
  let buffer ← s.buffer.appendData abi 2 (asInt16 data) (toSizeT abi size / 2) uninit
  return { s with buffer }

/-- `GetAudioFrameWithInfo` without the last step, `ApplyVolume`. -/
def takeFrame (abi : Abi) (s : AudioRecordSource) (sampleRateHz : Int) (audioFrame : AudioFrame)
    (uninit : Nat → Int16) : Except Fault (AudioFrameInfo × AudioFrame × AudioRecordSource) := do
  if sampleRateHz ≠ s.sampleRate then
    return (.kError, audioFrame, s)
  if s.buffer.size < toSizeT abi s.realBufferNumElements then
    return (.kMuted, audioFrame, s)
  let n := toSizeT abi s.realBufferNumElements
  let audioFrame ← audioFrame.updateFrame abi 0 s.buffer.data
    (toSizeT abi s.reportOutputSamples) s.sampleRate .kNormalSpeech .kVadActive
    (toSizeT abi s.channelNum)
  let moved := s.buffer.moveToFront n (s.buffer.size - n)
  return (.kNormal, audioFrame, { s with buffer := moved.setSize (s.buffer.size - n) uninit })

/-- `GetAudioFrameWithInfo(sample_rate_hz, audio_frame)`. -/
def getAudioFrameWithInfo (abi : Abi) (scaleWithSat : ScaleWithSat) (s : AudioRecordSource)
    (sampleRateHz : Int) (audioFrame : AudioFrame) (uninit : Nat → Int16) :
    Except Fault (AudioFrameInfo × AudioFrame × AudioRecordSource) := do
  let (info, frame, s) ← s.takeFrame abi sampleRateHz audioFrame uninit
  if info = .kNormal then
    return (info, applyVolume scaleWithSat s.volume frame, s)
  return (info, frame, s)

/-- `PreferredSampleRate`. -/
def preferredSampleRate (s : AudioRecordSource) : Int := s.sampleRate

end AudioRecordSource

end L4AudioMixer.Source
