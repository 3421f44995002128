/-
L4AudioMixer.Decoder.AudioFileDecoder — the model of
`src/audio_file_decoder.cpp`.

The two loops of the class keep their shape: `fillDecoderBody` and
`fillFifoBody` are one pass each of the `while` statements of
`FillDecoder` and `FillFifo`, and the functions run them with
`Lib.loop`. `packet_` is `none` after `av_packet_unref`.

`log` is no member of the class. It records, for the statements about
whole runs, the packets the demuxer gave out, the packets the codec
accepted, the frames it returned and the samples `Consume` handed over.
-/
import L4AudioMixer.Lib.Loop
import L4AudioMixer.Libav.Api

namespace L4AudioMixer.Decoder

open L4AudioMixer.Lib
open L4AudioMixer.Libav

/-- The history of one decoder's calls to FFmpeg. -/
structure DecoderLog (α : Type) where
  read : List AVPacket := []
  accepted : List AVPacket := []
  received : List (List α) := []
  delivered : List α := []

/-- `class AudioFileDecoder`, with the fields of `codec_context_` it
reads. -/
structure AudioFileDecoder (σ α : Type) where
  fifoCapacity : Int
  streamNo : Int
  formatContext : AVFormatContext
  codec : Codec σ α
  codecContext : σ
  sampleFormat : AVSampleFormat
  sampleRate : Int
  channels : Int
  packet : Option AVPacket
  packetConsumed : Bool
  fifo : List α
  log : DecoderLog α

variable {σ α : Type}

/-- The second half of a pass of `FillDecoder`: offer `packet_` to the
codec and act on the answer. -/
def sendHeldPacket (d : AudioFileDecoder σ α) :
    LoopStep (AudioFileDecoder σ α) (Except Fault (AudioFileDecoder σ α)) :=
  match d.codec.sendPacket d.codecContext d.packet with
  | (.ok, c) =>
      .next { d with
        codecContext := c
        packet := none
        packetConsumed := true
        log := { d.log with accepted := d.log.accepted ++ d.packet.toList } }
  | (.eagain, c) => .done (.ok { d with codecContext := c })
  | (.eof, c) => .done (.ok { d with codecContext := c })
  | (.error code, _) => .done (.error (.checkCode code))

/-- One pass of the `while (true)` of `FillDecoder`. -/
def fillDecoderBody (d : AudioFileDecoder σ α) :
    LoopStep (AudioFileDecoder σ α) (Except Fault (AudioFileDecoder σ α)) :=
  if d.packetConsumed then
    match avReadFrame d.formatContext with
    | (.failure, rest) => .done (.ok { d with formatContext := rest })
    | (.packet p, rest) =>
        let log := { d.log with read := d.log.read ++ [p] }
        if p.streamIndex ≠ d.streamNo then
          .next { d with formatContext := rest, packet := none, log := log }
        else
          sendHeldPacket { d with
            formatContext := rest, packet := some p, packetConsumed := false, log := log }
  else sendHeldPacket d

/-- `AudioFileDecoder::FillDecoder`. -/
def fillDecoder (fuel : Nat) (d : AudioFileDecoder σ α) :
    Except Fault (AudioFileDecoder σ α) :=
  (loop fillDecoderBody fuel d).getD (.error .outOfFuel)

/-- One pass of the `while` of `FillFifo`: the level test, then the codec. -/
def fillFifoBody (d : AudioFileDecoder σ α) :
    LoopStep (AudioFileDecoder σ α) (AudioFileDecoder σ α) :=
  if (d.fifo.length : Int) < d.fifoCapacity then
    match d.codec.receiveFrame d.codecContext with
    | (.frame samples, c) =>
        .next { d with
          codecContext := c
          fifo := d.fifo ++ samples
          log := { d.log with received := d.log.received ++ [samples] } }
    | (_, c) => .done { d with codecContext := c }
  else .done d

/-- `AudioFileDecoder::FillFifo`. -/
def fillFifo (fuel : Nat) (d : AudioFileDecoder σ α) :
    Except Fault (AudioFileDecoder σ α) :=
  match loop fillFifoBody fuel d with
  | none => .error .outOfFuel
  | some d' => .ok d'

/-- What `Consume` gives back: its return value and the samples it stored
through the caller's buffer. -/
structure Consumed (α : Type) where
  size : Int
  samples : List α

/-- The part of `Consume` after the two fill calls. -/
def takeFromFifo (d : AudioFileDecoder σ α) (samples : Int) :
    AudioFileDecoder σ α × Consumed α :=
  let targetSamples := min (d.fifo.length : Int) samples
  let (actualSamples, taken, rest) := avAudioFifoRead d.fifo targetSamples
  ({ d with fifo := rest, log := { d.log with delivered := d.log.delivered ++ taken } },
    { size := actualSamples * 2 * d.channels, samples := taken })

/-- `AudioFileDecoder::Consume`. -/
def consume (fuel : Nat) (d : AudioFileDecoder σ α) (samples : Int) :
    Except Fault (AudioFileDecoder σ α × Consumed α) := do
  let d ← fillDecoder fuel d
  let d ← fillFifo fuel d
  return takeFromFifo d samples

/-- The members as the constructor leaves them before its own
`FillDecoder` call. -/
def opened (file : MediaFile σ α) (fifoCapacity : Int) : AudioFileDecoder σ α where
  fifoCapacity := fifoCapacity
  streamNo := file.findBestStream
  formatContext := file.formatContext
  codec := file.codec
  codecContext := file.codecContext
  sampleFormat := file.sampleFormat
  sampleRate := file.sampleRate
  channels := file.channels
  packet := none
  packetConsumed := true
  fifo := []
  log := {}

/-- `AudioFileDecoder::AudioFileDecoder`. The number 10 in the last
division is `AudioMixerImpl::kFrameDurationInMs`. -/
def create (fuel : Nat) (file : MediaFile σ α) : Except Fault (AudioFileDecoder σ α) := do
  require file.frameAllocated (.check "av_frame_alloc fail")
  require file.packetAllocated (.check "av_packet_alloc fail")
  require (0 ≤ file.openInput) (.checkCode file.openInput)
  require (0 ≤ file.findStreamInfo) (.checkCode file.findStreamInfo)
  require (0 ≤ file.findBestStream) (.checkCode file.findBestStream)
  require file.decoderFound (.check "avcodec_find_decoder fail")
  require file.contextAllocated (.check "avcodec_alloc_context3 fail")
  require (0 ≤ file.parametersToContext) (.checkCode file.parametersToContext)
  require (0 ≤ file.open2) (.checkCode file.open2)
  let scaled ← mulInt32 10 file.sampleRate
  let fifoCapacity ← divInt32 scaled (1000 / 10)
  require file.fifoAllocated (.check "av_audio_fifo_alloc fail")
  fillDecoder fuel (opened file fifoCapacity)

end L4AudioMixer.Decoder
