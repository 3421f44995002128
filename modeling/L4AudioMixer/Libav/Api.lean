/-
L4AudioMixer.Libav.Api — the part of the FFmpeg API the mixer calls.

FFmpeg is linked as a library; only its headers are in the tree. What
the headers fix is defined here (the packet and format types, the FIFO of
`audio_fifo.h`, error codes); everything else is a function the models
take as a parameter: a `Codec` answers `avcodec_send_packet` and
`avcodec_receive_frame` from a state of its own, and `MediaFile` records
how the library answers when a path is opened.

A sample is one value for every channel, so a frame of `nb_samples`
samples is a list of that length over an arbitrary type `α`.
-/
import L4AudioMixer.Lib.Cxx

namespace L4AudioMixer.Libav

open L4AudioMixer.Lib

/-- `enum AVSampleFormat`, without the two bookkeeping values. -/
inductive AVSampleFormat where
  | u8 | s16 | s32 | flt | dbl
  | u8p | s16p | s32p | fltp | dblp
  | s64 | s64p
  deriving DecidableEq, Repr

/-- `av_get_bytes_per_sample`. -/
def AVSampleFormat.bytesPerSample : AVSampleFormat → Int
  | .u8 | .u8p => 1
  | .s16 | .s16p => 2
  | .s32 | .s32p | .flt | .fltp => 4
  | .dbl | .dblp | .s64 | .s64p => 8

/-- `AVERROR(EINVAL)`. -/
def averrorEinval : Int := -22

/-- `AVERROR_EOF`. -/
def averrorEof : Int := -541478725

/-- A demuxed packet: the stream it belongs to and its bytes. -/
structure AVPacket where
  streamIndex : Int
  data : List UInt8
  deriving DecidableEq, Repr

/-- What one `av_read_frame` call comes to. -/
inductive ReadFrame where
  | packet (p : AVPacket)
  | failure
  deriving DecidableEq, Repr

/-- The rest of a demuxed file: the answers to the `av_read_frame` calls
to come. Past their end every call fails, as at the end of a file. -/
abbrev AVFormatContext := List ReadFrame

/-- `av_read_frame`. -/
def avReadFrame : AVFormatContext → ReadFrame × AVFormatContext
  | [] => (.failure, [])
  | r :: rest => (r, rest)

/-- The answers of `avcodec_send_packet`. -/
inductive SendPacket where
  | ok
  | eagain
  | eof
  | error (code : Int)
  deriving DecidableEq, Repr

/-- The answers of `avcodec_receive_frame`; a frame is its samples. -/
inductive ReceiveFrame (α : Type) where
  | frame (samples : List α)
  | eagain
  | eof
  | error (code : Int)

/-- A decoder behind the send/receive API, with internal state `σ`. A
packet without data is a flush packet and is `none` here. -/
structure Codec (σ α : Type) where
  sendPacket : σ → Option AVPacket → SendPacket × σ
  receiveFrame : σ → ReceiveFrame α × σ

/-- `av_audio_fifo_read`: takes samples from the front. -/
def avAudioFifoRead {α : Type} (fifo : List α) (nbSamples : Int) : Int × List α × List α :=
  if nbSamples < 0 then (averrorEinval, [], fifo)
  else
    let taken := fifo.take nbSamples.toNat
    (taken.length, taken, fifo.drop nbSamples.toNat)

/-- How the library answers while `AudioFileDecoder` opens one path: the
status of each call the constructor checks, and the stream it ends with. -/
structure MediaFile (σ α : Type) where
  frameAllocated : Bool
  packetAllocated : Bool
  openInput : Int
  findStreamInfo : Int
  findBestStream : Int
  decoderFound : Bool
  contextAllocated : Bool
  parametersToContext : Int
  open2 : Int
  sampleFormat : AVSampleFormat
  sampleRate : Int
  channels : Int
  fifoAllocated : Bool
  formatContext : AVFormatContext
  codec : Codec σ α
  codecContext : σ

/-- The two channel layouts the resampler configures. -/
inductive ChannelLayout where
  | mono
  | stereo
  deriving DecidableEq, Repr

/-- The options set on a `SwrContext` before `swr_init`. -/
structure SwrOptions where
  inChannelLayout : ChannelLayout
  inSampleRate : Int
  inSampleFmt : AVSampleFormat
  outChannelLayout : ChannelLayout
  outSampleRate : Int
  outSampleFmt : AVSampleFormat
  deriving DecidableEq, Repr

/-- What one `swr_convert` call comes to: its return value, the 16-bit
elements it wrote to the output buffer, and the context after it. -/
structure SwrConverted (ρ : Type) where
  ret : Int
  written : List Int16
  context : ρ

/-- The library functions the sources call besides the decoder's, with
contexts `ρ` of `libswresample` and samples `α`. -/
structure LibAv (ρ α : Type) where
  /-- `av_samples_get_buffer_size(nullptr, nb_channels, nb_samples, fmt, align)`. -/
  samplesGetBufferSize : (nbChannels nbSamples : Int) → AVSampleFormat → (align : Int) → Int
  /-- The status of `av_samples_alloc_array_and_samples`. -/
  samplesAllocArrayAndSamples :
    (nbChannels nbSamples : Int) → AVSampleFormat → (align : Int) → Int
  /-- What a buffer allocated by it holds at first. -/
  freshSamples : Nat → α
  /-- `av_rescale_rnd(a, b, c, AV_ROUND_UP)`. -/
  rescaleRndUp : (a b c : Int) → Int
  /-- Whether `swr_alloc` gives a context. -/
  swrAllocated : Bool
  /-- `swr_init` of a context with these options: status and context. -/
  swrInit : SwrOptions → Int × ρ
  /-- `swr_convert(context, out, out_count, in, in_count)`. -/
  swrConvert : ρ → (outCount : Int) → (input : List α) → SwrConverted ρ

/-- What `samplefmt.h` and `swresample.h` say of these functions and the
models rely on. -/
structure LibAv.Documented {ρ α : Type} (av : LibAv ρ α) : Prop where
  /-- A buffer is allocated for positive counts only, and its size
  without alignment is the size of its samples. -/
  allocated : ∀ nbChannels nbSamples fmt,
    0 ≤ av.samplesAllocArrayAndSamples nbChannels nbSamples fmt 0 →
      0 < nbChannels ∧ 0 < nbSamples ∧
      av.samplesGetBufferSize nbChannels nbSamples fmt 1
        = nbChannels * nbSamples * fmt.bytesPerSample
  /-- `AVERROR_EOF` is for the end of a file; neither function has one. -/
  sizeNotEof : ∀ nbChannels nbSamples fmt align,
    av.samplesGetBufferSize nbChannels nbSamples fmt align ≠ averrorEof
  convertNotEof : ∀ context outCount input,
    (av.swrConvert context outCount input).ret ≠ averrorEof

end L4AudioMixer.Libav
