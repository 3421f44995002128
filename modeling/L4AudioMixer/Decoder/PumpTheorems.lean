/-
L4AudioMixer.Decoder.PumpTheorems — no packet is lost, repeated or
reordered on its way from the demuxer to the codec.

`PumpInvariant` relates the decoder to the whole history: the packets the
codec accepted, followed by the one held back, are the packets of the
decoder's stream among those read, what was read followed by what is left
to read is the file, and the log is what the codec answered
(`LogRecords`). Each of the five effects of `FillDecoder` keeps
it (`PumpInvariant.pumpStep`), so every call keeps it; the operations that
run between two `FillDecoder` calls do not touch what it speaks of.
-/
import L4AudioMixer.Lib.Machine
import L4AudioMixer.Decoder.Steps

namespace L4AudioMixer.Decoder

open L4AudioMixer.Lib
open L4AudioMixer.Libav

variable {σ α : Type}

/-- The packets among the answers of `av_read_frame`, in order. -/
def packetsOf (reads : AVFormatContext) : List AVPacket :=
  reads.filterMap fun
    | .packet p => some p
    | .failure => none

/-- The packet that waits for the codec, when there is one. -/
def heldPackets (d : AudioFileDecoder σ α) : List AVPacket :=
  if d.packetConsumed then [] else d.packet.toList

/-- The packets of one stream. -/
def ownPackets (streamNo : Int) (packets : List AVPacket) : List AVPacket :=
  packets.filter (fun p => p.streamIndex = streamNo)

/-- What relates a decoder to the history of `file`. -/
structure PumpInvariant (file : MediaFile σ α) (d : AudioFileDecoder σ α) : Prop
    extends LogRecords file d where
  /-- Accepted packets, then the held one: the own packets read so far. -/
  conserved : d.log.accepted ++ heldPackets d = ownPackets d.streamNo d.log.read
  /-- `packet_` is unsent exactly when `packet_consumed_` is false. -/
  held : d.packet.isSome ↔ d.packetConsumed = false
  /-- What was read and what is left to read make up the file. -/
  unread : d.log.read ++ packetsOf d.formatContext = packetsOf file.formatContext

theorem packetsOf_failure {s rest : AVFormatContext} (h : avReadFrame s = (.failure, rest)) :
    packetsOf s = packetsOf rest := by
  cases s with
  | nil => cases h; rfl
  | cons x xs => cases h; rfl

theorem packetsOf_packet {p : AVPacket} {s rest : AVFormatContext}
    (h : avReadFrame s = (.packet p, rest)) : packetsOf s = p :: packetsOf rest := by
  cases s with
  | nil => simp [avReadFrame] at h
  | cons x xs => cases h; rfl

theorem ownPackets_append_own {streamNo : Int} {p : AVPacket} (h : p.streamIndex = streamNo)
    (packets : List AVPacket) :
    ownPackets streamNo (packets ++ [p]) = ownPackets streamNo packets ++ [p] := by
  simp [ownPackets, h]

theorem ownPackets_append_foreign {streamNo : Int} {p : AVPacket}
    (h : p.streamIndex ≠ streamNo) (packets : List AVPacket) :
    ownPackets streamNo (packets ++ [p]) = ownPackets streamNo packets := by
  simp [ownPackets, h]

/-- Before the constructor's `FillDecoder` nothing was read. -/
theorem PumpInvariant.opened (file : MediaFile σ α) (fifoCapacity : Int) :
    PumpInvariant file (Decoder.opened file fifoCapacity) where
  toLogRecords := .opened file fifoCapacity
  conserved := rfl
  held := by simp [Decoder.opened]
  unread := rfl

/-- Every effect of `FillDecoder` keeps the invariant. -/
theorem PumpInvariant.pumpStep {file : MediaFile σ α} {d d' : AudioFileDecoder σ α}
    (hstep : PumpStep d d') (hd : PumpInvariant file d) : PumpInvariant file d' := by
  have hcons := hd.conserved
  have hheld := hd.held
  have hunread := hd.unread
  have hlog := hd.toLogRecords.pumpStep hstep
  cases hstep with
  | readFailed rest hc hr =>
      exact ⟨hlog, hcons, hheld, by rw [← packetsOf_failure hr]; exact hunread⟩
  | readForeign p rest hc hr hp =>
      refine ⟨hlog, ?_, ?_, ?_⟩
      · simp only [skipPacket, ownPackets_append_foreign hp]
        simpa only [heldPackets, hc, if_true] using hcons
      · simp [skipPacket, hc]
      · rw [packetsOf_packet hr] at hunread
        simpa [skipPacket] using hunread
  | readOwn p rest hc hr hp =>
      refine ⟨hlog, ?_, ?_, ?_⟩
      · simp only [heldPackets, hc, if_true, List.append_nil] at hcons
        simp [holdPacket, heldPackets, ownPackets_append_own hp, hcons]
      · simp [holdPacket]
      · rw [packetsOf_packet hr] at hunread
        simpa [holdPacket] using hunread
  | sendAccepted c hc hs =>
      refine ⟨hlog, ?_, ?_, hunread⟩
      · simp only [heldPackets, hc, Bool.false_eq_true, if_false] at hcons
        simpa [heldPackets, acceptPacket] using hcons
      · simp [acceptPacket]
  | sendRefused answer c hc hs ha =>
      exact ⟨hlog, hcons, hheld, hunread⟩

/-- The calls a decoder makes: `FillDecoder`, one pass of `FillFifo`, and
taking samples from the FIFO. `Consume` is one `FillDecoder`, some passes
and one take. -/
inductive DecoderCall where
  | fillDecoder
  | fillFifoPass
  | takeFromFifo (samples : Int)

/-- The decoder as a machine that takes these calls in any order. -/
def callMachine (fuel : Nat) : Machine (AudioFileDecoder σ α) DecoderCall Unit Fault where
  step d
    | .fillDecoder => do return (← fillDecoder fuel d, ())
    | .fillFifoPass =>
        match fillFifoBody d with
        | .next d' => .ok (d', ())
        | .done d' => .ok (d', ())
    | .takeFromFifo samples => .ok ((takeFromFifo d samples).1, ())

/-- A pass of `FillFifo` moves samples only. -/
theorem PumpInvariant.fillFifoPass {file : MediaFile σ α} {d d' : AudioFileDecoder σ α}
    (hb : fillFifoBody d = .next d' ∨ fillFifoBody d = .done d') (hd : PumpInvariant file d) :
    PumpInvariant file d' := by
  rcases hb with hb | hb
  · obtain ⟨c, samples, hlevel, hr, rfl⟩ := fillFifoBody_next hb
    exact ⟨hd.toLogRecords.fifoStep (.received d c samples hlevel hr), hd.conserved, hd.held,
      hd.unread⟩
  · rcases fillFifoBody_done hb with ⟨_, rfl⟩ | ⟨hlevel, answer, c, hr, ha, rfl⟩
    · exact hd
    · exact ⟨hd.toLogRecords.fifoStep (.nothing d answer c hlevel hr ha), hd.conserved, hd.held,
        hd.unread⟩

/-- Every call returns and keeps the invariant. -/
theorem callMachine_step {file : MediaFile σ α} (hk : SendsWithoutError file.codec)
    (d : AudioFileDecoder σ α) (call : DecoderCall) (hd : PumpInvariant file d) :
    ∃ d' r bound, PumpInvariant file d' ∧
      ∀ fuel, bound ≤ fuel → (callMachine fuel).step d call = .ok (d', r) := by
  cases call with
  | fillDecoder =>
      obtain ⟨d', bound, h⟩ := fillDecoder_ends (d := d) (hd.codec ▸ hk)
      refine ⟨d', (), bound, ?_, fun fuel hle => ?_⟩
      · exact fillDecoder_preserves (PumpInvariant file)
          (fun _ _ => PumpInvariant.pumpStep) hd (h bound le_rfl)
      · simp only [callMachine, h fuel hle]
        rfl
  | fillFifoPass =>
      cases hb : fillFifoBody d with
      | next d' =>
          refine ⟨d', (), 0, hd.fillFifoPass (.inl hb), fun fuel _ => ?_⟩
          simp [callMachine, hb]
      | done d' =>
          refine ⟨d', (), 0, hd.fillFifoPass (.inr hb), fun fuel _ => ?_⟩
          simp [callMachine, hb]
  | takeFromFifo samples =>
      exact ⟨(takeFromFifo d samples).1, (), 0,
        ⟨⟨hd.codec, hd.exchanged⟩, hd.conserved, hd.held, hd.unread⟩, fun _ _ => rfl⟩

/-- **The pump conserves packets.** For every file, every codec whose
`avcodec_send_packet` does not fail with an error, and every sequence of
`FillDecoder` calls with any receiving and taking of samples between
them: every call returns, the accepted packets followed by the held one
are the packets of the stream among those read, in order, and `packet_`
is unsent exactly when `packet_consumed_` is false. The accepted packets
are the ones the codec answered 0 for. -/
theorem fillDecoder_conserves_packets (file : MediaFile σ α) (fifoCapacity : Int)
    (hk : SendsWithoutError file.codec) (calls : List DecoderCall) :
    ∃ d replies bound,
      (∀ fuel, bound ≤ fuel →
        (callMachine fuel).run (opened file fifoCapacity) calls = .ok (d, replies)) ∧
      d.log.accepted ++ (if d.packetConsumed then [] else d.packet.toList)
        = d.log.read.filter (fun p => p.streamIndex = d.streamNo) ∧
      (d.packet.isSome ↔ d.packetConsumed = false) ∧
      d.log.read ++ packetsOf d.formatContext = packetsOf file.formatContext ∧
      Exchanged file.codec file.codecContext d.log.accepted d.log.received d.codecContext := by
  obtain ⟨d, replies, bound, hd, hrun⟩ :=
    Machine.run_ends (M := callMachine) (PumpInvariant file) (fun _ => True)
      (fun d call hd _ => callMachine_step hk d call hd)
      (PumpInvariant.opened file fifoCapacity) (fun call (_ : call ∈ calls) => trivial)
  exact ⟨d, replies, bound, hrun, hd.conserved, hd.held, hd.unread, hd.exchanged⟩

/-! ### A codec with one slot -/

/-- The state of `slotCodec`: whether it was flushed, and the frame it
has not given out yet. -/
structure Slot where
  flushed : Bool := false
  frame : Option (List UInt8) := none
  deriving DecidableEq, Repr

/-- The smallest codec that refuses input: it has room for one packet,
whose frame is the packet's bytes. -/
def slotCodec : Codec Slot UInt8 where
  sendPacket s p :=
    if s.flushed then (.eof, s)
    else
      match p, s.frame with
      | none, _ => (.ok, { s with flushed := true })
      | some p, none => (.ok, { s with frame := if p.data = [] then none else some p.data })
      | some _, some _ => (.eagain, s)
  receiveFrame s :=
    match s.frame with
    | some frame => (.frame frame, { s with frame := none })
    | none => (if s.flushed then .eof else .eagain, s)

/-- A file that opens without trouble, read with `slotCodec`: stream 0,
16-bit samples, one channel. -/
def slotFile (reads : AVFormatContext) : MediaFile Slot UInt8 where
  frameAllocated := true
  packetAllocated := true
  openInput := 0
  findStreamInfo := 0
  findBestStream := 0
  decoderFound := true
  contextAllocated := true
  parametersToContext := 0
  open2 := 0
  sampleFormat := .s16
  sampleRate := 8000
  channels := 1
  fifoAllocated := true
  formatContext := reads
  codec := slotCodec
  codecContext := {}

theorem slotCodec_sendsWithoutError : SendsWithoutError slotCodec := by
  intro c p code
  simp only [slotCodec]
  split
  · simp
  · split <;> simp

/-- Two packets of the stream with a foreign one and a failed read
between them; the second is refused at first. -/
theorem fillDecoder_conserves_packets_slot :
    SendsWithoutError slotCodec ∧
    ∃ d replies bound,
      (∀ fuel, bound ≤ fuel →
        (callMachine fuel).run
            (opened (slotFile [.packet ⟨0, [1, 2]⟩, .packet ⟨1, [9]⟩, .failure,
              .packet ⟨0, [3]⟩]) 800)
            [.fillDecoder, .fillDecoder, .fillFifoPass, .fillDecoder]
          = .ok (d, replies)) ∧
      d.log.accepted ++ (if d.packetConsumed then [] else d.packet.toList)
        = d.log.read.filter (fun p => p.streamIndex = d.streamNo) ∧
      (d.packet.isSome ↔ d.packetConsumed = false) ∧
      d.log.read ++ packetsOf d.formatContext
        = packetsOf [.packet ⟨0, [1, 2]⟩, .packet ⟨1, [9]⟩, .failure, .packet ⟨0, [3]⟩] ∧
      Exchanged slotCodec {} d.log.accepted d.log.received d.codecContext :=
  ⟨slotCodec_sendsWithoutError,
    fillDecoder_conserves_packets _ 800 slotCodec_sendsWithoutError _⟩

end L4AudioMixer.Decoder
