/-
L4AudioMixer.Android.ConsumeTheorems — what the native decoder stores
through the array of the Java one.

The array has two bytes for every sample of every channel and is passed as
the only plane. The decoder stores in the format the codec chose, which
the wrapper does not ask for; `consume_fits_iff` says for which streams the
array is enough. A stream for which it is not has a file that overruns it:
`oneFrameFile` has a given block as its only frame.
-/
import L4AudioMixer.Android.Wrappers
import L4AudioMixer.Source.FileFrameTheorems

namespace L4AudioMixer.Android

open L4AudioMixer.Lib
open L4AudioMixer.Libav
open L4AudioMixer.Decoder (Consumed)
open L4AudioMixer.Mixer (sampleSize)

variable {σ α : Type}

/-! ## Streams and a file for each -/

/-- What a wrapper's native object takes from its file. -/
structure Stream where
  sampleFormat : AVSampleFormat
  sampleRate : Int
  channels : Int

/-- The stream of a file. -/
def streamOf (file : MediaFile σ α) : Stream where
  sampleFormat := file.sampleFormat
  sampleRate := file.sampleRate
  channels := file.channels

/-- The states of a codec that decodes one packet to one frame. -/
inductive OneFrame where
  | waiting
  | ready
  | drained

/-- A codec that gives out a frame after its first packet. -/
def oneFrameCodec (frame : List α) : Codec OneFrame α where
  sendPacket
    | .waiting, _ => (.ok, .ready)
    | c, _ => (.eagain, c)
  receiveFrame
    | .ready => (.frame frame, .drained)
    | c => (.eagain, c)

/-- A file of one packet that opens without trouble. -/
def oneFrameFile (stream : Stream) (frame : List α) : MediaFile OneFrame α where
  frameAllocated := true
  packetAllocated := true
  openInput := 0
  findStreamInfo := 0
  findBestStream := 0
  decoderFound := true
  contextAllocated := true
  parametersToContext := 0
  open2 := 0
  sampleFormat := stream.sampleFormat
  sampleRate := stream.sampleRate
  channels := stream.channels
  fifoAllocated := true
  formatContext := [.packet ⟨0, [0]⟩]
  codec := oneFrameCodec frame
  codecContext := .waiting

/-- The decoder of that file after its constructor. -/
def oneFrameDecoder (stream : Stream) (frame : List α) : Decoder.AudioFileDecoder OneFrame α :=
  { Decoder.opened (oneFrameFile stream frame) ((10 * stream.sampleRate).tdiv 100) with
    formatContext := []
    codecContext := .ready
    log := { read := [⟨0, [0]⟩], accepted := [⟨0, [0]⟩] } }

section OneFrame

variable (stream : Stream) (frame : List α)

theorem create_oneFrameFile (hrate : IsInt32 (10 * stream.sampleRate)) :
    Decoder.create 2 (oneFrameFile stream frame) = .ok (oneFrameDecoder stream frame) := by
  have hscaled : mulInt32 10 (oneFrameFile stream frame).sampleRate
      = .ok (10 * stream.sampleRate) := mulInt32_of_fits hrate
  simp only [Decoder.create, hscaled, divInt32_of_pos (show (0 : Int) < 1000 / 10 by decide), bind,
    Except.bind]
  rfl

/-- From 10 Hz on the FIFO has room, and the frame is there to consume. -/
theorem consume_oneFrameDecoder (hrate : 10 ≤ stream.sampleRate) {samples : Int}
    (hsamples : (frame.length : Int) ≤ samples) :
    ∃ d', Decoder.consume 2 (oneFrameDecoder stream frame) samples
      = .ok (d', { size := frame.length * 2 * stream.channels, samples := frame }) := by
  have hlevel : ((oneFrameDecoder stream frame).fifo.length : Int)
      < (oneFrameDecoder stream frame).fifoCapacity := by
    show 0 < (10 * stream.sampleRate).tdiv 100
    exact tdiv_pos_of_le (by omega) (by omega)
  have hpump : Decoder.fillDecoder 2 (oneFrameDecoder stream frame)
      = .ok (oneFrameDecoder stream frame) := rfl
  have hnext : Decoder.fillFifoBody (oneFrameDecoder stream frame)
      = .next (Decoder.receiveSamples (oneFrameDecoder stream frame) .drained frame) := by
    rw [Decoder.fillFifoBody, if_pos hlevel]
    rfl
  obtain ⟨d', hdone, hfifo, hchannels⟩ : ∃ d', Decoder.fillFifoBody
      (Decoder.receiveSamples (oneFrameDecoder stream frame) .drained frame) = .done d' ∧
        d'.fifo = frame ∧ d'.channels = stream.channels := by
    unfold Decoder.fillFifoBody
    split
    · exact ⟨_, rfl, rfl, rfl⟩
    · exact ⟨_, rfl, rfl, rfl⟩
  have hfill : Decoder.fillFifo 2 (oneFrameDecoder stream frame) = .ok d' := by
    rw [Decoder.fillFifo, loop_next hnext, loop_done hdone]
  rw [Decoder.consume_of_fill hpump hfill, Decoder.takeFromFifo_of_nonneg d' (by omega), hfifo,
    hchannels, List.take_of_length_le (by omega)]
  exact ⟨_, rfl⟩

end OneFrame

/-! ## A FIFO without room -/

/-- Below 10 Hz the capacity is 0, and `FillFifo` never asks for a frame. -/
def NoRoom (d : Decoder.AudioFileDecoder σ α) : Prop := d.fifoCapacity ≤ 0 ∧ d.fifo = []

theorem NoRoom.pumpStep {d d' : Decoder.AudioFileDecoder σ α} (hstep : Decoder.PumpStep d d')
    (h : NoRoom d) : NoRoom d' := by
  cases hstep <;> exact h

theorem NoRoom.fifoStep {d d' : Decoder.AudioFileDecoder σ α} (hstep : Decoder.FifoStep d d')
    (h : NoRoom d) : NoRoom d' := by
  obtain ⟨hcapacity, hfifo⟩ := h
  cases hstep with
  | received c samples hlevel =>
      rw [hfifo, List.length_nil] at hlevel
      omega
  | nothing answer c hlevel =>
      rw [hfifo, List.length_nil] at hlevel
      omega

theorem noRoom_of_create {fuel : Nat} {file : MediaFile σ α} {d : Decoder.AudioFileDecoder σ α}
    (hrate : file.sampleRate < 10) (h : Decoder.create fuel file = .ok d) : NoRoom d := by
  obtain ⟨-, hfill⟩ := Source.decoder_create_ok h
  refine Decoder.fillDecoder_preserves NoRoom (fun _ _ => NoRoom.pumpStep) ⟨?_, rfl⟩ hfill
  show (10 * file.sampleRate).tdiv 100 ≤ 0
  by_contra hpos
  have hle := le_of_tdiv_pos (by decide) (Int.not_le.mp hpos)
  omega

theorem NoRoom.takeFromFifo {d : Decoder.AudioFileDecoder σ α} (hd : NoRoom d) (samples : Int) :
    NoRoom (Decoder.takeFromFifo d samples).1 ∧
      (Decoder.takeFromFifo d samples).2.samples = [] := by
  obtain ⟨hcapacity, hfifo⟩ := hd
  obtain ⟨ret, hread⟩ : ∃ ret,
      avAudioFifoRead d.fifo (min (d.fifo.length : Int) samples) = (ret, [], []) := by
    rw [hfifo]
    unfold avAudioFifoRead
    split <;> simp
  simp only [NoRoom, Decoder.takeFromFifo, hread, hcapacity, and_self]

/-- Nothing is ever consumed. -/
theorem NoRoom.consume {fuel : Nat} {d d' : Decoder.AudioFileDecoder σ α} {samples : Int}
    {consumed : Consumed α} (hd : NoRoom d)
    (h : Decoder.consume fuel d samples = .ok (d', consumed)) :
    NoRoom d' ∧ consumed.samples = [] := by
  simp only [Decoder.consume, bind_eq_ok] at h
  obtain ⟨a, ha, b, hb, ht⟩ := h
  have hroom : NoRoom b := Decoder.fillFifo_preserves NoRoom (fun _ _ => NoRoom.fifoStep)
    (Decoder.fillDecoder_preserves NoRoom (fun _ _ => NoRoom.pumpStep) hd ha) hb
  cases ht
  exact hroom.takeFromFifo samples

/-! ## The file decoder -/

section FileDecoder

variable {fuel : Nat} {file : MediaFile σ α} {frameDurationMs : Int}
  {d d' d₀ : AudioFileDecoder σ α} {reply : Consumed α}

/-- **What the constructor does**: it opens the file, and makes an array of
the computed length. -/
theorem decoder_create_iff (hlow : 1 ≤ frameDurationMs) (hhigh : frameDurationMs ≤ 1000) :
    AudioFileDecoder.create fuel file frameDurationMs = .ok d ↔
      Decoder.create fuel file = .ok d.native ∧
      d.samplesPerBuf = file.sampleRate.tdiv ((1000 : Int).tdiv frameDurationMs) ∧
      (d.buffer.length : Int) = toInt32
        (file.sampleRate.tdiv ((1000 : Int).tdiv frameDurationMs) * file.channels * 2) ∧
      d.buffer.size = d.buffer.length := by
  have hq := framesPerSecond_pos hlow hhigh
  simp only [AudioFileDecoder.create, div_framesPerSecond hlow, bind_eq_ok, Java.native_eq_ok,
    Java.newArray_eq_ok, Java.mul_mul, Except.ok.injEq, exists_eq_left']
  constructor
  · intro h
    obtain ⟨native, hnative, samples, hsamples, length, hlength, hd⟩ := h
    have hfile := Source.decodesFile_of_create hnative
    rw [hfile.sampleRate, Java.div_of_pos (Source.isInt32_rate_of_create hnative) hq] at hsamples
    rw [hfile.channels] at hlength
    cases hsamples
    cases hd
    refine ⟨hnative, rfl, hlength, ?_⟩
    rw [hfile.channels]
    exact hlength.symm
  · intro h
    obtain ⟨hnative, hsamples, hlength, hsize⟩ := h
    have hfile := Source.decodesFile_of_create hnative
    refine ⟨d.native, hnative, d.samplesPerBuf, ?_, d.buffer.length, ?_, ?_⟩
    · rw [hfile.sampleRate, Java.div_of_pos (Source.isInt32_rate_of_create hnative) hq, hsamples]
    · rw [hfile.channels, hsamples, hlength]
      rfl
    · have hbytes : toInt32 (d.samplesPerBuf * d.native.channels * sampleSize)
          = d.buffer.size := by
        rw [hfile.channels, hsamples, hsize, hlength]
        rfl
      rw [hbytes]
      rfl

/-- What `consume` keeps. -/
structure SameDecoder (file : MediaFile σ α) (d₀ d : AudioFileDecoder σ α) : Prop where
  native : Source.DecodesFile file d.native
  samplesPerBuf : d.samplesPerBuf = d₀.samplesPerBuf
  length : d.buffer.length = d₀.buffer.length
  noRoom : file.sampleRate < 10 → NoRoom d.native

theorem SameDecoder.step (hd : SameDecoder file d₀ d)
    (h : (AudioFileDecoder.machine fuel).step d () = .ok (d', reply)) :
    SameDecoder file d₀ d' ∧
      (0 ≤ d₀.samplesPerBuf → (reply.samples.length : Int) ≤ d₀.samplesPerBuf) ∧
      (file.sampleRate < 10 → reply.samples = []) := by
  simp only [AudioFileDecoder.machine, AudioFileDecoder.consume, bind_eq_ok,
    Java.native_eq_ok] at h
  obtain ⟨⟨native, consumed⟩, hconsume, hret⟩ := h
  cases hret
  refine ⟨⟨hd.native.consume hconsume, hd.samplesPerBuf, hd.length,
    fun hrate => ((hd.noRoom hrate).consume hconsume).1⟩, ?_,
    fun hrate => ((hd.noRoom hrate).consume hconsume).2⟩
  intro hsamples
  rw [← hd.samplesPerBuf] at hsamples ⊢
  exact (Source.consume_counts hsamples hd.native hconsume).2

theorem sameDecoder_of_create (hlow : 1 ≤ frameDurationMs) (hhigh : frameDurationMs ≤ 1000)
    (h : AudioFileDecoder.create fuel file frameDurationMs = .ok d₀) : SameDecoder file d₀ d₀ := by
  obtain ⟨hnative, -⟩ := (decoder_create_iff hlow hhigh).mp h
  exact ⟨Source.decodesFile_of_create hnative, rfl, rfl,
    fun hrate => noRoom_of_create hrate hnative⟩

end FileDecoder

/-- Every file with this stream is consumed within the array: in every run
of `consume` calls, each call stores through the one plane pointer it is
given, and no more than the array's length. -/
def ConsumeFits (stream : Stream) (frameDurationMs : Int) : Prop :=
  ∀ (σ α : Type) (file : MediaFile σ α), streamOf file = stream →
    ∀ (fuel : Nat) (d₀ : AudioFileDecoder σ α),
    AudioFileDecoder.create fuel file frameDurationMs = .ok d₀ →
    ∀ (calls : List Unit) (d : AudioFileDecoder σ α) (replies : List (Consumed α)),
    (AudioFileDecoder.machine fuel).run d₀ calls = .ok (d, replies) →
    ∀ reply ∈ replies,
      PlanesFit stream.sampleFormat stream.channels reply.samples.length d₀.buffer.length

/-- A length `x * 2` that lost bits is too small even for `x` bytes. -/
theorem le_toInt32_double_iff {x bytes : Int} (hx : 0 < x) (hbytes : 0 < bytes)
    (h : 0 ≤ toInt32 (x * 2)) :
    x * bytes ≤ toInt32 (x * 2) ↔ bytes ≤ 2 ∧ x * 2 ≤ 2147483647 := by
  by_cases hfits : x * 2 ≤ 2147483647
  · rw [toInt32_of_isInt32 ⟨by omega, hfits⟩]
    simp only [hfits, and_true]
    exact Int.mul_le_mul_left hx
  · -- what is lost is at least 2^32, half of which is more than any `int`
    obtain ⟨k, hk⟩ := exists_toInt32_eq (x * 2)
    have hrange := isInt32_toInt32 (x * 2)
    have hone : x * 1 ≤ x * bytes := Int.mul_le_mul_of_nonneg_left hbytes (by omega)
    simp only [hfits, and_false, iff_false]
    obtain ⟨-, hhigh⟩ := hrange
    omega

section FileDecoder

variable {fuel : Nat} {file : MediaFile σ α} {frameDurationMs : Int} {d₀ : AudioFileDecoder σ α}

/-- The streams whose samples lie in one plane, of at most two bytes each,
and whose length is an `int`. -/
def OnePlaneOfTwoBytes (stream : Stream) (frameDurationMs : Int) : Prop :=
  (stream.sampleFormat.isPlanar = false ∨ stream.channels = 1) ∧
    stream.sampleFormat.bytesPerSample ≤ 2 ∧
    stream.sampleRate.tdiv ((1000 : Int).tdiv frameDurationMs) * stream.channels * 2 ≤ 2147483647

/-- For a full block of a stream with channels, that is what it takes. -/
theorem planesFit_block_iff (hlow : 1 ≤ frameDurationMs) (hhigh : frameDurationMs ≤ 1000)
    (hcreate : AudioFileDecoder.create fuel file frameDurationMs = .ok d₀)
    (hblock : 0 < d₀.samplesPerBuf) (hchannels : 0 < file.channels) :
    PlanesFit file.sampleFormat file.channels d₀.samplesPerBuf.toNat d₀.buffer.length ↔
      OnePlaneOfTwoBytes (streamOf file) frameDurationMs := by
  obtain ⟨-, hsamples, hlength, -⟩ := (decoder_create_iff hlow hhigh).mp hcreate
  rw [← hsamples] at hlength
  have hnonneg : 0 ≤ toInt32 (d₀.samplesPerBuf * file.channels * 2) := by omega
  rw [planesFit_iff (by omega) hchannels, hlength, Int.toNat_of_nonneg (by omega),
    Int.mul_right_comm, le_toInt32_double_iff (Int.mul_pos hblock hchannels)
      file.sampleFormat.bytesPerSample_pos hnonneg, hsamples]
  rfl

/-- The full block of a stream is in a file that has it as its first frame. -/
theorem exists_full_block (hlow : 1 ≤ frameDurationMs) (hhigh : frameDurationMs ≤ 1000)
    (hcreate : AudioFileDecoder.create fuel file frameDurationMs = .ok d₀)
    (hrate : 10 ≤ file.sampleRate) (hblock : 0 < d₀.samplesPerBuf) :
    ∃ (file' : MediaFile OneFrame Unit) (d₁ d : AudioFileDecoder OneFrame Unit)
      (reply : Consumed Unit), streamOf file' = streamOf file ∧
      AudioFileDecoder.create 2 file' frameDurationMs = .ok d₁ ∧ d₁.buffer = d₀.buffer ∧
      (AudioFileDecoder.machine 2).run d₁ [()] = .ok (d, [reply]) ∧
      reply.samples.length = d₀.samplesPerBuf.toNat := by
  obtain ⟨hnative, hsamples, hlength, hsize⟩ := (decoder_create_iff hlow hhigh).mp hcreate
  have hscaled := (Source.decoder_create_ok hnative).1
  let frame := List.replicate d₀.samplesPerBuf.toNat ()
  have hframe : (frame.length : Int) ≤ d₀.samplesPerBuf := by
    simp only [frame, List.length_replicate]
    omega
  obtain ⟨native, hconsume⟩ := consume_oneFrameDecoder (streamOf file) frame hrate hframe
  let d₁ : AudioFileDecoder OneFrame Unit :=
    { native := oneFrameDecoder (streamOf file) frame
      samplesPerBuf := d₀.samplesPerBuf, buffer := d₀.buffer }
  have hopened : AudioFileDecoder.create 2 (oneFrameFile (streamOf file) frame) frameDurationMs
      = .ok d₁ :=
    (decoder_create_iff hlow hhigh).mpr ⟨create_oneFrameFile _ _ hscaled, hsamples, hlength, hsize⟩
  have hstep : ∃ d, (AudioFileDecoder.machine 2).step d₁ ()
      = .ok (d, { size := frame.length * 2 * file.channels, samples := frame }) := by
    simp only [AudioFileDecoder.machine, AudioFileDecoder.consume, d₁, hconsume, Java.native, bind,
      Except.bind]
    exact ⟨_, rfl⟩
  obtain ⟨d, hstep⟩ := hstep
  exact ⟨_, d₁, d, _, rfl, hopened, rfl, Machine.run_cons hstep rfl, List.length_replicate⟩

/-- **When `consume` stays inside its array.** For every stream a decoder
was opened on and blocks of one to a thousand milliseconds: exactly when
no block has a sample (a rate below 10 Hz or below the number of blocks in
a second), or there are no channels, or the samples lie in one plane, have
at most two bytes, and the length of the array is an `int`. -/
theorem consume_fits_iff (frameDurationMs : Int) (hlow : 1 ≤ frameDurationMs)
    (hhigh : frameDurationMs ≤ 1000) (fuel : Nat) (file : MediaFile σ α)
    (d₀ : AudioFileDecoder σ α)
    (hcreate : AudioFileDecoder.create fuel file frameDurationMs = .ok d₀) :
    ConsumeFits (streamOf file) frameDurationMs ↔
      file.sampleRate < 10 ∨ file.sampleRate < (1000 : Int).tdiv frameDurationMs ∨
      file.channels ≤ 0 ∨ OnePlaneOfTwoBytes (streamOf file) frameDurationMs := by
  have hq := framesPerSecond_pos hlow hhigh
  obtain ⟨-, hsamples, -⟩ := (decoder_create_iff hlow hhigh).mp hcreate
  constructor
  · intro hfits
    by_cases hrate : file.sampleRate < 10
    · exact .inl hrate
    by_cases hshort : file.sampleRate < (1000 : Int).tdiv frameDurationMs
    · exact .inr (.inl hshort)
    by_cases hchannels : file.channels ≤ 0
    · exact .inr (.inr (.inl hchannels))
    have hblock : 0 < d₀.samplesPerBuf := by
      rw [hsamples]
      exact tdiv_pos_of_le hq (Int.not_lt.mp hshort)
    obtain ⟨file', d₁, d, reply, hstream, hopened, hbuffer, hrun, hlength⟩ :=
      exists_full_block hlow hhigh hcreate (Int.not_lt.mp hrate) hblock
    have hplanes := hfits _ _ file' hstream 2 d₁ hopened [()] d [reply] hrun reply (by simp)
    rw [hlength, hbuffer] at hplanes
    exact .inr (.inr (.inr
      ((planesFit_block_iff hlow hhigh hcreate hblock (Int.not_le.mp hchannels)).mp hplanes)))
  · intro hcondition σ' α' file' hstream fuel' d₁ hopened calls d replies hrun
    obtain ⟨-, hsamples', -⟩ := (decoder_create_iff hlow hhigh).mp hopened
    rw [← hstream] at hcondition ⊢
    have hrates : file'.sampleRate = file.sampleRate := congrArg Stream.sampleRate hstream
    have hchannelNums : file'.channels = file.channels := congrArg Stream.channels hstream
    refine Machine.run_replies (SameDecoder file' d₁) _ ?_
      (sameDecoder_of_create hlow hhigh hopened) hrun
    intro s op s' reply hs hstep
    obtain ⟨hs', hcount, hempty⟩ := hs.step hstep
    refine ⟨hs', ?_⟩
    by_cases hrate : file'.sampleRate < 10
    · rw [hempty hrate]
      exact planesFit_zero
    by_cases hchannels : file'.channels ≤ 0
    · exact planesFit_of_channels_le hchannels
    have hnonneg : 0 ≤ d₁.samplesPerBuf := by
      rw [hsamples']
      exact Int.tdiv_nonneg (by omega) (Int.le_of_lt hq)
    have hle := hcount hnonneg
    by_cases hblock : 0 < d₁.samplesPerBuf
    · have hlong := le_of_tdiv_pos hq (hsamples' ▸ hblock)
      have hplane := ((hcondition.resolve_left (by omega)).resolve_left (by omega)).resolve_left
        (by omega)
      have hfull := (planesFit_block_iff hlow hhigh hopened hblock (Int.not_le.mp hchannels)).mpr
        hplane
      exact planesFit_of_le (by omega) hfull
    · have hnone : reply.samples.length = 0 := by omega
      rw [hnone]
      exact planesFit_zero

end FileDecoder

/-- Ten milliseconds at 8000 Hz, in stereo. -/
def stereoFile (fmt : AVSampleFormat) : MediaFile Decoder.Slot UInt8 :=
  { Source.tenMsFile fmt with channels := 2 }

/-- Planar floats: the call stores 320 bytes through each of two plane
pointers and is given one. -/
theorem consume_overruns_planar_stereo :
    ∃ d₀ d reply, AudioFileDecoder.create 9 (stereoFile .fltp) 10 = .ok d₀ ∧
      d₀.buffer.length = 320 ∧
      (AudioFileDecoder.machine 9).run d₀ [()] = .ok (d, [reply]) ∧
      fifoReadPlanes .fltp 2 reply.samples.length = [320, 320] ∧
      ¬ ConsumeFits (streamOf (stereoFile .fltp)) 10 := by
  obtain ⟨d₀, d, reply, hd₀, hlength, hrun, hplanes⟩ : ∃ d₀ d reply,
      AudioFileDecoder.create 9 (stereoFile .fltp) 10 = .ok d₀ ∧ d₀.buffer.length = 320 ∧
      (AudioFileDecoder.machine 9).run d₀ [()] = .ok (d, [reply]) ∧
      fifoReadPlanes .fltp 2 reply.samples.length = [320, 320] :=
    ⟨_, _, _, rfl, rfl, rfl, rfl⟩
  refine ⟨d₀, d, reply, hd₀, hlength, hrun, hplanes, ?_⟩
  intro hfits
  have hplane := (hfits _ _ (stereoFile .fltp) rfl 9 d₀ hd₀ [()] d [reply] hrun reply (by simp)).1
  have htwo : (fifoReadPlanes .fltp 2 reply.samples.length).length ≤ 1 := hplane
  rw [hplanes] at htwo
  exact absurd htwo (by decide)

theorem consume_fits_packed_stereo :
    ∃ d₀, AudioFileDecoder.create 9 (stereoFile .s16) 10 = .ok d₀ ∧ d₀.buffer.length = 320 ∧
      ConsumeFits (streamOf (stereoFile .s16)) 10 := by
  obtain ⟨d₀, hd₀, hlength⟩ : ∃ d₀,
      AudioFileDecoder.create 9 (stereoFile .s16) 10 = .ok d₀ ∧ d₀.buffer.length = 320 :=
    ⟨_, rfl, rfl⟩
  refine ⟨d₀, hd₀, hlength, ?_⟩
  exact (consume_fits_iff 10 (by decide) (by decide) 9 (stereoFile .s16) d₀ hd₀).mpr
    (.inr (.inr (.inr ⟨.inl rfl, by decide, by decide⟩)))

end L4AudioMixer.Android
