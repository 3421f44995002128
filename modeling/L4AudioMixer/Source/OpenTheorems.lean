/-
L4AudioMixer.Source.OpenTheorems — when a source can be constructed, and
that a file source then goes on reading.

`FileOpens` and `RecordOpens` list what the constructors check, and the
theorems `fileSource_create_of_opens`, `opens_of_fileSource_create` and
`recordSource_create_iff` say that nothing else decides. A file is read
under the codec contract alone: the sample format and the number of
channels are as the file has them, so a `Read` may well report the end of
the file too early, but it returns (`Playing.read`).
-/
import L4AudioMixer.Source.FileDeliveryTheorems
import L4AudioMixer.Source.RecordSourceTheorems

namespace L4AudioMixer.Source

open L4AudioMixer.Lib
open L4AudioMixer.Libav
open L4AudioMixer.WebRtc
open L4AudioMixer.Decoder

variable {σ ρ α : Type} {av : LibAv ρ α} {file : MediaFile σ α} {c : SourceSettings}

/-- The divisions both constructors make have values. -/
structure SettingsDivide (c : SourceSettings) : Prop where
  duration : c.frameDurationMs ≠ 0
  framesPerSecond : (1000 : Int).tdiv c.frameDurationMs ≠ 0
  quotient : ¬ (c.outputSampleRate = -2147483648 ∧ (1000 : Int).tdiv c.frameDurationMs = -1)

/-- A division by the number of frames a second. -/
theorem SettingsDivide.div (hc : SettingsDivide c) {a : Int}
    (ha : ¬ (a = -2147483648 ∧ (1000 : Int).tdiv c.frameDurationMs = -1)) :
    divInt32 1000 c.frameDurationMs = .ok ((1000 : Int).tdiv c.frameDurationMs) ∧
      divInt32 a ((1000 : Int).tdiv c.frameDurationMs)
        = .ok (a.tdiv ((1000 : Int).tdiv c.frameDurationMs)) :=
  ⟨divInt32_of_ne hc.duration (by omega), divInt32_of_ne hc.framesPerSecond ha⟩

/-! ## Record sources -/

/-- What the constructor of a record source computes has values. -/
structure RecordOpens (c : SourceSettings) : Prop where
  product : IsInt32 (c.outputChannelNum * c.outputSampleRate)
  quotient : ¬ (c.outputChannelNum * c.outputSampleRate = -2147483648 ∧
    (1000 : Int).tdiv c.frameDurationMs = -1)

/-- **A record source can be constructed when its numbers have values.** -/
theorem recordSource_create_iff (hc : SettingsDivide c) (volume : Float32)
    (uninit : Nat → Int16) :
    (∃ s, AudioRecordSource.create c.ssrc c.outputSampleRate c.outputChannelNum
      c.frameDurationMs volume uninit = .ok s) ↔ RecordOpens c := by
  simp only [AudioRecordSource.create, bind_eq_ok]
  constructor
  · rintro ⟨_, _, _, elements, hproduct, perSecond, hper, _, hlast, -⟩
    obtain ⟨hfits, rfl⟩ := mulInt32_eq_ok hproduct
    obtain ⟨-, rfl⟩ := divInt32_eq_ok hper
    refine ⟨hfits, fun hoverflow => ?_⟩
    obtain ⟨fault, hfault, -⟩ := divInt32_error (.inr hoverflow)
    rw [hfault] at hlast
    cases hlast
  · rintro ⟨hfits, hquotient⟩
    obtain ⟨hper, hlast⟩ := hc.div hquotient
    exact ⟨_, _, divInt32_of_pos (by decide), _, mulInt32_of_fits hfits, _, hper, _, hlast, rfl⟩

/-! ## File sources -/

/-- What the constructors of the decoder, the source and the resampler
check of a file. -/
structure FileOpens (av : LibAv ρ α) (c : SourceSettings) (file : MediaFile σ α) : Prop where
  frameAllocated : file.frameAllocated = true
  packetAllocated : file.packetAllocated = true
  openInput : 0 ≤ file.openInput
  findStreamInfo : 0 ≤ file.findStreamInfo
  findBestStream : 0 ≤ file.findBestStream
  decoderFound : file.decoderFound = true
  contextAllocated : file.contextAllocated = true
  parametersToContext : 0 ≤ file.parametersToContext
  open2 : 0 ≤ file.open2
  fifoCapacity : IsInt32 (10 * file.sampleRate)
  fifoAllocated : file.fifoAllocated = true
  inputBuffer : 0 ≤ av.samplesAllocArrayAndSamples file.channels
    (file.sampleRate.tdiv ((1000 : Int).tdiv c.frameDurationMs)) file.sampleFormat 0
  swrAllocated : av.swrAllocated = true
  swrInit : 0 ≤ (av.swrInit
    { inChannelLayout := AudioResampler.channelLayout file.channels
      inSampleRate := file.sampleRate
      inSampleFmt := file.sampleFormat
      outChannelLayout := AudioResampler.channelLayout c.outputChannelNum
      outSampleRate := c.outputSampleRate
      outSampleFmt := kOutputSampleFormat }).1

/-- A file of packets, with a codec that keeps the contract. -/
structure Feeds (file : MediaFile σ α) (feeding : σ → Prop) : Prop where
  packets : ∃ packets : List AVPacket, file.formatContext = packets.map .packet
  contract : ObeysContract file.codec feeding
  start : feeding file.codecContext

/-- **A decoder can be constructed** on a file that passes the checks. -/
theorem decoder_create_of_opens {feeding : σ → Prop} (hfeeds : Feeds file feeding)
    (hopens : FileOpens av c file) :
    ∃ d bound, (∀ fuel, bound ≤ fuel → Decoder.create fuel file = .ok d) ∧
      StreamInvariant file feeding d := by
  obtain ⟨packets, hpackets⟩ := hfeeds.packets
  obtain ⟨d, bound, hfill⟩ := fillDecoder_ends_of (I := StreamInvariant file feeding)
    (fun _ _ hs hI => hI.pumpStep hfeeds.contract hs)
    (fun _ hI hc => hI.offersWithoutError hfeeds.contract hc)
    (StreamInvariant.opened hpackets hfeeds.start ((10 * file.sampleRate).tdiv 100))
  have hstream : StreamInvariant file feeding d :=
    fillDecoder_preserves (StreamInvariant file feeding)
      (fun _ _ hs hI => hI.pumpStep hfeeds.contract hs)
      (StreamInvariant.opened hpackets hfeeds.start _) (hfill bound le_rfl)
  refine ⟨d, bound, fun fuel hle => ?_, hstream⟩
  have hcapacity : divInt32 (10 * file.sampleRate) (1000 / 10)
      = .ok ((10 * file.sampleRate).tdiv 100) := divInt32_of_pos (by decide)
  simp only [Decoder.create, bind_eq_ok, require_eq_ok, decide_eq_true_eq]
  exact ⟨(), hopens.frameAllocated, (), hopens.packetAllocated, (), hopens.openInput, (),
    hopens.findStreamInfo, (), hopens.findBestStream, (), hopens.decoderFound, (),
    hopens.contextAllocated, (), hopens.parametersToContext, (), hopens.open2, _,
    mulInt32_of_fits hopens.fifoCapacity, _, hcapacity, (), hopens.fifoAllocated,
    hfill fuel hle⟩

/-- A file source that plays: as constructed on a file of the contract,
and in order with its stream. -/
def Playing (av : LibAv ρ α) (files : String → MediaFile σ α) (c : SourceSettings)
    (s : AudioFileSource σ ρ α) : Prop :=
  ∃ path feeding, Feeds (files path) feeding ∧ Built av (files path) c s ∧
    StreamInvariant (files path) feeding s.decoder

/-- **A file source can be constructed** on a file that passes the checks,
and plays. -/
theorem fileSource_create_of_opens {files : String → MediaFile σ α} {path : String}
    {feeding : σ → Prop} (hc : SettingsDivide c) (hfeeds : Feeds (files path) feeding)
    (hopens : FileOpens av c (files path)) (volume : Float32) :
    ∃ s bound, (∀ fuel, bound ≤ fuel → AudioFileSource.create av fuel c.ssrc (files path)
        c.outputSampleRate c.outputChannelNum c.frameDurationMs volume = .ok s) ∧
      Playing av files c s := by
  obtain ⟨d, bound, hdecoder, hstream⟩ := decoder_create_of_opens hfeeds hopens
  have hfile := decodesFile_of_create (hdecoder bound le_rfl)
  obtain ⟨hper, hreal⟩ := hc.div hc.quotient
  have hten : ¬ (d.sampleRate = -2147483648 ∧ (1000 : Int).tdiv c.frameDurationMs = -1) := by
    obtain ⟨hlow, -⟩ := hopens.fifoCapacity
    rw [hfile.sampleRate]
    omega
  obtain ⟨-, hsamples⟩ := hc.div hten
  have hbuffer := hopens.inputBuffer
  have hinit := hopens.swrInit
  rw [← hfile.channels, ← hfile.sampleRate, ← hfile.sampleFormat] at hbuffer hinit
  obtain ⟨resampler, hresampler⟩ : ∃ resampler, AudioResampler.create av d.sampleFormat
      d.sampleRate d.channels kOutputSampleFormat c.outputSampleRate c.outputChannelNum
        = .ok resampler := by
    simp only [AudioResampler.create, bind_eq_ok, require_eq_ok, decide_eq_true_eq]
    exact ⟨_, (), hopens.swrAllocated, (), hinit, rfl⟩
  obtain ⟨s, hs⟩ : ∃ s, AudioFileSource.create av bound c.ssrc (files path) c.outputSampleRate
      c.outputChannelNum c.frameDurationMs volume = .ok s := by
    simp only [AudioFileSource.create, bind_eq_ok, require_eq_ok, decide_eq_true_eq]
    exact ⟨_, _, divInt32_of_pos (by decide), _, hper, _, hreal, d, hdecoder bound le_rfl, _,
      hsamples, (), hbuffer, resampler, hresampler, rfl⟩
  have hsame : s.decoder = d := by
    have hd := decoder_of_create hs
    rw [hdecoder bound le_rfl] at hd
    cases hd
    rfl
  refine ⟨s, bound, fun fuel hle => ?_, path, feeding, hfeeds, built_of_create hs, ?_⟩
  · -- the bound matters to the decoder only
    have hfuel : Decoder.create fuel (files path) = Decoder.create bound (files path) := by
      rw [hdecoder fuel hle, hdecoder bound le_rfl]
    simp only [AudioFileSource.create, hfuel] at hs ⊢
    exact hs
  · rw [hsame]
    exact hstream

/-- **And on no other file**, under whatever bound. -/
theorem opens_of_fileSource_create {fuel : Nat} {volume : Float32} {s : AudioFileSource σ ρ α}
    (h : AudioFileSource.create av fuel c.ssrc file c.outputSampleRate c.outputChannelNum
      c.frameDurationMs volume = .ok s) : FileOpens av c file := by
  have hdecoder := decoder_of_create h
  have hbuilt := built_of_create h
  have hfile := decodesFile_of_create hdecoder
  obtain ⟨hcapacity, -⟩ := decoder_create_ok hdecoder
  simp only [AudioFileSource.create, bind_eq_ok, require_eq_ok, decide_eq_true_eq] at h
  obtain ⟨_, -, _, -, _, -, decoder, hdec, _, -, _, -, resampler, hres, hs⟩ := h
  have hsame : s.decoder = decoder := by
    cases hs
    rfl
  simp only [AudioResampler.create, bind_eq_ok, require_eq_ok, decide_eq_true_eq] at hres
  obtain ⟨_, hallocated, _, hinit, -⟩ := hres
  rw [← hsame, hfile.channels, hfile.sampleRate, hfile.sampleFormat] at hinit
  have hbuffer := hbuilt.allocated
  rw [hbuilt.inputChannelNum, hbuilt.inputSamples, hbuilt.inputFormat] at hbuffer
  simp only [Decoder.create, bind_eq_ok, require_eq_ok, decide_eq_true_eq] at hdecoder
  obtain ⟨_, hframe, _, hpacket, _, hopen, _, hinfo, _, hbest, _, hfound, _, hcontext, _,
    hparameters, _, hopen2, _, -, _, -, _, hfifo, -⟩ := hdecoder
  exact ⟨hframe, hpacket, hopen, hinfo, hbest, hfound, hcontext, hparameters, hopen2, hcapacity,
    hfifo, hbuffer, hallocated, hinit⟩

/-- **`Read` returns**, and the source goes on playing. -/
theorem Playing.read {files : String → MediaFile σ α} {s : AudioFileSource σ ρ α}
    (hav : av.Documented) (hs : Playing av files c s) :
    ∃ s' result bound, (∀ fuel, bound ≤ fuel → s.read av fuel = .ok (s', result)) ∧
      Playing av files c s' := by
  obtain ⟨path, feeding, hfeeds, hbuilt, hstream⟩ := hs
  obtain ⟨-, hsamples, -⟩ := hbuilt.fullSize_eq hav
  obtain ⟨d', taken, bound, hstream', -, hconsume, -⟩ :=
    consume_block hfeeds.contract hstream s.inputSamples.toNat
  rw [Int.toNat_of_nonneg (by omega)] at hconsume
  by_cases hsize : (taken.length : Int) * 2 * s.decoder.channels = fullSize av s
  · obtain ⟨r', out, hres, -⟩ := hbuilt.resample_full hav (store s.inputBuffer taken)
    have hread : ∀ fuel, bound ≤ fuel → s.read av fuel = .ok
        ({ afterConsume s d' ⟨taken.length * 2 * s.decoder.channels, taken⟩ with resampler := r' },
          { ret := out.ret, handed := some out.input, written := out.written }) := by
      intro fuel hle
      rw [read_full (hconsume fuel hle) hsize, hsize, hres]
      rfl
    exact ⟨_, _, bound, hread, path, feeding, hfeeds, hbuilt.read (hread bound le_rfl), hstream'⟩
  · have hread : ∀ fuel, bound ≤ fuel → s.read av fuel = .ok
        (afterConsume s d' ⟨taken.length * 2 * s.decoder.channels, taken⟩,
          { ret := averrorEof, handed := none, written := [] }) :=
      fun fuel hle => read_short (hconsume fuel hle) hsize
    exact ⟨_, _, bound, hread, path, feeding, hfeeds, hbuilt.read (hread bound le_rfl), hstream'⟩

end L4AudioMixer.Source
