/-
L4AudioMixer.Source.FileSourceTheorems — what the constructor of
`AudioFileSource` establishes, and what one `Read` does with a `Consume`.

`Built` lists the members the constructor sets and never changes again;
every later result about a file source starts from it, not from the
constructor's code.
-/
import L4AudioMixer.Decoder.SupplyTheorems
import L4AudioMixer.Source.AudioFileSource
import L4AudioMixer.Source.ResamplerTheorems

namespace L4AudioMixer.Source

open L4AudioMixer.Lib
open L4AudioMixer.Libav
open L4AudioMixer.WebRtc
open L4AudioMixer.Decoder (AudioFileDecoder)

variable {σ ρ α : Type}

/-- The members of a decoder that stay as the file has them. -/
structure DecodesFile (file : MediaFile σ α) (d : AudioFileDecoder σ α) : Prop where
  sampleRate : d.sampleRate = file.sampleRate
  channels : d.channels = file.channels
  sampleFormat : d.sampleFormat = file.sampleFormat

theorem DecodesFile.pumpStep {file : MediaFile σ α} {d d' : AudioFileDecoder σ α}
    (hstep : Decoder.PumpStep d d') (h : DecodesFile file d) : DecodesFile file d' := by
  cases hstep <;> exact ⟨h.sampleRate, h.channels, h.sampleFormat⟩

theorem DecodesFile.fifoStep {file : MediaFile σ α} {d d' : AudioFileDecoder σ α}
    (hstep : Decoder.FifoStep d d') (h : DecodesFile file d) : DecodesFile file d' := by
  cases hstep <;> exact ⟨h.sampleRate, h.channels, h.sampleFormat⟩

/-- A constructed decoder is an opened one after a `FillDecoder` call, and
the capacity of its FIFO could be computed. -/
theorem decoder_create_ok {fuel : Nat} {file : MediaFile σ α} {d : AudioFileDecoder σ α}
    (h : Decoder.create fuel file = .ok d) :
    IsInt32 (10 * file.sampleRate) ∧
      Decoder.fillDecoder fuel (Decoder.opened file ((10 * file.sampleRate).tdiv 100))
        = .ok d := by
  simp only [Decoder.create, bind_eq_ok] at h
  obtain ⟨_, _, _, _, _, _, _, _, _, _, _, _, _, _, _, _, _, _, scaled, hscaled, capacity,
    hcapacity, _, _, hfill⟩ := h
  obtain ⟨hfits, rfl⟩ := mulInt32_eq_ok hscaled
  obtain ⟨-, rfl⟩ := divInt32_eq_ok hcapacity
  exact ⟨hfits, hfill⟩

/-- A rate whose tenfold could be computed is an `int`. -/
theorem isInt32_rate_of_create {fuel : Nat} {file : MediaFile σ α}
    {d : AudioFileDecoder σ α} (h : Decoder.create fuel file = .ok d) :
    IsInt32 file.sampleRate := by
  obtain ⟨⟨hlow, hhigh⟩, -⟩ := decoder_create_ok h
  exact ⟨by omega, by omega⟩

theorem decodesFile_of_create {fuel : Nat} {file : MediaFile σ α} {d : AudioFileDecoder σ α}
    (h : Decoder.create fuel file = .ok d) : DecodesFile file d := by
  obtain ⟨-, hfill⟩ := decoder_create_ok h
  exact Decoder.fillDecoder_preserves (DecodesFile file) (fun _ _ => DecodesFile.pumpStep)
    ⟨rfl, rfl, rfl⟩ hfill

/-- What the constructor leaves for good. -/
structure Built (av : LibAv ρ α) (file : MediaFile σ α) (c : SourceSettings)
    (s : AudioFileSource σ ρ α) : Prop where
  ssrc : s.ssrc = c.ssrc
  outputSampleRate : s.outputSampleRate = c.outputSampleRate
  outputChannelNum : s.outputChannelNum = c.outputChannelNum
  reportOutputSamples : s.reportOutputSamples = c.outputSampleRate.tdiv 100
  inputSampleRate : s.inputSampleRate = file.sampleRate
  inputChannelNum : s.inputChannelNum = file.channels
  inputFormat : s.inputFormat = file.sampleFormat
  framesPerSecond : (1000 : Int).tdiv c.frameDurationMs ≠ 0
  inputSamples : s.inputSamples = file.sampleRate.tdiv ((1000 : Int).tdiv c.frameDurationMs)
  allocated : 0 ≤ av.samplesAllocArrayAndSamples s.inputChannelNum s.inputSamples s.inputFormat 0
  decoder : DecodesFile file s.decoder
  resamplerChannels : s.resampler.inputChannelNum = s.inputChannelNum
  resamplerFormat : s.resampler.inputFormat = s.inputFormat

/-- **The constructor establishes `Built`.** -/
theorem built_of_create {av : LibAv ρ α} {fuel : Nat} {file : MediaFile σ α} {c : SourceSettings}
    {volume : Float32} {s : AudioFileSource σ ρ α}
    (h : AudioFileSource.create av fuel c.ssrc file c.outputSampleRate c.outputChannelNum
      c.frameDurationMs volume = .ok s) : Built av file c s := by
  simp only [AudioFileSource.create, bind_eq_ok, require_eq_ok, decide_eq_true_eq] at h
  obtain ⟨report, hreport, perSecond, hper, real, hreal, decoder, hdec, samples, hsamples,
    _, halloc, resampler, hres, hs⟩ := h
  obtain ⟨-, rfl⟩ := divInt32_eq_ok hper
  obtain ⟨hne, rfl⟩ := divInt32_eq_ok hsamples
  obtain ⟨-, rfl⟩ := divInt32_eq_ok hreport
  have hfile : DecodesFile file decoder := decodesFile_of_create hdec
  have hsettings := resampler_create_eq hres
  cases hs
  exact {
    ssrc := rfl
    outputSampleRate := rfl
    outputChannelNum := rfl
    reportOutputSamples := rfl
    inputSampleRate := hfile.sampleRate
    inputChannelNum := hfile.channels
    inputFormat := hfile.sampleFormat
    framesPerSecond := hne
    inputSamples := by rw [← hfile.sampleRate]
    allocated := halloc
    decoder := hfile
    resamplerChannels := congrArg AudioResampler.inputChannelNum hsettings
    resamplerFormat := congrArg AudioResampler.inputFormat hsettings }

theorem decoder_of_create {av : LibAv ρ α} {fuel : Nat} {ssrc : Int32} {file : MediaFile σ α}
    {outputSampleRate outputChannelNum frameDurationMs : Int} {volume : Float32}
    {s : AudioFileSource σ ρ α}
    (h : AudioFileSource.create av fuel ssrc file outputSampleRate outputChannelNum
      frameDurationMs volume = .ok s) : Decoder.create fuel file = .ok s.decoder := by
  simp only [AudioFileSource.create, bind_eq_ok] at h
  obtain ⟨_, _, _, _, _, _, decoder, hdec, _, _, _, _, _, _, hs⟩ := h
  cases hs
  exact hdec

theorem volume_of_create {av : LibAv ρ α} {fuel : Nat} {ssrc : Int32} {file : MediaFile σ α}
    {outputSampleRate outputChannelNum frameDurationMs : Int} {volume : Float32}
    {s : AudioFileSource σ ρ α}
    (h : AudioFileSource.create av fuel ssrc file outputSampleRate outputChannelNum
      frameDurationMs volume = .ok s) : s.volume = volume := by
  simp only [AudioFileSource.create, bind_eq_ok] at h
  obtain ⟨_, _, _, _, _, _, _, _, _, _, _, _, _, _, hs⟩ := h
  cases hs
  rfl

/-- A source can be constructed on every file that opens with the stream
of one on which it could. -/
theorem create_of_same_stream {σ' : Type} {av : LibAv ρ α} {fuel fuel' : Nat} {ssrc : Int32}
    {file : MediaFile σ α} {file' : MediaFile σ' α}
    {outputSampleRate outputChannelNum frameDurationMs : Int} {volume : Float32}
    {s : AudioFileSource σ ρ α} {d : AudioFileDecoder σ' α}
    (h : AudioFileSource.create av fuel ssrc file outputSampleRate outputChannelNum
      frameDurationMs volume = .ok s)
    (hd : Decoder.create fuel' file' = .ok d) (hrate : file'.sampleRate = file.sampleRate)
    (hchannels : file'.channels = file.channels)
    (hformat : file'.sampleFormat = file.sampleFormat) :
    ∃ s', AudioFileSource.create av fuel' ssrc file' outputSampleRate outputChannelNum
      frameDurationMs volume = .ok s' ∧ s'.decoder = d := by
  simp only [AudioFileSource.create, bind_eq_ok] at h ⊢
  obtain ⟨report, hreport, perSecond, hper, real, hreal, decoder, hdec, samples, hsamples, u,
    halloc, resampler, hres, -⟩ := h
  have hfile := decodesFile_of_create hdec
  have hfile' := decodesFile_of_create hd
  rw [hfile.sampleRate, ← hrate, ← hfile'.sampleRate] at hsamples hres
  rw [hfile.channels, ← hchannels, ← hfile'.channels, hfile.sampleFormat, ← hformat,
    ← hfile'.sampleFormat] at halloc hres
  exact ⟨_, ⟨report, hreport, perSecond, hper, real, hreal, d, hd, samples, hsamples, u, halloc,
    resampler, hres, rfl⟩, rfl⟩

/-! ## `Read` -/

/-- What every effect of the fill calls keeps, and taking samples keeps,
`Consume` keeps. -/
theorem consume_preserves (I : AudioFileDecoder σ α → Prop)
    (hpump : ∀ d d', Decoder.PumpStep d d' → I d → I d')
    (hfifo : ∀ d d', Decoder.FifoStep d d' → I d → I d')
    (htake : ∀ d k, I d → I (Decoder.takeFromFifo d k).1)
    {fuel : Nat} {d d' : AudioFileDecoder σ α} {k : Int} {consumed : Decoder.Consumed α}
    (hd : I d) (h : Decoder.consume fuel d k = .ok (d', consumed)) : I d' := by
  simp only [Decoder.consume, bind_eq_ok] at h
  obtain ⟨a, ha, b, hb, ht⟩ := h
  have hIa : I a := Decoder.fillDecoder_preserves I hpump hd ha
  have hIb : I b := Decoder.fillFifo_preserves I hfifo hIa hb
  cases ht
  exact htake b k hIb

theorem DecodesFile.consume {file : MediaFile σ α} {fuel : Nat} {d d' : AudioFileDecoder σ α}
    {k : Int} {consumed : Decoder.Consumed α} (hd : DecodesFile file d)
    (h : Decoder.consume fuel d k = .ok (d', consumed)) : DecodesFile file d' :=
  consume_preserves (DecodesFile file) (fun _ _ => DecodesFile.pumpStep)
    (fun _ _ => DecodesFile.fifoStep)
    (fun _ _ hI => ⟨hI.sampleRate, hI.channels, hI.sampleFormat⟩) hd h

/-- The byte count `Read` expects of a full block. -/
def fullSize (av : LibAv ρ α) (s : AudioFileSource σ ρ α) : Int :=
  av.samplesGetBufferSize s.inputChannelNum s.inputSamples s.inputFormat 1

/-- The source after a `Consume` call of `Read`. -/
def afterConsume (s : AudioFileSource σ ρ α) (decoder : AudioFileDecoder σ α)
    (consumed : Decoder.Consumed α) : AudioFileSource σ ρ α :=
  { s with decoder, inputBuffer := store s.inputBuffer consumed.samples }

/-- A byte count other than that of a full block is reported as the end
of the file. -/
theorem read_short {av : LibAv ρ α} {fuel : Nat} {s : AudioFileSource σ ρ α}
    {decoder : AudioFileDecoder σ α} {consumed : Decoder.Consumed α}
    (hc : Decoder.consume fuel s.decoder s.inputSamples = .ok (decoder, consumed))
    (hsize : consumed.size ≠ fullSize av s) :
    s.read av fuel = .ok (afterConsume s decoder consumed,
      { ret := averrorEof, handed := none, written := [] }) := by
  simp only [fullSize] at hsize
  simp only [AudioFileSource.read, hc, bind, Except.bind]
  rw [if_pos hsize]
  rfl

/-- A full block goes to the resampler. -/
theorem read_full {av : LibAv ρ α} {fuel : Nat} {s : AudioFileSource σ ρ α}
    {decoder : AudioFileDecoder σ α} {consumed : Decoder.Consumed α}
    (hc : Decoder.consume fuel s.decoder s.inputSamples = .ok (decoder, consumed))
    (hsize : consumed.size = fullSize av s) :
    s.read av fuel = (do
      let (resampler, resampled) ←
        s.resampler.resample av (store s.inputBuffer consumed.samples) consumed.size
      return ({ afterConsume s decoder consumed with resampler },
        { ret := resampled.ret, handed := some resampled.input
          written := resampled.written })) := by
  simp only [fullSize] at hsize
  simp only [AudioFileSource.read, hc, bind, Except.bind]
  rw [if_neg (by simpa using hsize)]
  rfl

/-- **The two outcomes of `Read`**: `Consume` counts other than a full
block, and the end of the file is reported; or the block is resampled. -/
theorem read_cases {av : LibAv ρ α} {fuel : Nat} {s s' : AudioFileSource σ ρ α}
    {result : ReadResult α} (h : s.read av fuel = .ok (s', result)) :
    ∃ decoder consumed,
      Decoder.consume fuel s.decoder s.inputSamples = .ok (decoder, consumed) ∧
      ((consumed.size ≠ fullSize av s ∧ s' = afterConsume s decoder consumed ∧
          result = { ret := averrorEof, handed := none, written := [] }) ∨
        (consumed.size = fullSize av s ∧ ∃ resampler resampled,
          s.resampler.resample av (store s.inputBuffer consumed.samples) consumed.size
            = .ok (resampler, resampled) ∧
          s' = { afterConsume s decoder consumed with resampler } ∧
          result = { ret := resampled.ret, handed := some resampled.input
                     written := resampled.written })) := by
  cases hc : Decoder.consume fuel s.decoder s.inputSamples with
  | error e =>
      simp only [AudioFileSource.read, hc, bind, Except.bind] at h
      cases h
  | ok out =>
      obtain ⟨decoder, consumed⟩ := out
      refine ⟨decoder, consumed, rfl, ?_⟩
      by_cases hsize : consumed.size = fullSize av s
      · rw [read_full hc hsize] at h
        simp only [bind_eq_ok] at h
        obtain ⟨⟨resampler, resampled⟩, hr, hret⟩ := h
        cases hret
        exact .inr ⟨hsize, resampler, resampled, hr, rfl, rfl⟩
      · rw [read_short hc hsize] at h
        cases h
        exact .inl ⟨hsize, rfl, rfl⟩

/-- **`Read` keeps `Built`.** -/
theorem Built.read {av : LibAv ρ α} {file : MediaFile σ α} {c : SourceSettings} {fuel : Nat}
    {s s' : AudioFileSource σ ρ α} {result : ReadResult α} (hs : Built av file c s)
    (h : s.read av fuel = .ok (s', result)) : Built av file c s' := by
  obtain ⟨decoder, consumed, hc, hcase⟩ := read_cases h
  have hdec : DecodesFile file decoder := hs.decoder.consume hc
  rcases hcase with ⟨_, rfl, _⟩ | ⟨_, resampler, resampled, hr, rfl, _⟩
  · exact { hs with decoder := hdec }
  · obtain ⟨rfl, -⟩ := resample_ok hr
    exact { hs with decoder := hdec }

/-! ## A full block -/

section Blocks

variable {av : LibAv ρ α} {file : MediaFile σ α} {c : SourceSettings} {fuel : Nat}
  {s s' : AudioFileSource σ ρ α} {result : ReadResult α}

/-- The size of a full block, and that there is one. -/
theorem Built.fullSize_eq (hav : av.Documented) (hs : Built av file c s) :
    0 < file.channels ∧ 0 < s.inputSamples ∧
      fullSize av s = file.channels * s.inputSamples * file.sampleFormat.bytesPerSample := by
  obtain ⟨hchannels, hsamples, hsize⟩ := hav.allocated _ _ _ hs.allocated
  rw [hs.inputChannelNum] at hchannels
  rw [hs.inputChannelNum, hs.inputFormat] at hsize
  refine ⟨hchannels, hsamples, ?_⟩
  rw [fullSize, hs.inputChannelNum, hs.inputFormat, hsize]

/-- `Resample` finds in a full block the samples that were asked for. -/
theorem inputSamples_of_full (hav : av.Documented) (hs : Built av file c s) :
    s.resampler.inputSamples (fullSize av s) = s.inputSamples := by
  obtain ⟨hchannels, _, hsize⟩ := hs.fullSize_eq hav
  have hbytes := file.sampleFormat.bytesPerSample_pos
  rw [AudioResampler.inputSamples, hs.resamplerChannels, hs.inputChannelNum, hs.resamplerFormat,
    hs.inputFormat, hsize, Int.mul_assoc, Int.mul_tdiv_cancel_left _ (by omega),
    Int.mul_tdiv_cancel _ (by omega)]

/-- `Resample` returns on a full block, and takes its samples. -/
theorem Built.resample_full (hav : av.Documented) (hs : Built av file c s) (buffer : Nat → α) :
    ∃ r' out, s.resampler.resample av buffer (fullSize av s) = .ok (r', out) ∧
      out.input = firstN buffer s.inputSamples.toNat := by
  have hchannels : 0 < s.resampler.inputChannelNum := by
    rw [hs.resamplerChannels, hs.inputChannelNum]
    exact (hs.fullSize_eq hav).1
  obtain ⟨r', out, hout⟩ := resample_returns av buffer (fullSize av s) hchannels
  obtain ⟨-, hinput, -⟩ := resample_ok hout
  rw [inputSamples_of_full hav hs] at hinput
  exact ⟨r', out, hout, hinput⟩

/-- A `Read` that succeeds hands over `input_samples_` samples. -/
theorem length_handed {xs : List α} (hav : av.Documented) (hs : Built av file c s)
    (h : s.read av fuel = .ok (s', result)) (hxs : result.handed = some xs) :
    (xs.length : Int) = s.inputSamples := by
  obtain ⟨decoder, consumed, _, hcase⟩ := read_cases h
  rcases hcase with ⟨_, _, rfl⟩ | ⟨hsize, _, resampled, hres, _, rfl⟩
  · cases hxs
  · obtain ⟨-, hsamples, -⟩ := hs.fullSize_eq hav
    obtain ⟨-, hinput, -⟩ := resample_ok hres
    cases hxs
    rw [hinput, length_firstN, hsize, inputSamples_of_full hav hs]
    omega

end Blocks

/-! ## `GetAudioFrameWithInfo` -/

/-- The frame into which `Read` writes: the header is set, the array is
zero. -/
def blankFrame (abi : Abi) (s : AudioFileSource σ ρ α) (frame : AudioFrame) :
    Except Fault AudioFrame := do
  let updated ← frame.updateFrame abi 0 none (toSizeT abi s.reportOutputSamples)
    s.outputSampleRate .kNormalSpeech .kVadActive (toSizeT abi s.outputChannelNum)
  return updated.mutableData

/-- **The three outcomes of a call**: another rate and nothing happens;
`Read` fails; or the frame holds what `Read` wrote, with the volume
applied. -/
theorem file_getAudioFrameWithInfo_cases {abi : Abi} {av : LibAv ρ α}
    {scaleWithSat : ScaleWithSat} {fuel : Nat} {s s' : AudioFileSource σ ρ α} {hz : Int}
    {frame frame' : AudioFrame} {info : AudioFrameInfo}
    (h : s.getAudioFrameWithInfo abi av scaleWithSat fuel hz frame = .ok (info, frame', s')) :
    (hz ≠ s.outputSampleRate ∧ info = .kError ∧ s' = s) ∨
    (hz = s.outputSampleRate ∧ ∃ blank result, blankFrame abi s frame = .ok blank ∧
      s.read av fuel = .ok (s', result) ∧
      ((result.ret < 0 ∧ info = .kError) ∨
        (0 ≤ result.ret ∧ info = .kNormal ∧
          frame' = applyVolume scaleWithSat s'.volume
            { blank with dataArray := store blank.dataArray result.written }))) := by
  unfold AudioFileSource.getAudioFrameWithInfo at h
  by_cases hhz : hz = s.outputSampleRate
  · right
    rw [if_neg (by simpa using hhz)] at h
    simp only [bind_eq_ok] at h
    obtain ⟨updated, hupdated, ⟨s₁, result⟩, hread, hret⟩ := h
    by_cases hneg : result.ret < 0
    · rw [if_pos hneg] at hret
      cases hret
      exact ⟨hhz, updated.mutableData, result, by simp only [blankFrame, hupdated]; rfl, hread,
        .inl ⟨hneg, rfl⟩⟩
    · rw [if_neg hneg] at hret
      cases hret
      exact ⟨hhz, updated.mutableData, result, by simp only [blankFrame, hupdated]; rfl, hread,
        .inr ⟨by omega, rfl, rfl⟩⟩
  · left
    rw [if_pos hhz] at h
    cases h
    exact ⟨hhz, rfl, rfl⟩

/-- `Read` keeps the ssrc and the volume. -/
theorem read_keeps {av : LibAv ρ α} {fuel : Nat} {s s' : AudioFileSource σ ρ α}
    {result : ReadResult α} (h : s.read av fuel = .ok (s', result)) :
    s'.ssrc = s.ssrc ∧ s'.volume = s.volume := by
  obtain ⟨decoder, consumed, _, hcase⟩ := read_cases h
  rcases hcase with ⟨_, rfl, _⟩ | ⟨_, _, _, _, rfl, _⟩
  · exact ⟨rfl, rfl⟩
  · exact ⟨rfl, rfl⟩

theorem ssrc_getAudioFrameWithInfo {abi : Abi} {av : LibAv ρ α} {scaleWithSat : ScaleWithSat}
    {fuel : Nat} {s s' : AudioFileSource σ ρ α} {hz : Int} {frame frame' : AudioFrame}
    {info : AudioFrameInfo}
    (h : s.getAudioFrameWithInfo abi av scaleWithSat fuel hz frame = .ok (info, frame', s')) :
    s'.ssrc = s.ssrc := by
  rcases file_getAudioFrameWithInfo_cases h with ⟨_, _, rfl⟩ | ⟨_, _, _, _, hread, _⟩
  · rfl
  · exact (read_keeps hread).1

/-- A call keeps `Built`. -/
theorem Built.getAudioFrameWithInfo {abi : Abi} {av : LibAv ρ α} {scaleWithSat : ScaleWithSat}
    {fuel : Nat} {file : MediaFile σ α} {c : SourceSettings} {s s' : AudioFileSource σ ρ α}
    {hz : Int} {frame frame' : AudioFrame} {info : AudioFrameInfo} (hs : Built av file c s)
    (h : s.getAudioFrameWithInfo abi av scaleWithSat fuel hz frame = .ok (info, frame', s')) :
    Built av file c s' := by
  rcases file_getAudioFrameWithInfo_cases h with ⟨_, _, rfl⟩ | ⟨_, _, _, _, hread, _⟩
  · exact hs
  · exact hs.read hread

end L4AudioMixer.Source
