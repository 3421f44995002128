/-
L4AudioMixer.Source.FileFrameTheorems — how a file source accounts for
one block, and the frame it writes it to.

`Consume` counts a block in samples of two bytes, `Read` in the bytes of
the decoder's format, and `Resample` divides the bytes back into samples
and rounds the output space up. `chunk_completeness_iff` says when the
first two agree; `file_frame_stays_inside` bounds the last by the 10 ms
frame that `GetAudioFrameWithInfo` clears before it.
-/
import L4AudioMixer.Source.FileDeliveryTheorems
import L4AudioMixer.WebRtc.AudioMixerImpl

namespace L4AudioMixer.Source

open L4AudioMixer.Lib
open L4AudioMixer.Libav
open L4AudioMixer.WebRtc
open L4AudioMixer.Decoder (AudioFileDecoder Slot slotFile)

variable {σ ρ α : Type}

/-! ## One block -/

section Blocks

variable {av : LibAv ρ α} {file : MediaFile σ α} {c : SourceSettings} {fuel : Nat}
  {s s' : AudioFileSource σ ρ α} {d d' : AudioFileDecoder σ α} {consumed : Decoder.Consumed α}

/-- `Consume` counts two bytes for every sample of every channel, and
stores no more than it was asked for. -/
theorem consume_counts {samples : Int} (hsamples : 0 ≤ samples) (hd : DecodesFile file d)
    (h : Decoder.consume fuel d samples = .ok (d', consumed)) :
    consumed.size = consumed.samples.length * 2 * file.channels ∧
      (consumed.samples.length : Int) ≤ samples := by
  simp only [Decoder.consume, bind_eq_ok] at h
  obtain ⟨a, ha, b, hb, ht⟩ := h
  have hda : DecodesFile file a :=
    Decoder.fillDecoder_preserves (DecodesFile file) (fun _ _ => DecodesFile.pumpStep) hd ha
  have hdb : DecodesFile file b :=
    Decoder.fillFifo_preserves (DecodesFile file) (fun _ _ => DecodesFile.fifoStep) hda hb
  have htaken : Decoder.takeFromFifo b samples = (d', consumed) := by
    cases ht
    rfl
  rw [Decoder.takeFromFifo_of_nonneg b hsamples] at htaken
  cases htaken
  refine ⟨by rw [hdb.channels], ?_⟩
  simp only [List.length_take]
  omega

/-- The block is accounted for: the bytes counted are the bytes stored,
and `Read` passes it on exactly when it is full, with the samples it has. -/
structure CountsBlock (av : LibAv ρ α) (fuel : Nat) (s : AudioFileSource σ ρ α)
    (consumed : Decoder.Consumed α) : Prop where
  bytes : consumed.size
    = consumed.samples.length * s.inputChannelNum * s.inputFormat.bytesPerSample
  read : ∃ s' result, s.read av fuel = .ok (s', result) ∧
    (result.handed.isSome ↔ (consumed.samples.length : Int) = s.inputSamples) ∧
    ∀ xs, result.handed = some xs → (xs.length : Int) = s.inputSamples

/-- `Read` returns after a `Consume` that does, and passes a block on
exactly when it has the size of a full one. -/
theorem read_of_consume (hav : av.Documented) (hs : Built av file c s)
    (hc : Decoder.consume fuel s.decoder s.inputSamples = .ok (d', consumed)) :
    ∃ s' result, s.read av fuel = .ok (s', result) ∧
      (result.handed.isSome ↔ consumed.size = fullSize av s) ∧
      ∀ xs, result.handed = some xs → (xs.length : Int) = s.inputSamples := by
  by_cases hsize : consumed.size = fullSize av s
  · obtain ⟨r', out, hout, -⟩ := hs.resample_full hav (store s.inputBuffer consumed.samples)
    have hread := read_full hc hsize
    rw [hsize, hout] at hread
    refine ⟨_, _, hread, by simp [hsize], ?_⟩
    intro xs hxs
    exact length_handed hav hs hread hxs
  · exact ⟨_, _, read_short hc hsize, by simp [hsize], by simp⟩

/-- **When a block is accounted for**: in every state of a file source
between two `Read` calls, exactly when the decoder's samples have two
bytes, or it delivered none. -/
theorem chunk_completeness_iff (av : LibAv ρ α) (hav : av.Documented) (file : MediaFile σ α)
    (fuel : Nat) (c : SourceSettings) (volume : Float32) (src : AudioFileSource σ ρ α)
    (hcreate : AudioFileSource.create av fuel c.ssrc file c.outputSampleRate c.outputChannelNum
      c.frameDurationMs volume = .ok src)
    (calls : List Unit) (s : AudioFileSource σ ρ α) (replies : List (ReadResult α))
    (hrun : (readMachine av fuel).run src calls = .ok (s, replies))
    (d : AudioFileDecoder σ α) (consumed : Decoder.Consumed α)
    (hc : Decoder.consume fuel s.decoder s.inputSamples = .ok (d, consumed)) :
    CountsBlock av fuel s consumed ↔
      file.sampleFormat.bytesPerSample = 2 ∨ consumed.samples.length = 0 := by
  have hs : Built av file c s := Machine.run_invariant (Built av file c)
    (fun _ _ _ _ hI hstep => hI.read hstep) (built_of_create hcreate) hrun
  obtain ⟨hchannels, hsamples, hfull⟩ := hs.fullSize_eq hav
  obtain ⟨hsize, -⟩ := consume_counts (Int.le_of_lt hsamples) hs.decoder hc
  constructor
  · intro hcounts
    have hbytes := hcounts.bytes
    rw [hsize, hs.inputChannelNum, hs.inputFormat] at hbytes
    by_cases hnone : consumed.samples.length = 0
    · exact .inr hnone
    · left
      have hpositive : (consumed.samples.length : Int) * file.channels ≠ 0 :=
        Int.mul_ne_zero (by omega) (by omega)
      rw [Int.mul_right_comm] at hbytes
      exact (Int.eq_of_mul_eq_mul_left hpositive hbytes).symm
  · intro hcondition
    obtain ⟨s', result, hread, hhanded, hlength⟩ := read_of_consume hav hs hc
    refine ⟨?_, s', result, hread, hhanded.trans ?_, hlength⟩
    · rw [hsize, hs.inputChannelNum, hs.inputFormat]
      rcases hcondition with hfmt | hnone
      · rw [hfmt, Int.mul_right_comm]
      · simp [hnone]
    · rw [hsize, hfull]
      rcases hcondition with hfmt | hnone
      · rw [hfmt, Int.mul_assoc, Int.mul_comm 2, ← Int.mul_assoc,
          Int.mul_comm file.channels s.inputSamples]
        constructor
        · intro hequal
          exact Int.eq_of_mul_eq_mul_right (Int.ne_of_gt hchannels)
            (Int.eq_of_mul_eq_mul_right (by decide) hequal)
        · intro hequal
          rw [hequal]
      · have hpositive := Int.mul_pos (Int.mul_pos hchannels hsamples)
          file.sampleFormat.bytesPerSample_pos
        simp only [hnone]
        omega

end Blocks

/-- One packet of 80 samples, 10 ms at 8000 Hz, in a given format. -/
def tenMsFile (fmt : AVSampleFormat) : MediaFile Slot UInt8 :=
  { slotFile [.packet ⟨0, List.replicate 80 5⟩] with sampleFormat := fmt }

/-- In a format of four bytes the whole block is there, is counted as half
of it, and is reported as the end of the file. -/
theorem chunk_of_floats_is_end_of_file :
    ∃ s d consumed s' result,
      AudioFileSource.create copyingAv 9 7 (tenMsFile .fltp) 8000 1 10 1 = .ok s ∧
      Decoder.consume 9 s.decoder s.inputSamples = .ok (d, consumed) ∧
      s.inputSamples = 80 ∧ consumed.samples.length = 80 ∧ consumed.size = 160 ∧
      fullSize copyingAv s = 320 ∧ s.read copyingAv 9 = .ok (s', result) ∧
      result.ret = averrorEof ∧ ¬ CountsBlock copyingAv 9 s consumed := by
  obtain ⟨s, d, consumed, s', result, hs, hc, hsamples, hlength, hsize, hfull, hread, hret,
      hchannels, hformat⟩ :
      ∃ s d consumed s' result,
        AudioFileSource.create copyingAv 9 7 (tenMsFile .fltp) 8000 1 10 1 = .ok s ∧
        Decoder.consume 9 s.decoder s.inputSamples = .ok (d, consumed) ∧
        s.inputSamples = 80 ∧ consumed.samples.length = 80 ∧ consumed.size = 160 ∧
        fullSize copyingAv s = 320 ∧ s.read copyingAv 9 = .ok (s', result) ∧
        result.ret = averrorEof ∧ s.inputChannelNum = 1 ∧ s.inputFormat = .fltp :=
    ⟨_, _, _, _, _, rfl, rfl, rfl, rfl, rfl, rfl, rfl, rfl, rfl, rfl⟩
  refine ⟨s, d, consumed, s', result, hs, hc, hsamples, hlength, hsize, hfull, hread, hret, ?_⟩
  intro hcounts
  have hbytes := hcounts.bytes
  rw [hsize, hlength, hchannels, hformat] at hbytes
  exact absurd hbytes (by decide)

theorem chunk_completeness_s16 :
    ∃ s d consumed, AudioFileSource.create copyingAv 9 7 (tenMsFile .s16) 8000 1 10 1 = .ok s ∧
      Decoder.consume 9 s.decoder s.inputSamples = .ok (d, consumed) ∧
      consumed.samples.length = 80 ∧ CountsBlock copyingAv 9 s consumed := by
  obtain ⟨s, d, consumed, hs, hc, hlength⟩ :
      ∃ s d consumed,
        AudioFileSource.create copyingAv 9 7 (tenMsFile .s16) 8000 1 10 1 = .ok s ∧
        Decoder.consume 9 s.decoder s.inputSamples = .ok (d, consumed) ∧
        consumed.samples.length = 80 :=
    ⟨_, _, _, rfl, rfl, rfl⟩
  refine ⟨s, d, consumed, hs, hc, hlength, ?_⟩
  exact (chunk_completeness_iff copyingAv copyingAv_documented (tenMsFile .s16) 9 mono8k 1 s hs
    [] s [] rfl d consumed hc).mpr (.inl rfl)

/-! ## The space offered for a block -/

/-- The settings of the resampler, which the constructor leaves for good. -/
structure Resamples (file : MediaFile σ α) (c : SourceSettings) (s : AudioFileSource σ ρ α) :
    Prop where
  inputSampleRate : s.resampler.inputSampleRate = file.sampleRate
  outputSampleRate : s.resampler.outputSampleRate = c.outputSampleRate
  outputChannelNum : s.resampler.outputChannelNum = c.outputChannelNum

section Space

variable {av : LibAv ρ α} {k : SwrContract av} {file : MediaFile σ α} {c : SourceSettings}
  {fuel : Nat} {volume : Float32} {s s' : AudioFileSource σ ρ α} {result : ReadResult α}

theorem resamples_of_create
    (h : AudioFileSource.create av fuel c.ssrc file c.outputSampleRate c.outputChannelNum
      c.frameDurationMs volume = .ok s) :
    Resamples file c s ∧ ∀ k : SwrContract av,
      k.options s.resampler.context = s.resampler.options := by
  simp only [AudioFileSource.create, bind_eq_ok] at h
  obtain ⟨_, _, _, _, _, _, decoder, hdec, _, _, _, _, resampler, hres, hs⟩ := h
  cases hs
  have hsettings := resampler_create_eq hres
  refine ⟨⟨?_, congrArg AudioResampler.outputSampleRate hsettings,
    congrArg AudioResampler.outputChannelNum hsettings⟩, fun k => resampler_create_options hres⟩
  exact (congrArg AudioResampler.inputSampleRate hsettings).trans
    (decodesFile_of_create hdec).sampleRate

/-- `Read` keeps the settings of the resampler. -/
theorem Resamples.read (hr : Resamples file c s) (h : s.read av fuel = .ok (s', result)) :
    Resamples file c s' := by
  obtain ⟨decoder, consumed, _, hcase⟩ := read_cases h
  rcases hcase with ⟨_, rfl, _⟩ | ⟨_, resampler, resampled, hres, rfl, _⟩
  · exact ⟨hr.inputSampleRate, hr.outputSampleRate, hr.outputChannelNum⟩
  · obtain ⟨rfl, -⟩ := resample_ok hres
    exact ⟨hr.inputSampleRate, hr.outputSampleRate, hr.outputChannelNum⟩

theorem context_of_read (hk : k.options s.resampler.context = s.resampler.options)
    (h : s.read av fuel = .ok (s', result)) :
    k.options s'.resampler.context = s'.resampler.options := by
  obtain ⟨decoder, consumed, _, hcase⟩ := read_cases h
  rcases hcase with ⟨_, rfl, _⟩ | ⟨_, resampler, resampled, hres, rfl, _⟩
  · exact hk
  · exact (options_of_resample hk hres).1

/-- The space offered for a full block. -/
theorem outputSamples_of_full (hav : av.Documented) (hs : Built av file c s)
    (hr : Resamples file c s) :
    s.resampler.outputSamples av (fullSize av s)
      = toInt32 (av.rescaleRndUp s.inputSamples c.outputSampleRate file.sampleRate) := by
  rw [AudioResampler.outputSamples, inputSamples_of_full hav hs, AudioResampler.spaceFor,
    hr.outputSampleRate, hr.inputSampleRate]

/-- **The space offered for a full block** is not negative, and is the
block at the output rate, rounded up. -/
theorem space_of_full (hav : av.Documented) (hrescale : av.RescaleLaws) (hs : Built av file c s)
    (hr : Resamples file c s) (hrate : 1 ≤ file.sampleRate) (h32 : IsInt32 file.sampleRate)
    (hout : IsInt32 c.outputSampleRate) :
    0 ≤ s.resampler.outputSamples av (fullSize av s) ∧
      ∀ k, 0 ≤ k → (s.resampler.outputSamples av (fullSize av s) ≤ k ↔
        s.inputSamples * c.outputSampleRate ≤ k * file.sampleRate) := by
  obtain ⟨-, hsamples, -⟩ := hs.fullSize_eq hav
  have hnonneg := Int.le_of_lt hsamples
  have hsecond : s.inputSamples ≤ file.sampleRate := by
    have hle := natAbs_tdiv_le file.sampleRate ((1000 : Int).tdiv c.frameDurationMs)
    rw [← hs.inputSamples] at hle
    omega
  rw [outputSamples_of_full hav hs hr]
  refine ⟨hrescale.toInt32_rescale_nonneg hnonneg hsecond (by omega) hout h32, ?_⟩
  intro k hk
  exact hrescale.toInt32_rescale_le_iff hnonneg hsecond (by omega) hout h32 hk

/-- A block is at most the samples of its share of a second. -/
theorem inputSamples_mul_le (hs : Built av file c s) (hrate : 0 ≤ file.sampleRate)
    (hq : 0 < (1000 : Int).tdiv c.frameDurationMs) :
    s.inputSamples * (1000 : Int).tdiv c.frameDurationMs ≤ file.sampleRate := by
  rw [hs.inputSamples, Int.tdiv_eq_ediv_of_nonneg hrate]
  exact Int.ediv_mul_le _ (by omega)

/-- A native rate has a whole number of samples in 10 ms. -/
theorem nativeRate_tdiv {rate : Int} (h : rate ∈ nativeRates) :
    rate = 100 * rate.tdiv 100 ∧ 0 < rate.tdiv 100 ∧ rate.tdiv 100 ≤ 480 := by
  simp only [nativeRates, List.mem_cons, List.not_mem_nil, or_false] at h
  rcases h with rfl | rfl | rfl | rfl <;> decide

/-- **The space offered fits a 10 ms frame**, at native rates and for
blocks of at most 10 ms, whatever the rate of the file. -/
theorem outputSamples_le_report (hav : av.Documented) (hrescale : av.RescaleLaws)
    (hs : Built av file c s) (hr : Resamples file c s) (hrate : 1 ≤ file.sampleRate)
    (h32 : IsInt32 file.sampleRate) (hlow : 1 ≤ c.frameDurationMs)
    (hhigh : c.frameDurationMs ≤ 10) (hnative : c.outputSampleRate ∈ nativeRates) :
    0 ≤ s.resampler.outputSamples av (fullSize av s) ∧
      s.resampler.outputSamples av (fullSize av s) ≤ s.reportOutputSamples := by
  obtain ⟨hq, -⟩ := framesPerSecond_bounds hlow hhigh
  obtain ⟨hwhole, hpositive, hsmall⟩ := nativeRate_tdiv hnative
  obtain ⟨-, hsamples, -⟩ := hs.fullSize_eq hav
  have hblock := inputSamples_mul_le hs (by omega) (by omega)
  have hspace : s.inputSamples * c.outputSampleRate
      ≤ c.outputSampleRate.tdiv 100 * file.sampleRate := by
    calc s.inputSamples * c.outputSampleRate
        = c.outputSampleRate.tdiv 100 * (s.inputSamples * 100) := by
          rw [← Int.mul_assoc, Int.mul_right_comm, Int.mul_comm _ 100, ← hwhole, Int.mul_comm]
      _ ≤ c.outputSampleRate.tdiv 100
            * (s.inputSamples * (1000 : Int).tdiv c.frameDurationMs) :=
          Int.mul_le_mul_of_nonneg_left (Int.mul_le_mul_of_nonneg_left hq (by omega)) (by omega)
      _ ≤ c.outputSampleRate.tdiv 100 * file.sampleRate :=
          Int.mul_le_mul_of_nonneg_left hblock (by omega)
  have hout32 : IsInt32 c.outputSampleRate := ⟨by omega, by omega⟩
  obtain ⟨hnonneg, hle⟩ := space_of_full hav hrescale hs hr hrate h32 hout32
  rw [hs.reportOutputSamples]
  exact ⟨hnonneg, (hle _ (Int.le_of_lt hpositive)).mpr hspace⟩

end Space

/-! ## The frame a block is written to -/

/-- `ScaleWithSat` multiplies the samples of a frame: it keeps their
number, and a zero stays zero. -/
structure ScalesSamples (scaleWithSat : ScaleWithSat) : Prop where
  declared : ∀ scale frame, (scaleWithSat scale frame).declared = frame.declared
  zero : ∀ scale frame i, i < frame.declared → frame.data i = 0 →
    (scaleWithSat scale frame).data i = 0

/-- A call of `GetAudioFrameWithInfo`: the rate asked for and the frame
passed, with whatever an earlier call left in it. -/
structure FrameCall where
  sampleRateHz : Int
  audioFrame : AudioFrame

/-- A file source as a machine that gives out frames. -/
def frameMachine (abi : Abi) (av : LibAv ρ α) (scaleWithSat : ScaleWithSat) (fuel : Nat) :
    Machine (AudioFileSource σ ρ α) FrameCall (AudioFrameInfo × AudioFrame) Fault where
  step s call := do
    let (info, frame, s') ←
      s.getAudioFrameWithInfo abi av scaleWithSat fuel call.sampleRateHz call.audioFrame
    return (s', info, frame)

section Frame

variable {abi : Abi} {av : LibAv ρ α} {k : SwrContract av} {scaleWithSat : ScaleWithSat}
  {file : MediaFile σ α} {c : SourceSettings} {fuel : Nat} {s s' : AudioFileSource σ ρ α}
  {result : ReadResult α}

/-- A blank frame is zero, whatever it held, and as long as the source
says. -/
theorem blankFrame_zero {frame blank : AudioFrame} (h : blankFrame abi s frame = .ok blank) :
    blank.dataArray = (fun _ => 0) ∧ blank.muted = false ∧
      blank.declared = toSizeT abi s.reportOutputSamples * toSizeT abi s.outputChannelNum := by
  simp only [blankFrame, bind_eq_ok] at h
  obtain ⟨updated, hupdated, hret⟩ := h
  have hlength := AudioFrame.length_le_of_updateFrame hupdated
  simp only [AudioFrame.updateFrame, if_pos hlength] at hupdated
  cases hupdated
  cases hret
  exact ⟨rfl, rfl, rfl⟩

/-- Volume keeps zeros and the length. -/
theorem applyVolume_zero (hscale : ScalesSamples scaleWithSat) (volume : Float32)
    (frame : AudioFrame) :
    (applyVolume scaleWithSat volume frame).declared = frame.declared ∧
      ∀ i, i < frame.declared → frame.data i = 0 →
        (applyVolume scaleWithSat volume frame).data i = 0 := by
  unfold applyVolume
  split
  · exact ⟨hscale.declared volume frame, hscale.zero volume frame⟩
  · exact ⟨rfl, fun _ _ hzero => hzero⟩

/-- What `Read` writes fits the space offered. -/
theorem length_written_le (hk : k.options s.resampler.context = s.resampler.options)
    (h : s.read av fuel = .ok (s', result)) :
    result.written.length ≤ (s.resampler.outputSamples av (fullSize av s)).toNat
      * (AudioResampler.channelLayout s.resampler.outputChannelNum).channels := by
  obtain ⟨decoder, consumed, _, hcase⟩ := read_cases h
  rcases hcase with ⟨_, _, rfl⟩ | ⟨hsize, resampler, resampled, hres, _, rfl⟩
  · exact Nat.zero_le _
  · obtain ⟨-, -, hwritten, -⟩ := resample_ok hres
    have hlength := k.length_written s.resampler.context
      (s.resampler.outputSamples av consumed.size)
      (firstN (store s.inputBuffer consumed.samples) (s.resampler.inputSamples consumed.size).toNat)
    rw [hk, hsize] at hlength
    show resampled.written.length ≤ _
    rw [hwritten, hsize]
    exact hlength

/-- A `kNormal` frame is zero behind what its call wrote. -/
theorem normal_frame_zero (hscale : ScalesSamples scaleWithSat) {hz : Int}
    {frame frame' : AudioFrame}
    (h : s.getAudioFrameWithInfo abi av scaleWithSat fuel hz frame = .ok (.kNormal, frame', s')) :
    ∃ result, s.read av fuel = .ok (s', result) ∧
      frame'.declared = toSizeT abi s.reportOutputSamples * toSizeT abi s.outputChannelNum ∧
      ∀ i, result.written.length ≤ i → i < frame'.declared → frame'.data i = 0 := by
  rcases file_getAudioFrameWithInfo_cases h with
    ⟨_, hinfo, _⟩ | ⟨_, blank, result, hblank, hread, hcase⟩
  · cases hinfo
  · rcases hcase with ⟨_, hinfo⟩ | ⟨_, _, rfl⟩
    · cases hinfo
    · obtain ⟨harray, hmuted, hdeclared⟩ := blankFrame_zero hblank
      obtain ⟨hlength, hzero⟩ := applyVolume_zero hscale s'.volume
        { blank with dataArray := store blank.dataArray result.written }
      refine ⟨result, hread, hlength.trans hdeclared, ?_⟩
      intro i hi hlt
      rw [hlength] at hlt
      apply hzero i hlt
      simp only [AudioFrame.data, hmuted, harray, Bool.false_eq_true, if_false]
      exact store_of_le _ hi

/-- What a frame call keeps. -/
structure FrameInvariant (k : SwrContract av) (file : MediaFile σ α) (c : SourceSettings)
    (s : AudioFileSource σ ρ α) : Prop where
  built : Built av file c s
  resamples : Resamples file c s
  context : k.options s.resampler.context = s.resampler.options

theorem FrameInvariant.step {call : FrameCall} {reply : AudioFrameInfo × AudioFrame}
    (hs : FrameInvariant k file c s)
    (h : (frameMachine abi av scaleWithSat fuel).step s call = .ok (s', reply)) :
    FrameInvariant k file c s' := by
  simp only [frameMachine, bind_eq_ok] at h
  obtain ⟨⟨info, frame, s₁⟩, hget, hret⟩ := h
  cases hret
  rcases file_getAudioFrameWithInfo_cases hget with ⟨_, _, rfl⟩ | ⟨_, _, _, _, hread, _⟩
  · exact hs
  · exact ⟨hs.built.read hread, hs.resamples.read hread, context_of_read hs.context hread⟩

/-- **A file frame never overruns and never leaks old samples.** For every
file with a rate of at least 1, blocks of one to ten milliseconds, native
output rates and one or two channels, in every run of frame calls on
frames with any contents: the space `Resample` offers for a full block is
at most that of a 10 ms frame; what is written lies in the declared part
of the frame; and in a frame returned as `kNormal` everything declared
behind what was written in this call is zero. -/
theorem file_frame_stays_inside (abi : Abi) (av : LibAv ρ α) (hav : av.Documented)
    (hrescale : av.RescaleLaws) (k : SwrContract av) (scaleWithSat : ScaleWithSat)
    (hscale : ScalesSamples scaleWithSat) (file : MediaFile σ α) (hrate : 1 ≤ file.sampleRate)
    (c : SourceSettings) (hlow : 1 ≤ c.frameDurationMs) (hhigh : c.frameDurationMs ≤ 10)
    (hnative : c.outputSampleRate ∈ nativeRates)
    (hchannels : c.outputChannelNum = 1 ∨ c.outputChannelNum = 2) (fuel : Nat)
    (volume : Float32) (src : AudioFileSource σ ρ α)
    (hcreate : AudioFileSource.create av fuel c.ssrc file c.outputSampleRate c.outputChannelNum
      c.frameDurationMs volume = .ok src)
    (calls : List FrameCall) (s : AudioFileSource σ ρ α)
    (replies : List (AudioFrameInfo × AudioFrame))
    (hrun : (frameMachine abi av scaleWithSat fuel).run src calls = .ok (s, replies)) :
    (∀ d consumed, Decoder.consume fuel s.decoder s.inputSamples = .ok (d, consumed) →
      consumed.size = fullSize av s →
      s.resampler.outputSamples av consumed.size ≤ s.reportOutputSamples) ∧
    (∀ s' result, s.read av fuel = .ok (s', result) →
      (result.written.length : Int) ≤ s.reportOutputSamples * s.outputChannelNum) ∧
    ∀ hz frame frame' s',
      s.getAudioFrameWithInfo abi av scaleWithSat fuel hz frame = .ok (.kNormal, frame', s') →
      ∃ result, s.read av fuel = .ok (s', result) ∧
        (frame'.declared : Int) = s.reportOutputSamples * s.outputChannelNum ∧
        ∀ i, result.written.length ≤ i → i < frame'.declared → frame'.data i = 0 := by
  obtain ⟨hresamples, hcontext⟩ := resamples_of_create hcreate
  have hs : FrameInvariant k file c s := Machine.run_invariant (FrameInvariant k file c)
    (fun _ _ _ _ hI hstep => hI.step hstep)
    ⟨built_of_create hcreate, hresamples, hcontext k⟩ hrun
  have h32 := isInt32_rate_of_create (decoder_of_create hcreate)
  obtain ⟨hnonneg, hspace⟩ := outputSamples_le_report hav hrescale hs.built hs.resamples hrate h32
    hlow hhigh hnative
  have hlayout : ((AudioResampler.channelLayout s.resampler.outputChannelNum).channels : Int)
      = s.outputChannelNum := by
    rw [hs.resamples.outputChannelNum, hs.built.outputChannelNum]
    exact ((channels_channelLayout_eq_iff _).mpr hchannels).symm
  refine ⟨fun d consumed _ hsize => by rw [hsize]; exact hspace, ?_, ?_⟩
  · intro s' result hread
    have hlength := length_written_le hs.context hread
    calc (result.written.length : Int)
        ≤ s.resampler.outputSamples av (fullSize av s)
            * (AudioResampler.channelLayout s.resampler.outputChannelNum).channels := by
          have hcast := Int.ofNat_le.mpr hlength
          rw [Int.natCast_mul, Int.toNat_of_nonneg hnonneg] at hcast
          exact hcast
      _ ≤ s.reportOutputSamples * s.outputChannelNum := by
          rw [hlayout]
          exact Int.mul_le_mul_of_nonneg_right hspace
            (by rw [hs.built.outputChannelNum]; omega)
  · intro hz frame frame' s' hget
    obtain ⟨result, hread, hdeclared, hzero⟩ := normal_frame_zero hscale hget
    refine ⟨result, hread, ?_, hzero⟩
    obtain ⟨_, hpositive, hsmall⟩ := nativeRate_tdiv hnative
    rw [hdeclared, hs.built.outputChannelNum, hs.built.reportOutputSamples,
      toSizeT_of_nonneg abi (by omega) (by constructor <;> omega),
      toSizeT_of_nonneg abi (by omega) (by constructor <;> omega), Int.natCast_mul,
      Int.toNat_of_nonneg (by omega), Int.toNat_of_nonneg (by omega)]

end Frame

/-- Ten milliseconds of a file at 8000 Hz, at 16000 Hz and in stereo. -/
def stereo16k : SourceSettings where
  ssrc := 7
  outputSampleRate := 16000
  outputChannelNum := 2
  frameDurationMs := 10

theorem file_frame_stays_inside_stereo16k :
    ∃ src frame s', AudioFileSource.create copyingAv 9 7 (tenMsFile .s16) 16000 2 10 1 = .ok src ∧
      src.getAudioFrameWithInfo .lp64 copyingAv (fun _ frame => frame) 9 16000
        { dataArray := fun _ => 77 } = .ok (.kNormal, frame, s') ∧
      src.resampler.outputSamples copyingAv (fullSize copyingAv src) ≤ 160 ∧
      ∃ result, src.read copyingAv 9 = .ok (s', result) ∧ result.written.length ≤ 320 ∧
        ∀ i, result.written.length ≤ i → i < 320 → frame.data i = 0 := by
  obtain ⟨src, frame, s', d, consumed, hsrc, hget, hconsume, hsize, hreport, hchannels⟩ :
      ∃ src frame s' d consumed,
        AudioFileSource.create copyingAv 9 7 (tenMsFile .s16) 16000 2 10 1 = .ok src ∧
        src.getAudioFrameWithInfo .lp64 copyingAv (fun _ frame => frame) 9 16000
          { dataArray := fun _ => 77 } = .ok (.kNormal, frame, s') ∧
        Decoder.consume 9 src.decoder src.inputSamples = .ok (d, consumed) ∧
        consumed.size = fullSize copyingAv src ∧ src.reportOutputSamples = 160 ∧
        src.outputChannelNum = 2 :=
    ⟨_, _, _, _, _, rfl, rfl, rfl, rfl, rfl, rfl⟩
  obtain ⟨hspace, hinside, hnormal⟩ := file_frame_stays_inside .lp64 copyingAv copyingAv_documented
    copyingAv_rescaleLaws copyingAvContract (fun _ frame => frame)
    ⟨fun _ _ => rfl, fun _ _ _ _ hzero => hzero⟩ (tenMsFile .s16) (by decide) stereo16k (by decide)
    (by decide) (by decide) (by decide) 9 1 src hsrc [] src [] rfl
  obtain ⟨result, hread, hdeclared, hzero⟩ := hnormal _ _ _ _ hget
  have hlength := hinside _ _ hread
  have hoffered := hspace d consumed hconsume hsize
  rw [hreport, hchannels] at hdeclared hlength
  rw [hreport, hsize] at hoffered
  exact ⟨src, frame, s', hsrc, hget, hoffered, result, hread, by omega,
    fun i hi hlt => hzero i hi (by omega)⟩

end L4AudioMixer.Source
