/-
L4AudioMixer.Source.ResamplerTheorems — what `AudioResampler::Resample`
tells its callers.

`resample_ok` takes a call apart: the sample count derived from the byte
count, the space offered to `swr_convert`, the conversion, and the byte
count reported. The count reported is the size of a buffer in default
alignment, not of the samples in it; `resample_reports_iff` says for
which conversions the two are the same, and that a run of such calls
passes the converted stream on.
-/
import L4AudioMixer.Lib.Machine
import L4AudioMixer.Libav.SampleContract
import L4AudioMixer.Source.AudioResampler

namespace L4AudioMixer.Source

open L4AudioMixer.Lib
open L4AudioMixer.Libav

variable {ρ α : Type}

namespace AudioResampler

/-- `input_samples`. -/
def inputSamples (r : AudioResampler ρ) (inputSize : Int) : Int :=
  (inputSize.tdiv r.inputChannelNum).tdiv r.inputFormat.bytesPerSample

/-- `output_samples`: the space offered, in samples per channel. -/
def outputSamples (av : LibAv ρ α) (r : AudioResampler ρ) (inputSize : Int) : Int :=
  r.spaceFor av (r.inputSamples inputSize)

/-- The `swr_convert` call of `Resample`. -/
def converted (av : LibAv ρ α) (r : AudioResampler ρ) (inputBuffer : Nat → α)
    (inputSize : Int) : SwrConverted ρ :=
  av.swrConvert r.context (r.outputSamples av inputSize)
    (firstN inputBuffer (r.inputSamples inputSize).toNat)

/-- The options the constructor sets on its context. -/
def options (r : AudioResampler ρ) : SwrOptions where
  inChannelLayout := channelLayout r.inputChannelNum
  inSampleRate := r.inputSampleRate
  inSampleFmt := r.inputFormat
  outChannelLayout := channelLayout r.outputChannelNum
  outSampleRate := r.outputSampleRate
  outSampleFmt := r.outputFormat

end AudioResampler

section Calls

variable {av : LibAv ρ α} {r r' : AudioResampler ρ} {buffer : Nat → α} {inputSize : Int}
  {out : Resampled α}

/-- **A call of `Resample` in parts.** -/
theorem resample_ok (h : r.resample av buffer inputSize = .ok (r', out)) :
    r' = { r with context := (r.converted av buffer inputSize).context } ∧
    out.input = firstN buffer (r.inputSamples inputSize).toNat ∧
    out.written = (r.converted av buffer inputSize).written ∧
    out.ret = r.reported av (r.converted av buffer inputSize).ret := by
  simp only [AudioResampler.resample, bind_eq_ok] at h
  obtain ⟨perChannel, hper, samples, hsamples, hret⟩ := h
  obtain ⟨-, rfl⟩ := divInt32_eq_ok hper
  obtain ⟨-, rfl⟩ := divInt32_eq_ok hsamples
  cases hret
  exact ⟨rfl, rfl, rfl, rfl⟩

/-- A call with a positive channel count returns. -/
theorem resample_returns (av : LibAv ρ α) (buffer : Nat → α) (inputSize : Int)
    (hchannels : 0 < r.inputChannelNum) :
    ∃ r' out, r.resample av buffer inputSize = .ok (r', out) := by
  have hbytes := r.inputFormat.bytesPerSample_pos
  simp only [AudioResampler.resample, divInt32_of_pos hchannels, divInt32_of_pos hbytes, bind,
    Except.bind, pure, Except.pure]
  exact ⟨_, _, rfl⟩

/-- No call ends with the code for the end of a file. -/
theorem ret_ne_averrorEof (hav : av.Documented)
    (h : r.resample av buffer inputSize = .ok (r', out)) : out.ret ≠ averrorEof := by
  obtain ⟨-, -, -, hret⟩ := resample_ok h
  rw [hret, AudioResampler.reported]
  split
  · exact hav.convertNotEof _ _ _
  · exact hav.sizeNotEof _ _ _ _

/-- The constructor keeps what it is called with. -/
theorem resampler_create_eq {inputFormat outputFormat : AVSampleFormat}
    {inputSampleRate inputChannelNum outputSampleRate outputChannelNum : Int}
    (h : AudioResampler.create av inputFormat inputSampleRate inputChannelNum outputFormat
      outputSampleRate outputChannelNum = .ok r) :
    r = { context := (av.swrInit r.options).2, inputFormat, inputSampleRate, inputChannelNum
          outputFormat, outputSampleRate, outputChannelNum } := by
  simp only [AudioResampler.create, bind_eq_ok] at h
  obtain ⟨_, _, _, _, hr⟩ := h
  cases hr
  rfl

theorem resampler_create_options {k : SwrContract av}
    {inputFormat outputFormat : AVSampleFormat}
    {inputSampleRate inputChannelNum outputSampleRate outputChannelNum : Int}
    (h : AudioResampler.create av inputFormat inputSampleRate inputChannelNum outputFormat
      outputSampleRate outputChannelNum = .ok r) :
    k.options r.context = r.options := by
  have hcontext : r.context = (av.swrInit r.options).2 :=
    congrArg AudioResampler.context (resampler_create_eq h)
  rw [hcontext]
  exact k.options_init _

/-- A conversion changes the context alone, and the context keeps its
options. -/
theorem options_of_resample {k : SwrContract av} (hr : k.options r.context = r.options)
    (h : r.resample av buffer inputSize = .ok (r', out)) :
    k.options r'.context = r'.options ∧ r' = { r with context := r'.context } := by
  obtain ⟨rfl, -⟩ := resample_ok h
  exact ⟨(k.options_convert _ _ _).trans hr, rfl⟩

end Calls

/-! ## The byte count -/

/-- What a caller may expect of the return value when `swr_convert` did
not fail: it is the size of the samples produced, which is the number of
bytes stored, and no error. -/
def Reports {av : LibAv ρ α} (k : SwrContract av) (r : AudioResampler ρ) (buffer : Nat → α)
    (inputSize ret : Int) : Prop :=
  0 ≤ (r.converted av buffer inputSize).ret →
    ret = (r.converted av buffer inputSize).ret * r.outputChannelNum
        * r.outputFormat.bytesPerSample ∧
    ret = (k.stored (r.converted av buffer inputSize)).length ∧ 0 ≤ ret

/-- The sample counts whose size `Resample` reports: multiples of 32, of
one or two channels, whose size is an `int`. -/
def Reportable (outputChannelNum : Int) (outputFormat : AVSampleFormat) (produced : Int) : Prop :=
  (outputChannelNum = 1 ∨ outputChannelNum = 2) ∧ 0 < produced ∧ 32 ∣ produced ∧
    outputChannelNum * produced * outputFormat.bytesPerSample ≤ 2147483647 - outputChannelNum

section Reporting

variable {av : LibAv ρ α} {k : SwrContract av} {r r' : AudioResampler ρ} {buffer : Nat → α}
  {inputSize : Int} {out : Resampled α}

/-- The layout has the announced channels exactly for one and two. -/
theorem channels_channelLayout_eq_iff (channelNum : Int) :
    channelNum = ((AudioResampler.channelLayout channelNum).channels : Int) ↔
      channelNum = 1 ∨ channelNum = 2 := by
  unfold AudioResampler.channelLayout
  split
  · simp [*, ChannelLayout.channels]
  · simp only [ChannelLayout.channels]
    omega

/-- A size in default alignment is the size of the samples exactly for
the multiples of 32. -/
theorem alignedSize_eq_iff (hsizes : av.SizeLaws) (channels produced : Int)
    (fmt : AVSampleFormat) :
    (av.samplesGetBufferSize channels produced fmt 0 = produced * channels * fmt.bytesPerSample ∧
      0 ≤ av.samplesGetBufferSize channels produced fmt 0) ↔
      0 < channels ∧ 0 < produced ∧ 32 ∣ produced ∧
        channels * produced * fmt.bytesPerSample ≤ 2147483647 - channels := by
  rw [hsizes.nonneg_iff (.inl rfl)]
  have hbytes := fmt.bytesPerSample_pos
  constructor
  · rintro ⟨hequal, hfits⟩
    rw [hsizes.fits _ _ _ _ (.inl rfl) hfits, Int.mul_comm produced] at hequal
    obtain ⟨hchannels, hproduced, hsize⟩ := hfits
    have hpadded : paddedSamples 0 produced = produced :=
      Int.eq_of_mul_eq_mul_left (by omega) (Int.eq_of_mul_eq_mul_right (by omega) hequal)
    rw [hpadded] at hsize
    exact ⟨hchannels, hproduced, paddedSamples_zero_eq_iff.mp hpadded, hsize⟩
  · rintro ⟨hchannels, hproduced, hdvd, hsize⟩
    have hpadded := paddedSamples_zero_eq_iff.mpr hdvd
    have hfits : SizeFits channels produced fmt 0 :=
      ⟨hchannels, hproduced, by rw [hpadded]; exact hsize⟩
    refine ⟨?_, hfits⟩
    rw [hsizes.fits _ _ _ _ (.inl rfl) hfits, hpadded, Int.mul_comm produced]

/-- What a conversion that did not fail stored. -/
theorem length_stored_converted (hr : k.options r.context = r.options)
    (hret : 0 ≤ (r.converted av buffer inputSize).ret) :
    ((k.stored (r.converted av buffer inputSize)).length : Int)
      = (r.converted av buffer inputSize).ret
        * (AudioResampler.channelLayout r.outputChannelNum).channels
        * r.outputFormat.bytesPerSample := by
  have hmax : max (r.converted av buffer inputSize).ret 0
      = (r.converted av buffer inputSize).ret := Int.max_eq_left hret
  rw [← hmax]
  refine (k.length_stored r.context _ _).trans ?_
  rw [hr]
  rfl

/-- **One call**: the return value is right exactly when the conversion
failed or the samples it produced are reportable. -/
theorem reports_iff (hsizes : av.SizeLaws) (hr : k.options r.context = r.options)
    (h : r.resample av buffer inputSize = .ok (r', out)) :
    Reports k r buffer inputSize out.ret ↔
      (0 ≤ (r.converted av buffer inputSize).ret →
        Reportable r.outputChannelNum r.outputFormat (r.converted av buffer inputSize).ret) := by
  obtain ⟨-, -, -, hret⟩ := resample_ok h
  apply forall_congr'
  intro hnonneg
  have hbytes := r.outputFormat.bytesPerSample_pos
  rw [AudioResampler.reported_of_nonneg av r hnonneg] at hret
  rw [length_stored_converted hr hnonneg, hret]
  have haligned := alignedSize_eq_iff hsizes r.outputChannelNum
    (r.converted av buffer inputSize).ret r.outputFormat
  constructor
  · rintro ⟨hsize, hstored, herror⟩
    obtain ⟨_, hproduced, hdvd, hfits⟩ := haligned.mp ⟨hsize, herror⟩
    have hchannels : r.outputChannelNum
        = ((AudioResampler.channelLayout r.outputChannelNum).channels : Int) := by
      rw [hsize] at hstored
      exact Int.eq_of_mul_eq_mul_left (by omega) (Int.eq_of_mul_eq_mul_right (by omega) hstored)
    exact ⟨(channels_channelLayout_eq_iff _).mp hchannels, hproduced, hdvd, hfits⟩
  · rintro ⟨hchannels, hproduced, hdvd, hfits⟩
    obtain ⟨hsize, herror⟩ := haligned.mpr ⟨by omega, hproduced, hdvd, hfits⟩
    refine ⟨hsize, ?_, herror⟩
    rw [hsize, ← (channels_channelLayout_eq_iff _).mpr hchannels]

end Reporting

/-! ## Runs -/

/-- A call of `Resample`: the input, its size in bytes, and what the
caller's output buffer holds. -/
structure ResampleCall (α : Type) where
  input : Nat → α
  inputSize : Int
  output : Nat → UInt8

/-- What came of a call: the bytes the caller takes from its buffer, as
many as the return value says, and the bytes `swr_convert` stored. -/
structure ResampleReply where
  taken : List UInt8
  stored : List UInt8

/-- A resampler as a machine, with a caller that trusts the return value. -/
def resampleMachine (av : LibAv ρ α) (k : SwrContract av) :
    Machine (AudioResampler ρ) (ResampleCall α) ResampleReply Fault where
  step r call := do
    let (r', out) ← r.resample av call.input call.inputSize
    let stored := k.stored (r.converted av call.input call.inputSize)
    return (r', { taken := firstN (store call.output stored) out.ret.toNat, stored })

/-- The conversion of a call fails or produces reportable samples. -/
def ReportableCall (av : LibAv ρ α) (r : AudioResampler ρ) (call : ResampleCall α) : Prop :=
  0 ≤ (r.converted av call.input call.inputSize).ret →
    Reportable r.outputChannelNum r.outputFormat (r.converted av call.input call.inputSize).ret

section Runs

variable {av : LibAv ρ α} {k : SwrContract av} {r r' : AudioResampler ρ}
  {call : ResampleCall α} {reply : ResampleReply}

theorem settings_of_step (hr : k.options r.context = r.options)
    (h : (resampleMachine av k).step r call = .ok (r', reply)) :
    k.options r'.context = r'.options ∧ r' = { r with context := r'.context } := by
  simp only [resampleMachine, bind_eq_ok] at h
  obtain ⟨⟨r₁, out⟩, hout, hret⟩ := h
  cases hret
  exact options_of_resample hr hout

/-- **The settings of a resampler** are those it was constructed with, and
those of its context. -/
theorem settings_of_run {inputFormat outputFormat : AVSampleFormat}
    {inputSampleRate inputChannelNum outputSampleRate outputChannelNum : Int}
    {r₀ : AudioResampler ρ} {calls : List (ResampleCall α)} {replies : List ResampleReply}
    (hcreate : AudioResampler.create av inputFormat inputSampleRate inputChannelNum outputFormat
      outputSampleRate outputChannelNum = .ok r₀)
    (hrun : (resampleMachine av k).run r₀ calls = .ok (r, replies)) :
    k.options r.context = r.options ∧
      r = { context := r.context, inputFormat, inputSampleRate, inputChannelNum
            outputFormat, outputSampleRate, outputChannelNum } := by
  refine Machine.run_invariant
    (fun r => k.options r.context = r.options ∧
      r = { context := r.context, inputFormat, inputSampleRate, inputChannelNum
            outputFormat, outputSampleRate, outputChannelNum })
    (fun r call r' reply hI hstep => ?_)
    ⟨resampler_create_options hcreate, ?_⟩ hrun
  · obtain ⟨hr, hsame⟩ := hI
    obtain ⟨hr', hsame'⟩ := settings_of_step hr hstep
    refine ⟨hr', hsame'.trans ?_⟩
    rw [hsame]
  · have hr₀ := resampler_create_eq hcreate
    rw [hr₀]

/-- A reportable call passes on what was stored. -/
theorem taken_eq_stored (hsizes : av.SizeLaws) (hr : k.options r.context = r.options)
    (hcall : ReportableCall av r call)
    (h : (resampleMachine av k).step r call = .ok (r', reply)) : reply.taken = reply.stored := by
  simp only [resampleMachine, bind_eq_ok] at h
  obtain ⟨⟨r₁, out⟩, hout, hret⟩ := h
  have hreports := (reports_iff hsizes hr hout).mpr hcall
  cases hret
  show firstN (store call.output _) out.ret.toNat = _
  by_cases hnonneg : 0 ≤ (r.converted av call.input call.inputSize).ret
  · obtain ⟨-, hlength, -⟩ := hreports hnonneg
    rw [hlength, Int.toNat_natCast, firstN_store]
  · -- a failed conversion: an error code, and nothing stored
    obtain ⟨-, -, -, hcode⟩ := resample_ok hout
    rw [AudioResampler.reported_of_neg av r (Int.not_le.mp hnonneg)] at hcode
    have hnone : ((k.stored (r.converted av call.input call.inputSize)).length : Int) = 0 := by
      refine (k.length_stored r.context _ _).trans ?_
      have hmax : max (r.converted av call.input call.inputSize).ret 0 = 0 :=
        Int.max_eq_right (by omega)
      simp only [AudioResampler.converted] at hmax
      rw [hmax, Int.zero_mul, Int.zero_mul]
    have hnil := List.eq_nil_of_length_eq_zero (Int.natCast_eq_zero.mp hnone)
    rw [hnil, hcode, Int.toNat_of_nonpos (by omega), firstN_zero]

/-- A run of reportable calls passes on the converted stream. -/
theorem run_taken_eq_stored (hsizes : av.SizeLaws) {calls : List (ResampleCall α)}
    {replies : List ResampleReply} (hr : k.options r.context = r.options)
    (hcalls : (resampleMachine av k).Meets (ReportableCall av) r calls)
    (hrun : (resampleMachine av k).run r calls = .ok (r', replies)) :
    replies.flatMap ResampleReply.taken = replies.flatMap ResampleReply.stored := by
  induction calls generalizing r replies with
  | nil =>
      cases hrun
      rfl
  | cons call calls ih =>
      obtain ⟨r₁, reply, rest, hstep, hrest, rfl⟩ := Machine.of_run_cons hrun
      have hfirst := taken_eq_stored hsizes hr hcalls.1 hstep
      have hlater := ih (settings_of_step hr hstep).1 (hcalls.2 r₁ reply hstep) hrest
      simp only [List.flatMap_cons, hfirst, hlater]

/-- **When `Resample` reports what it wrote**: in every state of every
resampler, for every input, exactly when `swr_convert` fails or produces a
multiple of 32 samples, at least one, for one or two channels and of a
size that is an `int`. And a run of such calls gives its callers the
converted stream. -/
theorem resample_reports_iff (av : LibAv ρ α) (hsizes : av.SizeLaws) (k : SwrContract av)
    (inputFormat : AVSampleFormat) (inputSampleRate inputChannelNum : Int)
    (outputFormat : AVSampleFormat) (outputSampleRate outputChannelNum : Int)
    (r₀ : AudioResampler ρ)
    (hcreate : AudioResampler.create av inputFormat inputSampleRate inputChannelNum outputFormat
      outputSampleRate outputChannelNum = .ok r₀)
    (calls : List (ResampleCall α)) (r : AudioResampler ρ) (replies : List ResampleReply)
    (hrun : (resampleMachine av k).run r₀ calls = .ok (r, replies)) :
    (∀ buffer inputSize r' out, r.resample av buffer inputSize = .ok (r', out) →
      (Reports k r buffer inputSize out.ret ↔
        (0 ≤ (r.converted av buffer inputSize).ret →
          Reportable outputChannelNum outputFormat (r.converted av buffer inputSize).ret))) ∧
    ((resampleMachine av k).Meets (ReportableCall av) r₀ calls →
      replies.flatMap ResampleReply.taken = replies.flatMap ResampleReply.stored) := by
  obtain ⟨hr, hsettings⟩ := settings_of_run hcreate hrun
  have hformat : r.outputFormat = outputFormat := congrArg AudioResampler.outputFormat hsettings
  have hchannels : r.outputChannelNum = outputChannelNum :=
    congrArg AudioResampler.outputChannelNum hsettings
  refine ⟨fun buffer inputSize r' out hout => ?_, fun hcalls =>
    run_taken_eq_stored hsizes (resampler_create_options hcreate) hcalls hrun⟩
  have hiff := reports_iff hsizes hr hout
  rw [hchannels, hformat] at hiff
  exact hiff

/-- 10 ms of mono at 8000 Hz, 80 samples of two bytes, not resampled. -/
def tenMs8k : ResampleCall UInt8 where
  input _ := 3
  inputSize := 160
  output _ := 9

/-- 80 samples are reported as 96: the caller gets 32 bytes of what its
buffer held before. -/
theorem resample_reports_padding :
    ∃ r₀ r' reply out, AudioResampler.create copyingAv .s16 8000 1 .s16 8000 1 = .ok r₀ ∧
      r₀.resample copyingAv tenMs8k.input tenMs8k.inputSize = .ok (r', out) ∧
      (r₀.converted copyingAv tenMs8k.input tenMs8k.inputSize).ret = 80 ∧ out.ret = 192 ∧
      (resampleMachine copyingAv copyingAvContract).step r₀ tenMs8k = .ok (r', reply) ∧
      reply.stored.length = 160 ∧ reply.taken.drop 160 = List.replicate 32 9 ∧
      ¬ Reports copyingAvContract r₀ tenMs8k.input tenMs8k.inputSize out.ret := by
  obtain ⟨r₀, r', reply, out, hr₀, hout, hproduced, hret, hstep, hstored, htaken, hchannels,
      hformat⟩ :
      ∃ r₀ r' reply out, AudioResampler.create copyingAv .s16 8000 1 .s16 8000 1 = .ok r₀ ∧
        r₀.resample copyingAv tenMs8k.input tenMs8k.inputSize = .ok (r', out) ∧
        (r₀.converted copyingAv tenMs8k.input tenMs8k.inputSize).ret = 80 ∧ out.ret = 192 ∧
        (resampleMachine copyingAv copyingAvContract).step r₀ tenMs8k = .ok (r', reply) ∧
        reply.stored.length = 160 ∧ reply.taken.drop 160 = List.replicate 32 9 ∧
        r₀.outputChannelNum = 1 ∧ r₀.outputFormat = .s16 :=
    ⟨_, _, _, _, rfl, rfl, rfl, rfl, rfl, rfl, rfl, rfl, rfl⟩
  refine ⟨r₀, r', reply, out, hr₀, hout, hproduced, hret, hstep, hstored, htaken, ?_⟩
  intro hreports
  obtain ⟨hsize, -, -⟩ := hreports (by rw [hproduced]; decide)
  rw [hret, hproduced, hchannels, hformat] at hsize
  exact absurd hsize (by decide)

/-- 4 ms of the same. -/
def fourMs8k : ResampleCall UInt8 := { tenMs8k with inputSize := 64 }

theorem resample_reports_four_ms :
    ∃ r₀ r r' replies out, AudioResampler.create copyingAv .s16 8000 1 .s16 8000 1 = .ok r₀ ∧
      (resampleMachine copyingAv copyingAvContract).run r₀ [fourMs8k] = .ok (r, replies) ∧
      r.resample copyingAv fourMs8k.input fourMs8k.inputSize = .ok (r', out) ∧
      Reports copyingAvContract r fourMs8k.input fourMs8k.inputSize out.ret ∧
      replies.flatMap ResampleReply.taken = replies.flatMap ResampleReply.stored := by
  obtain ⟨r₀, r, r', replies, out, hr₀, hrun, hout, hproduced, hproduced', hchannels, hformat⟩ :
      ∃ r₀ r r' replies out, AudioResampler.create copyingAv .s16 8000 1 .s16 8000 1 = .ok r₀ ∧
        (resampleMachine copyingAv copyingAvContract).run r₀ [fourMs8k] = .ok (r, replies) ∧
        r.resample copyingAv fourMs8k.input fourMs8k.inputSize = .ok (r', out) ∧
        (r₀.converted copyingAv fourMs8k.input fourMs8k.inputSize).ret = 32 ∧
        (r.converted copyingAv fourMs8k.input fourMs8k.inputSize).ret = 32 ∧
        r₀.outputChannelNum = 1 ∧ r₀.outputFormat = .s16 :=
    ⟨_, _, _, _, _, rfl, rfl, rfl, rfl, rfl, rfl, rfl⟩
  have hreportable : Reportable 1 .s16 32 := ⟨.inl rfl, by decide, by decide, by decide⟩
  obtain ⟨hreports, htaken⟩ := resample_reports_iff copyingAv copyingAv_sizeLaws copyingAvContract
    .s16 8000 1 .s16 8000 1 r₀ hr₀ [fourMs8k] r replies hrun
  refine ⟨r₀, r, r', replies, out, hr₀, hrun, hout, (hreports _ _ _ _ hout).mpr ?_, htaken ?_⟩
  · intro _
    rw [hproduced']
    exact hreportable
  · refine ⟨fun _ => ?_, fun _ _ _ => trivial⟩
    rw [hproduced, hchannels, hformat]
    exact hreportable

end Runs

end L4AudioMixer.Source
