/-
L4AudioMixer.Android.ResampleTheorems — the output array of the Java
resampler.

The native call is not told the length of the array it writes to. Java
sizes it by truncating divisions and a factor of two, `Resample` divides
the byte count back and rounds up; `output_buffer_holds_resampled` says
that the first is never less than the second.
-/
import L4AudioMixer.Android.Wrappers
import L4AudioMixer.Source.ResamplerTheorems

namespace L4AudioMixer.Android

open L4AudioMixer.Lib
open L4AudioMixer.Libav
open L4AudioMixer.Source (kOutputSampleFormat Resampled)

variable {ρ α : Type}

section Resampler

variable {av : LibAv ρ α} {r r₀ : AudioResampler ρ}
  {inputSampleRate inputChannelNum outputSampleRate outputChannelNum frameDurationMs : Int}

/-- What the constructor leaves: the settings, and arrays of the computed
lengths. -/
theorem resampler_of_create (hlow : 1 ≤ frameDurationMs) (hhigh : frameDurationMs ≤ 1000)
    (hin : IsInt32 inputSampleRate) (hout : IsInt32 outputSampleRate)
    (h : AudioResampler.create av inputSampleRate inputChannelNum outputSampleRate
      outputChannelNum frameDurationMs = .ok r) :
    (∃ context, r.native = { context, inputFormat := .s16, inputSampleRate, inputChannelNum
                             outputFormat := .s16, outputSampleRate, outputChannelNum }) ∧
    (r.inputBuffer.length : Int) = toInt32
      (inputSampleRate.tdiv ((1000 : Int).tdiv frameDurationMs) * inputChannelNum * 2) ∧
    (r.outputBuffer.length : Int) = toInt32
      (outputSampleRate.tdiv ((1000 : Int).tdiv frameDurationMs) * outputChannelNum * 2 * 2) := by
  have hq := framesPerSecond_pos hlow hhigh
  simp only [AudioResampler.create, div_framesPerSecond hlow, Java.div_of_pos hin hq,
    Java.div_of_pos hout hq, bind_eq_ok, Java.native_eq_ok, Java.newArray_eq_ok, Except.ok.injEq,
    exists_eq_left'] at h
  obtain ⟨native, hnative, inputLength, hinput, outputLength, houtput, hr⟩ := h
  cases hr
  refine ⟨⟨_, Source.resampler_create_eq hnative⟩, ?_, ?_⟩
  · rw [hinput, Java.mul_mul]
    rfl
  · rw [houtput, Java.mul_mul, Java.mul, Int.mul_assoc, toInt32_mul, ← Int.mul_assoc]
    rfl

/-- What a call changes: the state of the converter and the output size. -/
structure SameArrays (r₀ r : AudioResampler ρ) : Prop where
  native : ∃ context, r.native = { r₀.native with context }
  inputLength : r.inputBuffer.length = r₀.inputBuffer.length
  outputLength : r.outputBuffer.length = r₀.outputBuffer.length

theorem SameArrays.step {call : ResampleCall α} {r' : AudioResampler ρ} {reply : Resampled α}
    (hr : SameArrays r₀ r) (h : (AudioResampler.machine av).step r call = .ok (r', reply)) :
    SameArrays r₀ r' := by
  simp only [AudioResampler.machine, AudioResampler.resample, bind_eq_ok,
    Java.native_eq_ok] at h
  obtain ⟨⟨native, resampled⟩, hres, hret⟩ := h
  cases hret
  obtain ⟨rfl, -⟩ := Source.resample_ok hres
  obtain ⟨context, hnative⟩ := hr.native
  refine ⟨?_, hr.inputLength, hr.outputLength⟩
  rw [hnative]
  exact ⟨_, rfl⟩

/-- Twice the truncated count is room for the rounded one. -/
theorem rescaled_le_twice {samples rate out q : Int} (hq : 0 < q) (hout : q ≤ out)
    (hsamples : 0 ≤ samples) (hblock : samples * q ≤ rate) :
    samples * out ≤ out.tdiv q * 2 * rate := by
  have hpos := tdiv_pos_of_le hq hout
  rw [Int.tdiv_eq_ediv_of_nonneg (by omega)] at hpos ⊢
  have hlt : out < (out / q + 1) * q := Int.lt_ediv_add_one_mul_self out hq
  have hle : out ≤ out / q * 2 * q := by
    have hmono : (out / q + 1) * q ≤ out / q * 2 * q :=
      Int.mul_le_mul_of_nonneg_right (by omega) (by omega)
    omega
  calc samples * out ≤ samples * (out / q * 2 * q) :=
        Int.mul_le_mul_of_nonneg_left hle hsamples
    _ = out / q * 2 * (samples * q) := by
        rw [Int.mul_comm samples, Int.mul_assoc, Int.mul_comm q]
    _ ≤ out / q * 2 * rate := Int.mul_le_mul_of_nonneg_left hblock (by omega)

/-- The samples of a full input array are those of one block. -/
theorem inputSamples_le_block {size channels block : Int} (hsize : 0 ≤ size)
    (hle : size ≤ block * channels * 2) (hchannels : channels = 1 ∨ channels = 2) :
    0 ≤ (size.tdiv channels).tdiv 2 ∧ (size.tdiv channels).tdiv 2 ≤ block := by
  have hnonneg : 0 ≤ size.tdiv channels := Int.tdiv_nonneg hsize (by omega)
  rw [Int.tdiv_eq_ediv_of_nonneg hnonneg, Int.tdiv_eq_ediv_of_nonneg hsize]
  rcases hchannels with rfl | rfl <;> omega

/-- **The output array is large enough.** For all rates, one or two
channels on either side and blocks of one to a thousand milliseconds, as
long as a block of output has a sample and the lengths are `int`s: in
every state after any calls, the space offered for an input of at most the
input array is at most the output array. The space is the input's length
at the output rate, rounded up. -/
theorem output_buffer_holds_resampled (av : LibAv ρ α) (hrescale : av.RescaleLaws)
    (inputSampleRate inputChannelNum outputSampleRate outputChannelNum frameDurationMs : Int)
    (hin : IsInt32 inputSampleRate) (hinputRate : 1 ≤ inputSampleRate)
    (hinputChannels : inputChannelNum = 1 ∨ inputChannelNum = 2) (hout : IsInt32 outputSampleRate)
    (houtputChannels : outputChannelNum = 1 ∨ outputChannelNum = 2)
    (hlow : 1 ≤ frameDurationMs) (hhigh : frameDurationMs ≤ 1000)
    (houtputRate : (1000 : Int).tdiv frameDurationMs ≤ outputSampleRate)
    (hinputFits : IsInt32
      (inputSampleRate.tdiv ((1000 : Int).tdiv frameDurationMs) * inputChannelNum * 2))
    (houtputFits : IsInt32
      (outputSampleRate.tdiv ((1000 : Int).tdiv frameDurationMs) * outputChannelNum * 2 * 2))
    (r₀ : AudioResampler ρ)
    (hcreate : AudioResampler.create av inputSampleRate inputChannelNum outputSampleRate
      outputChannelNum frameDurationMs = .ok r₀)
    (calls : List (ResampleCall α)) (r : AudioResampler ρ) (replies : List (Resampled α))
    (hrun : (AudioResampler.machine av).run r₀ calls = .ok (r, replies))
    (size : Int) (hsize : 0 ≤ size) (hle : size ≤ r.inputBuffer.length) :
    r.native.outputSamples av size * outputChannelNum * 2 ≤ r.outputBuffer.length ∧
    ∀ k, r.native.outputSamples av size ≤ k ↔
      (size.tdiv inputChannelNum).tdiv 2 * outputSampleRate ≤ k * inputSampleRate := by
  have hq := framesPerSecond_pos hlow hhigh
  obtain ⟨⟨context₀, hnative₀⟩, hinputLength, houtputLength⟩ :=
    resampler_of_create hlow hhigh hin hout hcreate
  have hsame : SameArrays r₀ r := Machine.run_invariant (SameArrays r₀)
    (fun _ _ _ _ hI hstep => hI.step hstep) ⟨⟨_, rfl⟩, rfl, rfl⟩ hrun
  obtain ⟨context, hnative⟩ := hsame.native
  rw [hsame.inputLength, hinputLength, toInt32_of_isInt32 hinputFits] at hle
  rw [hsame.outputLength, houtputLength, toInt32_of_isInt32 houtputFits]
  have hspace : r.native.outputSamples av size
      = toInt32 (av.rescaleRndUp ((size.tdiv inputChannelNum).tdiv 2) outputSampleRate
        inputSampleRate) := by
    rw [hnative, hnative₀]
    rfl
  obtain ⟨hsamples, hsamplesLe⟩ := inputSamples_le_block hsize hle hinputChannels
  rw [hspace]
  generalize (size.tdiv inputChannelNum).tdiv 2 = samples at hsamples hsamplesLe ⊢
  have hblock : samples * (1000 : Int).tdiv frameDurationMs ≤ inputSampleRate := by
    rw [Int.tdiv_eq_ediv_of_nonneg (by omega)] at hsamplesLe
    exact Int.le_trans (Int.mul_le_mul_of_nonneg_right hsamplesLe (by omega))
      (Int.ediv_mul_le _ (by omega))
  have hsecond : samples ≤ inputSampleRate := by
    have hone := Int.mul_le_mul_of_nonneg_left (show 1 ≤ _ from hq) hsamples
    omega
  have htwice := rescaled_le_twice hq houtputRate hsamples hblock
  have houtputBlock := tdiv_pos_of_le hq houtputRate
  constructor
  · have hbound := (hrescale.toInt32_rescale_le_iff hsamples hsecond (by omega) hout hin
      (show 0 ≤ outputSampleRate.tdiv ((1000 : Int).tdiv frameDurationMs) * 2 by omega)).mpr htwice
    calc toInt32 (av.rescaleRndUp samples outputSampleRate inputSampleRate) * outputChannelNum * 2
        ≤ outputSampleRate.tdiv ((1000 : Int).tdiv frameDurationMs) * 2 * outputChannelNum * 2 :=
          Int.mul_le_mul_of_nonneg_right
            (Int.mul_le_mul_of_nonneg_right hbound (by omega)) (by omega)
      _ = outputSampleRate.tdiv ((1000 : Int).tdiv frameDurationMs) * outputChannelNum * 2 * 2 := by
          rw [Int.mul_right_comm _ 2 outputChannelNum]
  · rw [hrescale.toInt32_rescale hsamples hsecond (by omega) (by omega) hout hin]
    exact hrescale.roundsUp _ _ _ hsamples (by omega) (by omega) (hin.of_le hsamples hsecond) hout

/-- One sample in, 1.999 samples out: the truncated count is 1, the
rounded one is 2, and the array has room for 2. -/
theorem output_buffer_holds_resampled_tight :
    ∃ r, AudioResampler.create copyingAv 1000 1 1999 2 1 = .ok r ∧
      r.inputBuffer.length = 2 ∧ r.outputBuffer.length = 8 ∧
      r.native.outputSamples copyingAv 2 = 2 ∧
      r.native.outputSamples copyingAv 2 * 2 * 2 ≤ r.outputBuffer.length := by
  obtain ⟨r, hr, hinput, houtput, hspace⟩ : ∃ r,
      AudioResampler.create copyingAv 1000 1 1999 2 1 = .ok r ∧
        r.inputBuffer.length = 2 ∧ r.outputBuffer.length = 8 ∧
        r.native.outputSamples copyingAv 2 = 2 := ⟨_, rfl, rfl, rfl, rfl⟩
  refine ⟨r, hr, hinput, houtput, hspace, ?_⟩
  exact (output_buffer_holds_resampled copyingAv copyingAv_rescaleLaws 1000 1 1999 2 1
    (by decide) (by decide) (by decide) (by decide) (by decide) (by decide) (by decide) (by decide)
    (by decide) (by decide) r hr [] r [] rfl 2 (by decide) (by rw [hinput]; decide)).1

end Resampler

end L4AudioMixer.Android
