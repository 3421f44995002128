/-
L4AudioMixer.Libav.SampleContract — what the sources rely on of the
sample functions of FFmpeg.

`Api` leaves `av_samples_get_buffer_size`, `av_rescale_rnd` and
`swr_convert` open. The results about sizes need what these compute:
`SizeLaws` and `RescaleLaws` say it for the first two, and a
`SwrContract` says which options a context carries and how much a
conversion stores. `copyingAv` is a library that keeps all three, so
that the results can be tried on inputs.
-/
import L4AudioMixer.Libav.Api

namespace L4AudioMixer.Libav

open L4AudioMixer.Lib

variable {ρ α : Type}

/-- `av_sample_fmt_is_planar`. -/
def AVSampleFormat.isPlanar : AVSampleFormat → Bool
  | .u8p | .s16p | .s32p | .fltp | .dblp | .s64p => true
  | .u8 | .s16 | .s32 | .flt | .dbl | .s64 => false

theorem AVSampleFormat.bytesPerSample_pos (fmt : AVSampleFormat) : 0 < fmt.bytesPerSample := by
  cases fmt <;> decide

/-- The number of channels of a layout. -/
def ChannelLayout.channels : ChannelLayout → Nat
  | .mono => 1
  | .stereo => 2

/-! ## Buffer sizes -/

/-- The sample count a size is computed for: by default alignment rounds
it up to a multiple of 32. -/
def paddedSamples (align nbSamples : Int) : Int :=
  if align = 0 then (nbSamples + 31) / 32 * 32 else nbSamples

/-- Positive counts whose size is an `int`. The library keeps one byte a
channel in reserve for an alignment of 1. -/
def SizeFits (nbChannels nbSamples : Int) (fmt : AVSampleFormat) (align : Int) : Prop :=
  0 < nbChannels ∧ 0 < nbSamples ∧
    nbChannels * paddedSamples align nbSamples * fmt.bytesPerSample ≤ 2147483647 - nbChannels

instance (nbChannels nbSamples : Int) (fmt : AVSampleFormat) (align : Int) :
    Decidable (SizeFits nbChannels nbSamples fmt align) :=
  inferInstanceAs (Decidable (_ ∧ _))

/-- `samplefmt.h`: the required buffer size, or a negative error code. -/
structure LibAv.SizeLaws (av : LibAv ρ α) : Prop where
  fits : ∀ nbChannels nbSamples fmt align, align = 0 ∨ align = 1 →
    SizeFits nbChannels nbSamples fmt align →
    av.samplesGetBufferSize nbChannels nbSamples fmt align
      = nbChannels * paddedSamples align nbSamples * fmt.bytesPerSample
  fails : ∀ nbChannels nbSamples fmt align, align = 0 ∨ align = 1 →
    ¬ SizeFits nbChannels nbSamples fmt align →
    av.samplesGetBufferSize nbChannels nbSamples fmt align < 0

section Sizes

variable {av : LibAv ρ α} {nbChannels nbSamples : Int} {fmt : AVSampleFormat}

@[simp] theorem paddedSamples_one (nbSamples : Int) : paddedSamples 1 nbSamples = nbSamples := rfl

theorem le_paddedSamples (align nbSamples : Int) : nbSamples ≤ paddedSamples align nbSamples := by
  unfold paddedSamples
  split <;> omega

/-- Default alignment adds nothing exactly for multiples of 32. -/
theorem paddedSamples_zero_eq_iff : paddedSamples 0 nbSamples = nbSamples ↔ 32 ∣ nbSamples := by
  simp only [paddedSamples, if_true]
  omega

/-- A size is an answer exactly when it fits. -/
theorem LibAv.SizeLaws.nonneg_iff (h : av.SizeLaws) {align : Int}
    (halign : align = 0 ∨ align = 1) :
    0 ≤ av.samplesGetBufferSize nbChannels nbSamples fmt align ↔
      SizeFits nbChannels nbSamples fmt align := by
  by_cases hfits : SizeFits nbChannels nbSamples fmt align
  · have hpadded := le_paddedSamples align nbSamples
    have hbytes := fmt.bytesPerSample_pos
    have hchannels := hfits.1
    have hsamples := hfits.2.1
    simp only [h.fits _ _ _ _ halign hfits, hfits, iff_true]
    exact Int.mul_nonneg (Int.mul_nonneg (by omega) (by omega)) (by omega)
  · have hneg := h.fails _ _ _ _ halign hfits
    simp only [hfits, iff_false]
    omega

end Sizes

/-! ## Planes -/

/-- The bytes `av_audio_fifo_read` stores through each of the plane
pointers it uses: one plane a channel for planar formats, a single one for
packed formats. An empty read uses none. -/
def fifoReadPlanes (fmt : AVSampleFormat) (channels : Int) (nbSamples : Nat) : List Int :=
  if nbSamples = 0 then []
  else if fmt.isPlanar then List.replicate channels.toNat (nbSamples * fmt.bytesPerSample)
  else [nbSamples * fmt.bytesPerSample * channels]

/-- The read stores through one plane pointer at most, and through it at
most so many bytes. -/
def PlanesFit (fmt : AVSampleFormat) (channels : Int) (nbSamples length : Nat) : Prop :=
  (fifoReadPlanes fmt channels nbSamples).length ≤ 1 ∧
    ∀ bytes ∈ fifoReadPlanes fmt channels nbSamples, bytes ≤ length

section Planes

variable {fmt : AVSampleFormat} {channels : Int} {nbSamples length : Nat}

theorem planesFit_zero : PlanesFit fmt channels 0 length := by
  simp [PlanesFit, fifoReadPlanes]

theorem planesFit_of_channels_le (h : channels ≤ 0) : PlanesFit fmt channels nbSamples length := by
  have hbytes := fmt.bytesPerSample_pos
  have hnone : channels.toNat = 0 := by omega
  have hsize : nbSamples * fmt.bytesPerSample * channels ≤ 0 :=
    Int.mul_nonpos_of_nonneg_of_nonpos (Int.mul_nonneg (by omega) (by omega)) h
  unfold PlanesFit fifoReadPlanes
  split
  · simp
  · split
    · simp [hnone]
    · simp only [List.length_singleton, List.mem_singleton, forall_eq, Nat.le_refl, true_and]
      omega

/-- Samples of some channels fit when they are in one plane and their
bytes fit. -/
theorem planesFit_iff (hsamples : 0 < nbSamples) (hchannels : 0 < channels) :
    PlanesFit fmt channels nbSamples length ↔
      (fmt.isPlanar = false ∨ channels = 1) ∧
        nbSamples * fmt.bytesPerSample * channels ≤ (length : Int) := by
  unfold PlanesFit fifoReadPlanes
  rw [if_neg (by omega)]
  cases hplanar : fmt.isPlanar with
  | false => simp
  | true =>
      simp only [if_true, List.length_replicate, List.mem_replicate, Bool.true_eq_false, false_or]
      constructor
      · intro h
        have hone : channels = 1 := by omega
        rw [hone, Int.mul_one]
        exact ⟨rfl, h.2 _ ⟨by omega, rfl⟩⟩
      · intro h
        obtain ⟨rfl, hbytes⟩ := h
        refine ⟨by decide, ?_⟩
        intro bytes hmem
        rw [hmem.2]
        omega

/-- Fewer samples fit too. -/
theorem planesFit_of_le {m n : Nat} (hle : m ≤ n)
    (h : PlanesFit fmt channels n length) : PlanesFit fmt channels m length := by
  have hbytes := fmt.bytesPerSample_pos
  by_cases hm : m = 0
  · rw [hm]
    exact planesFit_zero
  · by_cases hchannels : channels ≤ 0
    · exact planesFit_of_channels_le hchannels
    · obtain ⟨hplane, hsize⟩ := (planesFit_iff (by omega) (by omega)).mp h
      refine (planesFit_iff (by omega) (by omega)).mpr ⟨hplane, Int.le_trans ?_ hsize⟩
      exact Int.mul_le_mul_of_nonneg_right
        (Int.mul_le_mul_of_nonneg_right (by omega) (by omega)) (by omega)

end Planes

/-! ## Rescaling -/

/-- `mathematics.h`: `a * b / c`, rounded towards infinity; operands for
which this has no meaning give `INT64_MIN`. -/
structure LibAv.RescaleLaws (av : LibAv ρ α) : Prop where
  roundsUp : ∀ a b c, 0 ≤ a → 0 ≤ b → 0 < c → IsInt32 a → IsInt32 b →
    ∀ k, av.rescaleRndUp a b c ≤ k ↔ a * b ≤ k * c
  invalid : ∀ a b c, c ≤ 0 ∨ b < 0 → av.rescaleRndUp a b c = -9223372036854775808

theorem LibAv.RescaleLaws.nonneg {av : LibAv ρ α} (h : av.RescaleLaws) {a b c : Int} (ha : 0 ≤ a)
    (hb : 0 ≤ b) (hc : 0 < c) (ha' : IsInt32 a) (hb' : IsInt32 b) :
    0 ≤ av.rescaleRndUp a b c := by
  by_contra hneg
  have hle := (h.roundsUp a b c ha hb hc ha' hb' (-1)).mp (by omega)
  have hprod := Int.mul_nonneg ha hb
  omega

section Blocks

variable {av : LibAv ρ α} {a b c : Int}

/-- A block of at most a second, at another rate, is at most that rate;
so its rescaled length is an `int`. -/
theorem LibAv.RescaleLaws.toInt32_rescale (h : av.RescaleLaws) (ha : 0 ≤ a) (hac : a ≤ c)
    (hb : 0 ≤ b) (hc : 0 < c) (hb' : IsInt32 b) (hc' : IsInt32 c) :
    toInt32 (av.rescaleRndUp a b c) = av.rescaleRndUp a b c := by
  have ha' : IsInt32 a := hc'.of_le ha hac
  have hnonneg := h.nonneg ha hb hc ha' hb'
  have hle : av.rescaleRndUp a b c ≤ b := by
    apply (h.roundsUp a b c ha hb hc ha' hb' b).mpr
    rw [Int.mul_comm a]
    exact Int.mul_le_mul_of_nonneg_left hac hb
  exact toInt32_of_isInt32 (hb'.of_le hnonneg hle)

/-- The bound on such a length, for rates of either sign. -/
theorem LibAv.RescaleLaws.toInt32_rescale_le_iff (h : av.RescaleLaws) (ha : 0 ≤ a) (hac : a ≤ c)
    (hc : 0 < c) (hb' : IsInt32 b) (hc' : IsInt32 c) {k : Int} (hk : 0 ≤ k) :
    toInt32 (av.rescaleRndUp a b c) ≤ k ↔ a * b ≤ k * c := by
  by_cases hb : 0 ≤ b
  · rw [h.toInt32_rescale ha hac hb hc hb' hc']
    exact h.roundsUp a b c ha hb hc (hc'.of_le ha hac) hb' k
  · -- no length: `INT64_MIN` is 0 as an `int`
    have hright := Int.mul_nonneg hk (Int.le_of_lt hc)
    have hleft := Int.mul_nonpos_of_nonneg_of_nonpos ha (Int.le_of_not_le hb)
    have hzero : toInt32 (-9223372036854775808) = 0 := by decide
    rw [h.invalid a b c (by omega), hzero]
    omega

theorem LibAv.RescaleLaws.toInt32_rescale_nonneg (h : av.RescaleLaws) (ha : 0 ≤ a) (hac : a ≤ c)
    (hc : 0 < c) (hb' : IsInt32 b) (hc' : IsInt32 c) : 0 ≤ toInt32 (av.rescaleRndUp a b c) := by
  by_cases hb : 0 ≤ b
  · rw [h.toInt32_rescale ha hac hb hc hb' hc']
    exact h.nonneg ha hb hc (hc'.of_le ha hac) hb'
  · rw [h.invalid a b c (by omega)]
    decide

end Blocks

/-! ## Conversion -/

/-- What `swresample.h` says of a context: it carries the options it was
set up with, and a call stores as many samples as it returns, in the
output layout and format, and no more than there is space for. -/
structure SwrContract (av : LibAv ρ α) where
  /-- The options of a context. -/
  options : ρ → SwrOptions
  /-- The bytes a call stored through the output pointers. -/
  stored : SwrConverted ρ → List UInt8
  options_init : ∀ o, options (av.swrInit o).2 = o
  options_convert : ∀ context outCount input,
    options (av.swrConvert context outCount input).context = options context
  length_stored : ∀ context outCount input,
    ((stored (av.swrConvert context outCount input)).length : Int)
      = max (av.swrConvert context outCount input).ret 0
        * (options context).outChannelLayout.channels
        * (options context).outSampleFmt.bytesPerSample
  length_written : ∀ context outCount input,
    (av.swrConvert context outCount input).written.length
      ≤ outCount.toNat * (options context).outChannelLayout.channels

/-! ## A library that copies -/

/-- The size `samplefmt.h` describes. -/
def bufferSize (nbChannels nbSamples : Int) (fmt : AVSampleFormat) (align : Int) : Int :=
  if SizeFits nbChannels nbSamples fmt align then
    nbChannels * paddedSamples align nbSamples * fmt.bytesPerSample
  else averrorEinval

/-- The samples that fit are copied, each to all channels; what is over
is dropped. A context is its options. -/
def copyingAv : LibAv SwrOptions UInt8 where
  samplesGetBufferSize := bufferSize
  samplesAllocArrayAndSamples nbChannels nbSamples fmt align :=
    if SizeFits nbChannels nbSamples fmt align then 0 else averrorEinval
  freshSamples _ := 0
  rescaleRndUp a b c := if c ≤ 0 ∨ b < 0 then -9223372036854775808 else -(-(a * b) / c)
  swrAllocated := true
  swrInit options := (0, options)
  swrConvert options outCount input :=
    { ret := (input.take outCount.toNat).length
      written := (input.take outCount.toNat).flatMap fun x =>
        List.replicate options.outChannelLayout.channels x.toUInt16.toInt16
      context := options }

theorem copyingAv_sizeLaws : copyingAv.SizeLaws where
  fits _ _ _ _ _ hfits := if_pos hfits
  fails nbChannels nbSamples fmt align _ hfits := by
    show bufferSize nbChannels nbSamples fmt align < 0
    rw [bufferSize, if_neg hfits]
    decide

theorem copyingAv_documented : copyingAv.Documented where
  allocated nbChannels nbSamples fmt h := by
    by_cases hfits : SizeFits nbChannels nbSamples fmt 0
    · have hle := le_paddedSamples 0 nbSamples
      have hbytes := fmt.bytesPerSample_pos
      obtain ⟨hchannels, hsamples, hsize⟩ := hfits
      have hmono : nbChannels * nbSamples * fmt.bytesPerSample
          ≤ nbChannels * paddedSamples 0 nbSamples * fmt.bytesPerSample :=
        Int.mul_le_mul_of_nonneg_right (Int.mul_le_mul_of_nonneg_left hle (by omega)) (by omega)
      exact ⟨hchannels, hsamples,
        copyingAv_sizeLaws.fits _ _ _ 1 (.inr rfl) ⟨hchannels, hsamples, by simp; omega⟩⟩
    · simp only [copyingAv, if_neg hfits] at h
      exact absurd h (by decide)
  sizeNotEof nbChannels nbSamples fmt align := by
    show bufferSize nbChannels nbSamples fmt align ≠ averrorEof
    unfold bufferSize
    split
    · rename_i hfits
      have hpadded := le_paddedSamples align nbSamples
      have hbytes := fmt.bytesPerSample_pos
      obtain ⟨hchannels, hsamples, -⟩ := hfits
      have hnonneg := Int.mul_nonneg (Int.mul_nonneg (Int.le_of_lt hchannels)
        (show 0 ≤ paddedSamples align nbSamples by omega)) (Int.le_of_lt hbytes)
      simp only [averrorEof]
      omega
    · decide
  convertNotEof context outCount input := by
    simp only [copyingAv, averrorEof]
    omega

theorem copyingAv_rescaleLaws : copyingAv.RescaleLaws where
  roundsUp a b c _ hb hc _ _ k := by
    have hvalid : ¬ (c ≤ 0 ∨ b < 0) := by omega
    simp only [copyingAv, if_neg hvalid]
    have hdiv : -k ≤ -(a * b) / c ↔ -k * c ≤ -(a * b) := Int.le_ediv_iff_mul_le hc
    rw [Int.neg_mul] at hdiv
    omega
  invalid a b c h := if_pos h

/-- A value in so many bytes, low byte first. -/
def elementBytes (bytesPerSample : Nat) (x : Int16) : List UInt8 :=
  (x.toUInt16.toUInt8 :: (x.toUInt16 >>> 8).toUInt8 :: List.replicate 6 0).take bytesPerSample

theorem length_elementBytes (fmt : AVSampleFormat) (x : Int16) :
    (elementBytes fmt.bytesPerSample.toNat x).length = fmt.bytesPerSample.toNat := by
  cases fmt <;> rfl

theorem length_written_copyingAv (options : SwrOptions) (outCount : Int) (input : List UInt8) :
    (copyingAv.swrConvert options outCount input).written.length
      = (input.take outCount.toNat).length * options.outChannelLayout.channels := by
  simp only [copyingAv, List.length_flatMap, List.length_replicate]
  rw [List.map_const', List.sum_replicate_nat]

/-- The options are the context; every element is stored in the bytes of
its format. -/
def copyingAvContract : SwrContract copyingAv where
  options := id
  stored converted := converted.written.flatMap
    (elementBytes converted.context.outSampleFmt.bytesPerSample.toNat)
  options_init _ := rfl
  options_convert _ _ _ := rfl
  length_stored options outCount input := by
    have hbytes := options.outSampleFmt.bytesPerSample_pos
    have hcontext : (copyingAv.swrConvert options outCount input).context = options := rfl
    have hret : (copyingAv.swrConvert options outCount input).ret
        = ((input.take outCount.toNat).length : Int) := rfl
    have hlength : ((copyingAv.swrConvert options outCount input).written.flatMap
        (elementBytes options.outSampleFmt.bytesPerSample.toNat)).length
          = (input.take outCount.toNat).length * options.outChannelLayout.channels
            * options.outSampleFmt.bytesPerSample.toNat := by
      simp only [List.length_flatMap, length_elementBytes]
      rw [List.map_const', List.sum_replicate_nat, length_written_copyingAv]
    have hmax : max ((input.take outCount.toNat).length : Int) 0
        = (input.take outCount.toNat).length := by omega
    rw [hcontext, hret, hlength, Int.natCast_mul, Int.natCast_mul,
      Int.toNat_of_nonneg (Int.le_of_lt hbytes), hmax]
    rfl
  length_written options outCount input := by
    rw [length_written_copyingAv]
    exact Nat.mul_le_mul_right _ (List.length_take_le _ _)

end L4AudioMixer.Libav
