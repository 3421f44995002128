/-
L4AudioMixer.Source.LayoutTheorems — the channel layout of a resampler
against its sample accounting.

The constructor configures one of two layouts, mono for one channel and
stereo for every other number. `Resample` divides the byte count by the
channel number it was given, and so do its callers. `layoutMatches_iff`
compares the two in one state of a resampler: the samples announced
cover the block exactly for one and two input channels, and what is
written has the size expected exactly for one and two output channels.
`layout_matches_iff` is the result over all runs, and
`file_layout_matches_iff` the one for the channels of a file.
-/
import L4AudioMixer.Libav.SampleLayout
import L4AudioMixer.Source.FileFrameTheorems

namespace L4AudioMixer.Source

open L4AudioMixer.Lib
open L4AudioMixer.Libav

variable {σ ρ α : Type}

/-- The call on a block of so many sample frames announces them all, and
in the layout of the context they are the block: its bytes are covered,
packed frames are read where they begin, and every plane is used. -/
structure ReadsBlock {av : LibAv ρ α} (k : SwrContract av) (r : AudioResampler ρ)
    (samples : Nat) (inputSize : Int) (out : Resampled α) : Prop where
  announced : out.input.length = samples
  covers : (k.options r.context).bytesRead out.input.length
    = r.inputFormat.blockBytes r.inputChannelNum.toNat inputSize.toNat
  frames : r.inputFormat.isPlanar = false → ∀ j < samples,
    (k.options r.context).frameStart j
      = (0, j * r.inputChannelNum.toNat * r.inputFormat.bytes)
  planes : r.inputFormat.isPlanar = true → 0 < samples → ∀ plane < r.inputChannelNum.toNat,
    ∃ offset, (plane, offset) ∈ (k.options r.context).bytesRead out.input.length

/-- The layout matches the accounting: every block of whole sample frames
is read as such, and samples that are written take the bytes of as many
channels as were asked for. -/
structure LayoutMatches {av : LibAv ρ α} (k : SwrContract av) (r : AudioResampler ρ) : Prop where
  input : ∀ (buffer : Nat → α) (samples : Nat) (inputSize : Int), IsInt32 inputSize →
    inputSize = samples * r.inputChannelNum * r.inputFormat.bytesPerSample →
    ∃ r' out, r.resample av buffer inputSize = .ok (r', out) ∧
      ReadsBlock k r samples inputSize out
  output : ∀ produced : Nat, (((k.options r.context).bytesWritten produced).card : Int)
    = produced * r.outputChannelNum * r.outputFormat.bytesPerSample
  stored : ∀ (buffer : Nat → α) (inputSize : Int), 0 ≤ (r.converted av buffer inputSize).ret →
    ((k.stored (r.converted av buffer inputSize)).length : Int)
      = (r.converted av buffer inputSize).ret * r.outputChannelNum
        * r.outputFormat.bytesPerSample

section States

variable {av : LibAv ρ α} {k : SwrContract av} {r r' : AudioResampler ρ} {buffer : Nat → α}
  {samples : Nat} {inputSize : Int} {out : Resampled α}

/-- `Resample` finds the sample frames of a block of whole ones. -/
theorem inputSamples_of_whole (hchannels : 1 ≤ r.inputChannelNum)
    (hsize : inputSize = samples * r.inputChannelNum * r.inputFormat.bytesPerSample) :
    r.inputSamples inputSize = samples := by
  have hbytes := r.inputFormat.bytesPerSample_pos
  rw [AudioResampler.inputSamples, hsize, Int.mul_right_comm, Int.mul_tdiv_cancel _ (by omega),
    Int.mul_tdiv_cancel _ (by omega)]

theorem length_input_of_whole (hchannels : 1 ≤ r.inputChannelNum)
    (hsize : inputSize = samples * r.inputChannelNum * r.inputFormat.bytesPerSample)
    (h : r.resample av buffer inputSize = .ok (r', out)) : out.input.length = samples := by
  obtain ⟨-, hinput, -⟩ := resample_ok h
  rw [hinput, length_firstN, inputSamples_of_whole hchannels hsize, Int.toNat_natCast]

/-- The bytes of such a block, as the caller lays it out. -/
theorem blockBytes_of_whole (hchannels : 1 ≤ r.inputChannelNum)
    (hsize : inputSize = samples * r.inputChannelNum * r.inputFormat.bytesPerSample) :
    r.inputFormat.blockBytes r.inputChannelNum.toNat inputSize.toNat
      = r.inputFormat.sampleBytes r.inputChannelNum.toNat samples := by
  have hnat : inputSize.toNat = samples * r.inputChannelNum.toNat * r.inputFormat.bytes := by
    have hcast : ((samples * r.inputChannelNum.toNat * r.inputFormat.bytes : Nat) : Int)
        = inputSize := by
      rw [hsize, Int.natCast_mul, Int.natCast_mul, Int.toNat_of_nonneg (by omega),
        AVSampleFormat.natCast_bytes]
    rw [← hcast, Int.toNat_natCast]
  rw [hnat, AVSampleFormat.blockBytes_of_samples _ (by omega)]

/-- A configured layout of the announced channels reads every block. -/
theorem readsBlock_of_channels (hr : k.options r.context = r.options)
    (hchannels : 1 ≤ r.inputChannelNum)
    (hlayout : (AudioResampler.channelLayout r.inputChannelNum).channels
      = r.inputChannelNum.toNat)
    (hsize : inputSize = samples * r.inputChannelNum * r.inputFormat.bytesPerSample)
    (h : r.resample av buffer inputSize = .ok (r', out)) :
    ReadsBlock k r samples inputSize out := by
  have hlength := length_input_of_whole hchannels hsize h
  have hread : (k.options r.context).bytesRead out.input.length
      = r.inputFormat.sampleBytes r.inputChannelNum.toNat samples := by
    rw [hlength, hr, ← hlayout]
    rfl
  refine ⟨hlength, ?_, ?_, ?_⟩
  · rw [hread, blockBytes_of_whole hchannels hsize]
  · intro hpacked j hj
    have hstart : (k.options r.context).frameStart j
        = r.inputFormat.sampleStart r.inputChannelNum.toNat j 0 := by
      rw [hr, ← hlayout]
      rfl
    rw [hstart, AVSampleFormat.sampleStart, hpacked]
    rfl
  · intro hplanar hsamples plane hplane
    have hbytes := r.inputFormat.bytes_pos
    refine ⟨0, ?_⟩
    rw [hread, AVSampleFormat.sampleBytes_planar hplanar, Finset.mem_product, Finset.mem_range,
      Finset.mem_range]
    exact ⟨hplane, Nat.mul_pos hsamples hbytes⟩

/-- Nothing is read of an empty block. -/
theorem readsBlock_empty (hchannels : 1 ≤ r.inputChannelNum)
    (hsize : inputSize = (0 : Nat) * r.inputChannelNum * r.inputFormat.bytesPerSample)
    (h : r.resample av buffer inputSize = .ok (r', out)) : ReadsBlock k r 0 inputSize out := by
  have hlength := length_input_of_whole hchannels hsize h
  refine ⟨hlength, ?_, ?_, ?_⟩
  · rw [hlength, blockBytes_of_whole hchannels hsize]
    rfl
  · intro _ j hj
    exact absurd hj (Nat.not_lt_zero j)
  · intro _ hzero
    exact absurd hzero (Nat.lt_irrefl 0)

/-- The layout read has the announced channels if it covers a block. -/
theorem channels_of_readsBlock (hr : k.options r.context = r.options)
    (hchannels : 1 ≤ r.inputChannelNum) (hsamples : 0 < samples)
    (hsize : inputSize = samples * r.inputChannelNum * r.inputFormat.bytesPerSample)
    (h : ReadsBlock k r samples inputSize out) :
    r.inputChannelNum = 1 ∨ r.inputChannelNum = 2 := by
  have hcovers := h.covers
  rw [h.announced, hr, blockBytes_of_whole hchannels hsize] at hcovers
  have hequal : (AudioResampler.channelLayout r.inputChannelNum).channels
      = r.inputChannelNum.toNat := AVSampleFormat.sampleBytes_inj hsamples hcovers
  apply (channels_channelLayout_eq_iff r.inputChannelNum).mp
  rw [hequal, Int.toNat_of_nonneg (by omega)]

/-- The size of what is written, in the configured layout. -/
theorem card_bytesWritten (hr : k.options r.context = r.options) (produced : Nat) :
    (((k.options r.context).bytesWritten produced).card : Int)
      = produced * (AudioResampler.channelLayout r.outputChannelNum).channels
        * r.outputFormat.bytesPerSample := by
  rw [hr, SwrOptions.bytesWritten, AVSampleFormat.card_sampleBytes, Int.natCast_mul,
    Int.natCast_mul, AVSampleFormat.natCast_bytes]
  rfl

/-- **One state of a resampler**: the layout matches exactly when there
are one or two input channels, or so many that no sample frame has a size
that is an `int`, and one or two output channels. -/
theorem layoutMatches_iff (hr : k.options r.context = r.options) (hin : 1 ≤ r.inputChannelNum)
    (hout : 1 ≤ r.outputChannelNum) :
    LayoutMatches k r ↔
      (r.inputChannelNum ≤ 2 ∨
        2147483647 < r.inputChannelNum * r.inputFormat.bytesPerSample) ∧
      r.outputChannelNum ≤ 2 := by
  have hbytesIn := r.inputFormat.bytesPerSample_pos
  have hbytesOut := r.outputFormat.bytesPerSample_pos
  constructor
  · intro h
    refine ⟨?_, ?_⟩
    · by_contra hnot
      rw [not_or, Int.not_le, Int.not_lt] at hnot
      -- a single sample frame is a block, and its size is an `int`
      have hone : r.inputChannelNum * r.inputFormat.bytesPerSample
          = (1 : Nat) * r.inputChannelNum * r.inputFormat.bytesPerSample := by simp
      have hpos := Int.mul_pos (show 0 < r.inputChannelNum by omega) hbytesIn
      obtain ⟨r', out, -, hreads⟩ := h.input av.freshSamples 1 _ ⟨by omega, hnot.2⟩ hone
      have hchannels := channels_of_readsBlock hr hin Nat.one_pos hone hreads
      omega
    · have hone := h.output 1
      rw [card_bytesWritten hr] at hone
      have hequal : r.outputChannelNum
          = ((AudioResampler.channelLayout r.outputChannelNum).channels : Int) := by
        have hproduct := Int.eq_of_mul_eq_mul_right (by omega) hone
        simpa using hproduct.symm
      have hchannels := (channels_channelLayout_eq_iff _).mp hequal
      omega
  · rintro ⟨hinput, houtput⟩
    have hlayoutOut : r.outputChannelNum
        = ((AudioResampler.channelLayout r.outputChannelNum).channels : Int) :=
      (channels_channelLayout_eq_iff _).mpr (by omega)
    refine ⟨?_, ?_, ?_⟩
    · intro buffer samples inputSize h32 hsize
      have hpos : 0 < r.inputChannelNum := by omega
      obtain ⟨r', out, hres⟩ := resample_returns av buffer inputSize hpos
      refine ⟨r', out, hres, ?_⟩
      rcases hinput with hfew | hmany
      · have hlayoutIn := (channels_channelLayout_eq_iff r.inputChannelNum).mpr (by omega)
        exact readsBlock_of_channels hr hin (by omega) hsize hres
      · have hnone : samples = 0 := by
          by_contra hsome
          have hle : 1 * (r.inputChannelNum * r.inputFormat.bytesPerSample)
              ≤ samples * (r.inputChannelNum * r.inputFormat.bytesPerSample) :=
            Int.mul_le_mul_of_nonneg_right (by omega)
              (Int.mul_nonneg (by omega) (by omega))
          rw [← Int.mul_assoc (samples : Int), ← hsize] at hle
          have hhigh := h32.2
          omega
        subst hnone
        exact readsBlock_empty hin hsize hres
    · intro produced
      rw [card_bytesWritten hr, ← hlayoutOut]
    · intro buffer inputSize hret
      rw [length_stored_converted hr hret, ← hlayoutOut]

end States

/-! ## Runs -/

/-- **When the layout matches the accounting**: in every state of every
resampler that could be constructed for positive channel numbers, exactly
for one or two input channels (or so many that no sample frame has a size
that is an `int`) and one or two output channels. -/
theorem layout_matches_iff (av : LibAv ρ α) (k : SwrContract av) (inputFormat : AVSampleFormat)
    (inputSampleRate inputChannelNum : Int) (outputFormat : AVSampleFormat)
    (outputSampleRate outputChannelNum : Int) (hin : 1 ≤ inputChannelNum)
    (hout : 1 ≤ outputChannelNum) (r₀ : AudioResampler ρ)
    (hcreate : AudioResampler.create av inputFormat inputSampleRate inputChannelNum outputFormat
      outputSampleRate outputChannelNum = .ok r₀)
    (calls : List (ResampleCall α)) (r : AudioResampler ρ) (replies : List ResampleReply)
    (hrun : (resampleMachine av k).run r₀ calls = .ok (r, replies)) :
    LayoutMatches k r ↔
      (inputChannelNum ≤ 2 ∨ 2147483647 < inputChannelNum * inputFormat.bytesPerSample) ∧
      outputChannelNum ≤ 2 := by
  obtain ⟨hr, hsettings⟩ := settings_of_run hcreate hrun
  have hinput : r.inputChannelNum = inputChannelNum :=
    congrArg AudioResampler.inputChannelNum hsettings
  have hformat : r.inputFormat = inputFormat := congrArg AudioResampler.inputFormat hsettings
  have houtput : r.outputChannelNum = outputChannelNum :=
    congrArg AudioResampler.outputChannelNum hsettings
  have hiff := layoutMatches_iff hr (hinput ▸ hin) (houtput ▸ hout)
  rw [hinput, hformat, houtput] at hiff
  exact hiff

/-- Of two frames of six packed channels, 24 bytes, the first 8 are read,
and the second frame where the third channel of the first one lies; and a
sample of three output channels is stored in four bytes. -/
theorem layout_misses_channels :
    (∃ r₀ r' out, AudioResampler.create copyingAv .s16 48000 6 .s16 48000 2 = .ok r₀ ∧
      r₀.resample copyingAv (fun _ => 0) 24 = .ok (r', out) ∧ out.input.length = 2 ∧
      (copyingAvContract.options r₀.context).bytesRead 2 = {0} ×ˢ Finset.range 8 ∧
      (copyingAvContract.options r₀.context).frameStart 1 = (0, 4) ∧
      ¬ LayoutMatches copyingAvContract r₀) ∧
    (∃ r₀, AudioResampler.create copyingAv .s16 48000 2 .s16 48000 3 = .ok r₀ ∧
      (r₀.converted copyingAv (fun _ => 0) 4).ret = 1 ∧
      (copyingAvContract.stored (r₀.converted copyingAv (fun _ => 0) 4)).length = 4 ∧
      ¬ LayoutMatches copyingAvContract r₀) := by
  refine ⟨?_, ?_⟩
  · obtain ⟨r₀, r', out, hr₀, hres, hlength, hoptions, hstart, hin, hfmt, hout⟩ :
        ∃ r₀ r' out, AudioResampler.create copyingAv .s16 48000 6 .s16 48000 2 = .ok r₀ ∧
          r₀.resample copyingAv (fun _ => 0) 24 = .ok (r', out) ∧ out.input.length = 2 ∧
          copyingAvContract.options r₀.context = r₀.options ∧
          (copyingAvContract.options r₀.context).frameStart 1 = (0, 4) ∧
          r₀.inputChannelNum = 6 ∧ r₀.inputFormat = .s16 ∧ r₀.outputChannelNum = 2 :=
      ⟨_, _, _, rfl, rfl, rfl, rfl, rfl, rfl, rfl, rfl⟩
    refine ⟨r₀, r', out, hr₀, hres, hlength, ?_, hstart, ?_⟩
    · rw [hoptions, SwrOptions.bytesRead, AudioResampler.options, hin, hfmt]
      exact AVSampleFormat.sampleBytes_packed rfl
    · rw [layoutMatches_iff hoptions (by omega) (by omega), hin, hfmt, hout]
      decide
  · obtain ⟨r₀, hr₀, hret, hstored, hoptions, hin, hfmt, hout⟩ :
        ∃ r₀, AudioResampler.create copyingAv .s16 48000 2 .s16 48000 3 = .ok r₀ ∧
          (r₀.converted copyingAv (fun _ => 0) 4).ret = 1 ∧
          (copyingAvContract.stored (r₀.converted copyingAv (fun _ => 0) 4)).length = 4 ∧
          copyingAvContract.options r₀.context = r₀.options ∧
          r₀.inputChannelNum = 2 ∧ r₀.inputFormat = .s16 ∧ r₀.outputChannelNum = 3 :=
      ⟨_, rfl, rfl, rfl, rfl, rfl, rfl, rfl⟩
    refine ⟨r₀, hr₀, hret, hstored, ?_⟩
    rw [layoutMatches_iff hoptions (by omega) (by omega), hin, hfmt, hout]
    decide

theorem layout_matches_planar_stereo :
    ∃ r₀ r replies, AudioResampler.create copyingAv .fltp 44100 2 .s16 48000 1 = .ok r₀ ∧
      (resampleMachine copyingAv copyingAvContract).run r₀ [tenMs8k] = .ok (r, replies) ∧
      LayoutMatches copyingAvContract r := by
  obtain ⟨r₀, r, replies, hr₀, hrun⟩ :
      ∃ r₀ r replies, AudioResampler.create copyingAv .fltp 44100 2 .s16 48000 1 = .ok r₀ ∧
        (resampleMachine copyingAv copyingAvContract).run r₀ [tenMs8k] = .ok (r, replies) :=
    ⟨_, _, _, rfl, rfl⟩
  refine ⟨r₀, r, replies, hr₀, hrun, ?_⟩
  exact (layout_matches_iff copyingAv copyingAvContract .fltp 44100 2 .s16 48000 1 (by decide)
    (by decide) r₀ hr₀ [tenMs8k] r replies hrun).mpr (by decide)

/-- **The channels of a file**: a file source sets its resampler up for
as many channels as the file has, so in every state between two `Read`
calls the layout matches exactly for files of one and two channels (or of
more than any sample frame can have) and as many output channels. -/
theorem file_layout_matches_iff (av : LibAv ρ α) (hav : av.Documented) (k : SwrContract av)
    (file : MediaFile σ α) (fuel : Nat) (c : SourceSettings) (volume : Float32)
    (src : AudioFileSource σ ρ α) (hout : 1 ≤ c.outputChannelNum)
    (hcreate : AudioFileSource.create av fuel c.ssrc file c.outputSampleRate c.outputChannelNum
      c.frameDurationMs volume = .ok src)
    (calls : List Unit) (s : AudioFileSource σ ρ α) (replies : List (ReadResult α))
    (hrun : (readMachine av fuel).run src calls = .ok (s, replies)) :
    LayoutMatches k s.resampler ↔
      (file.channels ≤ 2 ∨ 2147483647 < file.channels * file.sampleFormat.bytesPerSample) ∧
      c.outputChannelNum ≤ 2 := by
  obtain ⟨hresamples, hcontext⟩ := resamples_of_create hcreate
  obtain ⟨hs, hr, hk⟩ := Machine.run_invariant
    (fun s => Built av file c s ∧ Resamples file c s ∧
      k.options s.resampler.context = s.resampler.options)
    (fun _ _ _ _ hI hstep => ⟨hI.1.read hstep, hI.2.1.read hstep, context_of_read hI.2.2 hstep⟩)
    ⟨built_of_create hcreate, hresamples, hcontext k⟩ hrun
  obtain ⟨hchannels, -, -⟩ := hs.fullSize_eq hav
  have hinput : s.resampler.inputChannelNum = file.channels :=
    hs.resamplerChannels.trans hs.inputChannelNum
  have hformat : s.resampler.inputFormat = file.sampleFormat :=
    hs.resamplerFormat.trans hs.inputFormat
  have hiff := layoutMatches_iff hk (by omega) (hr.outputChannelNum ▸ hout)
  rw [hinput, hformat, hr.outputChannelNum] at hiff
  exact hiff

end L4AudioMixer.Source
