/-
L4AudioMixer.Libav.SampleLayout — where samples lie in a buffer.

`samplefmt.h`: a planar format has one plane for each channel, a packed
format a single plane in which the samples of the channels alternate.
An address here is a plane and an offset in it. `sampleBytes` collects
the bytes of a number of samples from where each of them starts;
`sampleBytes_packed` and `sampleBytes_planar` say which intervals these
are, and `card_sampleBytes` how many bytes. What `swr_convert`
reads and writes follows from the options of its context.
-/
import L4AudioMixer.Lib.Memory
import L4AudioMixer.Libav.SampleContract
import Mathlib.Data.Finset.Prod
import Mathlib.Data.Finset.Union

namespace L4AudioMixer.Libav

open L4AudioMixer.Lib

namespace AVSampleFormat

/-- `av_get_bytes_per_sample`, as a number of bytes. -/
def bytes (fmt : AVSampleFormat) : Nat := fmt.bytesPerSample.toNat

theorem bytes_pos (fmt : AVSampleFormat) : 0 < fmt.bytes := by
  cases fmt <;> decide

@[simp] theorem natCast_bytes (fmt : AVSampleFormat) : (fmt.bytes : Int) = fmt.bytesPerSample := by
  cases fmt <;> rfl

/-- Where sample `j` of channel `c` starts. -/
def sampleStart (fmt : AVSampleFormat) (channels j c : Nat) : Nat × Nat :=
  if fmt.isPlanar then (c, j * fmt.bytes) else (0, (j * channels + c) * fmt.bytes)

/-- The bytes of the first `samples` samples of every channel. -/
def sampleBytes (fmt : AVSampleFormat) (channels samples : Nat) : Finset (Nat × Nat) :=
  (Finset.range samples ×ˢ Finset.range channels).biUnion fun (j, c) =>
    let (plane, offset) := fmt.sampleStart channels j c
    (Finset.range fmt.bytes).image fun i => (plane, offset + i)

/-- The bytes of a block of `size` bytes: all in one plane, or an equal
part of them in the plane of every channel. -/
def blockBytes (fmt : AVSampleFormat) (channels size : Nat) : Finset (Nat × Nat) :=
  if fmt.isPlanar then Finset.range channels ×ˢ Finset.range (size / channels)
  else {0} ×ˢ Finset.range size

variable {fmt : AVSampleFormat} {channels samples : Nat}

theorem mem_sampleBytes {address : Nat × Nat} :
    address ∈ fmt.sampleBytes channels samples ↔
      ∃ j < samples, ∃ c < channels, ∃ i < fmt.bytes,
        address = ((fmt.sampleStart channels j c).1, (fmt.sampleStart channels j c).2 + i) := by
  simp only [sampleBytes, Finset.mem_biUnion, Finset.mem_product, Finset.mem_range,
    Finset.mem_image, Prod.exists]
  constructor
  · rintro ⟨j, c, ⟨hj, hc⟩, i, hi, rfl⟩
    exact ⟨j, hj, c, hc, i, hi, rfl⟩
  · rintro ⟨j, hj, c, hc, i, hi, rfl⟩
    exact ⟨j, c, ⟨hj, hc⟩, i, hi, rfl⟩

/-- Packed samples fill the front of the first plane. -/
theorem sampleBytes_packed (h : fmt.isPlanar = false) :
    fmt.sampleBytes channels samples = {0} ×ˢ Finset.range (samples * channels * fmt.bytes) := by
  ext ⟨plane, offset⟩
  simp only [mem_sampleBytes, sampleStart, h, Bool.false_eq_true, if_false, Finset.mem_product,
    Finset.mem_singleton, Finset.mem_range, Prod.mk.injEq]
  constructor
  · rintro ⟨j, hj, c, hc, i, hi, rfl, rfl⟩
    have hrow : j * channels + c < samples * channels :=
      lt_mul_iff_exists.mpr ⟨j, hj, c, hc, rfl⟩
    exact ⟨rfl, lt_mul_iff_exists.mpr ⟨_, hrow, i, hi, rfl⟩⟩
  · rintro ⟨rfl, hoffset⟩
    obtain ⟨p, hp, i, hi, rfl⟩ := lt_mul_iff_exists.mp hoffset
    obtain ⟨j, hj, c, hc, rfl⟩ := lt_mul_iff_exists.mp hp
    exact ⟨j, hj, c, hc, i, hi, rfl, rfl⟩

/-- Planar samples fill the front of the plane of every channel. -/
theorem sampleBytes_planar (h : fmt.isPlanar = true) :
    fmt.sampleBytes channels samples
      = Finset.range channels ×ˢ Finset.range (samples * fmt.bytes) := by
  ext ⟨plane, offset⟩
  simp only [mem_sampleBytes, sampleStart, h, if_true, Finset.mem_product, Finset.mem_range,
    Prod.mk.injEq]
  constructor
  · rintro ⟨j, hj, c, hc, i, hi, rfl, rfl⟩
    exact ⟨hc, lt_mul_iff_exists.mpr ⟨j, hj, i, hi, rfl⟩⟩
  · rintro ⟨hplane, hoffset⟩
    obtain ⟨j, hj, i, hi, rfl⟩ := lt_mul_iff_exists.mp hoffset
    exact ⟨j, hj, plane, hplane, i, hi, rfl, rfl⟩

/-- No byte belongs to two samples. -/
theorem card_sampleBytes (fmt : AVSampleFormat) (channels samples : Nat) :
    (fmt.sampleBytes channels samples).card = samples * channels * fmt.bytes := by
  cases h : fmt.isPlanar with
  | false =>
      rw [sampleBytes_packed h]
      simp
  | true =>
      rw [sampleBytes_planar h, Finset.card_product, Finset.card_range, Finset.card_range,
        ← Nat.mul_assoc, Nat.mul_comm channels]

/-- A block of whole samples consists of their bytes. -/
theorem blockBytes_of_samples (fmt : AVSampleFormat) (hchannels : 0 < channels) (samples : Nat) :
    fmt.blockBytes channels (samples * channels * fmt.bytes)
      = fmt.sampleBytes channels samples := by
  cases h : fmt.isPlanar with
  | false =>
      rw [sampleBytes_packed h, blockBytes, h]
      rfl
  | true =>
      have hshare : samples * channels * fmt.bytes / channels = samples * fmt.bytes := by
        rw [Nat.mul_right_comm, Nat.mul_div_cancel _ hchannels]
      rw [sampleBytes_planar h, blockBytes, h, if_pos rfl, hshare]

/-- Samples of another number of channels have other bytes. -/
theorem sampleBytes_inj {channels' : Nat} (hsamples : 0 < samples)
    (h : fmt.sampleBytes channels samples = fmt.sampleBytes channels' samples) :
    channels = channels' := by
  have hcard := congrArg Finset.card h
  rw [card_sampleBytes, card_sampleBytes] at hcard
  exact Nat.eq_of_mul_eq_mul_left hsamples (Nat.eq_of_mul_eq_mul_right fmt.bytes_pos hcard)

end AVSampleFormat

/-- What `swr_convert` reads for `inCount` input samples: `swresample.h`
counts samples in one channel, of the input layout and format. -/
def SwrOptions.bytesRead (options : SwrOptions) (inCount : Nat) : Finset (Nat × Nat) :=
  options.inSampleFmt.sampleBytes options.inChannelLayout.channels inCount

/-- Where sample frame `j` of the input is read, from its first channel on. -/
def SwrOptions.frameStart (options : SwrOptions) (j : Nat) : Nat × Nat :=
  options.inSampleFmt.sampleStart options.inChannelLayout.channels j 0

/-- Where `outCount` output samples are written. -/
def SwrOptions.bytesWritten (options : SwrOptions) (outCount : Nat) : Finset (Nat × Nat) :=
  options.outSampleFmt.sampleBytes options.outChannelLayout.channels outCount

end L4AudioMixer.Libav
