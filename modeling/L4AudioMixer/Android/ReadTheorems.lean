/-
L4AudioMixer.Android.ReadTheorems — the space a native file source offers
in the array of the Java one.

The array has a constant length, which is right for the blocks of at most
10 ms that a mixer accepts. A source on its own takes any duration, and
offers as much as a block of it has at the output rate; `read_fits_iff`
says for which streams and settings that is at most the constant.
-/
import L4AudioMixer.Android.ConsumeTheorems

namespace L4AudioMixer.Android

open L4AudioMixer.Lib
open L4AudioMixer.Libav
open L4AudioMixer.Source (ReadResult SourceSettings Built Resamples fullSize)
open L4AudioMixer.Decoder (Consumed)
open L4AudioMixer.Mixer (maxBufSize)

variable {σ ρ α : Type}

/-- The settings `nativeInit` constructs a source with. -/
def settings (outputSampleRate outputChannelNum frameDurationMs : Int) : SourceSettings where
  ssrc := 0
  outputSampleRate := outputSampleRate
  outputChannelNum := outputChannelNum
  frameDurationMs := frameDurationMs

/-- Every file with this stream is read within the array: in every state
after `read` calls, the space that a block passed on to `Resample` is
offered, counted in so many channels of two bytes, is at most the array's
length. -/
def ReadFits (av : LibAv ρ α) (stream : Stream)
    (outputSampleRate outputChannelNum frameDurationMs channels : Int) : Prop :=
  ∀ (σ : Type) (file : MediaFile σ α), streamOf file = stream →
    ∀ (fuel : Nat) (s₀ : AudioFileSource σ ρ α),
    AudioFileSource.create av fuel file outputSampleRate outputChannelNum frameDurationMs
      = .ok s₀ →
    ∀ (calls : List Unit) (s : AudioFileSource σ ρ α) (replies : List (ReadResult α)),
    (AudioFileSource.machine av fuel).run s₀ calls = .ok (s, replies) →
    ∀ decoder consumed,
      Decoder.consume fuel s.native.decoder s.native.inputSamples = .ok (decoder, consumed) →
      consumed.size = fullSize av s.native →
      s.native.resampler.outputSamples av consumed.size * channels * 2 ≤ s.buffer.length

/-- Some samples, counted as two bytes each, have the size of a full block:
all of them, or half of them when a sample has one byte. -/
def CountsAsFull (fmt : AVSampleFormat) (block : Int) : Prop :=
  fmt.bytesPerSample = 2 ∨ (fmt.bytesPerSample = 1 ∧ 2 ∣ block)

/-- The streams and settings whose blocks never come to `Resample`, or fit
the array there: the FIFO has no room, no block is counted as a full one,
there are no channels, or the block has at most 7680 bytes at the output
rate. -/
def BlockFits (stream : Stream) (outputSampleRate frameDurationMs channels : Int) : Prop :=
  stream.sampleRate < 10 ∨
  ¬ CountsAsFull stream.sampleFormat
    (stream.sampleRate.tdiv ((1000 : Int).tdiv frameDurationMs)) ∨
  channels ≤ 0 ∨
  stream.sampleRate.tdiv ((1000 : Int).tdiv frameDurationMs) * outputSampleRate
    ≤ 3840 / channels * stream.sampleRate

theorem countsAsFull_iff (fmt : AVSampleFormat) {block : Int} (hblock : 0 < block) :
    CountsAsFull fmt block ↔
      ∃ n : Nat, (n : Int) ≤ block ∧ (n : Int) * 2 = block * fmt.bytesPerSample := by
  have hbytes : fmt.bytesPerSample = 1 ∨ fmt.bytesPerSample = 2 ∨ fmt.bytesPerSample = 4 ∨
      fmt.bytesPerSample = 8 := by
    cases fmt <;> decide
  unfold CountsAsFull
  constructor
  · intro h
    rcases h with htwo | ⟨hone, hdvd⟩
    · exact ⟨block.toNat, by omega, by rw [htwo]; omega⟩
    · exact ⟨(block / 2).toNat, by omega, by rw [hone]; omega⟩
  · intro h
    obtain ⟨n, hle, hsize⟩ := h
    rcases hbytes with hone | htwo | hfour | height
    · exact .inr ⟨hone, by rw [hone] at hsize; omega⟩
    · exact .inl htwo
    · rw [hfour] at hsize
      omega
    · rw [height] at hsize
      omega

section FileSource

variable {av : LibAv ρ α} {fuel : Nat} {file : MediaFile σ α}
  {outputSampleRate outputChannelNum frameDurationMs channels : Int}
  {s s' s₀ : AudioFileSource σ ρ α} {reply : ReadResult α}

/-- **What the constructor does**: a native source, and an array of
constant length. -/
theorem source_create_iff :
    AudioFileSource.create av fuel file outputSampleRate outputChannelNum frameDurationMs = .ok s ↔
      AudioFileSource.nativeInit av fuel file outputSampleRate outputChannelNum frameDurationMs
        = .ok s.native ∧ s.buffer = { length := 7680, size := 0 } := by
  have harray : Java.newArray maxBufSize = .ok 7680 := rfl
  simp only [AudioFileSource.create, bind_eq_ok, Java.native_eq_ok, harray, Except.ok.injEq,
    exists_eq_left']
  constructor
  · intro h
    obtain ⟨native, hnative, hs⟩ := h
    cases hs
    exact ⟨hnative, rfl⟩
  · intro h
    refine ⟨s.native, h.1, ?_⟩
    rw [← h.2]
    rfl

/-- What `read` keeps. -/
structure SourceInvariant (av : LibAv ρ α) (file : MediaFile σ α) (c : SourceSettings)
    (s : AudioFileSource σ ρ α) : Prop where
  built : Built av file c s.native
  resamples : Resamples file c s.native
  length : s.buffer.length = 7680
  noRoom : file.sampleRate < 10 → NoRoom s.native.decoder

theorem sourceInvariant_of_create
    (h : AudioFileSource.create av fuel file outputSampleRate outputChannelNum frameDurationMs
      = .ok s) :
    SourceInvariant av file (settings outputSampleRate outputChannelNum frameDurationMs) s := by
  obtain ⟨hnative, hbuffer⟩ := source_create_iff.mp h
  have hresamples := (Source.resamples_of_create
    (c := settings outputSampleRate outputChannelNum frameDurationMs) hnative).1
  refine ⟨Source.built_of_create hnative, hresamples, ?_, ?_⟩
  · rw [hbuffer]
  · intro hrate
    exact noRoom_of_create hrate (Source.decoder_of_create hnative)

theorem SourceInvariant.step {c : SourceSettings} (hs : SourceInvariant av file c s)
    (h : (AudioFileSource.machine av fuel).step s () = .ok (s', reply)) :
    SourceInvariant av file c s' := by
  simp only [AudioFileSource.machine, AudioFileSource.read, bind_eq_ok, Java.native_eq_ok] at h
  obtain ⟨⟨native, result⟩, hread, hret⟩ := h
  cases hret
  refine ⟨hs.built.read hread, hs.resamples.read hread, hs.length, ?_⟩
  intro hrate
  obtain ⟨decoder, consumed, hconsume, hcase⟩ := Source.read_cases hread
  have hroom := ((hs.noRoom hrate).consume hconsume).1
  rcases hcase with ⟨_, rfl, _⟩ | ⟨_, _, _, _, rfl, _⟩
  · exact hroom
  · exact hroom

/-- What `Read` passes on is counted as a full block. -/
theorem consumed_of_full {c : SourceSettings} {decoder : Decoder.AudioFileDecoder σ α}
    {consumed : Consumed α} (hav : av.Documented) (hs : SourceInvariant av file c s)
    (hconsume : Decoder.consume fuel s.native.decoder s.native.inputSamples
      = .ok (decoder, consumed)) (hsize : consumed.size = fullSize av s.native) :
    (consumed.samples.length : Int) ≤ s.native.inputSamples ∧
      (consumed.samples.length : Int) * 2
        = s.native.inputSamples * file.sampleFormat.bytesPerSample := by
  obtain ⟨hchannels, hsamples, hfull⟩ := hs.built.fullSize_eq hav
  obtain ⟨hcount, hle⟩ := Source.consume_counts (Int.le_of_lt hsamples) hs.built.decoder hconsume
  refine ⟨hle, ?_⟩
  rw [hcount, hfull, Int.mul_assoc file.channels, Int.mul_comm file.channels] at hsize
  exact Int.eq_of_mul_eq_mul_right (Int.ne_of_gt hchannels) hsize

/-- The space offered for a full block, against the constant. -/
theorem space_le_iff {c : SourceSettings} (hav : av.Documented) (hrescale : av.RescaleLaws)
    (hs : SourceInvariant av file c s) (hout : IsInt32 c.outputSampleRate)
    (hrate : 10 ≤ file.sampleRate) (h32 : IsInt32 file.sampleRate) :
    s.native.resampler.outputSamples av (fullSize av s.native) * channels * 2 ≤ 7680 ↔
      channels ≤ 0 ∨ s.native.inputSamples * c.outputSampleRate
        ≤ 3840 / channels * file.sampleRate := by
  obtain ⟨hnonneg, hle⟩ :=
    Source.space_of_full hav hrescale hs.built hs.resamples (by omega) h32 hout
  by_cases hchannels : channels ≤ 0
  · have hnone := Int.mul_nonpos_of_nonneg_of_nonpos hnonneg hchannels
    simp only [hchannels, true_or, iff_true]
    omega
  · have hroom : (0 : Int) ≤ 3840 / channels := Int.ediv_nonneg (by decide) (by omega)
    rw [← hle _ hroom, Int.le_ediv_iff_mul_le (by omega)]
    simp only [hchannels, false_or]
    omega

/-- A block that is counted as a full one is in a file that has it as its
first frame. -/
theorem exists_counted_block (hav : av.Documented)
    (hcreate : AudioFileSource.create av fuel file outputSampleRate outputChannelNum
      frameDurationMs = .ok s₀) (hrate : 10 ≤ file.sampleRate)
    (hfull : CountsAsFull file.sampleFormat s₀.native.inputSamples) :
    ∃ (file' : MediaFile OneFrame α) (s₁ : AudioFileSource OneFrame ρ α)
      (decoder : Decoder.AudioFileDecoder OneFrame α) (consumed : Consumed α),
      streamOf file' = streamOf file ∧
      AudioFileSource.create av 2 file' outputSampleRate outputChannelNum frameDurationMs
        = .ok s₁ ∧
      Decoder.consume 2 s₁.native.decoder s₁.native.inputSamples = .ok (decoder, consumed) ∧
      consumed.size = fullSize av s₁.native := by
  obtain ⟨hnative, hbuffer⟩ := source_create_iff.mp hcreate
  have hdecoder := Source.decoder_of_create hnative
  have hs := sourceInvariant_of_create hcreate
  obtain ⟨-, hsamples, -⟩ := hs.built.fullSize_eq hav
  obtain ⟨n, hle, hcount⟩ := (countsAsFull_iff _ hsamples).mp hfull
  let frame := List.replicate n (av.freshSamples 0)
  obtain ⟨native, hnative', hdec⟩ := Source.create_of_same_stream hnative
    (create_oneFrameFile (streamOf file) frame (Source.decoder_create_ok hdecoder).1) rfl rfl rfl
  let s₁ : AudioFileSource OneFrame ρ α := { native, buffer := s₀.buffer }
  have hcreate₁ : AudioFileSource.create av 2 (oneFrameFile (streamOf file) frame)
      outputSampleRate outputChannelNum frameDurationMs = .ok s₁ :=
    source_create_iff.mpr ⟨hnative', hbuffer⟩
  have hs₁ := sourceInvariant_of_create hcreate₁
  have hblock : s₁.native.inputSamples = s₀.native.inputSamples := by
    rw [hs₁.built.inputSamples, hs.built.inputSamples]
    rfl
  have hframe : (frame.length : Int) ≤ s₁.native.inputSamples := by
    rw [hblock, List.length_replicate]
    exact hle
  obtain ⟨decoder, hconsume⟩ := consume_oneFrameDecoder (streamOf file) frame hrate hframe
  refine ⟨_, s₁, decoder, _, rfl, hcreate₁, (congrArg (Decoder.consume 2 · _) hdec).trans hconsume,
    ?_⟩
  show (frame.length : Int) * 2 * file.channels = fullSize av s₁.native
  have hsize : fullSize av s₁.native = file.channels * s₁.native.inputSamples
      * file.sampleFormat.bytesPerSample := (hs₁.built.fullSize_eq hav).2.2
  rw [hsize, hblock, List.length_replicate, hcount, Int.mul_right_comm,
    Int.mul_comm file.channels]

/-- One count of the space, in any number of channels. -/
theorem readFits_iff (hav : av.Documented) (hrescale : av.RescaleLaws)
    (hout : IsInt32 outputSampleRate)
    (hcreate : AudioFileSource.create av fuel file outputSampleRate outputChannelNum
      frameDurationMs = .ok s₀) :
    ReadFits av (streamOf file) outputSampleRate outputChannelNum frameDurationMs channels ↔
      BlockFits (streamOf file) outputSampleRate frameDurationMs channels := by
  have hs₀ := sourceInvariant_of_create hcreate
  have hblock : s₀.native.inputSamples
      = (streamOf file).sampleRate.tdiv ((1000 : Int).tdiv frameDurationMs) :=
    hs₀.built.inputSamples
  have h32 := Source.isInt32_rate_of_create
    (Source.decoder_of_create (source_create_iff.mp hcreate).1)
  unfold BlockFits
  rw [← hblock]
  constructor
  · intro hfits
    by_cases hrate : file.sampleRate < 10
    · exact .inl hrate
    by_cases hfull : CountsAsFull file.sampleFormat s₀.native.inputSamples
    · obtain ⟨file', s₁, decoder, consumed, hstream, hcreate₁, hconsume, hsize⟩ :=
        exists_counted_block hav hcreate (Int.not_lt.mp hrate) hfull
      have hspace := hfits _ file' hstream 2 s₁ hcreate₁ [] s₁ [] rfl decoder consumed hconsume
        hsize
      have hs₁ := sourceInvariant_of_create hcreate₁
      have hrates : file'.sampleRate = file.sampleRate := congrArg Stream.sampleRate hstream
      rw [hsize, hs₁.length] at hspace
      have hbound := (space_le_iff hav hrescale hs₁ hout (by omega) (hrates ▸ h32)).mp hspace
      rw [hs₁.built.inputSamples, hrates] at hbound
      rw [hblock]
      exact .inr (.inr hbound)
    · exact .inr (.inl hfull)
  · intro hcondition σ' file' hstream fuel' s₁ hcreate₁ calls s replies hrun decoder consumed
      hconsume hsize
    have hs : SourceInvariant av file'
        (settings outputSampleRate outputChannelNum frameDurationMs) s :=
      Machine.run_invariant (SourceInvariant av file' _) (fun _ _ _ _ hI hstep => hI.step hstep)
        (sourceInvariant_of_create hcreate₁) hrun
    have hrates : file'.sampleRate = file.sampleRate := congrArg Stream.sampleRate hstream
    have hformats : file'.sampleFormat = file.sampleFormat :=
      congrArg Stream.sampleFormat hstream
    obtain ⟨-, hsamples, -⟩ := hs.built.fullSize_eq hav
    have hblocks : s.native.inputSamples = s₀.native.inputSamples := by
      rw [hs.built.inputSamples, hblock, hrates]
      rfl
    obtain ⟨hle, hcount⟩ := consumed_of_full hav hs hconsume hsize
    have hfull := (countsAsFull_iff _ hsamples).mpr ⟨_, hle, hcount⟩
    rw [hformats, hblocks] at hfull
    have hrate : ¬ file.sampleRate < 10 := by
      intro hrate
      have hnone := ((hs.noRoom (by omega)).consume hconsume).2
      have hpositive := Int.mul_pos hsamples file'.sampleFormat.bytesPerSample_pos
      rw [hnone] at hcount
      simp only [List.length_nil] at hcount
      omega
    have hbound := (hcondition.resolve_left hrate).resolve_left (not_not_intro hfull)
    rw [hsize, hs.length]
    refine (space_le_iff hav hrescale hs hout (by omega) (hrates ▸ h32)).mpr ?_
    rw [hblocks, hrates]
    exact hbound

/-- **When `read` stays inside its array.** For every stream and settings
with which a source was constructed: exactly when `BlockFits` says so, both
for the channels asked for and for those of the layout that the resampler
sets up for them. -/
theorem read_fits_iff (av : LibAv ρ α) (hav : av.Documented) (hrescale : av.RescaleLaws)
    (outputSampleRate outputChannelNum frameDurationMs : Int) (hout : IsInt32 outputSampleRate)
    (fuel : Nat) (file : MediaFile σ α) (s₀ : AudioFileSource σ ρ α)
    (hcreate : AudioFileSource.create av fuel file outputSampleRate outputChannelNum
      frameDurationMs = .ok s₀) :
    (ReadFits av (streamOf file) outputSampleRate outputChannelNum frameDurationMs
        outputChannelNum ↔
      BlockFits (streamOf file) outputSampleRate frameDurationMs outputChannelNum) ∧
    (ReadFits av (streamOf file) outputSampleRate outputChannelNum frameDurationMs
        (Source.AudioResampler.channelLayout outputChannelNum).channels ↔
      BlockFits (streamOf file) outputSampleRate frameDurationMs
        (Source.AudioResampler.channelLayout outputChannelNum).channels) :=
  ⟨readFits_iff hav hrescale hout hcreate, readFits_iff hav hrescale hout hcreate⟩

end FileSource

/-- Blocks of 100 ms of a mono file at 8000 Hz, read as stereo at 48000 Hz:
19200 bytes of space are offered in an array of 7680. -/
theorem read_overruns_long_blocks :
    ∃ (file : MediaFile OneFrame UInt8) (s : AudioFileSource OneFrame SwrOptions UInt8)
      (decoder : Decoder.AudioFileDecoder OneFrame UInt8) (consumed : Consumed UInt8),
      AudioFileSource.create copyingAv 2 file 48000 2 100 = .ok s ∧ s.buffer.length = 7680 ∧
      Decoder.consume 2 s.native.decoder s.native.inputSamples = .ok (decoder, consumed) ∧
      consumed.size = fullSize copyingAv s.native ∧
      s.native.resampler.outputSamples copyingAv consumed.size = 4800 ∧
      ¬ ReadFits copyingAv (streamOf file) 48000 2 100 2 := by
  obtain ⟨s₀, hs₀⟩ : ∃ s₀,
      AudioFileSource.create copyingAv 2 (Source.tenMsFile .s16) 48000 2 100 = .ok s₀ := ⟨_, rfl⟩
  obtain ⟨file, s, decoder, consumed, hstream, hcreate, hconsume, hsize⟩ :=
    exists_counted_block copyingAv_documented hs₀ (by decide) (.inl rfl)
  have hs := sourceInvariant_of_create hcreate
  have hrate : file.sampleRate = 8000 := congrArg Stream.sampleRate hstream
  have hsamples : s.native.inputSamples = 800 := by
    rw [hs.built.inputSamples, hrate]
    rfl
  have hspace : s.native.resampler.outputSamples copyingAv consumed.size = 4800 := by
    rw [hsize, Source.outputSamples_of_full copyingAv_documented hs.built hs.resamples, hsamples,
      hrate]
    rfl
  refine ⟨file, s, decoder, consumed, hcreate, hs.length, hconsume, hsize, hspace, ?_⟩
  intro hfits
  have hbound := hfits _ file rfl 2 s hcreate [] s [] rfl decoder consumed hconsume hsize
  rw [hspace, hs.length] at hbound
  exact absurd hbound (by decide)

theorem read_fits_stereo48k :
    ∃ s₀, AudioFileSource.create copyingAv 9 (Source.tenMsFile .s16) 48000 2 10 = .ok s₀ ∧
      s₀.buffer.length = 7680 ∧
      ReadFits copyingAv (streamOf (Source.tenMsFile .s16)) 48000 2 10 2 := by
  obtain ⟨s₀, hs₀, hlength⟩ : ∃ s₀,
      AudioFileSource.create copyingAv 9 (Source.tenMsFile .s16) 48000 2 10 = .ok s₀ ∧
        s₀.buffer.length = 7680 := ⟨_, rfl, rfl⟩
  refine ⟨s₀, hs₀, hlength, ?_⟩
  exact (read_fits_iff copyingAv copyingAv_documented copyingAv_rescaleLaws 48000 2 10 (by decide) 9
    (Source.tenMsFile .s16) s₀ hs₀).1.mpr (.inr (.inr (.inr (by decide))))

end L4AudioMixer.Android
