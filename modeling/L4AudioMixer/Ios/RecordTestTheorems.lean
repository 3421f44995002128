/-
L4AudioMixer.Ios.RecordTestTheorems — the record test takes every run of
callbacks.

`run_returns` takes a mixer that takes blocks. The mixer of the record
test is one: it has a file under ssrc 1 and the recording under ssrc 2,
and plays in the sense of `PlayInvariant` as long as the file can be read.
So no run of callbacks ends in a failure, and `record_test_accounts` is
about all of them.
-/
import L4AudioMixer.Ios.ReblockTheorems
import L4AudioMixer.Mixer.ProgressTheorems

namespace L4AudioMixer.Ios

open L4AudioMixer.Lib
open L4AudioMixer.Libav
open L4AudioMixer.Source
open L4AudioMixer.Mixer
open L4AudioMixer.Decoder (Slot slotCodec)

variable {σ ρ α γ : Type} {P : Platform σ ρ α γ}

/-- The configuration `doRecordAndMix` gives its mixer. -/
def recordTestConfig (kChannelNum : Int32) (path : String) : MixerConfig where
  sources := [
    { type := MixerSource.typeFile, ssrc := 1, volume := 1, path
      sampleRate := 0, channelNum := 0 },
    { type := MixerSource.typeRecord, ssrc := 2, volume := 1, path := ""
      sampleRate := 48000, channelNum := kChannelNum }]
  outputSampleRate := 48000
  outputChannelNum := kChannelNum
  frameDurationMs := 10

theorem doRecordAndMix_ok {kChannelNum : Int32} {path : String} {malloced : Nat → UInt8}
    {uninit : Nat → Int16} {c : AudioMixerTestController σ ρ α γ}
    (h : AudioMixerTestController.doRecordAndMix P kChannelNum path malloced uninit = .ok c) :
    c.bufferLength = 7860 ∧ ∃ m, c.mixer.nativeMixer = some m ∧
      AudioMixer.create P (recordTestConfig kChannelNum path) uninit = .ok m := by
  simp only [AudioMixerTestController.doRecordAndMix, PYAAudioMixer.initWithConfig,
    bind_eq_ok] at h
  obtain ⟨mixer, ⟨m, hcreate, hinit⟩, hret⟩ := h
  cases hinit
  cases hret
  exact ⟨rfl, m, rfl, hcreate⟩

/-- **A mixer that plays takes blocks** of any size that is an `int`. -/
theorem takesBlocks_of_playInvariant {config : MixerConfig} {M : Nat} (hM : IsInt32 (M : Int)) :
    TakesBlocks P M fun mixer =>
      ∃ m, mixer.nativeMixer = some m ∧ PlayInvariant P config 2 m := by
  intro mixer ⟨m, hnative, hm⟩ data uninit
  have hsize : 0 ≤ (Int32.ofInt (M : Int)).toInt := by
    rw [Int32.toInt_ofInt_of_le hM.1 (by have := hM.2; omega)]
    exact Int.natCast_nonneg M
  obtain ⟨m₁, hadd, hm₁⟩ := hm.addRecordedData data hsize uninit
  obtain ⟨m₂, result, hmix, hm₂⟩ := hm₁.mix uninit
  obtain ⟨mixed, hmixed⟩ : ∃ mixed, PYAAudioMixer.mix P { mixer with nativeMixer := some m₁ } uninit
      = .ok ({ nativeMixer := some m₂, buffer := mixed }, mixed) := by
    simp only [PYAAudioMixer.mix, hmix, bind, Except.bind, pure, Except.pure]
    exact ⟨_, rfl⟩
  refine ⟨{ mixer with nativeMixer := some m₁ }, _, mixed, ?_, hmixed, m₂, rfl, hm₂⟩
  simp only [PYAAudioMixer.addRecordedData, hnative, hadd, bind, Except.bind, pure, Except.pure]

/-- **The record test takes every run of callbacks**: on both builds, for
every file that can be read, callbacks of positive sizes that are `int`s
never fail, and the account of the run is kept. -/
theorem record_test_accounts {kChannelNum : Int32} {path : String} {malloced : Nat → UInt8}
    {uninit : Nat → Int16} {c₀ : AudioMixerTestController σ ρ α γ} (hsizes : P.av.SizeLaws)
    (hchannels : kChannelNum = 1 ∨ kChannelNum = 2)
    (h : AudioMixerTestController.doRecordAndMix P kChannelNum path malloced uninit = .ok c₀)
    (hreads : ∀ s, AudioFileSource.create P.av P.fuel 1 (P.files path) 48000 kChannelNum.toInt 10 1
      = .ok s → KeepsReading P s)
    {callbacks : List RecordCallback}
    (hcallbacks : ∀ callback ∈ callbacks,
      0 < callback.size c₀.channelNum ∧ IsInt32 (callback.size c₀.channelNum)) :
    ∃ (M : Nat) (c : AudioMixerTestController σ ρ α γ) (replies : List Delivered),
      c₀.mixerInputSize = .ok (M : Int) ∧
      (recordAndMixMachine P).run c₀ callbacks = .ok (c, replies) ∧
      Accounted M c₀.channelNum callbacks replies c ∧
      MixesBlocks P M c₀.mixer (handedBy replies) c.mixer := by
  obtain ⟨M, hM, hsize, hroom, hrem⟩ := doRecordAndMix_starts hchannels h
  obtain ⟨hlength, m, hnative, hcreate⟩ := doRecordAndMix_ok h
  have hreal : (Numbers.ofConfig (recordTestConfig kChannelNum path)).realOutputSamples = 480 := by
    show (48000 : Int32).toInt.tdiv ((1000 : Int).tdiv (10 : Int32).toInt) = 480
    decide
  have hfits : 0 ≤ P.av.samplesGetBufferSize kChannelNum.toInt
      (Numbers.ofConfig (recordTestConfig kChannelNum path)).realOutputSamples kOutputSampleFormat
      1 := by
    rw [hreal, hsizes.nonneg_iff (.inr rfl)]
    rcases hchannels with rfl | rfl
    · decide
    · decide
  have hfiles : ∀ source ∈ (recordTestConfig kChannelNum path).sources,
      source.type ≠ MixerSource.typeRecord → source.ssrc ≠ 2 ∧
        ∀ s, AudioFileSource.create P.av P.fuel source.ssrc (P.files source.path) 48000
          kChannelNum.toInt 10 source.volume = .ok s → KeepsReading P s := by
    intro source hsource htype
    simp only [recordTestConfig, List.mem_cons, List.not_mem_nil, or_false] at hsource
    rcases hsource with rfl | rfl
    · exact ⟨by show (1 : Int32) ≠ 2; decide, hreads⟩
    · exact absurd rfl htype
  have hplays : PlayInvariant P (recordTestConfig kChannelNum path) 2 m :=
    .of_create hcreate hfiles hfits
  have hint : IsInt32 (M : Int) := ⟨by omega, by omega⟩
  obtain ⟨c, replies, hrun⟩ := run_returns hM (takesBlocks_of_playInvariant hint)
    ⟨⟨m, hnative, hplays⟩, hroom⟩ hsize hrem hcallbacks
  exact ⟨M, c, replies, hsize, hrun,
    accounted_of_run hM hsize hrem (fun callback hmem => (hcallbacks callback hmem).1) hrun⟩

/-- A file of one packet of 10 ms, which the first `Read` takes: what
`record_test_accounts` asks of the file can be met. -/
theorem keepsReading_copyingPlatform {s : AudioFileSource Slot SwrOptions UInt8}
    (h : AudioFileSource.create (copyingPlatform .lp64).av (copyingPlatform .lp64).fuel 1
      ((copyingPlatform .lp64).files "") 48000 1 10 1 = .ok s) :
    KeepsReading (copyingPlatform .lp64) s := by
  obtain ⟨s₀, s₁, result, hcreate, hread, hchannels, hsamples, hformat, hunread, hconsumed, hempty,
    hcodec, hframe⟩ :
      ∃ s₀ s₁ result, AudioFileSource.create (copyingPlatform .lp64).av (copyingPlatform .lp64).fuel
          1 ((copyingPlatform .lp64).files "") 48000 1 10 1 = .ok s₀ ∧
        s₀.read (copyingPlatform .lp64).av (copyingPlatform .lp64).fuel = .ok (s₁, result) ∧
        s₁.inputChannelNum = 1 ∧ s₁.inputSamples = 80 ∧ s₁.inputFormat = .s16 ∧
        s₁.decoder.formatContext = [] ∧ s₁.decoder.packetConsumed = true ∧
        s₁.decoder.fifo = [] ∧ s₁.decoder.codec = slotCodec ∧
        s₁.decoder.codecContext.frame = none :=
    ⟨_, _, _, rfl, rfl, rfl, rfl, rfl, rfl, rfl, rfl, rfl, rfl⟩
  rw [hcreate] at h
  cases h
  have hend : AtEnd (fun c : Slot => c.frame = none) s₁.decoder := by
    refine ⟨hunread, hconsumed, hempty, hframe, fun c hc => ?_⟩
    rw [hcodec]
    refine ⟨if c.flushed then .eof else .eagain, c, ?_, ?_, hc⟩
    · simp only [slotCodec, hc]
    · intro samples
      split <;> simp
  have hfull : fullSize (copyingPlatform .lp64).av s₁ = 160 := by
    rw [fullSize, hchannels, hsamples, hformat]
    rfl
  have hrest : KeepsReading (copyingPlatform .lp64) s₁ :=
    hend.keepsReading (by omega) (by omega) (by decide)
  exact hrest.of_read hread

/-- Three callbacks, of which the second is too short for the block the
first leaves: no call fails, and the account says what is missing. -/
theorem record_test_accounts_copyingPlatform :
    ∃ (M : Nat) (c₀ c : AudioMixerTestController Slot SwrOptions UInt8 Unit)
        (replies : List Delivered),
      AudioMixerTestController.doRecordAndMix (copyingPlatform .lp64) 1 "" (fun _ => 0)
        (fun _ => 0) = .ok c₀ ∧
      (recordAndMixMachine (copyingPlatform .lp64)).run c₀
        [framesCallback 600, framesCallback 120, framesCallback 480] = .ok (c, replies) ∧
      Accounted M c₀.channelNum [framesCallback 600, framesCallback 120, framesCallback 480]
        replies c ∧
      MixesBlocks (copyingPlatform .lp64) M c₀.mixer (handedBy replies) c.mixer := by
  obtain ⟨c₀, hstart, hchannels⟩ :
      ∃ c₀, AudioMixerTestController.doRecordAndMix (copyingPlatform .lp64) 1 "" (fun _ => 0)
          (fun _ => 0) = .ok c₀ ∧ c₀.channelNum = 1 :=
    ⟨_, rfl, rfl⟩
  have hcallbacks : ∀ callback ∈ [framesCallback 600, framesCallback 120, framesCallback 480],
      0 < callback.size c₀.channelNum ∧ IsInt32 (callback.size c₀.channelNum) := by
    rw [hchannels]
    decide
  obtain ⟨M, c, replies, -, hrun, haccount, hmixes⟩ :=
    record_test_accounts copyingAv_sizeLaws (.inl rfl) hstart
      (fun s hs => keepsReading_copyingPlatform hs) hcallbacks
  exact ⟨M, c₀, c, replies, hstart, hrun, haccount, hmixes⟩

end L4AudioMixer.Ios
