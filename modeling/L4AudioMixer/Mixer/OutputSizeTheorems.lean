/-
L4AudioMixer.Mixer.OutputSizeTheorems — the size `Mix` copies out, over
all configurations.

`Mix` asks `av_samples_get_buffer_size` for the size of
`real_output_samples_` samples and uses the answer, an error code
included, as the length of a `memcpy`. What keeps it in bounds is in the
constructor: the check on the duration, two truncating divisions, and the
`size_t` product that `UpdateFrame` checks. `rejects_or_serves_iff` and
`mix_fits_iff` say for which configurations that is enough.
-/
import L4AudioMixer.Libav.SampleContract
import L4AudioMixer.Mixer.InstallTheorems

namespace L4AudioMixer.Mixer

open L4AudioMixer.Lib
open L4AudioMixer.Libav
open L4AudioMixer.WebRtc
open L4AudioMixer.Source
open L4AudioMixer.Decoder (Slot)

variable {σ ρ α γ : Type}

/-- The number of elements of a 10 ms frame, as `UpdateFrame` computes it. -/
def MixerConfig.frameLength (abi : Abi) (config : MixerConfig) : Nat :=
  toSizeT abi (Numbers.ofConfig config).reportOutputSamples
    * toSizeT abi config.outputChannelNum.toInt % abi.sizeModulus

/-- The divisions of the constructor have values. -/
structure Divides (config : MixerConfig) : Prop where
  duration : config.frameDurationMs.toInt ≠ 0
  framesPerSecond : (1000 : Int).tdiv config.frameDurationMs.toInt ≠ 0
  quotient : ¬ (config.outputSampleRate.toInt = -2147483648 ∧
    (1000 : Int).tdiv config.frameDurationMs.toInt = -1)

section Sizes

variable {P : Platform σ ρ α γ} {m m' : AudioMixer σ ρ α γ} {config : MixerConfig}
  {uninit : Nat → Int16}

/-- `Mix` returns the size it obtained. -/
theorem mix_size {result : MixResult} (h : m.mix P uninit = .ok (m', result)) :
    result.size = m.mixSize P := by
  simp only [AudioMixer.mix, bind_eq_ok] at h
  obtain ⟨_, _, _, _, _, _, hret⟩ := h
  cases hret
  rfl

/-- The size is the same in every state of a mixer. -/
theorem mixSize_of_numbers (h : m.numbers = Numbers.ofConfig config) :
    m.mixSize P = P.av.samplesGetBufferSize config.outputChannelNum.toInt
      (Numbers.ofConfig config).realOutputSamples kOutputSampleFormat 1 := by
  have hchannels : m.outputChannelNum = config.outputChannelNum :=
    congrArg Numbers.outputChannelNum h
  have hreal : m.realOutputSamples = (Numbers.ofConfig config).realOutputSamples :=
    congrArg Numbers.realOutputSamples h
  rw [AudioMixer.mixSize, hchannels, hreal]

/-! ## The outcomes of the constructor -/

theorem create_of_long (h : 10 < config.frameDurationMs.toInt) :
    AudioMixer.create P config uninit = .error (.check "frame duration too long") := by
  have hlong : ¬ config.frameDurationMs.toInt ≤ 10 := by omega
  simp only [AudioMixer.create, require, decide_eq_true_eq, if_neg hlong]
  rfl

/-- Without a value for a division the constructor ends, and by no check. -/
theorem create_of_not_divides (P : Platform σ ρ α γ) (uninit : Nat → Int16)
    (hduration : config.frameDurationMs.toInt ≤ 10) (h : ¬ Divides config) :
    ∃ fault, AudioMixer.create P config uninit = .error fault ∧ fault.isCheck = false := by
  simp only [AudioMixer.create, require, decide_eq_true_eq, if_pos hduration, bind, Except.bind]
  rw [divInt32_of_pos (by decide)]
  by_cases hzero : config.frameDurationMs.toInt = 0
  · obtain ⟨fault, hfault, hcheck⟩ := divInt32_error (a := 1000) (.inl hzero)
    rw [hfault]
    exact ⟨fault, rfl, hcheck⟩
  · rw [divInt32_of_ne hzero (by omega)]
    have hfails : (1000 : Int).tdiv config.frameDurationMs.toInt = 0 ∨
        (config.outputSampleRate.toInt = -2147483648 ∧
          (1000 : Int).tdiv config.frameDurationMs.toInt = -1) := by
      by_contra hnone
      rw [not_or] at hnone
      exact h ⟨hzero, hnone.1, hnone.2⟩
    obtain ⟨fault, hfault, hcheck⟩ := divInt32_error hfails
    refine ⟨fault, ?_, hcheck⟩
    simp only [hfault]

/-- With values for the divisions the constructor is its two loops and
`UpdateFrame`. -/
theorem create_of_divides (hduration : config.frameDurationMs.toInt ≤ 10) (h : Divides config) :
    AudioMixer.create P config uninit = (do
      let m ← AudioMixer.addAll P uninit (AudioMixer.started P config uninit) config.sources
      let mixedFrame ← (m.registerAll uninit).mixedFrame.updateFrame P.abi 0 none
        (toSizeT P.abi (m.registerAll uninit).reportOutputSamples)
        (m.registerAll uninit).outputSampleRate.toInt .kUndefined .kVadUnknown
        (toSizeT P.abi (m.registerAll uninit).outputChannelNum.toInt)
      return { m.registerAll uninit with mixedFrame }) := by
  simp only [AudioMixer.create, require, decide_eq_true_eq, if_pos hduration]
  rw [divInt32_of_pos (by decide), divInt32_of_ne h.duration (by omega)]
  simp only [bind, Except.bind]
  rw [divInt32_of_ne h.framesPerSecond h.quotient]
  rfl

theorem create_of_addAll_error (hduration : config.frameDurationMs.toInt ≤ 10)
    (h : Divides config) {fault : Fault}
    (hadd : AudioMixer.addAll P uninit (AudioMixer.started P config uninit) config.sources
      = .error fault) :
    AudioMixer.create P config uninit = .error fault := by
  rw [create_of_divides hduration h, hadd]
  rfl

/-- When all sources were added, the length of the frame decides. -/
theorem create_of_addAll_ok (hduration : config.frameDurationMs.toInt ≤ 10)
    (h : Divides config)
    (hadd : AudioMixer.addAll P uninit (AudioMixer.started P config uninit) config.sources
      = .ok m) :
    (config.frameLength P.abi ≤ kMaxDataSizeSamples →
      ∃ m₀, AudioMixer.create P config uninit = .ok m₀) ∧
    (kMaxDataSizeSamples < config.frameLength P.abi →
      AudioMixer.create P config uninit
        = .error (.check "length <= kMaxDataSizeSamples")) := by
  obtain ⟨-, hnumbers, -⟩ := addAll_wellFormed (wellFormed_bare P config _ _ uninit) hadd
  obtain ⟨registered, hall, -⟩ := registerAll_eq uninit m
  have hreport : m.reportOutputSamples = (Numbers.ofConfig config).reportOutputSamples :=
    congrArg Numbers.reportOutputSamples hnumbers
  have hchannels : m.outputChannelNum = config.outputChannelNum :=
    congrArg Numbers.outputChannelNum hnumbers
  rw [create_of_divides hduration h, hadd]
  simp only [bind, Except.bind, hall, AudioFrame.updateFrame, hreport, hchannels]
  refine ⟨fun hfits => ?_, fun hlong => ?_⟩
  · rw [MixerConfig.frameLength] at hfits
    rw [if_pos hfits]
    exact ⟨_, rfl⟩
  · rw [MixerConfig.frameLength] at hlong
    rw [if_neg (Nat.not_le.mpr hlong)]

/-! ## Every configuration is rejected or served -/

/-- The constructor stops on a check; or its divisions have divisors, the
sample counts are positive, and every later `Mix` obtains a positive size. -/
def RejectsOrServes (P : Platform σ ρ α γ) (config : MixerConfig) (uninit : Nat → Int16) : Prop :=
  (∃ fault, AudioMixer.create P config uninit = .error fault ∧ fault.isCheck = true) ∨
  (config.frameDurationMs.toInt ≠ 0 ∧ (1000 : Int).tdiv config.frameDurationMs.toInt ≠ 0 ∧
    0 < (Numbers.ofConfig config).reportOutputSamples ∧
    0 < (Numbers.ofConfig config).realOutputSamples ∧
    ∀ m₀ ops m replies, AudioMixer.create P config uninit = .ok m₀ →
      (mixerMachine P).run m₀ ops = .ok (m, replies) → 0 < m.mixSize P)

/-- The samples of 10 ms and of one frame are both positive exactly for
positive durations that divide a second into no more parts than it has
samples. -/
theorem sampleCounts_pos_iff (hduration : config.frameDurationMs.toInt ≤ 10) :
    (0 < (Numbers.ofConfig config).reportOutputSamples ∧
      0 < (Numbers.ofConfig config).realOutputSamples) ↔
      1 ≤ config.frameDurationMs.toInt ∧
        (1000 : Int).tdiv config.frameDurationMs.toInt ≤ config.outputSampleRate.toInt := by
  show 0 < config.outputSampleRate.toInt.tdiv 100 ∧
    0 < config.outputSampleRate.toInt.tdiv ((1000 : Int).tdiv config.frameDurationMs.toInt) ↔ _
  constructor
  · intro hpos
    obtain ⟨hreport, hreal⟩ := hpos
    have hrate : 100 ≤ config.outputSampleRate.toInt := le_of_tdiv_pos (by decide) hreport
    have hq : 0 < (1000 : Int).tdiv config.frameDurationMs.toInt := by
      by_contra hneg
      have hnonpos := Int.tdiv_nonpos_of_nonneg_of_nonpos
        (show 0 ≤ config.outputSampleRate.toInt by omega) (Int.not_lt.mp hneg)
      omega
    have hd : 1 ≤ config.frameDurationMs.toInt := by
      by_contra hneg
      have hnonpos := Int.tdiv_nonpos_of_nonneg_of_nonpos (show (0 : Int) ≤ 1000 by decide)
        (show config.frameDurationMs.toInt ≤ 0 by omega)
      omega
    exact ⟨hd, le_of_tdiv_pos hq hreal⟩
  · intro hpos
    obtain ⟨hlow, hle⟩ := hpos
    obtain ⟨hq, -⟩ := framesPerSecond_bounds hlow hduration
    exact ⟨tdiv_pos_of_le (by omega) (by omega), tdiv_pos_of_le (by omega) hle⟩

/-- Positive sample counts come from divisions that have values. -/
theorem divides_of_pos (hduration : config.frameDurationMs.toInt ≤ 10)
    (hlow : 1 ≤ config.frameDurationMs.toInt)
    (hle : (1000 : Int).tdiv config.frameDurationMs.toInt ≤ config.outputSampleRate.toInt) :
    Divides config := by
  obtain ⟨hq, -⟩ := framesPerSecond_bounds hlow hduration
  exact ⟨by omega, by omega, by omega⟩

/-- A size of 16-bit samples without alignment is positive exactly when it
fits. -/
theorem unalignedSize_pos_iff {av : LibAv ρ α} (hsizes : av.SizeLaws) (channels samples : Int) :
    0 < av.samplesGetBufferSize channels samples kOutputSampleFormat 1 ↔
      0 < channels ∧ 0 < samples ∧ channels * samples * 2 ≤ 2147483647 - channels := by
  show _ ↔ SizeFits channels samples kOutputSampleFormat 1
  constructor
  · intro hpos
    exact (hsizes.nonneg_iff (.inr rfl)).mp (Int.le_of_lt hpos)
  · intro hfits
    rw [hsizes.fits _ _ _ _ (.inr rfl) hfits]
    exact Int.mul_pos (Int.mul_pos hfits.1 hfits.2.1) (by decide)

/-- The sources of the configuration can be made, each by itself. -/
def SourcesAdded (P : Platform σ ρ α γ) (config : MixerConfig) (uninit : Nat → Int16) : Prop :=
  Passes P (AudioMixer.started P config uninit) config.sources

/-- A source of the configuration is refused by a check, and all before it
can be made. -/
def SourcesRejected (P : Platform σ ρ α γ) (config : MixerConfig) (uninit : Nat → Int16) : Prop :=
  ∃ before source after fault, config.sources = before ++ source :: after ∧
    Passes P (AudioMixer.started P config uninit) before ∧
    (AudioMixer.started P config uninit).makeSource P source uninit = .error fault ∧
    fault.isCheck = true

theorem addAll_append (before after : List MixerSource) :
    AudioMixer.addAll P uninit m (before ++ after)
      = (AudioMixer.addAll P uninit m before >>= fun m' =>
          AudioMixer.addAll P uninit m' after) := by
  induction before generalizing m with
  | nil => rfl
  | cons source rest ih =>
      simp only [List.cons_append, AudioMixer.addAll, ih, bind_assoc]

/-- The first source that cannot be made ends the loop with its fault. -/
theorem addAll_of_refused {before after : List MixerSource} {source : MixerSource} {fault : Fault}
    (hm : WellFormed P m) (hbefore : Passes P m before)
    (hrefused : m.makeSource P source uninit = .error fault) :
    AudioMixer.addAll P uninit m (before ++ source :: after) = .error fault := by
  obtain ⟨m₁, hadd⟩ := addAll_returns uninit hm hbefore
  obtain ⟨-, hnumbers, -⟩ := addAll_wellFormed hm hadd
  have hrefused₁ : m₁.makeSource P source uninit = .error fault := by
    rw [makeSource_congr hnumbers]
    exact hrefused
  rw [addAll_append, hadd]
  simp only [AudioMixer.addAll, AudioMixer.doAddSource, hrefused₁, bind, Except.bind]

/-- Some sources can all be made, or there is a first that cannot. -/
theorem passes_or_refused (P : Platform σ ρ α γ) (m : AudioMixer σ ρ α γ)
    (uninit : Nat → Int16) (sources : List MixerSource) :
    Passes P m sources ∨
      ∃ before source after fault, sources = before ++ source :: after ∧ Passes P m before ∧
        m.makeSource P source uninit = .error fault := by
  induction sources with
  | nil => exact .inl (by simp [Passes])
  | cons source rest ih =>
      cases hmake : m.makeSource P source uninit with
      | error fault => exact .inr ⟨[], source, rest, fault, rfl, by simp [Passes], hmake⟩
      | ok object =>
          have hcons : ∀ sources, Passes P m sources → Passes P m (source :: sources) := by
            intro sources hpass s hs
            rcases List.mem_cons.mp hs with rfl | hs
            · exact ⟨uninit, object, hmake⟩
            · exact hpass s hs
          rcases ih with hpass | ⟨before, refused, after, fault, rfl, hbefore, hrefused⟩
          · exact .inl (hcons rest hpass)
          · exact .inr ⟨source :: before, refused, after, fault, rfl, hcons before hbefore,
              hrefused⟩

theorem sources_of_addAll_ok
    (h : AudioMixer.addAll P uninit (AudioMixer.started P config uninit) config.sources = .ok m) :
    SourcesAdded P config uninit ∧ ¬ SourcesRejected P config uninit := by
  have hm : WellFormed P (AudioMixer.started P config uninit) :=
    wellFormed_bare P config _ _ uninit
  have hnone : ∀ before source after fault, config.sources = before ++ source :: after →
      Passes P (AudioMixer.started P config uninit) before →
      (AudioMixer.started P config uninit).makeSource P source uninit ≠ .error fault := by
    intro before source after fault hsources hbefore hrefused
    rw [hsources, addAll_of_refused hm hbefore hrefused] at h
    cases h
  refine ⟨?_, fun hrejected => ?_⟩
  · rcases passes_or_refused P (AudioMixer.started P config uninit) uninit config.sources with
      hpass | ⟨before, source, after, fault, hsources, hbefore, hrefused⟩
    · exact hpass
    · exact absurd hrefused (hnone before source after fault hsources hbefore)
  · obtain ⟨before, source, after, fault, hsources, hbefore, hrefused, -⟩ := hrejected
    exact hnone before source after fault hsources hbefore hrefused

theorem sources_of_addAll_error {fault : Fault}
    (h : AudioMixer.addAll P uninit (AudioMixer.started P config uninit) config.sources
      = .error fault) :
    ¬ SourcesAdded P config uninit ∧ (SourcesRejected P config uninit ↔ fault.isCheck = true) := by
  have hm : WellFormed P (AudioMixer.started P config uninit) :=
    wellFormed_bare P config _ _ uninit
  have hnot : ¬ SourcesAdded P config uninit := by
    intro hpass
    obtain ⟨m', hadd⟩ := addAll_returns uninit hm hpass
    exact absurd (h.symm.trans hadd) (by simp)
  refine ⟨hnot, fun hrejected => ?_, fun hcheck => ?_⟩
  · obtain ⟨before, source, after, fault', hsources, hbefore, hrefused, hcheck⟩ := hrejected
    rw [hsources, addAll_of_refused hm hbefore hrefused] at h
    cases h
    exact hcheck
  · rcases passes_or_refused P (AudioMixer.started P config uninit) uninit config.sources with
      hpass | ⟨before, source, after, fault', hsources, hbefore, hrefused⟩
    · exact absurd hpass hnot
    · rw [hsources, addAll_of_refused hm hbefore hrefused] at h
      cases h
      exact ⟨before, source, after, fault, hsources, hbefore, hrefused, hcheck⟩

/-- A constructor that ends, and by no check, is right exactly if the
sample counts are positive. -/
theorem rejectsOrServes_of_error {fault : Fault} (hduration : config.frameDurationMs.toInt ≤ 10)
    (hcreate : AudioMixer.create P config uninit = .error fault)
    (hcheck : fault.isCheck = false) :
    RejectsOrServes P config uninit ↔
      1 ≤ config.frameDurationMs.toInt ∧
        (1000 : Int).tdiv config.frameDurationMs.toInt ≤ config.outputSampleRate.toInt := by
  rw [← sampleCounts_pos_iff hduration]
  constructor
  · intro h
    rcases h with ⟨fault', hcreate', hcheck'⟩ | ⟨_, _, hreport, hreal, _⟩
    · rw [hcreate] at hcreate'
      cases hcreate'
      rw [hcheck] at hcheck'
      cases hcheck'
    · exact ⟨hreport, hreal⟩
  · intro h
    obtain ⟨hlow, hle⟩ := (sampleCounts_pos_iff hduration).mp h
    have hdivides := divides_of_pos hduration hlow hle
    refine .inr ⟨hdivides.duration, hdivides.framesPerSecond, h.1, h.2, ?_⟩
    intro m₀ ops m replies hok
    rw [hcreate] at hok
    cases hok

/-- A constructor that returns is right exactly if the sample counts are
positive and the size fits. -/
theorem rejectsOrServes_of_ok (hsizes : P.av.SizeLaws)
    (hduration : config.frameDurationMs.toInt ≤ 10)
    (hcreate : AudioMixer.create P config uninit = .ok m) :
    RejectsOrServes P config uninit ↔
      1 ≤ config.frameDurationMs.toInt ∧
      (1000 : Int).tdiv config.frameDurationMs.toInt ≤ config.outputSampleRate.toInt ∧
      1 ≤ config.outputChannelNum.toInt ∧
      config.outputChannelNum.toInt * (Numbers.ofConfig config).realOutputSamples * 2
        ≤ 2147483647 - config.outputChannelNum.toInt := by
  have hpos := unalignedSize_pos_iff hsizes config.outputChannelNum.toInt
    (Numbers.ofConfig config).realOutputSamples
  constructor
  · intro h
    rcases h with ⟨fault, herror, _⟩ | ⟨_, _, hreport, hreal, hmix⟩
    · rw [hcreate] at herror
      cases herror
    · obtain ⟨hlow, hle⟩ := (sampleCounts_pos_iff hduration).mp ⟨hreport, hreal⟩
      have hsize := hmix m [] m [] hcreate rfl
      rw [mixSize_of_numbers (create_spec hcreate).2.1, hpos] at hsize
      exact ⟨hlow, hle, hsize.1, hsize.2.2⟩
  · intro h
    obtain ⟨hlow, hle, hchannels, hfits⟩ := h
    have hdivides := divides_of_pos hduration hlow hle
    obtain ⟨hreport, hreal⟩ := (sampleCounts_pos_iff hduration).mpr ⟨hlow, hle⟩
    refine .inr ⟨hdivides.duration, hdivides.framesPerSecond, hreport, hreal, ?_⟩
    intro m₀ ops m' replies hcreate' hrun
    rw [mixSize_of_numbers (run_numbers hcreate' hrun).2, hpos]
    exact ⟨hchannels, hreal, hfits⟩

/-- **When a configuration is rejected or served**: exactly when the
duration is above 10 ms; or the divisions have values and a check refuses
one of the sources; or they have, the sources can be added, and the 10 ms
frame is too long; or the duration is positive and divides a second
into no more parts than it has samples, and, if the sources can be added,
there is a channel and the size is an `int`. -/
theorem rejects_or_serves_iff (P : Platform σ ρ α γ) (hsizes : P.av.SizeLaws)
    (config : MixerConfig) (uninit : Nat → Int16) :
    RejectsOrServes P config uninit ↔
      10 < config.frameDurationMs.toInt ∨
      (Divides config ∧ SourcesRejected P config uninit) ∨
      (Divides config ∧ SourcesAdded P config uninit ∧
        kMaxDataSizeSamples < config.frameLength P.abi) ∨
      (1 ≤ config.frameDurationMs.toInt ∧
        (1000 : Int).tdiv config.frameDurationMs.toInt ≤ config.outputSampleRate.toInt ∧
        (SourcesAdded P config uninit →
          1 ≤ config.outputChannelNum.toInt ∧
          config.outputChannelNum.toInt * (Numbers.ofConfig config).realOutputSamples * 2
            ≤ 2147483647 - config.outputChannelNum.toInt)) := by
  by_cases hlong : 10 < config.frameDurationMs.toInt
  · simp only [hlong, true_or, iff_true]
    exact .inl ⟨_, create_of_long hlong, rfl⟩
  have hduration : config.frameDurationMs.toInt ≤ 10 := by omega
  simp only [hlong, false_or]
  by_cases hdivides : Divides config
  · cases hadd : AudioMixer.addAll P uninit (AudioMixer.started P config uninit)
        config.sources with
    | error fault =>
        have hcreate := create_of_addAll_error hduration hdivides hadd
        obtain ⟨hnot, hrejected⟩ := sources_of_addAll_error hadd
        cases hcheck : fault.isCheck with
        | true =>
            simp only [hdivides, hrejected.mpr hcheck, and_self, true_or, iff_true]
            exact .inl ⟨fault, hcreate, hcheck⟩
        | false =>
            rw [rejectsOrServes_of_error hduration hcreate hcheck]
            simp [hnot, hrejected, hcheck]
    | ok m =>
        obtain ⟨hadded, hrejected⟩ := sources_of_addAll_ok hadd
        obtain ⟨hfits, htoo⟩ := create_of_addAll_ok hduration hdivides hadd
        by_cases hframe : kMaxDataSizeSamples < config.frameLength P.abi
        · simp only [hdivides, hadded, hframe, and_self, true_or, or_true, iff_true]
          exact .inl ⟨_, htoo hframe, rfl⟩
        · obtain ⟨m₀, hcreate⟩ := hfits (Nat.not_lt.mp hframe)
          rw [rejectsOrServes_of_ok hsizes hduration hcreate]
          simp [hadded, hrejected, hframe]
  · -- no value for a division: the constructor ends, and the counts are not positive
    obtain ⟨fault, hcreate, hcheck⟩ := create_of_not_divides P uninit hduration hdivides
    rw [rejectsOrServes_of_error hduration hcreate hcheck]
    simp only [hdivides, false_and, false_or]
    constructor
    · intro h
      exact absurd (divides_of_pos hduration h.1 h.2) hdivides
    · intro h
      exact ⟨h.1, h.2.1⟩

/-! ## The size fits the buffers -/

/-- In all states of the mixer `Mix` obtains the same size, and if that is
no error it is the size of the real samples, lies in the part of the mixed
frame that holds the mix, and fits the buffers of the wrappers. -/
def FitsBuffers (P : Platform σ ρ α γ) (m₀ : AudioMixer σ ρ α γ) : Prop :=
  ∃ size, ∀ ops m replies, (mixerMachine P).run m₀ ops = .ok (m, replies) →
    m.mixSize P = size ∧
    (0 ≤ size → size = m.outputChannelNum.toInt * m.realOutputSamples * 2 ∧
      size ≤ m.outputChannelNum.toInt * m.reportOutputSamples * 2 ∧ size ≤ maxBufSize)

/-- A frame of a positive length that does not wrap has its length. -/
theorem frameLength_of_pos {abi : Abi} (hrate : 0 < config.outputSampleRate.toInt)
    (hchannels : 0 < config.outputChannelNum.toInt)
    (hwrap : config.outputChannelNum.toInt * (Numbers.ofConfig config).reportOutputSamples
      < abi.sizeModulus) :
    (config.frameLength abi : Int)
      = config.outputChannelNum.toInt * (Numbers.ofConfig config).reportOutputSamples := by
  have hreport : 0 ≤ (Numbers.ofConfig config).reportOutputSamples :=
    Int.tdiv_nonneg (Int.le_of_lt hrate) (by decide)
  have hnonneg := Int.mul_nonneg (Int.le_of_lt hchannels) hreport
  rw [MixerConfig.frameLength, toSizeT_mul,
    Int.mul_comm (Numbers.ofConfig config).reportOutputSamples, toSizeT,
    Int.emod_eq_of_lt hnonneg hwrap, Int.toNat_of_nonneg hnonneg]

/-- A frame of at most 10 ms is at least a nineteenth of the 10 ms. -/
theorem report_le_real (hrate : 0 < config.outputSampleRate.toInt)
    (hduration : config.frameDurationMs.toInt ≤ 10)
    (hreal : 0 < (Numbers.ofConfig config).realOutputSamples) :
    (Numbers.ofConfig config).realOutputSamples ≤ (Numbers.ofConfig config).reportOutputSamples ∧
      (Numbers.ofConfig config).reportOutputSamples
        ≤ 19 * (Numbers.ofConfig config).realOutputSamples := by
  have hq : 0 < (1000 : Int).tdiv config.frameDurationMs.toInt := by
    by_contra hneg
    have hnonpos : (Numbers.ofConfig config).realOutputSamples ≤ 0 :=
      Int.tdiv_nonpos_of_nonneg_of_nonpos (Int.le_of_lt hrate) (Int.not_lt.mp hneg)
    omega
  have hlow : 1 ≤ config.frameDurationMs.toInt := by
    by_contra hneg
    have hnonpos := Int.tdiv_nonpos_of_nonneg_of_nonpos (show (0 : Int) ≤ 1000 by decide)
      (show config.frameDurationMs.toInt ≤ 0 by omega)
    omega
  obtain ⟨hhundred, hthousand⟩ := framesPerSecond_bounds hlow hduration
  have hupper : (Numbers.ofConfig config).realOutputSamples
      ≤ config.outputSampleRate.toInt.tdiv 100 :=
    tdiv_le_tdiv_of_le (Int.le_of_lt hrate) (by decide) hhundred
  have hlower : config.outputSampleRate.toInt.tdiv 1000
      ≤ (Numbers.ofConfig config).realOutputSamples :=
    tdiv_le_tdiv_of_le (Int.le_of_lt hrate) hq hthousand
  have hreport : (Numbers.ofConfig config).reportOutputSamples
      = config.outputSampleRate.toInt / 100 :=
    Int.tdiv_eq_ediv_of_nonneg (Int.le_of_lt hrate)
  rw [Int.tdiv_eq_ediv_of_nonneg (Int.le_of_lt hrate)] at hlower hupper
  omega

/-- **When the mix fits its buffers**: for every configuration with a
positive rate that the constructor accepts, exactly when there is no
channel or no sample, or the `size_t` product of the 10 ms frame does not
wrap, or the size is no `int` and `Mix` obtains an error. -/
theorem mix_fits_iff (P : Platform σ ρ α γ) (hsizes : P.av.SizeLaws) (config : MixerConfig)
    (uninit : Nat → Int16) (m₀ : AudioMixer σ ρ α γ)
    (hrate : 0 < config.outputSampleRate.toInt)
    (hcreate : AudioMixer.create P config uninit = .ok m₀) :
    FitsBuffers P m₀ ↔
      config.outputChannelNum.toInt ≤ 0 ∨ (Numbers.ofConfig config).realOutputSamples ≤ 0 ∨
      config.outputChannelNum.toInt * (Numbers.ofConfig config).reportOutputSamples
        < P.abi.sizeModulus ∨
      2147483647 - config.outputChannelNum.toInt
        < config.outputChannelNum.toInt * (Numbers.ofConfig config).realOutputSamples * 2 := by
  obtain ⟨-, hnumbers, haccepted, -⟩ := create_spec hcreate
  have hframe : config.frameLength P.abi ≤ 3840 := haccepted.frameFits
  constructor
  · intro hfits
    by_contra hnot
    simp only [not_or, Int.not_le, Int.not_lt] at hnot
    obtain ⟨hchannels, hreal, hwrap, hsize⟩ := hnot
    obtain ⟨size, hstates⟩ := hfits
    obtain ⟨hsame, hbounds⟩ := hstates [] m₀ [] rfl
    have hfits' : SizeFits config.outputChannelNum.toInt
        (Numbers.ofConfig config).realOutputSamples kOutputSampleFormat 1 :=
      ⟨hchannels, hreal, hsize⟩
    rw [mixSize_of_numbers hnumbers, hsizes.fits _ _ _ _ (.inr rfl) hfits'] at hsame
    have hformula : config.outputChannelNum.toInt
        * (Numbers.ofConfig config).realOutputSamples * 2 = size := hsame
    have hproduct := Int.mul_pos hchannels hreal
    have hsmall : size ≤ 7680 := (hbounds (by omega)).2.2
    -- the real samples are a nineteenth of the product that wrapped
    obtain ⟨-, hreport⟩ := report_le_real hrate haccepted.duration hreal
    have hle := Int.mul_le_mul_of_nonneg_left hreport (Int.le_of_lt hchannels)
    rw [Int.mul_left_comm] at hle
    have hmodulus : (4294967296 : Int) ≤ P.abi.sizeModulus := by
      cases P.abi <;> decide
    omega
  · intro hcondition
    refine ⟨m₀.mixSize P, fun ops m replies hrun => ?_⟩
    have hm : m.numbers = Numbers.ofConfig config := (run_numbers hcreate hrun).2
    have hchannelsEq : m.outputChannelNum = config.outputChannelNum :=
      congrArg Numbers.outputChannelNum hm
    have hrealEq : m.realOutputSamples = (Numbers.ofConfig config).realOutputSamples :=
      congrArg Numbers.realOutputSamples hm
    have hreportEq : m.reportOutputSamples = (Numbers.ofConfig config).reportOutputSamples :=
      congrArg Numbers.reportOutputSamples hm
    rw [hchannelsEq, hrealEq, hreportEq, mixSize_of_numbers hm, mixSize_of_numbers hnumbers]
    refine ⟨rfl, fun hnonneg => ?_⟩
    have hfits := (hsizes.nonneg_iff (.inr rfl)).mp hnonneg
    rw [hsizes.fits _ _ _ _ (.inr rfl) hfits]
    obtain ⟨hchannels, hreal, hint⟩ := hfits
    change config.outputChannelNum.toInt * (Numbers.ofConfig config).realOutputSamples * 2
      ≤ 2147483647 - config.outputChannelNum.toInt at hint
    have hwrap : config.outputChannelNum.toInt * (Numbers.ofConfig config).reportOutputSamples
        < P.abi.sizeModulus := by omega
    have hlength := frameLength_of_pos hrate hchannels hwrap
    obtain ⟨hreport, -⟩ := report_le_real hrate haccepted.duration hreal
    have hle := Int.mul_le_mul_of_nonneg_left hreport (Int.le_of_lt hchannels)
    show config.outputChannelNum.toInt * (Numbers.ofConfig config).realOutputSamples * 2 = _ ∧
      config.outputChannelNum.toInt * (Numbers.ofConfig config).realOutputSamples * 2 ≤ _ ∧
      config.outputChannelNum.toInt * (Numbers.ofConfig config).realOutputSamples * 2 ≤ 7680
    omega

end Sizes

/-! ### Configurations -/

/-- `smallPlatform` with the library that copies, for either data model. -/
def copyingPlatform (abi : Abi) : Platform Slot SwrOptions UInt8 Unit where
  abi := abi
  av := copyingAv
  files := smallPlatform.files
  scaleWithSat := smallPlatform.scaleWithSat
  webrtc := smallPlatform.webrtc
  fuel := 9

/-- A configuration without sources. -/
def plainConfig (outputSampleRate outputChannelNum frameDurationMs : Int32) : MixerConfig where
  sources := []
  outputSampleRate := outputSampleRate
  outputChannelNum := outputChannelNum
  frameDurationMs := frameDurationMs

/-- A duration of zero is divided by; and without channels `Mix` obtains
`AVERROR(EINVAL)` for the length of its copy. -/
theorem constructor_accepts_unservable :
    AudioMixer.create (copyingPlatform .lp64) (plainConfig 48000 2 0) (fun _ => 0)
        = .error .divisionByZero ∧
      ¬ RejectsOrServes (copyingPlatform .lp64) (plainConfig 48000 2 0) (fun _ => 0) ∧
      (∃ m, AudioMixer.create (copyingPlatform .lp64) (plainConfig 48000 0 10) (fun _ => 0)
          = .ok m ∧ m.mixSize (copyingPlatform .lp64) = -22) ∧
      ¬ RejectsOrServes (copyingPlatform .lp64) (plainConfig 48000 0 10) (fun _ => 0) := by
  have hzero : AudioMixer.create (copyingPlatform .lp64) (plainConfig 48000 2 0) (fun _ => 0)
      = .error .divisionByZero := rfl
  obtain ⟨m, hm, hsize⟩ : ∃ m, AudioMixer.create (copyingPlatform .lp64) (plainConfig 48000 0 10)
      (fun _ => 0) = .ok m ∧ m.mixSize (copyingPlatform .lp64) = -22 := ⟨_, rfl, rfl⟩
  refine ⟨hzero, ?_, ⟨m, hm, hsize⟩, ?_⟩
  · intro h
    rcases h with ⟨fault, hcreate, hcheck⟩ | ⟨hduration, _⟩
    · rw [hzero] at hcreate
      cases hcreate
      cases hcheck
    · exact hduration rfl
  · intro h
    rcases h with ⟨fault, hcreate, hcheck⟩ | ⟨_, _, _, _, hmix⟩
    · rw [hm] at hcreate
      cases hcreate
    · have hpos := hmix m [] m [] hm rfl
      rw [hsize] at hpos
      exact absurd hpos (by decide)

theorem rejects_or_serves_stereo48k :
    RejectsOrServes (copyingPlatform .lp64) (plainConfig 48000 2 10) (fun _ => 0) ∧
      ∃ m, AudioMixer.create (copyingPlatform .lp64) (plainConfig 48000 2 10) (fun _ => 0)
        = .ok m := by
  refine ⟨?_, _, rfl⟩
  exact (rejects_or_serves_iff (copyingPlatform .lp64) copyingAv_sizeLaws (plainConfig 48000 2 10)
    (fun _ => 0)).mpr (.inr (.inr (.inr ⟨by decide, by decide, fun _ => by decide⟩)))

/-- On a 32-bit platform the product of 32 samples and 2^27 channels is
zero; the check passes, and `Mix` copies 805306368 bytes. -/
theorem mix_overruns_when_product_wraps :
    ∃ m₀, AudioMixer.create (copyingPlatform .ilp32) (plainConfig 3200 134217728 1) (fun _ => 0)
        = .ok m₀ ∧
      (plainConfig 3200 134217728 1).frameLength .ilp32 = 0 ∧
      m₀.mixSize (copyingPlatform .ilp32) = 805306368 ∧
      ¬ FitsBuffers (copyingPlatform .ilp32) m₀ := by
  obtain ⟨m₀, hm₀, hsize⟩ : ∃ m₀, AudioMixer.create (copyingPlatform .ilp32)
      (plainConfig 3200 134217728 1) (fun _ => 0) = .ok m₀ ∧
        m₀.mixSize (copyingPlatform .ilp32) = 805306368 := ⟨_, rfl, rfl⟩
  refine ⟨m₀, hm₀, by decide, hsize, ?_⟩
  intro hfits
  obtain ⟨size, hstates⟩ := hfits
  obtain ⟨hsame, hbounds⟩ := hstates [] m₀ [] rfl
  rw [hsize] at hsame
  subst hsame
  exact absurd (hbounds (by decide)).2.2 (by decide)

theorem mix_fits_stereo48k :
    ∃ m₀, AudioMixer.create (copyingPlatform .ilp32) (plainConfig 48000 2 10) (fun _ => 0)
        = .ok m₀ ∧ FitsBuffers (copyingPlatform .ilp32) m₀ ∧
      m₀.mixSize (copyingPlatform .ilp32) = 1920 := by
  obtain ⟨m₀, hm₀, hsize⟩ : ∃ m₀, AudioMixer.create (copyingPlatform .ilp32)
      (plainConfig 48000 2 10) (fun _ => 0) = .ok m₀ ∧
        m₀.mixSize (copyingPlatform .ilp32) = 1920 := ⟨_, rfl, rfl⟩
  refine ⟨m₀, hm₀, ?_, hsize⟩
  exact (mix_fits_iff (copyingPlatform .ilp32) copyingAv_sizeLaws (plainConfig 48000 2 10)
    (fun _ => 0) m₀ (by decide) hm₀).mpr (.inr (.inr (.inl (by decide))))

end L4AudioMixer.Mixer
