/-
L4AudioMixer.Mixer.RateTheorems — the rates of a mixer: at which rate its
sources are asked, and how much of each file a call takes.

WebRTC mixes at one of four native rates. Every source of a mixer prefers
`output_sample_rate_`, and answers `kError` when it is asked at any other
rate; the constructor accepts every rate. `mix_rate_iff_native` says when
the two agree, and `mix_kError_of_not_native` what `Mix` gets when they do
not.

A file source takes `input_sample_rate / (1000 / d)` samples for each
call and the mixer gives out `output_sample_rate_ / (1000 / d)`; both
divisions round. `lockstep_iff` says when both are the same time.
-/
import Mathlib.Tactic.NormNum
import Mathlib.Tactic.Ring
import Mathlib.Data.Rat.Defs
import Mathlib.Algebra.Order.Field.Rat
import L4AudioMixer.Mixer.RegistryTheorems

namespace L4AudioMixer.Mixer

open L4AudioMixer.Lib
open L4AudioMixer.Libav
open L4AudioMixer.WebRtc
open L4AudioMixer.Source
open L4AudioMixer.Decoder (Slot slotFile)

variable {σ ρ α γ : Type} {P : Platform σ ρ α γ} {m : AudioMixer σ ρ α γ}

/-! ## The mixing rate -/

/-- The rate with which `GetAudioFrameWithInfo` compares its argument. -/
def AudioSource.checkedRate : AudioSource σ ρ α → Int
  | .file s => s.outputSampleRate
  | .record s => s.sampleRate

/-- Asked at another rate, a source of either kind answers `kError`. -/
theorem kError_of_rate_ne {source : AudioSource σ ρ α} {hz : Int} {frame : AudioFrame}
    {uninit : Nat → Int16} (h : hz ≠ source.checkedRate) :
    source.getAudioFrameWithInfo P hz frame uninit = .ok (.kError, frame, source) := by
  cases source with
  | file s =>
      have hne : hz ≠ s.outputSampleRate := h
      simp only [AudioSource.getAudioFrameWithInfo, AudioFileSource.getAudioFrameWithInfo,
        if_pos hne]
      rfl
  | record s =>
      have hne : hz ≠ s.sampleRate := h
      simp only [AudioSource.getAudioFrameWithInfo, AudioRecordSource.getAudioFrameWithInfo,
        AudioRecordSource.takeFrame, if_pos hne]
      rfl

/-- Every source prefers, and compares with, the output rate. -/
theorem rate_of_builtFor {c : Numbers} {source : AudioSource σ ρ α} (h : BuiltFor P c source) :
    source.preferredSampleRate = c.outputSampleRate.toInt ∧
      source.checkedRate = c.outputSampleRate.toInt := by
  cases source with
  | file s =>
      obtain ⟨path, hs⟩ := h
      exact ⟨hs.outputSampleRate, hs.outputSampleRate⟩
  | record s => exact ⟨BuiltRecord.sampleRate h, BuiltRecord.sampleRate h⟩

/-- The rates WebRTC collects are all the output rate. -/
theorem preferredRates_eq {heap : Heap (AudioSource σ ρ α)} {list : List SourceStatus}
    {rates : List Int} {rate : Int}
    (hbuilt : ∀ p source, heap.get? p = some source → source.preferredSampleRate = rate)
    (h : AudioMixer.preferredRates heap list = .ok rates) :
    rates.length = list.length ∧ ∀ r ∈ rates, r = rate := by
  induction list generalizing rates with
  | nil =>
      cases h
      simp
  | cons status rest ih =>
      simp only [AudioMixer.preferredRates] at h
      split at h
      · cases h
      · rename_i source hsource
        simp only [bind_eq_ok] at h
        obtain ⟨rates', hrates', hret⟩ := h
        cases hret
        obtain ⟨hlen, hall⟩ := ih hrates'
        refine ⟨by simp [hlen], ?_⟩
        intro r hr
        rcases List.mem_cons.mp hr with rfl | hr
        · exact hbuilt _ source hsource
        · exact hall r hr

/-- Some sources that all prefer one rate are mixed at it exactly when it
is a native rate. -/
theorem defaultOutputRate_eq_iff {rates : List Int} {rate : Int} (hne : rates ≠ [])
    (hall : ∀ r ∈ rates, r = rate) : defaultOutputRate rates = rate ↔ rate ∈ nativeRates := by
  have hle : ∀ native : Int, rates.all (· ≤ native) = decide (rate ≤ native) := by
    intro native
    rw [Bool.eq_iff_iff, List.all_eq_true, decide_eq_true_eq]
    constructor
    · intro h
      obtain ⟨r, hr⟩ := List.exists_mem_of_ne_nil rates hne
      have hr' := h r hr
      rw [hall r hr, decide_eq_true_eq] at hr'
      exact hr'
    · intro h r hr
      rw [hall r hr, decide_eq_true_eq]
      exact h
  simp only [defaultOutputRate, if_neg hne, nativeRates, List.find?_cons, List.find?_nil, hle,
    List.mem_cons, List.not_mem_nil, or_false]
  by_cases h₁ : rate ≤ 8000
  · simp only [h₁, decide_true, Option.getD_some]
    omega
  · by_cases h₂ : rate ≤ 16000
    · simp only [h₁, h₂, decide_true, decide_false, Option.getD_some]
      omega
    · by_cases h₃ : rate ≤ 32000
      · simp only [h₁, h₂, h₃, decide_true, decide_false, Option.getD_some]
        omega
      · by_cases h₄ : rate ≤ 48000
        · simp only [h₁, h₂, h₃, h₄, decide_true, decide_false, Option.getD_some]
          omega
        · simp only [h₁, h₂, h₃, h₄, decide_false, Option.getD_none]
          omega

/-- Sources that compare with another rate all answer `kError`. -/
theorem askSources_kError {hz : Int} {uninit : Nat → Int16} {heap heap' : Heap (AudioSource σ ρ α)}
    {list : List SourceStatus} {asked : List Asked}
    (hne : ∀ p source, heap.get? p = some source → hz ≠ source.checkedRate)
    (h : AudioMixer.askSources P hz uninit heap list = .ok (heap', asked)) :
    ∀ a ∈ asked, a.info = .kError := by
  induction list generalizing heap asked with
  | nil =>
      cases h
      simp
  | cons status rest ih =>
      simp only [AudioMixer.askSources] at h
      split at h
      · cases h
      · rename_i source hsource
        have hsrc := hne _ source hsource
        rw [kError_of_rate_ne hsrc] at h
        simp only [bind_eq_ok] at h
        obtain ⟨⟨info, frame, source'⟩, hget, ⟨heap₁, asked₁⟩, hrest, hret⟩ := h
        cases hget
        cases hret
        have hlater := ih (fun p object hp => by
          rw [Heap.get?_modify] at hp
          split at hp
          · rename_i hptr
            rw [hptr, hsource] at hp
            cases hp
            exact hsrc
          · exact hne p object hp) hrest
        intro a ha
        rcases List.mem_cons.mp ha with rfl | ha
        · rfl
        · exact hlater a ha

/-- **At a rate that is not native every source is left out**: whatever
`Mix` returns, each answer it got was `kError`. -/
theorem mix_kError_of_not_native {uninit : Nat → Int16} {m' : AudioMixer σ ρ α γ}
    {result : MixResult} (hlib : P.webrtc.calculateOutputRate = defaultOutputRate)
    (hm : WellFormed P m) (hrate : m.outputSampleRate.toInt ∉ nativeRates)
    (h : m.mix P uninit = .ok (m', result)) : ∀ a ∈ result.asked, a.info = .kError := by
  obtain ⟨rates, heap, hrates, hasked, -⟩ := mix_ok h
  obtain ⟨hlen, hall⟩ := preferredRates_eq
    (fun p source hp => (rate_of_builtFor (hm.built p source hp)).1) hrates
  by_cases hnil : rates = []
  · have hlist : m.registered = [] := by
      rw [hnil] at hlen
      exact List.length_eq_zero_iff.mp hlen.symm
    rw [hlist] at hasked
    simp only [AudioMixer.askSources, Except.ok.injEq, Prod.mk.injEq] at hasked
    rw [← hasked.2]
    simp
  · refine askSources_kError (fun p source hp heq => ?_) hasked
    rw [(rate_of_builtFor (hm.built p source hp)).2, hlib] at heq
    exact hrate ((defaultOutputRate_eq_iff hnil hall).mp heq)

/-- With the preferred rates `rates`, `Mix` asks every registered source
at the output rate, which is the rate the source answers at. -/
def MixedAtOwnRate (P : Platform σ ρ α γ) (m : AudioMixer σ ρ α γ) (rates : List Int) : Prop :=
  P.webrtc.calculateOutputRate rates = m.outputSampleRate.toInt ∧
  ∀ p ∈ m.pointers, ∀ source, m.heap.get? p = some source →
    source.checkedRate = P.webrtc.calculateOutputRate rates

/-- **A mixer is mixed at its own rate exactly when that is a native
rate**: in every reachable state with a registered source, whenever `Mix`
gets as far as a mixing rate. At any other rate all `Mix` is answered with
is `kError`. -/
theorem mix_rate_iff_native (P : Platform σ ρ α γ)
    (hlib : P.webrtc.calculateOutputRate = defaultOutputRate) (m : AudioMixer σ ρ α γ)
    (hm : Reachable P m) (hsome : m.registered ≠ []) (rates : List Int)
    (hrates : AudioMixer.preferredRates m.heap m.registered = .ok rates) :
    (MixedAtOwnRate P m rates ↔ m.outputSampleRate.toInt ∈ nativeRates) ∧
    (m.outputSampleRate.toInt ∉ nativeRates →
      ∀ uninit m' result, m.mix P uninit = .ok (m', result) →
        ∀ a ∈ result.asked, a.info = .kError) := by
  obtain ⟨hwell, -⟩ := reachable_wellFormed hm
  obtain ⟨hlen, hall⟩ := preferredRates_eq
    (fun p source hp => (rate_of_builtFor (hwell.built p source hp)).1) hrates
  have hne : rates ≠ [] := by
    intro hnil
    rw [hnil, List.length_nil] at hlen
    exact hsome (List.length_eq_zero_iff.mp hlen.symm)
  have hiff := defaultOutputRate_eq_iff hne hall
  rw [← hlib] at hiff
  refine ⟨⟨fun h => hiff.mp h.1, fun h => ?_⟩, ?_⟩
  · have hrate := hiff.mpr h
    refine ⟨hrate, fun p _ source hp => ?_⟩
    rw [hrate]
    exact (rate_of_builtFor (hwell.built p source hp)).2
  · intro hnot uninit m' result hmix
    exact mix_kError_of_not_native hlib hwell hnot hmix

/-- A mixer at a rate that is not native. -/
def mono44kConfig : MixerConfig where
  sources := [{ recordSource 7 with sampleRate := 44100 }]
  outputSampleRate := 44100
  outputChannelNum := 1
  frameDurationMs := 10

/-- At 44100 Hz WebRTC asks at 48000 Hz: the source has a full block, it
answers `kError`, and `Mix` returns the size of 10 ms of silence. -/
theorem mix_rate_44100 :
    ∃ m, Reachable smallPlatform m ∧ m.registered ≠ [] ∧
      AudioMixer.preferredRates m.heap m.registered = .ok [44100] ∧
      ¬ MixedAtOwnRate smallPlatform m [44100] ∧
      (m.mix smallPlatform (fun _ => 0)).map
          (fun out => (out.2.size, out.2.asked.map (fun a => a.info)))
        = .ok (882, [.kError]) := by
  obtain ⟨m₀, m, replies, hcreate, hrun, hrate, hsome, hrates, hmix⟩ :
      ∃ m₀ m replies, AudioMixer.create smallPlatform mono44kConfig (fun _ => 0) = .ok m₀ ∧
        (mixerMachine smallPlatform).run m₀
          [(MixerCall.addRecordedData 7 (fun _ => 1) 882).zeroed] = .ok (m, replies) ∧
        m.outputSampleRate.toInt = 44100 ∧ m.registered ≠ [] ∧
        AudioMixer.preferredRates m.heap m.registered = .ok [44100] ∧
        (m.mix smallPlatform (fun _ => 0)).map
            (fun out => (out.2.size, out.2.asked.map (fun a => a.info)))
          = .ok (882, [.kError]) :=
    ⟨_, _, _, rfl, rfl, rfl, List.cons_ne_nil _ _, rfl, rfl⟩
  refine ⟨m, ⟨_, _, m₀, _, replies, hcreate, hrun⟩, hsome, hrates, fun hown => ?_, hmix⟩
  have hasked : defaultOutputRate [44100] = m.outputSampleRate.toInt := hown.1
  rw [hrate] at hasked
  exact absurd hasked (by decide)

theorem mix_rate_iff_native_8000 :
    ∃ m rates, Reachable smallPlatform m ∧ m.registered ≠ [] ∧
      AudioMixer.preferredRates m.heap m.registered = .ok rates ∧
      MixedAtOwnRate smallPlatform m rates := by
  obtain ⟨m, hcreate, hrate, hsome, hrates⟩ :
      ∃ m, AudioMixer.create smallPlatform (mono8kConfig [recordSource 1]) (fun _ => 0) = .ok m ∧
        m.outputSampleRate.toInt = 8000 ∧ m.registered ≠ [] ∧
        AudioMixer.preferredRates m.heap m.registered = .ok [8000] :=
    ⟨_, rfl, rfl, List.cons_ne_nil _ _, rfl⟩
  have hreach : Reachable smallPlatform m := ⟨_, _, m, [], [], hcreate, rfl⟩
  refine ⟨m, [8000], hreach, hsome, hrates, ?_⟩
  exact (mix_rate_iff_native smallPlatform rfl m hreach hsome [8000] hrates).1.mpr
    (by rw [hrate]; decide)

/-! ## Media time -/

/-- The time that `n` blocks of `samples` samples at `rate` take. -/
def mediaTime (n : Nat) (samples rate : Int) : ℚ := n * samples / rate

/-- Blocks of `r / q` samples at `r` and of `out / q` samples at `out`
take the same time exactly when both divisions lose the same share. -/
theorem mediaTime_eq_iff {q r : Int} (out : Int) (hq : 0 < q) (hr : q ≤ r) :
    (∀ n, mediaTime n (r.tdiv q) r = mediaTime n (out.tdiv q) out) ↔
      out ≠ 0 ∧ r * out.tmod q = out * r.tmod q := by
  have hpos : 0 < r.tdiv q := tdiv_pos_of_le hq hr
  -- the two cross products differ by `q` times the two remainders' ones
  have hkey : r * out.tmod q - out * r.tmod q = q * (r.tdiv q * out - out.tdiv q * r) := by
    have hrem := Int.tmod_def r q
    have hrem' := Int.tmod_def out q
    rw [hrem, hrem']
    ring
  have hr₀ : (r : ℚ) ≠ 0 := by
    have : r ≠ 0 := by omega
    exact_mod_cast this
  constructor
  · intro h
    have hone := h 1
    simp only [mediaTime, Nat.cast_one, one_mul] at hone
    have hout : out ≠ 0 := by
      rintro rfl
      simp only [Int.cast_zero, div_zero, div_eq_zero_iff, Int.cast_eq_zero] at hone
      omega
    refine ⟨hout, ?_⟩
    have hout₀ : (out : ℚ) ≠ 0 := by exact_mod_cast hout
    rw [div_eq_div_iff hr₀ hout₀] at hone
    have hcross : r.tdiv q * out = out.tdiv q * r := by exact_mod_cast hone
    rw [hcross, sub_self, mul_zero] at hkey
    omega
  · rintro ⟨hout, hrem⟩ n
    have hout₀ : (out : ℚ) ≠ 0 := by exact_mod_cast hout
    rw [hrem, sub_self] at hkey
    have hzero : r.tdiv q * out - out.tdiv q * r = 0 := by
      rcases mul_eq_zero.mp hkey.symm with h | h
      · omega
      · exact h
    have hcross : ((r.tdiv q : Int) : ℚ) * out = ((out.tdiv q : Int) : ℚ) * r := by
      exact_mod_cast (by omega : r.tdiv q * out = out.tdiv q * r)
    simp only [mediaTime]
    rw [div_eq_div_iff hr₀ hout₀, mul_assoc, hcross, ← mul_assoc]

/-- **What `k` successful `Read` calls take from a file**: `k` times
`input_samples_` samples. -/
theorem length_handed_run {av : LibAv ρ α} {file : MediaFile σ α} {c : SourceSettings}
    {fuel k : Nat} {s s' : AudioFileSource σ ρ α} {replies : List (ReadResult α)}
    (hav : av.Documented) (hs : Built av file c s)
    (h : (readMachine av fuel).run s (List.replicate k ()) = .ok (s', replies))
    (hall : ∀ reply ∈ replies, reply.handed ≠ none) :
    ((replies.filterMap ReadResult.handed).flatten.length : Int) = k * s.inputSamples := by
  induction k generalizing s replies with
  | zero =>
      cases h
      simp
  | succ k ih =>
      obtain ⟨s₁, reply, rest, hread, hrest, rfl⟩ := Machine.of_run_cons h
      have hs₁ : Built av file c s₁ := hs.read hread
      have hsamples : s₁.inputSamples = s.inputSamples := by
        rw [hs₁.inputSamples, hs.inputSamples]
      obtain ⟨xs, hxs⟩ := Option.ne_none_iff_exists'.mp (hall reply (by simp))
      have hfirst := length_handed hav hs hread hxs
      have hlater := ih hs₁ hrest (fun r hr => hall r (by simp [hr]))
      rw [List.filterMap_cons_some hxs, List.flatten_cons, List.length_append, Nat.cast_add,
        hfirst, hlater, hsamples, Nat.cast_add, Nat.cast_one]
      ring

/-- Whenever some `Read` calls of a source, made one after the other, all
hand a block over, they take `input_samples_` samples each. -/
def ReadsTakeBlocks (P : Platform σ ρ α γ) (s : AudioFileSource σ ρ α) : Prop :=
  ∀ (k : Nat) (s' : AudioFileSource σ ρ α) (replies : List (ReadResult α)),
    (readMachine P.av P.fuel).run s (List.replicate k ()) = .ok (s', replies) →
    (∀ reply ∈ replies, reply.handed ≠ none) →
    ((replies.filterMap ReadResult.handed).flatten.length : Int) = k * s.inputSamples

/-- So does every file source of a mixer. -/
theorem readsTakeBlocks_of_stored {ssrc : Int32} {s : AudioFileSource σ ρ α}
    (hav : P.av.Documented) (hm : WellFormed P m) (h : m.stored ssrc = some (.file s)) :
    ReadsTakeBlocks P s := by
  obtain ⟨p, -, hp⟩ := WellFormed.stored_eq_some.mp h
  obtain ⟨path, hs⟩ := hm.built p _ hp
  intro k s' replies hrun hall
  exact length_handed_run hav hs hrun hall

/-- Two file sources stay in lockstep with each other and with the
output: `n` calls that read both take the same time from either file, and
it is the time they give out. -/
def InLockstep (m : AudioMixer σ ρ α γ) (s₁ s₂ : AudioFileSource σ ρ α) : Prop :=
  ∀ n, mediaTime n s₁.inputSamples s₁.inputSampleRate
      = mediaTime n s₂.inputSamples s₂.inputSampleRate ∧
    mediaTime n s₁.inputSamples s₁.inputSampleRate
      = mediaTime n m.realOutputSamples m.outputSampleRate.toInt ∧
    mediaTime n s₂.inputSamples s₂.inputSampleRate
      = mediaTime n m.realOutputSamples m.outputSampleRate.toInt

/-- The samples per block of a stored file source. -/
theorem inputSamples_of_stored {ssrc : Int32} {s : AudioFileSource σ ρ α} (hm : WellFormed P m)
    (h : m.stored ssrc = some (.file s)) :
    s.inputSamples = s.inputSampleRate.tdiv ((1000 : Int).tdiv m.frameDurationMs.toInt) := by
  obtain ⟨p, -, hp⟩ := WellFormed.stored_eq_some.mp h
  obtain ⟨path, hs⟩ := hm.built p _ hp
  rw [hs.inputSamples, hs.inputSampleRate]
  rfl

/-- **When file sources stay in lockstep.** In every reachable state of a
mixer whose frames last at least 1 ms, for every two file sources with at
least one sample for each frame: with `q = 1000 / frame_duration_ms`, the
times agree for every number of calls if and only if the output rate is
not zero and the remainders of the three rates by `q` are in proportion to
the rates. The samples counted are those that successful `Read` calls of
the two take. -/
theorem lockstep_iff (P : Platform σ ρ α γ) (m : AudioMixer σ ρ α γ) (hm : Reachable P m)
    (hd : 1 ≤ m.frameDurationMs.toInt) (k₁ k₂ : Int32) (s₁ s₂ : AudioFileSource σ ρ α)
    (h₁ : m.stored k₁ = some (.file s₁)) (h₂ : m.stored k₂ = some (.file s₂)) (q : Int)
    (hq : q = (1000 : Int).tdiv m.frameDurationMs.toInt)
    (hr₁ : q ≤ s₁.inputSampleRate) (hr₂ : q ≤ s₂.inputSampleRate) :
    (InLockstep m s₁ s₂ ↔
      m.outputSampleRate.toInt ≠ 0 ∧
      s₁.inputSampleRate * m.outputSampleRate.toInt.tmod q
        = m.outputSampleRate.toInt * s₁.inputSampleRate.tmod q ∧
      s₂.inputSampleRate * m.outputSampleRate.toInt.tmod q
        = m.outputSampleRate.toInt * s₂.inputSampleRate.tmod q) ∧
    (P.av.Documented → ReadsTakeBlocks P s₁ ∧ ReadsTakeBlocks P s₂) := by
  obtain ⟨hwell, config, haccepted, hnumbers⟩ := reachable_wellFormed hm
  have hduration : m.frameDurationMs = config.frameDurationMs :=
    congrArg Numbers.frameDurationMs hnumbers
  have hrate : m.outputSampleRate = config.outputSampleRate :=
    congrArg Numbers.outputSampleRate hnumbers
  have hreal : m.realOutputSamples = m.outputSampleRate.toInt.tdiv q := by
    rw [hq, hduration, hrate]
    exact congrArg Numbers.realOutputSamples hnumbers
  have hq₀ : 0 < q := by
    have hle := haccepted.duration
    rw [← hduration] at hle
    rw [hq]
    exact tdiv_pos_of_le (by omega) (by omega)
  have hs₁ : s₁.inputSamples = s₁.inputSampleRate.tdiv q := by
    rw [hq]
    exact inputSamples_of_stored hwell h₁
  have hs₂ : s₂.inputSamples = s₂.inputSampleRate.tdiv q := by
    rw [hq]
    exact inputSamples_of_stored hwell h₂
  have hiff₁ := mediaTime_eq_iff m.outputSampleRate.toInt hq₀ hr₁
  have hiff₂ := mediaTime_eq_iff m.outputSampleRate.toInt hq₀ hr₂
  rw [← hs₁, ← hreal] at hiff₁
  rw [← hs₂, ← hreal] at hiff₂
  refine ⟨⟨?_, ?_⟩, fun hav =>
    ⟨readsTakeBlocks_of_stored hav hwell h₁, readsTakeBlocks_of_stored hav hwell h₂⟩⟩
  · intro h
    obtain ⟨hout, hrem₁⟩ := hiff₁.mp fun n => (h n).2.1
    exact ⟨hout, hrem₁, (hiff₂.mp fun n => (h n).2.2).2⟩
  · rintro ⟨hout, hrem₁, hrem₂⟩ n
    have ht₁ := hiff₁.mpr ⟨hout, hrem₁⟩ n
    have ht₂ := hiff₂.mpr ⟨hout, hrem₂⟩ n
    exact ⟨ht₁.trans ht₂.symm, ht₁, ht₂⟩

/-- The small platform with files at three rates. -/
def threeRates : Platform Slot Unit UInt8 Unit :=
  { smallPlatform with
    files := fun path =>
      { slotFile [.packet ⟨0, List.replicate 80 5⟩] with
        sampleRate := if path = "22050" then 22050 else if path = "16000" then 16000 else 48000 } }

/-- A file source. -/
def fileSource (ssrc : Int32) (path : String) : MixerSource where
  type := MixerSource.typeFile
  ssrc := ssrc
  volume := 1
  path := path
  sampleRate := 0
  channelNum := 0

/-- A mixer at 48000 Hz with two files. -/
def twoFiles (path₁ path₂ : String) : MixerConfig where
  sources := [fileSource 1 path₁, fileSource 2 path₂]
  outputSampleRate := 48000
  outputChannelNum := 1
  frameDurationMs := 10

/-- A file at 22050 Hz has 220.5 samples for 10 ms, of which 220 are
taken; a file at 48000 Hz has 480. -/
theorem lockstep_fails_at_22050 :
    ∃ m s₁ s₂, Reachable threeRates m ∧ m.stored 1 = some (.file s₁) ∧
      m.stored 2 = some (.file s₂) ∧ s₁.inputSampleRate = 22050 ∧ s₁.inputSamples = 220 ∧
      s₂.inputSampleRate = 48000 ∧ s₂.inputSamples = 480 ∧ ¬ InLockstep m s₁ s₂ := by
  obtain ⟨m, s₁, s₂, hcreate, h₁, h₂, hr₁, hn₁, hr₂, hn₂⟩ :
      ∃ m s₁ s₂, AudioMixer.create threeRates (twoFiles "22050" "48000") (fun _ => 0) = .ok m ∧
        m.stored 1 = some (.file s₁) ∧ m.stored 2 = some (.file s₂) ∧
        s₁.inputSampleRate = 22050 ∧ s₁.inputSamples = 220 ∧
        s₂.inputSampleRate = 48000 ∧ s₂.inputSamples = 480 :=
    ⟨_, _, _, rfl, rfl, rfl, rfl, rfl, rfl, rfl⟩
  refine ⟨m, s₁, s₂, ⟨_, _, m, [], [], hcreate, rfl⟩, h₁, h₂, hr₁, hn₁, hr₂, hn₂, fun h => ?_⟩
  have htime := (h 1).1
  rw [hr₁, hn₁, hr₂, hn₂] at htime
  exact absurd htime (by norm_num [mediaTime])

/-- Files at 16000 Hz and 48000 Hz have whole numbers of samples. -/
theorem lockstep_iff_whole_samples :
    ∃ m s₁ s₂, Reachable threeRates m ∧ 1 ≤ m.frameDurationMs.toInt ∧
      m.stored 1 = some (.file s₁) ∧ m.stored 2 = some (.file s₂) ∧
      100 ≤ s₁.inputSampleRate ∧ 100 ≤ s₂.inputSampleRate ∧ InLockstep m s₁ s₂ ∧
      ReadsTakeBlocks threeRates s₁ ∧ ReadsTakeBlocks threeRates s₂ := by
  obtain ⟨m, s₁, s₂, hcreate, h₁, h₂, hr₁, hr₂, hrate, hd⟩ :
      ∃ m s₁ s₂, AudioMixer.create threeRates (twoFiles "16000" "48000") (fun _ => 0) = .ok m ∧
        m.stored 1 = some (.file s₁) ∧ m.stored 2 = some (.file s₂) ∧
        s₁.inputSampleRate = 16000 ∧ s₂.inputSampleRate = 48000 ∧
        m.outputSampleRate.toInt = 48000 ∧ m.frameDurationMs.toInt = 10 :=
    ⟨_, _, _, rfl, rfl, rfl, rfl, rfl, rfl, rfl⟩
  have hreach : Reachable threeRates m := ⟨_, _, m, [], [], hcreate, rfl⟩
  obtain ⟨hiff, hreads⟩ := lockstep_iff threeRates m hreach (by omega) 1 2 s₁ s₂ h₁ h₂ 100
    (by rw [hd]; rfl) (by omega) (by omega)
  have hlock : InLockstep m s₁ s₂ := by
    refine hiff.mpr ?_
    rw [hr₁, hr₂, hrate]
    decide
  exact ⟨m, s₁, s₂, hreach, by omega, h₁, h₂, by omega, by omega, hlock,
    hreads plainAv_documented⟩

end L4AudioMixer.Mixer
