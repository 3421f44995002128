/-
L4AudioMixer.Mixer.InstallTheorems — both ways of installing sources
agree.

The constructor stores all sources first and registers them from the map
afterwards; `AddSource` stores and registers one at a time. Either way a
source goes through `DoAddSource`: `InstallStep` is what that does to the
map and the objects, and `Installed` is a list of sources going through it
one after the other. Both ways are `Installed` runs, so what is stored is
described once (`installed_stored`: the first source of the list with an
ssrc wins) and compared once (`installed_same`).
-/
import L4AudioMixer.Mixer.Alike
import L4AudioMixer.Mixer.RecordedDataTheorems

namespace L4AudioMixer.Mixer

open L4AudioMixer.Lib
open L4AudioMixer.Libav
open L4AudioMixer.WebRtc
open L4AudioMixer.Source

variable {σ ρ α γ : Type} {P : Platform σ ρ α γ} {m m' a a' b b' : AudioMixer σ ρ α γ}

/-! ## Going through `DoAddSource` -/

/-- `DoAddSource` and the end of the pointer it returns, as far as the
map, the objects and the numbers go. -/
structure InstallStep (P : Platform σ ρ α γ) (m : AudioMixer σ ρ α γ) (source : MixerSource)
    (m' : AudioMixer σ ρ α γ) : Prop where
  numbers : m'.numbers = m.numbers
  stored : ∃ uninit object, m.makeSource P source uninit = .ok object ∧
    ((m.sources[source.ssrc]? = none ∧
        m'.sources = m.sources.insertIfNew source.ssrc m.heap.next ∧
        m'.heap = (m.heap.alloc object).2) ∨
      (m.sources[source.ssrc]? ≠ none ∧ m'.sources = m.sources ∧
        m'.heap = (m.heap.alloc object).2.free m.heap.next))

/-- A list of sources goes through `DoAddSource`. -/
inductive Installed (P : Platform σ ρ α γ) :
    AudioMixer σ ρ α γ → List MixerSource → AudioMixer σ ρ α γ → Prop where
  | nil (m : AudioMixer σ ρ α γ) : Installed P m [] m
  | cons {m m₁ m' : AudioMixer σ ρ α γ} {source : MixerSource} {rest : List MixerSource}
      (hstep : InstallStep P m source m₁) (hrest : Installed P m₁ rest m') :
      Installed P m (source :: rest) m'

theorem InstallStep.wellFormed {source : MixerSource} (hm : WellFormed P m)
    (h : InstallStep P m source m') : WellFormed P m' := by
  obtain ⟨hnumbers, uninit, object, hmake, hcase⟩ := h
  obtain ⟨hssrc, -, hbuilt⟩ := makeSource_ok hmake
  -- with the registration of `AddSource` added it is an effect
  have hregistered : WellFormed P { m' with
      registered := SourceStatus.add m.registered m.heap.next uninit } := by
    have hpointers := pointers_register m m.heap.next uninit
    rcases hcase with ⟨hnew, hsources, hheap⟩ | ⟨htaken, hsources, hheap⟩
    · exact hm.effect (.stored source object hnew hssrc hbuilt hsources hpointers hheap) hnumbers
    · exact hm.effect (.dangling source object htaken hsources hpointers hheap) hnumbers
  exact hregistered.congr rfl rfl rfl

theorem installStep_of_doAddSource {source : MixerSource} {uninit : Nat → Int16} {p : Ptr}
    (hm : WellFormed P m) (h : m.doAddSource P source uninit = .ok (m', p)) :
    InstallStep P m source (m'.release p) := by
  obtain ⟨object, hmake, rfl, ⟨hnew, hrel⟩ | ⟨htaken, hrel⟩⟩ := doAddSource_release hm h
  · rw [hrel]
    exact ⟨rfl, uninit, object, hmake, .inl ⟨hnew, rfl, rfl⟩⟩
  · rw [hrel]
    exact ⟨rfl, uninit, object, hmake, .inr ⟨htaken, rfl, rfl⟩⟩

/-! ## Both ways are `Installed` runs -/

/-- A list of sources that pass the checks of `DoAddSource`. -/
def Passes (P : Platform σ ρ α γ) (m : AudioMixer σ ρ α γ) (sources : List MixerSource) : Prop :=
  ∀ source ∈ sources, ∃ uninit object, m.makeSource P source uninit = .ok object

theorem Passes.congr {sources : List MixerSource} (h : Passes P m sources)
    (hnumbers : m'.numbers = m.numbers) : Passes P m' sources := by
  intro source hsource
  obtain ⟨uninit, object, hmake⟩ := h source hsource
  obtain ⟨object', hmake', -⟩ := alike_makeSource hnumbers hmake uninit
  exact ⟨uninit, object', hmake'⟩

theorem doAddSource_of_makeSource {source : MixerSource} {uninit : Nat → Int16}
    {object : AudioSource σ ρ α} (h : m.makeSource P source uninit = .ok object) :
    ∃ out, m.doAddSource P source uninit = .ok out := by
  simp only [AudioMixer.doAddSource, h, bind, Except.bind]
  exact ⟨_, rfl⟩

/-- **The first loop of the constructor returns** if every source can be
added to a mixer of `I`, and the mixer is one of `I` then. The platforms
differ in the bound of their loops. -/
theorem addAll_ends_of {platforms : Nat → Platform σ ρ α γ} {uninit : Nat → Int16}
    {I : AudioMixer σ ρ α γ → Prop} {sources : List MixerSource}
    (hadds : ∀ source ∈ sources, ∀ m, I m → ∃ m' p bound, I (m'.release p) ∧
      ∀ fuel, bound ≤ fuel → m.doAddSource (platforms fuel) source uninit = .ok (m', p))
    (hm : I m) :
    ∃ m' bound, I m' ∧ ∀ fuel, bound ≤ fuel →
      AudioMixer.addAll (platforms fuel) uninit m sources = .ok m' := by
  induction sources generalizing m with
  | nil => exact ⟨m, 0, hm, fun _ _ => rfl⟩
  | cons source rest ih =>
      obtain ⟨m₁, p, b₁, hm₁, hadd⟩ := hadds source (by simp) m hm
      obtain ⟨m', b₂, hm', hrest⟩ := ih (fun s hs => hadds s (by simp [hs])) hm₁
      refine ⟨m', max b₁ b₂, hm', fun fuel hle => ?_⟩
      simp only [AudioMixer.addAll, hadd fuel (by omega), bind, Except.bind]
      exact hrest fuel (by omega)

/-- The first loop of the constructor returns on sources that pass. -/
theorem addAll_returns (uninit : Nat → Int16) {sources : List MixerSource}
    (hm : WellFormed P m) (hpass : Passes P m sources) :
    ∃ m', AudioMixer.addAll P uninit m sources = .ok m' := by
  have hadds : ∀ source ∈ sources, ∀ m₁, WellFormed P m₁ ∧ m₁.numbers = m.numbers →
      ∃ m₂ p bound, (WellFormed P (m₂.release p) ∧ (m₂.release p).numbers = m.numbers) ∧
        ∀ fuel : Nat, bound ≤ fuel → m₁.doAddSource P source uninit = .ok (m₂, p) := by
    intro source hsource m₁ ⟨hm₁, hnumbers⟩
    obtain ⟨u, object, hmake⟩ := hpass source hsource
    obtain ⟨object', hmake', -⟩ := alike_makeSource hnumbers hmake uninit
    obtain ⟨⟨m₂, p⟩, hadd⟩ := doAddSource_of_makeSource hmake'
    have hstep := installStep_of_doAddSource hm₁ hadd
    exact ⟨m₂, p, 0, ⟨hstep.wellFormed hm₁, hstep.numbers.trans hnumbers⟩, fun _ _ => hadd⟩
  obtain ⟨m', bound, -, hadd⟩ := addAll_ends_of hadds ⟨hm, rfl⟩
  exact ⟨m', hadd bound le_rfl⟩

/-- The first loop of the constructor installs its sources. -/
theorem installed_of_addAll {uninit : Nat → Int16} {sources : List MixerSource}
    (hm : WellFormed P m) (h : AudioMixer.addAll P uninit m sources = .ok m') :
    Installed P m sources m' := by
  induction sources generalizing m with
  | nil =>
      cases h
      exact .nil _
  | cons source rest ih =>
      simp only [AudioMixer.addAll, bind_eq_ok] at h
      obtain ⟨⟨m₁, p⟩, hadd, hrest⟩ := h
      have hstep := installStep_of_doAddSource hm hadd
      exact .cons hstep (ih (hstep.wellFormed hm) hrest)

/-- The constructor installs the sources of its configuration. -/
theorem installed_of_create {config : MixerConfig} {uninit : Nat → Int16}
    (h : AudioMixer.create P config uninit = .ok m) :
    ∃ m₁, Installed P (AudioMixer.started P config uninit) config.sources m₁ ∧
      m.sources = m₁.sources ∧ m.heap = m₁.heap ∧ m.numbers = m₁.numbers := by
  obtain ⟨-, -, m₁, registered, frame, hadd, -, -, rfl⟩ := create_ok h
  exact ⟨m₁, installed_of_addAll (wellFormed_bare P config _ _ uninit) hadd, rfl, rfl, rfl⟩

/-- `AddSource` for each source in order, whatever fresh memory holds. -/
theorem run_installed {sources : List MixerSource} {ops : List MixerOp}
    (hops : ops.map MixerOp.call = sources.map MixerCall.addSource) (hm : WellFormed P m)
    (hpass : Passes P m sources) :
    ∃ m' replies, (mixerMachine P).run m ops = .ok (m', replies) ∧ Installed P m sources m' := by
  induction sources generalizing m ops with
  | nil =>
      rw [List.map_nil, List.map_eq_nil_iff] at hops
      subst hops
      exact ⟨m, [], rfl, .nil m⟩
  | cons source rest ih =>
      cases ops with
      | nil => simp at hops
      | cons op ops =>
          simp only [List.map_cons, List.cons.injEq] at hops
          obtain ⟨hcall, hops⟩ := hops
          obtain ⟨u, object, hmake⟩ := hpass source (by simp)
          obtain ⟨object', hmake', -⟩ := alike_makeSource rfl hmake op.uninit
          obtain ⟨⟨m₁, p⟩, hadd⟩ := doAddSource_of_makeSource hmake'
          have hstep := installStep_of_doAddSource hm hadd
          have hstep' : InstallStep P m source ((m₁.release p).register p op.uninit) :=
            ⟨hstep.numbers, hstep.stored⟩
          have hmachine : (mixerMachine P).step m op
              = .ok ((m₁.release p).register p op.uninit, .added true) := by
            simp only [mixerMachine, hcall, AudioMixer.addSource, hadd, bind, Except.bind,
              ← release_register]
            rfl
          have hpass₁ : Passes P ((m₁.release p).register p op.uninit) rest :=
            Passes.congr (fun s hs => hpass s (by simp [hs])) hstep'.numbers
          obtain ⟨m', replies, hrun, hinst⟩ := ih hops (hstep'.wellFormed hm) hpass₁
          exact ⟨m', _, Machine.run_cons hmachine hrun, .cons hstep' hinst⟩

/-! ## What is stored -/

/-- The object a `MixerSource` describes: of its type, with its ssrc and
its volume, on the file of its path. -/
structure DescribedBy (P : Platform σ ρ α γ) (c : Numbers) (source : MixerSource)
    (object : AudioSource σ ρ α) : Prop where
  ssrc : object.ssrc = source.ssrc
  volume : object.volume = source.volume
  kind : match object with
    | .record s => source.type = MixerSource.typeRecord ∧ ∃ uninit,
        AudioRecordSource.create source.ssrc c.outputSampleRate.toInt c.outputChannelNum.toInt
          c.frameDurationMs.toInt source.volume uninit = .ok s
    | .file s => source.type ≠ MixerSource.typeRecord ∧
        AudioFileSource.create P.av P.fuel source.ssrc (P.files source.path)
          c.outputSampleRate.toInt c.outputChannelNum.toInt c.frameDurationMs.toInt
          source.volume = .ok s

theorem describedBy_of_makeSource {source : MixerSource} {uninit : Nat → Int16}
    {object : AudioSource σ ρ α} (h : m.makeSource P source uninit = .ok object) :
    DescribedBy P m.numbers source object := by
  obtain ⟨hssrc, hvolume, -⟩ := makeSource_ok h
  refine ⟨hssrc, hvolume, ?_⟩
  unfold AudioMixer.makeSource at h
  split at h
  · rename_i htype
    simp only [bind_eq_ok] at h
    obtain ⟨_, _, _, _, record, hrecord, hret⟩ := h
    cases hret
    exact ⟨htype, uninit, hrecord⟩
  · rename_i htype
    simp only [bind_eq_ok] at h
    obtain ⟨file, hfile, hret⟩ := h
    cases hret
    exact ⟨htype, hfile⟩

/-- What a list of sources leaves under an ssrc: the object its first
source with that ssrc describes, or nothing. -/
def Described (P : Platform σ ρ α γ) (c : Numbers) (sources : List MixerSource)
    (ssrc : Int32) (stored : Option (AudioSource σ ρ α)) : Prop :=
  match sources.find? (fun source => source.ssrc = ssrc) with
  | none => stored = none
  | some source => ∃ object, stored = some object ∧ DescribedBy P c source object

/-- A mixer that holds what a list describes has the ssrcs of the list as
its keys. -/
theorem mem_sources_of_described {c : Numbers} {sources : List MixerSource} (hm : WellFormed P m)
    (h : ∀ ssrc, Described P c sources ssrc (m.stored ssrc)) (ssrc : Int32) :
    ssrc ∈ m.sources ↔ ssrc ∈ sources.map MixerSource.ssrc := by
  have hssrc := h ssrc
  rw [Std.ExtTreeMap.mem_iff_isSome_getElem?, Option.isSome_iff_ne_none, ne_eq,
    ← stored_eq_none hm, List.mem_map]
  unfold Described at hssrc
  cases hfind : sources.find? (fun source => source.ssrc = ssrc) with
  | none =>
      rw [hfind] at hssrc
      have hnone : ¬ ∃ source ∈ sources, source.ssrc = ssrc := by
        rintro ⟨source, hmem, hs⟩
        exact absurd hs (by simpa using List.find?_eq_none.mp hfind source hmem)
      exact ⟨fun h => absurd hssrc h, fun h => absurd h hnone⟩
  | some source =>
      rw [hfind] at hssrc
      obtain ⟨object, hobject, -⟩ := hssrc
      have hname : source.ssrc = ssrc := by simpa using List.find?_some hfind
      exact ⟨fun _ => ⟨source, List.mem_of_find?_eq_some hfind, hname⟩, fun _ => by simp [hobject]⟩

/-- What one source adds: nothing under other ssrcs, and nothing under its
own when that is taken. -/
theorem InstallStep.stored_of_ne {source : MixerSource} {ssrc : Int32} (hm : WellFormed P m)
    (h : InstallStep P m source m') (hother : source.ssrc ≠ ssrc ∨ m.stored ssrc ≠ none) :
    m'.stored ssrc = m.stored ssrc := by
  obtain ⟨-, uninit, object, -, hcase⟩ := h
  rcases hcase with ⟨hnew, hsources, hheap⟩ | ⟨htaken, hsources, hheap⟩
  · have hne : ¬ (ssrc = source.ssrc ∧ m.sources[source.ssrc]? = none) := by
      rintro ⟨rfl, hnone⟩
      rcases hother with hself | hsome
      · exact hself rfl
      · exact hsome ((stored_eq_none hm).mpr hnone)
    simp only [AudioMixer.stored, hsources, hheap, getElem?_insertIfNew_eq, if_neg hne]
    cases hp : m.sources[ssrc]? with
    | none => rfl
    | some p =>
        obtain ⟨old, hold, -⟩ := (hm.owned ssrc p).mp hp
        simp only [Option.bind_some, hold, Heap.get?_alloc_of_some object hold]
  · simp only [AudioMixer.stored, hsources, hheap]
    cases m.sources[ssrc]? with
    | none => rfl
    | some p => exact Heap.get?_alloc_free m.heap object p

/-- Under a free ssrc it adds the object it describes. -/
theorem InstallStep.stored_self {source : MixerSource} (hm : WellFormed P m)
    (h : InstallStep P m source m') (hfree : m.stored source.ssrc = none) :
    ∃ object, m'.stored source.ssrc = some object ∧ DescribedBy P m.numbers source object := by
  have hnone := (stored_eq_none hm).mp hfree
  obtain ⟨-, uninit, object, hmake, ⟨hnew, hsources, hheap⟩ | ⟨htaken, -⟩⟩ := h
  · refine ⟨object, ?_, describedBy_of_makeSource hmake⟩
    simp only [AudioMixer.stored, hsources, hheap, getElem?_insertIfNew_eq, hnew, and_self,
      if_true]
    exact m.heap.get?_alloc_self object
  · exact absurd hnone htaken

/-- **What a list of sources leaves**: what was stored stays, and a free
ssrc gets the first source of the list that names it. -/
theorem installed_stored {sources : List MixerSource} (hm : WellFormed P m)
    (h : Installed P m sources m') (ssrc : Int32) :
    (m.stored ssrc ≠ none → m'.stored ssrc = m.stored ssrc) ∧
    (m.stored ssrc = none → Described P m.numbers sources ssrc (m'.stored ssrc)) := by
  induction h with
  | nil m => exact ⟨fun _ => rfl, id⟩
  | @cons m m₁ m' source rest hstep hrest ih =>
      obtain ⟨ihtaken, ihfree⟩ := ih (hstep.wellFormed hm)
      constructor
      · intro htaken
        have hsame := hstep.stored_of_ne hm (.inr htaken)
        rw [← hsame] at htaken ⊢
        exact ihtaken htaken
      · intro hfree
        by_cases hssrc : source.ssrc = ssrc
        · subst hssrc
          obtain ⟨object, hobject, hdescribed⟩ := hstep.stored_self hm hfree
          have hstays := ihtaken (by simp [hobject])
          simp only [Described, List.find?_cons, decide_true]
          exact ⟨object, hstays.trans hobject, hdescribed⟩
        · have hsame := hstep.stored_of_ne hm (.inl hssrc)
          have hlater := ihfree (hsame.trans hfree)
          rw [hstep.numbers] at hlater
          simpa only [Described, List.find?_cons, hssrc, decide_false] using hlater

/-! ## The two ways compared -/

/-- Mixers with the same map and, behind each pointer of it, alike
sources. -/
structure SameSources (a b : AudioMixer σ ρ α γ) : Prop where
  numbers : b.numbers = a.numbers
  sources : b.sources = a.sources
  next : b.heap.next = a.heap.next
  objects : Heap.Kept Alike a.heap b.heap

theorem SameSources.stored (h : SameSources a b) (ssrc : Int32) :
    Option.Rel Alike (a.stored ssrc) (b.stored ssrc) := by
  simp only [AudioMixer.stored, h.sources]
  cases a.sources[ssrc]? with
  | none => exact .none
  | some p => exact h.objects p

theorem SameSources.installStep {source : MixerSource} (h : SameSources a b)
    (ha : InstallStep P a source a') (hb : InstallStep P b source b') : SameSources a' b' := by
  obtain ⟨hna, u, object, hmake, hcase⟩ := ha
  obtain ⟨hnb, u', object', hmake', hcase'⟩ := hb
  have halike : Alike object object' := by
    obtain ⟨object₁, hmake₁, halike⟩ := alike_makeSource h.numbers hmake u'
    rw [hmake'] at hmake₁
    cases hmake₁
    exact halike
  have hnumbers : b'.numbers = a'.numbers := by rw [hna, hnb, h.numbers]
  rw [h.sources, h.next] at hcase'
  rcases hcase with ⟨hnew, hsources, hheap⟩ | ⟨htaken, hsources, hheap⟩
  · rcases hcase' with ⟨-, hsources', hheap'⟩ | ⟨htaken', -⟩
    · refine ⟨hnumbers, hsources'.trans hsources.symm, ?_, ?_⟩
      · rw [hheap, hheap']
        exact congrArg (· + 1) h.next
      · rw [hheap, hheap']
        exact h.objects.alloc h.next halike
    · exact absurd hnew htaken'
  · rcases hcase' with ⟨hnew', -⟩ | ⟨-, hsources', hheap'⟩
    · exact absurd hnew' htaken
    · refine ⟨hnumbers, hsources'.trans hsources.symm, ?_, fun p => ?_⟩
      · rw [hheap, hheap']
        exact congrArg (· + 1) h.next
      · rw [hheap, hheap', ← h.next, Heap.get?_alloc_free, h.next, Heap.get?_alloc_free]
        exact h.objects p

/-- Two runs of the same list from such mixers end in such mixers. -/
theorem installed_same {sources : List MixerSource} (h : SameSources a b)
    (ha : Installed P a sources a') (hb : Installed P b sources b') : SameSources a' b' := by
  induction ha generalizing b with
  | nil a =>
      cases hb
      exact h
  | cons hstep hrest ih =>
      cases hb with
      | cons hstep' hrest' => exact ih (h.installStep hstep hstep') hrest'

/-- Mixers of one configuration start the same, whatever fresh memory
holds. -/
theorem sameSources_started (P : Platform σ ρ α γ) (config : MixerConfig)
    (uninit uninit' : Nat → Int16) :
    SameSources (AudioMixer.started P config uninit) (AudioMixer.started P config uninit') :=
  ⟨rfl, rfl, rfl, Heap.Kept.refl Alike.refl _⟩

/-- The constructor that returns without sources returns with sources that
can be added. -/
theorem create_returns {config : MixerConfig} {uninit : Nat → Int16}
    {sources : List MixerSource} {m₀ : AudioMixer σ ρ α γ}
    (h : AudioMixer.create P { config with sources := [] } uninit = .ok m₀)
    (hpass : Passes P m₀ sources) (uninit' : Nat → Int16) :
    ∃ m₁, AudioMixer.create P { config with sources := sources } uninit' = .ok m₁ := by
  obtain ⟨-, hnumbers₀, haccepted, -⟩ := create_spec h
  simp only [AudioMixer.create, bind_eq_ok] at h
  obtain ⟨u, hduration, report, hreport, perSecond, hper, real, hreal, -⟩ := h
  have hnumbers : (AudioMixer.bare P config report real uninit').numbers = m₀.numbers := by
    obtain ⟨-, rfl⟩ := divInt32_eq_ok hper
    obtain ⟨-, rfl⟩ := divInt32_eq_ok hreal
    obtain ⟨-, rfl⟩ := divInt32_eq_ok hreport
    exact hnumbers₀.symm
  have hwell := wellFormed_bare P config report real uninit'
  obtain ⟨m₁, hadd⟩ := addAll_returns uninit' hwell (hpass.congr hnumbers)
  obtain ⟨registered, hreg, -⟩ := registerAll_eq uninit' m₁
  have hnum₁ : m₁.numbers = Numbers.ofConfig config := by
    rw [(addAll_wellFormed hwell hadd).2.1, hnumbers, hnumbers₀]
    rfl
  have hreport₁ : m₁.reportOutputSamples = config.outputSampleRate.toInt.tdiv 100 :=
    congrArg Numbers.reportOutputSamples hnum₁
  have hchannels₁ : m₁.outputChannelNum = config.outputChannelNum :=
    congrArg Numbers.outputChannelNum hnum₁
  obtain ⟨frame, hframe⟩ : ∃ frame, m₁.mixedFrame.updateFrame P.abi 0 none
      (toSizeT P.abi m₁.reportOutputSamples) m₁.outputSampleRate.toInt .kUndefined .kVadUnknown
      (toSizeT P.abi m₁.outputChannelNum.toInt) = .ok frame := by
    simp only [AudioFrame.updateFrame, hreport₁, hchannels₁, if_pos haccepted.frameFits]
    exact ⟨_, rfl⟩
  refine ⟨{ m₁ with registered := registered, mixedFrame := frame }, ?_⟩
  simp only [AudioMixer.create, bind_eq_ok]
  refine ⟨u, hduration, report, hreport, perSecond, hper, real, hreal, m₁, hadd, frame, ?_, ?_⟩
  · rw [hreg]
    exact hframe
  · rw [hreg]
    rfl

/-- Adding sources with distinct ssrcs to a mixer without sources meets no
ssrc that is taken. -/
theorem noDuplicate_of_nodup {sources : List MixerSource} {ops : List MixerOp}
    (hops : ops.map MixerOp.call = sources.map MixerCall.addSource) (hm : WellFormed P m)
    (hempty : m.sources = ∅) (hnodup : (sources.map MixerSource.ssrc).Nodup) :
    (mixerMachine P).Meets NoDuplicate m ops := by
  refine Machine.meets_of_steps fun pre op post m₁ replies hsplit hrun source hcall => ?_
  subst hsplit
  rw [List.map_append, List.map_cons, hcall] at hops
  obtain ⟨before, rest, rfl, hbefore, hrest⟩ := List.append_eq_map_iff.mp hops
  obtain ⟨source', after, rfl, hsource, -⟩ := List.map_eq_cons_iff.mp hrest
  cases hsource
  -- what was added before has other ssrcs
  refine absent_run hm (by simp [hempty]) (fun o ho added hadded => ?_) hrun
  have hmem : MixerCall.addSource added ∈ before.map MixerCall.addSource := by
    rw [hbefore, ← hadded]
    exact List.mem_map_of_mem ho
  obtain ⟨_, hadded, ⟨⟩⟩ := List.mem_map.mp hmem
  rw [List.map_append, List.nodup_append] at hnodup
  exact hnodup.2.2 _ (List.mem_map_of_mem hadded) _ (by simp)

/-- Two exact registries over one map hold the same pointers. -/
theorem Registry.perm (ha : Registry a) (hb : Registry b) (h : b.sources = a.sources) :
    a.pointers.Perm b.pointers := by
  rw [List.perm_ext_iff_of_nodup ha.once hb.once]
  intro p
  rw [ha.owned p, hb.owned p, h]

/-- **Both ways of installing sources agree**: for every configuration and
every list of sources that pass the checks of `DoAddSource`, the
constructor with the list, and the constructor without it followed by
`AddSource` for each element, both return; the maps are the same, with
alike sources, and hold under each ssrc what the first element naming it
describes, and nothing under other ssrcs; and when no ssrc is repeated,
the same sources are registered. -/
theorem install_ways_agree (P : Platform σ ρ α γ) (config : MixerConfig)
    (sources : List MixerSource) (uninit uninit' : Nat → Int16) (ops : List MixerOp)
    (m₀ : AudioMixer σ ρ α γ)
    (hcreate : AudioMixer.create P { config with sources := [] } uninit = .ok m₀)
    (hpass : Passes P m₀ sources)
    (hops : ops.map MixerOp.call = sources.map MixerCall.addSource) :
    ∃ m₁ m₂ replies,
      AudioMixer.create P { config with sources := sources } uninit' = .ok m₁ ∧
      (mixerMachine P).run m₀ ops = .ok (m₂, replies) ∧
      m₂.sources = m₁.sources ∧
      (∀ ssrc, Option.Rel Alike (m₁.stored ssrc) (m₂.stored ssrc)) ∧
      (∀ ssrc, Described P m₀.numbers sources ssrc (m₁.stored ssrc) ∧
        Described P m₀.numbers sources ssrc (m₂.stored ssrc)) ∧
      (∀ ssrc, ssrc ∈ m₁.sources ↔ ssrc ∈ sources.map MixerSource.ssrc) ∧
      ((sources.map MixerSource.ssrc).Nodup → m₁.pointers.Perm m₂.pointers) := by
  obtain ⟨hm₀, -⟩ := create_spec hcreate
  obtain ⟨m₁, hfull⟩ := create_returns hcreate hpass uninit'
  obtain ⟨hm₁, -⟩ := create_spec hfull
  obtain ⟨m₂, replies, hrun, hinst₂⟩ := run_installed hops hm₀ hpass
  -- both start from the members without sources
  obtain ⟨a, hnil, hsources₀, hheap₀, hnumbers₀⟩ := installed_of_create hcreate
  cases hnil
  obtain ⟨b, hinst₁, hsources₁, hheap₁, hnumbers⟩ := installed_of_create hfull
  have hstart : SameSources (AudioMixer.started P { config with sources := sources } uninit') m₀ :=
    ⟨hnumbers₀, hsources₀, congrArg Heap.next hheap₀,
      hheap₀ ▸ Heap.Kept.refl Alike.refl _⟩
  have hsame := installed_same hstart hinst₁ hinst₂
  have hend : SameSources m₁ m₂ :=
    ⟨hsame.numbers.trans hnumbers.symm, hsame.sources.trans hsources₁.symm, hheap₁ ▸ hsame.next,
      hheap₁ ▸ hsame.objects⟩
  have hempty₀ : m₀.sources = ∅ := hsources₀
  have hdescribed₂ : ∀ ssrc, Described P m₀.numbers sources ssrc (m₂.stored ssrc) := by
    intro ssrc
    refine (installed_stored hm₀ hinst₂ ssrc).2 ?_
    simp [AudioMixer.stored, hempty₀]
  have hdescribed : ∀ ssrc, Described P m₀.numbers sources ssrc (m₁.stored ssrc) := by
    intro ssrc
    have hb : b.stored ssrc = m₁.stored ssrc := by
      simp only [AudioMixer.stored, hsources₁, hheap₁]
    rw [← hb, hstart.numbers]
    refine (installed_stored (wellFormed_bare P _ _ _ _) hinst₁ ssrc).2 ?_
    simp [AudioMixer.stored, AudioMixer.bare]
  refine ⟨m₁, m₂, replies, hfull, hrun, hend.sources, hend.stored,
    fun ssrc => ⟨hdescribed ssrc, hdescribed₂ ssrc⟩, mem_sources_of_described hm₁ hdescribed, ?_⟩
  intro hnodup
  have hmeets := noDuplicate_of_nodup hops hm₀ hempty₀ hnodup
  obtain ⟨-, hr₂⟩ := registry_of_meets hm₀ (registry_of_create hcreate) hmeets hrun
  exact (registry_of_create hfull).perm hr₂ hend.sources

/-- A record source and a file, and the record source's ssrc once more. -/
def threeSources : List MixerSource := [recordSource 1, fileSource 2 "", fileSource 1 ""]

theorem install_ways_agree_three :
    ∃ m₀ m₁ m₂ replies,
      AudioMixer.create smallPlatform (mono8kConfig []) (fun _ => 0) = .ok m₀ ∧
      AudioMixer.create smallPlatform (mono8kConfig threeSources) (fun _ => 3) = .ok m₁ ∧
      (mixerMachine smallPlatform).run m₀
        (threeSources.map fun source => (MixerCall.addSource source).zeroed)
          = .ok (m₂, replies) ∧
      m₂.sources = m₁.sources ∧ m₁.sources.toList = [(1, 0), (2, 1)] := by
  obtain ⟨m₀, m₁, hcreate, hfull, hlist, hpass⟩ :
      ∃ m₀ m₁, AudioMixer.create smallPlatform (mono8kConfig []) (fun _ => 0) = .ok m₀ ∧
        AudioMixer.create smallPlatform (mono8kConfig threeSources) (fun _ => 3) = .ok m₁ ∧
        m₁.sources.toList = [(1, 0), (2, 1)] ∧
        ((∃ object, m₀.makeSource smallPlatform (recordSource 1) (fun _ => 0) = .ok object) ∧
          (∃ object, m₀.makeSource smallPlatform (fileSource 2 "") (fun _ => 0) = .ok object) ∧
          ∃ object, m₀.makeSource smallPlatform (fileSource 1 "") (fun _ => 0) = .ok object) :=
    ⟨_, _, rfl, rfl, rfl, ⟨_, rfl⟩, ⟨_, rfl⟩, _, rfl⟩
  have hpasses : Passes smallPlatform m₀ threeSources := by
    intro source hsource
    simp only [threeSources, List.mem_cons, List.not_mem_nil, or_false] at hsource
    rcases hsource with rfl | rfl | rfl
    · exact ⟨_, hpass.1⟩
    · exact ⟨_, hpass.2.1⟩
    · exact ⟨_, hpass.2.2⟩
  obtain ⟨m₁', m₂, replies, hfull', hrun, hsources, -⟩ :=
    install_ways_agree smallPlatform (mono8kConfig []) threeSources (fun _ => 0) (fun _ => 3)
      (threeSources.map fun source => (MixerCall.addSource source).zeroed) m₀ hcreate hpasses rfl
  have hsame : m₁' = m₁ := Except.ok.inj (hfull'.symm.trans hfull)
  subst hsame
  exact ⟨m₀, m₁', m₂, replies, hcreate, hfull, hrun, hsources, hlist⟩

end L4AudioMixer.Mixer
