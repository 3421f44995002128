/-
L4AudioMixer.Mixer.RegistryTheorems — the sources WebRTC asks are the
sources the mixer owns, as long as no ssrc is added twice.

`AddSource` registers the pointer that `DoAddSource` returns. When the
ssrc is taken, the map keeps its old entry, nothing owns the new source,
and the pointer WebRTC got is dangling as soon as `AddSource` returns.
`registry_iff_no_duplicate` shows that this is the only way the registry
goes wrong: in every run, the registered pointers are the owned ones
after each call if and only if no `AddSource` names an ssrc that
`sources_` already has.
-/
import L4AudioMixer.Mixer.Effects
import L4AudioMixer.Source.FileDeliveryTheorems

namespace L4AudioMixer.Mixer

open L4AudioMixer.Lib
open L4AudioMixer.Libav
open L4AudioMixer.WebRtc
open L4AudioMixer.Source
open L4AudioMixer.Decoder (Slot slotFile)

variable {σ ρ α γ : Type} {P : Platform σ ρ α γ} {m m' : AudioMixer σ ρ α γ}

/-- The registered pointers are the owned ones, each once. -/
structure Registry (m : AudioMixer σ ρ α γ) : Prop where
  once : m.pointers.Nodup
  owned : ∀ p, p ∈ m.pointers ↔ ∃ ssrc : Int32, m.sources[ssrc]? = some p

/-- An operation that does not add an ssrc that is already there. -/
def NoDuplicate (m : AudioMixer σ ρ α γ) (op : MixerOp) : Prop :=
  ∀ source, op.call = .addSource source → m.sources[source.ssrc]? = none

/-! ## One call -/

theorem registry_of_create {config : MixerConfig} {uninit : Nat → Int16}
    (h : AudioMixer.create P config uninit = .ok m) : Registry m := by
  obtain ⟨hm, -, -, hpointers⟩ := create_spec h
  constructor
  · rw [hpointers]
    exact nodup_values fun k k' p hk hk' => hm.injective hk hk'
  · intro p
    rw [hpointers]
    exact mem_values

/-- A registered pointer is not the next one to be handed out. -/
theorem Registry.next_not_mem (hr : Registry m) (hm : WellFormed P m) :
    m.heap.next ∉ m.pointers := by
  intro hmem
  obtain ⟨ssrc, hp⟩ := (hr.owned _).mp hmem
  exact hm.ne_next hp rfl

/-- Every call but a duplicate `AddSource` keeps the registry. -/
theorem Registry.effect {op : MixerOp} (hr : Registry m) (hm : WellFormed P m)
    (hdup : NoDuplicate m op) (h : Effect P m m' op.call) : Registry m' := by
  obtain ⟨call, uninit⟩ := op
  cases h with
  | inPlace _ _ hsources hpointers _ =>
      constructor
      · rw [hpointers]
        exact hr.once
      · rw [hpointers, hsources]
        exact hr.owned
  | stored source object hnew hssrc hbuilt hsources hpointers hheap =>
      have hnext := hr.next_not_mem hm
      constructor
      · rw [hpointers, List.nodup_append]
        refine ⟨hr.once, by simp, ?_⟩
        rintro p hp q hq rfl
        rw [List.mem_singleton] at hq
        exact hnext (hq ▸ hp)
      · intro p
        rw [hpointers, hsources, List.mem_append, List.mem_singleton, hr.owned p]
        constructor
        · rintro (⟨ssrc, hp⟩ | rfl)
          · refine ⟨ssrc, ?_⟩
            rw [getElem?_insertIfNew_eq, if_neg, hp]
            rintro ⟨rfl, _⟩
            rw [hnew] at hp
            cases hp
          · exact ⟨source.ssrc, by rw [getElem?_insertIfNew_eq, if_pos ⟨rfl, hnew⟩]⟩
        · rintro ⟨ssrc, hp⟩
          rw [getElem?_insertIfNew_eq] at hp
          split at hp
          · cases hp
            exact .inr rfl
          · exact .inl ⟨ssrc, hp⟩
  | dangling source object htaken hsources hpointers hheap =>
      exact absurd (hdup source rfl) htaken
  | removed ssrc q hq hsources hpointers hheap =>
      constructor
      · rw [hpointers]
        exact hr.once.erase q
      · intro p
        rw [hpointers, hsources, hr.once.mem_erase_iff, hr.owned p]
        constructor
        · rintro ⟨hne, k, hp⟩
          refine ⟨k, ?_⟩
          rw [getElem?_erase_eq, if_neg, hp]
          rintro rfl
          rw [hq] at hp
          cases hp
          exact hne rfl
        · rintro ⟨k, hp⟩
          rw [getElem?_erase_eq] at hp
          split at hp
          · cases hp
          · rename_i hk
            refine ⟨?_, k, hp⟩
            rintro rfl
            exact hk (hm.injective hp hq)

/-- A duplicate `AddSource` registers a pointer nothing owns. -/
theorem not_registry_of_dangling {source : MixerSource} (hm : WellFormed P m)
    (htaken : m.sources[source.ssrc]? ≠ none) (h : Effect P m m' (.addSource source)) :
    ¬ Registry m' := by
  intro hr
  cases h with
  | inPlace hadd => exact hadd source rfl
  | stored _ _ hnew => exact htaken hnew
  | dangling _ object _ hsources hpointers _ =>
      have hmem : m.heap.next ∈ m'.pointers := by simp [hpointers]
      obtain ⟨ssrc, hp⟩ := (hr.owned _).mp hmem
      rw [hsources] at hp
      exact hm.ne_next hp rfl

/-! ## Runs -/

/-- The registry in terms of the two collections: WebRTC's list is a
rearrangement of the values of `sources_`, without repetition, and each
pointer leads to an existing source that reports the ssrc it is under. -/
def RegistryExact (m : AudioMixer σ ρ α γ) : Prop :=
  m.pointers.Perm (m.sources.toList.map Prod.snd) ∧ m.pointers.Nodup ∧
  ∀ p ∈ m.pointers, ∃ ssrc object, m.sources[ssrc]? = some p ∧
    m.heap.get? p = some object ∧ object.ssrc = ssrc

/-- No registered source reports this ssrc. -/
def NotRegistered (m : AudioMixer σ ρ α γ) (ssrc : Int32) : Prop :=
  ∀ p ∈ m.pointers, ∀ object, m.heap.get? p = some object → object.ssrc ≠ ssrc

theorem registryExact_iff (hm : WellFormed P m) : RegistryExact m ↔ Registry m := by
  have hnodup : (m.sources.toList.map Prod.snd).Nodup :=
    nodup_values fun k k' p hk hk' => hm.injective hk hk'
  constructor
  · rintro ⟨hperm, honce, -⟩
    exact ⟨honce, fun p => by rw [hperm.mem_iff, mem_values]⟩
  · intro hr
    refine ⟨?_, hr.once, fun p hp => ?_⟩
    · rw [List.perm_ext_iff_of_nodup hr.once hnodup]
      intro p
      rw [hr.owned p, mem_values]
    · obtain ⟨ssrc, hs⟩ := (hr.owned p).mp hp
      obtain ⟨object, hobject, hssrc⟩ := (hm.owned ssrc p).mp hs
      exact ⟨ssrc, object, hs, hobject, hssrc⟩

theorem notRegistered_of_none (hm : WellFormed P m) {ssrc : Int32}
    (h : m.sources[ssrc]? = none) : NotRegistered m ssrc := by
  intro p _ object hobject hssrc
  have hp := (hm.owned ssrc p).mpr ⟨object, hobject, hssrc⟩
  rw [h] at hp
  cases hp

/-- An ssrc stays absent until it is added. -/
theorem absent_effect {call : MixerCall} {ssrc : Int32} (h : Effect P m m' call)
    (hadd : ∀ source, call = .addSource source → source.ssrc ≠ ssrc)
    (hnone : m.sources[ssrc]? = none) : m'.sources[ssrc]? = none := by
  cases h with
  | inPlace _ _ hsources => rw [hsources, hnone]
  | stored source _ _ _ _ hsources =>
      have hne := hadd source rfl
      rw [hsources, getElem?_insertIfNew_eq, if_neg (fun h => hne h.1.symm), hnone]
  | dangling _ _ _ hsources => rw [hsources, hnone]
  | removed k _ _ hsources =>
      rw [hsources, getElem?_erase_eq]
      split
      · rfl
      · exact hnone

theorem absent_run {ssrc : Int32} {ops : List MixerOp} {replies : List MixerReply}
    (hm : WellFormed P m) (hnone : m.sources[ssrc]? = none)
    (hadd : ∀ op ∈ ops, ∀ source, op.call = .addSource source → source.ssrc ≠ ssrc)
    (h : (mixerMachine P).run m ops = .ok (m', replies)) : m'.sources[ssrc]? = none := by
  induction ops generalizing m replies with
  | nil => cases h; exact hnone
  | cons op ops ih =>
      obtain ⟨m₁, r, rs, hstep, hrun, -⟩ := Machine.of_run_cons h
      have heffect := (step_effect hm hstep).1
      exact ih (hm.step hstep) (absent_effect heffect (hadd op (by simp)) hnone)
        (fun o ho => hadd o (by simp [ho])) hrun

/-- After `RemoveSource` the ssrc is absent. -/
theorem absent_of_removed {ssrc : Int32} (h : Effect P m m' (.removeSource ssrc)) :
    m'.sources[ssrc]? = none := by
  cases h with
  | inPlace _ hremove hsources => rw [hsources, hremove ssrc rfl]
  | removed _ _ _ hsources => rw [hsources, getElem?_erase_eq, if_pos rfl]

/-- The claim of the registry on a run from `m₀`: after each call the
registry is exact, and a removed ssrc is not registered until it is added
again. -/
def RegistryHolds (P : Platform σ ρ α γ) (m₀ : AudioMixer σ ρ α γ) (ops : List MixerOp) : Prop :=
  ∀ calls rest, ops = calls ++ rest → ∀ m replies,
    (mixerMachine P).run m₀ calls = .ok (m, replies) →
    RegistryExact m ∧
    ∀ before ssrc uninit after, calls = before ++ ⟨.removeSource ssrc, uninit⟩ :: after →
      (∀ op ∈ after, ∀ source, op.call = .addSource source → source.ssrc ≠ ssrc) →
      NotRegistered m ssrc

/-- The registry along a run without duplicates. -/
theorem registry_of_meets {m₀ : AudioMixer σ ρ α γ} {ops : List MixerOp}
    {replies : List MixerReply} (hm₀ : WellFormed P m₀) (hr₀ : Registry m₀)
    (hmeets : (mixerMachine P).Meets NoDuplicate m₀ ops)
    (hrun : (mixerMachine P).run m₀ ops = .ok (m, replies)) :
    WellFormed P m ∧ Registry m :=
  Machine.run_invariant_of_meets (fun m => WellFormed P m ∧ Registry m) NoDuplicate
    (fun _ _ _ _ hI hdup hstep =>
      ⟨hI.1.step hstep, hI.2.effect hI.1 hdup (step_effect hI.1 hstep).1⟩)
    ⟨hm₀, hr₀⟩ hmeets hrun

/-- **The registry is exact in exactly the runs without a duplicate
`AddSource`.** -/
theorem registry_iff_no_duplicate (P : Platform σ ρ α γ) (config : MixerConfig)
    (uninit : Nat → Int16) (m₀ m : AudioMixer σ ρ α γ) (ops : List MixerOp)
    (replies : List MixerReply) (hcreate : AudioMixer.create P config uninit = .ok m₀)
    (hrun : (mixerMachine P).run m₀ ops = .ok (m, replies)) :
    RegistryHolds P m₀ ops ↔ (mixerMachine P).Meets NoDuplicate m₀ ops := by
  have hm₀ : WellFormed P m₀ := (create_spec hcreate).1
  have hr₀ : Registry m₀ := registry_of_create hcreate
  have hwell : ∀ {calls rs t}, (mixerMachine P).run m₀ calls = .ok (t, rs) → WellFormed P t :=
    fun hcalls => Machine.run_invariant (WellFormed P)
      (fun _ _ _ _ hI hstep => hI.step hstep) hm₀ hcalls
  constructor
  · intro hholds
    refine Machine.meets_of_steps fun pre op post m₁ rs hops hpre source hcall => ?_
    -- the run goes on with `op`; afterwards the registry would not be exact
    rw [hops] at hrun
    obtain ⟨m₁', rs₁, rs₂, hpre', hpost, -⟩ := Machine.of_run_append hrun
    rw [hpre] at hpre'
    cases hpre'
    obtain ⟨m₂, r, rs₃, hstep, -, -⟩ := Machine.of_run_cons hpost
    have hm₁ : WellFormed P m₁ := hwell hpre
    by_contra htaken
    have heffect := (step_effect hm₁ hstep).1
    rw [hcall] at heffect
    have hnext : (mixerMachine P).run m₀ (pre ++ [op]) = .ok (m₂, rs ++ [r]) :=
      Machine.run_append hpre (Machine.run_cons hstep rfl)
    obtain ⟨hexact, -⟩ := hholds (pre ++ [op]) post (by rw [hops]; simp) m₂ _ hnext
    exact not_registry_of_dangling hm₁ htaken heffect
      ((registryExact_iff (hm₁.step hstep)).mp hexact)
  · rintro hmeets calls rest rfl m₁ rs hcalls
    obtain ⟨hm₁, hr₁⟩ :=
      registry_of_meets hm₀ hr₀ (Machine.meets_of_append hmeets) hcalls
    refine ⟨(registryExact_iff hm₁).mpr hr₁, ?_⟩
    rintro before ssrc u after rfl hafter
    obtain ⟨m₂, rs₁, rs₂, hbefore, hpost, -⟩ := Machine.of_run_append hcalls
    obtain ⟨m₃, r, rs₃, hstep, hrest, -⟩ := Machine.of_run_cons hpost
    have hm₂ : WellFormed P m₂ := hwell hbefore
    have hnone := absent_of_removed (step_effect hm₂ hstep).1
    exact notRegistered_of_none hm₁ (absent_run (hm₂.step hstep) hnone hafter hrest)

/-! ### A small platform -/

/-- A platform on which every path is a file of one packet of 80 samples
at 8000 Hz, and the combiner passes the first audible frame on. -/
def smallPlatform : Platform Slot Unit UInt8 Unit where
  abi := .lp64
  av := plainAv
  files _ := slotFile [.packet ⟨0, List.replicate 80 5⟩]
  scaleWithSat _ frame := frame
  webrtc := {
    calculateOutputRate := defaultOutputRate
    initial := ()
    combine := fun _ _ _ asked mixedFrame =>
      { combiner := ()
        ramped := fun i =>
          match asked[i]? with
          | some a => ⟨a.info = .kNormal, 1, a.status.audioFrame⟩
          | none => ⟨false, 0, mixedFrame⟩
        mixedFrame :=
          match asked.find? (fun a => a.info = .kNormal) with
          | some a => a.status.audioFrame
          | none => { mixedFrame with muted := true } } }
  fuel := 9

/-- A configuration without sources. -/
def mono8kConfig (sources : List MixerSource) : MixerConfig where
  sources := sources
  outputSampleRate := 8000
  outputChannelNum := 1
  frameDurationMs := 10

/-- A record source that passes the checks of `DoAddSource`. -/
def recordSource (ssrc : Int32) : MixerSource where
  type := MixerSource.typeRecord
  ssrc := ssrc
  volume := 1
  path := ""
  sampleRate := 8000
  channelNum := 1

/-- A call during which fresh memory is zero. -/
def MixerCall.zeroed (call : MixerCall) : MixerOp := ⟨call, fun _ => 0⟩

/-- The same ssrc added twice. -/
def addTwice : List MixerOp :=
  [(MixerCall.addSource (recordSource 7)).zeroed, (MixerCall.addSource (recordSource 7)).zeroed]

/-- Two pointers are registered, one is owned, and the next `Mix` follows
the other one to a destroyed source. -/
theorem registry_duplicate_dangles :
    ∃ m₀ m replies, AudioMixer.create smallPlatform (mono8kConfig []) (fun _ => 0) = .ok m₀ ∧
      (mixerMachine smallPlatform).run m₀ addTwice = .ok (m, replies) ∧
      m.pointers = [0, 1] ∧ m.sources.toList = [(7, 0)] ∧
      m.mix smallPlatform (fun _ => 0) = .error .danglingPointer ∧
      ¬ RegistryHolds smallPlatform m₀ addTwice := by
  obtain ⟨m₀, m, replies, hcreate, hrun, hpointers, hsources, hmix⟩ :
      ∃ m₀ m replies, AudioMixer.create smallPlatform (mono8kConfig []) (fun _ => 0) = .ok m₀ ∧
        (mixerMachine smallPlatform).run m₀ addTwice = .ok (m, replies) ∧
        m.pointers = [0, 1] ∧ m.sources.toList = [(7, 0)] ∧
        m.mix smallPlatform (fun _ => 0) = .error .danglingPointer :=
    ⟨_, _, _, rfl, rfl, rfl, rfl, rfl⟩
  refine ⟨m₀, m, replies, hcreate, hrun, hpointers, hsources, hmix, fun hholds => ?_⟩
  obtain ⟨⟨hperm, -⟩, -⟩ := hholds addTwice [] (List.append_nil _).symm m replies hrun
  rw [hpointers, hsources] at hperm
  exact absurd hperm.length_eq (by decide)

/-- One source added and another removed. -/
def addAndRemove : List MixerOp :=
  [(MixerCall.addSource (recordSource 2)).zeroed, (MixerCall.removeSource 1).zeroed]

theorem registry_iff_no_duplicate_two :
    ∃ m₀ m replies, AudioMixer.create smallPlatform (mono8kConfig [recordSource 1]) (fun _ => 0)
        = .ok m₀ ∧
      (mixerMachine smallPlatform).run m₀ addAndRemove = .ok (m, replies) ∧
      (mixerMachine smallPlatform).Meets NoDuplicate m₀ addAndRemove ∧
      RegistryHolds smallPlatform m₀ addAndRemove := by
  obtain ⟨m₀, m, replies, hcreate, hrun, hnew⟩ :
      ∃ m₀ m replies, AudioMixer.create smallPlatform (mono8kConfig [recordSource 1])
          (fun _ => 0) = .ok m₀ ∧
        (mixerMachine smallPlatform).run m₀ addAndRemove = .ok (m, replies) ∧
        m₀.sources[(2 : Int32)]? = none :=
    ⟨_, _, _, rfl, rfl, rfl⟩
  have hmeets : (mixerMachine smallPlatform).Meets NoDuplicate m₀ addAndRemove := by
    refine ⟨?_, fun m₁ r _ => ⟨?_, fun _ _ _ => trivial⟩⟩
    · rintro source ⟨⟩
      exact hnew
    · rintro source ⟨⟩
  exact ⟨m₀, m, replies, hcreate, hrun, hmeets,
    (registry_iff_no_duplicate smallPlatform _ _ m₀ m addAndRemove replies hcreate hrun).mpr
      hmeets⟩

end L4AudioMixer.Mixer
