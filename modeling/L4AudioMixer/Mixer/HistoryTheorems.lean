/-
L4AudioMixer.Mixer.HistoryTheorems — what `Mix` asks is what the calls
before it say.

The specification knows ssrcs and volumes and nothing else: a roster that
`AddSource` extends, `RemoveSource` shortens and `UpdateVolume` changes
(`MixerCall.onVolumes`). `mix_asks_history` shows that every `Mix` of every
run asks exactly the sources of this roster, in its order and at its
volumes. It needs no condition on duplicates: after a duplicate `AddSource`
a registered pointer dangles for good (`Dangling`), and no `Mix` returns.

The destructor meets the same pointers. `destroy_unregisters_iff` shows
that it leaves no object behind, and nothing registered exactly when no
ssrc was added twice.
-/
import L4AudioMixer.Mixer.EnsembleTheorems

namespace L4AudioMixer.Mixer

open L4AudioMixer.Lib
open L4AudioMixer.Libav
open L4AudioMixer.WebRtc
open L4AudioMixer.Source

variable {σ ρ α γ : Type} {P : Platform σ ρ α γ} {m m' : AudioMixer σ ρ α γ}
  {e e' : Ensemble σ ρ α γ}

/-! ## The specification -/

/-- What a call does to the volumes. -/
def MixerCall.onVolumes : MixerCall → Roster Int32 Float32 → Roster Int32 Float32
  | .addSource source, volumes => volumes.add source.ssrc source.volume
  | .removeSource ssrc, volumes => volumes.remove ssrc
  | .updateVolume ssrc volume, volumes => volumes.modify ssrc fun _ => volume
  | .addRecordedData _ _ _, volumes => volumes
  | .mix, volumes => volumes

/-- The volumes a list of sources describes; the first of each ssrc counts. -/
def volumesOf (volumes : Roster Int32 Float32) (sources : List MixerSource) :
    Roster Int32 Float32 :=
  sources.foldl (fun volumes source => volumes.add source.ssrc source.volume) volumes

/-- The volumes after these calls of a mixer of this configuration. -/
def volumesAfter (config : MixerConfig) (calls : List MixerCall) : Roster Int32 Float32 :=
  calls.foldl (fun volumes call => call.onVolumes volumes)
    (volumesOf Roster.empty config.sources).sorted

/-- Whom `Mix` asked, and the volume each had. -/
def MixResult.told (result : MixResult) (sources : Std.ExtTreeMap Int32 Ptr) :
    List (Option Int32 × Float32) :=
  result.asked.map fun a => (ownerOf sources a.status.audioSource, a.volume)

/-! ## The volumes of an ensemble -/

/-- The volumes of the voices. -/
def Ensemble.volumes (e : Ensemble σ ρ α γ) : Roster Int32 Float32 :=
  e.voices.map fun v => v.source.volume

/-- A frame asked for does not change the volume. -/
theorem volume_getAudioFrameWithInfo {a b : AudioSource σ ρ α} {hz : Int}
    {frame frame' : AudioFrame} {info : AudioFrameInfo} {uninit : Nat → Int16}
    (h : a.getAudioFrameWithInfo P hz frame uninit = .ok (info, frame', b)) :
    b.volume = a.volume := by
  cases a with
  | file s =>
      simp only [AudioSource.getAudioFrameWithInfo, bind_eq_ok] at h
      obtain ⟨⟨info₁, frame₁, s'⟩, hs, hret⟩ := h
      cases hret
      rcases file_getAudioFrameWithInfo_cases hs with ⟨_, _, rfl⟩ | ⟨_, _, _, _, hread, _⟩
      · rfl
      · exact (read_keeps hread).2
  | record s =>
      simp only [AudioSource.getAudioFrameWithInfo, bind_eq_ok] at h
      obtain ⟨⟨info₁, frame₁, s'⟩, hs, hret⟩ := h
      cases hret
      rcases record_getAudioFrameWithInfo_cases hs with
        ⟨_, _, rfl⟩ | ⟨_, _, _, rfl⟩ | ⟨_, _, _, rfl, _⟩
      · rfl
      · rfl
      · rfl

theorem volume_updateVolume (a : AudioSource σ ρ α) (volume : Float32) :
    (a.updateVolume volume).volume = volume := by
  cases a <;> rfl

/-- A call that names an ssrc does to the volumes what the specification
says. -/
theorem volumes_of_named {op : MixerOp} {reply : EnsembleReply} (hmix : op.call ≠ .mix)
    (h : (ensembleMachine P).step e op = .ok (e', reply)) :
    e'.volumes = op.call.onVolumes e.volumes := by
  obtain ⟨call, uninit⟩ := op
  cases call with
  | addSource source =>
      simp only [ensembleMachine, Ensemble.addSource, bind_assoc, pure_bind, bind_eq_ok] at h
      obtain ⟨object, hmake, hret⟩ := h
      cases hret
      simp only [Ensemble.volumes, MixerCall.onVolumes, Roster.map_add,
        (makeSource_ok hmake).2.1]
  | removeSource ssrc =>
      cases h
      exact Roster.map_remove _ _ _
  | updateVolume ssrc volume =>
      cases h
      simp only [Ensemble.volumes, MixerCall.onVolumes]
      exact Roster.map_modify _ _ fun v => volume_updateVolume v.source volume
  | addRecordedData ssrc data size =>
      simp only [ensembleMachine, Ensemble.addRecordedData, bind_eq_ok] at h
      obtain ⟨e₁, hadd, hret⟩ := h
      cases hret
      split at hadd
      · cases hadd
        rfl
      · cases hadd
      · rename_i s hv
        simp only [bind_eq_ok] at hadd
        obtain ⟨s', hs', hret⟩ := hadd
        obtain ⟨buffer, -, rfl⟩ := onAudioRecorded_cases hs'
        cases hret
        -- only the voice of this ssrc is replaced, by one of the same volume
        obtain ⟨v, hvoice, hsource⟩ := Option.map_eq_some_iff.mp hv
        apply Roster.ext
        simp only [Ensemble.volumes, Roster.map, Roster.modify, List.map_map,
          MixerCall.onVolumes]
        apply List.map_congr_left
        rintro ⟨k, w⟩ hmem
        by_cases hk : k = ssrc
        · subst hk
          have hw := Roster.get?_of_mem hmem
          rw [hvoice] at hw
          cases hw
          simp [hsource, AudioSource.volume]
        · simp [hk]
  | mix => exact absurd rfl hmix

/-- **`Mix` asks the voices**, in their order and at their volumes, and
leaves a mixer that shows an ensemble of the same volumes. -/
theorem mix_told {uninit : Nat → Int16} {result : MixResult} (hr : Represents P m e)
    (h : m.mix P uninit = .ok (m', result)) :
    (∃ e' : Ensemble σ ρ α γ, Shows m' e' ∧ e'.volumes = e.volumes) ∧
      result.told m.sources = e.volumes.items.map fun item => (some item.1, item.2) := by
  obtain ⟨rates, heap, -, hasked, combined, rfl⟩ := mix_ok h
  obtain ⟨heard, htraverse, hheard, -⟩ :=
    (askSources_agree _ uninit hr.registry.once hr.shows.voices).of_ok hasked
  have hkept : List.Forall₂ (fun item result => result.1 = item.1 ∧
      result.2.source.volume = item.2.source.volume ∧
      result.2.volume = item.2.source.volume) e.voices.items heard.val := by
    refine (Roster.forall₂_of_traverseItems htraverse).imp ?_
    rintro item ⟨k, h⟩ ⟨hk, hask⟩
    simp only [Voice.ask, bind_eq_ok] at hask
    obtain ⟨⟨info, frame, source⟩, hget, hret⟩ := hask
    cases hret
    exact ⟨hk, volume_getAudioFrameWithInfo hget, rfl⟩
  refine ⟨⟨{ e with
    voices := (⟨heard.val, by rw [heard.property]; exact e.voices.distinct⟩ :
      Roster Int32 (Heard σ ρ α)).mapIdx fun i h => ⟨h.source, combined.ramped i⟩
    combiner := combined.combiner
    mixedFrame := combined.mixedFrame },
      ⟨hr.shows.numbers, rfl, rfl, rampAll_stands _ hheard⟩, ?_⟩, ?_⟩
  · apply Roster.ext
    have hvolumes : heard.val.map (fun item => (item.1, item.2.source.volume))
        = e.voices.items.map fun item => (item.1, item.2.source.volume) := by
      symm
      rw [← List.forall₂_eq_eq_eq, List.forall₂_map_left_iff, List.forall₂_map_right_iff]
      exact hkept.imp fun item result hkeep => by rw [hkeep.1, hkeep.2.1]
    simp only [Ensemble.volumes, Roster.map, Roster.mapIdx]
    rw [← hvolumes]
    apply List.ext_getElem
    · simp
    · intro i h₁ h₂
      simp
  · simp only [MixResult.told, Ensemble.volumes, Roster.map, List.map_map]
    have hasked' : List.Forall₂ (fun (a : Asked) (item : Int32 × Heard σ ρ α) =>
        (ownerOf m.sources a.status.audioSource, a.volume) = (some item.1, item.2.volume))
        result.asked heard.val := by
      refine hheard.imp fun a item hstands => ?_
      have hblind := hstands.blind
      simp only [Asked.blind, Prod.mk.injEq] at hblind
      rw [ownerOf_eq hr.wellFormed hstands.owner, hblind.2.2]
    have htold : result.asked.map (fun a => (ownerOf m.sources a.status.audioSource, a.volume))
        = heard.val.map fun item => (some item.1, item.2.volume) := by
      rw [← List.forall₂_eq_eq_eq, List.forall₂_map_left_iff, List.forall₂_map_right_iff]
      exact hasked'
    rw [htold]
    symm
    rw [← List.forall₂_eq_eq_eq, List.forall₂_map_left_iff, List.forall₂_map_right_iff]
    refine hkept.imp fun item result hkeep => ?_
    simp only [Function.comp_apply, hkeep.1, hkeep.2.2]

/-- **One call**: the mixer shows an ensemble again, and its volumes are
what the specification says. -/
theorem volumes_step {op : MixerOp} {reply : MixerReply} (hr : Represents P m e)
    (hdup : NoDuplicate m op) (h : (mixerMachine P).step m op = .ok (m', reply)) :
    ∃ e' : Ensemble σ ρ α γ, Represents P m' e' ∧ e'.volumes = op.call.onVolumes e.volumes := by
  have hwell := hr.wellFormed.step h
  have hregistry := hr.registry.effect hr.wellFormed hdup (step_effect hr.wellFormed h).1
  have hnamed : SameCall P m e op → op.call ≠ .mix →
      ∃ e' : Ensemble σ ρ α γ, Represents P m' e' ∧ e'.volumes = op.call.onVolumes e.volumes := by
    intro hsame hmix
    obtain ⟨⟨e', reply'⟩, hstep, hshows, -⟩ := hsame.of_ok h
    exact ⟨e', ⟨hwell, hregistry, hshows⟩, volumes_of_named hmix hstep⟩
  obtain ⟨call, uninit⟩ := op
  cases call with
  | addSource source =>
      exact hnamed (addSource_agrees hr source uninit (hdup source rfl)) (by simp)
  | removeSource ssrc => exact hnamed (removeSource_agrees hr ssrc uninit) (by simp)
  | updateVolume ssrc volume => exact hnamed (updateVolume_agrees hr ssrc volume uninit) (by simp)
  | addRecordedData ssrc data size =>
      exact hnamed (addRecordedData_agrees hr ssrc data size uninit) (by simp)
  | mix =>
      have hcall := callStep_of_step h
      cases hcall with
      | mix result hmix =>
          obtain ⟨⟨e', hshows, hvolumes⟩, -⟩ := mix_told hr hmix
          exact ⟨e', ⟨hwell, hregistry, hshows⟩, hvolumes⟩

/-- The ensemble of a new mixer has the volumes of its configuration. -/
theorem volumes_of_create {config : MixerConfig} {uninit : Nat → Int16}
    (h : Ensemble.create P config uninit = .ok e) :
    e.volumes = volumesAfter config [] := by
  have hall : ∀ (sources : List MixerSource) (c : Numbers)
      (voices voices' : Roster Int32 (Voice σ ρ α)),
      Ensemble.addAll P c uninit voices sources = .ok voices' →
      voices'.map (fun v => v.source.volume)
        = volumesOf (voices.map fun v => v.source.volume) sources := by
    intro sources
    induction sources with
    | nil =>
        intro c voices voices' hadd
        cases hadd
        rfl
    | cons source rest ih =>
        intro c voices voices' hadd
        simp only [Ensemble.addAll, bind_eq_ok] at hadd
        obtain ⟨object, hmake, hrest⟩ := hadd
        rw [ih c _ _ hrest, Roster.map_add, (makeSource_ok hmake).2.1]
        rfl
  simp only [Ensemble.create, bind_eq_ok] at h
  obtain ⟨c, -, voices, hadd, frame, -, hret⟩ := h
  cases hret
  have hvoices := hall config.sources c Roster.empty voices hadd
  simp only [Ensemble.volumes, volumesAfter, List.foldl_nil, ← Roster.sorted_map, hvoices]
  rfl

/-! ## Pointers that dangle -/

/-- A pointer to a destroyed object is registered. -/
def Dangling (m : AudioMixer σ ρ α γ) : Prop :=
  ∃ p ∈ m.pointers, m.heap.get? p = none ∧ p < m.heap.next

/-- Asking the sources hands out no pointers. -/
theorem next_askSources {hz : Int} {uninit : Nat → Int16} {heap heap' : Heap (AudioSource σ ρ α)}
    {list : List SourceStatus} {asked : List Asked}
    (h : AudioMixer.askSources P hz uninit heap list = .ok (heap', asked)) :
    heap'.next = heap.next := by
  induction list generalizing heap asked with
  | nil =>
      cases h
      rfl
  | cons status rest ih =>
      simp only [AudioMixer.askSources] at h
      split at h
      · cases h
      · simp only [bind_eq_ok] at h
        obtain ⟨_, -, ⟨heap₁, asked₁⟩, hrest, hret⟩ := h
        cases hret
        have hnext := ih hrest
        exact hnext

/-- Pointers are handed out one after the other. -/
theorem next_le_of_step {op : MixerOp} {reply : MixerReply} (hm : WellFormed P m)
    (h : (mixerMachine P).step m op = .ok (m', reply)) : m.heap.next ≤ m'.heap.next := by
  have hcall := callStep_of_step h
  generalize op.call = call at hcall
  cases hcall with
  | addSource source ok hadd =>
      obtain ⟨heffect, -⟩ := addSource_effect hm hadd
      cases heffect with
      | inPlace hno => exact absurd rfl (hno source)
      | stored _ _ _ _ _ _ _ hheap =>
          rw [hheap]
          exact Nat.le_succ _
      | dangling _ _ _ _ _ hheap =>
          rw [hheap]
          exact Nat.le_succ _
  | removeSource ssrc ok hremove =>
      cases hp : m.sources[ssrc]? with
      | none =>
          rw [removeSource_of_none hp] at hremove
          cases hremove
          exact Nat.le_refl _
      | some p =>
          rw [removeSource_of_some hm hp] at hremove
          cases hremove
          exact Nat.le_refl _
  | updateVolume ssrc volume hvolume =>
      subst hvolume
      unfold AudioMixer.updateVolume
      split <;> exact Nat.le_refl _
  | addRecordedData ssrc data size hadd =>
      rcases addRecordedData_cases hadd with ⟨_, rfl⟩ | ⟨_, _, _, _, _, _, rfl⟩
      · exact Nat.le_refl _
      · exact Nat.le_refl _
  | mix result hmix =>
      obtain ⟨_, heap, -, hasked, _, rfl⟩ := mix_ok hmix
      exact Nat.le_of_eq (next_askSources hasked).symm

/-- **A dangling pointer stays**: only owned pointers are unregistered, and
no pointer is handed out twice. -/
theorem Dangling.step {op : MixerOp} {reply : MixerReply} (hd : Dangling m)
    (hm : WellFormed P m) (h : (mixerMachine P).step m op = .ok (m', reply)) : Dangling m' := by
  obtain ⟨p, hmem, hnone, hlt⟩ := hd
  have hnext := next_le_of_step hm h
  have hne : p ≠ m.heap.next := Nat.ne_of_lt hlt
  have heffect := (step_effect hm h).1
  generalize op.call = call at heffect
  refine ⟨p, ?_, ?_, Nat.lt_of_lt_of_le hlt hnext⟩
  · cases heffect with
    | inPlace _ _ _ hpointers => exact hpointers ▸ hmem
    | stored _ _ _ _ _ _ hpointers => simp [hpointers, hmem]
    | dangling _ _ _ _ hpointers => simp [hpointers, hmem]
    | removed ssrc q hq _ hpointers =>
        have hpq : p ≠ q := by
          rintro rfl
          obtain ⟨object, hobject, -⟩ := (hm.owned ssrc p).mp hq
          rw [hnone] at hobject
          cases hobject
        rw [hpointers]
        exact (List.mem_erase_of_ne hpq).mpr hmem
  · cases heffect with
    | inPlace _ _ _ _ hheap =>
        have hp := hheap p
        rw [hnone] at hp
        cases hp' : m'.heap.get? p with
        | none => rfl
        | some object =>
            rw [hp'] at hp
            cases hp
    | stored _ _ _ _ _ _ _ hheap =>
        rw [hheap, Heap.get?_alloc]
        exact (if_neg hne).trans hnone
    | dangling _ _ _ _ _ hheap => rw [hheap, Heap.get?_alloc_free, hnone]
    | removed _ _ _ _ _ hheap =>
        rw [hheap, Heap.get?_free]
        split
        · rfl
        · exact hnone

/-- A duplicate `AddSource` leaves a pointer dangling. -/
theorem dangling_of_duplicate {op : MixerOp} {reply : MixerReply} (hm : WellFormed P m)
    (hdup : ¬ NoDuplicate m op) (h : (mixerMachine P).step m op = .ok (m', reply)) :
    Dangling m' := by
  simp only [NoDuplicate, not_forall] at hdup
  obtain ⟨source, hcall, htaken⟩ := hdup
  have heffect := (step_effect hm h).1
  rw [hcall] at heffect
  cases heffect with
  | inPlace hno => exact absurd rfl (hno source)
  | stored _ _ hnew => exact absurd hnew htaken
  | dangling _ object _ _ hpointers hheap =>
      refine ⟨m.heap.next, by simp [hpointers], ?_, ?_⟩
      · rw [hheap, Heap.get?_alloc_free]
        exact m.heap.unused _ (Nat.le_refl _)
      · rw [hheap]
        exact Nat.lt_succ_self _

/-- **A run has no duplicate, or ends with a dangling pointer.** -/
theorem meets_or_dangling {ops : List MixerOp} {replies : List MixerReply}
    (hm : WellFormed P m) (h : (mixerMachine P).run m ops = .ok (m', replies)) :
    (mixerMachine P).Meets NoDuplicate m ops ∨ Dangling m' := by
  induction ops generalizing m replies with
  | nil => exact .inl trivial
  | cons op ops ih =>
      obtain ⟨m₁, r, rs, hstep, hrun, -⟩ := Machine.of_run_cons h
      by_cases hdup : NoDuplicate m op
      · rcases ih (hm.step hstep) hrun with hmeets | hdangling
        · left
          refine ⟨hdup, ?_⟩
          intro s r' hstep'
          rw [hstep] at hstep'
          cases hstep'
          exact hmeets
        · exact .inr hdangling
      · right
        have hstart := dangling_of_duplicate hm hdup hstep
        exact (Machine.run_invariant (fun m => WellFormed P m ∧ Dangling m)
          (fun _ _ _ _ hI hs => ⟨hI.1.step hs, hI.2.step hI.1 hs⟩)
          ⟨hm.step hstep, hstart⟩ hrun).2

/-- Over a dangling pointer no `Mix` returns. -/
theorem mix_error_of_dangling {uninit : Nat → Int16} {out : AudioMixer σ ρ α γ × MixResult}
    (hd : Dangling m) (h : m.mix P uninit = .ok out) : False := by
  obtain ⟨m', result⟩ := out
  obtain ⟨p, hmem, hnone, -⟩ := hd
  obtain ⟨rates, heap, hrates, -⟩ := mix_ok h
  obtain ⟨status, hstatus, rfl⟩ := List.mem_map.mp hmem
  have hfollowed : ∀ (list : List SourceStatus) (rates : List Int),
      AudioMixer.preferredRates m.heap list = .ok rates → status ∉ list := by
    intro list
    induction list with
    | nil => simp
    | cons first rest ih =>
        intro rates hok hin
        simp only [AudioMixer.preferredRates] at hok
        split at hok
        · cases hok
        · rename_i source hsource
          simp only [bind_eq_ok] at hok
          obtain ⟨rates', hrest, -⟩ := hok
          rcases List.mem_cons.mp hin with rfl | hin
          · rw [hnone] at hsource
            cases hsource
          · exact ih rates' hrest hin
  exact hfollowed _ _ hrates hstatus

/-! ## Whole runs -/

/-- The mixer after a run without duplicates shows an ensemble of the
volumes the specification gives. -/
theorem volumes_of_run {config : MixerConfig} {uninit : Nat → Int16}
    {m₀ : AudioMixer σ ρ α γ} {ops : List MixerOp} {replies : List MixerReply}
    (hcreate : AudioMixer.create P config uninit = .ok m₀)
    (hmeets : (mixerMachine P).Meets NoDuplicate m₀ ops)
    (hrun : (mixerMachine P).run m₀ ops = .ok (m, replies)) :
    ∃ e : Ensemble σ ρ α γ, Represents P m e ∧
      e.volumes = volumesAfter config (ops.map MixerOp.call) := by
  obtain ⟨e₀, hcreate', hr₀⟩ := (create_agrees P config uninit).of_ok hcreate
  have hvolumes₀ := volumes_of_create hcreate'
  -- the specification runs along, from any volumes
  have hgeneral : ∀ (ops : List MixerOp) (replies : List MixerReply)
      (m₀ m : AudioMixer σ ρ α γ) (e₀ : Ensemble σ ρ α γ), Represents P m₀ e₀ →
      (mixerMachine P).Meets NoDuplicate m₀ ops → (mixerMachine P).run m₀ ops = .ok (m, replies) →
      ∃ e : Ensemble σ ρ α γ, Represents P m e ∧ e.volumes
        = (ops.map MixerOp.call).foldl (fun volumes call => call.onVolumes volumes) e₀.volumes := by
    intro ops
    induction ops with
    | nil =>
        intro replies m₀ m e₀ hr _ hrun
        cases hrun
        exact ⟨e₀, hr, rfl⟩
    | cons op ops ih =>
        intro replies m₀ m e₀ hr hmeets hrun
        obtain ⟨m₁, r, rs, hstep, hrest, -⟩ := Machine.of_run_cons hrun
        obtain ⟨e₁, hr₁, hvolumes⟩ := volumes_step hr hmeets.1 hstep
        obtain ⟨e, he, hvolumes'⟩ := ih rs m₁ m e₁ hr₁ (hmeets.2 m₁ r hstep) hrest
        exact ⟨e, he, by rw [hvolumes', hvolumes]; rfl⟩
  obtain ⟨e, he, hvolumes⟩ := hgeneral ops replies m₀ m e₀ hr₀ hmeets hrun
  exact ⟨e, he, by rw [hvolumes, hvolumes₀]; rfl⟩

/-- **What `Mix` asks is what the calls before it say**: in every run of
every mixer, each `Mix` asks exactly the sources that were added and not
removed, those of the configuration in the order of their ssrcs and then
each in the order of its addition, every one at the volume last set. -/
theorem mix_asks_history (P : Platform σ ρ α γ) (config : MixerConfig) (uninit : Nat → Int16)
    (m₀ m : AudioMixer σ ρ α γ) (ops : List MixerOp) (replies : List MixerReply)
    (hcreate : AudioMixer.create P config uninit = .ok m₀)
    (hrun : (mixerMachine P).run m₀ ops = .ok (m, replies)) :
    ∀ before fresh after, ops = before ++ ⟨.mix, fresh⟩ :: after →
      ∃ result sources, replies[before.length]? = some (.mixed result sources) ∧
        result.told sources = (volumesAfter config (before.map MixerOp.call)).items.map
          fun item => (some item.1, item.2) := by
  rintro before fresh after rfl
  obtain ⟨m₁, rs₁, rs₂, hbefore, hrest, rfl⟩ := Machine.of_run_append hrun
  obtain ⟨m₂, r, rs₃, hstep, -, rfl⟩ := Machine.of_run_cons hrest
  have hlength := Machine.length_of_run hbefore
  have hcall := callStep_of_step hstep
  cases hcall with
  | mix result hmix =>
      refine ⟨result, m₁.sources, by simp [← hlength], ?_⟩
      have hm₀ := (create_spec hcreate).1
      rcases meets_or_dangling hm₀ hbefore with hmeets | hdangling
      · obtain ⟨e, hr, hvolumes⟩ := volumes_of_run hcreate hmeets hbefore
        rw [(mix_told hr hmix).2, hvolumes]
      · exact absurd hmix fun hok => mix_error_of_dangling hdangling hok

/-- Half the volume for the first source, the second removed, a third
added, and a frame. -/
def changeAndMix : List MixerOp :=
  [(MixerCall.updateVolume 1 0.5).zeroed, (MixerCall.removeSource 2).zeroed,
    (MixerCall.addSource (recordSource 3)).zeroed, MixerCall.mix.zeroed]

theorem mix_asks_history_two :
    ∃ m₀ m replies,
      AudioMixer.create smallPlatform (mono8kConfig [fileSource 2 "", recordSource 1])
        (fun _ => 0) = .ok m₀ ∧
      (mixerMachine smallPlatform).run m₀ changeAndMix = .ok (m, replies) ∧
      ∃ result sources, replies[3]? = some (.mixed result sources) ∧
        result.told sources = [(some (1 : Int32), (0.5 : Float32)), (some 3, 1)] := by
  obtain ⟨m₀, m, replies, hcreate, hrun⟩ :
      ∃ m₀ m replies,
        AudioMixer.create smallPlatform (mono8kConfig [fileSource 2 "", recordSource 1])
          (fun _ => 0) = .ok m₀ ∧
        (mixerMachine smallPlatform).run m₀ changeAndMix = .ok (m, replies) :=
    ⟨_, _, _, rfl, rfl⟩
  obtain ⟨result, sources, hreply, htold⟩ := mix_asks_history smallPlatform _ _ m₀ m
    changeAndMix replies hcreate hrun (changeAndMix.take 3) (fun _ => 0) [] rfl
  have hsorted : ([(2, 1), (1, 1)] : List (Int32 × Float32)).mergeSort
      (fun a b => (compare a.1 b.1).isLE) = [(1, 1), (2, 1)] := by
    simp [List.mergeSort, List.MergeSort.Internal.splitInTwo,
      show compare (2 : Int32) 1 = .gt from rfl]
  refine ⟨m₀, m, replies, hcreate, hrun, result, sources, hreply, htold.trans ?_⟩
  simp [volumesAfter, volumesOf, mono8kConfig, fileSource, recordSource, Roster.empty,
    Roster.sorted, changeAndMix, MixerCall.zeroed, MixerCall.onVolumes, Roster.add,
    Roster.remove, Roster.modify, hsorted]

/-! ## The destructor -/

/-- Unregistering one pointer after the other. -/
theorem pointers_removeAll (list : List SourceStatus) (items : List (Int32 × Ptr)) :
    (items.foldl (fun list item => SourceStatus.remove list item.2) list).map
        SourceStatus.audioSource
      = (list.map SourceStatus.audioSource).diff (items.map Prod.snd) := by
  induction items generalizing list with
  | nil => simp
  | cons item items ih =>
      rw [List.foldl_cons, ih, pointers_remove, List.map_cons, List.diff_cons]

/-- Without owners every pointer that goes away takes its object along. -/
theorem releaseAll_of_empty (items : List (Int32 × Ptr)) (m : AudioMixer σ ρ α γ)
    (hempty : m.sources = ∅) :
    items.foldl (fun m item => m.release item.2) m
      = { m with heap := items.foldl (fun heap item => heap.free item.2) m.heap } := by
  induction items generalizing m with
  | nil => rfl
  | cons item items ih =>
      have hno : ∀ ssrc : Int32, m.sources[ssrc]? ≠ some item.2 := by
        intro ssrc
        simp [hempty]
      rw [List.foldl_cons, release_of_not_owned hno]
      exact ih _ hempty

theorem get?_freeAll (items : List (Int32 × Ptr)) (heap : Heap (AudioSource σ ρ α)) (p : Ptr) :
    (items.foldl (fun heap item => heap.free item.2) heap).get? p
      = if p ∈ items.map Prod.snd then none else heap.get? p := by
  induction items generalizing heap with
  | nil => simp
  | cons item items ih =>
      rw [List.foldl_cons, ih, Heap.get?_free]
      simp only [List.map_cons, List.mem_cons]
      by_cases hp : p = item.2
      · have hin : p = item.2 ∨ p ∈ items.map Prod.snd := .inl hp
        rw [if_pos hp, if_pos hin, ite_self]
      · have hin : (p = item.2 ∨ p ∈ items.map Prod.snd) ↔ p ∈ items.map Prod.snd :=
          or_iff_right hp
        rw [if_neg hp, if_congr hin rfl rfl]

/-- What the destructor leaves registered: the pointers nothing owned. -/
theorem pointers_destroy (m : AudioMixer σ ρ α γ) :
    m.destroy.pointers = m.pointers.diff (m.sources.toList.map Prod.snd) := by
  simp only [AudioMixer.destroy, releaseAll_of_empty, AudioMixer.pointers, pointers_removeAll]

/-- It destroys every object. -/
theorem heap_destroy (hm : WellFormed P m) (p : Ptr) : m.destroy.heap.get? p = none := by
  simp only [AudioMixer.destroy, releaseAll_of_empty, get?_freeAll]
  split
  · rfl
  · rename_i hnot
    cases hobject : m.heap.get? p with
    | none => rfl
    | some object =>
        have howned := (hm.owned object.ssrc p).mpr ⟨object, hobject, rfl⟩
        exact absurd (mem_values.mpr ⟨_, howned⟩) hnot

/-- **The destructor after any run**: it destroys every object there is,
and unregisters every pointer exactly when no ssrc was added twice. -/
theorem destroy_unregisters_iff (P : Platform σ ρ α γ) (config : MixerConfig)
    (uninit : Nat → Int16) (m₀ m : AudioMixer σ ρ α γ) (ops : List MixerOp)
    (replies : List MixerReply) (hcreate : AudioMixer.create P config uninit = .ok m₀)
    (hrun : (mixerMachine P).run m₀ ops = .ok (m, replies)) :
    (∀ p, m.destroy.heap.get? p = none) ∧
      (m.destroy.registered = [] ↔ (mixerMachine P).Meets NoDuplicate m₀ ops) := by
  have hm₀ := (create_spec hcreate).1
  have hm : WellFormed P m :=
    Machine.run_invariant (WellFormed P) (fun _ _ _ _ hI hstep => hI.step hstep) hm₀ hrun
  refine ⟨heap_destroy hm, ?_⟩
  have hregistered : m.destroy.registered = [] ↔ m.destroy.pointers = [] :=
    List.map_eq_nil_iff.symm
  rw [hregistered, pointers_destroy]
  constructor
  · intro hnil
    rcases meets_or_dangling hm₀ hrun with hmeets | ⟨p, hmem, hnone, -⟩
    · exact hmeets
    · -- no ssrc owns the pointer, so it would still be registered
      have hfree : p ∉ m.sources.toList.map Prod.snd := by
        intro hin
        obtain ⟨ssrc, hp⟩ := mem_values.mp hin
        obtain ⟨object, hobject, -⟩ := (hm.owned ssrc p).mp hp
        rw [hnone] at hobject
        cases hobject
      have hleft := List.mem_diff_of_mem hmem hfree
      rw [hnil] at hleft
      cases hleft
  · intro hmeets
    obtain ⟨-, hr⟩ := registry_of_meets hm₀ (registry_of_create hcreate) hmeets hrun
    rw [List.eq_nil_iff_forall_not_mem]
    intro p hp
    rw [hr.once.mem_sdiff_iff] at hp
    exact hp.2 (mem_values.mpr ((hr.owned p).mp hp.1))

theorem destroy_unregisters_iff_two :
    ∃ m₀ m replies, AudioMixer.create smallPlatform (mono8kConfig []) (fun _ => 0) = .ok m₀ ∧
      (mixerMachine smallPlatform).run m₀ addTwice = .ok (m, replies) ∧
      m.destroy.registered.length = 1 ∧
      ¬ (mixerMachine smallPlatform).Meets NoDuplicate m₀ addTwice := by
  obtain ⟨m₀, m, replies, hcreate, hrun, hleft⟩ :
      ∃ m₀ m replies, AudioMixer.create smallPlatform (mono8kConfig []) (fun _ => 0) = .ok m₀ ∧
        (mixerMachine smallPlatform).run m₀ addTwice = .ok (m, replies) ∧
        m.destroy.registered.length = 1 :=
    ⟨_, _, _, rfl, rfl, rfl⟩
  have hiff := (destroy_unregisters_iff smallPlatform _ _ m₀ m addTwice replies hcreate hrun).2
  refine ⟨m₀, m, replies, hcreate, hrun, hleft, fun hmeets => ?_⟩
  rw [hiff.mpr hmeets] at hleft
  exact absurd hleft (by decide)

end L4AudioMixer.Mixer
