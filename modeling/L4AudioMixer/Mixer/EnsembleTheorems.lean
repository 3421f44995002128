/-
L4AudioMixer.Mixer.EnsembleTheorems — the mixer refines the ensemble.

`mixer_refines_ensemble` compares `src/audio_mixer.cpp`, with its map of
owners, its heap and its list of plain pointers, to the ensemble, which has
none of them. The constructors fail alike or build a mixer that represents
the ensemble, and from there every run without a duplicate `AddSource` has
the same outcome in both: the same failure, or the same replies.

The one thing asked of WebRTC is that the combiner works on what the
sources answered and not on where they lie. One lemma for each call
relates the outcomes; the rule of `Lib.Refinement` does the runs.
-/
import L4AudioMixer.Lib.Refinement
import L4AudioMixer.Mixer.Ensemble
import L4AudioMixer.Mixer.IsolationTheorems

namespace L4AudioMixer.WebRtc

open L4AudioMixer.Lib

/-- What a source that was asked gave, its pointer apart. -/
def Asked.blind (a : Asked) : Ramped × AudioFrameInfo × Float32 :=
  (a.status.rest, a.info, a.volume)

/-- The combiner works on what the sources answered, not on where they
lie. -/
def IgnoresPointers {γ : Type} (library : MixerLibrary γ) : Prop :=
  ∀ combiner channels hz asked asked' frame, asked.map Asked.blind = asked'.map Asked.blind →
    library.combine combiner channels hz asked frame
      = library.combine combiner channels hz asked' frame

/-- `RemoveSource` of a pointer that is registered once. -/
theorem SourceStatus.remove_eq_filter {list : List SourceStatus} {p : Ptr}
    (h : (list.map SourceStatus.audioSource).Nodup) :
    SourceStatus.remove list p = list.filter fun status => status.audioSource ≠ p := by
  induction list with
  | nil => rfl
  | cons status rest ih =>
      simp only [List.map_cons, List.nodup_cons] at h
      by_cases hp : status.audioSource = p
      · have hothers : ∀ s ∈ rest, s.audioSource ≠ p := by
          rintro s hs rfl
          exact h.1 (hp ▸ List.mem_map_of_mem hs)
        simp only [SourceStatus.remove, ne_eq, decide_not, hp, decide_true,
          List.eraseP_cons_of_pos, Bool.not_true, Bool.false_eq_true, not_false_eq_true,
          List.filter_cons_of_neg]
        symm
        rw [List.filter_eq_self]
        intro s hs
        simpa using hothers s hs
      · have hih := ih h.2
        simp only [SourceStatus.remove] at hih ⊢
        simp [hp, hih]

end L4AudioMixer.WebRtc

namespace L4AudioMixer.Mixer

open L4AudioMixer.Lib
open L4AudioMixer.Libav
open L4AudioMixer.WebRtc
open L4AudioMixer.Source

variable {σ ρ α γ : Type} {P : Platform σ ρ α γ} {m m' : AudioMixer σ ρ α γ}
  {e : Ensemble σ ρ α γ}

/-! ## Looking up -/

/-- What stands at one place of a list stands for something in the other. -/
theorem exists_of_forall₂_left {β δ : Type} {R : β → δ → Prop} {xs : List β} {ys : List δ}
    (h : List.Forall₂ R xs ys) {x : β} (hx : x ∈ xs) : ∃ y ∈ ys, R x y := by
  induction h with
  | nil => cases hx
  | cons hR _ ih =>
      rcases List.mem_cons.mp hx with rfl | hmem
      · exact ⟨_, List.mem_cons_self, hR⟩
      · obtain ⟨y, hy, hRy⟩ := ih hmem
        exact ⟨y, List.mem_cons_of_mem _ hy, hRy⟩

theorem exists_of_forall₂_right {β δ : Type} {R : β → δ → Prop} {xs : List β} {ys : List δ}
    (h : List.Forall₂ R xs ys) {y : δ} (hy : y ∈ ys) : ∃ x ∈ xs, R x y :=
  exists_of_forall₂_left h.flip hy

/-- An ssrc that nothing is stored under has no voice. -/
theorem Shows.get?_of_none (hs : Shows m e) {ssrc : Int32} (h : m.sources[ssrc]? = none) :
    e.voices.get? ssrc = none := by
  cases hv : e.voices.get? ssrc with
  | none => rfl
  | some v =>
      obtain ⟨status, -, hstands⟩ := exists_of_forall₂_right hs.voices (Roster.mem_of_get? hv)
      have howner : m.sources[ssrc]? = some status.audioSource := hstands.owner
      rw [h] at howner
      cases howner

/-- An ssrc that a pointer is stored under has the source as its voice. -/
theorem Represents.get?_of_some (hr : Represents P m e) {ssrc : Int32} {p : Ptr}
    (h : m.sources[ssrc]? = some p) :
    ∃ v, e.voices.get? ssrc = some v ∧ m.heap.get? p = some v.source := by
  obtain ⟨status, hmem, hptr⟩ := List.mem_map.mp ((hr.registry.owned p).mpr ⟨ssrc, h⟩)
  obtain ⟨⟨k, v⟩, hitem, hstands⟩ := exists_of_forall₂_left hr.shows.voices hmem
  have hk : k = ssrc := hr.wellFormed.injective (hptr ▸ hstands.owner) h
  subst hk
  exact ⟨v, Roster.get?_of_mem hitem, hptr ▸ hstands.source⟩

/-- The pointer of an ssrc is found back. -/
theorem ownerOf_eq (hm : WellFormed P m) {ssrc : Int32} {p : Ptr}
    (h : m.sources[ssrc]? = some p) : ownerOf m.sources p = some ssrc := by
  have hmem := Std.ExtTreeMap.mem_toList_iff_getElem?_eq_some.mpr h
  cases hfind : m.sources.toList.find? (fun item => item.2 = p) with
  | none =>
      have hno := List.find?_eq_none.mp hfind _ hmem
      simp at hno
  | some item =>
      have hp : item.2 = p := by simpa using List.find?_some hfind
      have hitem := Std.ExtTreeMap.mem_toList_iff_getElem?_eq_some.mp
        (List.mem_of_find?_eq_some hfind)
      simp only [ownerOf, hfind, Option.map_some, hm.injective (hp ▸ hitem) h]

/-! ## Calls that name an ssrc -/

/-- The outcome of a call, seen in both machines. -/
abbrev SameCall (P : Platform σ ρ α γ) (m : AudioMixer σ ρ α γ) (e : Ensemble σ ρ α γ)
    (op : MixerOp) : Prop :=
  SameOutcome (fun out out' => Shows out.1 out'.1 ∧ out.2.view = out'.2)
    ((mixerMachine P).step m op) ((ensembleMachine P).step e op)

/-- `AddSource` of a new ssrc as one equation. -/
theorem addSource_eq_of_new {source : MixerSource} {uninit : Nat → Int16} (hm : WellFormed P m)
    (hnew : m.sources[source.ssrc]? = none) :
    m.addSource P source uninit = (do
      let object ← m.makeSource P source uninit
      return ({ m with
        heap := (m.heap.alloc object).2
        sources := m.sources.insertIfNew source.ssrc m.heap.next
        registered := SourceStatus.add m.registered m.heap.next uninit }, true)) := by
  cases hmake : m.makeSource P source uninit with
  | error fault =>
      simp only [AudioMixer.addSource, AudioMixer.doAddSource, hmake, bind, Except.bind]
  | ok object =>
      obtain ⟨⟨m₁, p⟩, hadd⟩ := doAddSource_of_makeSource hmake
      have hok : m.addSource P source uninit = .ok ((m₁.register p uninit).release p, true) := by
        simp only [AudioMixer.addSource, hadd, bind, Except.bind, pure, Except.pure]
      obtain ⟨object', hmake', -, hm'⟩ := addSource_of_new hm hnew hok
      cases hmake.symm.trans hmake'
      rw [hok, hm']
      rfl

/-- What stands for a voice goes on doing so when an ssrc that is free is
given to a new object. -/
theorem Stands.stored {sources : Std.ExtTreeMap Int32 Ptr} {heap : Heap (AudioSource σ ρ α)}
    {status : SourceStatus} {item : Int32 × Voice σ ρ α} {k : Int32}
    (h : Stands sources heap status item) (hnew : sources[k]? = none) (p : Ptr)
    (object : AudioSource σ ρ α) :
    Stands (sources.insertIfNew k p) (heap.alloc object).2 status item where
  owner := by
    rw [getElem?_insertIfNew_eq, if_neg, h.owner]
    rintro ⟨rfl, -⟩
    rw [h.owner] at hnew
    cases hnew
  source := Heap.get?_alloc_of_some object h.source
  rest := h.rest

theorem addSource_agrees (hr : Represents P m e) (source : MixerSource) (uninit : Nat → Int16)
    (hnew : m.sources[source.ssrc]? = none) : SameCall P m e ⟨.addSource source, uninit⟩ := by
  have hfree := hr.shows.get?_of_none hnew
  have hmakes : (e.numbers.mixer P).makeSource P = m.makeSource P :=
    makeSource_congr hr.shows.numbers.symm
  have hmake : (e.numbers.mixer P).makeSource P source uninit = m.makeSource P source uninit := by
    rw [hmakes]
  simp only [SameCall, mixerMachine, ensembleMachine, addSource_eq_of_new hr.wellFormed hnew,
    Ensemble.addSource, hmake, bind_assoc, pure_bind]
  refine (SameOutcome.refl _).bind ?_
  rintro object _ rfl
  refine .ok ⟨⟨hr.shows.numbers, hr.shows.combiner, hr.shows.mixedFrame, ?_⟩, rfl⟩
  show List.Forall₂ _ (SourceStatus.add m.registered m.heap.next uninit)
    (e.voices.add source.ssrc ⟨object, .fresh uninit⟩).items
  rw [Roster.items_add_of_none hfree]
  refine List.rel_append (hr.shows.voices.imp fun status item h => h.stored hnew _ object) ?_
  refine .cons ⟨?_, ?_, rfl⟩ .nil
  · rw [getElem?_insertIfNew_eq, if_pos ⟨rfl, hnew⟩]
  · exact m.heap.get?_alloc_self object

theorem removeSource_agrees (hr : Represents P m e) (ssrc : Int32) (uninit : Nat → Int16) :
    SameCall P m e ⟨.removeSource ssrc, uninit⟩ := by
  have hs := hr.shows
  simp only [SameCall, mixerMachine, ensembleMachine]
  cases hp : m.sources[ssrc]? with
  | none =>
      have hfree := hs.get?_of_none hp
      rw [removeSource_of_none hp, hfree, Roster.remove_of_none hfree]
      exact .ok ⟨hs, rfl⟩
  | some p =>
      obtain ⟨v, hv, -⟩ := hr.get?_of_some hp
      rw [removeSource_of_some hr.wellFormed hp, hv]
      refine .ok ⟨⟨hs.numbers, hs.combiner, hs.mixedFrame, ?_⟩, rfl⟩
      show List.Forall₂ _ (SourceStatus.remove m.registered p)
        (e.voices.items.filter fun item => item.1 ≠ ssrc)
      rw [SourceStatus.remove_eq_filter hr.registry.once]
      -- a status has this pointer where its voice has this ssrc
      have hsame : ∀ status item, Stands m.sources m.heap status item →
          (status.audioSource ≠ p ↔ item.1 ≠ ssrc) := by
        intro status item hstands
        refine not_congr ⟨?_, ?_⟩
        · rintro rfl
          exact hr.wellFormed.injective hstands.owner hp
        · intro hk
          rw [← hk] at hp
          exact Option.some.inj (hstands.owner.symm.trans hp)
      have hkept : List.Forall₂ (Stands m.sources m.heap)
          (m.registered.filter fun status => status.audioSource ≠ p)
          (e.voices.items.filter fun item => item.1 ≠ ssrc) := by
        refine List.rel_filter ?_ hs.voices
        intro status item hstands
        simpa using hsame status item hstands
      have hothers : ∀ status ∈ m.registered.filter fun status => status.audioSource ≠ p,
          status.audioSource ≠ p := by
        intro status hmem
        simpa using (List.mem_filter.mp hmem).2
      refine ((List.forall₂_and_left _ _).mpr ⟨hothers, hkept⟩).imp ?_
      rintro status item ⟨hne, hstands⟩
      refine ⟨?_, ?_, hstands.rest⟩
      · rw [getElem?_erase_eq, if_neg ((hsame status item hstands).mp hne), hstands.owner]
      · rw [Heap.get?_free_of_ne m.heap hne, hstands.source]

/-- Changing the object behind the pointer of an ssrc changes its voice. -/
theorem Represents.modify (hr : Represents P m e) {ssrc : Int32} {p : Ptr}
    (hp : m.sources[ssrc]? = some p) {f : AudioSource σ ρ α → AudioSource σ ρ α}
    {g : Voice σ ρ α → Voice σ ρ α}
    (hg : ∀ v, e.voices.get? ssrc = some v → g v = { v with source := f v.source }) :
    Shows { m with heap := m.heap.modify p f } { e with voices := e.voices.modify ssrc g } := by
  refine ⟨hr.shows.numbers, hr.shows.combiner, hr.shows.mixedFrame, ?_⟩
  show List.Forall₂ _ m.registered (e.voices.items.map fun item =>
    (item.1, if item.1 = ssrc then g item.2 else item.2))
  have hitems : ∀ item ∈ e.voices.items, e.voices.get? item.1 = some item.2 := by
    rintro ⟨k, v⟩ hmem
    exact Roster.get?_of_mem hmem
  have hpaired := ((List.forall₂_and_left _ _).mpr ⟨hitems, hr.shows.voices.flip⟩).flip
  rw [List.forall₂_map_right_iff]
  refine hpaired.imp ?_
  rintro status ⟨k, v⟩ ⟨hv, hstands⟩
  have howner : m.sources[k]? = some status.audioSource := hstands.owner
  have hsource : m.heap.get? status.audioSource = some v.source := hstands.source
  by_cases hk : k = ssrc
  · subst hk
    rw [hp] at howner
    cases howner
    simp only [hg v hv, if_true]
    refine ⟨hp, ?_, hstands.rest⟩
    rw [Heap.get?_modify_self, hsource]
    rfl
  · have hne : status.audioSource ≠ p := by
      rintro rfl
      exact hk (hr.wellFormed.injective howner hp)
    refine ⟨howner, ?_, ?_⟩
    · rw [Heap.get?_modify_of_ne m.heap f hne, hsource, if_neg hk]
    · rw [if_neg hk]
      exact hstands.rest

theorem updateVolume_agrees (hr : Represents P m e) (ssrc : Int32) (volume : Float32)
    (uninit : Nat → Int16) : SameCall P m e ⟨.updateVolume ssrc volume, uninit⟩ := by
  simp only [SameCall, mixerMachine, ensembleMachine]
  cases hp : m.sources[ssrc]? with
  | none =>
      rw [Roster.modify_of_none (hr.shows.get?_of_none hp)]
      simp only [AudioMixer.updateVolume, hp]
      exact .ok ⟨hr.shows, rfl⟩
  | some p =>
      simp only [AudioMixer.updateVolume, hp]
      exact .ok ⟨hr.modify hp fun _ _ => rfl, rfl⟩

theorem addRecordedData_agrees (hr : Represents P m e) (ssrc : Int32) (data : Nat → UInt8)
    (size : Int32) (uninit : Nat → Int16) :
    SameCall P m e ⟨.addRecordedData ssrc data size, uninit⟩ := by
  simp only [SameCall, mixerMachine, ensembleMachine, AudioMixer.addRecordedData,
    Ensemble.addRecordedData]
  cases hp : m.sources[ssrc]? with
  | none =>
      rw [hr.shows.get?_of_none hp]
      exact .ok ⟨hr.shows, rfl⟩
  | some p =>
      obtain ⟨v, hv, hsource⟩ := hr.get?_of_some hp
      simp only [hv, hsource, Option.map_some]
      cases hkind : v.source with
      | file s => exact .error _
      | record s =>
          simp only [bind_assoc, pure_bind]
          refine (SameOutcome.refl _).bind ?_
          rintro s' _ rfl
          exact .ok ⟨hr.modify hp fun _ _ => rfl, rfl⟩

/-! ## `Mix` -/

/-- The rates of the registered sources are those of the voices. -/
theorem preferredRates_agree {sources : Std.ExtTreeMap Int32 Ptr}
    {heap : Heap (AudioSource σ ρ α)} {list : List SourceStatus}
    {items : List (Int32 × Voice σ ρ α)} (h : List.Forall₂ (Stands sources heap) list items) :
    AudioMixer.preferredRates heap list
      = .ok (items.map fun item => item.2.source.preferredSampleRate) := by
  induction h with
  | nil => rfl
  | cons hstands _ ih =>
      simp only [AudioMixer.preferredRates, hstands.source, ih, bind, Except.bind]
      rfl

/-- An answered question stands for a voice that was heard. -/
structure StandsHeard (sources : Std.ExtTreeMap Int32 Ptr) (heap : Heap (AudioSource σ ρ α))
    (a : Asked) (item : Int32 × Heard σ ρ α) : Prop where
  owner : sources[item.1]? = some a.status.audioSource
  source : heap.get? a.status.audioSource = some item.2.source
  blind : a.blind = (item.2.status, item.2.info, item.2.volume)

/-- **Asking the list and asking the voices** have the same outcome. No
pointer is registered twice, so each question finds its source as it was
before the list was gone through. -/
theorem askSources_agree {sources : Std.ExtTreeMap Int32 Ptr} (hz : Int) (uninit : Nat → Int16)
    {heap : Heap (AudioSource σ ρ α)} {list : List SourceStatus}
    {items : List (Int32 × Voice σ ρ α)} (hnodup : (list.map SourceStatus.audioSource).Nodup)
    (h : List.Forall₂ (Stands sources heap) list items) :
    SameOutcome
      (fun out heard => List.Forall₂ (StandsHeard sources out.1) out.2 heard.val ∧
        ∀ p ∉ list.map SourceStatus.audioSource, out.1.get? p = heap.get? p)
      (AudioMixer.askSources P hz uninit heap list)
      (Roster.traverseItems (Voice.ask P hz uninit) items) := by
  induction list generalizing heap items with
  | nil =>
      cases h
      exact .ok ⟨.nil, fun _ _ => rfl⟩
  | cons status rest ih =>
      cases h with
      | @cons _ item _ items hstands hrest =>
        simp only [List.map_cons, List.nodup_cons] at hnodup
        have hframe : item.2.status.audioFrame = status.audioFrame := by
          rw [← hstands.rest]
          rfl
        simp only [AudioMixer.askSources, hstands.source, Roster.traverseItems, Voice.ask, hframe]
        cases hget : item.2.source.getAudioFrameWithInfo P hz status.audioFrame uninit with
        | error fault => exact .error fault
        | ok answer =>
            obtain ⟨info, frame, source'⟩ := answer
            -- the others are behind other pointers
            have hother : ∀ s ∈ rest, s.audioSource ≠ status.audioSource := by
              intro s hs heq
              exact hnodup.1 (heq ▸ List.mem_map_of_mem hs)
            have hrest' : List.Forall₂
                (Stands sources (heap.modify status.audioSource fun _ => source')) rest items := by
              refine ((List.forall₂_and_left _ _).mpr ⟨hother, hrest⟩).imp ?_
              rintro s item' ⟨hne, hst⟩
              exact ⟨hst.owner, by rw [Heap.get?_modify_of_ne heap _ hne, hst.source], hst.rest⟩
            have hih := ih hnodup.2 hrest'
            simp only [bind, Except.bind, pure, Except.pure]
            cases hask : AudioMixer.askSources P hz uninit
                (heap.modify status.audioSource fun _ => source') rest with
            | error fault =>
                rw [hih.of_error hask]
                exact .error fault
            | ok out =>
                obtain ⟨heard, hheard, hvoices, hsame⟩ := hih.of_ok hask
                rw [hheard]
                refine .ok ⟨.cons ⟨hstands.owner, ?_, ?_⟩ hvoices, ?_⟩
                · show out.1.get? status.audioSource = some source'
                  rw [hsame _ hnodup.1, Heap.get?_modify_self, hstands.source]
                  rfl
                · simp only [Asked.blind, SourceStatus.rest, ← hstands.rest]
                · intro p hp
                  simp only [List.map_cons, List.mem_cons, not_or] at hp
                  show out.1.get? p = heap.get? p
                  rw [hsame p hp.2, Heap.get?_modify_of_ne heap _ hp.1]

/-- The list after the combiner stands for the voices after it. -/
theorem rampAll_stands {sources : Std.ExtTreeMap Int32 Ptr} {heap : Heap (AudioSource σ ρ α)}
    {asked : List Asked} {items : List (Int32 × Heard σ ρ α)} (ramped : Nat → Ramped)
    (h : List.Forall₂ (StandsHeard sources heap) asked items) :
    List.Forall₂ (Stands sources heap) (SourceStatus.rampAll asked ramped)
      (items.mapIdx fun i item => (item.1, (⟨item.2.source, ramped i⟩ : Voice σ ρ α))) := by
  rw [List.forall₂_iff_get] at h ⊢
  obtain ⟨hlength, hget⟩ := h
  refine ⟨by simp [SourceStatus.rampAll, hlength], fun i h₁ h₂ => ?_⟩
  have h₁' : i < asked.length := by simpa [SourceStatus.rampAll] using h₁
  have h₂' : i < items.length := by simpa using h₂
  have hstands := hget i h₁' h₂'
  simp only [List.get_eq_getElem] at hstands
  simp only [List.get_eq_getElem, SourceStatus.rampAll, List.getElem_mapIdx]
  exact ⟨hstands.owner, hstands.source, rfl⟩

theorem mix_agrees (hcombine : IgnoresPointers P.webrtc) (hr : Represents P m e)
    (uninit : Nat → Int16) : SameCall P m e ⟨.mix, uninit⟩ := by
  have hs := hr.shows
  have hnumbers := hs.numbers
  have hchannels : m.outputChannelNum = e.numbers.outputChannelNum :=
    congrArg Numbers.outputChannelNum hnumbers
  have hreal : m.realOutputSamples = e.numbers.realOutputSamples :=
    congrArg Numbers.realOutputSamples hnumbers
  have hrates : e.voices.values.map (fun v => v.source.preferredSampleRate)
      = e.voices.items.map fun item => item.2.source.preferredSampleRate := by
    simp [Roster.values]
  simp only [SameCall, mixerMachine, ensembleMachine, AudioMixer.mix, Ensemble.mix,
    Roster.traverse, preferredRates_agree hs.voices, hrates, bind_assoc, pure_bind]
  refine (askSources_agree _ uninit hr.registry.once hs.voices).bind ?_
  rintro ⟨heap, asked⟩ ⟨heard, hkeys⟩ ⟨hheard, -⟩
  -- the combiner is given the same, pointers apart
  have hblind : asked.map Asked.blind
      = (heard.map fun item => item.2.asked).map Asked.blind := by
    rw [List.map_map, ← List.forall₂_eq_eq_eq, List.forall₂_map_left_iff,
      List.forall₂_map_right_iff]
    exact hheard.imp fun a item h => h.blind
  simp only [Roster.values, List.map_map, Function.comp_def, ← hcombine _ _ _ _ _ _ hblind,
    AudioMixer.mixSize, ← hchannels, ← hreal, ← hs.combiner, ← hs.mixedFrame]
  refine (SameOutcome.refl _).bind ?_
  rintro _ _ -
  refine .ok ⟨⟨hnumbers, rfl, rfl, rampAll_stands _ hheard⟩, ?_⟩
  simp only [MixerReply.view, EnsembleReply.mixed.injEq, true_and]
  rw [← List.forall₂_eq_eq_eq, List.forall₂_map_left_iff, List.forall₂_map_right_iff]
  refine hheard.imp ?_
  intro a item h
  obtain ⟨hstatus, hinfo, hvolume⟩ : a.status.rest = item.2.status ∧ a.info = item.2.info ∧
      a.volume = item.2.volume := by
    have hb := h.blind
    simp only [Asked.blind, Prod.mk.injEq] at hb
    exact hb
  rw [ownerOf_eq hr.wellFormed h.owner, hstatus, hinfo, hvolume]

/-! ## Every call, and runs -/

/-- **The mixer does what the ensemble says**, call by call. -/
theorem ensemble_refines (hcombine : IgnoresPointers P.webrtc) :
    Machine.Refines (mixerMachine P) (ensembleMachine P) NoDuplicate (Represents P)
      MixerReply.view := by
  intro m e op hr hdup
  have hsame : SameCall P m e op := by
    obtain ⟨call, uninit⟩ := op
    cases call with
    | addSource source => exact addSource_agrees hr source uninit (hdup source rfl)
    | removeSource ssrc => exact removeSource_agrees hr ssrc uninit
    | updateVolume ssrc volume => exact updateVolume_agrees hr ssrc volume uninit
    | addRecordedData ssrc data size => exact addRecordedData_agrees hr ssrc data size uninit
    | mix => exact mix_agrees hcombine hr uninit
  have hkept : ∀ out, (mixerMachine P).step m op = .ok out →
      WellFormed P out.1 ∧ Registry out.1 := by
    intro out hstep
    exact ⟨hr.wellFormed.step hstep,
      hr.registry.effect hr.wellFormed hdup (step_effect hr.wellFormed hstep).1⟩
  refine (hsame.and_of_ok hkept).mono ?_
  rintro out out' ⟨⟨hwell, hregistry⟩, hshows, hview⟩
  exact ⟨⟨hwell, hregistry, hshows⟩, hview⟩

/-! ## The constructors -/

/-- A mixer without registrations holds what a roster says, each source
with the status it will be registered with. -/
structure Holds (P : Platform σ ρ α γ) (uninit : Nat → Int16) (m : AudioMixer σ ρ α γ)
    (voices : Roster Int32 (Voice σ ρ α)) : Prop where
  wellFormed : WellFormed P m
  stored : ∀ ssrc, (m.stored ssrc).map (fun source => (⟨source, .fresh uninit⟩ : Voice σ ρ α))
    = voices.get? ssrc

/-- What `DoAddSource` stores is what is added to the roster. -/
theorem Holds.doAddSource {uninit : Nat → Int16} {voices : Roster Int32 (Voice σ ρ α)}
    {source : MixerSource} {object : AudioSource σ ρ α} {p : Ptr} (h : Holds P uninit m voices)
    (hmake : m.makeSource P source uninit = .ok object)
    (hadd : m.doAddSource P source uninit = .ok (m', p)) :
    Holds P uninit (m'.release p) (voices.add source.ssrc ⟨object, .fresh uninit⟩) := by
  have hstep := installStep_of_doAddSource h.wellFormed hadd
  refine ⟨hstep.wellFormed h.wellFormed, fun ssrc => ?_⟩
  have hfree : voices.get? source.ssrc = none ↔ m.sources[source.ssrc]? = none := by
    rw [← h.stored, Option.map_eq_none_iff, stored_eq_none h.wellFormed]
  rw [Roster.get?_add]
  by_cases hnew : ssrc = source.ssrc ∧ voices.get? source.ssrc = none
  · obtain ⟨rfl, hnone⟩ := hnew
    have hsources := hfree.mp hnone
    obtain ⟨object', hmake', rfl, ⟨-, hrel⟩ | ⟨htaken, -⟩⟩ := doAddSource_release h.wellFormed hadd
    · cases hmake.symm.trans hmake'
      have hstored : (m'.release m.heap.next).stored source.ssrc = some object := by
        simp only [hrel, AudioMixer.stored, getElem?_insertIfNew_eq, hsources, and_self, if_true]
        exact m.heap.get?_alloc_self object
      rw [hstored, if_pos ⟨rfl, hnone⟩]
      rfl
    · exact absurd hsources htaken
  · rw [if_neg hnew, ← h.stored, hstep.stored_of_ne h.wellFormed]
    by_contra hneither
    simp only [not_or, not_not, ne_eq] at hneither
    obtain ⟨rfl, hnone⟩ := hneither
    exact hnew ⟨rfl, hfree.mpr ((stored_eq_none h.wellFormed).mp hnone)⟩

/-- What the first loop of the constructor does not touch. -/
def AudioMixer.besides (m : AudioMixer σ ρ α γ) : Numbers × List SourceStatus × γ × AudioFrame :=
  (m.numbers, m.registered, m.combiner, m.mixedFrame)

theorem addAll_agrees {uninit : Nat → Int16} {voices : Roster Int32 (Voice σ ρ α)}
    (h : Holds P uninit m voices) (sources : List MixerSource) :
    SameOutcome (fun m' voices' => Holds P uninit m' voices' ∧ m'.besides = m.besides)
      (AudioMixer.addAll P uninit m sources)
      (Ensemble.addAll P m.numbers uninit voices sources) := by
  induction sources generalizing m voices with
  | nil => exact .ok ⟨h, rfl⟩
  | cons source rest ih =>
      have hmakes : (m.numbers.mixer P).makeSource P = m.makeSource P := makeSource_congr rfl
      simp only [AudioMixer.addAll, Ensemble.addAll, hmakes]
      cases hmake : m.makeSource P source uninit with
      | error fault =>
          simp only [AudioMixer.doAddSource, hmake, bind, Except.bind]
          exact .error fault
      | ok object =>
          obtain ⟨⟨m₁, p⟩, hadd⟩ := doAddSource_of_makeSource hmake
          have hbesides : (m₁.release p).besides = m.besides := by
            obtain ⟨_, -, rfl, ⟨-, hrel⟩ | ⟨-, hrel⟩⟩ := doAddSource_release h.wellFormed hadd
            · rw [hrel]
              rfl
            · rw [hrel]
              rfl
          have hnumbers : (m₁.release p).numbers = m.numbers := congrArg Prod.fst hbesides
          have hrest := ih (h.doAddSource hmake hadd)
          rw [hnumbers] at hrest
          simp only [hadd, bind, Except.bind]
          exact hrest.mono fun m' voices' hh => ⟨hh.1, hh.2.trans hbesides⟩

/-- The second loop registers what `sources_` holds, with fresh statuses. -/
theorem registerAll_eq_map (uninit : Nat → Int16) (m : AudioMixer σ ρ α γ) :
    m.registerAll uninit = { m with
      registered := m.registered ++ m.sources.toList.map fun item =>
        { audioSource := item.2, audioFrame := { dataArray := uninit } } } := by
  have hfold : ∀ (items : List (Int32 × Ptr)) (m : AudioMixer σ ρ α γ),
      items.foldl (fun m item => m.register item.2 uninit) m = { m with
        registered := m.registered ++ items.map fun item =>
          { audioSource := item.2, audioFrame := { dataArray := uninit } } } := by
    intro items
    induction items with
    | nil => simp
    | cons item rest ih =>
        intro m
        rw [List.foldl_cons, ih]
        simp [AudioMixer.register, SourceStatus.add]
  exact hfold m.sources.toList m

/-- Where everything stands for something, there is a list it stands for. -/
theorem exists_forall₂ {β δ : Type} {R : β → δ → Prop} {xs : List β}
    (h : ∀ x ∈ xs, ∃ y, R x y) : ∃ ys, List.Forall₂ R xs ys := by
  induction xs with
  | nil => exact ⟨[], .nil⟩
  | cons x xs ih =>
      obtain ⟨y, hy⟩ := h x (by simp)
      obtain ⟨ys, hys⟩ := ih fun z hz => h z (by simp [hz])
      exact ⟨y :: ys, .cons hy hys⟩

/-- **The map in the order of its keys** stands for the roster in the order
of its keys. -/
theorem Holds.sorted {uninit : Nat → Int16} {voices : Roster Int32 (Voice σ ρ α)}
    (h : Holds P uninit m voices) :
    List.Forall₂ (Stands m.sources m.heap)
      (m.sources.toList.map fun item =>
        { audioSource := item.2, audioFrame := { dataArray := uninit } })
      voices.sorted.items := by
  let R : Int32 × Ptr → Int32 × Voice σ ρ α → Prop := fun item voice =>
    item.1 = voice.1 ∧ m.heap.get? item.2 = some voice.2.source ∧ voice.2.status = .fresh uninit
  have hmem : ∀ item ∈ m.sources.toList, m.sources[item.1]? = some item.2 := fun item hitem =>
    Std.ExtTreeMap.mem_toList_iff_getElem?_eq_some.mp hitem
  obtain ⟨items, hitems⟩ : ∃ items, List.Forall₂ R m.sources.toList items := by
    apply exists_forall₂
    intro item hitem
    obtain ⟨object, hobject, -⟩ := (h.wellFormed.owned _ _).mp (hmem item hitem)
    exact ⟨(item.1, ⟨object, .fresh uninit⟩), rfl, hobject, rfl⟩
  have hkeys : m.sources.toList.map Prod.fst = items.map Prod.fst := by
    rw [← List.forall₂_eq_eq_eq, List.forall₂_map_left_iff, List.forall₂_map_right_iff]
    exact hitems.imp fun _ _ hR => hR.1
  have hordered : items.Pairwise fun a b => compare a.1 b.1 = .lt := by
    have hlist : (m.sources.toList.map Prod.fst).Pairwise fun a b => compare a b = .lt :=
      List.pairwise_map.mpr Std.ExtTreeMap.ordered_keys_toList
    rw [hkeys] at hlist
    exact List.pairwise_map.mp hlist
  have hnodup : items.Nodup := by
    refine hordered.imp ?_
    rintro a b hab rfl
    have hself : compare a.1 a.1 = .eq := Std.ReflCmp.compare_self
    rw [hself] at hab
    cases hab
  have hperm : items.Perm voices.items := by
    rw [List.perm_ext_iff_of_nodup hnodup voices.distinct.of_map]
    rintro ⟨k, v⟩
    rw [← Roster.get?_eq_some, ← h.stored, Option.map_eq_some_iff]
    constructor
    · intro hv
      obtain ⟨item, hitem, hk, hsource, hstatus⟩ := exists_of_forall₂_right hitems hv
      have hp := hmem item hitem
      rw [hk] at hp
      refine ⟨v.source, WellFormed.stored_eq_some.mpr ⟨item.2, hp, hsource⟩, ?_⟩
      rw [← hstatus]
    · rintro ⟨source, hstored, rfl⟩
      obtain ⟨p, hp, hsource⟩ := WellFormed.stored_eq_some.mp hstored
      obtain ⟨voice, hvoice, hk, hsource', hstatus⟩ := exists_of_forall₂_left hitems
        (Std.ExtTreeMap.mem_toList_iff_getElem?_eq_some.mpr hp)
      rw [hsource] at hsource'
      have hsame : voice = (k, ⟨source, .fresh uninit⟩) := by
        obtain ⟨k', v'⟩ := voice
        obtain ⟨source', status'⟩ := v'
        cases hk
        cases hsource'
        cases hstatus
        rfl
      exact hsame ▸ hvoice
  rw [Roster.items_sorted_eq hperm hordered, List.forall₂_map_left_iff]
  refine ((List.forall₂_and_left _ _).mpr ⟨hmem, hitems⟩).imp ?_
  rintro item voice ⟨hp, hk, hsource, hstatus⟩
  exact ⟨hk ▸ hp, hsource, hstatus.symm⟩

/-- **The constructors** fail alike, or build a mixer and an ensemble it
represents. -/
theorem create_agrees (P : Platform σ ρ α γ) (config : MixerConfig) (uninit : Nat → Int16) :
    SameOutcome (Represents P) (AudioMixer.create P config uninit)
      (Ensemble.create P config uninit) := by
  have hshows : SameOutcome Shows (AudioMixer.create P config uninit)
      (Ensemble.create P config uninit) := by
    have hcreate : AudioMixer.create P config uninit = (do
        let c ← Numbers.check config
        let m ← AudioMixer.addAll P uninit
          (AudioMixer.bare P config c.reportOutputSamples c.realOutputSamples uninit) config.sources
        let m := m.registerAll uninit
        let mixedFrame ← m.mixedFrame.updateFrame P.abi 0 none
          (toSizeT P.abi m.reportOutputSamples) m.outputSampleRate.toInt .kUndefined .kVadUnknown
          (toSizeT P.abi m.outputChannelNum.toInt)
        return { m with mixedFrame }) := by
      simp only [AudioMixer.create, Numbers.check, bind_assoc, pure_bind]
    have hnumbers : ∀ c, Numbers.check config = .ok c →
        (AudioMixer.bare P config c.reportOutputSamples c.realOutputSamples uninit).numbers
          = c := by
      intro c hc
      simp only [Numbers.check, bind_eq_ok] at hc
      obtain ⟨_, -, _, -, _, -, _, -, hret⟩ := hc
      cases hret
      rfl
    rw [hcreate, Ensemble.create]
    refine ((SameOutcome.refl (Numbers.check config)).and_of_ok hnumbers).bind ?_
    rintro c _ ⟨hc, rfl⟩
    have hstart : Holds P uninit
        (AudioMixer.bare P config c.reportOutputSamples c.realOutputSamples uninit)
        Roster.empty := by
      refine ⟨wellFormed_bare P config _ _ uninit, fun ssrc => ?_⟩
      simp [AudioMixer.stored, AudioMixer.bare]
    have hall := addAll_agrees hstart config.sources
    rw [hc] at hall
    refine hall.bind ?_
    rintro m voices ⟨hholds, hbesides⟩
    simp only [AudioMixer.besides, hc, Prod.mk.injEq] at hbesides
    obtain ⟨hnum, hregistered, hcombiner, hframe⟩ := hbesides
    have hrate : m.outputSampleRate = c.outputSampleRate := congrArg Numbers.outputSampleRate hnum
    have hchannels : m.outputChannelNum = c.outputChannelNum :=
      congrArg Numbers.outputChannelNum hnum
    have hreport : m.reportOutputSamples = c.reportOutputSamples :=
      congrArg Numbers.reportOutputSamples hnum
    simp only [registerAll_eq_map, hframe, ← hrate, ← hchannels, ← hreport]
    refine (SameOutcome.refl _).bind ?_
    rintro frame _ rfl
    refine .ok ⟨hnum, hcombiner, rfl, ?_⟩
    rw [hregistered]
    exact hholds.sorted
  refine (hshows.and_of_ok fun m hm => (⟨(create_spec hm).1, registry_of_create hm⟩ :
    WellFormed P m ∧ Registry m)).mono ?_
  rintro m e ⟨⟨hwell, hregistry⟩, hs⟩
  exact ⟨hwell, hregistry, hs⟩

/-! ## The refinement -/

/-- **The mixer refines the ensemble**, over a WebRTC whose combiner works
on what the sources answered and not on where they lie: for every
configuration both constructors fail with the same failure, or both return;
and from there every run without a duplicate `AddSource` fails in both
with the same failure, or gives the same replies, seen without pointers. -/
theorem mixer_refines_ensemble (P : Platform σ ρ α γ) (hcombine : IgnoresPointers P.webrtc)
    (config : MixerConfig) (uninit : Nat → Int16) :
    SameOutcome
      (fun m₀ e₀ => ∀ ops, (mixerMachine P).Meets NoDuplicate m₀ ops →
        SameOutcome (fun out out' => Represents P out.1 out'.1 ∧
            out.2.map MixerReply.view = out'.2)
          ((mixerMachine P).run m₀ ops) ((ensembleMachine P).run e₀ ops))
      (AudioMixer.create P config uninit) (Ensemble.create P config uninit) := by
  refine (create_agrees P config uninit).mono ?_
  intro m₀ e₀ hr ops hmeets
  exact Machine.run_refines (ensemble_refines hcombine) hr hmeets

/-- The combiner of `smallPlatform` reads answers and frames. -/
theorem ignoresPointers_small : IgnoresPointers smallPlatform.webrtc := by
  intro combiner channels hz asked asked' frame h
  -- what it reads are parts of what the lists have in common
  have hget : ∀ i : Nat, asked[i]?.map Asked.blind = asked'[i]?.map Asked.blind := by
    intro i
    rw [← List.getElem?_map, ← List.getElem?_map, h]
  have hfind : ∀ xs : List Asked, (xs.find? fun a => a.info = .kNormal).map Asked.blind
      = (xs.map Asked.blind).find? fun b => b.2.1 = .kNormal := by
    intro xs
    rw [List.find?_map]
    rfl
  have hnormal : (asked.find? fun a => a.info = .kNormal).map Asked.blind
      = (asked'.find? fun a => a.info = .kNormal).map Asked.blind := by
    rw [hfind, hfind, h]
  simp only [smallPlatform, Combined.mk.injEq, true_and]
  refine ⟨funext fun i => ?_, ?_⟩
  · have hi := hget i
    cases ha : asked[i]? <;> cases ha' : asked'[i]? <;>
      simp_all [Asked.blind, SourceStatus.rest]
  · cases ha : asked.find? (fun a => a.info = .kNormal) <;>
      cases ha' : asked'.find? (fun a => a.info = .kNormal) <;>
      simp_all [Asked.blind, SourceStatus.rest]

theorem mixer_refines_ensemble_two :
    ∃ m₀ m replies e₀ e,
      AudioMixer.create smallPlatform (mono8kConfig [recordSource 1, fileSource 2 ""])
        (fun _ => 0) = .ok m₀ ∧
      (mixerMachine smallPlatform).run m₀ recordAndMix = .ok (m, replies) ∧
      Ensemble.create smallPlatform (mono8kConfig [recordSource 1, fileSource 2 ""])
        (fun _ => 0) = .ok e₀ ∧
      (ensembleMachine smallPlatform).run e₀ recordAndMix
        = .ok (e, replies.map MixerReply.view) := by
  obtain ⟨m₀, m, replies, hcreate, hrun⟩ :
      ∃ m₀ m replies,
        AudioMixer.create smallPlatform (mono8kConfig [recordSource 1, fileSource 2 ""])
          (fun _ => 0) = .ok m₀ ∧
        (mixerMachine smallPlatform).run m₀ recordAndMix = .ok (m, replies) :=
    ⟨_, _, _, rfl, rfl⟩
  have hmeets : (mixerMachine smallPlatform).Meets NoDuplicate m₀ recordAndMix := by
    refine ⟨?_, fun _ _ _ => ⟨?_, fun _ _ _ => trivial⟩⟩
    · rintro source ⟨⟩
    · rintro source ⟨⟩
  obtain ⟨e₀, he₀, hruns⟩ := (mixer_refines_ensemble smallPlatform ignoresPointers_small
    (mono8kConfig [recordSource 1, fileSource 2 ""]) (fun _ => 0)).of_ok hcreate
  obtain ⟨⟨e, views⟩, he, -, hviews⟩ := (hruns recordAndMix hmeets).of_ok hrun
  exact ⟨m₀, m, replies, e₀, e, hcreate, hrun, he₀, hviews ▸ he⟩

end L4AudioMixer.Mixer
