/-
L4AudioMixer.Mixer.Effects — what a call can do to a mixer, said once.

A mixer state is well formed when the objects that exist are exactly the
ones `sources_` owns, each under its own ssrc, and each is as its
constructor built it (`WellFormed`). From such a state a call has one of
four effects (`Effect`): objects change in place; a new object is stored
and registered; a new object whose ssrc is taken is registered and then
destroyed; an object is unregistered and destroyed. Every invariant of
the mixer is proved for these four and never by unfolding a call.

Well-formedness itself holds in every reachable state
(`reachable_wellFormed`), duplicate ssrcs included.
-/
import L4AudioMixer.Lib.OrderedMap
import L4AudioMixer.Mixer.AudioMixer
import L4AudioMixer.Source.FileSourceTheorems
import L4AudioMixer.Source.RecordSourceTheorems

namespace L4AudioMixer.Mixer

open L4AudioMixer.Lib
open L4AudioMixer.Libav
open L4AudioMixer.WebRtc
open L4AudioMixer.Source

variable {σ ρ α γ : Type}

/-! ## Views of a state -/

/-- The numbers the constructor sets. -/
structure Numbers where
  outputSampleRate : Int32
  outputChannelNum : Int32
  frameDurationMs : Int32
  reportOutputSamples : Int
  realOutputSamples : Int

/-- The settings with which the sources of a mixer are built. -/
def Numbers.settings (c : Numbers) (ssrc : Int32) : SourceSettings where
  ssrc := ssrc
  outputSampleRate := c.outputSampleRate.toInt
  outputChannelNum := c.outputChannelNum.toInt
  frameDurationMs := c.frameDurationMs.toInt

namespace AudioMixer

def numbers (m : AudioMixer σ ρ α γ) : Numbers where
  outputSampleRate := m.outputSampleRate
  outputChannelNum := m.outputChannelNum
  frameDurationMs := m.frameDurationMs
  reportOutputSamples := m.reportOutputSamples
  realOutputSamples := m.realOutputSamples

/-- The pointers registered with WebRTC. -/
def pointers (m : AudioMixer σ ρ α γ) : List Ptr := m.registered.map SourceStatus.audioSource

/-- The source stored under an ssrc. -/
def stored (m : AudioMixer σ ρ α γ) (ssrc : Int32) : Option (AudioSource σ ρ α) :=
  m.sources[ssrc]?.bind m.heap.get?

end AudioMixer

/-- A source as its constructor built it, for a mixer with these numbers. -/
def BuiltFor (P : Platform σ ρ α γ) (c : Numbers) : AudioSource σ ρ α → Prop
  | .file s => ∃ path, Built P.av (P.files path) (c.settings s.ssrc) s
  | .record s => BuiltRecord (c.settings s.ssrc) s

/-- What a change in place keeps of a source. -/
def Keeps (P : Platform σ ρ α γ) (c : Numbers) (a b : AudioSource σ ρ α) : Prop :=
  b.ssrc = a.ssrc ∧ (BuiltFor P c a → BuiltFor P c b)

theorem Keeps.refl (P : Platform σ ρ α γ) (c : Numbers) (a : AudioSource σ ρ α) :
    Keeps P c a a :=
  ⟨rfl, id⟩

theorem Keeps.trans {P : Platform σ ρ α γ} {c : Numbers} (a b d : AudioSource σ ρ α)
    (h : Keeps P c a b) (h' : Keeps P c b d) : Keeps P c a d :=
  ⟨h'.1.trans h.1, fun ha => h'.2 (h.2 ha)⟩

/-- The objects that exist are the ones `sources_` owns. -/
structure WellFormed (P : Platform σ ρ α γ) (m : AudioMixer σ ρ α γ) : Prop where
  owned : ∀ ssrc p, m.sources[ssrc]? = some p ↔
    ∃ object, m.heap.get? p = some object ∧ object.ssrc = ssrc
  built : ∀ p object, m.heap.get? p = some object → BuiltFor P m.numbers object

/-- The effects of a call. -/
inductive Effect (P : Platform σ ρ α γ) (m m' : AudioMixer σ ρ α γ) : MixerCall → Prop where
  | inPlace {call : MixerCall} (hadd : ∀ source, call ≠ .addSource source)
      (hremove : ∀ ssrc, call = .removeSource ssrc → m.sources[ssrc]? = none)
      (hsources : m'.sources = m.sources) (hpointers : m'.pointers = m.pointers)
      (hheap : Heap.Kept (Keeps P m.numbers) m.heap m'.heap) : Effect P m m' call
  | stored (source : MixerSource) (object : AudioSource σ ρ α)
      (hnew : m.sources[source.ssrc]? = none) (hssrc : object.ssrc = source.ssrc)
      (hbuilt : BuiltFor P m.numbers object)
      (hsources : m'.sources = m.sources.insertIfNew source.ssrc m.heap.next)
      (hpointers : m'.pointers = m.pointers ++ [m.heap.next])
      (hheap : m'.heap = (m.heap.alloc object).2) : Effect P m m' (.addSource source)
  | dangling (source : MixerSource) (object : AudioSource σ ρ α)
      (htaken : m.sources[source.ssrc]? ≠ none)
      (hsources : m'.sources = m.sources)
      (hpointers : m'.pointers = m.pointers ++ [m.heap.next])
      (hheap : m'.heap = (m.heap.alloc object).2.free m.heap.next) :
      Effect P m m' (.addSource source)
  | removed (ssrc : Int32) (p : Ptr) (hp : m.sources[ssrc]? = some p)
      (hsources : m'.sources = m.sources.erase ssrc)
      (hpointers : m'.pointers = m.pointers.erase p)
      (hheap : m'.heap = m.heap.free p) : Effect P m m' (.removeSource ssrc)

namespace WellFormed

variable {P : Platform σ ρ α γ} {m m' : AudioMixer σ ρ α γ}

/-- A pointer is owned under one ssrc only. -/
theorem injective (hm : WellFormed P m) {k k' : Int32} {p : Ptr}
    (h : m.sources[k]? = some p) (h' : m.sources[k']? = some p) : k = k' := by
  obtain ⟨object, hobject, rfl⟩ := (hm.owned k p).mp h
  obtain ⟨object', hobject', rfl⟩ := (hm.owned k' p).mp h'
  rw [hobject] at hobject'
  cases hobject'
  rfl

/-- No owned pointer is the next one to be handed out. -/
theorem ne_next (hm : WellFormed P m) {ssrc : Int32} {p : Ptr} (h : m.sources[ssrc]? = some p) :
    p ≠ m.heap.next := by
  obtain ⟨object, hobject, -⟩ := (hm.owned ssrc p).mp h
  exact Heap.ne_next_of_get? hobject

/-- Looking a source up and looking its pointer up are the same. -/
theorem stored_eq_some {ssrc : Int32} {object : AudioSource σ ρ α} :
    m.stored ssrc = some object ↔
      ∃ p, m.sources[ssrc]? = some p ∧ m.heap.get? p = some object := by
  simp only [AudioMixer.stored, Option.bind_eq_some_iff]

/-- Who owns what after a source was stored. -/
theorem owned_stored (hm : WellFormed P m) {k : Int32} {object : AudioSource σ ρ α}
    (hnew : m.sources[k]? = none) (hssrc : object.ssrc = k) (ssrc : Int32) (p : Ptr) :
    (m.sources.insertIfNew k m.heap.next)[ssrc]? = some p ↔
      ∃ object', (m.heap.alloc object).2.get? p = some object' ∧ object'.ssrc = ssrc := by
  rw [getElem?_insertIfNew_eq]
  by_cases hp : p = m.heap.next
  · -- the new pointer is under the new ssrc and nowhere else
    subst hp
    have hget : (m.heap.alloc object).2.get? m.heap.next = some object :=
      m.heap.get?_alloc_self object
    rw [hget]
    by_cases hs : ssrc = k
    · rw [if_pos ⟨hs, hnew⟩]
      simp [hs, hssrc]
    · rw [if_neg (fun h => hs h.1)]
      constructor
      · intro hold
        exact absurd rfl (hm.ne_next hold)
      · rintro ⟨object', hobject, rfl⟩
        cases hobject
        exact absurd hssrc hs
  · have hget : (m.heap.alloc object).2.get? p = m.heap.get? p := by
      rw [Heap.get?_alloc]
      exact if_neg hp
    rw [hget, ← hm.owned ssrc p]
    by_cases hs : ssrc = k ∧ m.sources[k]? = none
    · rw [if_pos hs, hs.1, hnew]
      simp only [Option.some.injEq, reduceCtorEq, iff_false]
      exact fun heq => hp heq.symm
    · rw [if_neg hs]

/-- Who owns what after a source was destroyed. -/
theorem owned_removed (hm : WellFormed P m) {ssrc : Int32} {q : Ptr}
    (hq : m.sources[ssrc]? = some q) (k : Int32) (p : Ptr) :
    (m.sources.erase ssrc)[k]? = some p ↔
      ∃ object, (m.heap.free q).get? p = some object ∧ object.ssrc = k := by
  rw [getElem?_erase_eq, Heap.get?_free]
  by_cases hk : k = ssrc
  · subst hk
    rw [if_pos rfl]
    by_cases hp : p = q
    · simp [hp]
    · rw [if_neg hp, ← hm.owned k p, hq]
      simp only [reduceCtorEq, Option.some.injEq, false_iff]
      exact fun heq => hp heq.symm
  · rw [if_neg hk]
    by_cases hp : p = q
    · subst hp
      rw [if_pos rfl]
      simp only [reduceCtorEq, false_and, exists_false, iff_false]
      exact fun hold => hk (hm.injective hold hq)
    · rw [if_neg hp]
      exact hm.owned k p

/-- Every effect keeps well-formedness. -/
theorem effect {call : MixerCall} (hm : WellFormed P m) (h : Effect P m m' call)
    (hnumbers : m'.numbers = m.numbers) : WellFormed P m' := by
  cases h with
  | inPlace _ _ hsources _ hheap =>
      refine ⟨fun ssrc p => ?_, fun p object' hp => ?_⟩
      · rw [hsources, hm.owned ssrc p]
        constructor
        · rintro ⟨object, hp, rfl⟩
          obtain ⟨object', hp', hkept⟩ := hheap.some_of_some hp
          exact ⟨object', hp', hkept.1⟩
        · rintro ⟨object', hp', rfl⟩
          obtain ⟨object, hp, hkept⟩ := hheap.of_some hp'
          exact ⟨object, hp, hkept.1.symm⟩
      · obtain ⟨object, hp', hkept⟩ := hheap.of_some hp
        rw [hnumbers]
        exact hkept.2 (hm.built p object hp')
  | stored source object hnew hssrc hbuilt hsources _ hheap =>
      refine ⟨fun ssrc p => ?_, fun p object' hp => ?_⟩
      · rw [hsources, hheap]
        exact hm.owned_stored hnew hssrc ssrc p
      · rw [hnumbers]
        rw [hheap, Heap.get?_alloc] at hp
        split at hp
        · cases hp
          exact hbuilt
        · exact hm.built p object' hp
  | dangling source object htaken hsources _ hheap =>
      refine ⟨fun ssrc p => ?_, fun p object' hp => ?_⟩
      · rw [hsources, hheap, Heap.get?_alloc_free]
        exact hm.owned ssrc p
      · rw [hnumbers]
        rw [hheap, Heap.get?_alloc_free] at hp
        exact hm.built p object' hp
  | removed ssrc q hq hsources _ hheap =>
      refine ⟨fun k p => ?_, fun p object' hp => ?_⟩
      · rw [hsources, hheap]
        exact hm.owned_removed hq k p
      · rw [hnumbers]
        rw [hheap, Heap.get?_free] at hp
        split at hp
        · cases hp
        · exact hm.built p object' hp

end WellFormed

/-! ## The calls -/

section Calls

variable {P : Platform σ ρ α γ} {m m' : AudioMixer σ ρ α γ}

/-- The object `DoAddSource` makes is the one its argument describes. -/
theorem makeSource_ok {source : MixerSource} {uninit : Nat → Int16}
    {object : AudioSource σ ρ α} (h : m.makeSource P source uninit = .ok object) :
    object.ssrc = source.ssrc ∧ object.volume = source.volume ∧
      BuiltFor P m.numbers object := by
  unfold AudioMixer.makeSource at h
  split at h
  · simp only [bind_eq_ok] at h
    obtain ⟨_, _, _, _, record, hrecord, hobject⟩ := h
    obtain ⟨hbuilt, hvolume, -⟩ :=
      builtRecord_of_create (c := m.numbers.settings source.ssrc) hrecord
    have hssrc : record.ssrc = source.ssrc := hbuilt.ssrc
    cases hobject
    refine ⟨hssrc, hvolume, ?_⟩
    simp only [BuiltFor, hssrc]
    exact hbuilt
  · simp only [bind_eq_ok] at h
    obtain ⟨file, hfile, hobject⟩ := h
    have hbuilt := built_of_create (c := m.numbers.settings source.ssrc) hfile
    have hssrc : file.ssrc = source.ssrc := hbuilt.ssrc
    have hvolume : file.volume = source.volume := volume_of_create hfile
    cases hobject
    refine ⟨hssrc, hvolume, source.path, ?_⟩
    rw [hssrc]
    exact hbuilt

/-- `DoAddSource` reads the numbers of a mixer and nothing else of it. -/
theorem makeSource_congr (hnumbers : m'.numbers = m.numbers) :
    m'.makeSource P = m.makeSource P := by
  have hrate : m'.outputSampleRate = m.outputSampleRate :=
    congrArg Numbers.outputSampleRate hnumbers
  have hchannels : m'.outputChannelNum = m.outputChannelNum :=
    congrArg Numbers.outputChannelNum hnumbers
  have hduration : m'.frameDurationMs = m.frameDurationMs :=
    congrArg Numbers.frameDurationMs hnumbers
  funext source uninit
  simp only [AudioMixer.makeSource, hrate, hchannels, hduration]

theorem doAddSource_ok {source : MixerSource} {uninit : Nat → Int16} {p : Ptr}
    (h : m.doAddSource P source uninit = .ok (m', p)) :
    ∃ object, m.makeSource P source uninit = .ok object ∧ p = m.heap.next ∧
      m' = { m with
        heap := (m.heap.alloc object).2
        sources := m.sources.insertIfNew source.ssrc m.heap.next } := by
  simp only [AudioMixer.doAddSource, bind_eq_ok] at h
  obtain ⟨object, hobject, hm'⟩ := h
  cases hm'
  exact ⟨object, hobject, rfl, rfl⟩

theorem release_of_owned {ssrc : Int32} {p : Ptr} (h : m.sources[ssrc]? = some p) :
    m.release p = m := by
  unfold AudioMixer.release
  rw [if_pos]
  rw [List.any_eq_true]
  exact ⟨(ssrc, p), Std.ExtTreeMap.mem_toList_iff_getElem?_eq_some.mpr h, by simp⟩

theorem release_of_not_owned {p : Ptr} (h : ∀ ssrc : Int32, m.sources[ssrc]? ≠ some p) :
    m.release p = { m with heap := m.heap.free p } := by
  unfold AudioMixer.release
  rw [if_neg]
  rw [List.any_eq_true]
  rintro ⟨⟨ssrc, q⟩, hmem, hq⟩
  have hpq : q = p := by simpa using hq
  subst hpq
  exact h ssrc (Std.ExtTreeMap.mem_toList_iff_getElem?_eq_some.mp hmem)

/-- `DoAddSource` and the end of its `shared_ptr`: a new ssrc gets the
object, a taken one does not and the object is destroyed. -/
theorem doAddSource_release {source : MixerSource} {uninit : Nat → Int16} {p : Ptr}
    (hm : WellFormed P m) (h : m.doAddSource P source uninit = .ok (m', p)) :
    ∃ object, m.makeSource P source uninit = .ok object ∧ p = m.heap.next ∧
      ((m.sources[source.ssrc]? = none ∧ m'.release p = { m with
          heap := (m.heap.alloc object).2
          sources := m.sources.insertIfNew source.ssrc m.heap.next }) ∨
        (m.sources[source.ssrc]? ≠ none ∧ m'.release p = { m with
          heap := (m.heap.alloc object).2.free m.heap.next })) := by
  obtain ⟨object, hobject, rfl, rfl⟩ := doAddSource_ok h
  refine ⟨object, hobject, rfl, ?_⟩
  cases hs : m.sources[source.ssrc]? with
  | none =>
      left
      have howned : (m.sources.insertIfNew source.ssrc m.heap.next)[source.ssrc]?
          = some m.heap.next := by
        rw [getElem?_insertIfNew_eq, if_pos ⟨rfl, hs⟩]
      exact ⟨rfl, release_of_owned howned⟩
  | some q =>
      right
      refine ⟨by simp, ?_⟩
      have hsame : m.sources.insertIfNew source.ssrc m.heap.next = m.sources :=
        insertIfNew_of_some hs _
      rw [hsame]
      refine release_of_not_owned fun ssrc hp => ?_
      exact hm.ne_next hp rfl

/-- Registering and the end of a `shared_ptr` do not meet. -/
theorem release_register (m : AudioMixer σ ρ α γ) (p q : Ptr) (uninit : Nat → Int16) :
    (m.register p uninit).release q = (m.release q).register p uninit := by
  by_cases h : ∃ ssrc : Int32, m.sources[ssrc]? = some q
  · obtain ⟨ssrc, hq⟩ := h
    have hq' : (m.register p uninit).sources[ssrc]? = some q := hq
    rw [release_of_owned hq, release_of_owned hq']
  · have hno : ∀ ssrc : Int32, m.sources[ssrc]? ≠ some q := fun ssrc hq => h ⟨ssrc, hq⟩
    rw [release_of_not_owned hno, release_of_not_owned (m := m.register p uninit) hno]
    rfl

theorem pointers_register (m : AudioMixer σ ρ α γ) (p : Ptr) (uninit : Nat → Int16) :
    (m.register p uninit).pointers = m.pointers ++ [p] := by
  simp [AudioMixer.pointers, AudioMixer.register, SourceStatus.add]

theorem addSource_effect {source : MixerSource} {uninit : Nat → Int16} {ok : Bool}
    (hm : WellFormed P m) (h : m.addSource P source uninit = .ok (m', ok)) :
    Effect P m m' (.addSource source) ∧ m'.numbers = m.numbers := by
  simp only [AudioMixer.addSource, bind_eq_ok] at h
  obtain ⟨⟨m₁, p⟩, hadd, hret⟩ := h
  obtain ⟨object, hobject, rfl, hcase⟩ := doAddSource_release hm hadd
  obtain ⟨hssrc, -, hbuilt⟩ := makeSource_ok hobject
  cases hret
  rw [release_register]
  rcases hcase with ⟨hnew, hrel⟩ | ⟨htaken, hrel⟩
  · rw [hrel]
    exact ⟨.stored source object hnew hssrc hbuilt rfl (pointers_register _ _ _) rfl, rfl⟩
  · rw [hrel]
    exact ⟨.dangling source object htaken rfl (pointers_register _ _ _) rfl, rfl⟩

theorem pointers_remove (list : List SourceStatus) (p : Ptr) :
    (SourceStatus.remove list p).map SourceStatus.audioSource
      = (list.map SourceStatus.audioSource).erase p := by
  induction list with
  | nil => rfl
  | cons status rest ih =>
      simp only [SourceStatus.remove, List.eraseP_cons, List.map_cons, List.erase_cons] at ih ⊢
      by_cases h : status.audioSource = p
      · simp [h]
      · simp [h, ih]

/-- `RemoveSource` of an ssrc that is there destroys the source. -/
theorem removeSource_of_some (hm : WellFormed P m) {ssrc : Int32} {p : Ptr}
    (hp : m.sources[ssrc]? = some p) :
    m.removeSource ssrc = ({ m with
      heap := m.heap.free p
      sources := m.sources.erase ssrc
      registered := SourceStatus.remove m.registered p }, true) := by
  have hrel := release_of_not_owned (p := p) (m := { m with
    registered := SourceStatus.remove m.registered p
    sources := m.sources.erase ssrc }) (fun k hk => by
      simp only [getElem?_erase_eq] at hk
      split at hk
      · cases hk
      · rename_i hne
        exact hne (hm.injective hk hp))
  simp only [AudioMixer.removeSource, hp, hrel]

theorem removeSource_of_none {ssrc : Int32} (h : m.sources[ssrc]? = none) :
    m.removeSource ssrc = (m, false) := by
  simp only [AudioMixer.removeSource, h]

theorem removeSource_effect (hm : WellFormed P m) (ssrc : Int32) :
    Effect P m (m.removeSource ssrc).1 (.removeSource ssrc) ∧
      (m.removeSource ssrc).1.numbers = m.numbers := by
  cases hp : m.sources[ssrc]? with
  | some p =>
      rw [removeSource_of_some hm hp]
      exact ⟨.removed ssrc p hp rfl (pointers_remove _ _) rfl, rfl⟩
  | none =>
      rw [removeSource_of_none hp]
      refine ⟨.inPlace (by simp) ?_ rfl rfl (Heap.Kept.refl (Keeps.refl P _) _), rfl⟩
      rintro _ ⟨⟩
      exact hp

/-- `UpdateVolume` of a source keeps the rest of it. -/
theorem keeps_updateVolume (c : Numbers) (volume : Float32) (a : AudioSource σ ρ α) :
    Keeps P c a (a.updateVolume volume) := by
  cases a with
  | file s =>
      refine ⟨rfl, ?_⟩
      rintro ⟨path, hs⟩
      exact ⟨path, { hs with }⟩
  | record s =>
      refine ⟨rfl, ?_⟩
      intro hs
      exact { hs with }

theorem updateVolume_effect (m : AudioMixer σ ρ α γ) (ssrc : Int32) (volume : Float32) :
    Effect P m (m.updateVolume ssrc volume) (.updateVolume ssrc volume) ∧
      (m.updateVolume ssrc volume).numbers = m.numbers := by
  unfold AudioMixer.updateVolume
  split
  · refine ⟨.inPlace (by simp) (by simp) rfl rfl ?_, rfl⟩
    exact Heap.Kept.modify (Keeps.refl P _) fun object _ => keeps_updateVolume _ volume object
  · exact ⟨.inPlace (by simp) (by simp) rfl rfl (Heap.Kept.refl (Keeps.refl P _) _), rfl⟩

/-- `AddRecordedData` changes nothing, or the buffer of a record source. -/
theorem addRecordedData_cases {ssrc : Int32} {data : Nat → UInt8} {size : Int32}
    {uninit : Nat → Int16} (h : m.addRecordedData P ssrc data size uninit = .ok m') :
    (m.sources[ssrc]? = none ∧ m' = m) ∨
    ∃ p s s', m.sources[ssrc]? = some p ∧ m.heap.get? p = some (.record s) ∧
      s.onAudioRecorded P.abi data size.toInt uninit = .ok s' ∧
      m' = { m with heap := m.heap.modify p (fun _ => .record s') } := by
  unfold AudioMixer.addRecordedData at h
  split at h
  · rename_i hnone
    cases h
    exact .inl ⟨hnone, rfl⟩
  · rename_i p hp
    split at h
    · cases h
    · cases h
    · rename_i s hs
      simp only [bind_eq_ok] at h
      obtain ⟨s', hs', hret⟩ := h
      cases hret
      exact .inr ⟨p, s, s', hp, hs, hs', rfl⟩

theorem addRecordedData_effect {ssrc : Int32} {data : Nat → UInt8} {size : Int32}
    {uninit : Nat → Int16} (h : m.addRecordedData P ssrc data size uninit = .ok m') :
    Effect P m m' (.addRecordedData ssrc data size) ∧ m'.numbers = m.numbers := by
  rcases addRecordedData_cases h with ⟨_, rfl⟩ | ⟨p, s, s', _, hs, hrec, rfl⟩
  · exact ⟨.inPlace (by simp) (by simp) rfl rfl (Heap.Kept.refl (Keeps.refl P _) _), rfl⟩
  · refine ⟨.inPlace (by simp) (by simp) rfl rfl ?_, rfl⟩
    refine Heap.Kept.modify (Keeps.refl P _) fun object hobject => ?_
    rw [hs] at hobject
    cases hobject
    obtain ⟨buffer, -, rfl⟩ := onAudioRecorded_cases hrec
    exact ⟨rfl, fun hbuilt => BuiltRecord.withBuffer hbuilt buffer⟩

/-- Being asked for a frame keeps what the constructor left. -/
theorem keeps_getAudioFrameWithInfo {c : Numbers} {a b : AudioSource σ ρ α} {hz : Int}
    {frame frame' : AudioFrame} {info : AudioFrameInfo} {uninit : Nat → Int16}
    (h : a.getAudioFrameWithInfo P hz frame uninit = .ok (info, frame', b)) :
    Keeps P c a b := by
  cases a with
  | file s =>
      simp only [AudioSource.getAudioFrameWithInfo, bind_eq_ok] at h
      obtain ⟨⟨info₁, frame₁, s'⟩, hs, hret⟩ := h
      cases hret
      have hssrc : s'.ssrc = s.ssrc := ssrc_getAudioFrameWithInfo hs
      refine ⟨hssrc, ?_⟩
      rintro ⟨path, hbuilt⟩
      refine ⟨path, ?_⟩
      rw [hssrc]
      exact hbuilt.getAudioFrameWithInfo hs
  | record s =>
      simp only [AudioSource.getAudioFrameWithInfo, bind_eq_ok] at h
      obtain ⟨⟨info₁, frame₁, s'⟩, hs, hret⟩ := h
      cases hret
      rcases record_getAudioFrameWithInfo_cases hs with
        ⟨_, _, rfl⟩ | ⟨_, _, _, rfl⟩ | ⟨_, _, _, rfl, _⟩
      · exact Keeps.refl P c _
      · exact Keeps.refl P c _
      · exact ⟨rfl, fun hbuilt => BuiltRecord.withBuffer hbuilt _⟩

/-- Asking the sources changes objects in place and keeps the list. -/
theorem askSources_kept {c : Numbers} {hz : Int} {uninit : Nat → Int16}
    {heap heap' : Heap (AudioSource σ ρ α)} {list : List SourceStatus} {asked : List Asked}
    (h : AudioMixer.askSources P hz uninit heap list = .ok (heap', asked)) :
    Heap.Kept (Keeps P c) heap heap' ∧
      asked.map (fun a => a.status.audioSource) = list.map SourceStatus.audioSource := by
  induction list generalizing heap asked with
  | nil =>
      cases h
      exact ⟨Heap.Kept.refl (Keeps.refl P c) _, rfl⟩
  | cons status rest ih =>
      simp only [AudioMixer.askSources] at h
      split at h
      · cases h
      · rename_i source hsource
        simp only [bind_eq_ok] at h
        obtain ⟨⟨info, frame, source'⟩, hget, ⟨heap₁, asked₁⟩, hrest, hret⟩ := h
        cases hret
        obtain ⟨hkept, hlist⟩ := ih hrest
        have hfirst : Heap.Kept (Keeps P c) heap
            (heap.modify status.audioSource (fun _ => source')) := by
          refine Heap.Kept.modify (Keeps.refl P c) fun object hobject => ?_
          rw [hsource] at hobject
          cases hobject
          exact keeps_getAudioFrameWithInfo hget
        refine ⟨hfirst.trans Keeps.trans hkept, ?_⟩
        simp only [List.map_cons, hlist]

/-- `Mix` in parts: the rates, the questions, and the combiner. -/
theorem mix_ok {uninit : Nat → Int16} {result : MixResult}
    (h : m.mix P uninit = .ok (m', result)) :
    ∃ rates heap, AudioMixer.preferredRates m.heap m.registered = .ok rates ∧
      AudioMixer.askSources P (P.webrtc.calculateOutputRate rates) uninit m.heap m.registered
        = .ok (heap, result.asked) ∧
      ∃ combined : Combined γ, m' = { m with
        heap
        registered := SourceStatus.rampAll result.asked combined.ramped
        combiner := combined.combiner
        mixedFrame := combined.mixedFrame } := by
  simp only [AudioMixer.mix, bind_eq_ok] at h
  obtain ⟨rates, hrates, ⟨heap, asked⟩, hasked, _, _, hret⟩ := h
  cases hret
  exact ⟨rates, heap, hrates, hasked, _, rfl⟩

theorem pointers_rampAll (asked : List Asked) (ramped : Nat → Ramped) :
    (SourceStatus.rampAll asked ramped).map SourceStatus.audioSource
      = asked.map (fun a => a.status.audioSource) := by
  apply List.ext_getElem
  · simp [SourceStatus.rampAll]
  · intro i h₁ h₂
    simp [SourceStatus.rampAll]

theorem mix_effect {uninit : Nat → Int16} {result : MixResult}
    (h : m.mix P uninit = .ok (m', result)) :
    Effect P m m' .mix ∧ m'.numbers = m.numbers := by
  obtain ⟨rates, heap, -, hasked, combined, rfl⟩ := mix_ok h
  obtain ⟨hkept, hlist⟩ := askSources_kept (c := m.numbers) hasked
  exact ⟨.inPlace (by simp) (by simp) rfl ((pointers_rampAll _ _).trans hlist) hkept, rfl⟩

/-- A step of the machine, by the call that was made. -/
inductive CallStep (P : Platform σ ρ α γ) (m m' : AudioMixer σ ρ α γ) (uninit : Nat → Int16) :
    MixerCall → MixerReply → Prop where
  | addSource (source : MixerSource) (ok : Bool)
      (h : m.addSource P source uninit = .ok (m', ok)) :
      CallStep P m m' uninit (.addSource source) (.added ok)
  | removeSource (ssrc : Int32) (ok : Bool) (h : m.removeSource ssrc = (m', ok)) :
      CallStep P m m' uninit (.removeSource ssrc) (.removed ok)
  | updateVolume (ssrc : Int32) (volume : Float32) (h : m.updateVolume ssrc volume = m') :
      CallStep P m m' uninit (.updateVolume ssrc volume) .done
  | addRecordedData (ssrc : Int32) (data : Nat → UInt8) (size : Int32)
      (h : m.addRecordedData P ssrc data size uninit = .ok m') :
      CallStep P m m' uninit (.addRecordedData ssrc data size) .done
  | mix (result : MixResult) (h : m.mix P uninit = .ok (m', result)) :
      CallStep P m m' uninit .mix (.mixed result m.sources)

theorem callStep_of_step {op : MixerOp} {reply : MixerReply}
    (h : (mixerMachine P).step m op = .ok (m', reply)) :
    CallStep P m m' op.uninit op.call reply := by
  obtain ⟨call, uninit⟩ := op
  cases call with
  | addSource source =>
      simp only [mixerMachine, bind_eq_ok] at h
      obtain ⟨⟨m₁, ok⟩, hadd, hret⟩ := h
      cases hret
      exact .addSource source ok hadd
  | removeSource ssrc =>
      cases h
      exact .removeSource ssrc _ rfl
  | updateVolume ssrc volume =>
      cases h
      exact .updateVolume ssrc volume rfl
  | addRecordedData ssrc data size =>
      simp only [mixerMachine, bind_eq_ok] at h
      obtain ⟨m₁, hrec, hret⟩ := h
      cases hret
      exact .addRecordedData ssrc data size hrec
  | mix =>
      simp only [mixerMachine, bind_eq_ok] at h
      obtain ⟨⟨m₁, result⟩, hmix, hret⟩ := h
      cases hret
      exact .mix result hmix

/-- **Every call has one of the four effects**, and none changes the
numbers of the mixer. -/
theorem step_effect {op : MixerOp} {reply : MixerReply} (hm : WellFormed P m)
    (h : (mixerMachine P).step m op = .ok (m', reply)) :
    Effect P m m' op.call ∧ m'.numbers = m.numbers := by
  have hcall := callStep_of_step h
  generalize op.call = call at hcall
  cases hcall with
  | addSource source ok hadd => exact addSource_effect hm hadd
  | removeSource ssrc ok hremove =>
      have heffect := removeSource_effect hm ssrc
      rw [hremove] at heffect
      exact heffect
  | updateVolume ssrc volume hvolume =>
      subst hvolume
      exact updateVolume_effect m ssrc volume
  | addRecordedData ssrc data size hrec => exact addRecordedData_effect hrec
  | mix result hmix => exact mix_effect hmix

/-! ## The constructor and reachable states -/

/-- The numbers a configuration leads to. -/
def Numbers.ofConfig (config : MixerConfig) : Numbers where
  outputSampleRate := config.outputSampleRate
  outputChannelNum := config.outputChannelNum
  frameDurationMs := config.frameDurationMs
  reportOutputSamples := config.outputSampleRate.toInt.tdiv 100
  realOutputSamples :=
    config.outputSampleRate.toInt.tdiv ((1000 : Int).tdiv config.frameDurationMs.toInt)

/-- What the constructor checks of a configuration, the sources apart. -/
structure Accepted (abi : Abi) (config : MixerConfig) : Prop where
  duration : config.frameDurationMs.toInt ≤ 10
  framesPerSecond : (1000 : Int).tdiv config.frameDurationMs.toInt ≠ 0
  frameFits : toSizeT abi (config.outputSampleRate.toInt.tdiv 100)
    * toSizeT abi config.outputChannelNum.toInt % abi.sizeModulus ≤ kMaxDataSizeSamples

/-- Well-formedness speaks of the objects, their owners and the numbers. -/
theorem WellFormed.congr (hm : WellFormed P m) (hheap : m'.heap = m.heap)
    (hsources : m'.sources = m.sources) (hnumbers : m'.numbers = m.numbers) :
    WellFormed P m' := by
  constructor
  · rw [hheap, hsources]
    exact hm.owned
  · rw [hheap, hnumbers]
    exact hm.built

theorem wellFormed_bare (P : Platform σ ρ α γ) (config : MixerConfig) (report real : Int)
    (uninit : Nat → Int16) : WellFormed P (AudioMixer.bare P config report real uninit) := by
  constructor
  · intro ssrc p
    simp [AudioMixer.bare, Heap.empty, Heap.get?]
  · intro p object hp
    cases hp

/-- The first loop of the constructor keeps well-formedness; nothing is
registered by it. -/
theorem addAll_wellFormed {uninit : Nat → Int16} {sources : List MixerSource}
    (hm : WellFormed P m) (h : AudioMixer.addAll P uninit m sources = .ok m') :
    WellFormed P m' ∧ m'.numbers = m.numbers ∧ m'.registered = m.registered := by
  induction sources generalizing m with
  | nil =>
      cases h
      exact ⟨hm, rfl, rfl⟩
  | cons source rest ih =>
      simp only [AudioMixer.addAll, bind_eq_ok] at h
      obtain ⟨⟨m₁, p⟩, hadd, hrest⟩ := h
      -- one round is `AddSource` without the registration
      have hstep : m.addSource P source uninit
          = .ok ((m₁.release p).register p uninit, true) := by
        simp only [AudioMixer.addSource, hadd, bind, Except.bind, ← release_register]
        rfl
      obtain ⟨heffect, hnumbers⟩ := addSource_effect hm hstep
      have hm₁ : WellFormed P (m₁.release p) :=
        (hm.effect heffect hnumbers).congr rfl rfl rfl
      obtain ⟨hm', hnum', hreg'⟩ := ih hm₁ hrest
      have hreg : (m₁.release p).registered = m.registered := by
        obtain ⟨object, -, rfl, hcase⟩ := doAddSource_release hm hadd
        rcases hcase with ⟨_, hrel⟩ | ⟨_, hrel⟩
        · rw [hrel]
        · rw [hrel]
      exact ⟨hm', hnum'.trans hnumbers, hreg'.trans hreg⟩

/-- The second loop registers the pointers and does nothing else. -/
theorem foldl_register (uninit : Nat → Int16) (items : List (Int32 × Ptr))
    (m : AudioMixer σ ρ α γ) :
    ∃ registered, items.foldl (fun m item => m.register item.2 uninit) m
        = { m with registered := registered } ∧
      registered.map SourceStatus.audioSource = m.pointers ++ items.map Prod.snd := by
  induction items generalizing m with
  | nil => exact ⟨m.registered, rfl, by simp [AudioMixer.pointers]⟩
  | cons item rest ih =>
      obtain ⟨registered, hfold, hlist⟩ := ih (m.register item.2 uninit)
      refine ⟨registered, hfold, ?_⟩
      rw [hlist, pointers_register]
      simp

theorem registerAll_eq (uninit : Nat → Int16) (m : AudioMixer σ ρ α γ) :
    ∃ registered, m.registerAll uninit = { m with registered := registered } ∧
      registered.map SourceStatus.audioSource
        = m.pointers ++ m.sources.toList.map Prod.snd :=
  foldl_register uninit m.sources.toList m

/-- The members of a mixer of a configuration before sources are added. -/
def AudioMixer.started (P : Platform σ ρ α γ) (config : MixerConfig) (uninit : Nat → Int16) :
    AudioMixer σ ρ α γ :=
  AudioMixer.bare P config (Numbers.ofConfig config).reportOutputSamples
    (Numbers.ofConfig config).realOutputSamples uninit

/-- The constructor in parts: the checks, the sources, the registrations
and the frame. -/
theorem create_ok {config : MixerConfig} {uninit : Nat → Int16}
    (h : AudioMixer.create P config uninit = .ok m) :
    config.frameDurationMs.toInt ≤ 10 ∧ (1000 : Int).tdiv config.frameDurationMs.toInt ≠ 0 ∧
    ∃ m₁ registered frame,
      AudioMixer.addAll P uninit (AudioMixer.started P config uninit) config.sources = .ok m₁ ∧
      registered.map SourceStatus.audioSource
        = m₁.pointers ++ m₁.sources.toList.map Prod.snd ∧
      m₁.mixedFrame.updateFrame P.abi 0 none (toSizeT P.abi m₁.reportOutputSamples)
        m₁.outputSampleRate.toInt .kUndefined .kVadUnknown
        (toSizeT P.abi m₁.outputChannelNum.toInt) = .ok frame ∧
      m = { m₁ with registered := registered, mixedFrame := frame } := by
  simp only [AudioMixer.create, bind_eq_ok, require_eq_ok, decide_eq_true_eq] at h
  obtain ⟨_, hduration, report, hreport, perSecond, hper, real, hreal, m₁, hadd, frame, hframe,
    hret⟩ := h
  obtain ⟨-, rfl⟩ := divInt32_eq_ok hper
  obtain ⟨hne, rfl⟩ := divInt32_eq_ok hreal
  obtain ⟨-, rfl⟩ := divInt32_eq_ok hreport
  obtain ⟨registered, hall, hlist⟩ := registerAll_eq uninit m₁
  rw [hall] at hframe hret
  cases hret
  exact ⟨hduration, hne, m₁, registered, frame, hadd, hlist, hframe, rfl⟩

/-- **What the constructor establishes.** -/
theorem create_spec {config : MixerConfig} {uninit : Nat → Int16}
    (h : AudioMixer.create P config uninit = .ok m) :
    WellFormed P m ∧ m.numbers = Numbers.ofConfig config ∧ Accepted P.abi config ∧
      m.pointers = m.sources.toList.map Prod.snd := by
  obtain ⟨hduration, hne, m₁, registered, frame, hadd, hlist, hframe, rfl⟩ := create_ok h
  obtain ⟨hm₁, hnumbers, hreg⟩ := addAll_wellFormed (wellFormed_bare P config _ _ uninit) hadd
  have hnum : m₁.numbers = Numbers.ofConfig config := hnumbers
  have hreport : m₁.reportOutputSamples = config.outputSampleRate.toInt.tdiv 100 :=
    congrArg Numbers.reportOutputSamples hnum
  have hchannels : m₁.outputChannelNum = config.outputChannelNum :=
    congrArg Numbers.outputChannelNum hnum
  refine ⟨hm₁.congr rfl rfl rfl, hnum, ⟨hduration, hne, ?_⟩, ?_⟩
  · by_contra hlong
    simp only [AudioFrame.updateFrame, hreport, hchannels, if_neg hlong] at hframe
    cases hframe
  · have hnone : m₁.pointers = [] := by
      simp [AudioMixer.pointers, hreg, AudioMixer.bare]
    rw [hnone, List.nil_append] at hlist
    exact hlist

theorem WellFormed.step {op : MixerOp} {reply : MixerReply} (hm : WellFormed P m)
    (h : (mixerMachine P).step m op = .ok (m', reply)) : WellFormed P m' := by
  obtain ⟨heffect, hnumbers⟩ := step_effect hm h
  exact hm.effect heffect hnumbers

/-- A run keeps well-formedness and the numbers of the configuration. -/
theorem run_numbers {config : MixerConfig} {uninit : Nat → Int16} {m₀ : AudioMixer σ ρ α γ}
    {ops : List MixerOp} {replies : List MixerReply}
    (hcreate : AudioMixer.create P config uninit = .ok m₀)
    (hrun : (mixerMachine P).run m₀ ops = .ok (m, replies)) :
    WellFormed P m ∧ m.numbers = Numbers.ofConfig config := by
  obtain ⟨hm₀, hnum₀, -, -⟩ := create_spec hcreate
  exact Machine.run_invariant
    (fun m => WellFormed P m ∧ m.numbers = Numbers.ofConfig config)
    (fun m op m' reply hI hstep =>
      ⟨hI.1.step hstep, (step_effect hI.1 hstep).2.trans hI.2⟩) ⟨hm₀, hnum₀⟩ hrun

/-- **Every reachable state is well formed**, with the numbers of an
accepted configuration. -/
theorem reachable_wellFormed (h : Reachable P m) :
    WellFormed P m ∧ ∃ config, Accepted P.abi config ∧ m.numbers = Numbers.ofConfig config := by
  obtain ⟨config, uninit, m₀, ops, replies, hcreate, hrun⟩ := h
  obtain ⟨hm, hnum⟩ := run_numbers hcreate hrun
  obtain ⟨-, -, haccepted, -⟩ := create_spec hcreate
  exact ⟨hm, config, haccepted, hnum⟩

end Calls

end L4AudioMixer.Mixer
