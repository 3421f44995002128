/-
L4AudioMixer.Mixer.Entries — a mixer seen one ssrc at a time.

While the registry is exact, a mixer holds for each ssrc at most one
source, and for each source one status in WebRTC's list: its entry. The
calls that name an ssrc are steps of entries (`EntryStep`): they read and
write the entry of that ssrc (`step_entry`, `step_of_entryStep`) and leave
every other one alone (`step_other`). What pointers are handed out, and
in which order the list stands, cannot be seen in the entries.
-/
import L4AudioMixer.Mixer.InstallTheorems

namespace L4AudioMixer.WebRtc

open L4AudioMixer.Lib

/-- The fields of a status besides the pointer. -/
def SourceStatus.rest (status : SourceStatus) : Ramped :=
  ⟨status.isMixed, status.gain, status.audioFrame⟩

/-- The status of a pointer. -/
def SourceStatus.find (list : List SourceStatus) (p : Ptr) : Option SourceStatus :=
  list.find? fun status => status.audioSource = p

/-- The status of a source that was just added. -/
def Ramped.fresh (uninit : Nat → Int16) : Ramped := ⟨false, 0, { dataArray := uninit }⟩

variable {list : List SourceStatus} {p q : Ptr} {uninit : Nat → Int16}

theorem SourceStatus.find_eq_none (h : p ∉ list.map SourceStatus.audioSource) :
    SourceStatus.find list p = none := by
  unfold SourceStatus.find
  rw [List.find?_eq_none]
  intro status hmem hp
  have hptr : status.audioSource = p := by simpa using hp
  exact h (hptr ▸ List.mem_map_of_mem hmem)

theorem SourceStatus.find_add_of_ne (h : p ≠ q) :
    SourceStatus.find (SourceStatus.add list q uninit) p = SourceStatus.find list p := by
  have hne : ¬ q = p := fun heq => h heq.symm
  simp [SourceStatus.find, SourceStatus.add, hne]

theorem SourceStatus.find_add_self (h : p ∉ list.map SourceStatus.audioSource) :
    (SourceStatus.find (SourceStatus.add list p uninit) p).map SourceStatus.rest
      = some (Ramped.fresh uninit) := by
  have hnone := SourceStatus.find_eq_none h
  unfold SourceStatus.find at hnone
  simp only [SourceStatus.find, SourceStatus.add, List.find?_append, hnone]
  simp [SourceStatus.rest, Ramped.fresh]

theorem SourceStatus.find_remove_of_ne (h : p ≠ q) :
    SourceStatus.find (SourceStatus.remove list q) p = SourceStatus.find list p := by
  unfold SourceStatus.find SourceStatus.remove
  induction list with
  | nil => rfl
  | cons status rest ih =>
      by_cases hq : status.audioSource = q
      · have hqp : q ≠ p := fun heq => h heq.symm
        simp [hq, hqp]
      · simp [hq, List.find?_cons, ih]

end L4AudioMixer.WebRtc

namespace L4AudioMixer.Mixer

open L4AudioMixer.Lib
open L4AudioMixer.Libav
open L4AudioMixer.WebRtc
open L4AudioMixer.Source

variable {σ ρ α γ : Type} {P : Platform σ ρ α γ} {m m' n : AudioMixer σ ρ α γ}

/-! ## Entries -/

/-- The ssrc a call names. -/
def MixerCall.names : MixerCall → Option Int32
  | .addSource source => some source.ssrc
  | .removeSource ssrc => some ssrc
  | .updateVolume ssrc _ => some ssrc
  | .addRecordedData ssrc _ _ => some ssrc
  | .mix => none

/-- The source stored under an ssrc and its status in WebRTC's list. -/
def AudioMixer.entry (m : AudioMixer σ ρ α γ) (ssrc : Int32) :
    Option (AudioSource σ ρ α × Ramped) :=
  m.sources[ssrc]?.bind fun p => (m.heap.get? p).bind fun source =>
    ((SourceStatus.find m.registered p).map SourceStatus.rest).map fun status => (source, status)

theorem entry_of_pointer {ssrc : Int32} {p : Ptr} (h : m.sources[ssrc]? = some p) :
    m.entry ssrc = (m.heap.get? p).bind fun source =>
      ((SourceStatus.find m.registered p).map SourceStatus.rest).map
        fun status => (source, status) := by
  simp only [AudioMixer.entry, h, Option.bind_some]

theorem entry_of_none {ssrc : Int32} (h : m.sources[ssrc]? = none) : m.entry ssrc = none := by
  simp only [AudioMixer.entry, h, Option.bind_none]

/-- Every stored source has a status. -/
theorem exists_status (hr : Registry m) {ssrc : Int32} {p : Ptr}
    (h : m.sources[ssrc]? = some p) :
    ∃ status, SourceStatus.find m.registered p = some status ∧ status.audioSource = p := by
  have hmem : p ∈ m.pointers := (hr.owned p).mpr ⟨ssrc, h⟩
  obtain ⟨status, hstatus, hptr⟩ := List.mem_map.mp hmem
  cases hfind : SourceStatus.find m.registered p with
  | none =>
      have hno := List.find?_eq_none.mp hfind status hstatus
      exact absurd hptr (by simpa using hno)
  | some found =>
      have hfound := List.find?_some hfind
      exact ⟨found, rfl, by simpa using hfound⟩

/-- The source in an entry is the stored one. -/
theorem entry_fst (hr : Registry m) (ssrc : Int32) :
    (m.entry ssrc).map Prod.fst = m.stored ssrc := by
  cases hp : m.sources[ssrc]? with
  | none => simp [AudioMixer.entry, AudioMixer.stored, hp]
  | some p =>
      obtain ⟨status, hstatus, -⟩ := exists_status hr hp
      cases hget : m.heap.get? p with
      | none => simp [AudioMixer.entry, AudioMixer.stored, hp, hget]
      | some source => simp [AudioMixer.entry, AudioMixer.stored, hp, hget, hstatus]

/-- An entry is missing exactly where nothing is stored. -/
theorem entry_eq_none (hm : WellFormed P m) (hr : Registry m) {ssrc : Int32} :
    m.entry ssrc = none ↔ m.sources[ssrc]? = none := by
  rw [← stored_eq_none hm, ← entry_fst hr, Option.map_eq_none_iff]

/-! ## The steps of an entry -/

/-- **The mixer one ssrc at a time**: what a call that names the ssrc does
to its entry, and what it returns. Adding asks for a free entry. -/
inductive EntryStep (P : Platform σ ρ α γ) (m : AudioMixer σ ρ α γ) (uninit : Nat → Int16) :
    MixerCall → Option (AudioSource σ ρ α × Ramped) → Option (AudioSource σ ρ α × Ramped) →
      MixerReply → Prop where
  | added (source : MixerSource) (object : AudioSource σ ρ α)
      (hmake : m.makeSource P source uninit = .ok object) :
      EntryStep P m uninit (.addSource source) none (some (object, .fresh uninit)) (.added true)
  | removed (ssrc : Int32) (entry : Option (AudioSource σ ρ α × Ramped)) :
      EntryStep P m uninit (.removeSource ssrc) entry none (.removed entry.isSome)
  | volume (ssrc : Int32) (volume : Float32) (entry : Option (AudioSource σ ρ α × Ramped)) :
      EntryStep P m uninit (.updateVolume ssrc volume) entry
        (entry.map fun e => (AudioSource.updateVolume volume e.1, e.2)) .done
  | noRecorder (ssrc : Int32) (data : Nat → UInt8) (size : Int32) :
      EntryStep P m uninit (.addRecordedData ssrc data size) none none .done
  | recorded (ssrc : Int32) (data : Nat → UInt8) (size : Int32) (s s' : AudioRecordSource)
      (status : Ramped) (hs : s.onAudioRecorded P.abi data size.toInt uninit = .ok s') :
      EntryStep P m uninit (.addRecordedData ssrc data size) (some (.record s, status))
        (some (.record s', status)) .done

/-- `AddSource` of a new ssrc. -/
theorem addSource_of_new {source : MixerSource} {uninit : Nat → Int16} {ok : Bool}
    (hm : WellFormed P m) (hnew : m.sources[source.ssrc]? = none)
    (h : m.addSource P source uninit = .ok (m', ok)) :
    ∃ object, m.makeSource P source uninit = .ok object ∧ ok = true ∧ m' = { m with
      heap := (m.heap.alloc object).2
      sources := m.sources.insertIfNew source.ssrc m.heap.next
      registered := SourceStatus.add m.registered m.heap.next uninit } := by
  simp only [AudioMixer.addSource, bind_eq_ok] at h
  obtain ⟨⟨m₁, p⟩, hadd, hret⟩ := h
  obtain ⟨object, hmake, rfl, ⟨-, hrel⟩ | ⟨htaken, -⟩⟩ := doAddSource_release hm hadd
  · cases hret
    refine ⟨object, hmake, rfl, ?_⟩
    rw [release_register, hrel]
    rfl
  · exact absurd hnew htaken

/-- The entry of a source that was added. -/
theorem entry_added (hm : WellFormed P m) (hr : Registry m) {ssrc : Int32}
    (object : AudioSource σ ρ α) (uninit : Nat → Int16) (hnew : m.sources[ssrc]? = none) :
    AudioMixer.entry { m with
      heap := (m.heap.alloc object).2
      sources := m.sources.insertIfNew ssrc m.heap.next
      registered := SourceStatus.add m.registered m.heap.next uninit } ssrc
        = some (object, .fresh uninit) := by
  rw [entry_of_pointer (p := m.heap.next)
    (by rw [getElem?_insertIfNew_eq, if_pos ⟨rfl, hnew⟩])]
  have hget : (m.heap.alloc object).2.get? m.heap.next = some object :=
    m.heap.get?_alloc_self object
  simp only [hget, SourceStatus.find_add_self (hr.next_not_mem hm), Option.bind_some,
    Option.map_some]

theorem entry_updateVolume (m : AudioMixer σ ρ α γ) (ssrc : Int32) (volume : Float32) :
    (m.updateVolume ssrc volume).entry ssrc
      = (m.entry ssrc).map fun e => (AudioSource.updateVolume volume e.1, e.2) := by
  cases hp : m.sources[ssrc]? with
  | none => simp only [AudioMixer.updateVolume, hp, entry_of_none hp, Option.map_none]
  | some p =>
      simp only [AudioMixer.updateVolume, hp, AudioMixer.entry, Option.bind_some,
        Heap.get?_modify_self]
      cases m.heap.get? p <;> cases SourceStatus.find m.registered p <;> rfl

/-- **A call that names an ssrc is a step of its entry.** -/
theorem step_entry {op : MixerOp} {ssrc : Int32} {reply : MixerReply} (hm : WellFormed P m)
    (hr : Registry m) (hdup : NoDuplicate m op) (hnames : op.call.names = some ssrc)
    (h : (mixerMachine P).step m op = .ok (m', reply)) :
    EntryStep P m op.uninit op.call (m.entry ssrc) (m'.entry ssrc) reply := by
  have hcall := callStep_of_step h
  obtain ⟨call, uninit⟩ := op
  cases hcall with
  | addSource source ok hadd =>
      cases hnames
      have hnew : m.sources[source.ssrc]? = none := hdup source rfl
      obtain ⟨object, hmake, rfl, rfl⟩ := addSource_of_new hm hnew hadd
      rw [entry_added hm hr object uninit hnew, entry_of_none hnew]
      exact .added source object hmake
  | removeSource k ok hremove =>
      cases hnames
      cases hp : m.sources[ssrc]? with
      | none =>
          rw [removeSource_of_none hp] at hremove
          cases hremove
          rw [entry_of_none hp]
          exact .removed ssrc none
      | some p =>
          have hsome : (m.entry ssrc).isSome = true := by
            rw [Option.isSome_iff_ne_none, ne_eq, entry_eq_none hm hr, hp]
            simp
          rw [removeSource_of_some hm hp, ← hsome] at hremove
          cases hremove
          rw [entry_of_none (m := { m with
            heap := m.heap.free p
            sources := m.sources.erase ssrc
            registered := SourceStatus.remove m.registered p })
            (by rw [getElem?_erase_eq, if_pos rfl])]
          exact .removed ssrc _
  | updateVolume k volume hvolume =>
      cases hnames
      subst hvolume
      rw [entry_updateVolume]
      exact .volume ssrc volume _
  | addRecordedData k data size hadd =>
      cases hnames
      rcases addRecordedData_cases hadd with ⟨hnone, rfl⟩ | ⟨p, s, s', hp, hs, hrec, rfl⟩
      · rw [entry_of_none hnone]
        exact .noRecorder ssrc data size
      · obtain ⟨status, hstatus, -⟩ := exists_status hr hp
        have hbefore : m.entry ssrc = some (.record s, status.rest) := by
          simp [entry_of_pointer hp, hs, hstatus]
        have hafter : AudioMixer.entry
            { m with heap := m.heap.modify p (fun _ => .record s') } ssrc
              = some (.record s', status.rest) := by
          simp [AudioMixer.entry, hp, hs, hstatus]
        rw [hbefore, hafter]
        exact .recorded ssrc data size s s' status.rest hrec
  | mix => cases hnames

/-! ## The other entries -/

/-- Changing the object behind the pointer of another ssrc. -/
theorem entry_modify_of_ne (hm : WellFormed P m) {k ssrc : Int32} {p : Ptr}
    (hp : m.sources[k]? = some p) (hne : ssrc ≠ k) (f : AudioSource σ ρ α → AudioSource σ ρ α) :
    AudioMixer.entry { m with heap := m.heap.modify p f } ssrc = m.entry ssrc := by
  cases hq : m.sources[ssrc]? with
  | none =>
      rw [entry_of_none hq]
      exact entry_of_none hq
  | some q =>
      have hqp : q ≠ p := by
        rintro rfl
        exact hne (hm.injective hq hp)
      simp only [AudioMixer.entry, hq, Option.bind_some, Heap.get?_modify_of_ne m.heap f hqp]

/-- **A call that names an ssrc leaves the entries of the others**, and
what the mixer keeps besides entries. -/
theorem step_other {op : MixerOp} {k : Int32} {reply : MixerReply} (hm : WellFormed P m)
    (hr : Registry m) (hdup : NoDuplicate m op) (hnames : op.call.names = some k)
    (h : (mixerMachine P).step m op = .ok (m', reply)) :
    (∀ ssrc, ssrc ≠ k → m'.entry ssrc = m.entry ssrc) ∧
      m'.combiner = m.combiner ∧ m'.mixedFrame = m.mixedFrame := by
  have hcall := callStep_of_step h
  obtain ⟨call, uninit⟩ := op
  cases hcall with
  | addSource source ok hadd =>
      cases hnames
      have hnew : m.sources[source.ssrc]? = none := hdup source rfl
      obtain ⟨object, hmake, rfl, rfl⟩ := addSource_of_new hm hnew hadd
      refine ⟨?_, rfl, rfl⟩
      intro ssrc hne
      have hsame : (m.sources.insertIfNew source.ssrc m.heap.next)[ssrc]? = m.sources[ssrc]? := by
        rw [getElem?_insertIfNew_eq, if_neg (fun h => hne h.1)]
      cases hq : m.sources[ssrc]? with
      | none => rw [entry_of_none hq, entry_of_none (hsame.trans hq)]
      | some q =>
          obtain ⟨old, hold, -⟩ := (hm.owned ssrc q).mp hq
          rw [entry_of_pointer hq, entry_of_pointer (hsame.trans hq), hold]
          simp only [Heap.get?_alloc_of_some object hold,
            SourceStatus.find_add_of_ne (hm.ne_next hq)]
  | removeSource k ok hremove =>
      cases hnames
      cases hp : m.sources[k]? with
      | none =>
          rw [removeSource_of_none hp] at hremove
          cases hremove
          exact ⟨fun _ _ => rfl, rfl, rfl⟩
      | some p =>
          rw [removeSource_of_some hm hp] at hremove
          cases hremove
          refine ⟨?_, rfl, rfl⟩
          intro ssrc hne
          have hsame : (m.sources.erase k)[ssrc]? = m.sources[ssrc]? := by
            rw [getElem?_erase_eq, if_neg hne]
          cases hq : m.sources[ssrc]? with
          | none => rw [entry_of_none hq, entry_of_none (hsame.trans hq)]
          | some q =>
              have hqp : q ≠ p := by
                rintro rfl
                exact hne (hm.injective hq hp)
              rw [entry_of_pointer hq, entry_of_pointer (hsame.trans hq)]
              simp only [Heap.get?_free_of_ne m.heap hqp, SourceStatus.find_remove_of_ne hqp]
  | updateVolume k volume hvolume =>
      cases hnames
      unfold AudioMixer.updateVolume at hvolume
      split at hvolume
      · rename_i p hp
        subst hvolume
        exact ⟨fun ssrc hne => entry_modify_of_ne hm hp hne _, rfl, rfl⟩
      · subst hvolume
        exact ⟨fun _ _ => rfl, rfl, rfl⟩
  | addRecordedData k data size hadd =>
      cases hnames
      rcases addRecordedData_cases hadd with ⟨hnone, rfl⟩ | ⟨p, s, s', hp, hs, hrec, rfl⟩
      · exact ⟨fun _ _ => rfl, rfl, rfl⟩
      · exact ⟨fun ssrc hne => entry_modify_of_ne hm hp hne _, rfl, rfl⟩
  | mix => cases hnames

/-! ## Entries decide -/

/-- What an entry becomes, and what is returned, is determined. -/
theorem EntryStep.unique {uninit : Nat → Int16} {call : MixerCall}
    {e e₁ e₂ : Option (AudioSource σ ρ α × Ramped)} {r₁ r₂ : MixerReply}
    (h₁ : EntryStep P m uninit call e e₁ r₁) (h₂ : EntryStep P m uninit call e e₂ r₂) :
    e₁ = e₂ ∧ r₁ = r₂ := by
  cases h₁ with
  | added source object hmake =>
      cases h₂ with
      | added _ object' hmake' =>
          cases hmake.symm.trans hmake'
          exact ⟨rfl, rfl⟩
  | removed ssrc =>
      cases h₂
      exact ⟨rfl, rfl⟩
  | volume ssrc v =>
      cases h₂
      exact ⟨rfl, rfl⟩
  | noRecorder ssrc data size =>
      cases h₂
      exact ⟨rfl, rfl⟩
  | recorded ssrc data size s s' status hs =>
      cases h₂ with
      | recorded _ _ _ _ t' _ ht =>
          cases hs.symm.trans ht
          exact ⟨rfl, rfl⟩

/-- Entries step alike in mixers with the same numbers. -/
theorem EntryStep.congr {uninit : Nat → Int16} {call : MixerCall}
    {e e' : Option (AudioSource σ ρ α × Ramped)} {r : MixerReply}
    (h : EntryStep P m uninit call e e' r) (hnumbers : n.numbers = m.numbers) :
    EntryStep P n uninit call e e' r := by
  cases h with
  | added source object hmake =>
      refine .added source object ?_
      rw [makeSource_congr hnumbers]
      exact hmake
  | removed ssrc => exact .removed ssrc _
  | volume ssrc v => exact .volume ssrc v _
  | noRecorder ssrc data size => exact .noRecorder ssrc data size
  | recorded ssrc data size s s' status hs => exact .recorded ssrc data size s s' status hs

/-- A call returns when its entry can step. -/
theorem step_returns {op : MixerOp} {ssrc : Int32}
    {e : Option (AudioSource σ ρ α × Ramped)} {r : MixerReply} (hm : WellFormed P m)
    (hr : Registry m) (hnames : op.call.names = some ssrc)
    (h : EntryStep P m op.uninit op.call (m.entry ssrc) e r) :
    ∃ m' reply, (mixerMachine P).step m op = .ok (m', reply) := by
  obtain ⟨call, uninit⟩ := op
  cases call with
  | addSource source =>
      generalize m.entry ssrc = before at h
      cases h with
      | added _ object hmake =>
          obtain ⟨⟨m₁, p⟩, hadd⟩ := doAddSource_of_makeSource hmake
          simp only [mixerMachine, AudioMixer.addSource, hadd, bind, Except.bind]
          exact ⟨_, _, rfl⟩
  | removeSource k => exact ⟨_, _, rfl⟩
  | updateVolume k volume => exact ⟨_, _, rfl⟩
  | addRecordedData k data size =>
      cases hnames
      cases hp : m.sources[ssrc]? with
      | none =>
          simp only [mixerMachine, AudioMixer.addRecordedData, hp, bind, Except.bind]
          exact ⟨_, _, rfl⟩
      | some p =>
          obtain ⟨object, hget, -⟩ := (hm.owned ssrc p).mp hp
          obtain ⟨status, hstatus, -⟩ := exists_status hr hp
          have hentry : m.entry ssrc = some (object, status.rest) := by
            simp [entry_of_pointer hp, hget, hstatus]
          rw [hentry] at h
          cases h with
          | recorded _ _ _ s s' _ hs =>
              simp only [mixerMachine, AudioMixer.addRecordedData, hp, hget, hs, bind, Except.bind]
              exact ⟨_, _, rfl⟩
  | mix => cases hnames

/-- **What an entry allows, the mixer does.** -/
theorem step_of_entryStep {op : MixerOp} {ssrc : Int32}
    {e : Option (AudioSource σ ρ α × Ramped)} {r : MixerReply} (hm : WellFormed P m)
    (hr : Registry m) (hdup : NoDuplicate m op) (hnames : op.call.names = some ssrc)
    (h : EntryStep P m op.uninit op.call (m.entry ssrc) e r) :
    ∃ m', (mixerMachine P).step m op = .ok (m', r) ∧ m'.entry ssrc = e := by
  obtain ⟨m', reply, hstep⟩ := step_returns hm hr hnames h
  obtain ⟨rfl, rfl⟩ := (step_entry hm hr hdup hnames hstep).unique h
  exact ⟨m', hstep, rfl⟩

/-! ## The list of WebRTC up to order -/

/-- The registered list with the sources in place of their pointers. -/
def AudioMixer.registeredSources (m : AudioMixer σ ρ α γ) :
    List (Option (AudioSource σ ρ α) × Ramped) :=
  m.registered.map fun status => (m.heap.get? status.audioSource, status.rest)

/-- A status is found through its pointer. -/
theorem Registry.find_of_mem (hr : Registry m) {status : SourceStatus}
    (h : status ∈ m.registered) :
    SourceStatus.find m.registered status.audioSource = some status := by
  obtain ⟨ssrc, hp⟩ := (hr.owned status.audioSource).mp (List.mem_map_of_mem h)
  obtain ⟨found, hfound, hptr⟩ := exists_status hr hp
  have hsame : found = status :=
    List.inj_on_of_nodup_map hr.once (List.mem_of_find?_eq_some hfound) h hptr
  rw [hfound, hsame]

/-- The registered list consists of the entries. -/
theorem mem_registeredSources (hm : WellFormed P m) (hr : Registry m)
    {x : Option (AudioSource σ ρ α) × Ramped} :
    x ∈ m.registeredSources ↔
      ∃ ssrc source status, m.entry ssrc = some (source, status) ∧ x = (some source, status) := by
  constructor
  · intro hx
    obtain ⟨status, hmem, rfl⟩ := List.mem_map.mp hx
    obtain ⟨ssrc, hp⟩ := (hr.owned status.audioSource).mp (List.mem_map_of_mem hmem)
    obtain ⟨source, hget, -⟩ := (hm.owned ssrc _).mp hp
    refine ⟨ssrc, source, status.rest, ?_, by rw [hget]⟩
    simp [entry_of_pointer hp, hget, hr.find_of_mem hmem]
  · rintro ⟨ssrc, source, status, hentry, rfl⟩
    cases hp : m.sources[ssrc]? with
    | none => simp [entry_of_none hp] at hentry
    | some p =>
        obtain ⟨found, hfound, hptr⟩ := exists_status hr hp
        obtain ⟨object, hget, -⟩ := (hm.owned ssrc p).mp hp
        simp only [entry_of_pointer hp, hget, hfound, Option.bind_some, Option.map_some,
          Option.some.injEq, Prod.mk.injEq] at hentry
        obtain ⟨rfl, rfl⟩ := hentry
        refine List.mem_map.mpr ⟨found, List.mem_of_find?_eq_some hfound, ?_⟩
        rw [hptr, hget]

/-- No source is registered twice. -/
theorem nodup_registeredSources (hm : WellFormed P m) (hr : Registry m) :
    m.registeredSources.Nodup := by
  refine List.Nodup.map_on ?_ hr.once.of_map
  intro x hx y hy heq
  obtain ⟨k, hk⟩ := (hr.owned x.audioSource).mp (List.mem_map_of_mem hx)
  obtain ⟨k', hk'⟩ := (hr.owned y.audioSource).mp (List.mem_map_of_mem hy)
  obtain ⟨a, ha, hak⟩ := (hm.owned k _).mp hk
  obtain ⟨b, hb, hbk⟩ := (hm.owned k' _).mp hk'
  -- one object has one ssrc, and one ssrc one pointer
  have hab : a = b := by
    rw [Prod.mk.injEq, ha, hb, Option.some.injEq] at heq
    exact heq.1
  subst hab
  subst hak
  subst hbk
  rw [hk] at hk'
  exact List.inj_on_of_nodup_map hr.once hx hy (Option.some.inj hk')

/-- **The entries determine the registered list up to its order.** -/
theorem registeredSources_perm (hm : WellFormed P m) (hr : Registry m) (hn : WellFormed P n)
    (hr' : Registry n) (h : ∀ ssrc, n.entry ssrc = m.entry ssrc) :
    m.registeredSources.Perm n.registeredSources := by
  rw [List.perm_ext_iff_of_nodup (nodup_registeredSources hm hr) (nodup_registeredSources hn hr')]
  intro x
  simp only [mem_registeredSources hm hr, mem_registeredSources hn hr', h]

end L4AudioMixer.Mixer
