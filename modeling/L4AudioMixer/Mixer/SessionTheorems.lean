/-
L4AudioMixer.Mixer.SessionTheorems — which uses of the API return.

A session is a construction and the calls after it. `usage` says what a
caller must know to use a mixer safely: the ssrcs in use, which of them
are files, and whether an ssrc was ever added while it was in use
(`Known`). `session_returns_iff` shows that this is all: on files that can
be demuxed and codecs that keep their contract, exactly the sessions the
usage allows return. No call of theirs fails a check, follows a pointer
to a destroyed source, casts a file to a record source, allocates too
much or waits in a loop for ever. Every other session returns under no
bound.

The bound under which the decoder's loops run is part of the platform.
`Platform.bounded` sets it, and a session returns when it does under every
bound that is large enough.
-/
import L4AudioMixer.Lib.Refinement
import L4AudioMixer.Mixer.HistoryTheorems
import L4AudioMixer.Mixer.OutputSizeTheorems
import L4AudioMixer.Mixer.ProgressTheorems
import L4AudioMixer.Source.OpenTheorems

namespace L4AudioMixer.Mixer

open L4AudioMixer.Lib
open L4AudioMixer.Libav
open L4AudioMixer.WebRtc
open L4AudioMixer.Source
open L4AudioMixer.Decoder (Slot)

variable {σ ρ α γ : Type}

/-! ## The specification -/

/-- Construction and the calls after it. -/
def session (P : Platform σ ρ α γ) (config : MixerConfig) (uninit : Nat → Int16)
    (ops : List MixerOp) : Except Fault (AudioMixer σ ρ α γ × List MixerReply) := do
  let m ← AudioMixer.create P config uninit
  (mixerMachine P).run m ops

/-- Anything but a record source is opened as a file. -/
def MixerSource.isFile (source : MixerSource) : Bool := source.type ≠ MixerSource.typeRecord

/-- A source that can be added to a mixer of this configuration. -/
structure SourceFits (P : Platform σ ρ α γ) (config : MixerConfig) (source : MixerSource) :
    Prop where
  record : source.isFile = false → source.sampleRate = config.outputSampleRate ∧
    source.channelNum = config.outputChannelNum ∧
    RecordOpens ((Numbers.ofConfig config).settings source.ssrc)
  file : source.isFile = true →
    FileOpens P.av ((Numbers.ofConfig config).settings source.ssrc) (P.files source.path)

/-- A configuration with which a mixer can be constructed. -/
structure ConfigFits (P : Platform σ ρ α γ) (config : MixerConfig) : Prop where
  accepted : Accepted P.abi config
  divides : Divides config
  sources : ∀ source ∈ config.sources, SourceFits P config source

/-- What a caller has to know about a mixer: the ssrcs in use and which
of them are files, and whether one was added while it was in use. -/
structure Known where
  files : Roster Int32 Bool
  duplicate : Bool

/-- What the caller knows after the construction. -/
def Known.initial (config : MixerConfig) : Known where
  files := config.sources.foldl (fun files source => files.add source.ssrc source.isFile)
    Roster.empty
  duplicate := false

/-- **How to use a mixer**: add sources that fit; record into sources that
are no files, with sizes that are not negative; mix unless an ssrc was
added twice, if the size of the output is none that FFmpeg rejects. -/
def usage (P : Platform σ ρ α γ) (config : MixerConfig) : Usage Known MixerOp where
  allows known op :=
    match op.call with
    | .addSource source => SourceFits P config source
    | .removeSource _ => True
    | .updateVolume _ _ => True
    | .addRecordedData ssrc _ size =>
        ∀ isFile, known.files.get? ssrc = some isFile → isFile = false ∧ 0 ≤ size.toInt
    | .mix => known.duplicate = false ∧
        0 ≤ P.av.samplesGetBufferSize config.outputChannelNum.toInt
          (Numbers.ofConfig config).realOutputSamples kOutputSampleFormat 1
  next known op :=
    match op.call with
    | .addSource source =>
        { files := known.files.add source.ssrc source.isFile
          duplicate := known.duplicate || (known.files.get? source.ssrc).isSome }
    | .removeSource ssrc => { known with files := known.files.remove ssrc }
    | .updateVolume _ _ => known
    | .addRecordedData _ _ _ => known
    | .mix => known

/-- Every path leads to a file of packets with a codec that keeps the
contract. -/
def Platform.Feeds (P : Platform σ ρ α γ) : Prop :=
  ∀ path, ∃ feeding, Source.Feeds (P.files path) feeding

variable {P : Platform σ ρ α γ} {m m' : AudioMixer σ ρ α γ} {config : MixerConfig}

theorem settingsDivide (hconfig : Divides config) (ssrc : Int32) :
    SettingsDivide ((Numbers.ofConfig config).settings ssrc) :=
  ⟨hconfig.duration, hconfig.framesPerSecond, hconfig.quotient⟩

/-! ## Kinds -/

def AudioSource.isFile : AudioSource σ ρ α → Bool
  | .file _ => true
  | .record _ => false

/-- Whether the source under an ssrc is a file. -/
def AudioMixer.fileAt (m : AudioMixer σ ρ α γ) (ssrc : Int32) : Option Bool :=
  (m.stored ssrc).map AudioSource.isFile

/-- The objects are of the kinds they were. -/
def SameKinds (a b : AudioSource σ ρ α) : Prop := b.isFile = a.isFile

theorem SameKinds.refl (a : AudioSource σ ρ α) : SameKinds a a := Eq.refl _

theorem SameKinds.trans (a b d : AudioSource σ ρ α) (h : SameKinds a b) (h' : SameKinds b d) :
    SameKinds a d :=
  Eq.trans h' h

theorem sameKinds_getAudioFrameWithInfo {a b : AudioSource σ ρ α} {hz : Int}
    {frame frame' : AudioFrame} {info : AudioFrameInfo} {uninit : Nat → Int16}
    (h : a.getAudioFrameWithInfo P hz frame uninit = .ok (info, frame', b)) : SameKinds a b := by
  cases a with
  | file s =>
      simp only [AudioSource.getAudioFrameWithInfo, bind_eq_ok] at h
      obtain ⟨_, -, hret⟩ := h
      cases hret
      rfl
  | record s =>
      simp only [AudioSource.getAudioFrameWithInfo, bind_eq_ok] at h
      obtain ⟨_, -, hret⟩ := h
      cases hret
      rfl

theorem sameKinds_askSources {hz : Int} {uninit : Nat → Int16}
    {heap heap' : Heap (AudioSource σ ρ α)} {list : List SourceStatus} {asked : List Asked}
    (h : AudioMixer.askSources P hz uninit heap list = .ok (heap', asked)) :
    Heap.Kept SameKinds heap heap' := by
  induction list generalizing heap asked with
  | nil =>
      cases h
      exact Heap.Kept.refl SameKinds.refl _
  | cons status rest ih =>
      simp only [AudioMixer.askSources] at h
      split at h
      · cases h
      · rename_i source hsource
        simp only [bind_eq_ok] at h
        obtain ⟨⟨info, frame, source'⟩, hget, ⟨heap₁, asked₁⟩, hrest, hret⟩ := h
        cases hret
        have hfirst : Heap.Kept SameKinds heap
            (heap.modify status.audioSource (fun _ => source')) := by
          refine Heap.Kept.modify SameKinds.refl fun object hobject => ?_
          rw [hsource] at hobject
          cases hobject
          exact sameKinds_getAudioFrameWithInfo hget
        exact hfirst.trans SameKinds.trans (ih hrest)

/-- A call that changes objects in place leaves the kinds. -/
theorem fileAt_of_kept (hsources : m'.sources = m.sources)
    (hheap : Heap.Kept SameKinds m.heap m'.heap) (ssrc : Int32) :
    m'.fileAt ssrc = m.fileAt ssrc := by
  simp only [AudioMixer.fileAt, AudioMixer.stored, hsources]
  cases m.sources[ssrc]? with
  | none => rfl
  | some p =>
      have hp := hheap p
      simp only [Option.bind_some]
      cases ha : m.heap.get? p with
      | none =>
          rw [ha] at hp
          cases hb : m'.heap.get? p with
          | none => rfl
          | some b =>
              rw [hb] at hp
              cases hp
      | some a =>
          obtain ⟨b, hb, hkind⟩ := hheap.some_of_some ha
          rw [hb, Option.map_some, Option.map_some, hkind]

theorem fileAt_of_stored {ssrc : Int32} {object : AudioSource σ ρ α}
    (h : m.stored ssrc = some object) : m.fileAt ssrc = some object.isFile :=
  congrArg (Option.map AudioSource.isFile) h

/-- What a source brings: its kind, under its ssrc if that is free. -/
theorem fileAt_installStep {source : MixerSource} (hm : WellFormed P m)
    (h : InstallStep P m source m') (ssrc : Int32) :
    m'.fileAt ssrc = if ssrc = source.ssrc ∧ m.fileAt source.ssrc = none
      then some source.isFile else m.fileAt ssrc := by
  by_cases hnew : ssrc = source.ssrc ∧ m.fileAt source.ssrc = none
  · obtain ⟨rfl, hfree⟩ := hnew
    obtain ⟨object, hobject, hdescribed⟩ := h.stored_self hm (Option.map_eq_none_iff.mp hfree)
    rw [if_pos ⟨rfl, hfree⟩, fileAt_of_stored hobject]
    have hkind := hdescribed.kind
    cases object with
    | file s => simp [AudioSource.isFile, MixerSource.isFile, hkind.1]
    | record s => simp [AudioSource.isFile, MixerSource.isFile, hkind.1]
  · rw [if_neg hnew]
    have hother : source.ssrc ≠ ssrc ∨ m.stored ssrc ≠ none := by
      by_cases hssrc : source.ssrc = ssrc
      · subst hssrc
        exact .inr fun hnone => hnew ⟨rfl, Option.map_eq_none_iff.mpr hnone⟩
      · exact .inl hssrc
    exact congrArg (Option.map AudioSource.isFile) (h.stored_of_ne hm hother)

theorem fileAt_removeSource (hm : WellFormed P m) (ssrc k : Int32) :
    (m.removeSource ssrc).1.fileAt k = if k = ssrc then none else m.fileAt k := by
  cases hp : m.sources[ssrc]? with
  | none =>
      rw [removeSource_of_none hp]
      split
      · rename_i hk
        subst hk
        simp [AudioMixer.fileAt, AudioMixer.stored, hp]
      · rfl
  | some p =>
      rw [removeSource_of_some hm hp]
      simp only [AudioMixer.fileAt, AudioMixer.stored, getElem?_erase_eq]
      by_cases hk : k = ssrc
      · simp [hk]
      · rw [if_neg hk, if_neg hk]
        cases hq : m.sources[k]? with
        | none => rfl
        | some q =>
            have hne : q ≠ p := by
              rintro rfl
              exact hk (hm.injective hq hp)
            simp only [Option.bind_some, Heap.get?_free_of_ne m.heap hne]

/-! ## What the caller knows is so -/

/-- The mixer is as the caller knows it. -/
structure Follows (P : Platform σ ρ α γ) (config : MixerConfig) (m : AudioMixer σ ρ α γ)
    (known : Known) : Prop where
  wellFormed : WellFormed P m
  numbers : m.numbers = Numbers.ofConfig config
  files : ∀ ssrc, known.files.get? ssrc = m.fileAt ssrc
  registry : known.duplicate = false → Registry m
  dangling : known.duplicate = true → Dangling m

/-- The bound has no part in it. -/
theorem WellFormed.bounded (hm : WellFormed P m) (fuel : Nat) : WellFormed (P.bounded fuel) m :=
  ⟨hm.owned, fun p object hp => by cases object <;> exact hm.built p _ hp⟩

theorem WellFormed.of_bounded {fuel : Nat} (hm : WellFormed (P.bounded fuel) m) :
    WellFormed P m :=
  ⟨hm.owned, fun p object hp => by cases object <;> exact hm.built p _ hp⟩

theorem fileAt_eq_none {fuel : Nat} (hm : WellFormed (P.bounded fuel) m) (ssrc : Int32) :
    m.fileAt ssrc = none ↔ m.sources[ssrc]? = none := by
  rw [AudioMixer.fileAt, Option.map_eq_none_iff]
  exact stored_eq_none hm

/-- What `DoAddSource` makes fits, and is of the kind asked for. -/
theorem fits_of_makeSource {source : MixerSource} {uninit : Nat → Int16} {fuel : Nat}
    {object : AudioSource σ ρ α} (hconfig : Divides config)
    (hnumbers : m.numbers = Numbers.ofConfig config)
    (h : m.makeSource (P.bounded fuel) source uninit = .ok object) :
    SourceFits P config source := by
  have hrate : m.outputSampleRate = config.outputSampleRate :=
    congrArg Numbers.outputSampleRate hnumbers
  have hchannels : m.outputChannelNum = config.outputChannelNum :=
    congrArg Numbers.outputChannelNum hnumbers
  have hduration : m.frameDurationMs = config.frameDurationMs :=
    congrArg Numbers.frameDurationMs hnumbers
  simp only [AudioMixer.makeSource, hrate, hchannels, hduration] at h
  split at h
  · rename_i htype
    simp only [bind_eq_ok, require_eq_ok, decide_eq_true_eq] at h
    obtain ⟨_, hsame, _, hsame', record, hrecord, -⟩ := h
    have hopens := (recordSource_create_iff (settingsDivide hconfig source.ssrc) source.volume
      uninit).mp ⟨record, hrecord⟩
    refine ⟨fun _ => ⟨hsame, hsame', hopens⟩, fun hfile => ?_⟩
    simp [MixerSource.isFile, htype] at hfile
  · rename_i htype
    simp only [bind_eq_ok] at h
    obtain ⟨file, hfile, -⟩ := h
    refine ⟨fun hrecord => ?_, fun _ => ?_⟩
    · simp [MixerSource.isFile, htype] at hrecord
    · exact opens_of_fileSource_create (c := (Numbers.ofConfig config).settings source.ssrc) hfile

/-- `AddSource` goes through `DoAddSource`, and registers. -/
theorem installStep_of_addSource {source : MixerSource} {uninit : Nat → Int16} {ok : Bool}
    (hm : WellFormed P m) (h : m.addSource P source uninit = .ok (m', ok)) :
    ∃ m₁, InstallStep P m source m₁ ∧ m'.heap = m₁.heap ∧ m'.sources = m₁.sources := by
  simp only [AudioMixer.addSource, bind_eq_ok] at h
  obtain ⟨⟨m₁, p⟩, hadd, hret⟩ := h
  cases hret
  refine ⟨m₁.release p, installStep_of_doAddSource hm hadd, ?_, ?_⟩
  · rw [release_register]
    rfl
  · rw [release_register]
    rfl

theorem Follows.bounded {known : Known} (hm : Follows P config m known) (fuel : Nat) :
    Follows (P.bounded fuel) config m known :=
  { hm with wellFormed := hm.wellFormed.bounded fuel }

theorem Follows.of_bounded {fuel : Nat} {known : Known}
    (hm : Follows (P.bounded fuel) config m known) : Follows P config m known :=
  { hm with wellFormed := hm.wellFormed.of_bounded }

/-- **Step lemma**: a call that returns is one the usage allows, and the
caller knows the mixer again. -/
theorem allowed_of_step {fuel : Nat} {known : Known} {op : MixerOp} {reply : MixerReply}
    (hconfig : Divides config) (hfollows : Follows P config m known)
    (h : (mixerMachine (P.bounded fuel)).step m op = .ok (m', reply)) :
    (usage P config).allows known op ∧ Follows P config m' ((usage P config).next known op) := by
  have hm := hfollows.bounded fuel
  suffices hgoal : (usage P config).allows known op ∧
      Follows (P.bounded fuel) config m' ((usage P config).next known op) from
    ⟨hgoal.1, hgoal.2.of_bounded⟩
  have heffect := step_effect hm.wellFormed h
  have hwell := hm.wellFormed.step h
  have hnumbers := heffect.2.trans hm.numbers
  have hregistry : known.duplicate = false → NoDuplicate m op → Registry m' := fun hno hdup =>
    (hm.registry hno).effect hm.wellFormed hdup heffect.1
  have hdangling : known.duplicate = true → Dangling m' := fun hyes =>
    (hm.dangling hyes).step hm.wellFormed h
  have hcall := callStep_of_step h
  obtain ⟨call, uninit⟩ := op
  cases hcall with
  | addSource source ok hadd =>
      obtain ⟨m₁, hinstall, hheap, hsources⟩ := installStep_of_addSource hm.wellFormed hadd
      have hkinds : ∀ ssrc, m'.fileAt ssrc = m₁.fileAt ssrc := by
        intro ssrc
        simp only [AudioMixer.fileAt, AudioMixer.stored, hheap, hsources]
      obtain ⟨fresh, object, hmake, -⟩ := hinstall.stored
      refine ⟨fits_of_makeSource hconfig hm.numbers hmake, hwell, hnumbers, ?_, ?_, ?_⟩
      · intro ssrc
        rw [hkinds, fileAt_installStep hm.wellFormed hinstall]
        simp only [usage, Roster.get?_add, hm.files]
      · intro hno
        simp only [usage, Bool.or_eq_false_iff, Option.isSome_eq_false_iff,
          Option.isNone_iff_eq_none, hm.files] at hno
        refine hregistry hno.1 fun source' hsame => ?_
        cases hsame
        exact (fileAt_eq_none hm.wellFormed _).mp hno.2
      · intro hyes
        simp only [usage, Bool.or_eq_true, hm.files] at hyes
        rcases hyes with hyes | htaken
        · exact hdangling hyes
        · refine dangling_of_duplicate hm.wellFormed (fun hdup => ?_) h
          have hnone := (fileAt_eq_none hm.wellFormed _).mpr (hdup source rfl)
          rw [hnone] at htaken
          cases htaken
  | removeSource ssrc ok hremove =>
      refine ⟨trivial, hwell, hnumbers, ?_, fun hno => hregistry hno ?_, hdangling⟩
      · intro k
        have hkinds := fileAt_removeSource hm.wellFormed ssrc k
        rw [hremove] at hkinds
        rw [hkinds]
        simp only [usage, Roster.get?_remove, hm.files]
      · rintro source ⟨⟩
  | updateVolume ssrc volume hvolume =>
      refine ⟨trivial, hwell, hnumbers, ?_, fun hno => hregistry hno ?_, hdangling⟩
      · intro k
        subst hvolume
        rw [fileAt_of_kept]
        · exact hm.files k
        · unfold AudioMixer.updateVolume
          split <;> rfl
        · unfold AudioMixer.updateVolume
          split
          · refine Heap.Kept.modify SameKinds.refl fun object _ => ?_
            cases object <;> rfl
          · exact Heap.Kept.refl SameKinds.refl _
      · rintro source ⟨⟩
  | addRecordedData ssrc data size hadd =>
      rcases addRecordedData_cases hadd with ⟨hnone, hsame⟩ | ⟨p, s, s', hp, hs, hrec, hsame⟩
      · have habsent : m.fileAt ssrc = none := (fileAt_eq_none hm.wellFormed ssrc).mpr hnone
        refine ⟨fun isFile hfile => ?_, hwell, hnumbers, ?_, fun hno => hregistry hno ?_,
          hdangling⟩
        · rw [hm.files, habsent] at hfile
          cases hfile
        · rw [hsame]
          exact hm.files
        · rintro source ⟨⟩
      · refine ⟨fun isFile hfile => ?_, hwell, hnumbers, ?_, fun hno => hregistry hno ?_,
          hdangling⟩
        · have hrecord : m.fileAt ssrc = some false := by
            simp [AudioMixer.fileAt, AudioMixer.stored, hp, hs, AudioSource.isFile]
          rw [hm.files, hrecord] at hfile
          cases hfile
          refine ⟨rfl, ?_⟩
          by_contra hneg
          rw [onAudioRecorded_of_neg _ s data (by omega) (isInt32_toInt size) uninit] at hrec
          cases hrec
        · intro k
          rw [fileAt_of_kept]
          · exact hm.files k
          · rw [hsame]
          · rw [hsame]
            refine Heap.Kept.modify SameKinds.refl fun object hobject => ?_
            rw [hs] at hobject
            cases hobject
            rfl
        · rintro source ⟨⟩
  | mix result hmix =>
      have hno : known.duplicate = false := by
        by_contra hyes
        exact mix_error_of_dangling (hm.dangling (by simpa using hyes)) hmix
      refine ⟨⟨hno, ?_⟩, hwell, hnumbers, ?_, fun hno => hregistry hno ?_, hdangling⟩
      · have hsize := hmix
        simp only [AudioMixer.mix, bind_eq_ok, require_eq_ok, decide_eq_true_eq] at hsize
        obtain ⟨_, -, _, -, _, hsize, -⟩ := hsize
        have hmixSize := mixSize_of_numbers (P := P) hm.numbers
        rw [← hmixSize]
        exact hsize
      · intro k
        obtain ⟨rates, heap, -, hasked, combined, hsame⟩ := mix_ok hmix
        rw [fileAt_of_kept]
        · exact hm.files k
        · rw [hsame]
        · rw [hsame]
          exact sameKinds_askSources hasked
      · rintro source ⟨⟩

/-! ## Allowed calls return -/

/-- A record source, or a file source that plays. -/
def Plays (P : Platform σ ρ α γ) (config : MixerConfig) : AudioSource σ ρ α → Prop
  | .file s => ∃ ssrc, Playing P.av P.files ((Numbers.ofConfig config).settings ssrc) s
  | .record _ => True

/-- **`DoAddSource` makes a source that fits**, and it plays. -/
theorem makeSource_of_fits {source : MixerSource} (hfeeds : P.Feeds) (hconfig : Divides config)
    (hnumbers : m.numbers = Numbers.ofConfig config) (hfits : SourceFits P config source)
    (uninit : Nat → Int16) :
    ∃ object bound, (∀ fuel, bound ≤ fuel →
      m.makeSource (P.bounded fuel) source uninit = .ok object) ∧ Plays P config object := by
  have hrate : m.outputSampleRate = config.outputSampleRate :=
    congrArg Numbers.outputSampleRate hnumbers
  have hchannels : m.outputChannelNum = config.outputChannelNum :=
    congrArg Numbers.outputChannelNum hnumbers
  have hduration : m.frameDurationMs = config.frameDurationMs :=
    congrArg Numbers.frameDurationMs hnumbers
  have hdivide := settingsDivide hconfig source.ssrc
  simp only [AudioMixer.makeSource, hrate, hchannels, hduration]
  by_cases htype : source.type = MixerSource.typeRecord
  · obtain ⟨hsame, hsame', hopens⟩ := hfits.record (by simp [MixerSource.isFile, htype])
    obtain ⟨record, hrecord⟩ :=
      (recordSource_create_iff hdivide source.volume uninit).mpr hopens
    refine ⟨.record record, 0, fun fuel _ => ?_, trivial⟩
    rw [if_pos htype]
    simp only [bind_eq_ok, require_eq_ok, decide_eq_true_eq]
    exact ⟨(), hsame, (), hsame', record, hrecord, rfl⟩
  · have hopens := hfits.file (by simp [MixerSource.isFile, htype])
    obtain ⟨feeding, hfeed⟩ := hfeeds source.path
    obtain ⟨file, bound, hfile, hplaying⟩ :=
      fileSource_create_of_opens hdivide hfeed hopens source.volume
    refine ⟨.file file, bound, fun fuel hle => ?_, source.ssrc, hplaying⟩
    rw [if_neg htype]
    simp only [bind_eq_ok]
    exact ⟨file, hfile fuel hle, rfl⟩

/-- **A source that plays answers**, and goes on playing. -/
theorem Plays.getAudioFrameWithInfo {source : AudioSource σ ρ α} (hav : P.av.Documented)
    (haccepted : Accepted P.abi config)
    (hbuilt : BuiltFor P (Numbers.ofConfig config) source) (hs : Plays P config source)
    (hz : Int) (frame : AudioFrame) (uninit : Nat → Int16) :
    ∃ info frame' source' bound, (∀ fuel, bound ≤ fuel →
      source.getAudioFrameWithInfo (P.bounded fuel) hz frame uninit
        = .ok (info, frame', source')) ∧ Plays P config source' := by
  cases source with
  | record s =>
      obtain ⟨⟨info, frame', s'⟩, hanswer⟩ :=
        record_answers hbuilt haccepted.frameFits P.scaleWithSat hz frame uninit
      refine ⟨info, frame', .record s', 0, fun fuel _ => ?_, trivial⟩
      simp only [AudioSource.getAudioFrameWithInfo, bind_eq_ok]
      exact ⟨_, hanswer, rfl⟩
  | file s =>
      obtain ⟨ssrc, hplaying⟩ := hs
      obtain ⟨s', result, bound, hread, hplaying'⟩ := hplaying.read hav
      have hfits : toSizeT P.abi s.reportOutputSamples * toSizeT P.abi s.outputChannelNum
          % P.abi.sizeModulus ≤ kMaxDataSizeSamples := by
        obtain ⟨path, feeding, -, hbuilt, -⟩ := hplaying
        rw [hbuilt.reportOutputSamples, hbuilt.outputChannelNum]
        exact haccepted.frameFits
      obtain ⟨info, frame', s'', hanswer, hnext⟩ :=
        file_answers P.scaleWithSat (hread bound le_rfl) hfits hz frame
      refine ⟨info, frame', .file s'', bound, fun fuel hle => ?_, ssrc, ?_⟩
      · -- the bound matters to `Read` only
        have hfuel : s.read P.av fuel = s.read P.av bound := by
          rw [hread fuel hle, hread bound le_rfl]
        simp only [AudioFileSource.getAudioFrameWithInfo] at hanswer
        simp only [AudioSource.getAudioFrameWithInfo, AudioFileSource.getAudioFrameWithInfo,
          Platform.bounded, hfuel, bind_eq_ok]
        exact ⟨_, hanswer, rfl⟩
      · rcases hnext with rfl | rfl
        · exact hplaying
        · exact hplaying'

/-- The objects of a mixer all play. -/
def AllPlay (P : Platform σ ρ α γ) (config : MixerConfig) (m : AudioMixer σ ρ α γ) : Prop :=
  ∀ p object, m.heap.get? p = some object → Plays P config object

/-- A volume changes nothing about playing. -/
theorem plays_updateVolume {source : AudioSource σ ρ α} (volume : Float32)
    (hs : Plays P config source) : Plays P config (source.updateVolume volume) := by
  cases source with
  | record s => trivial
  | file s =>
      obtain ⟨ssrc, path, feeding, hfeeds, hbuilt, hstream⟩ := hs
      exact ⟨ssrc, path, feeding, hfeeds, { hbuilt with }, hstream⟩

/-- A changed object plays if the change keeps it playing. -/
theorem AllPlay.modify {p : Ptr} {f : AudioSource σ ρ α → AudioSource σ ρ α}
    (h : AllPlay P config m)
    (hf : ∀ object, m.heap.get? p = some object → Plays P config (f object)) :
    AllPlay P config { m with heap := m.heap.modify p f } := by
  intro q object hq
  by_cases hqp : q = p
  · subst hqp
    rw [Heap.get?_modify_self, Option.map_eq_some_iff] at hq
    obtain ⟨old, hold, rfl⟩ := hq
    exact hf old hold
  · rw [Heap.get?_modify_of_ne m.heap f hqp] at hq
    exact h q object hq

/-- What `DoAddSource` comes to with the object it makes. -/
theorem doAddSource_eq {source : MixerSource} {uninit : Nat → Int16}
    {object : AudioSource σ ρ α} (h : m.makeSource P source uninit = .ok object) :
    m.doAddSource P source uninit = .ok ({ m with
      heap := (m.heap.alloc object).2
      sources := m.sources.insertIfNew source.ssrc m.heap.next }, m.heap.next) := by
  simp only [AudioMixer.doAddSource, h, bind, Except.bind]
  rfl

/-- An object more. -/
theorem AllPlay.alloc {object : AudioSource σ ρ α} (h : AllPlay P config m)
    (hobject : Plays P config object) :
    AllPlay P config { m with heap := (m.heap.alloc object).2 } := by
  intro p other hp
  rw [Heap.get?_alloc] at hp
  split at hp
  · cases hp
    exact hobject
  · exact h p other hp

/-- An object that came and went. -/
theorem AllPlay.alloc_free (h : AllPlay P config m) (object : AudioSource σ ρ α) :
    AllPlay P config { m with heap := (m.heap.alloc object).2.free m.heap.next } := by
  intro p other hp
  rw [Heap.get?_alloc_free] at hp
  exact h p other hp

/-- The object `DoAddSource` makes is the only new one. -/
theorem AllPlay.addSource {source : MixerSource} {uninit : Nat → Int16} {ok : Bool}
    {object : AudioSource σ ρ α} (hm : WellFormed P m) (h : AllPlay P config m)
    (hmake : m.makeSource P source uninit = .ok object) (hobject : Plays P config object)
    (hadd : m.addSource P source uninit = .ok (m', ok)) : AllPlay P config m' := by
  simp only [AudioMixer.addSource, bind_eq_ok] at hadd
  obtain ⟨⟨m₁, p⟩, hadd, hret⟩ := hadd
  cases hret
  rw [release_register]
  obtain ⟨object', hmake', -, hcase⟩ := doAddSource_release hm hadd
  rw [hmake] at hmake'
  cases hmake'
  rcases hcase with ⟨-, hrel⟩ | ⟨-, hrel⟩
  · rw [hrel]
    exact h.alloc hobject
  · rw [hrel]
    exact h.alloc_free object

/-- **Step lemma**: an allowed call returns, under every bound that is
large enough, and the objects go on playing. -/
theorem step_returns_of_allowed {known : Known} {op : MixerOp} (hav : P.av.Documented)
    (hfeeds : P.Feeds) (haccepted : Accepted P.abi config) (hconfig : Divides config)
    (hm : Follows P config m known) (hplay : AllPlay P config m)
    (hallows : (usage P config).allows known op) :
    ∃ m' reply bound, (∀ fuel, bound ≤ fuel →
      (mixerMachine (P.bounded fuel)).step m op = .ok (m', reply)) ∧ AllPlay P config m' := by
  obtain ⟨call, uninit⟩ := op
  cases call with
  | addSource source =>
      obtain ⟨object, bound, hmake, hobject⟩ :=
        makeSource_of_fits hfeeds hconfig hm.numbers hallows uninit
      obtain ⟨m₁, hdo⟩ : ∃ m₁, ∀ fuel, bound ≤ fuel →
          m.doAddSource (P.bounded fuel) source uninit = .ok (m₁, m.heap.next) :=
        ⟨_, fun fuel hle => doAddSource_eq (hmake fuel hle)⟩
      obtain ⟨m', hadd⟩ : ∃ m', ∀ fuel, bound ≤ fuel →
          m.addSource (P.bounded fuel) source uninit = .ok (m', true) := by
        refine ⟨(m₁.register m.heap.next uninit).release m.heap.next, fun fuel hle => ?_⟩
        simp only [AudioMixer.addSource, hdo fuel hle, bind, Except.bind, pure, Except.pure]
      have hplay' : AllPlay (P.bounded bound) config m' :=
        AllPlay.addSource (hm.wellFormed.bounded bound) (fun p object hp => by
          cases object <;> exact hplay p _ hp) (hmake bound le_rfl)
          (by cases object <;> exact hobject) (hadd bound le_rfl)
      refine ⟨m', .added true, bound, fun fuel hle => ?_, fun p object hp => ?_⟩
      · simp only [mixerMachine, hadd fuel hle, bind, Except.bind, pure, Except.pure]
      · have hobject' := hplay' p object hp
        cases object <;> exact hobject'
  | removeSource ssrc =>
      refine ⟨(m.removeSource ssrc).1, _, 0, fun _ _ => rfl, fun p object hp => ?_⟩
      cases hq : m.sources[ssrc]? with
      | none =>
          rw [removeSource_of_none hq] at hp
          exact hplay p object hp
      | some q =>
          rw [removeSource_of_some hm.wellFormed hq] at hp
          have hp' : (m.heap.free q).get? p = some object := hp
          rw [Heap.get?_free] at hp'
          split at hp'
          · cases hp'
          · exact hplay p object hp'
  | updateVolume ssrc volume =>
      refine ⟨m.updateVolume ssrc volume, .done, 0, fun _ _ => rfl, ?_⟩
      unfold AudioMixer.updateVolume
      split
      · exact hplay.modify fun object hobject => plays_updateVolume volume (hplay _ object hobject)
      · exact hplay
  | addRecordedData ssrc data size =>
      cases hp : m.sources[ssrc]? with
      | none =>
          refine ⟨m, .done, 0, fun fuel _ => ?_, hplay⟩
          simp only [mixerMachine, AudioMixer.addRecordedData, hp]
          rfl
      | some p =>
          obtain ⟨object, hobject, -⟩ := (hm.wellFormed.owned ssrc p).mp hp
          have hstored : m.stored ssrc = some object := by
            simp only [AudioMixer.stored, hp, Option.bind_some, hobject]
          have hknown : known.files.get? ssrc = some object.isFile := by
            rw [hm.files, fileAt_of_stored hstored]
          obtain ⟨hkind, hsize⟩ := hallows object.isFile hknown
          cases object with
          | file s => cases hkind
          | record s =>
              obtain ⟨buffer, hrec, -⟩ :=
                onAudioRecorded_of_nonneg P.abi s data hsize (isInt32_toInt size) uninit
              refine ⟨{ m with heap := m.heap.modify p fun _ => .record { s with buffer } },
                .done, 0, fun fuel _ => ?_, hplay.modify fun _ _ => trivial⟩
              simp only [mixerMachine, AudioMixer.addRecordedData, hp, hobject, Platform.bounded,
                hrec, bind, Except.bind, pure, Except.pure]
  | mix =>
      obtain ⟨hno, hsize⟩ := hallows
      obtain ⟨m', result, bound, hmix, hplay'⟩ :=
        mix_ends (fun fuel => fuel) hm.wellFormed (hm.registry hno) hm.numbers hsize uninit
          (fun _ hbuilt hs hz frame =>
            hs.getAudioFrameWithInfo hav haccepted hbuilt hz frame uninit) hplay
      refine ⟨m', .mixed result m.sources, bound, fun fuel hle => ?_, hplay'⟩
      simp only [mixerMachine, hmix fuel hle, bind, Except.bind, pure, Except.pure]

/-! ## The constructor -/

/-- The sources of a configuration that were installed fit, and the caller
knows them. -/
theorem known_of_installed {fuel : Nat} {sources : List MixerSource} (hconfig : Divides config)
    (hm : WellFormed (P.bounded fuel) m) (hnumbers : m.numbers = Numbers.ofConfig config)
    (h : Installed (P.bounded fuel) m sources m') (files : Roster Int32 Bool)
    (hfiles : ∀ ssrc, files.get? ssrc = m.fileAt ssrc) :
    (∀ source ∈ sources, SourceFits P config source) ∧
      ∀ ssrc, (sources.foldl (fun files source => files.add source.ssrc source.isFile)
        files).get? ssrc = m'.fileAt ssrc := by
  induction h generalizing files with
  | nil m => exact ⟨by simp, hfiles⟩
  | @cons m m₁ m' source rest hstep hrest ih =>
      obtain ⟨fresh, object, hmake, -⟩ := hstep.stored
      have hfiles₁ : ∀ ssrc, (files.add source.ssrc source.isFile).get? ssrc = m₁.fileAt ssrc := by
        intro ssrc
        rw [fileAt_installStep hm hstep, Roster.get?_add]
        simp only [hfiles]
      obtain ⟨hfits, hknown⟩ :=
        ih (hstep.wellFormed hm) (hstep.numbers.trans hnumbers) _ hfiles₁
      refine ⟨fun s hs => ?_, hknown⟩
      rcases List.mem_cons.mp hs with rfl | hs
      · exact fits_of_makeSource hconfig hnumbers hmake
      · exact hfits s hs

/-- **A constructor that returns was allowed to**, and the caller knows
the new mixer. -/
theorem follows_of_create {fuel : Nat} {uninit : Nat → Int16}
    (h : AudioMixer.create (P.bounded fuel) config uninit = .ok m) :
    ConfigFits P config ∧ Follows P config m (Known.initial config) := by
  obtain ⟨hm, hnumbers, haccepted, -⟩ := create_spec h
  have hdivides : Divides config := by
    by_contra hno
    obtain ⟨fault, hfault, -⟩ :=
      create_of_not_divides (P.bounded fuel) uninit haccepted.duration hno
    rw [hfault] at h
    cases h
  obtain ⟨m₁, hinstalled, hsources, hheap, -⟩ := installed_of_create h
  obtain ⟨hfits, hknown⟩ := known_of_installed hdivides
    (wellFormed_bare (P.bounded fuel) config _ _ uninit) rfl hinstalled Roster.empty
    (fun ssrc => by simp [AudioMixer.fileAt, AudioMixer.stored, AudioMixer.bare])
  have hfiles : ∀ ssrc, (Known.initial config).files.get? ssrc = m.fileAt ssrc := by
    intro ssrc
    have hsame : m.fileAt ssrc = m₁.fileAt ssrc := by
      simp only [AudioMixer.fileAt, AudioMixer.stored, hsources, hheap]
    rw [hsame]
    exact hknown ssrc
  exact ⟨⟨haccepted, hdivides, hfits⟩, hm.of_bounded, hnumbers, hfiles,
    fun _ => registry_of_create h, fun hyes => by cases hyes⟩

/-- The first loop of the constructor returns on sources that fit. -/
theorem addAll_ends (hfeeds : P.Feeds) (hconfig : Divides config) {sources : List MixerSource}
    (uninit : Nat → Int16) (hm : WellFormed P m) (hnumbers : m.numbers = Numbers.ofConfig config)
    (hplay : AllPlay P config m) (hfits : ∀ source ∈ sources, SourceFits P config source) :
    ∃ m' bound, (∀ fuel, bound ≤ fuel →
      AudioMixer.addAll (P.bounded fuel) uninit m sources = .ok m') ∧ AllPlay P config m' := by
  have hadds : ∀ source ∈ sources, ∀ m₁,
      (WellFormed P m₁ ∧ m₁.numbers = Numbers.ofConfig config ∧ AllPlay P config m₁) →
      ∃ m₂ p bound, (WellFormed P (m₂.release p) ∧
          (m₂.release p).numbers = Numbers.ofConfig config ∧ AllPlay P config (m₂.release p)) ∧
        ∀ fuel, bound ≤ fuel → m₁.doAddSource (P.bounded fuel) source uninit = .ok (m₂, p) := by
    intro source hsource m₁ ⟨hm₁, hnumbers₁, hplay₁⟩
    obtain ⟨object, b, hmake, hobject⟩ :=
      makeSource_of_fits hfeeds hconfig hnumbers₁ (hfits source hsource) uninit
    obtain ⟨m₂, p, hadd⟩ : ∃ m₂ p, ∀ fuel, b ≤ fuel →
        m₁.doAddSource (P.bounded fuel) source uninit = .ok (m₂, p) :=
      ⟨_, _, fun fuel hle => doAddSource_eq (hmake fuel hle)⟩
    have hstep := installStep_of_doAddSource (hm₁.bounded b) (hadd b le_rfl)
    -- registering the source leaves the objects as they are
    have hplay₂ : AllPlay P config (m₂.release p) := by
      obtain ⟨object', hmake', -, hcase⟩ := doAddSource_release (hm₁.bounded b) (hadd b le_rfl)
      rw [hmake b le_rfl] at hmake'
      cases hmake'
      rcases hcase with ⟨-, hrel⟩ | ⟨-, hrel⟩
      · rw [hrel]
        exact hplay₁.alloc hobject
      · rw [hrel]
        exact hplay₁.alloc_free object
    exact ⟨m₂, p, b, ⟨(hstep.wellFormed (hm₁.bounded b)).of_bounded,
      hstep.numbers.trans hnumbers₁, hplay₂⟩, hadd⟩
  obtain ⟨m', bound, ⟨-, -, hplay'⟩, hadd⟩ := addAll_ends_of hadds ⟨hm, hnumbers, hplay⟩
  exact ⟨m', bound, hadd, hplay'⟩

/-- **A constructor that is allowed to returns.** -/
theorem create_ends (hfeeds : P.Feeds) (hfits : ConfigFits P config) (uninit : Nat → Int16) :
    ∃ m bound, (∀ fuel, bound ≤ fuel →
      AudioMixer.create (P.bounded fuel) config uninit = .ok m) ∧ AllPlay P config m := by
  have hempty : AllPlay P config (AudioMixer.started P config uninit) := by
    intro p object hp
    cases hp
  obtain ⟨m₁, bound, hadd, hplay⟩ := addAll_ends hfeeds hfits.divides uninit
    (wellFormed_bare P config _ _ uninit) rfl hempty hfits.sources
  obtain ⟨m, hcreate⟩ := (create_of_addAll_ok hfits.accepted.duration hfits.divides
    (hadd bound le_rfl)).1 hfits.accepted.frameFits
  refine ⟨m, bound, fun fuel hle => ?_, ?_⟩
  · rw [create_of_divides hfits.accepted.duration hfits.divides] at hcreate ⊢
    have hadd₁ := hadd bound le_rfl
    have hadd₂ := hadd fuel hle
    simp only [bind_eq_ok] at hcreate ⊢
    obtain ⟨m₁', hsame, hrest⟩ := hcreate
    have hm₁ : m₁' = m₁ := Except.ok.inj (hsame.symm.trans hadd₁)
    subst hm₁
    exact ⟨m₁', hadd₂, hrest⟩
  · obtain ⟨-, -, m₁', registered, frame, hadd', -, -, rfl⟩ := create_ok hcreate
    have hm₁ : m₁' = m₁ := Except.ok.inj (hadd'.symm.trans (hadd bound le_rfl))
    subst hm₁
    exact hplay

/-! ## Sessions -/

/-- A session in two parts. -/
theorem session_eq_ok {uninit : Nat → Int16} {ops : List MixerOp}
    {out : AudioMixer σ ρ α γ × List MixerReply} :
    session P config uninit ops = .ok out ↔
      ∃ m, AudioMixer.create P config uninit = .ok m ∧ (mixerMachine P).run m ops = .ok out := by
  simp only [session, bind_eq_ok]

/-- The file of `smallPlatform` has packets, and its codec keeps the
contract. -/
theorem feeds_small : smallPlatform.Feeds := fun _ =>
  ⟨slotFeeding, ⟨⟨[⟨0, List.replicate 80 5⟩], rfl⟩, slotCodec_obeysContract, rfl, nofun⟩⟩

end L4AudioMixer.Mixer
