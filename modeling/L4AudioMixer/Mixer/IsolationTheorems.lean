/-
L4AudioMixer.Mixer.IsolationTheorems — sources do not interfere.

Two runs of one configuration are compared through the source under one
ssrc. Calls that name another ssrc leave its entry alone
(`Mixer.Entries`), calls that name it act on the entry alone, and `Mix`
asks it at a rate that is the same in both runs, since every source
prefers the output rate. So the two-run rule of `Lib.Machine` applies:
the source gives the same answers in both runs (`answers_eq`). For the
same reason calls that name different ssrcs commute (`calls_commute`).

What counts as the content of a frame is what its header declares: the
array behind it holds what earlier frames, or the allocator, left there.
-/
import L4AudioMixer.Mixer.Entries

namespace L4AudioMixer.WebRtc

open L4AudioMixer.Lib

/-- The content of a frame: its header, with the array blanked, and the
elements the header declares (a `size_t` product). -/
structure FrameContent where
  header : AudioFrame
  elements : List Int16

def AudioFrame.content (abi : Abi) (f : AudioFrame) : FrameContent where
  header := { f with dataArray := fun _ => 0 }
  elements := firstN f.data (f.declared % abi.sizeModulus)

/-- Frames updated with the same header and, as far as the header
declares elements, the same data. -/
theorem content_updateFrame {abi : Abi} {f g f' g' : AudioFrame} {timestamp samples channels : Nat}
    {src src' : Option (Nat → Int16)} {rate : Int} {speech : SpeechType} {vad : VADActivity}
    (h : f.updateFrame abi timestamp src samples rate speech vad channels = .ok f')
    (h' : g.updateFrame abi timestamp src' samples rate speech vad channels = .ok g')
    (hsrc : src.map (firstN · (samples * channels % abi.sizeModulus))
      = src'.map (firstN · (samples * channels % abi.sizeModulus))) :
    g'.content abi = f'.content abi := by
  unfold AudioFrame.updateFrame at h h'
  by_cases hfits : samples * channels % abi.sizeModulus ≤ kMaxDataSizeSamples
  · rw [if_pos hfits] at h h'
    cases h
    cases h'
    cases src with
    | none =>
        cases src' with
        | none => rfl
        | some _ => cases hsrc
    | some data =>
        cases src' with
        | none => cases hsrc
        | some data' =>
            have hdata := Option.some.inj hsrc
            simp only [AudioFrame.content, AudioFrame.data, AudioFrame.declared,
              Option.isNone_some, Bool.false_eq_true, if_false,
              firstN_copy_front _ _ (Nat.le_refl _), hdata]
  · rw [if_neg hfits] at h
    cases h

end L4AudioMixer.WebRtc

namespace L4AudioMixer.Mixer

open L4AudioMixer.Lib
open L4AudioMixer.Libav
open L4AudioMixer.WebRtc
open L4AudioMixer.Source

variable {σ ρ α γ : Type} {P : Platform σ ρ α γ} {m m' n n' : AudioMixer σ ρ α γ}

/-! ## What is asked of WebRTC -/

/-- `ScaleWithSat` works on the content of a frame. -/
def ScalesContent (abi : Abi) (scaleWithSat : ScaleWithSat) : Prop :=
  ∀ volume f g, AudioFrame.content abi g = AudioFrame.content abi f →
    (scaleWithSat volume g).content abi = (scaleWithSat volume f).content abi

/-- The output rate depends on the set of preferred rates only. -/
def RateOfSet (library : MixerLibrary γ) : Prop :=
  ∀ rates rates' : List Int, (∀ rate, rate ∈ rates ↔ rate ∈ rates') →
    library.calculateOutputRate rates = library.calculateOutputRate rates'

/-- Rates that are all the same lead to one output rate, however many
there are. -/
theorem RateOfSet.of_constant {library : MixerLibrary γ} (h : RateOfSet library)
    {rates rates' : List Int} {x : Int} (hne : rates ≠ []) (hall : ∀ rate ∈ rates, rate = x)
    (hne' : rates' ≠ []) (hall' : ∀ rate ∈ rates', rate = x) :
    library.calculateOutputRate rates = library.calculateOutputRate rates' := by
  have hset : ∀ {l : List Int}, l ≠ [] → (∀ y ∈ l, y = x) → ∀ y, y ∈ l ↔ y = x := by
    intro l hl hx y
    obtain ⟨z, hz⟩ := List.exists_mem_of_ne_nil l hl
    exact ⟨hx y, fun hy => by rw [hy, ← hx z hz]; exact hz⟩
  apply h
  intro rate
  rw [hset hne hall, hset hne' hall']

/-! ## One source asked in two runs -/

theorem content_applyVolume {abi : Abi} {scaleWithSat : ScaleWithSat} {f g : AudioFrame}
    (hscale : ScalesContent abi scaleWithSat) (volume : Float32)
    (h : g.content abi = f.content abi) :
    (applyVolume scaleWithSat volume g).content abi
      = (applyVolume scaleWithSat volume f).content abi := by
  unfold applyVolume
  split
  · exact hscale volume f g h
  · exact h

/-- A frame of 10 ms declares no more elements than are taken from the
buffer, for rates and channel counts of any sign. -/
theorem declared_le_taken {abi : Abi} {c : SourceSettings} {s : AudioRecordSource}
    (hs : BuiltRecord c s) (hten : c.frameDurationMs = 10)
    (hfits : toSizeT abi s.reportOutputSamples * toSizeT abi s.channelNum % abi.sizeModulus
      ≤ kMaxDataSizeSamples) :
    toSizeT abi s.reportOutputSamples * toSizeT abi s.channelNum % abi.sizeModulus
      ≤ toSizeT abi s.realBufferNumElements := by
  obtain ⟨hlow, hhigh⟩ := hs.productFits
  have hreal : s.realBufferNumElements
      = (c.outputChannelNum * c.outputSampleRate).tdiv (100 : Nat) := by
    rw [hs.realBufferNumElements, hten]
    rfl
  rw [toSizeT_mul, hs.reportOutputSamples, hs.channelNum] at hfits ⊢
  rw [hreal]
  have habs := natAbs_tdiv_mul_le c.outputSampleRate c.outputChannelNum 100
  have hless : ((c.outputChannelNum * c.outputSampleRate).tdiv (100 : Nat)).natAbs
      = (c.outputChannelNum * c.outputSampleRate).natAbs / 100 := Int.natAbs_tdiv _ _
  have hint : IsInt32 (c.outputSampleRate.tdiv (100 : Nat) * c.outputChannelNum) := by
    constructor <;> omega
  rcases Int.lt_trichotomy (c.outputSampleRate.tdiv (100 : Nat) * c.outputChannelNum) 0 with
    hneg | hzero | hpos
  · -- a negative count would not fit into a frame
    have hlarge := maxObjectBytes_lt_toSizeT abi hneg hint
    have hmax : kMaxDataSizeSamples ≤ abi.maxObjectBytes := by cases abi <;> decide
    exact absurd (Nat.lt_of_lt_of_le hlarge hfits) (Nat.not_lt.mpr hmax)
  · have hnil : toSizeT abi (c.outputSampleRate.tdiv (100 : Nat) * c.outputChannelNum) = 0 := by
      rw [hzero]
      cases abi <;> rfl
    exact hnil ▸ Nat.zero_le _
  · have hle := tdiv_mul_le_of_pos hpos
    have hint' : IsInt32 ((c.outputChannelNum * c.outputSampleRate).tdiv (100 : Nat)) := by
      constructor <;> omega
    have hx := toSizeT_of_nonneg abi (Int.le_of_lt hpos) hint
    have hy := toSizeT_of_nonneg abi (by omega) hint'
    rw [hy]
    exact hx ▸ Int.toNat_le_toNat hle

/-- Buffers with the same elements, read up to their size. -/
theorem SameElements.data {a b : BufferT Int16} (h : SameElements a b) {k : Nat}
    (hk : k ≤ a.size) : a.data.map (firstN · k) = b.data.map (firstN · k) := by
  have hprefix : firstN a.array k = firstN b.array k := by
    have ha := take_firstN a.array hk
    have hb := take_firstN b.array (h.size ▸ hk)
    rw [← ha, ← hb]
    exact congrArg (List.take k) h.contents.symm
  unfold BufferT.data
  rw [h.capacity]
  split
  · rfl
  · simp only [Option.map_some, hprefix]

/-- What is left of the buffers after a frame was taken. -/
theorem SameElements.shifted {abi : Abi} {s : AudioRecordSource} {buffer : BufferT Int16}
    (h : SameElements s.buffer buffer) (uninit uninit' : Nat → Int16) :
    SameElements (shifted abi s uninit) (shifted abi { s with buffer } uninit') := by
  have hcapacity : ∀ (b : BufferT Int16) (k : Nat) (u : Nat → Int16),
      ((b.moveToFront k (b.size - k)).setSize (b.size - k) u).capacity = b.capacity := by
    intro b k u
    have hle : b.size - k ≤ (b.moveToFront k (b.size - k)).capacity :=
      Nat.le_trans (Nat.sub_le _ _) b.consistent
    simp only [BufferT.setSize, BufferT.ensure_of_le _ hle]
    rfl
  constructor
  · simp only [Source.shifted, BufferT.contents_moveToFront_setSize, h.contents]
  · simp only [Source.shifted, hcapacity, h.capacity]

/-- Record sources that are alike, asked at the same rate. -/
theorem alike_record_getAudioFrameWithInfo {c : SourceSettings} {s s' t' : AudioRecordSource}
    {buffer : BufferT Int16} {hz : Int} {f f' g g' : AudioFrame} {info info' : AudioFrameInfo}
    {uninit uninit' : Nat → Int16} (hscale : ScalesContent P.abi P.scaleWithSat)
    (hs : BuiltRecord c s) (hten : c.frameDurationMs = 10) (hb : SameElements s.buffer buffer)
    (h : s.getAudioFrameWithInfo P.abi P.scaleWithSat hz f uninit = .ok (info, f', s'))
    (h' : AudioRecordSource.getAudioFrameWithInfo P.abi P.scaleWithSat { s with buffer } hz g
      uninit' = .ok (info', g', t')) :
    info' = info ∧ (info = .kNormal → g'.content P.abi = f'.content P.abi) ∧
      Alike (σ := σ) (ρ := ρ) (α := α) (.record s') (.record t') := by
  have hsize := hb.size
  rcases record_getAudioFrameWithInfo_cases h with
    ⟨hne, rfl, rfl⟩ | ⟨hhz, hshort, rfl, rfl⟩ | ⟨hhz, hfull, rfl, rfl, updated, hupdated, rfl⟩
  · rcases record_getAudioFrameWithInfo_cases h' with
      ⟨_, rfl, rfl⟩ | ⟨hhz, _⟩ | ⟨hhz, _⟩
    · exact ⟨rfl, by simp, .record s' buffer hb⟩
    · exact absurd hhz hne
    · exact absurd hhz hne
  · rcases record_getAudioFrameWithInfo_cases h' with
      ⟨hne, _⟩ | ⟨_, _, rfl, rfl⟩ | ⟨_, hfull, _⟩
    · exact absurd hhz hne
    · exact ⟨rfl, by simp, .record s' buffer hb⟩
    · simp only [hsize] at hfull
      omega
  · rcases record_getAudioFrameWithInfo_cases h' with
      ⟨hne, _⟩ | ⟨_, hshort, _⟩ | ⟨_, _, rfl, rfl, updated', hupdated', rfl⟩
    · exact absurd hhz hne
    · simp only [hsize] at hshort
      omega
    · refine ⟨rfl, fun _ => content_applyVolume hscale s.volume ?_, ?_⟩
      · refine content_updateFrame hupdated hupdated' (hb.data ?_)
        have hfits : toSizeT P.abi s.reportOutputSamples * toSizeT P.abi s.channelNum
            % P.abi.sizeModulus ≤ kMaxDataSizeSamples := by
          by_contra hlong
          simp only [AudioFrame.updateFrame, if_neg hlong] at hupdated
          cases hupdated
        exact Nat.le_trans (declared_le_taken hs hten hfits) hfull
      · exact .record { s with buffer := shifted P.abi s uninit } _ (hb.shifted uninit uninit')

/-- The frame into which a file source reads does not depend on the frame
it is given. -/
theorem blankFrame_eq {abi : Abi} {s : AudioFileSource σ ρ α} {f g f' g' : AudioFrame}
    (h : blankFrame abi s f = .ok f') (h' : blankFrame abi s g = .ok g') : g' = f' := by
  simp only [blankFrame, bind_eq_ok] at h h'
  obtain ⟨updated, hupdated, hret⟩ := h
  obtain ⟨updated', hupdated', hret'⟩ := h'
  unfold AudioFrame.updateFrame at hupdated hupdated'
  by_cases hfits : toSizeT abi s.reportOutputSamples * toSizeT abi s.outputChannelNum
      % abi.sizeModulus ≤ kMaxDataSizeSamples
  · rw [if_pos hfits] at hupdated hupdated'
    cases hupdated
    cases hupdated'
    cases hret
    cases hret'
    rfl
  · rw [if_neg hfits] at hupdated
    cases hupdated

/-- **A source asked in two runs**: alike sources, asked at the same rate,
give the same answer, frames with the same content where they count, and
stay alike. -/
theorem alike_getAudioFrameWithInfo {c : Numbers} {a a' b b' : AudioSource σ ρ α} {hz : Int}
    {f f' g g' : AudioFrame} {info info' : AudioFrameInfo} {uninit uninit' : Nat → Int16}
    (hscale : ScalesContent P.abi P.scaleWithSat) (hbuilt : BuiltFor P c a)
    (hten : c.frameDurationMs.toInt = 10) (hab : Alike a b)
    (h : a.getAudioFrameWithInfo P hz f uninit = .ok (info, f', a'))
    (h' : b.getAudioFrameWithInfo P hz g uninit' = .ok (info', g', b')) :
    info' = info ∧ (info = .kNormal → g'.content P.abi = f'.content P.abi) ∧ Alike a' b' := by
  cases hab with
  | file s =>
      simp only [AudioSource.getAudioFrameWithInfo, bind_eq_ok] at h h'
      obtain ⟨⟨info₁, f₁, s₁⟩, hs, hret⟩ := h
      obtain ⟨⟨info₂, g₁, s₂⟩, hs', hret'⟩ := h'
      cases hret
      cases hret'
      rcases file_getAudioFrameWithInfo_cases hs with
        ⟨hne, rfl, rfl⟩ | ⟨hhz, blank, result, hblank, hread, hcase⟩
      · rcases file_getAudioFrameWithInfo_cases hs' with ⟨_, rfl, rfl⟩ | ⟨hhz, _⟩
        · exact ⟨rfl, by simp, .file _⟩
        · exact absurd hhz hne
      · rcases file_getAudioFrameWithInfo_cases hs' with
          ⟨hne, _⟩ | ⟨_, blank', result', hblank', hread', hcase'⟩
        · exact absurd hhz hne
        · cases hread.symm.trans hread'
          cases blankFrame_eq hblank hblank'
          rcases hcase with ⟨hneg, rfl⟩ | ⟨hnonneg, rfl, rfl⟩
          · rcases hcase' with ⟨_, rfl⟩ | ⟨hnonneg, _⟩
            · exact ⟨rfl, by simp, .file _⟩
            · omega
          · rcases hcase' with ⟨hneg, _⟩ | ⟨_, rfl, rfl⟩
            · omega
            · exact ⟨rfl, fun _ => rfl, .file _⟩
  | record s buffer hb =>
      simp only [AudioSource.getAudioFrameWithInfo, bind_eq_ok] at h h'
      obtain ⟨⟨info₁, f₁, s₁⟩, hs, hret⟩ := h
      obtain ⟨⟨info₂, g₁, s₂⟩, hs', hret'⟩ := h'
      cases hret
      cases hret'
      exact alike_record_getAudioFrameWithInfo hscale hbuilt hten hb hs hs'

/-! ## The answers of a source -/

/-- What a source gives at a `Mix`: its answer, the volume it applies, and
the frame where the answer says that the frame counts. -/
structure Answer where
  info : AudioFrameInfo
  volume : Float32
  frame : Option FrameContent

def askedAnswer (abi : Abi) (asked : Asked) : Answer where
  info := asked.info
  volume := asked.volume
  frame := if asked.info = .kNormal then some (asked.status.audioFrame.content abi) else none

/-- The answer, in a list of answers, of the source behind a pointer. -/
def answerOf (abi : Abi) (asked : List Asked) (p : Ptr) : Option Answer :=
  (asked.find? fun a => a.status.audioSource = p).map (askedAnswer abi)

/-- What `Mix` got from the source stored under an ssrc; `none` inside
when nothing was stored there. -/
def MixerReply.answer (abi : Abi) (ssrc : Int32) : MixerReply → Option (Option Answer)
  | .mixed result sources => some (sources[ssrc]?.bind (answerOf abi result.asked))
  | _ => none

/-- What the source stored under an ssrc gave at the successive `Mix`
calls of a run. -/
def answers (abi : Abi) (ssrc : Int32) (replies : List MixerReply) : List (Option Answer) :=
  replies.filterMap (MixerReply.answer abi ssrc)

/-- A source that is not in the list is not asked. -/
theorem askSources_other {hz : Int} {uninit : Nat → Int16} {heap heap' : Heap (AudioSource σ ρ α)}
    {list : List SourceStatus} {asked : List Asked} {p : Ptr}
    (h : AudioMixer.askSources P hz uninit heap list = .ok (heap', asked))
    (hp : p ∉ list.map SourceStatus.audioSource) : heap'.get? p = heap.get? p := by
  induction list generalizing heap asked with
  | nil =>
      cases h
      rfl
  | cons status rest ih =>
      simp only [List.map_cons, List.mem_cons, not_or] at hp
      simp only [AudioMixer.askSources] at h
      split at h
      · cases h
      · simp only [bind_eq_ok] at h
        obtain ⟨⟨info, frame, source'⟩, -, ⟨heap₁, asked₁⟩, hrest, hret⟩ := h
        cases hret
        rw [ih hrest hp.2, Heap.get?_modify_of_ne heap _ hp.1]

/-- A source in the list is asked once. -/
theorem askSources_asked {hz : Int} {uninit : Nat → Int16} {heap heap' : Heap (AudioSource σ ρ α)}
    {list : List SourceStatus} {asked : List Asked} {p : Ptr} {source : AudioSource σ ρ α}
    (h : AudioMixer.askSources P hz uninit heap list = .ok (heap', asked))
    (hnodup : (list.map SourceStatus.audioSource).Nodup)
    (hp : p ∈ list.map SourceStatus.audioSource) (hsource : heap.get? p = some source) :
    ∃ frame info frame' source',
      source.getAudioFrameWithInfo P hz frame uninit = .ok (info, frame', source') ∧
      heap'.get? p = some source' ∧
      answerOf P.abi asked p = some ⟨info, source.volume,
        if info = .kNormal then some (frame'.content P.abi) else none⟩ := by
  induction list generalizing heap asked with
  | nil => simp at hp
  | cons status rest ih =>
      simp only [List.map_cons, List.nodup_cons] at hnodup
      simp only [AudioMixer.askSources] at h
      split at h
      · cases h
      · rename_i first hfirst
        simp only [bind_eq_ok] at h
        obtain ⟨⟨info, frame', source'⟩, hget, ⟨heap₁, asked₁⟩, hrest, hret⟩ := h
        cases hret
        by_cases hstatus : status.audioSource = p
        · -- asked now, and left alone afterwards
          subst hstatus
          rw [hsource] at hfirst
          cases hfirst
          refine ⟨status.audioFrame, info, frame', source', hget, ?_, ?_⟩
          · rw [askSources_other hrest hnodup.1, Heap.get?_modify_self, hsource]
            rfl
          · simp [answerOf, askedAnswer]
        · have hp' : p ∈ rest.map SourceStatus.audioSource := by
            rcases List.mem_cons.mp hp with heq | hmem
            · exact absurd heq.symm hstatus
            · exact hmem
          have hne : p ≠ status.audioSource := fun heq => hstatus heq.symm
          obtain ⟨f, i, f', s', hf, hs', hans⟩ := ih hrest hnodup.2 hp'
            (by rw [Heap.get?_modify_of_ne heap _ hne, hsource])
          refine ⟨f, i, f', s', hf, hs', ?_⟩
          simpa [answerOf, hstatus] using hans

/-- **What `Mix` does with the source under an ssrc**: it asks it once, at
the rate calculated from rates that are all the output rate. -/
theorem mix_asks {uninit : Nat → Int16} {result : MixResult} {ssrc : Int32}
    {source : AudioSource σ ρ α} (hm : WellFormed P m) (hr : Registry m)
    (hstored : m.stored ssrc = some source) (h : m.mix P uninit = .ok (m', result)) :
    ∃ rates frame info frame' source', rates ≠ [] ∧
      (∀ rate ∈ rates, rate = m.outputSampleRate.toInt) ∧
      source.getAudioFrameWithInfo P (P.webrtc.calculateOutputRate rates) frame uninit
        = .ok (info, frame', source') ∧
      m'.stored ssrc = some source' ∧
      MixerReply.answer P.abi ssrc (.mixed result m.sources) = some (some ⟨info, source.volume,
        if info = .kNormal then some (frame'.content P.abi) else none⟩) := by
  obtain ⟨p, hp, hsource⟩ := WellFormed.stored_eq_some.mp hstored
  have hmem : p ∈ m.pointers := (hr.owned p).mpr ⟨ssrc, hp⟩
  obtain ⟨rates, heap, hrates, hasked, combined, rfl⟩ := mix_ok h
  obtain ⟨hlength, hall⟩ := preferredRates_eq
    (fun q object hq => (rate_of_builtFor (hm.built q object hq)).1) hrates
  obtain ⟨frame, info, frame', source', hget, hheap, hans⟩ :=
    askSources_asked hasked hr.once hmem hsource
  refine ⟨rates, frame, info, frame', source', ?_, hall, hget, ?_, ?_⟩
  · rintro rfl
    have hlist : m.registered = [] := List.length_eq_zero_iff.mp hlength.symm
    simp [AudioMixer.pointers, hlist] at hmem
  · exact WellFormed.stored_eq_some.mpr ⟨p, hp, hheap⟩
  · simp only [MixerReply.answer, hp, Option.bind_some, hans]

/-- Where nothing is stored, `Mix` stores and asks nothing. -/
theorem mix_asks_none {uninit : Nat → Int16} {result : MixResult} {ssrc : Int32}
    (hnone : m.sources[ssrc]? = none) (h : m.mix P uninit = .ok (m', result)) :
    m'.stored ssrc = none ∧
      MixerReply.answer P.abi ssrc (.mixed result m.sources) = some none := by
  obtain ⟨rates, heap, -, -, combined, rfl⟩ := mix_ok h
  simp [AudioMixer.stored, MixerReply.answer, hnone]

/-! ## Two runs -/

/-- What holds along a run without duplicates. -/
structure Sound (P : Platform σ ρ α γ) (c : Numbers) (m : AudioMixer σ ρ α γ) : Prop where
  well : WellFormed P m
  registry : Registry m
  numbers : m.numbers = c

theorem sound_of_create {config : MixerConfig} {uninit : Nat → Int16}
    (h : AudioMixer.create P config uninit = .ok m) : Sound P (Numbers.ofConfig config) m := by
  obtain ⟨hm, hnumbers, -⟩ := create_spec h
  exact ⟨hm, registry_of_create h, hnumbers⟩

theorem Sound.step {c : Numbers} {op : MixerOp} {reply : MixerReply} (hs : Sound P c m)
    (hdup : NoDuplicate m op) (h : (mixerMachine P).step m op = .ok (m', reply)) :
    Sound P c m' := by
  obtain ⟨heffect, hnumbers⟩ := step_effect hs.well h
  exact ⟨hs.well.effect heffect hnumbers, hs.registry.effect hs.well hdup heffect,
    hnumbers.trans hs.numbers⟩

/-- What an observer of one ssrc sees of an operation: `Mix`, and the
calls that name the ssrc. -/
def seen (ssrc : Int32) (op : MixerOp) : Option MixerCall :=
  if op.call.names = none ∨ op.call.names = some ssrc then some op.call else none

theorem seen_eq_none {ssrc : Int32} {op : MixerOp} (h : seen ssrc op = none) :
    ∃ k, op.call.names = some k ∧ ssrc ≠ k := by
  unfold seen at h
  split at h
  · cases h
  · rename_i hno
    cases hk : op.call.names with
    | none => exact absurd (.inl hk) hno
    | some k =>
        refine ⟨k, rfl, ?_⟩
        rintro rfl
        exact hno (.inr hk)

theorem seen_eq_some {ssrc : Int32} {op : MixerOp} {call : MixerCall}
    (h : seen ssrc op = some call) :
    op.call = call ∧ (call.names = none ∨ call.names = some ssrc) := by
  unfold seen at h
  split at h
  · rename_i hyes
    cases h
    exact ⟨rfl, hyes⟩
  · cases h

/-- The states of two runs that look the same through one ssrc. -/
structure SameView (P : Platform σ ρ α γ) (c : Numbers) (ssrc : Int32)
    (a b : AudioMixer σ ρ α γ) : Prop where
  left : Sound P c a
  right : Sound P c b
  stored : Option.Rel Alike (a.stored ssrc) (b.stored ssrc)

/-- A step of an entry gives no answer of a source. -/
theorem EntryStep.answer {uninit : Nat → Int16} {call : MixerCall}
    {e e' : Option (AudioSource σ ρ α × Ramped)} {r : MixerReply}
    (h : EntryStep P m uninit call e e' r) (abi : Abi) (ssrc : Int32) :
    r.answer abi ssrc = none := by
  cases h <;> rfl

/-- An operation on another ssrc is not noticed. -/
theorem unnoticed {op : MixerOp} {ssrc : Int32} {reply : MixerReply} {c : Numbers}
    (hs : Sound P c m) (hdup : NoDuplicate m op) (hseen : seen ssrc op = none)
    (h : (mixerMachine P).step m op = .ok (m', reply)) :
    m'.stored ssrc = m.stored ssrc ∧ reply.answer P.abi ssrc = none := by
  obtain ⟨k, hk, hne⟩ := seen_eq_none hseen
  constructor
  · have hentry := (step_other hs.well hs.registry hdup hk h).1 ssrc hne
    rw [← entry_fst hs.registry, ← entry_fst (hs.step hdup h).registry, hentry]
  · exact (step_entry hs.well hs.registry hdup hk h).answer P.abi ssrc

/-- The same call on alike entries. -/
theorem EntryStep.alike {uninit uninit' : Nat → Int16} {call : MixerCall}
    {e e' f f' : Option (AudioSource σ ρ α × Ramped)} {r r' : MixerReply}
    (hnumbers : n.numbers = m.numbers)
    (hef : Option.Rel Alike (e.map Prod.fst) (f.map Prod.fst))
    (h : EntryStep P m uninit call e e' r) (h' : EntryStep P n uninit' call f f' r') :
    Option.Rel Alike (e'.map Prod.fst) (f'.map Prod.fst) := by
  cases h with
  | added source object hmake =>
      cases h' with
      | added _ object' hmake' =>
          obtain ⟨object₁, hmake₁, halike⟩ := alike_makeSource hnumbers hmake uninit'
          cases hmake'.symm.trans hmake₁
          exact .some halike
  | removed ssrc =>
      cases h'
      exact .none
  | volume ssrc v =>
      cases h'
      cases e with
      | none =>
          cases f with
          | none => exact .none
          | some _ => cases hef
      | some x =>
          cases f with
          | none => cases hef
          | some y =>
              cases hef with
              | some halike => exact .some (halike.updateVolume v)
  | noRecorder ssrc data size =>
      cases h' with
      | noRecorder => exact .none
      | recorded => cases hef
  | recorded ssrc data size s s' status hs =>
      cases h' with
      | noRecorder => cases hef
      | recorded _ _ _ t t' status' ht =>
          cases hef with
          | some halike =>
              cases halike with
              | record _ buffer hb =>
                  obtain ⟨t₁, ht₁, halike'⟩ := alike_onAudioRecorded hb hs uninit'
                  cases ht.symm.trans ht₁
                  exact .some halike'

/-- `Mix` in two runs that look the same through an ssrc. -/
theorem SameView.mix {c : Numbers} {ssrc : Int32} {uninit uninit' : Nat → Int16}
    {result result' : MixResult} (hscale : ScalesContent P.abi P.scaleWithSat)
    (hrate : RateOfSet P.webrtc) (hten : c.frameDurationMs.toInt = 10)
    (hv : SameView P c ssrc m n) (h : m.mix P uninit = .ok (m', result))
    (h' : n.mix P uninit' = .ok (n', result')) :
    Option.Rel Alike (m'.stored ssrc) (n'.stored ssrc) ∧
      MixerReply.answer P.abi ssrc (.mixed result m.sources)
        = MixerReply.answer P.abi ssrc (.mixed result' n.sources) := by
  obtain ⟨hm, hr, hnumbers⟩ := hv.left
  obtain ⟨hn, hr', hnumbers'⟩ := hv.right
  have hstored := hv.stored
  cases ha : m.stored ssrc with
  | none =>
      rw [ha] at hstored
      cases hb : n.stored ssrc with
      | some b => rw [hb] at hstored; cases hstored
      | none =>
          obtain ⟨hstored₁, hans₁⟩ := mix_asks_none ((stored_eq_none hm).mp ha) h
          obtain ⟨hstored₂, hans₂⟩ := mix_asks_none ((stored_eq_none hn).mp hb) h'
          rw [hstored₁, hstored₂, hans₁, hans₂]
          exact ⟨.none, rfl⟩
  | some a =>
      rw [ha] at hstored
      cases hb : n.stored ssrc with
      | none => rw [hb] at hstored; cases hstored
      | some b =>
          rw [hb] at hstored
          cases hstored with
          | some halike =>
              obtain ⟨rates, f, info, f', a', hne, hall, hget, hstored₁, hans₁⟩ :=
                mix_asks hm hr ha h
              obtain ⟨rates', g, info', g', b', hne', hall', hget', hstored₂, hans₂⟩ :=
                mix_asks hn hr' hb h'
              have hout : n.outputSampleRate = m.outputSampleRate :=
                congrArg Numbers.outputSampleRate (hnumbers'.trans hnumbers.symm)
              have hhz := hrate.of_constant hne' (hout ▸ hall') hne hall
              rw [hhz] at hget'
              have hbuilt : BuiltFor P c a := by
                obtain ⟨p, -, hp⟩ := WellFormed.stored_eq_some.mp ha
                exact hnumbers ▸ hm.built p a hp
              obtain ⟨rfl, hframe, halike'⟩ :=
                alike_getAudioFrameWithInfo hscale hbuilt hten halike hget hget'
              rw [hstored₁, hstored₂, hans₁, hans₂, halike.volume]
              refine ⟨.some halike', ?_⟩
              by_cases hnormal : info' = .kNormal
              · simp only [hnormal, if_true, hframe hnormal]
              · simp only [hnormal, if_false]

/-- **One ssrc seen in two runs**: the premises of the two-run rule. -/
theorem mixer_unwinds {c : Numbers} (ssrc : Int32) (hscale : ScalesContent P.abi P.scaleWithSat)
    (hrate : RateOfSet P.webrtc) (hten : c.frameDurationMs.toInt = 10) :
    Machine.Unwinds (mixerMachine P) NoDuplicate (SameView P c ssrc) (seen ssrc)
      (MixerReply.answer P.abi ssrc) where
  left := by
    intro a b op a' r hv hdup hseen hstep
    obtain ⟨hstored, hanswer⟩ := unnoticed hv.left hdup hseen hstep
    exact ⟨⟨hv.left.step hdup hstep, hv.right, hstored ▸ hv.stored⟩, hanswer⟩
  right := by
    intro a b op b' r hv hdup hseen hstep
    obtain ⟨hstored, hanswer⟩ := unnoticed hv.right hdup hseen hstep
    exact ⟨⟨hv.left, hv.right.step hdup hstep, hstored ▸ hv.stored⟩, hanswer⟩
  both := by
    intro a b op op' call a' b' r r' hv hdup hdup' hseen hseen' hstep hstep'
    obtain ⟨hcall, hnames⟩ := seen_eq_some hseen
    obtain ⟨hcall', -⟩ := seen_eq_some hseen'
    have hleft := hv.left.step hdup hstep
    have hright := hv.right.step hdup' hstep'
    rcases hnames with hmix | hself
    · -- `Mix` is the call that names no ssrc
      have h₁ := callStep_of_step hstep
      have h₂ := callStep_of_step hstep'
      rw [hcall] at h₁
      rw [hcall'] at h₂
      cases h₁ with
      | mix result hmixed =>
          cases h₂ with
          | mix result' hmixed' =>
              obtain ⟨hstored, hanswer⟩ := hv.mix hscale hrate hten hmixed hmixed'
              exact ⟨⟨hleft, hright, hstored⟩, hanswer⟩
      | addSource | removeSource | updateVolume | addRecordedData => cases hmix
    · have h₁ := step_entry hv.left.well hv.left.registry hdup (hcall ▸ hself) hstep
      have h₂ := step_entry hv.right.well hv.right.registry hdup' (hcall' ▸ hself) hstep'
      rw [hcall] at h₁
      rw [hcall'] at h₂
      have hbefore := hv.stored
      rw [← entry_fst hv.left.registry, ← entry_fst hv.right.registry] at hbefore
      have hafter := h₁.alike (hv.right.numbers.trans hv.left.numbers.symm) hbefore h₂
      rw [entry_fst hleft.registry, entry_fst hright.registry] at hafter
      exact ⟨⟨hleft, hright, hafter⟩, (h₁.answer _ _).trans (h₂.answer _ _).symm⟩

/-- Two runs of a configuration whose `Mix` calls and calls naming `ssrc`
are the same get the same answers from the source stored under it. -/
def SameAnswers (P : Platform σ ρ α γ) (config : MixerConfig) (ssrc : Int32) : Prop :=
  ∀ uninit uninit' m₀ n₀, AudioMixer.create P config uninit = .ok m₀ →
    AudioMixer.create P config uninit' = .ok n₀ →
    ∀ ops ops', (mixerMachine P).Meets NoDuplicate m₀ ops →
      (mixerMachine P).Meets NoDuplicate n₀ ops' →
      ops.filterMap (seen ssrc) = ops'.filterMap (seen ssrc) →
      ∀ m replies n replies', (mixerMachine P).run m₀ ops = .ok (m, replies) →
        (mixerMachine P).run n₀ ops' = .ok (n, replies') →
        answers P.abi ssrc replies = answers P.abi ssrc replies'

theorem answers_eq {config : MixerConfig} (hscale : ScalesContent P.abi P.scaleWithSat)
    (hrate : RateOfSet P.webrtc) (hten : config.frameDurationMs.toInt = 10) (ssrc : Int32) :
    SameAnswers P config ssrc := by
  intro uninit uninit' m₀ n₀ hcreate hcreate' ops ops' hmeets hmeets' hsame m replies n replies'
    hrun hrun'
  have hm₀ := sound_of_create hcreate
  have hn₀ := sound_of_create hcreate'
  have hstored : Option.Rel Alike (m₀.stored ssrc) (n₀.stored ssrc) := by
    obtain ⟨a, hinst, hsources, hheap, -⟩ := installed_of_create hcreate
    obtain ⟨b, hinst', hsources', hheap', -⟩ := installed_of_create hcreate'
    have hsame := installed_same (sameSources_started P config uninit uninit') hinst hinst'
    simp only [AudioMixer.stored, hsources, hsources', hheap, hheap']
    exact hsame.stored ssrc
  exact (Machine.run_unwind (mixer_unwinds ssrc hscale hrate hten) ⟨hm₀, hn₀, hstored⟩ hmeets
    hmeets' hsame hrun hrun').2

/-! ## Commuting calls -/

/-- Mixers that differ in the order of the registered list, and in which
pointer a source has. -/
structure SameUpToOrder (a b : AudioMixer σ ρ α γ) : Prop where
  numbers : b.numbers = a.numbers
  combiner : b.combiner = a.combiner
  mixedFrame : b.mixedFrame = a.mixedFrame
  stored : ∀ ssrc, b.stored ssrc = a.stored ssrc
  registered : a.registeredSources.Perm b.registeredSources

/-- A free ssrc stays free under calls that name another. -/
theorem noDuplicate_after {op op' : MixerOp} {k k' : Int32} {reply : MixerReply}
    (hm : WellFormed P m) (hk : op.call.names = some k) (hk' : op'.call.names = some k')
    (hne : k ≠ k') (hdup' : NoDuplicate m op') (h : (mixerMachine P).step m op = .ok (m', reply)) :
    NoDuplicate m' op' := by
  intro source hcall
  refine absent_effect (step_effect hm h).1 (fun added hadded => ?_) (hdup' source hcall)
  rw [hadded] at hk
  rw [hcall] at hk'
  cases hk
  cases hk'
  exact hne

/-- **Calls that name different ssrcs commute**, up to the order of the
registered list. -/
theorem calls_commute {c : Numbers} {op op' : MixerOp} {k k' : Int32} {replies : List MixerReply}
    (hs : Sound P c m) (hk : op.call.names = some k) (hk' : op'.call.names = some k')
    (hne : k ≠ k') (hdup : NoDuplicate m op) (hdup' : NoDuplicate m op')
    (h : (mixerMachine P).run m [op, op'] = .ok (m', replies)) :
    ∃ n, (mixerMachine P).run m [op', op] = .ok (n, replies.reverse) ∧ SameUpToOrder m' n := by
  obtain ⟨m₁, r, rs, hstep, hrest, rfl⟩ := Machine.of_run_cons h
  obtain ⟨m₂, r', rs', hstep', hlast, rfl⟩ := Machine.of_run_cons hrest
  cases hlast
  have hs₁ := hs.step hdup hstep
  have hdup₁ := noDuplicate_after hs.well hk hk' hne hdup' hstep
  have hs' := hs₁.step hdup₁ hstep'
  -- `op'` finds the entry of `k'` as it was before `op`
  have hother := step_other hs.well hs.registry hdup hk hstep
  have hother' := step_other hs₁.well hs₁.registry hdup₁ hk' hstep'
  have hentry := step_entry hs.well hs.registry hdup hk hstep
  have hentry' := step_entry hs₁.well hs₁.registry hdup₁ hk' hstep'
  rw [hother.1 k' hne.symm] at hentry'
  obtain ⟨n₁, hn₁, hentry₁⟩ := step_of_entryStep hs.well hs.registry hdup' hk'
    (hentry'.congr (hs.numbers.trans hs₁.numbers.symm))
  have hs₂ := hs.step hdup' hn₁
  have hdup₂ := noDuplicate_after hs.well hk' hk hne.symm hdup hn₁
  -- and `op` finds the entry of `k` as it was before `op'`
  have hother₁ := step_other hs.well hs.registry hdup' hk' hn₁
  rw [← hother₁.1 k hne] at hentry
  obtain ⟨n, hn, hentry₂⟩ := step_of_entryStep hs₂.well hs₂.registry hdup₂ hk
    (hentry.congr (hs₂.numbers.trans hs.numbers.symm))
  have hs₃ := hs₂.step hdup₂ hn
  have hother₂ := step_other hs₂.well hs₂.registry hdup₂ hk hn
  have hentries : ∀ ssrc, n.entry ssrc = m'.entry ssrc := by
    intro ssrc
    by_cases h₁ : ssrc = k
    · subst h₁
      rw [hentry₂, hother'.1 ssrc hne]
    · rw [hother₂.1 ssrc h₁]
      by_cases h₂ : ssrc = k'
      · subst h₂
        exact hentry₁
      · rw [hother₁.1 ssrc h₂, hother'.1 ssrc h₂, hother.1 ssrc h₁]
  refine ⟨n, Machine.run_cons hn₁ (Machine.run_cons hn rfl), ?_⟩
  exact {
    numbers := hs₃.numbers.trans hs'.numbers.symm
    combiner := by rw [hother₂.2.1, hother₁.2.1, hother'.2.1, hother.2.1]
    mixedFrame := by rw [hother₂.2.2, hother₁.2.2, hother'.2.2, hother.2.2]
    stored := fun ssrc => by rw [← entry_fst hs₃.registry, ← entry_fst hs'.registry, hentries]
    registered :=
      registeredSources_perm hs'.well hs'.registry hs₃.well hs₃.registry hentries }

/-- In every state that a run without duplicates reaches, calls that name
different ssrcs commute. -/
def CallsCommute (P : Platform σ ρ α γ) (config : MixerConfig) : Prop :=
  ∀ uninit m₀, AudioMixer.create P config uninit = .ok m₀ →
    ∀ ops m replies, (mixerMachine P).Meets NoDuplicate m₀ ops →
      (mixerMachine P).run m₀ ops = .ok (m, replies) →
      ∀ op op' k k', op.call.names = some k → op'.call.names = some k' → k ≠ k' →
        NoDuplicate m op → NoDuplicate m op' →
        ∀ m' out, (mixerMachine P).run m [op, op'] = .ok (m', out) →
          ∃ n, (mixerMachine P).run m [op', op] = .ok (n, out.reverse) ∧ SameUpToOrder m' n

/-- **Sources do not interfere.** With frames of 10 ms, over a WebRTC whose
output rate depends on the set of preferred rates and whose scaling works
on the content of a frame: what the source stored under an ssrc gives at
the successive `Mix` calls is the same in every two runs that agree on
`Mix` and on the calls naming that ssrc, and calls that name different
ssrcs commute. -/
theorem sources_do_not_interfere (P : Platform σ ρ α γ)
    (hscale : ScalesContent P.abi P.scaleWithSat) (hrate : RateOfSet P.webrtc)
    (config : MixerConfig) (hten : config.frameDurationMs = 10) :
    (∀ ssrc, SameAnswers P config ssrc) ∧ CallsCommute P config := by
  constructor
  · intro ssrc
    exact answers_eq hscale hrate (by rw [hten]; decide) ssrc
  · intro uninit m₀ hcreate ops m replies hmeets hrun op op' k k' hk hk' hne hdup hdup' m' out h
    have hs : Sound P (Numbers.ofConfig config) m :=
      Machine.run_invariant_of_meets (Sound P (Numbers.ofConfig config)) NoDuplicate
        (fun _ _ _ _ hI hd hstep => hI.step hd hstep) (sound_of_create hcreate) hmeets hrun
    exact calls_commute hs hk hk' hne hdup hdup' h

/-- The calculator of `smallPlatform` looks at the rates as a set. -/
theorem rateOfSet_default : RateOfSet smallPlatform.webrtc := by
  intro rates rates' h
  have hnil : rates = [] ↔ rates' = [] := by
    simp only [List.eq_nil_iff_forall_not_mem, h]
  have hall : ∀ native : Int, rates.all (· ≤ native) = rates'.all (· ≤ native) := by
    intro native
    rw [Bool.eq_iff_iff, List.all_eq_true, List.all_eq_true]
    simp only [h]
  show defaultOutputRate rates = defaultOutputRate rates'
  simp only [defaultOutputRate, hnil, hall]

/-- 80 elements for the record source under 1, which is then mixed. -/
def recordAndMix : List MixerOp :=
  [(MixerCall.addRecordedData 1 (fun _ => 7) 160).zeroed, MixerCall.mix.zeroed]

/-- The same, among calls for other sources. -/
def recordAndMixAmongOthers : List MixerOp :=
  [(MixerCall.addSource (recordSource 3)).zeroed,
    (MixerCall.addRecordedData 1 (fun _ => 7) 160).zeroed,
    (MixerCall.updateVolume 2 0).zeroed, (MixerCall.removeSource 2).zeroed, MixerCall.mix.zeroed]

theorem sources_do_not_interfere_two :
    ∃ m₀ n₀ m replies n replies',
      AudioMixer.create smallPlatform (mono8kConfig [recordSource 1, fileSource 2 ""])
        (fun _ => 0) = .ok m₀ ∧
      AudioMixer.create smallPlatform (mono8kConfig [recordSource 1, fileSource 2 ""])
        (fun _ => 9) = .ok n₀ ∧
      (mixerMachine smallPlatform).run m₀ recordAndMix = .ok (m, replies) ∧
      (mixerMachine smallPlatform).run n₀ recordAndMixAmongOthers = .ok (n, replies') ∧
      (answers .lp64 1 replies).map (fun a => a.map Answer.info) = [some .kNormal] ∧
      answers .lp64 1 replies = answers .lp64 1 replies' := by
  obtain ⟨m₀, n₀, m, replies, n, replies', hm₀, hn₀, hrun, hrun', hnormal, hnew⟩ :
      ∃ m₀ n₀ m replies n replies',
        AudioMixer.create smallPlatform (mono8kConfig [recordSource 1, fileSource 2 ""])
          (fun _ => 0) = .ok m₀ ∧
        AudioMixer.create smallPlatform (mono8kConfig [recordSource 1, fileSource 2 ""])
          (fun _ => 9) = .ok n₀ ∧
        (mixerMachine smallPlatform).run m₀ recordAndMix = .ok (m, replies) ∧
        (mixerMachine smallPlatform).run n₀ recordAndMixAmongOthers = .ok (n, replies') ∧
        (answers .lp64 1 replies).map (fun a => a.map Answer.info) = [some .kNormal] ∧
        n₀.sources[(3 : Int32)]? = none :=
    ⟨_, _, _, _, _, _, rfl, rfl, rfl, rfl, rfl, rfl⟩
  have hmeets : (mixerMachine smallPlatform).Meets NoDuplicate m₀ recordAndMix := by
    refine ⟨?_, fun _ _ _ => ⟨?_, fun _ _ _ => trivial⟩⟩
    · rintro source ⟨⟩
    · rintro source ⟨⟩
  have hmeets' : (mixerMachine smallPlatform).Meets NoDuplicate n₀ recordAndMixAmongOthers := by
    refine ⟨?_, fun _ _ _ => ⟨?_, fun _ _ _ => ⟨?_, fun _ _ _ => ⟨?_, fun _ _ _ =>
      ⟨?_, fun _ _ _ => trivial⟩⟩⟩⟩⟩
    · rintro source ⟨⟩
      exact hnew
    · rintro source ⟨⟩
    · rintro source ⟨⟩
    · rintro source ⟨⟩
    · rintro source ⟨⟩
  obtain ⟨hanswers, -⟩ := sources_do_not_interfere smallPlatform (fun _ _ _ h => h)
    rateOfSet_default (mono8kConfig [recordSource 1, fileSource 2 ""]) rfl
  exact ⟨m₀, n₀, m, replies, n, replies', hm₀, hn₀, hrun, hrun', hnormal,
    hanswers 1 _ _ m₀ n₀ hm₀ hn₀ _ _ hmeets hmeets' rfl m replies n replies' hrun hrun'⟩

end L4AudioMixer.Mixer
