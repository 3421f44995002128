/-
L4AudioMixer.Mixer.ProgressTheorems — `AddRecordedData` and `Mix` return.

The results about runs of a mixer speak of the calls that return. Here
is when these two do. A record source answers every request, as the
constructor has checked the size of its frames; a file source does as long
as its `Read` returns. Nothing else can go wrong: every registered pointer
is owned, a recorded chunk of a size that is not negative can be stored,
and the size `Mix` asks for is no error. `PlayInvariant` collects this,
and the two calls keep it.
-/
import L4AudioMixer.Mixer.InstallTheorems
import L4AudioMixer.Mixer.OutputSizeTheorems

namespace L4AudioMixer.Mixer

open L4AudioMixer.Lib
open L4AudioMixer.Libav
open L4AudioMixer.WebRtc
open L4AudioMixer.Source
open L4AudioMixer.Decoder

variable {σ ρ α γ : Type} {P : Platform σ ρ α γ} {m m' : AudioMixer σ ρ α γ}
  {config : MixerConfig} {ssrc : Int32}

/-- The platform with another bound for the decoder's loops. -/
def Platform.bounded (P : Platform σ ρ α γ) (fuel : Nat) : Platform σ ρ α γ := { P with fuel }

/-! ## Sources that answer -/

/-- Any number of `Read` calls on the source returns. -/
def KeepsReading (P : Platform σ ρ α γ) (s : AudioFileSource σ ρ α) : Prop :=
  ∀ k, ∃ out, (readMachine P.av P.fuel).run s (List.replicate k ()) = .ok out

theorem KeepsReading.read {s : AudioFileSource σ ρ α} (hs : KeepsReading P s) :
    ∃ s' result, s.read P.av P.fuel = .ok (s', result) ∧ KeepsReading P s' := by
  obtain ⟨⟨_, _⟩, hone⟩ := hs 1
  obtain ⟨s', result, _, hread, -, -⟩ := Machine.of_run_cons hone
  refine ⟨s', result, hread, fun k => ?_⟩
  obtain ⟨⟨t, out⟩, hrun⟩ := hs (k + 1)
  rw [List.replicate_succ] at hrun
  obtain ⟨s₁, _, rs, hread₁, hrest, -⟩ := Machine.of_run_cons hrun
  rw [hread] at hread₁
  cases hread₁
  exact ⟨(t, rs), hrest⟩

/-- One call more, in front. -/
theorem KeepsReading.of_read {s s' : AudioFileSource σ ρ α} {result : ReadResult α}
    (hs' : KeepsReading P s') (hread : s.read P.av P.fuel = .ok (s', result)) :
    KeepsReading P s := by
  intro k
  cases k with
  | zero => exact ⟨(s, []), rfl⟩
  | succ k =>
      obtain ⟨⟨t, rest⟩, hrun⟩ := hs' k
      exact ⟨(t, result :: rest), Machine.run_cons hread hrun⟩

/-- What every `Read` call finds and leaves makes a source keep reading. -/
theorem keepsReading_of_invariant {I : AudioFileSource σ ρ α → Prop}
    (hI : ∀ s, I s → ∃ s' result, s.read P.av P.fuel = .ok (s', result) ∧ I s')
    {s : AudioFileSource σ ρ α} (hs : I s) : KeepsReading P s := by
  intro k
  induction k generalizing s with
  | zero => exact ⟨(s, []), rfl⟩
  | succ k ih =>
      obtain ⟨s', result, hread, hs'⟩ := hI s hs
      obtain ⟨⟨t, rest⟩, hrun⟩ := ih hs'
      exact ⟨(t, result :: rest), Machine.run_cons hread hrun⟩

/-- A decoder at the end of its file: no packet and no sample is left,
and the codec has no frame. -/
structure AtEnd (silent : σ → Prop) (d : AudioFileDecoder σ α) : Prop where
  unread : d.formatContext = []
  consumed : d.packetConsumed = true
  empty : d.fifo = []
  codec : silent d.codecContext
  noFrame : ∀ c, silent c → ∃ answer c', d.codec.receiveFrame c = (answer, c') ∧
    (∀ samples, answer ≠ .frame samples) ∧ silent c'

/-- There `Consume` has nothing to give. -/
theorem AtEnd.consume {silent : σ → Prop} {d : AudioFileDecoder σ α} (hd : AtEnd silent d)
    (fuel : Nat) {samples : Int} (hsamples : 0 ≤ samples) :
    ∃ d', Decoder.consume (fuel + 1) d samples = .ok (d', { size := 0, samples := [] }) ∧
      AtEnd silent d' := by
  obtain ⟨answer, c, hanswer, hne, hc⟩ := hd.noFrame _ hd.codec
  have hpump : fillDecoder (fuel + 1) d = .ok d := by
    have hsame : { d with formatContext := [] } = d := by rw [← hd.unread]
    have hbody : fillDecoderBody d = .done (.ok d) := by
      rw [fillDecoderBody, if_pos hd.consumed, hd.unread]
      exact congrArg (fun e => LoopStep.done (Except.ok e)) hsame
    rw [fillDecoder, loop_done hbody]
    rfl
  obtain ⟨d', hfifo, hd', hempty⟩ : ∃ d', fillFifo (fuel + 1) d = .ok d' ∧ AtEnd silent d' ∧
      d'.fifo = [] := by
    by_cases hlevel : (d.fifo.length : Int) < d.fifoCapacity
    · have hbody : fillFifoBody d = .done { d with codecContext := c } := by
        rw [fillFifoBody, if_pos hlevel, hanswer]
        cases answer with
        | frame samples => exact absurd rfl (hne samples)
        | eagain => rfl
        | eof => rfl
        | error code => rfl
      refine ⟨{ d with codecContext := c }, ?_,
        ⟨hd.unread, hd.consumed, hd.empty, hc, hd.noFrame⟩, hd.empty⟩
      simp only [fillFifo, loop_done hbody]
    · have hbody : fillFifoBody d = .done d := if_neg hlevel
      refine ⟨d, ?_, hd, hd.empty⟩
      simp only [fillFifo, loop_done hbody]
  refine ⟨(takeFromFifo d' samples).1, ?_, ?_⟩
  · rw [consume_of_fill hpump hfifo, takeFromFifo_of_nonneg d' hsamples]
    simp [hempty]
  · rw [takeFromFifo_of_nonneg d' hsamples]
    exact ⟨hd'.unread, hd'.consumed, by simp [hempty], hd'.codec, hd'.noFrame⟩

/-- **A source at the end of its file keeps reading.** -/
theorem AtEnd.keepsReading {silent : σ → Prop} {s : AudioFileSource σ ρ α}
    (hs : AtEnd silent s.decoder) (hsamples : 0 ≤ s.inputSamples) (hfull : fullSize P.av s ≠ 0)
    (hfuel : 0 < P.fuel) : KeepsReading P s := by
  refine keepsReading_of_invariant (I := fun s =>
    AtEnd silent s.decoder ∧ 0 ≤ s.inputSamples ∧ fullSize P.av s ≠ 0) ?_ ⟨hs, hsamples, hfull⟩
  intro s ⟨hs, hsamples, hfull⟩
  obtain ⟨fuel, hfuel⟩ : ∃ fuel, P.fuel = fuel + 1 := ⟨P.fuel - 1, by omega⟩
  obtain ⟨d', hconsume, hd'⟩ := hs.consume fuel hsamples
  rw [← hfuel] at hconsume
  exact ⟨_, _, read_short hconsume (Ne.symm hfull), hd', hsamples, hfull⟩

/-- A frame of 10 ms fits an `AudioFrame`. -/
def FrameFits (abi : Abi) (c : SourceSettings) : Prop :=
  toSizeT abi (c.outputSampleRate.tdiv 100) * toSizeT abi c.outputChannelNum % abi.sizeModulus
    ≤ kMaxDataSizeSamples

/-- A file source whose `Read` returns answers; the frame of 10 ms has to
fit. -/
theorem file_answers {abi : Abi} {av : LibAv ρ α} {fuel : Nat}
    {s s' : AudioFileSource σ ρ α} {result : ReadResult α} (scaleWithSat : ScaleWithSat)
    (hread : s.read av fuel = .ok (s', result))
    (hfits : toSizeT abi s.reportOutputSamples * toSizeT abi s.outputChannelNum
      % abi.sizeModulus ≤ kMaxDataSizeSamples) (hz : Int) (frame : AudioFrame) :
    ∃ info frame' s'', s.getAudioFrameWithInfo abi av scaleWithSat fuel hz frame
      = .ok (info, frame', s'') ∧ (s'' = s ∨ s'' = s') := by
  unfold AudioFileSource.getAudioFrameWithInfo
  by_cases hrate : hz = s.outputSampleRate
  · obtain ⟨updated, hupdated⟩ := frame.updateFrame_of_le 0 none s.outputSampleRate
      .kNormalSpeech .kVadActive hfits
    rw [if_neg (by simpa using hrate)]
    simp only [hupdated, hread, bind, Except.bind, pure, Except.pure]
    by_cases hret : result.ret < 0
    · rw [if_pos hret]
      exact ⟨_, _, _, rfl, .inr rfl⟩
    · rw [if_neg hret]
      exact ⟨_, _, _, rfl, .inr rfl⟩
  · rw [if_pos hrate]
    exact ⟨_, _, _, rfl, .inl rfl⟩

/-- A file source answers as long as it reads. -/
theorem KeepsReading.answers {file : MediaFile σ α} {c : SourceSettings}
    {s : AudioFileSource σ ρ α} (hs : KeepsReading P s) (hbuilt : Built P.av file c s)
    (hfits : FrameFits P.abi c) (hz : Int) (frame : AudioFrame) :
    ∃ info frame' s', s.getAudioFrameWithInfo P.abi P.av P.scaleWithSat P.fuel hz frame
      = .ok (info, frame', s') ∧ KeepsReading P s' := by
  rw [FrameFits, ← hbuilt.reportOutputSamples, ← hbuilt.outputChannelNum] at hfits
  obtain ⟨s', result, hread, hs'⟩ := hs.read
  obtain ⟨info, frame', s'', hanswer, hnext⟩ :=
    file_answers P.scaleWithSat hread hfits hz frame
  refine ⟨info, frame', s'', hanswer, ?_⟩
  rcases hnext with rfl | rfl
  · exact hs
  · exact hs'

/-- A record source always answers. -/
theorem record_answers {c : SourceSettings} {s : AudioRecordSource} (hbuilt : BuiltRecord c s)
    {abi : Abi} (hfits : FrameFits abi c) (scaleWithSat : ScaleWithSat) (hz : Int)
    (frame : AudioFrame) (uninit : Nat → Int16) :
    ∃ out, s.getAudioFrameWithInfo abi scaleWithSat hz frame uninit = .ok out := by
  simp only [AudioRecordSource.getAudioFrameWithInfo, AudioRecordSource.takeFrame]
  by_cases hrate : hz = s.sampleRate
  · rw [if_neg (by simpa using hrate)]
    by_cases hsize : s.buffer.size < toSizeT abi s.realBufferNumElements
    · rw [if_pos hsize]
      exact ⟨_, rfl⟩
    · rw [FrameFits, ← hbuilt.reportOutputSamples, ← hbuilt.channelNum] at hfits
      obtain ⟨updated, hupdated⟩ := frame.updateFrame_of_le 0 s.buffer.data s.sampleRate
        .kNormalSpeech .kVadActive hfits
      rw [if_neg hsize]
      simp only [hupdated, bind, Except.bind, pure, Except.pure, if_true]
      exact ⟨_, rfl⟩
  · rw [if_pos hrate]
    exact ⟨_, rfl⟩

/-- A source that answers: any record source, or a file source that keeps
reading and has an ssrc other than that of the recording. -/
def Answers (P : Platform σ ρ α γ) (ssrc : Int32) : AudioSource σ ρ α → Prop
  | .file s => KeepsReading P s ∧ s.ssrc ≠ ssrc
  | .record _ => True

/-- **A source answers**, and does so again. -/
theorem Answers.getAudioFrameWithInfo {source : AudioSource σ ρ α}
    (haccepted : Accepted P.abi config)
    (hbuilt : BuiltFor P (Numbers.ofConfig config) source) (hs : Answers P ssrc source)
    (hz : Int) (frame : AudioFrame) (uninit : Nat → Int16) :
    ∃ info frame' source', source.getAudioFrameWithInfo P hz frame uninit
      = .ok (info, frame', source') ∧ Answers P ssrc source' := by
  cases source with
  | file s =>
      obtain ⟨path, hbuilt⟩ := hbuilt
      obtain ⟨hreads, hssrc⟩ := hs
      obtain ⟨info, frame', s', hanswer, hreads'⟩ :=
        hreads.answers hbuilt haccepted.frameFits hz frame
      have hssrc' : s'.ssrc ≠ ssrc := by
        rw [ssrc_getAudioFrameWithInfo hanswer]
        exact hssrc
      refine ⟨info, frame', .file s', ?_, hreads', hssrc'⟩
      simp only [AudioSource.getAudioFrameWithInfo, hanswer, bind, Except.bind, pure, Except.pure]
  | record s =>
      obtain ⟨⟨info, frame', s'⟩, hanswer⟩ :=
        record_answers hbuilt haccepted.frameFits P.scaleWithSat hz frame uninit
      refine ⟨info, frame', .record s', ?_, trivial⟩
      simp only [AudioSource.getAudioFrameWithInfo, hanswer, bind, Except.bind, pure, Except.pure]

/-! ## Mixers that play -/

/-- A mixer of this configuration whose sources answer, and whose `Mix`
has a size to give. -/
structure PlayInvariant (P : Platform σ ρ α γ) (config : MixerConfig) (ssrc : Int32)
    (m : AudioMixer σ ρ α γ) : Prop where
  wellFormed : WellFormed P m
  registry : Registry m
  numbers : m.numbers = Numbers.ofConfig config
  accepted : Accepted P.abi config
  answers : ∀ p source, m.heap.get? p = some source → Answers P ssrc source
  size : 0 ≤ P.av.samplesGetBufferSize config.outputChannelNum.toInt
    (Numbers.ofConfig config).realOutputSamples kOutputSampleFormat 1

/-- The rates can be collected. -/
theorem preferredRates_returns {heap : Heap (AudioSource σ ρ α)} {list : List SourceStatus}
    (h : ∀ status ∈ list, ∃ source, heap.get? status.audioSource = some source) :
    ∃ rates, AudioMixer.preferredRates heap list = .ok rates := by
  induction list with
  | nil => exact ⟨[], rfl⟩
  | cons status rest ih =>
      obtain ⟨source, hsource⟩ := h status (by simp)
      obtain ⟨rates, hrates⟩ := ih fun s hs => h s (by simp [hs])
      refine ⟨source.preferredSampleRate :: rates, ?_⟩
      simp only [AudioMixer.preferredRates, hsource, hrates, bind, Except.bind, pure, Except.pure]

/-- **Asking returns** when every source that exists answers and answers
again, and the pointers of the list are sources. The bounds of the platform
may run through any sequence `bounds`: under all from some point on the
answers are the same. -/
theorem askSources_ends {Q : AudioSource σ ρ α → Prop} (bounds : Nat → Nat) (hz : Int)
    (uninit : Nat → Int16)
    (hQ : ∀ source, Q source → ∀ frame, ∃ info frame' source' start,
      (∀ n, start ≤ n → source.getAudioFrameWithInfo (P.bounded (bounds n)) hz frame uninit
        = .ok (info, frame', source')) ∧ Q source')
    {heap : Heap (AudioSource σ ρ α)} {list : List SourceStatus}
    (hheap : ∀ p source, heap.get? p = some source → Q source)
    (hlist : ∀ status ∈ list, ∃ source, heap.get? status.audioSource = some source) :
    ∃ heap' asked start, (∀ n, start ≤ n →
      AudioMixer.askSources (P.bounded (bounds n)) hz uninit heap list = .ok (heap', asked)) ∧
      ∀ p source, heap'.get? p = some source → Q source := by
  induction list generalizing heap with
  | nil => exact ⟨heap, [], 0, fun _ _ => rfl, hheap⟩
  | cons status rest ih =>
      obtain ⟨source, hsource⟩ := hlist status (by simp)
      obtain ⟨info, frame, source', n₁, hanswer, hsource'⟩ :=
        hQ source (hheap _ source hsource) status.audioFrame
      -- the source that was asked is replaced, the others are the same
      have hget : ∀ p, (heap.modify status.audioSource fun _ => source').get? p
          = if p = status.audioSource then some source' else heap.get? p := by
        intro p
        rw [Heap.get?_modify]
        by_cases hp : p = status.audioSource
        · rw [if_pos hp, if_pos hp, hp, hsource]
          rfl
        · rw [if_neg hp, if_neg hp]
      have hheap₁ : ∀ p object,
          (heap.modify status.audioSource fun _ => source').get? p = some object → Q object := by
        intro p object hp
        rw [hget] at hp
        split at hp
        · cases hp
          exact hsource'
        · exact hheap p object hp
      have hrest : ∀ s ∈ rest, ∃ object,
          (heap.modify status.audioSource fun _ => source').get? s.audioSource = some object := by
        intro s hs
        rw [hget]
        split
        · exact ⟨source', rfl⟩
        · exact hlist s (by simp [hs])
      obtain ⟨heap', asked, n₂, hask, hheap'⟩ := ih hheap₁ hrest
      refine ⟨heap', ⟨{ status with audioFrame := frame }, info, source.volume⟩ :: asked,
        max n₁ n₂, fun n hle => ?_, hheap'⟩
      simp only [AudioMixer.askSources, hsource, hanswer n (by omega), hask n (by omega),
        bind, Except.bind, pure, Except.pure]

/-- **`Mix` returns** when every registered pointer is owned, the objects
answer and answer again, and its size is no error. -/
theorem mix_ends {R : AudioSource σ ρ α → Prop} (bounds : Nat → Nat) (hm : WellFormed P m)
    (hregistry : Registry m) (hnumbers : m.numbers = Numbers.ofConfig config)
    (hsize : 0 ≤ P.av.samplesGetBufferSize config.outputChannelNum.toInt
      (Numbers.ofConfig config).realOutputSamples kOutputSampleFormat 1) (uninit : Nat → Int16)
    (hR : ∀ source, BuiltFor P (Numbers.ofConfig config) source → R source → ∀ hz frame,
      ∃ info frame' source' start, (∀ n, start ≤ n →
        source.getAudioFrameWithInfo (P.bounded (bounds n)) hz frame uninit
          = .ok (info, frame', source')) ∧ R source')
    (hall : ∀ p source, m.heap.get? p = some source → R source) :
    ∃ m' result start, (∀ n, start ≤ n →
      m.mix (P.bounded (bounds n)) uninit = .ok (m', result)) ∧
      ∀ p source, m'.heap.get? p = some source → R source := by
  have hlist : ∀ status ∈ m.registered, ∃ source,
      m.heap.get? status.audioSource = some source := by
    intro status hmem
    obtain ⟨k, hp⟩ := (hregistry.owned _).mp (List.mem_map_of_mem hmem)
    obtain ⟨source, hsource, -⟩ := (hm.owned k _).mp hp
    exact ⟨source, hsource⟩
  obtain ⟨rates, hrates⟩ := preferredRates_returns hlist
  -- the sources stay as they were built, and go on answering
  let Q : AudioSource σ ρ α → Prop := fun source =>
    BuiltFor P (Numbers.ofConfig config) source ∧ R source
  have hQ : ∀ source, Q source → ∀ frame, ∃ info frame' source' start,
      (∀ n, start ≤ n → source.getAudioFrameWithInfo (P.bounded (bounds n))
        (P.webrtc.calculateOutputRate rates) frame uninit = .ok (info, frame', source')) ∧
        Q source' := by
    intro source ⟨hbuilt, hs⟩ frame
    obtain ⟨info, frame', source', start, hanswer, hs'⟩ :=
      hR source hbuilt hs (P.webrtc.calculateOutputRate rates) frame
    have hkeeps := keeps_getAudioFrameWithInfo (c := Numbers.ofConfig config)
      (hanswer start le_rfl)
    have hbuilt' : BuiltFor P (Numbers.ofConfig config) source' := by
      have hsource := hkeeps.2 (by cases source <;> exact hbuilt)
      cases source' <;> exact hsource
    exact ⟨info, frame', source', start, hanswer, hbuilt', hs'⟩
  have hheap : ∀ p source, m.heap.get? p = some source → Q source := by
    intro p source hp
    have hbuilt := hm.built p source hp
    rw [hnumbers] at hbuilt
    exact ⟨hbuilt, hall p source hp⟩
  obtain ⟨heap, asked, start, hask, hheap'⟩ := askSources_ends bounds _ uninit hQ hheap hlist
  have hmixSize : 0 ≤ m.mixSize P := by
    rw [mixSize_of_numbers hnumbers]
    exact hsize
  obtain ⟨m', result, hmix, hout⟩ : ∃ m' result,
      m.mix (P.bounded (bounds start)) uninit = .ok (m', result) ∧ m'.heap = heap := by
    simp only [AudioMixer.mix, bind_eq_ok, require_eq_ok, decide_eq_true_eq]
    exact ⟨_, _, ⟨rates, hrates, (heap, asked), hask start le_rfl, (), hmixSize, rfl⟩, rfl⟩
  refine ⟨m', result, start, fun n hle => ?_, fun p object hp => ?_⟩
  · -- the bound matters to the sources only
    simp only [AudioMixer.mix, bind_eq_ok] at hmix ⊢
    obtain ⟨rates', hrates', asked', hask', hrest⟩ := hmix
    rw [hrates] at hrates'
    cases hrates'
    have hsame : asked' = (heap, asked) :=
      Except.ok.inj (hask'.symm.trans (hask start le_rfl))
    subst hsame
    exact ⟨rates, hrates, (heap, asked), hask n hle, hrest⟩
  · rw [hout] at hp
    exact (hheap' p object hp).2

namespace PlayInvariant

/-- What a call that changes objects in place keeps. -/
theorem inPlace (hm : PlayInvariant P config ssrc m) {op : MixerOp} {reply : MixerReply}
    (hadd : ∀ source, op.call ≠ .addSource source)
    (hstep : (mixerMachine P).step m op = .ok (m', reply))
    (hanswers : ∀ p source, m'.heap.get? p = some source → Answers P ssrc source) :
    PlayInvariant P config ssrc m' := by
  obtain ⟨heffect, hnumbers⟩ := step_effect hm.wellFormed hstep
  exact {
    wellFormed := hm.wellFormed.effect heffect hnumbers
    registry := hm.registry.effect hm.wellFormed (fun source h => absurd h (hadd source)) heffect
    numbers := hnumbers.trans hm.numbers
    accepted := hm.accepted
    answers := hanswers
    size := hm.size }

/-- **`Mix` returns.** -/
theorem mix (hm : PlayInvariant P config ssrc m) (uninit : Nat → Int16) :
    ∃ m' result, m.mix P uninit = .ok (m', result) ∧ PlayInvariant P config ssrc m' := by
  -- the platform keeps its own bound
  obtain ⟨m', result, start, hmix, hanswers⟩ := mix_ends (fun _ => P.fuel) hm.wellFormed
    hm.registry hm.numbers hm.size uninit (R := Answers P ssrc)
    (fun source hbuilt hs hz frame => by
      obtain ⟨info, frame', source', hanswer, hs'⟩ :=
        hs.getAudioFrameWithInfo hm.accepted hbuilt hz frame uninit
      exact ⟨info, frame', source', 0, fun _ _ => hanswer, hs'⟩) hm.answers
  have hmix' : m.mix P uninit = .ok (m', result) := hmix start le_rfl
  have hstep : (mixerMachine P).step m ⟨.mix, uninit⟩ = .ok (m', .mixed result m.sources) := by
    simp only [mixerMachine, hmix', bind, Except.bind, pure, Except.pure]
  exact ⟨m', result, hmix', hm.inPlace (by simp) hstep hanswers⟩

/-- **`AddRecordedData` returns** for the ssrc of the recording and a
size that is not negative. -/
theorem addRecordedData (hm : PlayInvariant P config ssrc m) (data : Nat → UInt8) {size : Int32}
    (hsize : 0 ≤ size.toInt) (uninit : Nat → Int16) :
    ∃ m', m.addRecordedData P ssrc data size uninit = .ok m' ∧ PlayInvariant P config ssrc m' := by
  cases hp : m.sources[ssrc]? with
  | none =>
      refine ⟨m, ?_, hm⟩
      simp only [AudioMixer.addRecordedData, hp]
  | some p =>
      obtain ⟨object, hobject, hssrc⟩ := (hm.wellFormed.owned ssrc p).mp hp
      have hs := hm.answers p object hobject
      cases object with
      | file s => exact absurd hssrc hs.2
      | record s =>
          obtain ⟨buffer, hrec, -⟩ :=
            onAudioRecorded_of_nonneg P.abi s data hsize (isInt32_toInt size) uninit
          have hadd : m.addRecordedData P ssrc data size uninit
              = .ok { m with heap := m.heap.modify p fun _ => .record { s with buffer } } := by
            simp only [AudioMixer.addRecordedData, hp, hobject, hrec, bind, Except.bind, pure,
              Except.pure]
          have hstep : (mixerMachine P).step m ⟨.addRecordedData ssrc data size, uninit⟩
              = .ok ({ m with heap := m.heap.modify p fun _ => .record { s with buffer } },
                  .done) := by
            simp only [mixerMachine, hadd, bind, Except.bind, pure, Except.pure]
          refine ⟨_, hadd, hm.inPlace (by simp) hstep ?_⟩
          intro q source hq
          by_cases hpq : q = p
          · subst hpq
            rw [Heap.get?_modify_self, hobject] at hq
            cases hq
            trivial
          · rw [Heap.get?_modify_of_ne m.heap _ hpq] at hq
            exact hm.answers q source hq

/-- **A new mixer plays** if each of its file sources keeps reading and
has another ssrc than the recording. -/
theorem of_create {uninit : Nat → Int16} (h : AudioMixer.create P config uninit = .ok m)
    (hfiles : ∀ source ∈ config.sources, source.type ≠ MixerSource.typeRecord →
      source.ssrc ≠ ssrc ∧ ∀ s, AudioFileSource.create P.av P.fuel source.ssrc
        (P.files source.path) config.outputSampleRate.toInt config.outputChannelNum.toInt
        config.frameDurationMs.toInt source.volume = .ok s → KeepsReading P s)
    (hsize : 0 ≤ P.av.samplesGetBufferSize config.outputChannelNum.toInt
      (Numbers.ofConfig config).realOutputSamples kOutputSampleFormat 1) :
    PlayInvariant P config ssrc m := by
  obtain ⟨hm, hnumbers, haccepted, -⟩ := create_spec h
  obtain ⟨m₁, hinstalled, hsources, hheap, hnum₁⟩ := installed_of_create h
  refine ⟨hm, registry_of_create h, hnumbers, haccepted, ?_, hsize⟩
  intro p object hobject
  have hp : m.sources[object.ssrc]? = some p :=
    (hm.owned object.ssrc p).mpr ⟨object, hobject, rfl⟩
  have hstored : m₁.stored object.ssrc = some object := by
    simp only [AudioMixer.stored, ← hsources, ← hheap, hp, Option.bind_some, hobject]
  -- the object is the one its entry in the configuration describes
  have hbefore : (AudioMixer.started P config uninit).stored object.ssrc = none := by
    simp [AudioMixer.stored, AudioMixer.started, AudioMixer.bare]
  have hdescribed := (installed_stored (wellFormed_bare P config _ _ uninit) hinstalled
    object.ssrc).2 hbefore
  rw [hstored, Described] at hdescribed
  cases hfind : config.sources.find? (fun source => source.ssrc = object.ssrc) with
  | none =>
      rw [hfind] at hdescribed
      cases hdescribed
  | some source =>
      rw [hfind] at hdescribed
      obtain ⟨object', hsame, hdesc⟩ := hdescribed
      cases hsame
      cases object with
      | record s => trivial
      | file s =>
          obtain ⟨htype, hcreate⟩ := hdesc.kind
          obtain ⟨hne, hreads⟩ := hfiles source (List.mem_of_find?_eq_some hfind) htype
          have hssrc : s.ssrc = source.ssrc := hdesc.ssrc
          refine ⟨hreads s hcreate, ?_⟩
          rw [hssrc]
          exact hne

end PlayInvariant

end L4AudioMixer.Mixer
