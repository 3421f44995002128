/-
L4AudioMixer.Ios.MixTestTheorems — the mix test plays what the mixer
mixes.

The mixer of the test has files only. It does not look at fresh memory
(`mix_of_filesOnly`), so the stream of its mixes is determined when the
test starts, and with files that can be read it never ends. The device
asks for 10 ms or any other amount, the mixer makes blocks of 3 ms;
`mix_test_plays` says that the device hears that stream from its start,
without a gap, and that no block is mixed before it is needed.
-/
import L4AudioMixer.Ios.PlayoutTheorems
import L4AudioMixer.Mixer.ProgressTheorems
import L4AudioMixer.Mixer.SessionTheorems

namespace L4AudioMixer.Ios

open L4AudioMixer.Lib
open L4AudioMixer.Libav
open L4AudioMixer.WebRtc
open L4AudioMixer.Source
open L4AudioMixer.Mixer
open L4AudioMixer.Decoder (Slot slotCodec slotFile)

variable {σ ρ α γ : Type} {P : Platform σ ρ α γ} {m m' : AudioMixer σ ρ α γ}

/-! ## Mixers of files -/

/-- All objects of the mixer are files. -/
def FilesOnly (m : AudioMixer σ ρ α γ) : Prop :=
  ∀ p source, m.heap.get? p = some source → source.isFile = true

/-- A file does not look at fresh memory. -/
theorem getAudioFrameWithInfo_of_isFile {source : AudioSource σ ρ α} (h : source.isFile = true)
    (hz : Int) (frame : AudioFrame) (uninit uninit' : Nat → Int16) :
    source.getAudioFrameWithInfo P hz frame uninit
      = source.getAudioFrameWithInfo P hz frame uninit' := by
  cases source with
  | file s => rfl
  | record s => cases h

theorem askSources_of_filesOnly {heap : Heap (AudioSource σ ρ α)} (hz : Int)
    (h : ∀ p source, heap.get? p = some source → source.isFile = true)
    (list : List SourceStatus) (uninit uninit' : Nat → Int16) :
    AudioMixer.askSources P hz uninit heap list = AudioMixer.askSources P hz uninit' heap list := by
  induction list generalizing heap with
  | nil => simp only [AudioMixer.askSources]
  | cons status rest ih =>
      simp only [AudioMixer.askSources]
      cases hsource : heap.get? status.audioSource with
      | none => simp only
      | some source =>
          have hfile := h _ source hsource
          simp only [getAudioFrameWithInfo_of_isFile hfile hz status.audioFrame uninit uninit']
          cases hget : source.getAudioFrameWithInfo P hz status.audioFrame uninit' with
          | error fault => simp only [bind, Except.bind]
          | ok answer =>
              obtain ⟨info, frame, source'⟩ := answer
              have hkept : Heap.Kept SameKinds heap
                  (heap.modify status.audioSource fun _ => source') := by
                refine Heap.Kept.modify SameKinds.refl fun object hobject => ?_
                rw [hsource] at hobject
                cases hobject
                exact sameKinds_getAudioFrameWithInfo hget
              have hnext : ∀ p object, (heap.modify status.audioSource fun _ => source').get? p
                  = some object → object.isFile = true := by
                intro p object hp
                obtain ⟨before, hbefore, hkind⟩ := hkept.of_some hp
                rw [hkind]
                exact h p before hbefore
              simp only [bind, Except.bind, ih hnext]

/-- **A mixer of files mixes the same**, whatever fresh memory holds. -/
theorem mix_of_filesOnly (h : FilesOnly m) (uninit uninit' : Nat → Int16) :
    m.mix P uninit = m.mix P uninit' := by
  simp only [AudioMixer.mix, askSources_of_filesOnly _ h m.registered uninit uninit']

/-- It stays one. -/
theorem FilesOnly.mix (h : FilesOnly m) {uninit : Nat → Int16} {result : MixResult}
    (hmix : m.mix P uninit = .ok (m', result)) : FilesOnly m' := by
  simp only [AudioMixer.mix, bind_eq_ok] at hmix
  obtain ⟨rates, -, ⟨heap, asked⟩, hask, _, -, hret⟩ := hmix
  cases hret
  intro p object hp
  obtain ⟨before, hbefore, hkind⟩ := (sameKinds_askSources hask).of_some hp
  rw [hkind]
  exact h p before hbefore

/-- What a caller knows of a list of files. -/
theorem known_files {sources : List MixerSource} (h : ∀ source ∈ sources, source.isFile = true)
    (files : Roster Int32 Bool) (hfiles : ∀ ssrc kind, files.get? ssrc = some kind → kind = true)
    {ssrc : Int32} {kind : Bool}
    (hkind : (sources.foldl (fun files source => files.add source.ssrc source.isFile) files).get?
      ssrc = some kind) : kind = true := by
  induction sources generalizing files with
  | nil => exact hfiles ssrc kind hkind
  | cons source rest ih =>
      refine ih (fun s hs => h s (by simp [hs])) _ (fun k v hv => ?_) hkind
      rw [Roster.get?_add] at hv
      split at hv
      · cases hv
        exact h source (by simp)
      · exact hfiles k v hv

/-- A mixer constructed on files has files only. -/
theorem filesOnly_of_create {config : MixerConfig} {uninit : Nat → Int16}
    (h : AudioMixer.create P config uninit = .ok m)
    (hfiles : ∀ source ∈ config.sources, source.isFile = true) : FilesOnly m := by
  have hsame : P.bounded P.fuel = P := rfl
  rw [← hsame] at h
  obtain ⟨-, hfollows⟩ := follows_of_create h
  intro p source hp
  have howned : m.sources[source.ssrc]? = some p :=
    (hfollows.wellFormed.owned source.ssrc p).mpr ⟨source, hp, rfl⟩
  have hstored : m.stored source.ssrc = some source := by
    simp only [AudioMixer.stored, howned, Option.bind_some, hp]
  have hkind : (Known.initial config).files.get? source.ssrc = some source.isFile :=
    (hfollows.files source.ssrc).trans (fileAt_of_stored hstored)
  exact known_files hfiles Roster.empty (fun ssrc kind hkind => by simp at hkind) hkind

/-! ## The supply -/

section Supply

variable {E : PlayoutSetup σ ρ α γ}

/-- The configuration `doMix` gives its mixer. -/
def mixTestConfig (E : PlayoutSetup σ ρ α γ) : MixerConfig where
  sources := PlayoutController.mixerSources E
  outputSampleRate := 48000
  outputChannelNum := E.kChannelNum
  frameDurationMs := 3

/-- The bytes of a mix: 3 ms are taken for a 333rd of a second. -/
def mixBlock (E : PlayoutSetup σ ρ α γ) : Nat := 288 * E.kChannelNum.toInt.toNat

/-- The members of a running mix test. -/
def MixReady (E : PlayoutSetup σ ρ α γ) (m : AudioMixer σ ρ α γ)
    (members : Option (PYAAudioMixer σ ρ α γ) × Option PYAAudioBuffer) : Prop :=
  ∃ mixer, members.1 = some mixer ∧ mixer.nativeMixer = some m ∧
    PlayInvariant E.platform (mixTestConfig E) 0 m ∧ FilesOnly m

theorem samplesGetBufferSize_mixTest (hsizes : E.platform.av.SizeLaws)
    (hchannels : E.kChannelNum = 1 ∨ E.kChannelNum = 2) :
    E.platform.av.samplesGetBufferSize (mixTestConfig E).outputChannelNum.toInt
      (Numbers.ofConfig (mixTestConfig E)).realOutputSamples kOutputSampleFormat 1
        = mixBlock E := by
  have hreal : (Numbers.ofConfig (mixTestConfig E)).realOutputSamples = 144 := by
    show (48000 : Int32).toInt.tdiv ((1000 : Int).tdiv (3 : Int32).toInt) = 144
    decide
  have hch : (mixTestConfig E).outputChannelNum = E.kChannelNum := rfl
  rw [hreal, hch, mixBlock]
  rcases hchannels with h | h
  · rw [h]
    exact hsizes.fits _ _ _ _ (.inr rfl) (by decide)
  · rw [h]
    exact hsizes.fits _ _ _ _ (.inr rfl) (by decide)

/-- What `Mix` gives back, as bytes. -/
def mixedBytes : MixerReply → List UInt8
  | .mixed result _ => pcmBytes result.output
  | .added _ | .removed _ | .done => []

/-- **A pass gets one mix.** -/
theorem mixSupply_next {mixer : PYAAudioMixer σ ρ α γ} (mixedBuffer : Option PYAAudioBuffer)
    (hnative : mixer.nativeMixer = some m) (hfiles : FilesOnly m) {result : MixResult}
    (hmix : m.mix P (fun _ => 0) = .ok (m', result)) (uninit : Nat → Int16) :
    (mixSupply P).next (some mixer, mixedBuffer) uninit
      = .ok ((some { nativeMixer := some m'
                     buffer := { data := store mixer.buffer.data result.output
                                 size := result.size } },
              some { data := store mixer.buffer.data result.output, size := result.size }),
          result.size) := by
  have hsame : m.mix P uninit = .ok (m', result) := (mix_of_filesOnly hfiles _ _).trans hmix
  simp only [mixSupply, PYAAudioMixer.mix, hnative, hsame, libraryCall, Except.mapError, bind,
    Except.bind, pure, Except.pure]

/-- The block in the buffer is the mix. -/
theorem firstN_mixed {result : MixResult} {b : Nat} {uninit : Nat → Int16}
    (hmix : m.mix P uninit = .ok (m', result)) (hsize : result.size = ((2 * b : Nat) : Int))
    (data : Nat → Int16) :
    firstN (asBytes (store data result.output)) result.size.toNat = pcmBytes result.output := by
  have hlength : result.output.length = b := by
    simp only [AudioMixer.mix, bind_eq_ok] at hmix
    obtain ⟨_, _, _, _, _, _, hret⟩ := hmix
    cases hret
    simp only [length_firstN] at hsize ⊢
    omega
  have hbytes : result.size.toNat = 2 * result.output.length := by omega
  rw [hbytes, firstN_asBytes, firstN_store]

/-- **The mixer is a supply that lasts for ever.** -/
theorem mixSupply_lasts (hsizes : E.platform.av.SizeLaws)
    (hchannels : E.kChannelNum = 1 ∨ E.kChannelNum = 2) :
    (mixSupply E.platform).Lasts (mixBlock E) fun _ members => ∃ m, MixReady E m members where
  pos := by
    rcases hchannels with h | h
    · rw [mixBlock, h]
      decide
    · rw [mixBlock, h]
      decide
  fits := by
    show mixBlock E ≤ maxBufSize.toNat
    rcases hchannels with h | h
    · rw [mixBlock, h]
      decide
    · rw [mixBlock, h]
      decide
  more := by
    intro j ⟨mixer?, mixedBuffer⟩ ⟨m, mixer, hmixer, hnative, hm, hfiles⟩
    cases hmixer
    obtain ⟨m', result, hmix, hm'⟩ := hm.mix fun _ => 0
    have hsize : result.size = mixBlock E := by
      rw [mix_size hmix, mixSize_of_numbers hm.numbers,
        samplesGetBufferSize_mixTest hsizes hchannels]
    have hnext := mixSupply_next mixedBuffer hnative hfiles hmix
    refine ⟨_, _, fun uninit => (hnext uninit).trans (by rw [hsize]),
      ⟨m', _, rfl, rfl, hm', hfiles.mix hmix⟩, ?_, rfl⟩
    simp only [mixSupply, Option.map_some, Option.getD_some]

/-- The blocks of a run of the supply are the results of the mixer. -/
theorem mixes_of_run (hsizes : E.platform.av.SizeLaws)
    (hchannels : E.kChannelNum = 1 ∨ E.kChannelNum = 2) {k : Nat}
    {members members' : Option (PYAAudioMixer σ ρ α γ) × Option PYAAudioBuffer}
    {blocks : List (List UInt8)} (hm : MixReady E m members)
    (h : (mixSupply E.platform).machine.run members (List.replicate k fun _ => 0)
      = .ok (members', blocks)) :
    ∃ m' replies, (mixerMachine E.platform).run m (List.replicate k MixerCall.mix.zeroed)
        = .ok (m', replies) ∧ MixReady E m' members' ∧ blocks = replies.map mixedBytes := by
  induction k generalizing m members blocks with
  | zero =>
      cases h
      exact ⟨m, [], rfl, hm, rfl⟩
  | succ k ih =>
      rw [List.replicate_succ] at h
      obtain ⟨members₁, block, rest, hstep, hrest, rfl⟩ := Machine.of_run_cons h
      obtain ⟨mixer, hmixer, hnative, hplay, hfiles⟩ := hm
      obtain ⟨mixer?, mixedBuffer⟩ := members
      cases hmixer
      obtain ⟨m₁, result, hmix, hplay₁⟩ := hplay.mix fun _ => 0
      have hnext := mixSupply_next mixedBuffer hnative hfiles hmix
      simp only [BlockSupply.machine, hnext] at hstep
      cases hstep
      have hsize : result.size = ((2 * (144 * E.kChannelNum.toInt.toNat) : Nat) : Int) := by
        rw [mix_size hmix, mixSize_of_numbers hplay.numbers,
          samplesGetBufferSize_mixTest hsizes hchannels, mixBlock]
        congr 1
        omega
      obtain ⟨m', replies, hrun, hm', hblocks⟩ := ih ⟨_, rfl, rfl, hplay₁, hfiles.mix hmix⟩ hrest
      have hcall : (mixerMachine E.platform).step m MixerCall.mix.zeroed
          = .ok (m₁, .mixed result m.sources) := by
        simp only [mixerMachine, MixerCall.zeroed, hmix, bind, Except.bind, pure, Except.pure]
      refine ⟨m', .mixed result m.sources :: replies, ?_, hm', ?_⟩
      · rw [List.replicate_succ]
        exact Machine.run_cons hcall hrun
      · rw [List.map_cons, hblocks]
        exact congrArg (· :: _) (firstN_mixed hmix hsize mixer.buffer.data)

/-! ## The test -/

/-- The mix test delivers from the mixer. -/
def mixTest (E : PlayoutSetup σ ρ α γ) : BlockTest E (mixSupply E.platform) where
  Runs c := c.testType = .mix ∧ c.adm = some true ∧ c.channelNum = E.kChannelNum
  members c := (c.mixer, c.mixedBuffer)
  fresh := PlayCallback.uninit
  put c d := { c with
    mixer := d.supply.1, mixedBuffer := d.supply.2, remainingData := d.remainingData }
  runs_put _ _ h := h
  members_put _ _ := rfl
  remaining_put _ _ := rfl
  step_eq c callback size h hfits hsize := by
    obtain ⟨htype, hadm, hchannels⟩ := h
    have hwanted := wantedSize_of_fits hchannels hfits hsize
    simp only [deviceMachine, if_pos hadm, PlayoutController.needMorePlayData, htype,
      PlayoutController.deliverMixedData, hwanted]
    cases hd : deliver (mixSupply E.platform) (c.mixer, c.mixedBuffer) c.remainingData size
      callback.buf callback.uninit with
    | error fault =>
        simp only [libraryCall, Except.mapError, bind, Except.bind, hd]
    | ok d =>
        simp only [libraryCall, Except.mapError, bind, Except.bind, hd]
        rfl

/-- What `doMix` leaves. -/
theorem doMix_ok {c c₀ : PlayoutController σ ρ α γ} {uninit : Nat → Int16}
    (hidle : c.testType = .none) (h : c.doMix E uninit true = .ok c₀) :
    (mixTest E).Runs c₀ ∧ c₀.remainingData = 0 ∧ ∃ m mixer, c₀.mixer = some mixer ∧
      mixer.nativeMixer = some m ∧
      AudioMixer.create E.platform (mixTestConfig E) uninit = .ok m := by
  have hno : ¬ c.testType ≠ .none := fun hne => hne hidle
  simp only [PlayoutController.doMix, if_neg hno, bind_eq_ok, libraryCall_eq_ok,
    PYAAudioMixer.initWithConfig] at h
  obtain ⟨mixer, ⟨m, hcreate, hinit⟩, hret⟩ := h
  cases hinit
  cases hret
  exact ⟨⟨rfl, rfl, rfl⟩, rfl, m, _, rfl, rfl, hcreate⟩

/-- **The mix test plays the mix.** On both builds, for files that can be
read, whatever tests ran before: callbacks of any sizes never fail, each
is filled, and together they hear the bytes of the successive `Mix` calls
on the new mixer, from the first on. What was mixed and not yet heard is
counted by `_remainingData`, and is less than a block. -/
theorem mix_test_plays (E : PlayoutSetup σ ρ α γ) (hsizes : E.platform.av.SizeLaws)
    (hchannels : E.kChannelNum = 1 ∨ E.kChannelNum = 2) (c c₀ : PlayoutController σ ρ α γ)
    (uninit : Nat → Int16) (hidle : c.testType = .none) (h : c.doMix E uninit true = .ok c₀)
    (hreads : ∀ source ∈ PlayoutController.mixerSources E, ∀ s,
      AudioFileSource.create E.platform.av E.platform.fuel source.ssrc
        (E.platform.files source.path) 48000 E.kChannelNum.toInt 3 source.volume = .ok s →
      KeepsReading E.platform s)
    (callbacks : List PlayCallback)
    (hfits : ∀ callback ∈ callbacks, callback.Fits E.kChannelNum) :
    ∃ m₀ c' played k m' mixed,
      AudioMixer.create E.platform (mixTestConfig E) uninit = .ok m₀ ∧
      (deviceMachine E).run c₀ callbacks = .ok (c', played) ∧
      List.Forall₂ (PlayCallback.Filled E.kChannelNum) callbacks played ∧
      (mixerMachine E.platform).run m₀ (List.replicate k MixerCall.mix.zeroed)
        = .ok (m', mixed) ∧
      heard E.kChannelNum callbacks played
        = (mixed.flatMap mixedBytes).take (requested E.kChannelNum callbacks).toNat ∧
      (k : Int) * mixBlock E = requested E.kChannelNum callbacks + c'.remainingData ∧
      0 ≤ c'.remainingData ∧ c'.remainingData < mixBlock E := by
  obtain ⟨hruns, hzero, m₀, mixer, hmixer, hnative, hcreate⟩ := doMix_ok hidle h
  have hsource : ∀ source ∈ (mixTestConfig E).sources, source.isFile = true ∧ source.ssrc ≠ 0 := by
    intro source hmem
    simp only [mixTestConfig, PlayoutController.mixerSources, List.map_cons, List.map_nil,
      List.mem_cons, List.not_mem_nil, or_false] at hmem
    rcases hmem with rfl | rfl | rfl
    · exact ⟨rfl, show (1 : Int32) ≠ 0 by decide⟩
    · exact ⟨rfl, show (2 : Int32) ≠ 0 by decide⟩
    · exact ⟨rfl, show (3 : Int32) ≠ 0 by decide⟩
  have hplays : PlayInvariant E.platform (mixTestConfig E) 0 m₀ := by
    refine .of_create hcreate (fun source hmem _ => ⟨(hsource source hmem).2, ?_⟩) ?_
    · exact hreads source hmem
    · rw [samplesGetBufferSize_mixTest hsizes hchannels]
      exact Int.natCast_nonneg _
  have hfiles := filesOnly_of_create hcreate fun source hmem => (hsource source hmem).1
  have hready : MixReady E m₀ ((mixTest E).members c₀) := ⟨mixer, hmixer, hnative, hplays, hfiles⟩
  have hlasts := mixSupply_lasts hsizes hchannels
  obtain ⟨n, henough⟩ := exists_enough hfits hlasts.pos
  obtain ⟨c', played, k, blocks, hrun, hfilled, hblocks, -, hheard, hcount⟩ :=
    (mixTest E).start_serves hlasts (fun _ => 0) hruns hzero ⟨m₀, hready⟩ hfits henough
  -- the blocks are the mixes
  obtain ⟨m', mixed, hmixed, -, rfl⟩ := mixes_of_run hsizes hchannels hready hblocks
  rw [← List.flatMap_def] at hheard
  exact ⟨m₀, c', played, k, m', mixed, hcreate, hrun, hfilled, hmixed, hheard, hcount⟩

end Supply

/-! ## Two callbacks -/

/-- An iPhone whose files are one packet of 3 ms at 8 kHz. -/
def smallSetup : PlayoutSetup Slot SwrOptions UInt8 Unit where
  platform := { copyingPlatform .lp64 with
    files := fun _ => slotFile [.packet ⟨0, List.replicate 24 5⟩] }
  kChannelNum := 1
  pathForFileName := id
  raw := []
  samples mem i := mem (2 * i)
  stored samples := samples.flatMap fun x => [x, 0]

/-- A callback for so many samples, into zeroed memory. -/
def playCallback (nSamples : Nat) : PlayCallback where
  buf := fun _ => 0
  nSamples := nSamples
  uninit := fun _ => 0

/-- A source that took all packets of `slotCodec` keeps reading. -/
theorem keepsReading_of_slotCodec {P : Platform Slot ρ UInt8 γ} {s : AudioFileSource Slot ρ UInt8}
    (hunread : s.decoder.formatContext = []) (hconsumed : s.decoder.packetConsumed = true)
    (hempty : s.decoder.fifo = []) (hcodec : s.decoder.codec = slotCodec)
    (hframe : s.decoder.codecContext.frame = none) (hsamples : 0 ≤ s.inputSamples)
    (hfull : fullSize P.av s ≠ 0) (hfuel : 0 < P.fuel) : KeepsReading P s := by
  have hend : AtEnd (fun c : Slot => c.frame = none) s.decoder := by
    refine ⟨hunread, hconsumed, hempty, hframe, fun c hc => ?_⟩
    rw [hcodec]
    refine ⟨if c.flushed then .eof else .eagain, c, ?_, ?_, hc⟩
    · simp only [slotCodec, hc]
    · intro samples
      split <;> simp
  exact hend.keepsReading hsamples hfull hfuel

set_option maxRecDepth 4000 in
/-- The first `Read` takes the packet. -/
theorem keepsReading_smallSetup (ssrc : Int32) (path : String)
    {s : AudioFileSource Slot SwrOptions UInt8}
    (h : AudioFileSource.create smallSetup.platform.av smallSetup.platform.fuel ssrc
      (smallSetup.platform.files path) 48000 1 3 1 = .ok s) :
    KeepsReading smallSetup.platform s := by
  obtain ⟨s₀, s₁, result, hcreate, hread, hchannels, hsamples, hformat, hunread, hconsumed, hempty,
    hcodec, hframe⟩ :
      ∃ s₀ s₁ result, AudioFileSource.create smallSetup.platform.av smallSetup.platform.fuel ssrc
          (smallSetup.platform.files path) 48000 1 3 1 = .ok s₀ ∧
        s₀.read smallSetup.platform.av smallSetup.platform.fuel = .ok (s₁, result) ∧
        s₁.inputChannelNum = 1 ∧ s₁.inputSamples = 24 ∧ s₁.inputFormat = .s16 ∧
        s₁.decoder.formatContext = [] ∧ s₁.decoder.packetConsumed = true ∧
        s₁.decoder.fifo = [] ∧ s₁.decoder.codec = slotCodec ∧
        s₁.decoder.codecContext.frame = none :=
    ⟨_, _, _, rfl, rfl, rfl, rfl, rfl, rfl, rfl, rfl, rfl, rfl⟩
  rw [hcreate] at h
  cases h
  have hfull : fullSize smallSetup.platform.av s₁ = 48 := by
    rw [fullSize, hchannels, hsamples, hformat]
    rfl
  have hrest : KeepsReading smallSetup.platform s₁ :=
    keepsReading_of_slotCodec hunread hconsumed hempty hcodec hframe (by omega) (by omega)
      (by decide)
  exact hrest.of_read hread

theorem fits_playCallbacks :
    ∀ callback ∈ [playCallback 100, playCallback 200], callback.Fits 1 := by
  intro callback hcallback
  simp only [List.mem_cons, List.not_mem_nil, or_false] at hcallback
  rcases hcallback with rfl | rfl
  · exact ⟨by decide, by decide⟩
  · exact ⟨by decide, by decide⟩

theorem requested_playCallbacks : requested 1 [playCallback 100, playCallback 200] = 600 := by
  decide

/-- Callbacks for 100 and 200 samples hear 600 bytes of three mixes. -/
theorem mix_test_plays_two_callbacks :
    ∃ c₀ m₀ c' played m' mixed,
      PlayoutController.init.doMix smallSetup (fun _ => 0) true = .ok c₀ ∧
      AudioMixer.create smallSetup.platform (mixTestConfig smallSetup) (fun _ => 0) = .ok m₀ ∧
      (deviceMachine smallSetup).run c₀ [playCallback 100, playCallback 200] = .ok (c', played) ∧
      (mixerMachine smallSetup.platform).run m₀ (List.replicate 3 MixerCall.mix.zeroed)
        = .ok (m', mixed) ∧
      heard 1 [playCallback 100, playCallback 200] played
        = (mixed.flatMap mixedBytes).take 600 ∧
      c'.remainingData = 264 := by
  obtain ⟨c₀, hstart⟩ : ∃ c₀, PlayoutController.init.doMix smallSetup (fun _ => 0) true = .ok c₀ :=
    ⟨_, rfl⟩
  obtain ⟨m₀, c', played, k, m', mixed, hcreate, hrun, -, hmixed, hheard, hcount, hnonneg,
    hshort⟩ := mix_test_plays smallSetup copyingAv_sizeLaws (.inl rfl) PlayoutController.init c₀
      (fun _ => 0) rfl hstart (by
        intro source hsource s hs
        simp only [PlayoutController.mixerSources, List.map_cons, List.map_nil, List.mem_cons,
          List.not_mem_nil, or_false] at hsource
        rcases hsource with rfl | rfl | rfl
        · exact keepsReading_smallSetup 1 _ hs
        · exact keepsReading_smallSetup 2 _ hs
        · exact keepsReading_smallSetup 3 _ hs)
      [playCallback 100, playCallback 200] fits_playCallbacks
  have hblock : mixBlock smallSetup = 288 := by decide
  have hk : smallSetup.kChannelNum = 1 := rfl
  rw [hk, requested_playCallbacks, hblock] at hcount
  rw [hblock] at hshort
  rw [hk, requested_playCallbacks] at hheard
  obtain rfl : k = 3 := by omega
  exact ⟨c₀, m₀, c', played, m', mixed, hstart, hcreate, hrun, hmixed, hheard, by omega⟩

end L4AudioMixer.Ios
