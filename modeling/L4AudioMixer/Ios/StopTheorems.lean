/-
L4AudioMixer.Ios.StopTheorems — when stopping a test is safe.

`doStopTest` deletes what a test uses, then stops the device, and does not
ask whether a test runs. `playout_session_safe_iff` says for every session which
presses of the button go wrong: those without a test, which follow the
null `_adm`, and those during which the device calls back, unless the mix
test runs, whose mixer is not deleted.

The invariant is that what the running test uses is there
(`Equipped`). Null pointers are followed in the two steps of a delivery
only where a supply follows one, or its block is null
(`deliver_noNull`).
-/
import L4AudioMixer.Lib.Avoids
import L4AudioMixer.Ios.DecodeTestTheorems
import L4AudioMixer.Ios.ResampleTestTheorems

namespace L4AudioMixer.Ios

open L4AudioMixer.Lib
open L4AudioMixer.Libav
open L4AudioMixer.Source
open L4AudioMixer.Mixer

variable {σ ρ α γ κ ω : Type} {E : PlayoutSetup σ ρ α γ} {c c' : PlayoutController σ ρ α γ}
  {callback : PlayCallback}

/-- The computation follows no null pointer, and what it returns satisfies
`Q`. -/
abbrev NoNull {β : Type} (Q : β → Prop) (x : Except PlayoutFault β) : Prop :=
  Avoids .nullPointer Q x

theorem libraryCall_noNull {β : Type} (x : Except Fault β) :
    NoNull (fun b => x = .ok b) (libraryCall x) := by
  cases x with
  | error fault => exact .error fun h => (by cases h)
  | ok b => exact .ok rfl

/-! ## Deliveries -/

section Deliver

variable {B : BlockSupply κ ω} {A : κ → Prop} {d : Playing κ}

/-- From members of `A` on, the supply follows no null pointer and gives
blocks that are somewhere. -/
def BlockSupply.NeverNull (B : BlockSupply κ ω) (A : κ → Prop) : Prop :=
  ∀ members uninit, A members →
    NoNull (fun r => A r.1 ∧ B.data r.1 ≠ none) (B.next members uninit)

/-- What is left over of a block is somewhere. -/
def Kept (B : BlockSupply κ ω) (A : κ → Prop) (d : Playing κ) : Prop :=
  A d.supply ∧ (0 < d.remainingData → B.data d.supply ≠ none)

theorem memcpyToDevice_noNull {src : Option (Nat → UInt8)} (h : src ≠ none) (buf : Nat → UInt8)
    (pos : Int) (length : Nat) (offset size : Int) :
    NoNull (fun _ => True) (memcpyToDevice buf pos src length offset size) := by
  cases src with
  | none => exact absurd rfl h
  | some src => exact (libraryCall_noNull _).bind fun _ _ => .ok trivial

theorem takeRemaining_noNull (hd : Kept B A d) : NoNull (Kept B A) (takeRemaining B d) := by
  unfold takeRemaining
  split
  · rename_i hleft
    have hdata := hd.2 hleft
    exact (memcpyToDevice_noNull hdata _ _ _ _ _).bind fun _ _ => .ok ⟨hd.1, fun _ => hdata⟩
  · exact .ok hd

/-- **A pass of the loop** keeps what is left over somewhere. -/
theorem pullBody_noNull (hB : B.NeverNull A) (uninit : ω) (hd : Kept B A d) :
    (∀ d', pullBody B uninit d = .next d' → Kept B A d') ∧
      ∀ r, pullBody B uninit d = .done r → NoNull (Kept B A) r := by
  by_cases hwant : 0 < d.wantedSize
  · have hblock := hB d.supply uninit hd.1
    cases hnext : B.next d.supply uninit with
    | error fault =>
        simp only [pullBody, if_pos hwant, hnext]
        refine ⟨fun d' h => (by cases h), fun r h => ?_⟩
        cases h
        exact hblock.of_error hnext
    | ok members =>
        obtain ⟨supply, n⟩ := members
        obtain ⟨hA, hdata⟩ := hblock.2 _ hnext
        have hcopied := memcpyToDevice_noNull hdata d.buf d.bufWritePos B.length 0
          (min n d.wantedSize)
        cases hcopy : memcpyToDevice d.buf d.bufWritePos (B.data supply) B.length 0
          (min n d.wantedSize) with
        | error fault =>
            simp only [pullBody, if_pos hwant, hnext, hcopy]
            refine ⟨fun d' h => (by cases h), fun r h => ?_⟩
            cases h
            exact hcopied.of_error hcopy
        | ok buf =>
            simp only [pullBody, if_pos hwant, hnext, hcopy]
            refine ⟨fun d' h => ?_, fun r h => (by cases h)⟩
            cases h
            exact ⟨hA, fun _ => hdata⟩
  · simp only [pullBody, if_neg hwant]
    refine ⟨fun d' h => (by cases h), fun r h => ?_⟩
    cases h
    exact .ok hd

/-- **A delivery follows no null pointer** if the supply follows none. -/
theorem deliver_noNull (hB : B.NeverNull A) {members : κ} {remainingData : Int}
    (hA : A members) (hkept : 0 < remainingData → B.data members ≠ none) (wantedSize : Int)
    (buf : Nat → UInt8) (uninit : ω) :
    NoNull (Kept B A) (deliver B members remainingData wantedSize buf uninit) := by
  have htake : NoNull (Kept B A) (takeRemaining B
      { supply := members, remainingData, wantedSize, bufWritePos := 0, buf }) :=
    takeRemaining_noNull ⟨hA, hkept⟩
  refine htake.bind fun d hd => ?_
  exact .loop (Kept B A) (fun s s' hs hnext => (pullBody_noNull hB uninit hs).1 s' hnext)
    (fun s r hs hdone => (pullBody_noNull hB uninit hs).2 r hdone) (fun h => (by cases h)) hd

/-- **Without blocks** a callback that asks for something follows one. -/
theorem deliver_null {members : κ} {remainingData wantedSize : Int}
    (hdata : B.data members = none) (hnext : ∀ uninit, B.next members uninit = .error .nullPointer)
    (hwant : 0 < wantedSize) (buf : Nat → UInt8) (uninit : ω) :
    deliver B members remainingData wantedSize buf uninit = .error .nullPointer := by
  by_cases hleft : 0 < remainingData
  · simp only [deliver, takeRemaining, if_pos hleft, hdata, memcpyToDevice, bind, Except.bind]
  · have hpass : pullBody B uninit
        { supply := members, remainingData, wantedSize, bufWritePos := 0, buf }
          = .done (.error .nullPointer) := by
      simp only [pullBody, if_pos hwant, hnext]
    simp only [deliver, takeRemaining, if_neg hleft, bind, Except.bind, pure, Except.pure,
      loop_done hpass, Option.getD_some]

end Deliver

/-! ## The supplies of the tests -/

theorem sourceSupply_neverNull (P : Platform σ ρ α γ) (decodeOutputSize : Int) :
    (sourceSupply P decodeOutputSize).NeverNull fun members =>
      members.1 ≠ none ∧ members.2 ≠ none := by
  intro ⟨source, buffer⟩ uninit ⟨hsource, hbuffer⟩
  cases source with
  | none => exact absurd rfl hsource
  | some source =>
      cases buffer with
      | none => exact absurd rfl hbuffer
      | some buffer =>
          refine (libraryCall_noNull _).bind fun r _ => ?_
          refine (libraryCall_noNull _).bind fun _ _ => .ok ⟨⟨?_, ?_⟩, ?_⟩
          · simp
          · simp
          · simp [sourceSupply]

/-- The members of the resampler test that are pointers it follows. -/
def ResampleMembers.Present (members : ResampleMembers ρ) : Prop :=
  members.resampler ≠ none ∧ members.inputBuffer ≠ none ∧ members.buffer ≠ none

theorem resampleSupply_neverNull (E : PlayoutSetup σ ρ α γ) (inputSize outputSize : Int) :
    (resampleSupply E inputSize outputSize).NeverNull ResampleMembers.Present := by
  intro ⟨resampler, reader, inputBuffer, buffer⟩ uninit ⟨hresampler, hinput, hbuffer⟩
  cases resampler with
  | none => exact absurd rfl hresampler
  | some resampler =>
      cases inputBuffer with
      | none => exact absurd rfl hinput
      | some inputBuffer =>
          cases buffer with
          | none => exact absurd rfl hbuffer
          | some buffer =>
              refine (libraryCall_noNull _).bind fun r _ => ?_
              refine (libraryCall_noNull _).bind fun _ _ => .ok ⟨⟨?_, ?_, ?_⟩, ?_⟩
              · simp
              · simp
              · simp
              · simp [resampleSupply]

theorem mixSupply_neverNull (P : Platform σ ρ α γ) :
    (mixSupply P).NeverNull fun members => members.1 ≠ none := by
  intro ⟨mixer, mixedBuffer⟩ uninit hmixer
  cases mixer with
  | none => exact absurd rfl hmixer
  | some mixer =>
      refine (libraryCall_noNull _).bind fun r _ => .ok ⟨?_, ?_⟩
      · simp
      · simp [mixSupply]

/-! ## Callbacks -/

/-- What a test uses is there, and its sizes are those of its button. -/
def HasMembers (E : PlayoutSetup σ ρ α γ) (c : PlayoutController σ ρ α γ) : TestType → Prop
  | .none => True
  | .decodeMono => c.decoder ≠ none
  | .resample =>
      c.resampler ≠ none ∧ c.resamplerInputBuffer ≠ none ∧ c.buffer ≠ none ∧
        c.resamplerInputSampleRate = 44100 ∧ c.resamplerInputChannelNum = 2 ∧
        c.sampleRate = 16000 ∧ c.channelNum = E.kChannelNum
  | .decodeAny =>
      c.source ≠ none ∧ c.buffer ≠ none ∧ c.sampleRate = 48000 ∧ c.channelNum = E.kChannelNum
  | .mix => c.mixer ≠ none ∧ (0 < c.remainingData → c.mixedBuffer ≠ none)
  | .recordAndMix => False

/-- **Callbacks of a running test follow no null pointer**, and do not
change which test runs. -/
theorem needMorePlayData_noNull (h : HasMembers E c c.testType) (callback : PlayCallback) :
    NoNull (fun r => r.1.testType = c.testType ∧ r.1.adm = c.adm ∧ HasMembers E r.1 c.testType)
      (c.needMorePlayData E callback) := by
  cases htype : c.testType with
  | none =>
      simp only [PlayoutController.needMorePlayData, htype]
      exact .ok ⟨htype, rfl, trivial⟩
  | recordAndMix =>
      rw [htype] at h
      exact h.elim
  | decodeMono =>
      rw [htype] at h
      simp only [PlayoutController.needMorePlayData, htype]
      cases hdecoder : c.decoder with
      | none => exact absurd hdecoder h
      | some decoder =>
          have hdeliver : NoNull (fun r => r.1.testType = c.testType ∧ r.1.adm = c.adm ∧
              r.1.decoder ≠ none) (c.deliverMonoDecodedData E callback) := by
            simp only [PlayoutController.deliverMonoDecodedData, hdecoder]
            exact (libraryCall_noNull _).bind fun r _ => .ok ⟨rfl, rfl, by simp⟩
          exact hdeliver.bind fun r hr => .ok ⟨hr.1.trans htype, hr.2.1, hr.2.2⟩
  | resample =>
      rw [htype] at h
      obtain ⟨hresampler, hinput, hbuffer, hsizes⟩ := h
      have hdeliver : NoNull (fun r => r.1.testType = c.testType ∧ r.1.adm = c.adm ∧
          HasMembers E r.1 .resample) (c.deliverResampledData E callback) := by
        refine (libraryCall_noNull _).bind fun frame _ => ?_
        refine (libraryCall_noNull _).bind fun wantedSize _ => ?_
        refine (libraryCall_noNull _).bind fun inputSize _ => ?_
        refine (libraryCall_noNull _).bind fun outputSize _ => ?_
        have hpresent : ResampleMembers.Present
            { resampler := c.resampler, reader := c.resamplerReader
              inputBuffer := c.resamplerInputBuffer, buffer := c.buffer } :=
          ⟨hresampler, hinput, hbuffer⟩
        exact (deliver_noNull (resampleSupply_neverNull E inputSize outputSize) hpresent
          (fun _ => hbuffer) wantedSize callback.buf ()).bind fun d hkept =>
            .ok ⟨rfl, rfl, hkept.1.1, hkept.1.2.1, hkept.1.2.2, hsizes⟩
      simp only [PlayoutController.needMorePlayData, htype]
      exact hdeliver.bind fun r hr => .ok ⟨hr.1.trans htype, hr.2.1, hr.2.2⟩
  | decodeAny =>
      rw [htype] at h
      obtain ⟨hsource, hbuffer, hsizes⟩ := h
      have hdeliver : NoNull (fun r => r.1.testType = c.testType ∧ r.1.adm = c.adm ∧
          HasMembers E r.1 .decodeAny) (c.deliverAnyDecodedData E callback) := by
        refine (libraryCall_noNull _).bind fun wantedSize _ => ?_
        refine (libraryCall_noNull _).bind fun outputSize _ => ?_
        have hpresent : (c.source, c.buffer).1 ≠ none ∧ (c.source, c.buffer).2 ≠ none :=
          ⟨hsource, hbuffer⟩
        exact (deliver_noNull (sourceSupply_neverNull E.platform outputSize) hpresent
          (fun _ => hbuffer) wantedSize callback.buf ()).bind fun d hkept =>
            .ok ⟨rfl, rfl, hkept.1.1, hkept.1.2, hsizes⟩
      simp only [PlayoutController.needMorePlayData, htype]
      exact hdeliver.bind fun r hr => .ok ⟨hr.1.trans htype, hr.2.1, hr.2.2⟩
  | mix =>
      rw [htype] at h
      obtain ⟨hmixer, hmixed⟩ := h
      have hdeliver : NoNull (fun r => r.1.testType = c.testType ∧ r.1.adm = c.adm ∧
          HasMembers E r.1 .mix) (c.deliverMixedData E callback) := by
        refine (libraryCall_noNull _).bind fun wantedSize _ => ?_
        have hkept₀ : 0 < c.remainingData →
            (mixSupply E.platform).data (c.mixer, c.mixedBuffer) ≠ none := by
          intro hleft
          simpa [mixSupply] using hmixed hleft
        have hd := deliver_noNull (mixSupply_neverNull E.platform) hmixer hkept₀ wantedSize
          callback.buf callback.uninit
        refine hd.bind fun d hkept => .ok ⟨rfl, rfl, hkept.1, fun hleft => ?_⟩
        simpa [mixSupply] using hkept.2 hleft
      simp only [PlayoutController.needMorePlayData, htype]
      exact hdeliver.bind fun r hr => .ok ⟨hr.1.trans htype, hr.2.1, hr.2.2⟩

/-! ### After the deletions -/

/-- A callback that asks for a positive number of bytes. -/
structure PlayCallback.Asks (channelNum : Int32) (callback : PlayCallback) : Prop
    extends callback.Fits channelNum where
  positive : 0 < callback.size channelNum

/-- **Between the deletions and `StopPlayout`** a callback follows a null
pointer, in every test but the mix test. -/
theorem released_null (hchannels : E.kChannelNum = 1 ∨ E.kChannelNum = 2)
    (h : HasMembers E c c.testType) (hruns : c.testType ≠ .none) (hmix : c.testType ≠ .mix)
    (hasks : callback.Asks E.kChannelNum) :
    c.stopReleases.needMorePlayData E callback = .error .nullPointer := by
  obtain ⟨size, hsize⟩ : ∃ size, callback.size E.kChannelNum = size := ⟨_, rfl⟩
  have hpositive := hasks.positive
  rw [hsize] at hpositive
  cases htype : c.testType with
  | none => exact absurd htype hruns
  | mix => exact absurd htype hmix
  | recordAndMix =>
      rw [htype] at h
      exact h.elim
  | decodeMono =>
      simp only [PlayoutController.needMorePlayData, PlayoutController.stopReleases, htype,
        PlayoutController.deliverMonoDecodedData, bind, Except.bind]
  | resample =>
      rw [htype] at h
      obtain ⟨-, -, -, hinputRate, hinputChannels, hrate, hchannel⟩ := h
      obtain ⟨hinput, houtput⟩ := tenMsSize_resampleTest hchannels
      obtain ⟨frame, hframe, hwanted⟩ := resampled_wantedSize hchannels hasks.toFits hsize
      have hnull : deliver (resampleSupply E 1764 (resampleBlock E))
          { resampler := none, reader := none, inputBuffer := none, buffer := none }
          c.remainingData size callback.buf () = .error .nullPointer :=
        deliver_null rfl (fun _ => rfl) hpositive callback.buf ()
      simp only [PlayoutController.needMorePlayData, PlayoutController.stopReleases, htype,
        PlayoutController.deliverResampledData, hchannel, hrate, hinputRate, hinputChannels, hframe,
        hinput, houtput]
      simp only [libraryCall, Except.mapError, bind, Except.bind, hwanted, hnull]
  | decodeAny =>
      rw [htype] at h
      obtain ⟨-, -, hrate, hchannel⟩ := h
      have houtput := tenMsSize_decodeTest hchannels
      have hchannel' : c.stopReleases.channelNum = E.kChannelNum := hchannel
      have hwanted := wantedSize_of_fits hchannel' hasks.toFits hsize
      have hnull : deliver (sourceSupply E.platform (decodeBlock E)) (none, none)
          c.remainingData size callback.buf () = .error .nullPointer :=
        deliver_null rfl (fun _ => rfl) hpositive callback.buf ()
      have htype' : c.stopReleases.testType = .decodeAny := htype
      have hrate' : c.stopReleases.sampleRate = 48000 := hrate
      have hmembers : (c.stopReleases.source, c.stopReleases.buffer) = (none, none) := rfl
      have hremaining : c.stopReleases.remainingData = c.remainingData := rfl
      simp only [PlayoutController.needMorePlayData, htype',
        PlayoutController.deliverAnyDecodedData, hwanted, hchannel', hrate', houtput, hmembers,
        hremaining]
      simp only [libraryCall, Except.mapError, bind, Except.bind, hnull]

/-! ## The device -/

/-- A step of the device keeps the test, and what it uses. -/
theorem deviceStep_noNull {test : TestType} {adm : Option Bool}
    (h : c.testType = test ∧ c.adm = adm ∧ HasMembers E c test) (callback : PlayCallback) :
    NoNull (fun r => r.1.testType = test ∧ r.1.adm = adm ∧ HasMembers E r.1 test)
      ((deviceMachine E).step c callback) := by
  obtain ⟨rfl, rfl, hmembers⟩ := h
  simp only [deviceMachine]
  split
  · exact (needMorePlayData_noNull hmembers callback).bind fun r hr => .ok hr
  · exact .ok ⟨rfl, rfl, hmembers⟩

/-- A device that does not play does not call back. -/
theorem run_silent (hadm : c.adm ≠ some true) (callbacks : List PlayCallback) :
    ∃ played, (deviceMachine E).run c callbacks = .ok (c, played) := by
  induction callbacks with
  | nil => exact ⟨[], rfl⟩
  | cons callback callbacks ih =>
      obtain ⟨played, hrun⟩ := ih
      have hstep : (deviceMachine E).step c callback = .ok (c, none) := by
        simp only [deviceMachine, if_neg hadm]
      exact ⟨none :: played, Machine.run_cons hstep hrun⟩

/-! ## Sessions -/

/-- The callbacks of an event ask for a positive number of bytes. -/
def PlayoutEvent.Asks (channelNum : Int32) : PlayoutEvent → Prop
  | .start _ _ _ _ _ => True
  | .needMorePlayData callback => callback.Asks channelNum
  | .stop during => ∀ callback ∈ during, callback.Asks channelNum

/-- A stop that goes well: a test runs, and no callback comes between the
deletions and `StopPlayout` unless it is the mix test. -/
def StopsSafely (c : PlayoutController σ ρ α γ) : PlayoutEvent → Prop
  | .start _ _ _ _ _ => True
  | .needMorePlayData _ => True
  | .stop during =>
      c.testType ≠ .none ∧ (during = [] ∨ c.testType = .mix ∨ c.adm ≠ some true)

/-- There is a device exactly while a test runs, and what the test uses is
there. -/
structure Equipped (E : PlayoutSetup σ ρ α γ) (c : PlayoutController σ ρ α γ) : Prop where
  idle : c.testType = .none ↔ c.adm = none
  members : HasMembers E c c.testType

theorem equipped_init : Equipped E (PlayoutController.init : PlayoutController σ ρ α γ) where
  idle := ⟨fun _ => rfl, fun _ => rfl⟩
  members := trivial

/-- **Buttons** follow no null pointer. -/
theorem press_noNull (hc : Equipped E c) (button : PlayoutButton)
    (malloced mallocedInput : Nat → UInt8) (uninit : Nat → Int16) (initPlayout : Bool) :
    NoNull (Equipped E) (press E c malloced mallocedInput uninit initPlayout button) := by
  by_cases hidle : c.testType = .none
  · have hno : ¬ c.testType ≠ .none := fun hne => hne hidle
    cases button with
    | doDecodeMono =>
        simp only [press, PlayoutController.doDecodeMono, if_neg hno]
        exact (libraryCall_noNull _).bind fun decoder _ =>
          .ok ⟨⟨fun h => (by cases h), fun h => (by cases h)⟩, fun h => (by cases h)⟩
    | doResample =>
        simp only [press, PlayoutController.doResample, if_neg hno]
        exact (libraryCall_noNull _).bind fun resampler _ =>
          .ok ⟨⟨fun h => (by cases h), fun h => (by cases h)⟩, fun h => (by cases h),
            fun h => (by cases h), fun h => (by cases h), rfl, rfl, rfl, rfl⟩
    | doDecodeAny =>
        simp only [press, PlayoutController.doDecodeAny, if_neg hno]
        exact (libraryCall_noNull _).bind fun source _ =>
          .ok ⟨⟨fun h => (by cases h), fun h => (by cases h)⟩, fun h => (by cases h),
            fun h => (by cases h), rfl, rfl⟩
    | doMix =>
        simp only [press, PlayoutController.doMix, if_neg hno]
        exact (libraryCall_noNull _).bind fun mixer _ =>
          .ok ⟨⟨fun h => (by cases h), fun h => (by cases h)⟩, fun h => (by cases h),
            fun h => absurd h (Int.lt_irrefl 0)⟩
  · -- a test runs already
    have hkept : press E c malloced mallocedInput uninit initPlayout button = .ok c := by
      cases button with
      | doDecodeMono => exact if_pos hidle
      | doResample => exact if_pos hidle
      | doDecodeAny => exact if_pos hidle
      | doMix => exact if_pos hidle
    rw [hkept]
    exact .ok hc

/-- **A stop** follows no null pointer exactly if it is a safe one. -/
theorem stop_noNull_iff (hchannels : E.kChannelNum = 1 ∨ E.kChannelNum = 2) (hc : Equipped E c)
    {during : List PlayCallback} (hasks : ∀ callback ∈ during, callback.Asks E.kChannelNum) :
    (playoutMachine E).step c (.stop during) ≠ .error .nullPointer ↔
      StopsSafely c (.stop during) := by
  simp only [playoutMachine, StopsSafely]
  by_cases hnone : c.testType = .none
  · -- `_adm` is null
    have hadm : c.stopReleases.adm = none := hc.idle.mp hnone
    obtain ⟨played, hrun⟩ := run_silent (E := E) (c := c.stopReleases)
      (fun h => by rw [hadm] at h; cases h) during
    simp only [hrun, PlayoutController.stopEnds, hadm, bind, Except.bind, ne_eq, not_true_eq_false,
      hnone, false_and]
  · obtain ⟨playing, hadm⟩ : ∃ playing, c.stopReleases.adm = some playing :=
      Option.ne_none_iff_exists'.mp fun h => hnone (hc.idle.mpr h)
    have hends : ∀ c' : PlayoutController σ ρ α γ, c'.adm = some playing →
        ∃ c'', c'.stopEnds = .ok c'' := by
      intro c' hadm'
      simp only [PlayoutController.stopEnds, hadm']
      exact ⟨_, rfl⟩
    by_cases hsafe : during = [] ∨ c.testType = .mix ∨ c.adm ≠ some true
    · refine iff_of_true ?_ ⟨hnone, hsafe⟩
      have hrun : NoNull (fun r => r.1.adm = some playing)
          ((deviceMachine E).run c.stopReleases during) := by
        rcases hsafe with rfl | hmix | hsilent
        · exact .ok hadm
        · -- the mixer is not deleted
          have hmembers := hc.members
          rw [hmix] at hmembers
          have hstart : c.stopReleases.testType = .mix ∧ c.stopReleases.adm = some playing ∧
              HasMembers E c.stopReleases .mix := ⟨hmix, hadm, hmembers⟩
          have hkept := Avoids.run (fun c' : PlayoutController σ ρ α γ =>
            c'.testType = .mix ∧ c'.adm = some playing ∧ HasMembers E c' .mix)
            (fun c' callback hc' _ => deviceStep_noNull hc' callback) hstart
            fun callback (hcallback : callback ∈ during) => hasks callback hcallback
          exact hkept.mono fun r hr => hr.2.1
        · obtain ⟨played, hrun⟩ := run_silent (E := E) (c := c.stopReleases) hsilent during
          rw [hrun]
          exact .ok hadm
      refine (hrun.bind fun r hr => ?_ : NoNull (fun _ => True) _).1
      obtain ⟨c'', hc''⟩ := hends r.1 hr
      simp only [hc'', bind, Except.bind]
      exact .ok trivial
    · refine iff_of_false (fun h => h ?_) fun h => hsafe h.2
      rw [not_or, not_or, not_not] at hsafe
      obtain ⟨hsome, hmix, hplays⟩ := hsafe
      -- the first callback already fails
      obtain ⟨callback, rest, rfl⟩ := List.exists_cons_of_ne_nil hsome
      have hnull := released_null hchannels hc.members hnone hmix
        (hasks callback (List.mem_cons_self ..))
      have hplays' : c.stopReleases.adm = some true := hplays
      simp only [Machine.run, deviceMachine, if_pos hplays', hnull, bind, Except.bind]

/-- Every event keeps the invariant. -/
theorem Equipped.step (hc : Equipped E c) {event : PlayoutEvent} {reply : List (Option Played)}
    (h : (playoutMachine E).step c event = .ok (c', reply)) : Equipped E c' := by
  cases event with
  | start button malloced mallocedInput uninit initPlayout =>
      simp only [playoutMachine, bind_eq_ok] at h
      obtain ⟨c₁, hpress, hret⟩ := h
      cases hret
      exact (press_noNull hc button malloced mallocedInput uninit initPlayout).2 _ hpress
  | needMorePlayData callback =>
      simp only [playoutMachine, bind_eq_ok] at h
      obtain ⟨⟨c₁, played⟩, hstep, hret⟩ := h
      cases hret
      obtain ⟨htype, hadm, hmembers⟩ :=
        (deviceStep_noNull ⟨rfl, rfl, hc.members⟩ callback).2 _ hstep
      refine ⟨?_, by rw [htype]; exact hmembers⟩
      rw [htype, hadm]
      exact hc.idle
  | stop during =>
      simp only [playoutMachine, bind_eq_ok] at h
      obtain ⟨⟨c₁, played⟩, -, c₂, hends, hret⟩ := h
      cases hret
      unfold PlayoutController.stopEnds at hends
      split at hends
      · cases hends
      · cases hends
        exact ⟨⟨fun _ => rfl, fun _ => rfl⟩, trivial⟩

/-- **When a session is safe.** On both builds, in every session of button
presses and callbacks that ask for data, in whatever order, a null pointer
is followed exactly if some press of the stop button is not a safe one. -/
theorem playout_session_safe_iff (E : PlayoutSetup σ ρ α γ)
    (hchannels : E.kChannelNum = 1 ∨ E.kChannelNum = 2) (events : List PlayoutEvent)
    (hasks : ∀ event ∈ events, event.Asks E.kChannelNum) :
    (playoutMachine E).run PlayoutController.init events ≠ .error .nullPointer ↔
      (playoutMachine E).Meets StopsSafely PlayoutController.init events := by
  refine run_ne_error_iff (Equipped E) (fun c event c' reply hc _ hstep => hc.step hstep) ?_
    equipped_init hasks
  intro c event hc hevent
  cases event with
  | start button malloced mallocedInput uninit initPlayout =>
      refine iff_of_true ?_ trivial
      have hpress := press_noNull hc button malloced mallocedInput uninit initPlayout
      exact (hpress.bind fun c' _ => .ok trivial : NoNull (fun _ => True) _).1
  | needMorePlayData callback =>
      refine iff_of_true ?_ trivial
      have hstep := deviceStep_noNull ⟨rfl, rfl, hc.members⟩ callback
      exact (hstep.bind fun r _ => .ok trivial : NoNull (fun _ => True) _).1
  | stop during => exact stop_noNull_iff hchannels hc hevent

/-- A press of a button, with zeroed memory. -/
def pressed (button : PlayoutButton) : PlayoutEvent :=
  .start button (fun _ => 0) (fun _ => 0) (fun _ => 0) true

/-- The mix test can be stopped while the device calls back, the decode
test cannot. -/
theorem playout_session_safe_one_stop :
    (playoutMachine smallSetup).run PlayoutController.init
        [pressed .doMix, .stop [playCallback 100]] ≠ .error .nullPointer ∧
      (playoutMachine smallSetup).run PlayoutController.init
        [pressed .doDecodeAny, .stop [playCallback 100]] = .error .nullPointer := by
  have hasks : ∀ button, ∀ event ∈ [pressed button, .stop [playCallback 100]],
      event.Asks smallSetup.kChannelNum := by
    intro button event hevent
    simp only [List.mem_cons, List.not_mem_nil, or_false] at hevent
    rcases hevent with rfl | rfl
    · trivial
    · intro callback hcallback
      rw [List.mem_singleton] at hcallback
      subst hcallback
      exact ⟨⟨by decide, by decide⟩, by decide⟩
  constructor
  · refine (playout_session_safe_iff smallSetup (.inl rfl) _ (hasks .doMix)).mpr
      ⟨trivial, fun c reply hstep => ?_⟩
    obtain ⟨c₀, hc₀, htype⟩ : ∃ c₀, (playoutMachine smallSetup).step PlayoutController.init
        (pressed .doMix) = .ok (c₀, []) ∧ c₀.testType = .mix := ⟨_, rfl, rfl⟩
    cases hc₀.symm.trans hstep
    refine ⟨⟨?_, .inr (.inl htype)⟩, fun _ _ _ => trivial⟩
    rw [htype]
    decide
  · refine Classical.byContradiction fun hne => ?_
    obtain ⟨c₀, hc₀, htype, hadm⟩ : ∃ c₀, (playoutMachine smallSetup).step PlayoutController.init
        (pressed .doDecodeAny) = .ok (c₀, []) ∧ c₀.testType = .decodeAny ∧ c₀.adm = some true :=
      ⟨_, rfl, rfl, rfl⟩
    have hmeets := (playout_session_safe_iff smallSetup (.inl rfl) _ (hasks .doDecodeAny)).mp hne
    obtain ⟨-, hsafe⟩ := (hmeets.2 c₀ [] hc₀).1
    rcases hsafe with hnil | hmix | hsilent
    · cases hnil
    · rw [htype] at hmix
      cases hmix
    · exact hsilent hadm

end L4AudioMixer.Ios
