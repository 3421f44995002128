/-
L4AudioMixer.Ios.ResampleTestTheorems — the resampler test never ends.

`deliverResampledData` looks at the result of neither `read` nor
`Resample`: a pass always makes a block of 10 ms of what lies in `_buffer`.
So the supply lasts for ever, whatever the file and the library are.
`resample_test_plays` says what is heard. At the end of the file
`_resamplerInputBuffer` is no longer written, and its last block is
resampled again and again (`rawBlock_stays`); where a conversion gives
less than 10 ms, the rest is from an earlier one (`outputBlocks`).
-/
import L4AudioMixer.Ios.PlayoutTheorems
import L4AudioMixer.Ios.MixTestTheorems
import L4AudioMixer.Source.PlaybackTheorems

namespace L4AudioMixer.Ios

open L4AudioMixer.Lib
open L4AudioMixer.Libav
open L4AudioMixer.Source
open L4AudioMixer.Decoder (Slot)

variable {σ ρ α γ : Type} {E : PlayoutSetup σ ρ α γ}

/-! ## The specification -/

/-- `_resamplerInputBuffer` after so many reads of the file. -/
def inputMemory (E : PlayoutSetup σ ρ α γ) (malloced : Nat → UInt8) : Nat → Nat → UInt8
  | 0 => malloced
  | k + 1 => store (inputMemory E malloced k) ((E.raw.drop (1764 * k)).take 1764)

/-- The samples a pass resamples. -/
def rawBlock (E : PlayoutSetup σ ρ α γ) (malloced : Nat → UInt8) (k : Nat) : List α :=
  firstN (E.samples (inputMemory E malloced (k + 1))) 441

/-- The blocks of `b` bytes in front of `_buffer` after each conversion. -/
def outputBlocks (av : LibAv ρ α) (b : Nat) :
    AudioResampler ρ → (Nat → UInt8) → List (List α) → List (List UInt8)
  | _, _, [] => []
  | r, buffer, block :: blocks =>
      let buffer' := store buffer (pcmBytes (r.convertBlock av block).2.written)
      firstN buffer' b :: outputBlocks av b (r.convertBlock av block).1 buffer' blocks

/-- **Behind the end of the file** a pass resamples the same samples
again. -/
theorem rawBlock_stays (malloced : Nat → UInt8) {k : Nat} (hend : E.raw.length ≤ 1764 * (k + 1)) :
    rawBlock E malloced (k + 1) = rawBlock E malloced k := by
  have hnone : E.raw.drop (1764 * (k + 1)) = [] := List.drop_of_length_le hend
  have hsame : inputMemory E malloced (k + 1 + 1) = inputMemory E malloced (k + 1) := by
    rw [inputMemory, hnone]
    rfl
  rw [rawBlock, hsame, rawBlock]

/-! ## The supply -/

/-- The bytes of 10 ms at 16 kHz. -/
def resampleBlock (E : PlayoutSetup σ ρ α γ) : Nat := 320 * E.kChannelNum.toInt.toNat

/-- The resampler of the test, after any number of conversions. -/
structure FromRaw (E : PlayoutSetup σ ρ α γ) (k : SwrContract E.platform.av)
    (r : AudioResampler ρ) : Prop where
  options : k.options r.context = r.options
  inputFormat : r.inputFormat = .s16
  inputSampleRate : r.inputSampleRate = 44100
  inputChannelNum : r.inputChannelNum = 2
  outputSampleRate : r.outputSampleRate = 16000
  outputChannelNum : r.outputChannelNum = E.kChannelNum.toInt

section Supply

variable {k : SwrContract E.platform.av} {r : AudioResampler ρ}

theorem fromRaw_of_create
    (h : AudioResampler.create E.platform.av kOutputSampleFormat 44100 2 kOutputSampleFormat 16000
      E.kChannelNum.toInt = .ok r) : FromRaw E k r := by
  have hoptions := resampler_create_options (k := k) h
  rw [resampler_create_eq h] at hoptions ⊢
  exact ⟨hoptions, rfl, rfl, rfl, rfl, rfl⟩

theorem FromRaw.convertBlock (hr : FromRaw E k r) (block : List α) :
    FromRaw E k (r.convertBlock E.platform.av block).1 where
  options := (k.options_convert _ _ _).trans hr.options
  inputFormat := hr.inputFormat
  inputSampleRate := hr.inputSampleRate
  inputChannelNum := hr.inputChannelNum
  outputSampleRate := hr.outputSampleRate
  outputChannelNum := hr.outputChannelNum

/-- `Resample` converts the front of the buffer. -/
theorem FromRaw.resample (hr : FromRaw E k r) (samples : Nat → α) :
    ∃ resampled, r.resample E.platform.av samples 1764
        = .ok ((r.convertBlock E.platform.av (firstN samples 441)).1, resampled) ∧
      resampled.written = (r.convertBlock E.platform.av (firstN samples 441)).2.written := by
  have hperChannel : divInt32 1764 r.inputChannelNum = .ok 882 := by
    rw [hr.inputChannelNum]
    decide
  have hsamples : divInt32 882 r.inputFormat.bytesPerSample = .ok 441 := by
    rw [hr.inputFormat]
    decide
  have hlength : ((firstN samples 441).length : Int) = 441 := by rw [length_firstN]; rfl
  simp only [AudioResampler.resample, hperChannel, hsamples, bind, Except.bind, pure, Except.pure,
    AudioResampler.convertBlock, hlength]
  exact ⟨_, rfl, rfl⟩

/-- 441 samples at 44.1 kHz are 160 at 16 kHz. -/
theorem FromRaw.length_written (hr : FromRaw E k r) (hrescale : E.platform.av.RescaleLaws)
    (hchannels : E.kChannelNum = 1 ∨ E.kChannelNum = 2) (samples : Nat → α) :
    2 * (r.convertBlock E.platform.av (firstN samples 441)).2.written.length ≤ resampleBlock E := by
  have hlength : ((firstN samples 441).length : Int) = 441 := by rw [length_firstN]; rfl
  have hspace : r.spaceFor E.platform.av 441 ≤ 160 := by
    rw [AudioResampler.spaceFor, hr.outputSampleRate, hr.inputSampleRate]
    exact (hrescale.toInt32_rescale_le_iff (by decide) (by decide) (by decide) (by decide)
      (by decide) (by decide)).mpr (by decide)
  have hwritten := k.length_written r.context (r.spaceFor E.platform.av 441)
    (firstN samples 441)
  rw [hr.options] at hwritten
  have hlayout : r.options.outChannelLayout.channels = E.kChannelNum.toInt.toNat := by
    show (AudioResampler.channelLayout r.outputChannelNum).channels = E.kChannelNum.toInt.toNat
    rw [hr.outputChannelNum]
    rcases hchannels with h | h
    · rw [h]
      decide
    · rw [h]
      decide
  rw [hlayout] at hwritten
  simp only [AudioResampler.convertBlock, hlength]
  have hmono : (r.spaceFor E.platform.av 441).toNat * E.kChannelNum.toInt.toNat
      ≤ 160 * E.kChannelNum.toInt.toNat :=
    Nat.mul_le_mul_right _ (by omega)
  simp only [resampleBlock]
  omega

/-- The members after so many passes. -/
def passMembers (E : PlayoutSetup σ ρ α γ) (malloced : Nat → UInt8) (i : Nat)
    (r : AudioResampler ρ) (buffer : Nat → UInt8) : ResampleMembers ρ where
  resampler := some r
  reader := some (E.raw.drop (1764 * i))
  inputBuffer := some (inputMemory E malloced i)
  buffer := some buffer

theorem resampleBlock_fits (hchannels : E.kChannelNum = 1 ∨ E.kChannelNum = 2) :
    0 < resampleBlock E ∧ resampleBlock E ≤ mallocSize := by
  rcases hchannels with h | h
  · rw [resampleBlock, h]
    decide
  · rw [resampleBlock, h]
    decide

/-- **A pass** reads what there is, and resamples what there was or is. -/
theorem resampleSupply_next (hr : FromRaw E k r) (hrescale : E.platform.av.RescaleLaws)
    (hchannels : E.kChannelNum = 1 ∨ E.kChannelNum = 2) (malloced : Nat → UInt8) (i : Nat)
    (buffer : Nat → UInt8) :
    (resampleSupply E 1764 (resampleBlock E)).next (passMembers E malloced i r buffer) ()
      = .ok (passMembers E malloced (i + 1)
            (r.convertBlock E.platform.av (rawBlock E malloced i)).1
            (store buffer
              (pcmBytes (r.convertBlock E.platform.av (rawBlock E malloced i)).2.written)),
          (resampleBlock E : Int)) := by
  obtain ⟨resampled, hresample, hwritten⟩ :=
    hr.resample (E.samples (inputMemory E malloced (i + 1)))
  have hlength := hr.length_written hrescale hchannels
    (E.samples (inputMemory E malloced (i + 1)))
  obtain ⟨-, hfits⟩ := resampleBlock_fits hchannels
  have hroom : (pcmBytes (r.convertBlock E.platform.av
      (firstN (E.samples (inputMemory E malloced (i + 1))) 441)).2.written).length
        ≤ mallocSize := by
    rw [length_pcmBytes]
    omega
  have hsize : (1764 : Int).toNat = 1764 := rfl
  have hread : store (inputMemory E malloced i) ((E.raw.drop (1764 * i)).take 1764)
      = inputMemory E malloced (i + 1) := rfl
  have hrest : (E.raw.drop (1764 * i)).drop 1764 = E.raw.drop (1764 * (i + 1)) := by
    rw [List.drop_drop, Nat.mul_succ]
  simp only [resampleSupply, passMembers, Option.getD_some, hsize, hread, hresample, libraryCall,
    Except.mapError, require, decide_eq_true hroom, if_true, bind, Except.bind, pure, Except.pure,
    Option.map_some, hrest, hwritten]
  rfl

/-- **The supply lasts for ever.** -/
theorem resampleSupply_lasts (k : SwrContract E.platform.av) (hrescale : E.platform.av.RescaleLaws)
    (hchannels : E.kChannelNum = 1 ∨ E.kChannelNum = 2) (malloced : Nat → UInt8) :
    (resampleSupply E 1764 (resampleBlock E)).Lasts (resampleBlock E) fun _ members =>
      ∃ i r buffer, members = passMembers E malloced i r buffer ∧ FromRaw E k r where
  pos := (resampleBlock_fits hchannels).1
  fits := (resampleBlock_fits hchannels).2
  more := by
    intro j members ⟨i, r, buffer, hmembers, hr⟩
    subst hmembers
    have hnext := resampleSupply_next hr hrescale hchannels malloced i buffer
    exact ⟨_, _, fun _ => hnext, ⟨i + 1, _, _, rfl, hr.convertBlock _⟩, rfl, rfl⟩

/-- The blocks of a run of the supply are those of the specification. -/
theorem taken_of_resampleSupply (hrescale : E.platform.av.RescaleLaws)
    (hchannels : E.kChannelNum = 1 ∨ E.kChannelNum = 2) (malloced : Nat → UInt8) {n i : Nat}
    {buffer : Nat → UInt8} {members' : ResampleMembers ρ} {taken : List (List UInt8)}
    (hr : FromRaw E k r)
    (h : (resampleSupply E 1764 (resampleBlock E)).machine.run (passMembers E malloced i r buffer)
      (List.replicate n ()) = .ok (members', taken)) :
    taken = outputBlocks E.platform.av (resampleBlock E) r buffer
      ((List.range' i n).map (rawBlock E malloced)) := by
  induction n generalizing i r buffer taken with
  | zero =>
      cases h
      rfl
  | succ n ih =>
      rw [List.replicate_succ] at h
      obtain ⟨members₁, first, rest, hstep, hrest, rfl⟩ := Machine.of_run_cons h
      have hnext := resampleSupply_next hr hrescale hchannels malloced i buffer
      simp only [BlockSupply.machine, hnext] at hstep
      cases hstep
      rw [ih (hr.convertBlock _) hrest, List.range'_succ, List.map_cons, outputBlocks]
      rfl

end Supply

/-! ## The test -/

theorem tenMsSize_resampleTest (hchannels : E.kChannelNum = 1 ∨ E.kChannelNum = 2) :
    PlayoutController.tenMsSize 2 44100 = .ok 1764 ∧
      PlayoutController.tenMsSize E.kChannelNum 16000 = .ok (resampleBlock E : Int) := by
  refine ⟨by decide, ?_⟩
  rcases hchannels with h | h
  · rw [resampleBlock, h]
    decide
  · rw [resampleBlock, h]
    decide

/-- `wantedSize`, as `deliverResampledData` computes it. -/
theorem resampled_wantedSize {channelNum : Int32} {callback : PlayCallback} {size : Int}
    (hchannels : channelNum = 1 ∨ channelNum = 2) (hfits : callback.Fits channelNum)
    (hsize : callback.size channelNum = size) :
    ∃ frame, mulInt32 kBytesPerSample channelNum.toInt = .ok frame ∧
      mulInt32 frame callback.numFrames = .ok size := by
  have hframe : mulInt32 kBytesPerSample channelNum.toInt
      = .ok (kBytesPerSample * channelNum.toInt) := by
    rcases hchannels with h | h
    · rw [h]
      decide
    · rw [h]
      decide
  have hint := hfits.int
  rw [hsize] at hint
  have hsame : kBytesPerSample * channelNum.toInt * callback.numFrames = size := by
    rw [← hsize, PlayCallback.size, Int.mul_comm, Int.mul_comm kBytesPerSample, Int.mul_assoc]
  refine ⟨_, hframe, ?_⟩
  rw [← hsame] at hint ⊢
  exact mulInt32_of_fits hint

/-- The resampler test delivers from the file and the resampler. -/
def resampleTest (E : PlayoutSetup σ ρ α γ) (hchannels : E.kChannelNum = 1 ∨ E.kChannelNum = 2) :
    BlockTest E (resampleSupply E 1764 (resampleBlock E)) where
  Runs c := c.testType = .resample ∧ c.adm = some true ∧ c.channelNum = E.kChannelNum ∧
    c.sampleRate = 16000 ∧ c.resamplerInputSampleRate = 44100 ∧ c.resamplerInputChannelNum = 2
  members c :=
    { resampler := c.resampler, reader := c.resamplerReader
      inputBuffer := c.resamplerInputBuffer, buffer := c.buffer }
  fresh _ := ()
  put c d := { c with
    resampler := d.supply.resampler
    resamplerReader := d.supply.reader
    resamplerInputBuffer := d.supply.inputBuffer
    buffer := d.supply.buffer
    remainingData := d.remainingData }
  runs_put _ _ h := h
  members_put _ _ := rfl
  remaining_put _ _ := rfl
  step_eq c callback size h hfits hsize := by
    obtain ⟨htype, hadm, hchannel, hrate, hinputRate, hinputChannels⟩ := h
    obtain ⟨frame, hframe, hwanted⟩ := resampled_wantedSize hchannels hfits hsize
    obtain ⟨hinput, houtput⟩ := tenMsSize_resampleTest hchannels
    simp only [deviceMachine, if_pos hadm, PlayoutController.needMorePlayData, htype,
      PlayoutController.deliverResampledData, hchannel, hrate, hinputRate, hinputChannels, hframe,
      hinput, houtput]
    cases hd : deliver (resampleSupply E 1764 (resampleBlock E))
      { resampler := c.resampler, reader := c.resamplerReader
        inputBuffer := c.resamplerInputBuffer, buffer := c.buffer } c.remainingData size
      callback.buf () with
    | error fault =>
        simp only [libraryCall, Except.mapError, bind, Except.bind, hwanted, hd]
    | ok d =>
        simp only [libraryCall, Except.mapError, bind, Except.bind, hwanted, hd]
        rfl

/-- What `doResample` leaves. -/
theorem doResample_ok {c c₀ : PlayoutController σ ρ α γ} {malloced mallocedInput : Nat → UInt8}
    (hchannels : E.kChannelNum = 1 ∨ E.kChannelNum = 2) (hidle : c.testType = .none)
    (h : c.doResample E malloced mallocedInput true = .ok c₀) :
    (resampleTest E hchannels).Runs c₀ ∧ c₀.remainingData = 0 ∧ ∃ r, c₀.resampler = some r ∧
      (resampleTest E hchannels).members c₀ = passMembers E mallocedInput 0 r malloced ∧
      AudioResampler.create E.platform.av kOutputSampleFormat 44100 2 kOutputSampleFormat 16000
        E.kChannelNum.toInt = .ok r := by
  have hno : ¬ c.testType ≠ .none := fun hne => hne hidle
  simp only [PlayoutController.doResample, if_neg hno, bind_eq_ok, libraryCall_eq_ok] at h
  obtain ⟨r, hcreate, hret⟩ := h
  cases hret
  exact ⟨⟨rfl, rfl, rfl, rfl, rfl, rfl⟩, rfl, r, rfl, rfl, hcreate⟩

/-- **The resampler test never ends.** On both builds, for every library
that keeps the documented laws and every file, whatever tests ran before:
callbacks of any sizes never fail, each is filled, and together they hear
the blocks that the conversions leave in front of `_buffer`, from the
first on; no block is made before it is needed. Behind the end of the file
the last input is converted again and again. -/
theorem resample_test_plays (E : PlayoutSetup σ ρ α γ) (hrescale : E.platform.av.RescaleLaws)
    (k : SwrContract E.platform.av) (hchannels : E.kChannelNum = 1 ∨ E.kChannelNum = 2)
    (c c₀ : PlayoutController σ ρ α γ) (malloced mallocedInput : Nat → UInt8)
    (hidle : c.testType = .none) (h : c.doResample E malloced mallocedInput true = .ok c₀)
    (callbacks : List PlayCallback)
    (hfits : ∀ callback ∈ callbacks, callback.Fits E.kChannelNum) :
    ∃ r c' played n, c₀.resampler = some r ∧
      (deviceMachine E).run c₀ callbacks = .ok (c', played) ∧
      List.Forall₂ (PlayCallback.Filled E.kChannelNum) callbacks played ∧
      heard E.kChannelNum callbacks played
        = (outputBlocks E.platform.av (resampleBlock E) r malloced
            ((List.range n).map (rawBlock E mallocedInput))).flatten.take
              (requested E.kChannelNum callbacks).toNat ∧
      (n : Int) * resampleBlock E = requested E.kChannelNum callbacks + c'.remainingData ∧
      0 ≤ c'.remainingData ∧ c'.remainingData < resampleBlock E ∧
      ∀ i, E.raw.length ≤ 1764 * (i + 1) →
        rawBlock E mallocedInput (i + 1) = rawBlock E mallocedInput i := by
  obtain ⟨hruns, hzero, r, hresampler, hmembers, hcreate⟩ := doResample_ok hchannels hidle h
  have hr : FromRaw E k r := fromRaw_of_create hcreate
  have hlasts := resampleSupply_lasts k hrescale hchannels mallocedInput
  obtain ⟨j, henough⟩ := exists_enough hfits hlasts.pos
  obtain ⟨c', played, n, taken, hrun, hfilled, htaken, -, hheard, hcount, hnonneg, hshort⟩ :=
    (resampleTest E hchannels).start_serves hlasts () hruns hzero ⟨0, r, malloced, hmembers, hr⟩
      hfits henough
  rw [hmembers] at htaken
  have hblocks := taken_of_resampleSupply hrescale hchannels mallocedInput hr htaken
  rw [← List.range_eq_range'] at hblocks
  rw [hblocks] at hheard
  exact ⟨r, c', played, n, hresampler, hrun, hfilled, hheard, hcount, hnonneg, hshort,
    fun i hend => rawBlock_stays mallocedInput hend⟩

/-- An iPhone with a raw file of one block and a part of another. -/
def rawSetup : PlayoutSetup Slot SwrOptions UInt8 Unit :=
  { smallSetup with raw := List.replicate 2000 7 }

/-- Callbacks for 100 and 200 samples take two blocks. -/
theorem resample_test_plays_two_callbacks :
    ∃ c₀ r c' played,
      PlayoutController.init.doResample rawSetup (fun _ => 0) (fun _ => 9) true = .ok c₀ ∧
      c₀.resampler = some r ∧
      (deviceMachine rawSetup).run c₀ [playCallback 100, playCallback 200] = .ok (c', played) ∧
      heard 1 [playCallback 100, playCallback 200] played
        = (outputBlocks rawSetup.platform.av 320 r (fun _ => 0)
            ((List.range 2).map (rawBlock rawSetup fun _ => 9))).flatten.take 600 ∧
      c'.remainingData = 40 := by
  obtain ⟨c₀, hstart⟩ :
      ∃ c₀, PlayoutController.init.doResample rawSetup (fun _ => 0) (fun _ => 9) true = .ok c₀ :=
    ⟨_, rfl⟩
  obtain ⟨r, c', played, n, hresampler, hrun, -, hheard, hcount, hnonneg, hshort, -⟩ :=
    resample_test_plays rawSetup copyingAv_rescaleLaws copyingAvContract (.inl rfl)
      PlayoutController.init c₀ (fun _ => 0) (fun _ => 9) rfl hstart
      [playCallback 100, playCallback 200] fits_playCallbacks
  have hblock : resampleBlock rawSetup = 320 := by decide
  have hk : rawSetup.kChannelNum = 1 := rfl
  rw [hk, requested_playCallbacks, hblock] at hcount hheard
  rw [hblock] at hshort
  obtain rfl : n = 2 := by omega
  exact ⟨c₀, r, c', played, hstart, hresampler, hrun, hheard, by omega⟩

end L4AudioMixer.Ios
