/-
L4AudioMixer.Ios.DecodeTestTheorems — the decode test plays its file to
the end, and then fails.

`deliverAnyDecodedData` looks for the rest of a block behind 10 ms of
output, so its reads have to give 10 ms each. Then the source is a supply
that lasts for the blocks of the file (`sourceSupply_lasts`), and after
them it ends: what `Read` returns at the end of the file is taken for the
size of a copy. `decode_test_plays_file` is the account of every run of
callbacks: it hears the file, resampled, if it does not ask for more than
the file has, and makes an invalid copy otherwise.
-/
import L4AudioMixer.Ios.PlayoutTheorems
import L4AudioMixer.Ios.MixTestTheorems
import L4AudioMixer.Mixer.ProgressTheorems
import L4AudioMixer.Source.PlaybackTheorems

namespace L4AudioMixer.Ios

open L4AudioMixer.Lib
open L4AudioMixer.Libav
open L4AudioMixer.Source
open L4AudioMixer.Mixer
open L4AudioMixer.Decoder

variable {σ ρ α γ : Type} {P : Platform σ ρ α γ} {s s' : AudioFileSource σ ρ α}
  {r : AudioResampler ρ} {blocks : List (List α)} {block : List α} {b : Nat}

/-! ## A source that plays blocks -/

/-- The next results of `Read` are those of these blocks, of `b` bytes
each, and then the end of the file. -/
structure PlaysBlocks (P : Platform σ ρ α γ) (b : Nat) (s : AudioFileSource σ ρ α)
    (r : AudioResampler ρ) (blocks : List (List α)) : Prop where
  results : ∀ k, ∃ s', (readMachine P.av P.fuel).run s (List.replicate k ())
    = .ok (s', blockReads P.av k r blocks)
  sizes : ∀ reading ∈ blockReads P.av blocks.length r blocks,
    reading.ret = b ∧ 2 * reading.written.length = b

theorem PlaysBlocks.read (h : PlaysBlocks P b s r (block :: blocks)) :
    ∃ s', s.read P.av P.fuel = .ok (s', (r.convertBlock P.av block).2) ∧
      PlaysBlocks P b s' (r.convertBlock P.av block).1 blocks := by
  have hnext : ∀ k, blockReads P.av (k + 1) r (block :: blocks)
      = (r.convertBlock P.av block).2 :: blockReads P.av k (r.convertBlock P.av block).1 blocks :=
    fun _ => rfl
  obtain ⟨_, hfirst⟩ := h.results 1
  rw [hnext] at hfirst
  obtain ⟨s₁, result, rest, hread, -, hcons⟩ := Machine.of_run_cons hfirst
  cases hcons
  refine ⟨s₁, hread, fun k => ?_, fun reading hmem => h.sizes reading (List.mem_cons_of_mem _ hmem)⟩
  obtain ⟨t, hrun⟩ := h.results (k + 1)
  rw [hnext, List.replicate_succ] at hrun
  obtain ⟨s₂, result, rest, hread', hrest, hcons⟩ := Machine.of_run_cons hrun
  cases hcons
  cases hread.symm.trans hread'
  exact ⟨t, hrest⟩

theorem PlaysBlocks.read_end (h : PlaysBlocks P b s r []) :
    ∃ s', s.read P.av P.fuel
      = .ok (s', { ret := averrorEof, handed := none, written := [] }) := by
  obtain ⟨t, hrun⟩ := h.results 1
  obtain ⟨s₁, result, rest, hread, -, hcons⟩ := Machine.of_run_cons hrun
  cases hcons
  exact ⟨s₁, hread⟩

theorem PlaysBlocks.size (h : PlaysBlocks P b s r (block :: blocks)) :
    (r.convertBlock P.av block).2.ret = b ∧
      2 * (r.convertBlock P.av block).2.written.length = b :=
  h.sizes _ (List.mem_cons_self ..)

/-! ## The supply -/

/-- The members of a running decode test, with so many blocks to come. -/
def DecodeReady (P : Platform σ ρ α γ) (b j : Nat)
    (members : Option (AudioFileSource σ ρ α) × Option (Nat → UInt8)) : Prop :=
  ∃ s buffer r blocks, members = (some s, some buffer) ∧ PlaysBlocks P b s r blocks ∧
    blocks.length = j

/-- **A pass reads one block** into the buffer. -/
theorem sourceSupply_next (h : PlaysBlocks P b s r (block :: blocks)) (hfits : b ≤ mallocSize)
    (size : Int) (buffer : Nat → UInt8) :
    ∃ s', (sourceSupply P size).next (some s, some buffer) ()
        = .ok ((some s', some (store buffer (pcmBytes (r.convertBlock P.av block).2.written))),
            (b : Int)) ∧
      PlaysBlocks P b s' (r.convertBlock P.av block).1 blocks := by
  obtain ⟨s', hread, hs'⟩ := h.read
  obtain ⟨hret, hwritten⟩ := h.size
  have hroom : (pcmBytes (r.convertBlock P.av block).2.written).length ≤ mallocSize := by
    rw [length_pcmBytes]
    omega
  refine ⟨s', ?_, hs'⟩
  simp only [sourceSupply, hread, libraryCall, Except.mapError, require, decide_eq_true hroom,
    if_true, bind, Except.bind, pure, Except.pure, hret]

/-- **The source lasts for the blocks of its file.** -/
theorem sourceSupply_lasts (hpos : 0 < b) (hfits : b ≤ mallocSize) :
    (sourceSupply P b).Lasts b (DecodeReady P b) where
  pos := hpos
  fits := hfits
  more := by
    intro j members ⟨s, buffer, r, blocks, hmembers, hs, hlength⟩
    cases blocks with
    | nil => simp at hlength
    | cons block blocks =>
        subst hmembers
        obtain ⟨s', hnext, hs'⟩ := sourceSupply_next hs hfits b buffer
        exact ⟨_, _, fun _ => hnext, ⟨s', _, _, blocks, rfl, hs', by simpa using hlength⟩, rfl, rfl⟩

/-- After them, `Read` returns `AVERROR_EOF`. -/
theorem sourceSupply_ends : (sourceSupply P b).Ends (DecodeReady P b) := by
  intro members uninit ⟨s, buffer, r, blocks, hmembers, hs, hlength⟩
  cases List.length_eq_zero_iff.mp hlength
  subst hmembers
  obtain ⟨s', hread⟩ := hs.read_end
  refine ⟨(some s', some (store buffer (pcmBytes []))), averrorEof, store buffer (pcmBytes []),
    ?_, by decide, rfl⟩
  have hroom : (pcmBytes []).length ≤ mallocSize := Nat.zero_le _
  simp only [sourceSupply, hread, libraryCall, Except.mapError, require, decide_eq_true hroom,
    if_true, bind, Except.bind, pure, Except.pure]

/-- What is heard of these blocks. -/
def playedBytes (P : Platform σ ρ α γ) (r : AudioResampler ρ) (blocks : List (List α)) :
    List UInt8 :=
  (blockReads P.av blocks.length r blocks).flatMap fun reading => pcmBytes reading.written

theorem playedBytes_cons (P : Platform σ ρ α γ) (r : AudioResampler ρ) (block : List α)
    (blocks : List (List α)) :
    playedBytes P r (block :: blocks)
      = pcmBytes (r.convertBlock P.av block).2.written
        ++ playedBytes P (r.convertBlock P.av block).1 blocks :=
  rfl

/-- A run of the supply takes these bytes from the front. -/
theorem taken_of_supply (hfits : b ≤ mallocSize) {k : Nat}
    {members members' : Option (AudioFileSource σ ρ α) × Option (Nat → UInt8)}
    {taken : List (List UInt8)} {buffer : Nat → UInt8} (hmembers : members = (some s, some buffer))
    (hs : PlaysBlocks P b s r blocks) (hk : k ≤ blocks.length)
    (h : (sourceSupply P b).machine.run members (List.replicate k ()) = .ok (members', taken)) :
    ∃ later, playedBytes P r blocks = taken.flatten ++ later := by
  induction k generalizing s r blocks members taken buffer with
  | zero =>
      cases h
      exact ⟨_, rfl⟩
  | succ k ih =>
      cases blocks with
      | nil => simp at hk
      | cons block blocks =>
          subst hmembers
          rw [List.replicate_succ] at h
          obtain ⟨members₁, first, rest, hstep, hrest, rfl⟩ := Machine.of_run_cons h
          obtain ⟨s', hnext, hs'⟩ := sourceSupply_next hs hfits b buffer
          simp only [BlockSupply.machine, hnext] at hstep
          cases hstep
          obtain ⟨later, hlater⟩ := ih rfl hs' (by simpa using hk) hrest
          have hlength : (pcmBytes (r.convertBlock P.av block).2.written).length = b := by
            rw [length_pcmBytes]
            exact hs.size.2
          have hfirst : firstN (store buffer (pcmBytes (r.convertBlock P.av block).2.written))
              (b : Int).toNat = pcmBytes (r.convertBlock P.av block).2.written := by
            rw [Int.toNat_natCast, ← hlength, firstN_store]
          refine ⟨later, ?_⟩
          rw [playedBytes_cons, hlater, List.flatten_cons, hfirst, List.append_assoc]

/-! ## The test -/

section Test

variable {E : PlayoutSetup σ ρ α γ}

/-- The bytes of 10 ms at 48 kHz. -/
def decodeBlock (E : PlayoutSetup σ ρ α γ) : Nat := 960 * E.kChannelNum.toInt.toNat

theorem tenMsSize_decodeTest (hchannels : E.kChannelNum = 1 ∨ E.kChannelNum = 2) :
    PlayoutController.tenMsSize E.kChannelNum 48000 = .ok (decodeBlock E : Int) := by
  rcases hchannels with h | h
  · rw [decodeBlock, h]
    decide
  · rw [decodeBlock, h]
    decide

theorem decodeBlock_fits (hchannels : E.kChannelNum = 1 ∨ E.kChannelNum = 2) :
    0 < decodeBlock E ∧ decodeBlock E ≤ mallocSize := by
  rcases hchannels with h | h
  · rw [decodeBlock, h]
    decide
  · rw [decodeBlock, h]
    decide

/-- The decode test delivers from the source. -/
def decodeTest (E : PlayoutSetup σ ρ α γ) (hchannels : E.kChannelNum = 1 ∨ E.kChannelNum = 2) :
    BlockTest E (sourceSupply E.platform (decodeBlock E)) where
  Runs c := c.testType = .decodeAny ∧ c.adm = some true ∧ c.channelNum = E.kChannelNum ∧
    c.sampleRate = 48000
  members c := (c.source, c.buffer)
  fresh _ := ()
  put c d := { c with
    source := d.supply.1, buffer := d.supply.2, remainingData := d.remainingData }
  runs_put _ _ h := h
  members_put _ _ := rfl
  remaining_put _ _ := rfl
  step_eq c callback size h hfits hsize := by
    obtain ⟨htype, hadm, hchannel, hrate⟩ := h
    have hwanted := wantedSize_of_fits hchannel hfits hsize
    have hblock := tenMsSize_decodeTest hchannels
    simp only [deviceMachine, if_pos hadm, PlayoutController.needMorePlayData, htype,
      PlayoutController.deliverAnyDecodedData, hwanted, hchannel, hrate, hblock]
    cases hd : deliver (sourceSupply E.platform (decodeBlock E)) (c.source, c.buffer)
      c.remainingData size callback.buf () with
    | error fault =>
        simp only [libraryCall, Except.mapError, bind, Except.bind, hd]
    | ok d =>
        simp only [libraryCall, Except.mapError, bind, Except.bind, hd]
        rfl

/-- What `doDecodeAny` leaves. -/
theorem doDecodeAny_ok {c c₀ : PlayoutController σ ρ α γ} {malloced : Nat → UInt8}
    (hchannels : E.kChannelNum = 1 ∨ E.kChannelNum = 2) (hidle : c.testType = .none)
    (h : c.doDecodeAny E malloced true = .ok c₀) :
    (decodeTest E hchannels).Runs c₀ ∧ c₀.remainingData = 0 ∧ ∃ s,
      (decodeTest E hchannels).members c₀ = (some s, some malloced) ∧
      AudioFileSource.create E.platform.av E.platform.fuel 1
        (E.platform.files (E.pathForFileName "morning-48k.mp3")) 48000 E.kChannelNum.toInt 10 1
          = .ok s := by
  have hno : ¬ c.testType ≠ .none := fun hne => hne hidle
  simp only [PlayoutController.doDecodeAny, if_neg hno, bind_eq_ok, libraryCall_eq_ok] at h
  obtain ⟨s, hcreate, hret⟩ := h
  cases hret
  exact ⟨⟨rfl, rfl, rfl, rfl⟩, rfl, s, rfl, hcreate⟩

/-- **The decode test plays its file to the end, and then fails.** On both
builds, for every file of packets of two-byte samples and every codec that
keeps the documented contract, whatever tests ran before: if every `Read`
returns, the decoder is supplied in front of each that has a full block to
give, and each block of the file gives 10 ms, callbacks of any sizes that
ask for no more than the file has are all filled, and together they hear
the decoded stream from its start, resampled; no block is read before it
is needed. Callbacks that ask for more end in a copy of `AVERROR_EOF`
bytes. -/
theorem decode_test_plays_file (E : PlayoutSetup σ ρ α γ) (hav : E.platform.av.Documented)
    (hchannels : E.kChannelNum = 1 ∨ E.kChannelNum = 2) (file : MediaFile σ α)
    (hpath : E.platform.files (E.pathForFileName "morning-48k.mp3") = file)
    (packets : List AVPacket) (hfile : file.formatContext = packets.map .packet)
    (feeding : σ → Prop) (hk : ObeysContract file.codec feeding) (hc : feeding file.codecContext)
    (hfmt : file.sampleFormat.bytesPerSample = 2) (S : List α)
    (hS : DecodesTo file.codec file.codecContext (ownPackets file.findBestStream packets) S)
    (c c₀ : PlayoutController σ ρ α γ) (malloced : Nat → UInt8) (hidle : c.testType = .none)
    (h : c.doDecodeAny E malloced true = .ok c₀) :
    ∃ s, c₀.source = some s ∧
      (KeepsReading E.platform s →
        SuppliedThroughout E.platform.av s (S.length / s.inputSamples.toNat) →
        (∀ reading ∈ blockReads E.platform.av (S.length / s.inputSamples.toNat) s.resampler
            (wholeBlocks s.inputSamples.toNat S),
          reading.ret = decodeBlock E ∧ 2 * reading.written.length = decodeBlock E) →
        ∀ callbacks, (∀ callback ∈ callbacks, callback.Fits E.kChannelNum) →
          (requested E.kChannelNum callbacks
              ≤ (S.length / s.inputSamples.toNat : Nat) * decodeBlock E →
            ∃ c' played k, (deviceMachine E).run c₀ callbacks = .ok (c', played) ∧
              List.Forall₂ (PlayCallback.Filled E.kChannelNum) callbacks played ∧
              heard E.kChannelNum callbacks played
                = (playedBytes E.platform s.resampler (wholeBlocks s.inputSamples.toNat S)).take
                    (requested E.kChannelNum callbacks).toNat ∧
              (k : Int) * decodeBlock E = requested E.kChannelNum callbacks + c'.remainingData ∧
              0 ≤ c'.remainingData ∧ c'.remainingData < decodeBlock E) ∧
          ((S.length / s.inputSamples.toNat : Nat) * decodeBlock E
              < requested E.kChannelNum callbacks →
            (deviceMachine E).run c₀ callbacks = .error (.fault .invalidCopy))) := by
  subst hpath
  obtain ⟨hruns, hzero, s, hmembers, hcreate⟩ := doDecodeAny_ok hchannels hidle h
  have hsource : c₀.source = some s := congrArg Prod.fst hmembers
  refine ⟨s, hsource, fun hreads hsup hblocks callbacks hfits => ?_⟩
  -- under the bound of the platform the reads are those of the stream
  have hlength : (wholeBlocks s.inputSamples.toNat S).length = S.length / s.inputSamples.toNat := by
    simp only [wholeBlocks, List.length_map, List.length_range]
  have hplays : PlaysBlocks E.platform (decodeBlock E) s s.resampler
      (wholeBlocks s.inputSamples.toNat S) := by
    refine ⟨fun k => ?_, by rw [hlength]; exact hblocks⟩
    obtain ⟨⟨t, results⟩, hrun⟩ := hreads k
    obtain ⟨hinv, hstart⟩ := deliveryInvariant_of_create
      (c := { ssrc := 1, outputSampleRate := 48000, outputChannelNum := E.kChannelNum.toInt
              frameDurationMs := 10 }) hav hfile hk hc hcreate
    obtain ⟨t', ht'⟩ := reads_play (by rw [hfile, packetsOf_map_packet]; exact hS) hav hfmt hk k
      hinv (by rw [hstart]; rfl) hsup
    obtain ⟨-, rfl⟩ := (reads_of_run hrun).unique ht'
    exact ⟨t, hrun⟩
  obtain ⟨hpos, hroom⟩ := decodeBlock_fits hchannels
  have hlasts := sourceSupply_lasts (P := E.platform) hpos hroom
  have hready : DecodeReady E.platform (decodeBlock E) (S.length / s.inputSamples.toNat)
      ((decodeTest E hchannels).members c₀) := ⟨s, malloced, _, _, hmembers, hplays, hlength⟩
  constructor
  · intro henough
    obtain ⟨c', played, k, taken, hrun, hfilled, htaken, hle, hheard, hcount⟩ :=
      (decodeTest E hchannels).start_serves hlasts () hruns hzero hready hfits henough
    obtain ⟨later, hlater⟩ := taken_of_supply hroom hmembers hplays (by omega) htaken
    refine ⟨c', played, k, hrun, hfilled, ?_, hcount⟩
    -- what was taken suffices for what was heard
    have hlength := length_heard hfits hfilled
    rw [hheard, List.length_take] at hlength
    rw [hheard, hlater, List.take_append_of_le_length (by omega)]
  · intro hshort
    have hholds : Holds (sourceSupply E.platform (decodeBlock E)) (decodeBlock E)
        ((decodeTest E hchannels).members c₀) c₀.remainingData := by
      rw [hzero]
      exact ⟨Int.le_refl 0, by omega, fun h => by omega⟩
    exact (decodeTest E hchannels).run_fails hlasts sourceSupply_ends hruns hholds hready hfits
      (by omega) ()

end Test

/-! ## Two callbacks -/

/-- An iPhone whose files are one packet of 10 ms at 48 kHz. -/
def fileSetup : PlayoutSetup Slot SwrOptions UInt8 Unit :=
  { smallSetup with
    platform := { copyingPlatform .lp64 with
      files := fun _ =>
        { slotFile [.packet ⟨0, List.replicate 480 5⟩] with sampleRate := 48000 } } }

set_option maxRecDepth 4000 in
/-- The file is opened, its block gives 10 ms, and the first `Read` takes
the packet. -/
theorem opened_fileSetup : ∃ c₀ s,
    PlayoutController.init.doDecodeAny fileSetup (fun _ => 0) true = .ok c₀ ∧
    c₀.source = some s ∧ s.inputSamples = 480 ∧ Supplied 480 s.decoder ∧
    (blockReads fileSetup.platform.av 1 s.resampler [List.replicate 480 5]).map
      (fun reading => (reading.ret, reading.written.length)) = [(960, 480)] ∧
    KeepsReading fileSetup.platform s := by
  obtain ⟨c₀, s₀, s₁, result, hopen, hsource, hcount, hsupplied, hblock, hread, hchannels, hsamples,
    hformat, hunread, hconsumed, hempty, hcodec, hframe⟩ :
      ∃ c₀ s₀ s₁ result,
        PlayoutController.init.doDecodeAny fileSetup (fun _ => 0) true = .ok c₀ ∧
        c₀.source = some s₀ ∧ s₀.inputSamples = 480 ∧ Supplied 480 s₀.decoder ∧
        (blockReads fileSetup.platform.av 1 s₀.resampler [List.replicate 480 5]).map
          (fun reading => (reading.ret, reading.written.length)) = [(960, 480)] ∧
        s₀.read fileSetup.platform.av fileSetup.platform.fuel = .ok (s₁, result) ∧
        s₁.inputChannelNum = 1 ∧ s₁.inputSamples = 480 ∧ s₁.inputFormat = .s16 ∧
        s₁.decoder.formatContext = [] ∧ s₁.decoder.packetConsumed = true ∧
        s₁.decoder.fifo = [] ∧ s₁.decoder.codec = slotCodec ∧
        s₁.decoder.codecContext.frame = none :=
    ⟨_, _, _, _, rfl, rfl, rfl, .frame (by decide) rfl (.enough (by decide)), rfl, rfl, rfl, rfl,
      rfl, rfl, rfl, rfl, rfl, rfl⟩
  have hfull : fullSize fileSetup.platform.av s₁ = 960 := by
    rw [fullSize, hchannels, hsamples, hformat]
    rfl
  have hrest : KeepsReading fileSetup.platform s₁ :=
    keepsReading_of_slotCodec hunread hconsumed hempty hcodec hframe (by omega) (by omega)
      (by decide)
  exact ⟨c₀, s₀, hopen, hsource, hcount, hsupplied, hblock, hrest.of_read hread⟩

/-- Callbacks for 100 and 200 samples hear 600 of the 960 bytes; a
callback for 481 samples fails. -/
theorem decode_test_plays_file_one_block :
    ∃ c₀ s c' played,
      PlayoutController.init.doDecodeAny fileSetup (fun _ => 0) true = .ok c₀ ∧
      c₀.source = some s ∧
      (deviceMachine fileSetup).run c₀ [playCallback 100, playCallback 200] = .ok (c', played) ∧
      heard 1 [playCallback 100, playCallback 200] played
        = (playedBytes fileSetup.platform s.resampler [List.replicate 480 5]).take 600 ∧
      c'.remainingData = 360 ∧
      (deviceMachine fileSetup).run c₀ [playCallback 481] = .error (.fault .invalidCopy) := by
  obtain ⟨c₀, s₀, hopen, hsource₀, hcount, hsupplied, hblock, hreads⟩ := opened_fileSetup
  have hdecodes : DecodesTo slotCodec {} [⟨0, List.replicate 480 5⟩] (List.replicate 480 5) := by
    simpa only [List.flatMap_cons, List.flatMap_nil, List.append_nil] using
      slotCodec_decodesTo [⟨0, List.replicate 480 5⟩]
  obtain ⟨s, hsource, hplays⟩ := decode_test_plays_file fileSetup copyingAv_documented (.inl rfl)
    { slotFile [.packet ⟨0, List.replicate 480 5⟩] with sampleRate := 48000 } rfl
    [⟨0, List.replicate 480 5⟩] rfl slotFeeding slotCodec_obeysContract ⟨rfl, by decide⟩ rfl
    (List.replicate 480 5) hdecodes PlayoutController.init c₀ (fun _ => 0) rfl hopen
  cases hsource₀.symm.trans hsource
  have hn : s₀.inputSamples.toNat = 480 := by rw [hcount]; rfl
  have hlength : (List.replicate 480 (5 : UInt8)).length = 480 := List.length_replicate
  have hwhole : wholeBlocks 480 (List.replicate 480 (5 : UInt8)) = [List.replicate 480 5] := by
    have hone := wholeBlocks_block_append (n := 480) (by decide) hlength []
    rw [List.append_nil] at hone
    rw [hone, wholeBlocks_of_lt (by simp)]
  have hchannel : fileSetup.kChannelNum = 1 := rfl
  have hsize : decodeBlock fileSetup = 960 := by decide
  rw [hn, hlength, hwhole, hsize, hchannel] at hplays
  have hsup : SuppliedThroughout fileSetup.platform.av s₀ (480 / 480) := by
    intro i hi s' replies hreads'
    obtain rfl : i = 0 := by omega
    obtain ⟨rfl, -⟩ := hreads'.unique ⟨0, fun _ _ => rfl⟩
    rw [hcount]
    exact hsupplied
  have htenMs : ∀ reading ∈ blockReads fileSetup.platform.av (480 / 480) s₀.resampler
      [List.replicate 480 5],
      reading.ret = (960 : Nat) ∧ 2 * reading.written.length = 960 := by
    intro reading hmem
    have hpair := List.mem_map_of_mem (f := fun reading : ReadResult UInt8 =>
      (reading.ret, reading.written.length)) hmem
    rw [hblock, List.mem_singleton, Prod.mk.injEq] at hpair
    exact ⟨hpair.1, by rw [hpair.2]⟩
  have hheard := hplays hreads hsup htenMs
  obtain ⟨c', played, k, hrun, -, hbytes, hblocks, hnonneg, hshort⟩ :=
    (hheard [playCallback 100, playCallback 200] fits_playCallbacks).1 (by decide)
  rw [requested_playCallbacks] at hbytes hblocks
  have hfails := (hheard [playCallback 481] (by
    intro callback hcallback
    rw [List.mem_singleton] at hcallback
    subst hcallback
    exact ⟨by decide, by decide⟩)).2 (by decide)
  exact ⟨c₀, s₀, c', played, hopen, hsource, hrun, hbytes, by omega, hfails⟩

end L4AudioMixer.Ios
