/-
L4AudioMixer.Source.FileDeliveryTheorems — when `AudioFileSource::Read`
delivers a file.

`Read` makes one round of the decoder and takes what the FIFO then holds.
A round that brings fewer than `input_samples_` samples is reported as
the end of the file and its samples are gone, whether or not more of the
stream is to come; and no flush packet is ever sent, so what a codec keeps
back for it never arrives. `read_hands_blocks_iff` says exactly when a
whole run of `Read` calls is right: when in front of every call that has
a full block to give, the decoder is supplied with one (`Supplied`).

`read_round` is the step lemma: one call from a state of
`DeliveryInvariant`. The run lemma `exists_reads` chains it.
-/
import L4AudioMixer.Source.FileSourceTheorems

namespace L4AudioMixer.Source

open L4AudioMixer.Lib
open L4AudioMixer.Libav
open L4AudioMixer.Decoder

variable {σ ρ α : Type}

/-- A file source as a machine that takes `Read` calls. -/
def readMachine (av : LibAv ρ α) (fuel : Nat) :
    Machine (AudioFileSource σ ρ α) Unit (ReadResult α) Fault where
  step s _ := s.read av fuel

/-- `k` calls of `Read` from `s` return, and end in `s'` with `replies`. -/
def Reads (av : LibAv ρ α) (s : AudioFileSource σ ρ α) (k : Nat) (s' : AudioFileSource σ ρ α)
    (replies : List (ReadResult α)) : Prop :=
  ∃ bound, ∀ fuel, bound ≤ fuel →
    (readMachine av fuel).run s (List.replicate k ()) = .ok (s', replies)

/-- The replies to be expected for a stream `S` read in blocks of `n`:
the first `S.length / n` calls hand over the consecutive blocks, and only
later calls report the end of the file. -/
def HandsBlocks (n : Nat) (S : List α) (replies : List (ReadResult α)) : Prop :=
  ∀ i reply, replies[i]? = some reply →
    (i < S.length / n → reply.handed = some ((S.drop (i * n)).take n)) ∧
    (reply.ret = averrorEof → S.length / n ≤ i)

theorem Reads.unique {av : LibAv ρ α} {s s₁ s₂ : AudioFileSource σ ρ α} {k : Nat}
    {out₁ out₂ : List (ReadResult α)} (h₁ : Reads av s k s₁ out₁) (h₂ : Reads av s k s₂ out₂) :
    s₁ = s₂ ∧ out₁ = out₂ := by
  obtain ⟨b₁, hb₁⟩ := h₁
  obtain ⟨b₂, hb₂⟩ := h₂
  have hrun := (hb₁ (max b₁ b₂) (by omega)).symm.trans (hb₂ (max b₁ b₂) (by omega))
  cases hrun
  exact ⟨rfl, rfl⟩

theorem Reads.succ {av : LibAv ρ α} {s s' s'' : AudioFileSource σ ρ α} {k bound : Nat}
    {replies : List (ReadResult α)} {reply : ReadResult α} (h : Reads av s k s' replies)
    (hread : ∀ fuel, bound ≤ fuel → s'.read av fuel = .ok (s'', reply)) :
    Reads av s (k + 1) s'' (replies ++ [reply]) := by
  obtain ⟨b, hb⟩ := h
  refine ⟨max b bound, fun fuel hle => ?_⟩
  rw [List.replicate_succ']
  have hstep : (readMachine av fuel).run s' [()] = .ok (s'', [reply]) :=
    Machine.run_cons (hread fuel (by omega)) rfl
  exact Machine.run_append (hb fuel (by omega)) hstep

/-! ## One call -/

/-- What holds of a file source between two `Read` calls. -/
structure DeliveryInvariant (av : LibAv ρ α) (file : MediaFile σ α) (feeding : σ → Prop)
    (c : SourceSettings) (n : Nat) (s : AudioFileSource σ ρ α) : Prop where
  built : Built av file c s
  stream : StreamInvariant file feeding s.decoder
  samples : s.inputSamples = n

section

variable {av : LibAv ρ α} {file : MediaFile σ α} {feeding : σ → Prop} {c : SourceSettings}
  {n : Nat} {s : AudioFileSource σ ρ α}

/-- A full block of a 2-byte format: its size in bytes. -/
theorem DeliveryInvariant.fullSize_eq (hs : DeliveryInvariant av file feeding c n s)
    (hav : av.Documented) (hfmt : file.sampleFormat.bytesPerSample = 2) :
    0 < file.channels ∧ 0 < n ∧ fullSize av s = n * 2 * file.channels := by
  obtain ⟨hchannels, hsamples, hsize⟩ := hs.built.fullSize_eq hav
  rw [hs.samples] at hsamples
  refine ⟨hchannels, by omega, ?_⟩
  rw [hsize, hs.samples, hfmt, Int.mul_comm file.channels, Int.mul_right_comm]

/-- **One `Read`**: it returns and takes samples from the front of the
FIFO; supplied with a full block it hands that block over, and otherwise
it reports the end of the file. -/
theorem read_round (hav : av.Documented) (hfmt : file.sampleFormat.bytesPerSample = 2)
    (hk : ObeysContract file.codec feeding) (hs : DeliveryInvariant av file feeding c n s) :
    ∃ s' reply bound taken,
      (∀ fuel, bound ≤ fuel → s.read av fuel = .ok (s', reply)) ∧
      DeliveryInvariant av file feeding c n s' ∧
      s'.decoder.log.delivered = s.decoder.log.delivered ++ taken ∧
      (Supplied n s.decoder → taken.length = n ∧ reply.handed = some taken ∧
        reply.ret ≠ averrorEof) ∧
      (¬ Supplied n s.decoder → reply.handed = none) := by
  obtain ⟨hchannels, -, hfull⟩ := hs.fullSize_eq hav hfmt
  obtain ⟨d', taken, bound, hstream, hdelivered, hcons, hle, hsupplied⟩ :=
    consume_block hk hs.stream n
  rw [hs.built.decoder.channels, ← hs.samples] at hcons
  by_cases hsup : Supplied n s.decoder
  · -- a full block: the size matches and the resampler finds the block
    have hlen : taken.length = n := hsupplied.mpr hsup
    obtain ⟨r', resampled, hres, hinput⟩ :=
      hs.built.resample_full hav (store s.inputBuffer taken)
    have hret : resampled.ret ≠ averrorEof := ret_ne_averrorEof hav hres
    have hblock : resampled.input = taken := by
      rw [hinput, hs.samples, Int.toNat_natCast, ← hlen]
      exact firstN_store s.inputBuffer taken
    have hread : ∀ fuel, bound ≤ fuel → s.read av fuel = .ok
        ({ afterConsume s d' ⟨taken.length * 2 * file.channels, taken⟩ with resampler := r' },
          { ret := resampled.ret, handed := some resampled.input
            written := resampled.written }) := by
      intro fuel hfuel
      have hsize : (taken.length : Int) * 2 * file.channels = fullSize av s := by rw [hfull, hlen]
      rw [read_full (hcons fuel hfuel) hsize, hsize, hres]
      rfl
    refine ⟨_, _, bound, taken, hread, ?_, hdelivered, ?_, ?_⟩
    · exact ⟨hs.built.read (hread bound le_rfl), hstream, hs.samples⟩
    · intro _
      exact ⟨hlen, congrArg some hblock, hret⟩
    · intro hno
      exact absurd hsup hno
  · -- a short block: its size is that of fewer samples
    have hlen : taken.length ≠ n := fun heq => hsup (hsupplied.mp heq)
    have hshort : (taken.length : Int) * 2 * file.channels ≠ fullSize av s := by
      rw [hfull]
      intro heq
      have hsame := Int.eq_of_mul_eq_mul_right (by omega) heq
      omega
    have hread : ∀ fuel, bound ≤ fuel → s.read av fuel = .ok
        (afterConsume s d' ⟨taken.length * 2 * file.channels, taken⟩,
          { ret := averrorEof, handed := none, written := [] }) := by
      intro fuel hfuel
      exact read_short (hcons fuel hfuel) hshort
    refine ⟨_, _, bound, taken, hread, ?_, hdelivered, ?_, ?_⟩
    · exact ⟨hs.built.read (hread bound le_rfl), hstream, hs.samples⟩
    · intro hyes
      exact absurd hyes hsup
    · intro _
      rfl

/-! ## Runs -/

theorem HandsBlocks.snoc {S : List α} {replies : List (ReadResult α)} {reply : ReadResult α}
    (h : HandsBlocks n S replies)
    (hlast : (replies.length < S.length / n →
        reply.handed = some ((S.drop (replies.length * n)).take n)) ∧
      (reply.ret = averrorEof → S.length / n ≤ replies.length)) :
    HandsBlocks n S (replies ++ [reply]) := by
  intro i r hr
  rcases Nat.lt_trichotomy i replies.length with hi | hi | hi
  · rw [List.getElem?_append_left hi] at hr
    exact h i r hr
  · subst hi
    rw [List.getElem?_concat_length] at hr
    cases hr
    exact hlast
  · rw [List.getElem?_eq_none (by simp only [List.length_append, List.length_singleton]; omega)]
      at hr
    cases hr

theorem Reads.length_eq {s' : AudioFileSource σ ρ α} {k : Nat} {replies : List (ReadResult α)}
    (h : Reads av s k s' replies) : replies.length = k := by
  obtain ⟨bound, hb⟩ := h
  rw [Machine.length_of_run (hb bound le_rfl), List.length_replicate]

/-- Any number of calls returns and keeps the invariant. -/
theorem exists_reads (hav : av.Documented) (hfmt : file.sampleFormat.bytesPerSample = 2)
    (hk : ObeysContract file.codec feeding) (hs : DeliveryInvariant av file feeding c n s)
    (k : Nat) :
    ∃ s' replies, Reads av s k s' replies ∧ DeliveryInvariant av file feeding c n s' := by
  induction k with
  | zero => exact ⟨s, [], ⟨0, fun _ _ => rfl⟩, hs⟩
  | succ k ih =>
      obtain ⟨s', replies, hreads, hs'⟩ := ih
      obtain ⟨s'', reply, bound, _, hread, hs'', -⟩ := read_round hav hfmt hk hs'
      exact ⟨s'', replies ++ [reply], hreads.succ hread, hs''⟩

/-- What stands behind a prefix of the stream is its next block. -/
theorem take_drop_of_append {S taken rest : List α} {m : Nat}
    (h : S.take m ++ taken ++ rest = S) : (S.drop m).take taken.length = taken := by
  have hsplit : S.take m ++ (taken ++ rest) = S.take m ++ S.drop m := by
    rw [← List.append_assoc, h, List.take_append_drop]
  rw [← List.append_cancel_left hsplit, List.take_left]

variable {S : List α}
  (hS : DecodesTo file.codec file.codecContext
    (ownPackets file.findBestStream (packetsOf file.formatContext)) S)
include hS

/-- **A supplied run hands over the stream**, block by block. -/
theorem reads_hand_blocks (hav : av.Documented) (hfmt : file.sampleFormat.bytesPerSample = 2)
    (hk : ObeysContract file.codec feeding) (hs : DeliveryInvariant av file feeding c n s)
    (hstart : s.decoder.log.delivered = [])
    (hsup : ∀ i < S.length / n, ∀ s' replies, Reads av s i s' replies → Supplied n s'.decoder)
    (k : Nat) :
    ∃ s' replies, Reads av s k s' replies ∧ DeliveryInvariant av file feeding c n s' ∧
      (k ≤ S.length / n → s'.decoder.log.delivered = S.take (k * n)) ∧
      HandsBlocks n S replies := by
  induction k with
  | zero =>
      refine ⟨s, [], ⟨0, fun _ _ => rfl⟩, hs, ?_, ?_⟩
      · intro _
        simp [hstart]
      · intro i reply hr
        simp at hr
  | succ k ih =>
      obtain ⟨s', replies, hreads, hs', hdel, hblocks⟩ := ih
      obtain ⟨s'', reply, bound, taken, hread, hs'', hdel', hfull, -⟩ :=
        read_round hav hfmt hk hs'
      have hreads' := hreads.succ hread
      have hlen : replies.length = k := hreads.length_eq
      by_cases hlt : k < S.length / n
      · obtain ⟨htaken, hhanded, hret⟩ := hfull (hsup k hlt s' replies hreads)
        rw [hdel (by omega)] at hdel'
        -- the delivered samples and the FIFO are the front of the stream
        obtain ⟨T, hT⟩ := hs''.stream.received_prefix hk hS
        rw [← hs''.stream.conserved, hdel', List.append_assoc] at hT
        have hblock : (S.drop (k * n)).take n = taken := by
          have hnext := take_drop_of_append hT
          rwa [htaken] at hnext
        refine ⟨s'', replies ++ [reply], hreads', hs'', ?_, hblocks.snoc ?_⟩
        · intro _
          rw [hdel', Nat.succ_mul, List.take_add, hblock]
        · rw [hlen, hblock]
          exact ⟨fun _ => hhanded, fun hno => absurd hno hret⟩
      · refine ⟨s'', replies ++ [reply], hreads', hs'', ?_, hblocks.snoc ?_⟩
        · intro hle
          omega
        · rw [hlen]
          exact ⟨fun h => absurd h hlt, fun _ => by omega⟩

end

/-- The state after the constructor. -/
theorem deliveryInvariant_of_create {av : LibAv ρ α} {fuel : Nat} {file : MediaFile σ α}
    {feeding : σ → Prop} {c : SourceSettings} {volume : Float32} {s : AudioFileSource σ ρ α}
    {packets : List AVPacket} (hav : av.Documented)
    (hfile : file.formatContext = packets.map .packet) (hk : ObeysContract file.codec feeding)
    (hc : feeding file.codecContext)
    (h : AudioFileSource.create av fuel c.ssrc file c.outputSampleRate c.outputChannelNum
      c.frameDurationMs volume = .ok s) :
    DeliveryInvariant av file feeding c s.inputSamples.toNat s ∧
      s.decoder.log.delivered = [] := by
  have hbuilt : Built av file c s := built_of_create h
  obtain ⟨-, hsamples, -⟩ := hav.allocated _ _ _ hbuilt.allocated
  obtain ⟨-, hfill⟩ := decoder_create_ok (decoder_of_create h)
  have hinv : StreamInvariant file feeding s.decoder ∧ s.decoder.log.delivered = [] := by
    refine fillDecoder_preserves
      (fun d => StreamInvariant file feeding d ∧ d.log.delivered = []) ?_
      ⟨StreamInvariant.opened hfile hc _, rfl⟩ hfill
    intro d d' hstep hd
    refine ⟨hd.1.pumpStep hk hstep, ?_⟩
    cases hstep <;> exact hd.2
  exact ⟨⟨hbuilt, hinv.1, by omega⟩, hinv.2⟩

/-- **When `Read` delivers a file.** For every file of packets, every
codec that keeps the documented contract, a 2-byte format and every
source constructed on the file, with `n = input_samples_` and `S` the
decoded stream: every run of `Read` calls hands over the consecutive
blocks of `S` and reports the end of the file only after the last full
one, if and only if in front of each call that has a full block to give,
the decoder is supplied with `n` samples. -/
theorem read_hands_blocks_iff (av : LibAv ρ α) (hav : av.Documented) (file : MediaFile σ α)
    (packets : List AVPacket) (hfile : file.formatContext = packets.map .packet)
    (feeding : σ → Prop) (hk : ObeysContract file.codec feeding)
    (hc : feeding file.codecContext) (hfmt : file.sampleFormat.bytesPerSample = 2)
    (S : List α)
    (hS : DecodesTo file.codec file.codecContext (ownPackets file.findBestStream packets) S)
    (fuel : Nat) (c : SourceSettings) (volume : Float32) (s : AudioFileSource σ ρ α)
    (hs : AudioFileSource.create av fuel c.ssrc file c.outputSampleRate c.outputChannelNum
      c.frameDurationMs volume = .ok s) :
    (∀ k, ∃ s' replies, Reads av s k s' replies ∧
        HandsBlocks s.inputSamples.toNat S replies) ↔
      ∀ i < S.length / s.inputSamples.toNat, ∀ s' replies, Reads av s i s' replies →
        Supplied s.inputSamples s'.decoder := by
  obtain ⟨hinv, hstart⟩ := deliveryInvariant_of_create hav hfile hk hc hs
  have hn : ((s.inputSamples.toNat : Nat) : Int) = s.inputSamples := hinv.samples.symm
  have hS' : DecodesTo file.codec file.codecContext
      (ownPackets file.findBestStream (packetsOf file.formatContext)) S := by
    rw [hfile, packetsOf_map_packet]
    exact hS
  constructor
  · intro hruns i hi s' replies hreads
    -- the next call hands over a block, so it was supplied with one
    obtain ⟨t, out, ht, hinv'⟩ := exists_reads hav hfmt hk hinv i
    obtain ⟨rfl, rfl⟩ := hreads.unique ht
    obtain ⟨s'', reply, bound, _, hread, -, -, -, hempty⟩ := read_round hav hfmt hk hinv'
    obtain ⟨t', out', ht', hblocks⟩ := hruns (i + 1)
    obtain ⟨-, rfl⟩ := ht'.unique (hreads.succ hread)
    have hlast := (hblocks i reply (by
      rw [← hreads.length_eq, List.getElem?_concat_length])).1 hi
    by_contra hno
    rw [← hn] at hno
    rw [hempty hno] at hlast
    cases hlast
  · intro hsup k
    rw [← hn] at hsup
    simp only [Int.toNat_natCast] at hsup
    obtain ⟨s', replies, hreads, -, -, hblocks⟩ :=
      reads_hand_blocks hS' hav hfmt hk hinv hstart hsup k
    exact ⟨s', replies, hreads, hblocks⟩

/-! ### The codec with one slot -/

/-- The states of `slotCodec` before its flush packet. -/
def slotFeeding (c : Slot) : Prop := c.flushed = false ∧ c.frame ≠ some []

theorem slotCodec_obeysContract : ObeysContract slotCodec slotFeeding where
  send c p hc := by
    obtain ⟨flushed, frame⟩ := c
    obtain ⟨rfl, hframe⟩ := hc
    cases frame with
    | none =>
        refine ⟨_, ?_, .inl rfl⟩
        by_cases hp : p.data = [] <;> simp [slotFeeding, hp]
    | some xs => exact ⟨_, ⟨rfl, hframe⟩, .inr rfl⟩
  receive c hc := by
    obtain ⟨flushed, frame⟩ := c
    obtain ⟨rfl, hframe⟩ := hc
    cases frame with
    | none => exact ⟨_, ⟨rfl, by simp⟩, .inr rfl⟩
    | some xs => exact ⟨⟨false, none⟩, ⟨rfl, by simp⟩, .inl ⟨xs, by simpa using hframe, rfl⟩⟩
  frameAfterRefusal c c' p hc h := by
    obtain ⟨flushed, frame⟩ := c
    obtain ⟨rfl, hframe⟩ := hc
    cases frame with
    | none => simp [slotCodec] at h
    | some xs =>
        cases h
        exact ⟨xs, _, rfl⟩
  roomWithoutFrame c c' p hc h := by
    obtain ⟨flushed, frame⟩ := c
    obtain ⟨rfl, hframe⟩ := hc
    cases frame with
    | none =>
        cases h
        exact ⟨_, rfl⟩
    | some xs => simp [slotCodec] at h
  finite c _ := slotCodec_runsOutOfFrames c
  flush c hc := by
    obtain ⟨flushed, frame⟩ := c
    obtain ⟨rfl, hframe⟩ := hc
    cases frame with
    | none => exact ⟨⟨true, none⟩, [], rfl, .eof rfl⟩
    | some xs => exact ⟨⟨true, some xs⟩, xs ++ [], rfl, .frame rfl (.eof rfl)⟩

theorem slotCodec_drains {c : Slot} {T : List UInt8} (h : Drains slotCodec c T)
    (hc : c.flushed = true) : T = c.frame.getD [] := by
  induction h with
  | eof hr =>
      rename_i c c'
      cases hframe : c.frame with
      | none => rfl
      | some xs => simp [slotCodec, hframe] at hr
  | frame hr hrest ih =>
      rename_i c c' xs T
      cases hframe : c.frame with
      | none => simp [slotCodec, hframe, hc] at hr
      | some ys =>
          simp only [slotCodec, hframe, Prod.mk.injEq, ReceiveFrame.frame.injEq] at hr
          obtain ⟨rfl, rfl⟩ := hr
          rw [ih hc]
          simp

/-- Whatever the interleaving, `slotCodec` brings out the bytes of the
packets in order. -/
theorem slotCodec_yields {c : Slot} {ps : List AVPacket} {T : List UInt8}
    (h : Yields slotCodec c ps T) (hc : c.flushed = false) :
    T = c.frame.getD [] ++ ps.flatMap AVPacket.data := by
  induction h with
  | frame hr hrest ih =>
      rename_i c c' ps xs T
      cases hframe : c.frame with
      | none => simp [slotCodec, hframe, hc] at hr
      | some ys =>
          simp only [slotCodec, hframe, Prod.mk.injEq, ReceiveFrame.frame.injEq] at hr
          obtain ⟨rfl, rfl⟩ := hr
          rw [ih hc]
          simp
  | nothing hr hrest ih =>
      rename_i c c' ps T
      cases hframe : c.frame with
      | none =>
          simp only [slotCodec, hframe, Prod.mk.injEq] at hr
          obtain ⟨-, rfl⟩ := hr
          rw [ih hc, hframe]
      | some ys => simp [slotCodec, hframe] at hr
  | accepted hs hrest ih =>
      rename_i c c' p ps T
      cases hframe : c.frame with
      | none =>
          simp only [slotCodec, hframe, hc, Bool.false_eq_true, if_false, Prod.mk.injEq,
            true_and] at hs
          subst hs
          rw [ih rfl]
          by_cases hp : p.data = [] <;> simp [hp]
      | some ys => simp [slotCodec, hframe, hc] at hs
  | refused hs hrest ih =>
      rename_i c c' p ps T
      cases hframe : c.frame with
      | none => simp [slotCodec, hframe, hc] at hs
      | some ys =>
          simp only [slotCodec, hframe, hc, Bool.false_eq_true, if_false, Prod.mk.injEq,
            true_and] at hs
          subst hs
          rw [ih hc, hframe]
  | flushed hs h =>
      rename_i c c' T
      simp only [slotCodec, hc, Bool.false_eq_true, if_false, Prod.mk.injEq, true_and] at hs
      subst hs
      rw [slotCodec_drains h rfl]
      simp

theorem slotCodec_decodesTo (ps : List AVPacket) :
    DecodesTo slotCodec {} ps (ps.flatMap AVPacket.data) := by
  intro T
  constructor
  · intro h
    exact slotCodec_yields h rfl
  · rintro rfl
    obtain ⟨T, hT⟩ := slotCodec_obeysContract.exists_yields (c := {}) ps ⟨rfl, by simp⟩
    rw [slotCodec_yields hT rfl] at hT
    exact hT

/-- The library on mono 16-bit audio that needs no conversion. -/
def plainAv : LibAv Unit UInt8 where
  samplesGetBufferSize nbChannels nbSamples fmt align :=
    if 0 < nbChannels ∧ 0 < nbSamples ∧
        nbChannels * (nbSamples + 31) * fmt.bytesPerSample ≤ 2147483647 then
      if align = 0 then nbChannels * ((nbSamples + 31) / 32 * 32) * fmt.bytesPerSample
      else nbChannels * nbSamples * fmt.bytesPerSample
    else averrorEinval
  samplesAllocArrayAndSamples nbChannels nbSamples fmt _ :=
    if 0 < nbChannels ∧ 0 < nbSamples ∧
        nbChannels * (nbSamples + 31) * fmt.bytesPerSample ≤ 2147483647 then 0
    else averrorEinval
  freshSamples _ := 0
  rescaleRndUp a b c := -((-(a * b)) / c)
  swrAllocated := true
  swrInit _ := (0, ())
  swrConvert _ _ input :=
    { ret := input.length, written := input.map fun x => x.toUInt16.toInt16, context := () }

theorem plainAv_documented : plainAv.Documented where
  allocated nbChannels nbSamples fmt h := by
    by_cases hfits : 0 < nbChannels ∧ 0 < nbSamples ∧
        nbChannels * (nbSamples + 31) * fmt.bytesPerSample ≤ 2147483647
    · refine ⟨hfits.1, hfits.2.1, ?_⟩
      simp only [plainAv, if_pos hfits]
      rfl
    · simp only [plainAv, if_neg hfits] at h
      exact absurd h (by decide)
  sizeNotEof nbChannels nbSamples fmt align := by
    simp only [plainAv]
    split
    · rename_i hfits
      have hbytes := fmt.bytesPerSample_pos
      have hplain := Int.mul_pos (Int.mul_pos hfits.1 hfits.2.1) hbytes
      have haligned := Int.mul_pos (Int.mul_pos hfits.1
        (show 0 < (nbSamples + 31) / 32 * 32 by omega)) hbytes
      simp only [averrorEof]
      split <;> omega
    · decide
  convertNotEof context outCount input := by
    simp only [plainAv, averrorEof]
    omega

/-- Four packets of 20 samples, 2.5 ms each at 8000 Hz. -/
def shortPackets : List AVPacket :=
  [⟨0, List.replicate 20 1⟩, ⟨0, List.replicate 20 2⟩, ⟨0, List.replicate 20 3⟩,
    ⟨0, List.replicate 20 4⟩]

/-- A source of 10 ms blocks at 8000 Hz. -/
def mono8k : SourceSettings where
  ssrc := 7
  outputSampleRate := 8000
  outputChannelNum := 1
  frameDurationMs := 10

/-- The first 10 ms of the stream are there, spread over four packets;
the codec gives out one at a time, and the first `Read` takes 20 samples
and reports the end of the file. -/
theorem read_reports_end_of_short_packets :
    plainAv.Documented ∧ ObeysContract slotCodec slotFeeding ∧
    DecodesTo slotCodec {} (ownPackets 0 shortPackets) (shortPackets.flatMap AVPacket.data) ∧
    ∃ s, AudioFileSource.create plainAv 9 mono8k.ssrc (slotFile (shortPackets.map .packet))
        mono8k.outputSampleRate mono8k.outputChannelNum mono8k.frameDurationMs 1 = .ok s ∧
      s.inputSamples = 80 ∧ (shortPackets.flatMap AVPacket.data).length / 80 = 1 ∧
      ¬ ∀ k, ∃ s' replies, Reads plainAv s k s' replies ∧
        HandsBlocks 80 (shortPackets.flatMap AVPacket.data) replies := by
  refine ⟨plainAv_documented, slotCodec_obeysContract, slotCodec_decodesTo shortPackets, _, rfl,
    rfl, rfl, ?_⟩
  intro hall
  obtain ⟨s', replies, ⟨bound, hrun⟩, hblocks⟩ := hall 1
  have hrun' := congrArg (Except.map Prod.snd) (hrun (bound + 9) (by omega))
  have hreplies : Except.ok [{ ret := averrorEof, handed := none, written := [] }]
      = Except.ok (ε := Fault) replies := hrun'
  cases hreplies
  have hblock := (hblocks 0 _ rfl).1 (by decide)
  cases hblock

/-- Three packets that end after 12, 18 and 24 samples. -/
def unalignedPackets : List AVPacket :=
  [⟨0, List.replicate 12 1⟩, ⟨0, List.replicate 6 2⟩, ⟨0, List.replicate 6 3⟩]

/-- Blocks of 8 samples end within the first packet and within the
second: 4 and 2 samples wait in the FIFO for the next call. -/
theorem read_hands_blocks_iff_three_blocks :
    ∃ s, AudioFileSource.create plainAv 9 mono8k.ssrc (slotFile (unalignedPackets.map .packet))
        mono8k.outputSampleRate mono8k.outputChannelNum 1 1 = .ok s ∧
      s.inputSamples = 8 ∧ (unalignedPackets.flatMap AVPacket.data).length / 8 = 3 ∧
      (∀ i < 3, ∀ s' replies, Reads plainAv s i s' replies → Supplied 8 s'.decoder) ∧
      ∀ k, ∃ s' replies, Reads plainAv s k s' replies ∧
        HandsBlocks 8 (unalignedPackets.flatMap AVPacket.data) replies := by
  obtain ⟨s, hs, hsamples, hsup⟩ :
      ∃ s, AudioFileSource.create plainAv 9 mono8k.ssrc (slotFile (unalignedPackets.map .packet))
          mono8k.outputSampleRate mono8k.outputChannelNum 1 1 = .ok s ∧
        s.inputSamples = 8 ∧
        ∀ i < 3, ∀ s' replies, Reads plainAv s i s' replies → Supplied 8 s'.decoder := by
    refine ⟨_, rfl, rfl, ?_⟩
    rintro i hi s' replies ⟨bound, hrun⟩
    have hrun' := hrun (bound + 9) (by omega)
    obtain rfl | rfl | rfl : i = 0 ∨ i = 1 ∨ i = 2 := by omega
    all_goals
      have hs' : Except.ok (_, _) = Except.ok (ε := Fault) (s', replies) := hrun'
      cases hs'
      exact .frame (of_decide_eq_true rfl) rfl (.enough (of_decide_eq_true rfl))
  have hiff := read_hands_blocks_iff plainAv plainAv_documented
    (slotFile (unalignedPackets.map .packet)) unalignedPackets rfl slotFeeding
    slotCodec_obeysContract ⟨rfl, by decide⟩ rfl (unalignedPackets.flatMap AVPacket.data)
    (slotCodec_decodesTo unalignedPackets) 9 { mono8k with frameDurationMs := 1 } 1 s hs
  rw [hsamples] at hiff
  exact ⟨s, hs, hsamples, by decide, hsup, hiff.mpr hsup⟩

end L4AudioMixer.Source
