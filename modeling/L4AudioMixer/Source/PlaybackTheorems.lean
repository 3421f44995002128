/-
L4AudioMixer.Source.PlaybackTheorems — what a run of `Read` calls plays.

`blockReads` is the specification: it knows a stream cut into blocks and
the resampler, and nothing of packets, codecs and FIFOs. `reads_play`
shows that a supplied source gives exactly its results, the end of the
file and all the calls after it included. The induction is over the calls,
with the rest of the stream free.

The mixer runs the decoder's loops under a fixed bound and changes the
volume between calls. `read_mono` and `read_withVolume` show that neither
can be told from the results.
-/
import L4AudioMixer.Lib.Blocks
import L4AudioMixer.Source.FileDeliveryTheorems

namespace L4AudioMixer.Source

open L4AudioMixer.Lib
open L4AudioMixer.Libav
open L4AudioMixer.Decoder

variable {σ ρ α : Type}

/-! ## The specification -/

/-- A block through the resampler, as `Read` reports it. -/
def AudioResampler.convertBlock (av : LibAv ρ α) (r : AudioResampler ρ) (block : List α) :
    AudioResampler ρ × ReadResult α :=
  let converted := av.swrConvert r.context (r.spaceFor av block.length) block
  ({ r with context := converted.context },
    { ret := r.reported av converted.ret, handed := some block, written := converted.written })

/-- The results of so many `Read` calls on these blocks: one block after
the other, and then the end of the file for ever. -/
def blockReads (av : LibAv ρ α) : Nat → AudioResampler ρ → List (List α) → List (ReadResult α)
  | 0, _, _ => []
  | k + 1, r, [] => { ret := averrorEof, handed := none, written := [] } :: blockReads av k r []
  | k + 1, r, block :: blocks =>
      (r.convertBlock av block).2 :: blockReads av k (r.convertBlock av block).1 blocks

/-- In front of each call that has a full block to give, the decoder is
supplied with one. -/
def SuppliedThroughout (av : LibAv ρ α) (s : AudioFileSource σ ρ α) (blocks : Nat) : Prop :=
  ∀ i < blocks, ∀ s' replies, Reads av s i s' replies → Supplied s.inputSamples s'.decoder

/-! ## One call -/

section

variable {av : LibAv ρ α} {file : MediaFile σ α} {feeding : σ → Prop} {c : SourceSettings}
  {n fuel : Nat} {s s' : AudioFileSource σ ρ α} {result : ReadResult α}

/-- A `Read` that hands over a block converts it. -/
theorem read_converts {block : List α} (hav : av.Documented) (hs : Built av file c s)
    (h : s.read av fuel = .ok (s', result)) (hblock : result.handed = some block) :
    s'.resampler = (s.resampler.convertBlock av block).1 ∧
      result = (s.resampler.convertBlock av block).2 := by
  obtain ⟨decoder, consumed, -, hcase⟩ := read_cases h
  rcases hcase with ⟨-, -, rfl⟩ | ⟨hsize, resampler, resampled, hres, rfl, rfl⟩
  · cases hblock
  · have hsamples := inputSamples_of_full hav hs
    obtain ⟨-, hpos, -⟩ := hs.fullSize_eq hav
    obtain ⟨rfl, hinput, hwritten, hret⟩ := resample_ok hres
    cases hblock
    -- the number of samples is the length of the block
    have hlength : ((resampled.input.length : Nat) : Int)
        = s.resampler.inputSamples consumed.size := by
      rw [hinput, length_firstN, hsize, hsamples]
      omega
    have hconverted : s.resampler.converted av (store s.inputBuffer consumed.samples) consumed.size
        = av.swrConvert s.resampler.context
            (s.resampler.spaceFor av resampled.input.length) resampled.input := by
      rw [AudioResampler.converted, AudioResampler.outputSamples, ← hinput, ← hlength]
    rw [hconverted] at hwritten hret ⊢
    simp only [AudioResampler.convertBlock, hwritten, hret, and_self]

/-- A `Read` that hands over none reports the end of the file, and leaves
the resampler alone. -/
theorem read_ends (h : s.read av fuel = .ok (s', result)) (hnone : result.handed = none) :
    s'.resampler = s.resampler ∧
      result = { ret := averrorEof, handed := none, written := [] } := by
  obtain ⟨decoder, consumed, -, hcase⟩ := read_cases h
  rcases hcase with ⟨-, rfl, rfl⟩ | ⟨-, -, resampled, -, -, rfl⟩
  · exact ⟨rfl, rfl⟩
  · cases hnone

theorem read_inputSamples (h : s.read av fuel = .ok (s', result)) :
    s'.inputSamples = s.inputSamples := by
  obtain ⟨decoder, consumed, -, hcase⟩ := read_cases h
  rcases hcase with ⟨-, rfl, -⟩ | ⟨-, -, -, -, rfl, -⟩
  · rfl
  · rfl

/-! ## Runs -/

/-- A call in front of others. -/
theorem Reads.cons {s'' : AudioFileSource σ ρ α} {k bound : Nat} {replies : List (ReadResult α)}
    (hread : ∀ fuel, bound ≤ fuel → s.read av fuel = .ok (s', result))
    (h : Reads av s' k s'' replies) : Reads av s (k + 1) s'' (result :: replies) := by
  obtain ⟨b, hb⟩ := h
  refine ⟨max b bound, fun fuel hle => ?_⟩
  rw [List.replicate_succ]
  exact Machine.run_cons (hread fuel (by omega)) (hb fuel (by omega))

/-- **A supplied source plays its stream**: what is left of the stream is
read block by block, and then the file has ended. -/
theorem reads_play {S : List α}
    (hS : DecodesTo file.codec file.codecContext
      (ownPackets file.findBestStream (packetsOf file.formatContext)) S)
    (hav : av.Documented) (hfmt : file.sampleFormat.bytesPerSample = 2)
    (hk : ObeysContract file.codec feeding) (k : Nat)
    {rest : List α} (hs : DeliveryInvariant av file feeding c n s)
    (hrest : s.decoder.log.delivered ++ rest = S)
    (hsup : SuppliedThroughout av s (rest.length / n)) :
    ∃ s', Reads av s k s' (blockReads av k s.resampler (wholeBlocks n rest)) := by
  induction k generalizing s rest with
  | zero => exact ⟨s, 0, fun _ _ => rfl⟩
  | succ k ih =>
      obtain ⟨-, hn, -⟩ := hs.fullSize_eq hav hfmt
      obtain ⟨s', result, bound, taken, hread, hs', hdel, hfull, hshort⟩ :=
        read_round hav hfmt hk hs
      -- what was taken stands in front of the rest
      obtain ⟨T, hT⟩ := hs'.stream.received_prefix hk hS
      rw [← hs'.stream.conserved, hdel, List.append_assoc, List.append_assoc, ← hrest] at hT
      have hfront : taken ++ (s'.decoder.fifo ++ T) = rest := List.append_cancel_left hT
      have hrest' : s'.decoder.log.delivered ++ (s'.decoder.fifo ++ T) = S := by
        rw [hdel, List.append_assoc, hfront, hrest]
      by_cases hlt : rest.length < n
      · -- no block is left, so the decoder cannot be supplied with one
        have hno : ¬ Supplied n s.decoder := by
          intro hyes
          have hlen := (hfull hyes).1
          rw [← hfront, List.length_append] at hlt
          omega
        obtain ⟨hres, rfl⟩ := read_ends (hread bound le_rfl) (hshort hno)
        have hlt' : (s'.decoder.fifo ++ T).length < n := by
          rw [← hfront, List.length_append] at hlt
          omega
        obtain ⟨t, ht⟩ := ih hs' hrest' (by
          intro i hi
          rw [Nat.div_eq_of_lt hlt'] at hi
          omega)
        rw [wholeBlocks_of_lt hlt', hres] at ht
        rw [wholeBlocks_of_lt hlt]
        exact ⟨t, ht.cons hread⟩
      · have hfirst : Supplied n s.decoder := by
          rw [← hs.samples]
          exact hsup 0 (Nat.div_pos (by omega) hn) s [] ⟨0, fun _ _ => rfl⟩
        obtain ⟨hlen, hhanded, -⟩ := hfull hfirst
        obtain ⟨hres, rfl⟩ := read_converts hav hs.built (hread bound le_rfl) hhanded
        obtain ⟨t, ht⟩ := ih hs' hrest' (by
          intro i hi u replies hreads
          rw [read_inputSamples (hread bound le_rfl)]
          refine hsup (i + 1) ?_ u _ (hreads.cons hread)
          rw [← hfront, length_div_of_block hn hlen]
          omega)
        rw [hres] at ht
        rw [← hfront, wholeBlocks_block_append hn hlen]
        exact ⟨t, ht.cons hread⟩

end

/-! ## The bound, and the volume -/

/-- A larger bound for the loops gives the same result. -/
theorem fillDecoder_mono {fuel more : Nat} {d d' : AudioFileDecoder σ α}
    (h : Decoder.fillDecoder fuel d = .ok d') (hle : fuel ≤ more) :
    Decoder.fillDecoder more d = .ok d' := by
  unfold Decoder.fillDecoder at h ⊢
  cases hloop : loop Decoder.fillDecoderBody fuel d with
  | none =>
      rw [hloop] at h
      cases h
  | some result => rw [loop_mono hloop hle, ← hloop, h]

theorem fillFifo_mono {fuel more : Nat} {d d' : AudioFileDecoder σ α}
    (h : Decoder.fillFifo fuel d = .ok d') (hle : fuel ≤ more) :
    Decoder.fillFifo more d = .ok d' := by
  unfold Decoder.fillFifo at h ⊢
  cases hloop : loop Decoder.fillFifoBody fuel d with
  | none =>
      rw [hloop] at h
      cases h
  | some result =>
      rw [hloop] at h
      rw [loop_mono hloop hle]
      exact h

theorem consume_mono {fuel more : Nat} {d d' : AudioFileDecoder σ α} {samples : Int}
    {consumed : Consumed α} (h : Decoder.consume fuel d samples = .ok (d', consumed))
    (hle : fuel ≤ more) : Decoder.consume more d samples = .ok (d', consumed) := by
  simp only [Decoder.consume, bind_eq_ok] at h ⊢
  obtain ⟨d₁, h₁, d₂, h₂, hret⟩ := h
  exact ⟨d₁, fillDecoder_mono h₁ hle, d₂, fillFifo_mono h₂ hle, hret⟩

theorem read_mono {av : LibAv ρ α} {fuel more : Nat} {s s' : AudioFileSource σ ρ α}
    {result : ReadResult α} (h : s.read av fuel = .ok (s', result)) (hle : fuel ≤ more) :
    s.read av more = .ok (s', result) := by
  obtain ⟨decoder, consumed, hcons, -⟩ := read_cases h
  simp only [AudioFileSource.read, hcons, consume_mono hcons hle] at h ⊢
  exact h

/-- A run that returns under one bound is a run under every larger one. -/
theorem reads_of_run {av : LibAv ρ α} {fuel k : Nat} {s s' : AudioFileSource σ ρ α}
    {results : List (ReadResult α)}
    (h : (readMachine av fuel).run s (List.replicate k ()) = .ok (s', results)) :
    Reads av s k s' results := by
  refine ⟨fuel, fun more hle => ?_⟩
  induction k generalizing s results with
  | zero => exact h
  | succ k ih =>
      rw [List.replicate_succ] at h ⊢
      obtain ⟨s₁, result, rest, hstep, hrun, rfl⟩ := Machine.of_run_cons h
      exact Machine.run_cons (read_mono hstep hle) (ih hrun)

/-- A source at another volume. -/
def AudioFileSource.withVolume (s : AudioFileSource σ ρ α) (volume : Float32) :
    AudioFileSource σ ρ α :=
  { s with volume }

/-- `Read` does not look at the volume. -/
theorem read_withVolume {av : LibAv ρ α} {fuel : Nat} {s s' : AudioFileSource σ ρ α}
    {result : ReadResult α} (volume : Float32)
    (h : (s.withVolume volume).read av fuel = .ok (s', result)) :
    ∃ t, s.read av fuel = .ok (t, result) ∧ s' = t.withVolume volume := by
  obtain ⟨decoder, consumed, hcons, hcase⟩ := read_cases h
  have hcons' : Decoder.consume fuel s.decoder s.inputSamples = .ok (decoder, consumed) := hcons
  rcases hcase with ⟨hsize, rfl, rfl⟩ | ⟨hsize, resampler, resampled, hres, rfl, rfl⟩
  · exact ⟨_, read_short hcons' hsize, rfl⟩
  · refine ⟨{ afterConsume s decoder consumed with resampler },
      (read_full hcons' hsize).trans ?_, rfl⟩
    have hres' : s.resampler.resample av (store s.inputBuffer consumed.samples) consumed.size
        = .ok (resampler, resampled) := hres
    rw [hres']
    rfl

end L4AudioMixer.Source
