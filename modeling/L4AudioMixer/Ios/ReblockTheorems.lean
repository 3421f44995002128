/-
L4AudioMixer.Ios.ReblockTheorems — when re-blocking the recorded
callbacks loses nothing.

The controller cuts the callbacks' data into blocks; the abstract
operation is `Lib.wholeBlocks` and `Lib.leftOver` of everything received.
`deliver_spec` says what one callback does: if nothing is left over from
before, or the data completes the block in `_buffer`, the blocks handed
over and the bytes kept are those of the kept bytes and the data
together. If a callback leaves the block incomplete, its bytes are copied
behind the others but `_remainingData` does not count them, and the next
callback writes over them. `reblocking_lossless_iff` says for which runs
that never happens. `MixesBlocks` is the mixer's side: it is given the
blocks one by one and mixes each.
-/
import L4AudioMixer.Ios.AudioMixerTestController
import L4AudioMixer.Lib.Blocks
import L4AudioMixer.Mixer.RegistryTheorems

namespace L4AudioMixer.Ios

open L4AudioMixer.Lib
open L4AudioMixer.Mixer

variable {σ ρ α γ : Type}

/-! ## What the parts of a callback do -/

namespace AudioMixerTestController

/-- The bytes kept for the next callback. -/
def carry (c : AudioMixerTestController σ ρ α γ) : List UInt8 :=
  firstN c.buffer c.remainingData.toNat

/-- The members no callback changes. -/
def settings (c : AudioMixerTestController σ ρ α γ) : Int32 × Int32 × Nat :=
  (c.sampleRate, c.channelNum, c.bufferLength)

end AudioMixerTestController

/-- The number of bytes of a callback. -/
def RecordCallback.size (channelNum : Int32) (callback : RecordCallback) : Int :=
  callback.numFrames.toInt * channelNum.toInt * kBytesPerSample

/-- The data of a callback. -/
def RecordCallback.data (channelNum : Int32) (callback : RecordCallback) : List UInt8 :=
  firstN callback.buf (callback.size channelNum).toNat

theorem length_data (channelNum : Int32) (callback : RecordCallback) :
    (callback.data channelNum).length = (callback.size channelNum).toNat :=
  length_firstN _ _

/-- The data a delivery has not come to. -/
def Delivery.left (buf : Nat → UInt8) (d : Delivery σ ρ α γ) : List UInt8 :=
  firstN (fun i => buf (i + d.bufReadPos.toNat)) d.recordedSize.toNat

/-- `m` is the mixer `m₀` after it took `blocks`: each was the data of an
`addRecordedData:2` call of so many bytes, and was mixed. -/
inductive MixesBlocks (P : Platform σ ρ α γ) (size : Int) (m₀ : PYAAudioMixer σ ρ α γ) :
    List (List UInt8) → PYAAudioMixer σ ρ α γ → Prop where
  | start : MixesBlocks P size m₀ [] m₀
  | block {blocks : List (List UInt8)} {m m₁ m₂ : PYAAudioMixer σ ρ α γ}
      {data : Nat → UInt8} {uninit : Nat → Int16} {mixed : PYAAudioBuffer}
      (h : MixesBlocks P size m₀ blocks m)
      (hadd : m.addRecordedData P 2 data (Int32.ofInt size) uninit = .ok m₁)
      (hmix : m₁.mix P uninit = .ok (m₂, mixed)) :
      MixesBlocks P size m₀ (blocks ++ [firstN data size.toNat]) m₂

theorem MixesBlocks.trans {P : Platform σ ρ α γ} {size : Int}
    {m₀ m m' : PYAAudioMixer σ ρ α γ} {blocks blocks' : List (List UInt8)}
    (h : MixesBlocks P size m₀ blocks m) (h' : MixesBlocks P size m blocks' m') :
    MixesBlocks P size m₀ (blocks ++ blocks') m' := by
  induction h' with
  | start => rwa [List.append_nil]
  | block _ hadd hmix ih =>
      rw [← List.append_assoc]
      exact ih.block hadd hmix

section Parts

open AudioMixerTestController

variable {P : Platform σ ρ α γ} {c c' : AudioMixerTestController σ ρ α γ}
  {d d' : Delivery σ ρ α γ} {buf : Nat → UInt8} {mixerInputSize : Int} {uninit : Nat → Int16}

theorem memcpyToBuffer_ok {offset size : Int} {src : Nat → UInt8}
    (h : c.memcpyToBuffer offset src size = .ok c') :
    0 ≤ size ∧ c' = { c with buffer := copy c.buffer offset.toNat src size.toNat } := by
  simp only [memcpyToBuffer, bind_eq_ok, require_eq_ok, decide_eq_true_eq] at h
  obtain ⟨_, hbounds, hret⟩ := h
  cases hret
  exact ⟨hbounds.1, rfl⟩

theorem memcpyToBuffer_of_le (c : AudioMixerTestController σ ρ α γ) (offset : Int)
    (src : Nat → UInt8) (size : Int) (hsize : 0 ≤ size)
    (hfits : offset + size ≤ c.bufferLength) :
    c.memcpyToBuffer offset src size
      = .ok { c with buffer := copy c.buffer offset.toNat src size.toNat } := by
  have hbounds : decide (0 ≤ size ∧ offset + size ≤ c.bufferLength) = true :=
    decide_eq_true ⟨hsize, hfits⟩
  simp only [memcpyToBuffer, hbounds, require, if_true, bind, Except.bind, pure, Except.pure]

/-- Mixing a block changes the mixer and the dump alone, and the mixer
takes the front of `_buffer`. -/
theorem mixBlock_ok (h : c.mixBlock P mixerInputSize uninit = .ok c') :
    c' = { c with mixer := c'.mixer, dump := c'.dump } ∧
      MixesBlocks P mixerInputSize c.mixer [firstN c.buffer mixerInputSize.toNat] c'.mixer := by
  simp only [mixBlock, bind_eq_ok] at h
  obtain ⟨mixer, hadd, ⟨mixer', mixed⟩, hmix, hret⟩ := h
  cases hret
  exact ⟨rfl, MixesBlocks.start.block hadd hmix⟩

/-- **What becomes of a block left over**: there is none; or the data
completes it and it is handed over; or the data is too short, and all of
it is copied behind the bytes there are. -/
theorem fillRemaining_cases (h : fillRemaining P buf mixerInputSize uninit d = .ok d') :
    (d.controller.remainingData ≤ 0 ∧ d' = d) ∨
    (0 < d.controller.remainingData ∧
      mixerInputSize ≤ d.controller.remainingData + d.recordedSize ∧
      ∃ mixer dump missing buffer, missing = mixerInputSize - d.controller.remainingData ∧
        0 ≤ missing ∧
        buffer = copy d.controller.buffer d.controller.remainingData.toNat buf missing.toNat ∧
        MixesBlocks P mixerInputSize d.controller.mixer [firstN buffer mixerInputSize.toNat]
          mixer ∧
        d' = {
          controller := { d.controller with buffer, remainingData := 0, mixer, dump }
          recordedSize := d.recordedSize - missing
          bufReadPos := d.bufReadPos + missing
          handed := d.handed ++ [firstN buffer mixerInputSize.toNat] }) ∨
    (0 < d.controller.remainingData ∧
      d.controller.remainingData + d.recordedSize < mixerInputSize ∧
      ∃ buffer,
        buffer = copy d.controller.buffer d.controller.remainingData.toNat buf
          d.recordedSize.toNat ∧
        d' = { d with
          controller := { d.controller with buffer }
          recordedSize := 0, bufReadPos := d.bufReadPos + d.recordedSize }) := by
  unfold fillRemaining at h
  by_cases hrem : 0 < d.controller.remainingData
  · rw [if_pos hrem, bind_eq_ok] at h
    obtain ⟨c, hcopy, h⟩ := h
    obtain ⟨hsize, rfl⟩ := memcpyToBuffer_ok hcopy
    by_cases hfull : mixerInputSize ≤ d.controller.remainingData + d.recordedSize
    · have hmin : min d.recordedSize (mixerInputSize - d.controller.remainingData)
          = mixerInputSize - d.controller.remainingData := by omega
      simp only [hmin, if_true, bind_eq_ok] at h hsize
      obtain ⟨c', hmix, hret⟩ := h
      obtain ⟨hc', hblock⟩ := mixBlock_ok hmix
      cases hret
      refine .inr (.inl ⟨hrem, hfull, c'.mixer, c'.dump, _, _, rfl, hsize, rfl, hblock, ?_⟩)
      rw [hc']
    · have hmin : min d.recordedSize (mixerInputSize - d.controller.remainingData)
          = d.recordedSize := by omega
      have hshort : ¬ d.recordedSize = mixerInputSize - d.controller.remainingData := by omega
      simp only [hmin, if_neg hshort] at h
      cases h
      refine .inr (.inr ⟨hrem, by omega, _, rfl, ?_⟩)
      simp
  · rw [if_neg hrem] at h
    cases h
    exact .inl ⟨by omega, rfl⟩

/-- A pass that goes on copied a whole block and handed it over. -/
theorem deliverBody_next (h : deliverBody P buf mixerInputSize uninit d = .next d') :
    0 < d.recordedSize ∧ mixerInputSize ≤ d.recordedSize ∧ 0 ≤ mixerInputSize ∧
    ∃ mixer dump buffer,
      buffer = copy d.controller.buffer 0 (fun i => buf (i + d.bufReadPos.toNat))
        mixerInputSize.toNat ∧
      MixesBlocks P mixerInputSize d.controller.mixer [firstN buffer mixerInputSize.toNat] mixer ∧
      d' = {
        controller := { d.controller with buffer, mixer, dump }
        recordedSize := d.recordedSize - mixerInputSize
        bufReadPos := d.bufReadPos + mixerInputSize
        handed := d.handed ++ [firstN buffer mixerInputSize.toNat] } := by
  unfold deliverBody at h
  by_cases hsome : 0 < d.recordedSize
  · rw [if_pos hsome] at h
    dsimp only at h
    split at h
    · cases h
    · rename_i c hcopy
      obtain ⟨hsize, rfl⟩ := memcpyToBuffer_ok hcopy
      split at h
      · cases h
      · rename_i hwhole
        have hmin : min d.recordedSize mixerInputSize = mixerInputSize := by omega
        rw [hmin] at hsize h
        split at h
        · cases h
        · rename_i c' hmix
          obtain ⟨hc', hblock⟩ := mixBlock_ok hmix
          cases h
          refine ⟨hsome, by omega, hsize, c'.mixer, c'.dump, _, rfl, hblock, ?_⟩
          rw [hc']
          rfl
  · rw [if_neg hsome] at h
    cases h

/-- The last pass finds no data, or less than a block and keeps it. -/
theorem deliverBody_done (h : deliverBody P buf mixerInputSize uninit d = .done (.ok d')) :
    (d.recordedSize ≤ 0 ∧ d' = d) ∨
    (0 < d.recordedSize ∧ d.recordedSize < mixerInputSize ∧
      ∃ buffer,
        buffer = copy d.controller.buffer 0 (fun i => buf (i + d.bufReadPos.toNat))
          d.recordedSize.toNat ∧
        d' = { d with
          controller := { d.controller with buffer, remainingData := d.recordedSize } }) := by
  unfold deliverBody at h
  by_cases hsome : 0 < d.recordedSize
  · rw [if_pos hsome] at h
    dsimp only at h
    split at h
    · cases h
    · rename_i c hcopy
      obtain ⟨-, rfl⟩ := memcpyToBuffer_ok hcopy
      split at h
      · rename_i hshort
        have hmin : min d.recordedSize mixerInputSize = d.recordedSize := by omega
        rw [hmin] at h
        cases h
        exact .inr ⟨hsome, hshort, _, rfl, rfl⟩
      · split at h
        · cases h
        · cases h
  · rw [if_neg hsome] at h
    cases h
    exact .inl ⟨by omega, rfl⟩

end Parts

/-! ## One callback -/

section Callback

open AudioMixerTestController

variable {P : Platform σ ρ α γ} {c c' : AudioMixerTestController σ ρ α γ}
  {d d' : Delivery σ ρ α γ} {buf : Nat → UInt8} {M : Nat} {uninit : Nat → Int16}
  {callback : RecordCallback} {handed : List (List UInt8)}

/-- The data left is its first bytes and the data left behind them. -/
theorem left_eq_append (buf : Nat → UInt8) {pos size k : Int} (hpos : 0 ≤ pos) (hk : 0 ≤ k)
    (hle : k ≤ size) :
    firstN (fun i => buf (i + pos.toNat)) size.toNat
      = firstN (fun i => buf (i + pos.toNat)) k.toNat
        ++ firstN (fun i => buf (i + (pos + k).toNat)) (size - k).toNat := by
  have hsize : size.toNat = k.toNat + (size - k).toNat := by omega
  have hshift : ∀ i : Nat, i + (pos + k).toNat = i + k.toNat + pos.toNat := by omega
  rw [hsize, firstN_add]
  simp only [hshift]

/-- Less than a block is kept. -/
structure Within (M : Nat) (c : AudioMixerTestController σ ρ α γ) : Prop where
  nonneg : 0 ≤ c.remainingData
  lt : c.remainingData < M

theorem deliverLoop_ok {size : Int} (h : deliverLoop P buf size uninit d = .ok d') :
    loop (deliverBody P buf size uninit) (d.recordedSize.toNat + 1) d = some (.ok d') := by
  rw [deliverLoop] at h
  cases hresult : loop (deliverBody P buf size uninit) (d.recordedSize.toNat + 1) d with
  | none =>
      rw [hresult] at h
      cases h
  | some r =>
      rw [hresult] at h
      exact congrArg some h

/-- **The loop cuts the data into blocks** when nothing is left over from
before: the whole ones are handed over, and the rest is kept. -/
theorem deliverLoop_spec (hM : 0 < M) (hrem : d.controller.remainingData = 0)
    (hpos : 0 ≤ d.bufReadPos) (hsize : 0 ≤ d.recordedSize)
    (h : deliverLoop P buf M uninit d = .ok d') :
    d'.handed = d.handed ++ wholeBlocks M (d.left buf) ∧
      d'.controller.carry = leftOver M (d.left buf) ∧
      d'.controller.settings = d.controller.settings ∧ Within M d'.controller := by
  -- what was handed over and what is left add up to the same at every pass
  let I : Delivery σ ρ α γ → Prop := fun e =>
    e.controller.remainingData = 0 ∧ 0 ≤ e.bufReadPos ∧ 0 ≤ e.recordedSize ∧
    e.controller.settings = d.controller.settings ∧
    e.handed ++ wholeBlocks M (e.left buf) = d.handed ++ wholeBlocks M (d.left buf) ∧
    leftOver M (e.left buf) = leftOver M (d.left buf)
  let Q : Except Fault (Delivery σ ρ α γ) → Prop := fun r => ∀ e, r = .ok e →
    e.handed = d.handed ++ wholeBlocks M (d.left buf) ∧
      e.controller.carry = leftOver M (d.left buf) ∧
      e.controller.settings = d.controller.settings ∧ Within M e.controller
  have hnext : ∀ e e', I e → deliverBody P buf M uninit e = .next e' → I e' := by
    rintro e e' ⟨he, hepos, hesize, hsettings, hblocks, hleft⟩ hbody
    obtain ⟨hsome, hwhole, -, mixer, dump, buffer, hbuffer, -, rfl⟩ := deliverBody_next hbody
    have hblock : firstN buffer M = firstN (fun i => buf (i + e.bufReadPos.toNat)) M := by
      rw [hbuffer, Int.toNat_natCast]
      exact firstN_copy_front _ _ (Nat.le_refl M)
    have hsplit := left_eq_append buf hepos (Int.natCast_nonneg M) hwhole
    rw [Int.toNat_natCast, ← hblock] at hsplit
    have hlength : (firstN buffer M).length = M := length_firstN buffer M
    have heleft : e.left buf = firstN buffer M
        ++ firstN (fun i => buf (i + (e.bufReadPos + M).toNat)) (e.recordedSize - M).toNat := hsplit
    rw [heleft, wholeBlocks_block_append hM hlength] at hblocks
    rw [heleft, leftOver_block_append hM hlength] at hleft
    refine ⟨he, by show 0 ≤ e.bufReadPos + (M : Int); omega,
      by show 0 ≤ e.recordedSize - (M : Int); omega, hsettings, ?_, hleft⟩
    rw [← hblocks, Int.toNat_natCast, List.append_assoc]
    rfl
  have hdone : ∀ e r, I e → deliverBody P buf M uninit e = .done r → Q r := by
    rintro e r ⟨he, hepos, hesize, hsettings, hblocks, hleft⟩ hbody e' rfl
    have hlength : (e.left buf).length = e.recordedSize.toNat := length_firstN _ _
    rcases deliverBody_done hbody with ⟨hnone, rfl⟩ | ⟨hsome, hshort, buffer, hbuffer, rfl⟩
    · have hlt : (e'.left buf).length < M := by omega
      have hnil : e'.left buf = [] := List.eq_nil_of_length_eq_zero (by omega)
      rw [wholeBlocks_of_lt hlt, List.append_nil] at hblocks
      rw [leftOver_of_lt hlt, hnil] at hleft
      refine ⟨hblocks, ?_, hsettings, by omega, by omega⟩
      rw [← hleft, carry, he]
      rfl
    · have hlt : (e.left buf).length < M := by omega
      rw [wholeBlocks_of_lt hlt, List.append_nil] at hblocks
      rw [leftOver_of_lt hlt] at hleft
      have hkept : firstN buffer e.recordedSize.toNat = e.left buf := by
        rw [hbuffer]
        exact firstN_copy_front _ _ (Nat.le_refl _)
      exact ⟨hblocks, hkept.trans hleft, hsettings, hesize, hshort⟩
  exact loop_invariant I Q hnext hdone ⟨hrem, hpos, hsize, rfl, rfl, rfl⟩ (deliverLoop_ok h) d' rfl

/-- **The mixer takes the blocks of the loop**, behind those it took. -/
theorem deliverLoop_mixes {size : Int} {m₀ : PYAAudioMixer σ ρ α γ}
    (hd : MixesBlocks P size m₀ d.handed d.controller.mixer)
    (h : deliverLoop P buf size uninit d = .ok d') :
    MixesBlocks P size m₀ d'.handed d'.controller.mixer := by
  let I : Delivery σ ρ α γ → Prop := fun e =>
    MixesBlocks P size m₀ e.handed e.controller.mixer
  refine loop_invariant I (fun r => ∀ e, r = .ok e → I e) ?_ ?_ hd (deliverLoop_ok h) d' rfl
  · intro e e' he hbody
    obtain ⟨-, -, -, mixer, dump, buffer, -, hblock, rfl⟩ := deliverBody_next hbody
    exact MixesBlocks.trans he hblock
  · rintro e r he hbody e' rfl
    rcases deliverBody_done hbody with ⟨-, rfl⟩ | ⟨-, -, buffer, -, rfl⟩
    · exact he
    · exact he

/-- Without data the loop does nothing. -/
theorem deliverLoop_empty (h : d.recordedSize ≤ 0) (buf : Nat → UInt8) (M : Int) :
    deliverLoop P buf M uninit d = .ok d := by
  have hbody : deliverBody P buf M uninit d = .done (.ok d) := if_neg (by omega)
  rw [deliverLoop, loop_done hbody]
  rfl

/-- The data of a callback completes the block left over from before, if
there is one. -/
def Completes (M : Nat) (remaining size : Nat) : Prop := remaining = 0 ∨ M ≤ remaining + size

instance (M remaining size : Nat) : Decidable (Completes M remaining size) :=
  inferInstanceAs (Decidable (_ ∨ _))

/-- A call of `deliverRecordAndMixedData` that returns, in its parts. -/
theorem deliver_ok (hsize : c.mixerInputSize = .ok (M : Int))
    (h : c.deliverRecordAndMixedData P callback = .ok (c', handed)) :
    ∃ d d', fillRemaining P callback.buf M callback.uninit
        { controller := c, recordedSize := callback.size c.channelNum, bufReadPos := 0
          handed := [] } = .ok d ∧
      deliverLoop P callback.buf M callback.uninit d = .ok d' ∧
      c' = d'.controller ∧ handed = d'.handed := by
  simp only [deliverRecordAndMixedData, recordedSize, hsize, bind_eq_ok] at h
  obtain ⟨recorded, ⟨samples, hsamples, hrecorded⟩, blockSize, hblock, d, hfill, d', hloop,
    hret⟩ := h
  obtain ⟨-, rfl⟩ := mulInt32_eq_ok hsamples
  obtain ⟨-, rfl⟩ := mulInt32_eq_ok hrecorded
  cases hblock
  cases hret
  exact ⟨d, d', hfill, hloop, rfl, rfl⟩

/-- **One callback.** If it completes the block left over, or there is
none, the blocks handed over and the bytes kept are those of the bytes
kept before and the data; otherwise its data is dropped. -/
theorem deliver_spec (hM : 0 < M) (hsize : c.mixerInputSize = .ok (M : Int))
    (hc : Within M c) (hpos : 0 < callback.size c.channelNum)
    (h : c.deliverRecordAndMixedData P callback = .ok (c', handed)) :
    c'.settings = c.settings ∧ Within M c' ∧
    (Completes M c.carry.length (callback.data c.channelNum).length →
      handed = wholeBlocks M (c.carry ++ callback.data c.channelNum) ∧
      c'.carry = leftOver M (c.carry ++ callback.data c.channelNum)) ∧
    (¬ Completes M c.carry.length (callback.data c.channelNum).length →
      handed = [] ∧ c'.carry = c.carry) := by
  obtain ⟨d, d', hfill, hloop, rfl, rfl⟩ := deliver_ok hsize h
  have hnonneg := hc.nonneg
  have hlt := hc.lt
  have hcarry : c.carry.length = c.remainingData.toNat := length_firstN _ _
  rw [hcarry, length_data]
  rcases fillRemaining_cases hfill with
      ⟨hnone, rfl⟩ |
      ⟨hsome, hfull, mixer, dump, missing, buffer, hmissing, hmpos, hbuffer, -, rfl⟩ |
      ⟨hsome, hshort, buffer, hbuffer, rfl⟩
  · -- nothing left over: the loop sees all the data
    change c.remainingData ≤ 0 at hnone
    have hzero : c.remainingData = 0 := by omega
    have hempty : c.carry = [] := List.eq_nil_of_length_eq_zero (by omega)
    obtain ⟨hhanded, hkept, hsettings, hwithin⟩ :=
      deliverLoop_spec hM hzero (Int.le_refl 0) (Int.le_of_lt hpos) hloop
    refine ⟨hsettings, hwithin, fun _ => ?_, fun hnot => absurd (.inl (by omega)) hnot⟩
    rw [hempty]
    exact ⟨hhanded, hkept⟩
  · -- the block is completed: it comes first, then the loop
    change 0 < c.remainingData at hsome
    change (M : Int) ≤ c.remainingData + callback.size c.channelNum at hfull
    change missing = (M : Int) - c.remainingData at hmissing
    have hblock : firstN buffer M = c.carry ++ firstN callback.buf missing.toNat := by
      have hwhole : M = c.remainingData.toNat + missing.toNat := by omega
      rw [hbuffer]
      conv => lhs; rw [hwhole]
      exact firstN_copy_append _ _ _ _
    have hlength : (firstN buffer M).length = M := length_firstN buffer M
    have hrest := left_eq_append callback.buf (Int.le_refl 0) hmpos
      (show missing ≤ callback.size c.channelNum by omega)
    have hwhole : c.carry ++ callback.data c.channelNum = firstN buffer M
        ++ firstN (fun i => callback.buf (i + (0 + missing).toNat))
          (callback.size c.channelNum - missing).toNat := by
      rw [hblock, List.append_assoc]
      exact congrArg (c.carry ++ ·) hrest
    obtain ⟨hhanded, hkept, hsettings, hwithin⟩ := deliverLoop_spec hM rfl
      (show (0 : Int) ≤ 0 + missing by omega)
      (show 0 ≤ callback.size c.channelNum - missing by omega) hloop
    refine ⟨hsettings, hwithin, fun _ => ?_, fun hnot => absurd (.inr (by omega)) hnot⟩
    rw [hwhole, wholeBlocks_block_append hM hlength, leftOver_block_append hM hlength]
    exact ⟨hhanded, hkept⟩
  · -- the block stays incomplete: the loop has nothing to do
    change 0 < c.remainingData at hsome
    change c.remainingData + callback.size c.channelNum < (M : Int) at hshort
    rw [deliverLoop_empty (Int.le_refl 0)] at hloop
    cases hloop
    refine ⟨rfl, ⟨hnonneg, hlt⟩, fun hcompletes => ?_, fun _ => ⟨rfl, ?_⟩⟩
    · rcases hcompletes with hzero | hle <;> omega
    · show firstN buffer c.remainingData.toNat = _
      rw [hbuffer]
      exact firstN_copy_of_le _ _ (Nat.le_refl _) _

/-- **The mixer takes the blocks of a callback.** -/
theorem deliver_mixes (hsize : c.mixerInputSize = .ok (M : Int))
    (h : c.deliverRecordAndMixedData P callback = .ok (c', handed)) :
    MixesBlocks P M c.mixer handed c'.mixer := by
  obtain ⟨d, d', hfill, hloop, rfl, rfl⟩ := deliver_ok hsize h
  refine deliverLoop_mixes ?_ hloop
  rcases fillRemaining_cases hfill with
      ⟨-, rfl⟩ | ⟨-, -, mixer, dump, missing, buffer, -, -, -, hblock, rfl⟩ | ⟨-, -, buffer, -, rfl⟩
  · exact .start
  · exact hblock
  · exact .start

end Callback

/-! ## Runs of callbacks -/

/-- The data of all callbacks, in order. -/
def received (channelNum : Int32) (callbacks : List RecordCallback) : List UInt8 :=
  callbacks.flatMap (RecordCallback.data channelNum)

/-- The sizes of the callbacks, in bytes. -/
def sizes (channelNum : Int32) (callbacks : List RecordCallback) : List Nat :=
  callbacks.map fun callback => (callback.size channelNum).toNat

/-- The blocks handed to `addRecordedData`, in order. -/
def handedBy (replies : List Delivered) : List (List UInt8) := replies.flatMap Delivered.handed

/-- Every callback completes the block it finds: of the bytes before it,
those behind the last whole block, together with its own, are at least a
block, or there are none. -/
def CompletesAll (M : Nat) : (before : Nat) → List Nat → Prop
  | _, [] => True
  | before, size :: rest => Completes M (before % M) size ∧ CompletesAll M (before + size) rest

instance CompletesAll.decidable (M : Nat) :
    (before : Nat) → (rest : List Nat) → Decidable (CompletesAll M before rest)
  | _, [] => inferInstanceAs (Decidable True)
  | before, size :: rest =>
      have := CompletesAll.decidable M (before + size) rest
      inferInstanceAs (Decidable (_ ∧ _))

/-- Nothing is lost: the blocks handed over and the bytes kept are all the
data received, every block is a whole one, and less than a block is kept
after every callback. -/
structure Reblocked (M : Nat) (channelNum : Int32) (callbacks : List RecordCallback)
    (replies : List Delivered) (c : AudioMixerTestController σ ρ α γ) : Prop where
  conserved : (handedBy replies).flatten ++ firstN c.buffer c.remainingData.toNat
    = received channelNum callbacks
  whole : ∀ block ∈ handedBy replies, block.length = M
  bounded : ∀ reply ∈ replies, 0 ≤ reply.remainingData ∧ reply.remainingData < M

/-- The account of a run: exactly the whole blocks of what was received
were handed over, or something is missing for good. -/
structure Accounted (M : Nat) (channelNum : Int32) (callbacks : List RecordCallback)
    (replies : List Delivered) (c : AudioMixerTestController σ ρ α γ) : Prop where
  whole : ∀ block ∈ handedBy replies, block.length = M
  bounded : ∀ reply ∈ replies, 0 ≤ reply.remainingData ∧ reply.remainingData < M
  complete : CompletesAll M 0 (sizes channelNum callbacks) →
    handedBy replies = wholeBlocks M (received channelNum callbacks) ∧
      c.carry = leftOver M (received channelNum callbacks)
  missing : ¬ CompletesAll M 0 (sizes channelNum callbacks) →
    (handedBy replies).flatten.length + c.carry.length < (received channelNum callbacks).length

section Runs

open AudioMixerTestController

variable {P : Platform σ ρ α γ} {c₀ c c' : AudioMixerTestController σ ρ α γ} {M : Nat}
  {channelNum : Int32} {callback : RecordCallback} {callbacks : List RecordCallback}
  {reply : Delivered} {replies : List Delivered}

/-- Whether one more callback completes its block is decided by the length
of the data received before it. -/
theorem completesAll_snoc {before : Nat} :
    CompletesAll M before (sizes channelNum (callbacks ++ [callback])) ↔
      CompletesAll M before (sizes channelNum callbacks) ∧
        Completes M ((before + (received channelNum callbacks).length) % M)
          (callback.data channelNum).length := by
  induction callbacks generalizing before with
  | nil => simp [sizes, received, CompletesAll, length_data]
  | cons first rest ih =>
      have hrest := @ih (before + (first.size channelNum).toNat)
      simp only [sizes, received, List.cons_append, List.map_cons, CompletesAll,
        List.flatMap_cons, List.length_append, length_data, ← Nat.add_assoc, and_assoc] at hrest ⊢
      exact and_congr_right fun _ => hrest

/-- The block size depends on the settings alone. -/
theorem mixerInputSize_of_settings (h : c'.settings = c.settings) :
    c'.mixerInputSize = c.mixerInputSize := by
  simp only [AudioMixerTestController.settings, Prod.mk.injEq] at h
  simp only [mixerInputSize, h.1, h.2.1]

theorem recordAndMix_step (h : (recordAndMixMachine P).step c callback = .ok (c', reply)) :
    c.deliverRecordAndMixedData P callback = .ok (c', reply.handed) ∧
      reply.remainingData = c'.remainingData := by
  simp only [recordAndMixMachine, bind_eq_ok] at h
  obtain ⟨⟨c₁, handed⟩, hdeliver, hret⟩ := h
  cases hret
  exact ⟨hdeliver, rfl⟩

/-- **A callback keeps the account.** -/
theorem Accounted.step (hM : 0 < M) (hsize : c.mixerInputSize = .ok (M : Int)) (hc : Within M c)
    (hpos : 0 < callback.size c.channelNum)
    (ha : Accounted M c.channelNum callbacks replies c)
    (h : (recordAndMixMachine P).step c callback = .ok (c', reply)) :
    c'.settings = c.settings ∧ Within M c' ∧
      Accounted M c.channelNum (callbacks ++ [callback]) (replies ++ [reply]) c' := by
  obtain ⟨hdeliver, hremaining⟩ := recordAndMix_step h
  obtain ⟨hsettings, hwithin, hcompletes, hshort⟩ := deliver_spec hM hsize hc hpos hdeliver
  have hreceived : received c.channelNum (callbacks ++ [callback])
      = received c.channelNum callbacks ++ callback.data c.channelNum := by simp [received]
  have hhanded : handedBy (replies ++ [reply]) = handedBy replies ++ reply.handed := by
    simp [handedBy]
  have hsizes : CompletesAll M 0 (sizes c.channelNum (callbacks ++ [callback])) ↔
      CompletesAll M 0 (sizes c.channelNum callbacks) ∧
        Completes M ((received c.channelNum callbacks).length % M)
          (callback.data c.channelNum).length := by
    rw [completesAll_snoc, Nat.zero_add]
  -- what a callback adds is its data or nothing
  have hgrowth : (handedBy replies ++ reply.handed).flatten.length + c'.carry.length
      ≤ (handedBy replies).flatten.length + c.carry.length
        + (callback.data c.channelNum).length := by
    by_cases hdone : Completes M c.carry.length (callback.data c.channelNum).length
    · obtain ⟨hblocks, hkept⟩ := hcompletes hdone
      have hcut := congrArg List.length
        (flatten_wholeBlocks_append hM (c.carry ++ callback.data c.channelNum))
      rw [← hblocks, ← hkept] at hcut
      simp only [List.flatten_append, List.length_append] at hcut ⊢
      omega
    · obtain ⟨hnone, hkept⟩ := hshort hdone
      simp only [hnone, hkept, List.append_nil]
      omega
  refine ⟨hsettings, hwithin, ?_, ?_, ?_, ?_⟩
  · intro block hmem
    rw [hhanded, List.mem_append] at hmem
    rcases hmem with hbefore | hnew
    · exact ha.whole block hbefore
    · by_cases hdone : Completes M c.carry.length (callback.data c.channelNum).length
      · rw [(hcompletes hdone).1] at hnew
        exact length_of_mem_wholeBlocks hM hnew
      · simp [(hshort hdone).1] at hnew
  · intro r hmem
    rw [List.mem_append, List.mem_singleton] at hmem
    rcases hmem with hbefore | rfl
    · exact ha.bounded r hbefore
    · rw [hremaining]
      exact ⟨hwithin.nonneg, hwithin.lt⟩
  · intro hall
    obtain ⟨hbefore, hlast⟩ := hsizes.mp hall
    obtain ⟨hblocks, hkept⟩ := ha.complete hbefore
    have hdone : Completes M c.carry.length (callback.data c.channelNum).length := by
      rw [hkept, length_leftOver]
      exact hlast
    obtain ⟨hnew, hkept'⟩ := hcompletes hdone
    rw [hhanded, hreceived, hnew, hkept', hblocks, hkept]
    exact ⟨(wholeBlocks_append hM _ _).symm, (leftOver_append hM _ _).symm⟩
  · intro hnot
    rw [hhanded, hreceived, List.length_append]
    by_cases hbefore : CompletesAll M 0 (sizes c.channelNum callbacks)
    · -- this is the first callback that is too short
      obtain ⟨hblocks, hkept⟩ := ha.complete hbefore
      have hcut := congrArg List.length
        (flatten_wholeBlocks_append hM (received c.channelNum callbacks))
      rw [← hblocks, ← hkept, List.length_append] at hcut
      have hlast : ¬ Completes M c.carry.length (callback.data c.channelNum).length := by
        rw [hkept, length_leftOver]
        exact fun hlast => hnot (hsizes.mpr ⟨hbefore, hlast⟩)
      obtain ⟨hnone, hkept'⟩ := hshort hlast
      rw [hnone, hkept', List.append_nil, length_data]
      omega
    · have hless := ha.missing hbefore
      omega

/-- **The account of every run** that starts with nothing left over, and
the mixer's side of it. -/
theorem accounted_of_run (hM : 0 < M) (hsize : c₀.mixerInputSize = .ok (M : Int))
    (hrem : c₀.remainingData = 0)
    (hpos : ∀ callback ∈ callbacks, 0 < callback.size c₀.channelNum)
    (hrun : (recordAndMixMachine P).run c₀ callbacks = .ok (c, replies)) :
    Accounted M c₀.channelNum callbacks replies c ∧
      MixesBlocks P M c₀.mixer (handedBy replies) c.mixer := by
  let H : List RecordCallback → List Delivered → AudioMixerTestController σ ρ α γ → Prop :=
    fun callbacks replies c => (∀ callback ∈ callbacks, 0 < callback.size c₀.channelNum) →
      c.settings = c₀.settings ∧ Within M c ∧ Accounted M c₀.channelNum callbacks replies c ∧
        MixesBlocks P M c₀.mixer (handedBy replies) c.mixer
  have hstart : H [] [] c₀ := by
    intro _
    have hempty : c₀.carry = [] := by simp [AudioMixerTestController.carry, hrem]
    refine ⟨rfl, ⟨by omega, by omega⟩, ⟨?_, ?_, ?_, ?_⟩, .start⟩
    · simp [handedBy]
    · simp
    · intro _
      rw [hempty]
      exact ⟨(wholeBlocks_of_lt hM).symm, (leftOver_of_lt hM).symm⟩
    · exact fun hnot => absurd trivial hnot
  have hstep : ∀ callbacks replies c callback c' reply, H callbacks replies c →
      (recordAndMixMachine P).step c callback = .ok (c', reply) →
      H (callbacks ++ [callback]) (replies ++ [reply]) c' := by
    intro callbacks replies c callback c' reply hH hstep hall
    obtain ⟨hsettings, hwithin, ha, hmixes⟩ := hH fun cb hcb => hall cb (by simp [hcb])
    have hchannels : c.channelNum = c₀.channelNum := congrArg (fun s => s.2.1) hsettings
    rw [← hchannels] at ha hall ⊢
    have hblock := (mixerInputSize_of_settings hsettings).trans hsize
    obtain ⟨hsettings', hwithin', ha'⟩ := ha.step hM hblock hwithin (hall callback (by simp)) hstep
    refine ⟨hsettings'.trans hsettings, hwithin', ha', ?_⟩
    have hnew := hmixes.trans (deliver_mixes hblock (recordAndMix_step hstep).1)
    simpa [handedBy] using hnew
  exact (Machine.run_history H hstep hstart hrun hpos).2.2

/-- Nothing is lost exactly when every callback completes the block it
finds. -/
theorem reblocked_iff (hM : 0 < M) (ha : Accounted M channelNum callbacks replies c) :
    Reblocked M channelNum callbacks replies c ↔
      CompletesAll M 0 (sizes channelNum callbacks) := by
  constructor
  · intro h
    by_contra hnot
    have hless := ha.missing hnot
    have hequal := congrArg List.length h.conserved
    rw [List.length_append] at hequal
    rw [AudioMixerTestController.carry] at hless
    omega
  · intro hall
    obtain ⟨hblocks, hkept⟩ := ha.complete hall
    refine ⟨?_, ha.whole, ha.bounded⟩
    rw [hblocks]
    refine (congrArg _ hkept).trans ?_
    exact flatten_wholeBlocks_append hM _

end Runs

/-! ## Callbacks return -/

/-- The mixers of `S` take block after block: `addRecordedData` and `mix`
return, and the mixer is one of `S` again. -/
def TakesBlocks (P : Platform σ ρ α γ) (M : Nat) (S : PYAAudioMixer σ ρ α γ → Prop) : Prop :=
  ∀ mixer, S mixer → ∀ data uninit, ∃ mixer₁ mixer₂ mixed,
    mixer.addRecordedData P 2 data (Int32.ofInt M) uninit = .ok mixer₁ ∧
    mixer₁.mix P uninit = .ok (mixer₂, mixed) ∧ S mixer₂

section Returns

open AudioMixerTestController

variable {P : Platform σ ρ α γ} {c₀ c : AudioMixerTestController σ ρ α γ} {d : Delivery σ ρ α γ}
  {M : Nat} {S : PYAAudioMixer σ ρ α γ → Prop}

/-- A controller whose mixer takes blocks, and whose buffer holds one. -/
structure Serves (S : PYAAudioMixer σ ρ α γ → Prop) (M : Nat)
    (c : AudioMixerTestController σ ρ α γ) : Prop where
  mixer : S c.mixer
  room : M ≤ c.bufferLength

/-- What lies in the buffer does not matter. -/
theorem Serves.withBuffer (hc : Serves S M c) (buffer : Nat → UInt8) :
    Serves S M { c with buffer } :=
  ⟨hc.mixer, hc.room⟩

theorem mixBlock_returns (hS : TakesBlocks P M S) (hc : Serves S M c) (uninit : Nat → Int16) :
    ∃ mixer dump, c.mixBlock P M uninit = .ok { c with mixer, dump } ∧ S mixer := by
  obtain ⟨mixer₁, mixer₂, mixed, hadd, hmix, hserves⟩ := hS c.mixer hc.mixer c.buffer uninit
  refine ⟨mixer₂, c.dump ++ firstN mixed.data (mixed.size.toNat / 2), ?_, hserves⟩
  simp only [mixBlock, hadd, hmix, bind, Except.bind, pure, Except.pure]

theorem fillRemaining_returns (hS : TakesBlocks P M S) (hc : Serves S M d.controller)
    (hwithin : Within M d.controller) (hsize : 0 ≤ d.recordedSize) (buf : Nat → UInt8)
    (uninit : Nat → Int16) :
    ∃ d', fillRemaining P buf M uninit d = .ok d' ∧ Serves S M d'.controller := by
  have hlt := hwithin.lt
  have hroom := hc.room
  unfold fillRemaining
  by_cases hrem : 0 < d.controller.remainingData
  · have hcopy := memcpyToBuffer_of_le d.controller d.controller.remainingData buf
      (min d.recordedSize (M - d.controller.remainingData)) (by omega) (by omega)
    rw [if_pos hrem]
    simp only [hcopy, bind, Except.bind, pure, Except.pure]
    split
    · obtain ⟨mixer, dump, hmix, hserves⟩ := mixBlock_returns hS
        (hc.withBuffer (copy d.controller.buffer d.controller.remainingData.toNat buf
          (min d.recordedSize (M - d.controller.remainingData)).toNat)) uninit
      rw [hmix]
      exact ⟨_, rfl, hserves, hroom⟩
    · exact ⟨_, rfl, hc.mixer, hroom⟩
  · rw [if_neg hrem]
    exact ⟨d, rfl, hc⟩

/-- A pass ends the loop, or leaves less data. -/
theorem deliverBody_returns (hM : 0 < M) (hS : TakesBlocks P M S) (hc : Serves S M d.controller)
    (buf : Nat → UInt8) (uninit : Nat → Int16) :
    (∃ d', deliverBody P buf M uninit d = .done (.ok d') ∧ Serves S M d'.controller) ∨
    (∃ d', deliverBody P buf M uninit d = .next d' ∧ Serves S M d'.controller ∧
      d'.recordedSize.toNat < d.recordedSize.toNat) := by
  have hroom := hc.room
  unfold deliverBody
  by_cases hsome : 0 < d.recordedSize
  · have hcopy := memcpyToBuffer_of_le d.controller 0 (fun i => buf (i + d.bufReadPos.toNat))
      (min d.recordedSize M) (by omega) (by omega)
    rw [if_pos hsome]
    simp only [hcopy]
    by_cases hshort : d.recordedSize < M
    · rw [if_pos hshort]
      exact .inl ⟨_, rfl, hc.mixer, hroom⟩
    · rw [if_neg hshort]
      obtain ⟨mixer, dump, hmix, hserves⟩ := mixBlock_returns hS
        (hc.withBuffer (copy d.controller.buffer (0 : Int).toNat
          (fun i => buf (i + d.bufReadPos.toNat)) (min d.recordedSize M).toNat)) uninit
      rw [hmix]
      refine .inr ⟨_, rfl, ⟨hserves, hroom⟩, ?_⟩
      show (d.recordedSize - (M : Int)).toNat < d.recordedSize.toNat
      omega
  · rw [if_neg hsome]
    exact .inl ⟨d, rfl, hc⟩

/-- **The loop ends**, in no more passes than it is given. -/
theorem deliverLoop_returns (hM : 0 < M) (hS : TakesBlocks P M S) (hc : Serves S M d.controller)
    (buf : Nat → UInt8) (uninit : Nat → Int16) :
    ∃ d', deliverLoop P buf M uninit d = .ok d' ∧ Serves S M d'.controller := by
  have hnext : ∀ e e', Serves S M e.controller → deliverBody P buf M uninit e = .next e' →
      Serves S M e'.controller ∧ e'.recordedSize.toNat < e.recordedSize.toNat := by
    intro e e' he hbody
    rcases deliverBody_returns hM hS he buf uninit with ⟨_, hdone, _⟩ | ⟨e₁, hnext, hserves⟩
    · rw [hdone] at hbody
      cases hbody
    · rw [hnext] at hbody
      cases hbody
      exact hserves
  have hdone : ∀ e r, Serves S M e.controller → deliverBody P buf M uninit e = .done r →
      ∃ e', r = .ok e' ∧ Serves S M e'.controller := by
    intro e r he hbody
    rcases deliverBody_returns hM hS he buf uninit with ⟨e₁, hdone, hserves⟩ | ⟨_, hnext, _⟩
    · rw [hdone] at hbody
      cases hbody
      exact ⟨e₁, rfl, hserves⟩
    · rw [hnext] at hbody
      cases hbody
  obtain ⟨r, hloop⟩ := loop_of_measure (fun e : Delivery σ ρ α γ => Serves S M e.controller)
    (fun e => e.recordedSize.toNat) hnext hc (Nat.lt_succ_self d.recordedSize.toNat)
  obtain ⟨d', rfl, hserves⟩ := loop_invariant
    (fun e : Delivery σ ρ α γ => Serves S M e.controller)
    (fun r => ∃ d', r = .ok d' ∧ Serves S M d'.controller)
    (fun e e' he hbody => (hnext e e' he hbody).1) hdone hc hloop
  refine ⟨d', ?_, hserves⟩
  rw [deliverLoop, hloop]
  rfl

theorem deliver_returns (hM : 0 < M) (hS : TakesBlocks P M S) (hc : Serves S M c)
    (hsize : c.mixerInputSize = .ok (M : Int)) (hwithin : Within M c) {callback : RecordCallback}
    (hpos : 0 < callback.size c.channelNum) (hint : IsInt32 (callback.size c.channelNum)) :
    ∃ c' handed, c.deliverRecordAndMixedData P callback = .ok (c', handed) ∧ Serves S M c' := by
  have hbytes : callback.size c.channelNum
      = callback.numFrames.toInt * c.channelNum.toInt * 2 := rfl
  have hsamples : IsInt32 (callback.numFrames.toInt * c.channelNum.toInt) := by
    obtain ⟨hlow, hhigh⟩ := hint
    constructor <;> omega
  have hrecorded : c.recordedSize callback.numFrames = .ok (callback.size c.channelNum) := by
    simp only [recordedSize, mulInt32_of_fits hsamples, bind, Except.bind]
    exact mulInt32_of_fits hint
  obtain ⟨d, hfill, hd⟩ := fillRemaining_returns (P := P)
    (d := ⟨c, callback.size c.channelNum, 0, []⟩) hS hc hwithin (Int.le_of_lt hpos) callback.buf
    callback.uninit
  obtain ⟨d', hloop, hd'⟩ := deliverLoop_returns hM hS hd callback.buf callback.uninit
  refine ⟨d'.controller, d'.handed, ?_, hd'⟩
  simp only [deliverRecordAndMixedData, hrecorded, hsize, hfill, hloop, bind, Except.bind, pure,
    Except.pure]

/-- **Every run returns** while the mixer takes the blocks, the buffer
holds one, and the sizes are `int`s. -/
theorem run_returns (hM : 0 < M) (hS : TakesBlocks P M S) (hc₀ : Serves S M c₀)
    (hsize : c₀.mixerInputSize = .ok (M : Int)) (hrem : c₀.remainingData = 0)
    {callbacks : List RecordCallback}
    (hcallbacks : ∀ callback ∈ callbacks,
      0 < callback.size c₀.channelNum ∧ IsInt32 (callback.size c₀.channelNum)) :
    ∃ c replies, (recordAndMixMachine P).run c₀ callbacks = .ok (c, replies) := by
  have hstep : ∀ c callback, (c.settings = c₀.settings ∧ Within M c ∧ Serves S M c) →
      (0 < callback.size c₀.channelNum ∧ IsInt32 (callback.size c₀.channelNum)) →
      ∃ c' reply bound, (c'.settings = c₀.settings ∧ Within M c' ∧ Serves S M c') ∧
        ∀ fuel : Nat, bound ≤ fuel →
          (recordAndMixMachine P).step c callback = .ok (c', reply) := by
    intro c callback hI hcallback
    obtain ⟨hsettings, hwithin, hserves⟩ := hI
    have hchannels : c.channelNum = c₀.channelNum := congrArg (fun s => s.2.1) hsettings
    have hblock := (mixerInputSize_of_settings hsettings).trans hsize
    rw [← hchannels] at hcallback
    obtain ⟨c', handed, hdeliver, hserves'⟩ :=
      deliver_returns hM hS hserves hblock hwithin hcallback.1 hcallback.2
    obtain ⟨hsettings', hwithin', -⟩ := deliver_spec hM hblock hwithin hcallback.1 hdeliver
    refine ⟨c', ⟨handed, c'.remainingData⟩, 0,
      ⟨hsettings'.trans hsettings, hwithin', hserves'⟩, fun _ _ => ?_⟩
    simp only [recordAndMixMachine, hdeliver, bind, Except.bind, pure, Except.pure]
  obtain ⟨c, replies, bound, -, hrun⟩ := Machine.run_ends
    (M := fun _ => recordAndMixMachine P) _ _ hstep ⟨rfl, ⟨by omega, by omega⟩, hc₀⟩ hcallbacks
  exact ⟨c, replies, hrun bound (Nat.le_refl bound)⟩

end Returns

/-! ## The record test -/

/-- `doRecordAndMix` starts with nothing left over and blocks of 10 ms,
for which `_buffer` has room on both builds. -/
theorem doRecordAndMix_starts {P : Platform σ ρ α γ} {kChannelNum : Int32} {path : String}
    {malloced : Nat → UInt8} {uninit : Nat → Int16} {c : AudioMixerTestController σ ρ α γ}
    (hchannels : kChannelNum = 1 ∨ kChannelNum = 2)
    (h : AudioMixerTestController.doRecordAndMix P kChannelNum path malloced uninit = .ok c) :
    ∃ M : Nat, 0 < M ∧ c.mixerInputSize = .ok (M : Int) ∧ M ≤ c.bufferLength ∧
      c.remainingData = 0 := by
  simp only [AudioMixerTestController.doRecordAndMix, bind_eq_ok] at h
  obtain ⟨mixer, _, hret⟩ := h
  cases hret
  rcases hchannels with rfl | rfl
  · refine ⟨960, by decide, ?_, by show 960 ≤ 7860; decide, rfl⟩
    simp only [AudioMixerTestController.mixerInputSize]
    rfl
  · refine ⟨1920, by decide, ?_, by show 1920 ≤ 7860; decide, rfl⟩
    simp only [AudioMixerTestController.mixerInputSize]
    rfl

/-- **When re-blocking loses nothing**: from every controller with nothing
left over and blocks of at least a byte, for all callbacks of positive
sizes. A run loses nothing exactly when each of its callbacks completes
the block it finds, if it finds one; the blocks are those the mixer was
given and mixed; and a run does return while the mixer takes the blocks,
the buffer holds one, and the sizes are `int`s. -/
theorem reblocking_lossless_iff (P : Platform σ ρ α γ)
    (c₀ : AudioMixerTestController σ ρ α γ) (M : Nat) (hM : 0 < M)
    (hsize : c₀.mixerInputSize = .ok (M : Int)) (hrem : c₀.remainingData = 0)
    (callbacks : List RecordCallback)
    (hpos : ∀ callback ∈ callbacks, 0 < callback.size c₀.channelNum) :
    (∀ c replies, (recordAndMixMachine P).run c₀ callbacks = .ok (c, replies) →
      (Reblocked M c₀.channelNum callbacks replies c ↔
        CompletesAll M 0 (sizes c₀.channelNum callbacks)) ∧
      MixesBlocks P M c₀.mixer (handedBy replies) c.mixer) ∧
    (∀ S, TakesBlocks P M S → S c₀.mixer → M ≤ c₀.bufferLength →
      (∀ callback ∈ callbacks, IsInt32 (callback.size c₀.channelNum)) →
      ∃ c replies, (recordAndMixMachine P).run c₀ callbacks = .ok (c, replies)) := by
  refine ⟨?_, ?_⟩
  · intro c replies hrun
    obtain ⟨ha, hmixes⟩ := accounted_of_run hM hsize hrem hpos hrun
    exact ⟨reblocked_iff hM ha, hmixes⟩
  · intro S hS hmixer hroom hint
    exact run_returns hM hS ⟨hmixer, hroom⟩ hsize hrem
      fun callback hmem => ⟨hpos callback hmem, hint callback hmem⟩

/-- A callback of so many sample frames. -/
def framesCallback (numFrames : Int32) : RecordCallback where
  buf i := i.toUInt8
  numFrames := numFrames
  uninit _ := 0

/-- 5 ms and then 2.5 ms of mono at 48000 Hz: of the 720 bytes 480 are
kept, none is handed over, and the next callback writes over the rest. -/
theorem reblocking_drops_short_callback :
    ∃ c₀ c replies,
      AudioMixerTestController.doRecordAndMix smallPlatform 1 "" (fun _ => 0) (fun _ => 0)
        = .ok c₀ ∧
      c₀.mixerInputSize = .ok 960 ∧ c₀.remainingData = 0 ∧
      (recordAndMixMachine smallPlatform).run c₀ [framesCallback 240, framesCallback 120]
        = .ok (c, replies) ∧
      (received c₀.channelNum [framesCallback 240, framesCallback 120]).length = 720 ∧
      handedBy replies = [] ∧ c.remainingData = 480 ∧
      ¬ Reblocked 960 c₀.channelNum [framesCallback 240, framesCallback 120] replies c := by
  obtain ⟨c₀, c, replies, hc₀, hsize, hrem, hrun, hhanded, hkept, hchannels⟩ :
      ∃ c₀ c replies,
        AudioMixerTestController.doRecordAndMix smallPlatform 1 "" (fun _ => 0) (fun _ => 0)
          = .ok c₀ ∧
        c₀.mixerInputSize = .ok 960 ∧ c₀.remainingData = 0 ∧
        (recordAndMixMachine smallPlatform).run c₀ [framesCallback 240, framesCallback 120]
          = .ok (c, replies) ∧
        handedBy replies = [] ∧ c.remainingData = 480 ∧ c₀.channelNum = 1 :=
    ⟨_, _, _, rfl, rfl, rfl, rfl, rfl, rfl, rfl⟩
  have hlength :
      (received c₀.channelNum [framesCallback 240, framesCallback 120]).length = 720 := by
    rw [hchannels]
    simp only [received, List.flatMap_cons, List.length_append, length_data]
    rfl
  refine ⟨c₀, c, replies, hc₀, hsize, hrem, hrun, hlength, hhanded, hkept, fun h => ?_⟩
  have hconserved := congrArg List.length h.conserved
  rw [hlength, hhanded, hkept] at hconserved
  simp at hconserved

/-- 5 ms and then 10 ms: the second callback completes a block and leaves
5 ms over. -/
theorem reblocking_lossless_half_block :
    ∃ c₀ c replies,
      AudioMixerTestController.doRecordAndMix smallPlatform 1 "" (fun _ => 0) (fun _ => 0)
        = .ok c₀ ∧
      (recordAndMixMachine smallPlatform).run c₀ [framesCallback 240, framesCallback 480]
        = .ok (c, replies) ∧
      (handedBy replies).length = 1 ∧ c.remainingData = 480 ∧
      Reblocked 960 c₀.channelNum [framesCallback 240, framesCallback 480] replies c := by
  obtain ⟨c₀, c, replies, hc₀, hsize, hrem, hrun, hhanded, hkept, hchannels⟩ :
      ∃ c₀ c replies,
        AudioMixerTestController.doRecordAndMix smallPlatform 1 "" (fun _ => 0) (fun _ => 0)
          = .ok c₀ ∧
        c₀.mixerInputSize = .ok 960 ∧ c₀.remainingData = 0 ∧
        (recordAndMixMachine smallPlatform).run c₀ [framesCallback 240, framesCallback 480]
          = .ok (c, replies) ∧
        (handedBy replies).length = 1 ∧ c.remainingData = 480 ∧ c₀.channelNum = 1 :=
    ⟨_, _, _, rfl, rfl, rfl, rfl, rfl, rfl, rfl⟩
  have hpos : ∀ callback ∈ [framesCallback 240, framesCallback 480],
      0 < callback.size c₀.channelNum := by
    rw [hchannels]
    decide
  refine ⟨c₀, c, replies, hc₀, hrun, hhanded, hkept, ?_⟩
  refine ((reblocking_lossless_iff smallPlatform c₀ 960 (by decide) hsize hrem _ hpos).1 c replies
    hrun).1.mpr ?_
  rw [hchannels]
  decide

end L4AudioMixer.Ios
