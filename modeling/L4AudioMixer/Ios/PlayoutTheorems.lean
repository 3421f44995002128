/-
L4AudioMixer.Ios.PlayoutTheorems — what the playout device hears.

`deliver_serves` is about the two steps every `deliver…Data` method has in
common, for any supply of blocks of one size: as long as the supply lasts,
a callback is served, and when it does not last, the callback fails. The
loop lemma is by induction on the bound; in front of each pass that takes
a block nothing is left over from the one before.

A `BlockTest` is a test whose callbacks are such deliveries.
`start_serves` and `run_fails` are about all its runs: what is heard is
the front of the blocks, whatever the sizes of the callbacks are. The
modules behind this one say for each test what its blocks are and how
many there are.
-/
import L4AudioMixer.Lib.Serving
import L4AudioMixer.Ios.Playout

namespace L4AudioMixer.Ios

open L4AudioMixer.Lib
open L4AudioMixer.Libav
open L4AudioMixer.Source
open L4AudioMixer.Mixer

variable {σ ρ α γ κ ω : Type}

@[simp] theorem libraryCall_eq_ok {β : Type} {x : Except Fault β} {b : β} :
    libraryCall x = .ok b ↔ x = .ok b := by
  cases x <;> simp [libraryCall, Except.mapError]

/-! ## Bytes -/

theorem length_pcmBytes (xs : List Int16) : (pcmBytes xs).length = 2 * xs.length := by
  induction xs with
  | nil => rfl
  | cons x xs ih =>
      have hcons : pcmBytes (x :: xs) = elementBytes 2 x ++ pcmBytes xs := rfl
      rw [hcons, List.length_append, ih, List.length_cons]
      have htwo : (elementBytes 2 x).length = 2 := rfl
      omega

/-- The bytes of the first elements are the first bytes. -/
theorem firstN_asBytes (data : Nat → Int16) (n : Nat) :
    firstN (asBytes data) (2 * n) = pcmBytes (firstN data n) := by
  induction n generalizing data with
  | zero => rfl
  | succ n ih =>
      have hcons : pcmBytes (firstN data (n + 1))
          = elementBytes 2 (data 0) ++ pcmBytes (firstN (fun i => data (i + 1)) n) := by
        rw [firstN_succ]
        rfl
      have hnext : (fun i => asBytes data (i + 1 + 1)) = asBytes fun i => data (i + 1) := by
        funext i
        have hhalf : (i + 1 + 1) / 2 = i / 2 + 1 := by omega
        have hparity : (i + 1 + 1) % 2 = i % 2 := by omega
        simp only [asBytes, hhalf, hparity]
      rw [hcons, ← ih, ← hnext, show 2 * (n + 1) = 2 * n + 1 + 1 by omega, firstN_succ,
        firstN_succ]
      rfl

/-! ## Supplies -/

namespace BlockSupply

/-- The blocks of a supply, as the replies of a machine. -/
def machine (B : BlockSupply κ ω) : Machine κ ω (List UInt8) PlayoutFault where
  step members uninit :=
    match B.next members uninit with
    | .error fault => .error fault
    | .ok (members', n) =>
        match B.data members' with
        | none => .error .nullPointer
        | some data => .ok (members', firstN data n.toNat)

/-- What `_remainingData` counts, where it is looked for. -/
def left (B : BlockSupply κ ω) (members : κ) (remainingData : Int) : List UInt8 :=
  match B.data members with
  | none => []
  | some data =>
      firstN (fun i => data (i + (B.size members - remainingData).toNat)) remainingData.toNat

/-- `I j` are states in which the supply has `j` more blocks of `b` bytes
to give, whatever is in fresh memory. -/
structure Lasts (B : BlockSupply κ ω) (b : Nat) (I : Nat → κ → Prop) : Prop where
  pos : 0 < b
  fits : b ≤ B.length
  more : ∀ j members, I (j + 1) members → ∃ members' data,
    (∀ uninit, B.next members uninit = .ok (members', (b : Int))) ∧ I j members' ∧
    B.size members' = b ∧ B.data members' = some data

/-- A supply that has no more blocks gives an error code for their size. -/
def Ends (B : BlockSupply κ ω) (I : Nat → κ → Prop) : Prop :=
  ∀ members uninit, I 0 members → ∃ members' n data,
    B.next members uninit = .ok (members', n) ∧ n < 0 ∧ B.data members' = some data

theorem left_zero (B : BlockSupply κ ω) (members : κ) : B.left members 0 = [] := by
  unfold left
  split <;> rfl

end BlockSupply

section Deliver

variable {B : BlockSupply κ ω} {b : Nat} {I : Nat → κ → Prop} {j : Nat} {d d' d'' : Playing κ}
  {out out' : List UInt8}

/-- The rest of a block of `b` bytes lies where it is looked for. -/
structure Holds (B : BlockSupply κ ω) (b : Nat) (members : κ) (remainingData : Int) : Prop where
  remaining : 0 ≤ remainingData
  short : remainingData < b
  kept : 0 < remainingData → B.size members = b ∧ ∃ data, B.data members = some data

/-- The variables between two statements of the method. -/
structure Ready (B : BlockSupply κ ω) (b : Nat) (d : Playing κ) : Prop
    extends Holds B b d.supply d.remainingData where
  wanted : 0 ≤ d.wantedSize
  pos : 0 ≤ d.bufWritePos

/-- `out` was delivered between `d` and `d'`, and nothing else; `k` blocks
were taken for it. -/
structure Delivers (B : BlockSupply κ ω) (uninit : ω) (k : Nat) (d d' : Playing κ)
    (out : List UInt8) : Prop where
  served : Served B.machine d.supply (B.left d.supply d.remainingData)
    (List.replicate k uninit) d'.supply (B.left d'.supply d'.remainingData) out
  wanted : d'.wantedSize = d.wantedSize - out.length
  pos : d'.bufWritePos = d.bufWritePos + out.length
  written : firstN d'.buf d'.bufWritePos.toNat = firstN d.buf d.bufWritePos.toNat ++ out
  behind : ∀ i, d'.bufWritePos.toNat ≤ i → d'.buf i = d.buf i

theorem Delivers.refl (B : BlockSupply κ ω) (uninit : ω) (d : Playing κ) :
    Delivers B uninit 0 d d [] where
  served := Served.nil _ _ _
  wanted := by simp
  pos := by simp
  written := by simp
  behind _ _ := rfl

theorem Delivers.trans {uninit : ω} {k k' : Nat} (h : Delivers B uninit k d d' out)
    (h' : Delivers B uninit k' d' d'' out') :
    Delivers B uninit (k + k') d d'' (out ++ out') where
  served := by
    rw [List.replicate_add]
    exact h.served.trans h'.served
  wanted := by
    rw [h'.wanted, h.wanted, List.length_append]
    omega
  pos := by
    rw [h'.pos, h.pos, List.length_append]
    omega
  written := by rw [h'.written, h.written, List.append_assoc]
  behind i hi := by
    have hpos := h'.pos
    rw [h'.behind i hi, h.behind i (by omega)]

/-! ### The two steps -/

theorem memcpyToDevice_of_le (buf : Nat → UInt8) (pos : Int) (src : Nat → UInt8) (length : Nat)
    (offset size : Int) (hsize : 0 ≤ size) (hoffset : 0 ≤ offset) (h : offset + size ≤ length) :
    memcpyToDevice buf pos (some src) length offset size
      = .ok (copy buf pos.toNat (fun i => src (i + offset.toNat)) size.toNat) := by
  have hcond : 0 ≤ size ∧ 0 ≤ offset ∧ offset + size ≤ length := ⟨hsize, hoffset, h⟩
  simp only [memcpyToDevice, require, decide_eq_true hcond, if_true, libraryCall, Except.mapError,
    bind, Except.bind, pure, Except.pure]

theorem memcpyToDevice_of_neg {size : Int} (hsize : size < 0) (buf : Nat → UInt8) (pos : Int)
    (src : Nat → UInt8) (length : Nat) (offset : Int) :
    memcpyToDevice buf pos (some src) length offset size = .error (.fault .invalidCopy) := by
  have hcond : ¬ (0 ≤ size ∧ 0 ≤ offset ∧ offset + size ≤ length) := by omega
  simp only [memcpyToDevice, require, decide_eq_false hcond, libraryCall, Except.mapError, bind,
    Except.bind]
  rfl

/-- Bytes copied to the write position are delivered. -/
theorem delivered_copy (buf : Nat → UInt8) {pos : Int} (hpos : 0 ≤ pos) (src : Nat → UInt8)
    (size : Int) (hsize : 0 ≤ size) :
    firstN (copy buf pos.toNat src size.toNat) (pos + size).toNat
        = firstN buf pos.toNat ++ firstN src size.toNat ∧
      ∀ i, (pos + size).toNat ≤ i → copy buf pos.toNat src size.toNat i = buf i := by
  have hsum : (pos + size).toNat = pos.toNat + size.toNat := by omega
  refine ⟨by rw [hsum, firstN_copy_append], fun i hi => ?_⟩
  simp only [copy]
  rw [if_neg (by omega)]

/-- **What is left over is delivered first.** -/
theorem takeRemaining_delivers (hB : B.Lasts b I) (hd : Ready B b d) (hpos : d.bufWritePos = 0)
    (uninit : ω) :
    ∃ d' out, takeRemaining B d = .ok d' ∧ Ready B b d' ∧ Delivers B uninit 0 d d' out ∧
      d'.supply = d.supply ∧ d'.remainingData + out.length = d.remainingData ∧
      (0 < d'.wantedSize → d'.remainingData = 0) := by
  have hrem := hd.remaining
  have hwanted := hd.wanted
  have hshort := hd.short
  by_cases hleft : 0 < d.remainingData
  · obtain ⟨hsize, data, hdata⟩ := hd.kept hleft
    have hfits := hB.fits
    obtain ⟨n, hn⟩ : ∃ n, n = min d.remainingData d.wantedSize := ⟨_, rfl⟩
    have hcopy := memcpyToDevice_of_le d.buf d.bufWritePos data B.length (b - d.remainingData) n
      (by omega) (by omega) (by omega)
    obtain ⟨hwritten, hbehind⟩ := delivered_copy d.buf (Int.le_of_eq hpos.symm)
      (fun i => data (i + ((b : Int) - d.remainingData).toNat)) n (by omega)
    have hout : ((firstN (fun i => data (i + ((b : Int) - d.remainingData).toNat)) n.toNat).length
        : Int) = n := by
      rw [length_firstN]
      omega
    refine ⟨{ d with
        remainingData := d.remainingData - n, wantedSize := d.wantedSize - n
        bufWritePos := d.bufWritePos + n
        buf := copy d.buf d.bufWritePos.toNat
          (fun i => data (i + ((b : Int) - d.remainingData).toNat)) n.toNat },
      firstN (fun i => data (i + ((b : Int) - d.remainingData).toNat)) n.toNat, ?_, ?_, ?_, rfl,
      ?_, ?_⟩
    · rw [hpos] at hcopy
      simp only [takeRemaining, if_pos hleft, hdata, hsize, ← hn, hcopy, hpos, bind, Except.bind,
        pure, Except.pure]
    · have hholds : Holds B b d.supply (d.remainingData - n) :=
        ⟨by omega, by omega, fun _ => ⟨hsize, data, hdata⟩⟩
      exact ⟨hholds, by show 0 ≤ d.wantedSize - n; omega, by show 0 ≤ d.bufWritePos + n; omega⟩
    · refine ⟨?_, by rw [hout], by rw [hout], hwritten, hbehind⟩
      -- the rest is what was left over, without its front
      have hcut : B.left d.supply d.remainingData
          = firstN (fun i => data (i + ((b : Int) - d.remainingData).toNat)) n.toNat
            ++ B.left d.supply (d.remainingData - n) := by
        have hoffset : ∀ i, i + ((b : Int) - (d.remainingData - n)).toNat
            = i + n.toNat + ((b : Int) - d.remainingData).toNat := by omega
        simp only [BlockSupply.left, hdata, hsize, hoffset]
        rw [← firstN_add (fun i => data (i + ((b : Int) - d.remainingData).toNat))]
        congr 1
        omega
      rw [hcut]
      exact Served.of_rest _ _ _ _
    · rw [hout]
      show d.remainingData - n + n = d.remainingData
      omega
    · show 0 < d.wantedSize - n → d.remainingData - n = 0
      omega
  · refine ⟨d, [], if_neg hleft, hd, Delivers.refl B uninit d, rfl, by simp, fun _ => by omega⟩

/-- **A pass of the loop** delivers the front of the next block and keeps
its rest. -/
theorem pullBody_delivers (hB : B.Lasts b I) (hd : Ready B b d) (hI : I (j + 1) d.supply)
    (hwant : 0 < d.wantedSize) (hnone : d.remainingData = 0) (uninit uninit' : ω) :
    ∃ d' out, pullBody B uninit d = .next d' ∧ Ready B b d' ∧ Delivers B uninit' 1 d d' out ∧
      I j d'.supply ∧ d'.remainingData + out.length = b ∧ d'.wantedSize < d.wantedSize ∧
      (0 < d'.wantedSize → d'.remainingData = 0) := by
  obtain ⟨members', data, hnext, hI', hsize, hdata⟩ := hB.more j d.supply hI
  have hb := hB.pos
  have hfits := hB.fits
  have hpos := hd.pos
  -- the block is cut where the request ends
  obtain ⟨n, hn⟩ : ∃ n, n = min (b : Int) d.wantedSize := ⟨_, rfl⟩
  have hcopy := memcpyToDevice_of_le d.buf d.bufWritePos data B.length 0 n
    (by omega) (by omega) (by omega)
  obtain ⟨hwritten, hbehind⟩ := delivered_copy d.buf hpos data n (by omega)
  have hout : ((firstN data n.toNat).length : Int) = n := by
    rw [length_firstN]
    omega
  refine ⟨{
      supply := members', remainingData := b - n, wantedSize := d.wantedSize - n
      bufWritePos := d.bufWritePos + n, buf := copy d.buf d.bufWritePos.toNat data n.toNat },
    firstN data n.toNat, ?_, ?_, ?_, hI', ?_, ?_, ?_⟩
  · simp only [pullBody, if_pos hwant, hnext, ← hn, hdata, hcopy]
    rfl
  · have hholds : Holds B b members' ((b : Int) - n) :=
      ⟨by omega, by omega, fun _ => ⟨hsize, data, hdata⟩⟩
    exact ⟨hholds, by show 0 ≤ d.wantedSize - n; omega, by show 0 ≤ d.bufWritePos + n; omega⟩
  · refine ⟨?_, by rw [hout], by rw [hout], hwritten, hbehind⟩
    rw [hnone, BlockSupply.left_zero]
    refine Served.of_block ?_ ?_
    · have hoffset : ((b : Int) - (b - n)).toNat = n.toNat := by omega
      simp only [BlockSupply.machine, hnext, hdata, BlockSupply.left, hsize, hoffset]
      rw [← firstN_add]
      congr 3
      omega
    · intro hnil
      rw [hnil] at hout
      simp at hout
      omega
  · rw [hout]
    show (b : Int) - n + n = b
    omega
  · show d.wantedSize - n < d.wantedSize
    omega
  · show 0 < d.wantedSize - n → (b : Int) - n = 0
    omega

/-- Without a block, the pass copies a negative number of bytes. -/
theorem pullBody_fails (hends : B.Ends I) (hI : I 0 d.supply) (hwant : 0 < d.wantedSize)
    (uninit : ω) : pullBody B uninit d = .done (.error (.fault .invalidCopy)) := by
  obtain ⟨members', n, data, hnext, hneg, hdata⟩ := hends d.supply uninit hI
  have hnegative : min n d.wantedSize < 0 := by omega
  have hcopy := memcpyToDevice_of_neg hnegative d.buf d.bufWritePos data B.length 0
  simp only [pullBody, if_pos hwant, hnext, hdata, hcopy]

/-! ### The loop -/

theorem add_blocks (k j b : Nat) : ((k + j : Nat) : Int) * b = k * b + j * b := by
  rw [Int.natCast_add, Int.add_mul]

theorem succ_blocks (j b : Nat) : ((j + 1 : Nat) : Int) * b = j * b + b := by
  rw [add_blocks]
  simp

/-- **The loop delivers what is wanted** if the blocks suffice. -/
theorem pullLoop_delivers (hB : B.Lasts b I) (uninit uninit' : ω) :
    ∀ (fuel : Nat) {j : Nat} {d : Playing κ}, Ready B b d → I j d.supply →
      (0 < d.wantedSize → d.remainingData = 0) → d.wantedSize < fuel →
      d.wantedSize ≤ d.remainingData + j * b →
      ∃ d' out k j', loop (pullBody B uninit) fuel d = some (.ok d') ∧ Ready B b d' ∧
        Delivers B uninit' k d d' out ∧ d'.wantedSize = 0 ∧ I j' d'.supply ∧ j = k + j' ∧
        d'.remainingData + out.length = d.remainingData + k * b
  | 0, j, d, hd, _, _, hfuel, _ => by
      have := hd.wanted
      omega
  | fuel + 1, j, d, hd, hI, hnone, hfuel, henough => by
      by_cases hwant : 0 < d.wantedSize
      · have hzero := hnone hwant
        obtain ⟨j, rfl⟩ : ∃ i, j = i + 1 := by
          refine ⟨j - 1, ?_⟩
          cases j with
          | zero => simp at henough; omega
          | succ j => rfl
        obtain ⟨d₁, out, hpass, hd₁, hout, hI₁, hlength, hless, hnone₁⟩ :=
          pullBody_delivers hB hd hI hwant hzero uninit uninit'
        have hwanted₁ := hout.wanted
        rw [succ_blocks] at henough
        obtain ⟨d', out', k, j', hloop, hd', hout', hdone, hI', rfl, hbytes⟩ :=
          pullLoop_delivers hB uninit uninit' fuel hd₁ hI₁ hnone₁ (by omega) (by omega)
        refine ⟨d', out ++ out', 1 + k, j', (loop_next hpass fuel).trans hloop, hd',
          hout.trans hout', hdone, hI', by omega, ?_⟩
        rw [Nat.add_comm 1 k, succ_blocks, List.length_append]
        omega
      · have hwanted := hd.wanted
        refine ⟨d, [], 0, j, loop_done ?_ fuel, hd, Delivers.refl B uninit' d, by omega, hI,
          by omega, by simp⟩
        simp only [pullBody, if_neg hwant]

/-- **The loop fails** if they do not. -/
theorem pullLoop_fails (hB : B.Lasts b I) (hends : B.Ends I) (uninit : ω) :
    ∀ (fuel : Nat) {j : Nat} {d : Playing κ}, Ready B b d → I j d.supply → d.remainingData = 0 →
      d.wantedSize < fuel → j * b < d.wantedSize →
      loop (pullBody B uninit) fuel d = some (.error (.fault .invalidCopy))
  | 0, j, d, hd, _, _, hfuel, _ => by
      have := hd.wanted
      omega
  | fuel + 1, 0, d, hd, hI, hzero, hfuel, hshort => by
      exact loop_done (pullBody_fails hends hI (by simpa using hshort) uninit) fuel
  | fuel + 1, j + 1, d, hd, hI, hzero, hfuel, hshort => by
      rw [succ_blocks] at hshort
      have hblocks : (0 : Int) ≤ j * b := Int.mul_nonneg (by omega) (by omega)
      obtain ⟨d₁, out, hpass, hd₁, hout, hI₁, hlength, hless, hnone₁⟩ :=
        pullBody_delivers hB hd hI (by omega) hzero uninit uninit
      have hwanted₁ := hout.wanted
      have hrem₁ := hd₁.remaining
      have hloop := pullLoop_fails hB hends uninit fuel hd₁ hI₁ (hnone₁ (by omega)) (by omega)
        (by omega)
      exact (loop_next hpass fuel).trans hloop

/-! ### A callback -/

variable {members : κ} {remainingData wantedSize : Int}

/-- **A callback is served** while the supply lasts. -/
theorem deliver_serves (hB : B.Lasts b I) (hk : Holds B b members remainingData)
    (hI : I j members) (hwanted : 0 ≤ wantedSize) (henough : wantedSize ≤ remainingData + j * b)
    (buf : Nat → UInt8) (uninit uninit' : ω) :
    ∃ d k j', deliver B members remainingData wantedSize buf uninit = .ok d ∧
      Holds B b d.supply d.remainingData ∧ I j' d.supply ∧ j = k + j' ∧
      d.remainingData + wantedSize = remainingData + k * b ∧
      Served B.machine members (B.left members remainingData) (List.replicate k uninit') d.supply
        (B.left d.supply d.remainingData) (firstN d.buf wantedSize.toNat) ∧
      ∀ i, wantedSize.toNat ≤ i → d.buf i = buf i := by
  have hstart : Ready B b { supply := members, remainingData, wantedSize, bufWritePos := 0, buf } :=
    ⟨hk, hwanted, Int.le_refl 0⟩
  obtain ⟨d₁, out, htake, hd₁, hout, hsupply, hlength, hnone⟩ :=
    takeRemaining_delivers hB hstart rfl uninit'
  have hwanted₁ : d₁.wantedSize = wantedSize - out.length := hout.wanted
  have hlength₁ : d₁.remainingData + out.length = remainingData := hlength
  have hI₁ : I j d₁.supply := by
    rw [hsupply]
    exact hI
  obtain ⟨d, out', k, j', hloop, hd, hout', hdone, hI', hj, hbytes⟩ :=
    pullLoop_delivers hB uninit uninit' (wantedSize.toNat + 1) hd₁ hI₁ hnone
      (by omega) (by omega)
  have hall := hout.trans hout'
  rw [Nat.zero_add] at hall
  have hpos : d.bufWritePos = wantedSize := by
    have hpos := hall.pos
    have hwanted' := hall.wanted
    simp only at hpos hwanted'
    omega
  have hwritten : firstN d.buf wantedSize.toNat = out ++ out' := by
    have hwritten := hall.written
    rw [hpos] at hwritten
    exact hwritten
  have hwanted' := hout'.wanted
  refine ⟨d, k, j', ?_, hd.toHolds, hI', hj, by omega, ?_, ?_⟩
  · simp only [deliver, htake, hloop, bind, Except.bind, Option.getD_some]
  · rw [hwritten]
    exact hall.served
  · intro i hi
    exact hall.behind i (by rw [hpos]; exact hi)

/-- **A callback that asks for more fails**. -/
theorem deliver_fails (hB : B.Lasts b I) (hends : B.Ends I)
    (hk : Holds B b members remainingData) (hI : I j members)
    (hshort : remainingData + j * b < wantedSize) (buf : Nat → UInt8) (uninit : ω) :
    deliver B members remainingData wantedSize buf uninit = .error (.fault .invalidCopy) := by
  have hblocks : (0 : Int) ≤ j * b := Int.mul_nonneg (by omega) (by omega)
  have hremaining := hk.remaining
  have hstart : Ready B b { supply := members, remainingData, wantedSize, bufWritePos := 0, buf } :=
    ⟨hk, by show 0 ≤ wantedSize; omega, Int.le_refl 0⟩
  obtain ⟨d₁, out, htake, hd₁, hout, hsupply, hlength, hnone⟩ :=
    takeRemaining_delivers hB hstart rfl uninit
  have hwanted₁ : d₁.wantedSize = wantedSize - out.length := hout.wanted
  have hlength₁ : d₁.remainingData + out.length = remainingData := hlength
  have hI₁ : I j d₁.supply := by
    rw [hsupply]
    exact hI
  have hremaining₁ := hd₁.remaining
  have hzero := hnone (by omega)
  have hloop := pullLoop_fails hB hends uninit (wantedSize.toNat + 1) hd₁ hI₁ hzero (by omega)
    (by omega)
  simp only [deliver, htake, hloop, bind, Except.bind, Option.getD_some]

end Deliver

/-! ## Runs of callbacks -/

/-- The number of bytes a callback asks for. -/
def PlayCallback.size (channelNum : Int32) (callback : PlayCallback) : Int :=
  callback.numFrames * channelNum.toInt * kBytesPerSample

/-- A number of bytes, and an `int32_t`. -/
structure PlayCallback.Fits (channelNum : Int32) (callback : PlayCallback) : Prop where
  nonneg : 0 ≤ callback.size channelNum
  int : IsInt32 (callback.size channelNum)

/-- The number of bytes callbacks ask for. -/
def requested (channelNum : Int32) : List PlayCallback → Int
  | [] => 0
  | callback :: callbacks => callback.size channelNum + requested channelNum callbacks

theorem requested_nonneg {channelNum : Int32} {callbacks : List PlayCallback}
    (h : ∀ callback ∈ callbacks, callback.Fits channelNum) :
    0 ≤ requested channelNum callbacks := by
  induction callbacks with
  | nil => exact Int.le_refl 0
  | cons callback callbacks ih =>
      have hfirst := (h callback (by simp)).nonneg
      have hrest := ih fun o ho => h o (by simp [ho])
      simp only [requested]
      omega

/-- A supply that never ends has as many bytes as callbacks ask for. -/
theorem exists_enough {channelNum : Int32} {callbacks : List PlayCallback}
    (h : ∀ callback ∈ callbacks, callback.Fits channelNum) {b : Nat} (hpos : 0 < b) :
    ∃ j : Nat, requested channelNum callbacks ≤ j * b := by
  obtain ⟨j, hj⟩ : ∃ j : Nat, requested channelNum callbacks = j :=
    Int.eq_ofNat_of_zero_le (requested_nonneg h)
  refine ⟨j, ?_⟩
  have hle := Nat.le_mul_of_pos_right j hpos
  have hcast : ((j * b : Nat) : Int) = (j : Int) * b := Int.natCast_mul j b
  omega

/-- What the device hears in a callback. -/
def PlayCallback.heard (channelNum : Int32) (callback : PlayCallback) :
    Option Played → List UInt8
  | none => []
  | some played => firstN played.buf (callback.size channelNum).toNat

/-- What the device hears, one callback after the other. -/
def heard (channelNum : Int32) : List PlayCallback → List (Option Played) → List UInt8
  | callback :: callbacks, played :: rest =>
      callback.heard channelNum played ++ heard channelNum callbacks rest
  | _, _ => []

/-- A callback got as many samples as it asked for, and nothing was
written behind them. -/
def PlayCallback.Filled (channelNum : Int32) (callback : PlayCallback) (reply : Option Played) :
    Prop :=
  ∃ played, reply = some played ∧ played.nSamplesOut = callback.nSamples ∧
    ∀ i, (callback.size channelNum).toNat ≤ i → played.buf i = callback.buf i

/-- Filled callbacks heard what they asked for. -/
theorem length_heard {channelNum : Int32} {callbacks : List PlayCallback}
    {replies : List (Option Played)} (hfits : ∀ callback ∈ callbacks, callback.Fits channelNum)
    (h : List.Forall₂ (PlayCallback.Filled channelNum) callbacks replies) :
    ((heard channelNum callbacks replies).length : Int) = requested channelNum callbacks := by
  induction h with
  | nil => rfl
  | @cons callback reply callbacks replies hfirst hrest ih =>
      obtain ⟨played, rfl, -⟩ := hfirst
      have hnonneg := (hfits callback (by simp)).nonneg
      have hlength := ih fun o ho => hfits o (by simp [ho])
      simp only [heard, PlayCallback.heard, requested, List.length_append, length_firstN]
      omega

theorem isInt32_of_bytes {x : Int} (hnonneg : 0 ≤ x * kBytesPerSample)
    (h : IsInt32 (x * kBytesPerSample)) : IsInt32 x := by
  obtain ⟨-, hhigh⟩ := h
  simp only [kBytesPerSample] at hnonneg hhigh
  exact ⟨by omega, by omega⟩

/-- `wantedSize`, when it is a number of bytes and fits. -/
theorem wantedSize_eq {c : PlayoutController σ ρ α γ} {numFrames : Int}
    (hnonneg : 0 ≤ numFrames * c.channelNum.toInt * kBytesPerSample)
    (hint : IsInt32 (numFrames * c.channelNum.toInt * kBytesPerSample)) :
    c.wantedSize numFrames = .ok (numFrames * c.channelNum.toInt * kBytesPerSample) := by
  simp only [PlayoutController.wantedSize, mulInt32_of_fits (isInt32_of_bytes hnonneg hint), bind,
    Except.bind, mulInt32_of_fits hint]

theorem wantedSize_of_fits {c : PlayoutController σ ρ α γ} {callback : PlayCallback}
    {channelNum : Int32} {size : Int} (hchannels : c.channelNum = channelNum)
    (h : callback.Fits channelNum) (hsize : callback.size channelNum = size) :
    c.wantedSize callback.numFrames = .ok size := by
  subst hchannels
  have hnonneg := h.nonneg
  have hint := h.int
  simp only [PlayCallback.size] at hnonneg hint
  rw [← hsize, PlayCallback.size, wantedSize_eq hnonneg hint]

/-- A test that delivers from blocks: the controllers it is about, and
what a callback is for them. -/
structure BlockTest (E : PlayoutSetup σ ρ α γ) (B : BlockSupply κ ω) where
  Runs : PlayoutController σ ρ α γ → Prop
  members : PlayoutController σ ρ α γ → κ
  fresh : PlayCallback → ω
  put : PlayoutController σ ρ α γ → Playing κ → PlayoutController σ ρ α γ
  runs_put : ∀ c d, Runs c → Runs (put c d)
  members_put : ∀ c d, members (put c d) = d.supply
  remaining_put : ∀ c d, (put c d).remainingData = d.remainingData
  step_eq : ∀ c callback size, Runs c → callback.Fits E.kChannelNum →
    callback.size E.kChannelNum = size → (deviceMachine E).step c callback = do
      let d ← deliver B (members c) c.remainingData size callback.buf (fresh callback)
      return (put c d, some { nSamplesOut := callback.nSamples, buf := d.buf })

namespace BlockTest

variable {E : PlayoutSetup σ ρ α γ} {B : BlockSupply κ ω} {b : Nat} {I : Nat → κ → Prop} {j : Nat}
  {c : PlayoutController σ ρ α γ} {callbacks : List PlayCallback}

/-- **Callbacks are served** while the supply lasts, as one request. -/
theorem run_serves (T : BlockTest E B) (hB : B.Lasts b I) (uninit : ω) (hc : T.Runs c)
    (hk : Holds B b (T.members c) c.remainingData) (hI : I j (T.members c))
    (hfits : ∀ callback ∈ callbacks, callback.Fits E.kChannelNum)
    (henough : requested E.kChannelNum callbacks ≤ c.remainingData + j * b) :
    ∃ c' played k j', (deviceMachine E).run c callbacks = .ok (c', played) ∧
      Holds B b (T.members c') c'.remainingData ∧ I j' (T.members c') ∧ j = k + j' ∧
      c'.remainingData + requested E.kChannelNum callbacks = c.remainingData + k * b ∧
      Served B.machine (T.members c) (B.left (T.members c) c.remainingData)
        (List.replicate k uninit) (T.members c') (B.left (T.members c') c'.remainingData)
        (heard E.kChannelNum callbacks played) ∧
      List.Forall₂ (PlayCallback.Filled E.kChannelNum) callbacks played := by
  induction callbacks generalizing c j with
  | nil =>
      refine ⟨c, [], 0, j, rfl, hk, hI, by omega, ?_, Served.nil _ _ _, .nil⟩
      simp [requested]
  | cons callback callbacks ih =>
      have hfirst := hfits callback (by simp)
      have hrequested : requested E.kChannelNum (callback :: callbacks)
          = callback.size E.kChannelNum + requested E.kChannelNum callbacks := rfl
      have hrest := requested_nonneg fun o ho => hfits o (List.mem_cons_of_mem _ ho)
      obtain ⟨d, k, j₁, hdeliver, hk₁, hI₁, rfl, hbytes, hserved, hbehind⟩ :=
        deliver_serves hB hk hI hfirst.nonneg (by omega) callback.buf (T.fresh callback) uninit
      have hstep : (deviceMachine E).step c callback
          = .ok (T.put c d, some { nSamplesOut := callback.nSamples, buf := d.buf }) := by
        rw [T.step_eq c callback _ hc hfirst rfl, hdeliver]
        rfl
      rw [← T.members_put c d, ← T.remaining_put c d] at hk₁
      rw [← T.members_put c d] at hI₁
      rw [← T.members_put c d, ← T.remaining_put c d] at hserved
      rw [← T.remaining_put c d] at hbytes
      rw [add_blocks] at henough
      obtain ⟨c', played, k', j', hrun, hk', hI', rfl, hbytes', hserved', hfilled⟩ :=
        ih (T.runs_put c d hc) hk₁ hI₁ (fun o ho => hfits o (by simp [ho])) (by omega)
      refine ⟨c', _, k + k', j', Machine.run_cons hstep hrun, hk', hI', by omega, ?_, ?_,
        .cons ⟨_, rfl, rfl, hbehind⟩ hfilled⟩
      · rw [add_blocks]
        omega
      · rw [List.replicate_add]
        exact hserved.trans hserved'

/-- **From the start of a test**: what is heard is the front of the blocks
taken, and no block more was taken. -/
theorem start_serves (T : BlockTest E B) (hB : B.Lasts b I) (uninit : ω) (hc : T.Runs c)
    (hzero : c.remainingData = 0) (hI : I j (T.members c))
    (hfits : ∀ callback ∈ callbacks, callback.Fits E.kChannelNum)
    (henough : requested E.kChannelNum callbacks ≤ j * b) :
    ∃ c' played k blocks, (deviceMachine E).run c callbacks = .ok (c', played) ∧
      List.Forall₂ (PlayCallback.Filled E.kChannelNum) callbacks played ∧
      B.machine.run (T.members c) (List.replicate k uninit) = .ok (T.members c', blocks) ∧ k ≤ j ∧
      heard E.kChannelNum callbacks played
        = blocks.flatten.take (requested E.kChannelNum callbacks).toNat ∧
      (k : Int) * b = requested E.kChannelNum callbacks + c'.remainingData ∧
      0 ≤ c'.remainingData ∧ c'.remainingData < b := by
  have hpos := hB.pos
  have hholds : Holds B b (T.members c) c.remainingData := by
    rw [hzero]
    exact ⟨Int.le_refl 0, by omega, fun h => by omega⟩
  obtain ⟨c', played, k, j', hrun, hk, -, hj, hbytes, hserved, hfilled⟩ :=
    T.run_serves hB uninit hc hholds hI hfits (by omega)
  rw [hzero, BlockSupply.left_zero] at hserved
  obtain ⟨blocks, hblocks, hout, -⟩ := hserved
  have hheard := length_heard hfits hfilled
  refine ⟨c', played, k, blocks, hrun, hfilled, hblocks, by omega, ?_, by omega, hk.remaining,
    hk.short⟩
  rw [List.nil_append] at hout
  rw [← hout, List.take_left' (by omega)]

/-- **Callbacks that ask for more fail.** -/
theorem run_fails (T : BlockTest E B) (hB : B.Lasts b I) (hends : B.Ends I) (hc : T.Runs c)
    (hk : Holds B b (T.members c) c.remainingData) (hI : I j (T.members c))
    (hfits : ∀ callback ∈ callbacks, callback.Fits E.kChannelNum)
    (hshort : c.remainingData + j * b < requested E.kChannelNum callbacks) (uninit : ω) :
    (deviceMachine E).run c callbacks = .error (.fault .invalidCopy) := by
  induction callbacks generalizing c j with
  | nil =>
      have hblocks : (0 : Int) ≤ j * b := Int.mul_nonneg (by omega) (by omega)
      have hremaining := hk.remaining
      simp only [requested] at hshort
      omega
  | cons callback callbacks ih =>
      have hfirst := hfits callback (by simp)
      simp only [requested] at hshort
      by_cases henough : callback.size E.kChannelNum ≤ c.remainingData + j * b
      · obtain ⟨d, k, j₁, hdeliver, hk₁, hI₁, rfl, hbytes, -, -⟩ :=
          deliver_serves hB hk hI hfirst.nonneg henough callback.buf (T.fresh callback) uninit
        rw [← T.members_put c d, ← T.remaining_put c d] at hk₁
        rw [← T.members_put c d] at hI₁
        rw [← T.remaining_put c d] at hbytes
        rw [add_blocks] at hshort
        have hrun := ih (T.runs_put c d hc) hk₁ hI₁ (fun o ho => hfits o (by simp [ho]))
          (by omega)
        simp only [Machine.run, T.step_eq c callback _ hc hfirst rfl, hdeliver, bind, Except.bind,
          pure, Except.pure, hrun]
      · have hdeliver := deliver_fails hB hends hk hI (Int.not_le.mp henough) callback.buf
          (T.fresh callback)
        simp only [Machine.run, T.step_eq c callback _ hc hfirst rfl, hdeliver, bind, Except.bind]

end BlockTest

end L4AudioMixer.Ios
