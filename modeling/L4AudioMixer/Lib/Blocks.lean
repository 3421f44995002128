/-
L4AudioMixer.Lib.Blocks — a list cut into blocks of one size.

`wholeBlocks n xs` are the blocks of `n` elements at the front of `xs`,
and `leftOver n xs` is what remains behind them, less than a block. The
rule `blocks_induction` takes one block off at a time. The two append
lemmas are what makes cutting work piece by piece: a list that comes in
parts is cut like the whole if what a part leaves over is put in front of
the next one.
-/
import Mathlib.Data.List.Basic

namespace L4AudioMixer.Lib

variable {α : Type} {n : Nat} {xs ys : List α}

/-- The blocks of `n` elements at the front. -/
def wholeBlocks (n : Nat) (xs : List α) : List (List α) :=
  (List.range (xs.length / n)).map fun i => (xs.drop (i * n)).take n

/-- What remains behind the blocks. -/
def leftOver (n : Nat) (xs : List α) : List α := xs.drop (xs.length / n * n)

theorem wholeBlocks_of_lt (h : xs.length < n) : wholeBlocks n xs = [] := by
  simp [wholeBlocks, Nat.div_eq_of_lt h]

theorem leftOver_of_lt (h : xs.length < n) : leftOver n xs = xs := by
  simp [leftOver, Nat.div_eq_of_lt h]

section Block

variable {block : List α}

theorem length_div_of_block (hn : 0 < n) (hblock : block.length = n) (ys : List α) :
    (block ++ ys).length / n = ys.length / n + 1 := by
  rw [List.length_append, hblock, Nat.add_comm, Nat.add_div_right _ hn]

theorem drop_of_block (hblock : block.length = n) (i : Nat) (ys : List α) :
    (block ++ ys).drop ((i + 1) * n) = ys.drop (i * n) := by
  rw [Nat.succ_mul, Nat.add_comm, ← List.drop_drop, ← hblock, List.drop_left]

/-- A block in front is the first one. -/
theorem wholeBlocks_block_append (hn : 0 < n) (hblock : block.length = n) (ys : List α) :
    wholeBlocks n (block ++ ys) = block :: wholeBlocks n ys := by
  have hfirst : (block ++ ys).take n = block := by rw [← hblock, List.take_left]
  rw [wholeBlocks, length_div_of_block hn hblock, List.range_succ_eq_map]
  simp only [List.map_cons, List.map_map, Nat.zero_mul, List.drop_zero, hfirst, List.cons.injEq,
    true_and]
  apply List.map_congr_left
  intro i _
  simp only [Function.comp, Nat.succ_eq_add_one, drop_of_block hblock]

theorem leftOver_block_append (hn : 0 < n) (hblock : block.length = n) (ys : List α) :
    leftOver n (block ++ ys) = leftOver n ys := by
  rw [leftOver, length_div_of_block hn hblock, drop_of_block hblock, leftOver]

end Block

/-- **Induction over the blocks of a list**: what holds of lists shorter
than a block, and keeps holding with a block in front, holds of every
list. -/
theorem blocks_induction {motive : List α → Prop} (hn : 0 < n)
    (short : ∀ xs, xs.length < n → motive xs)
    (cons : ∀ block ys, block.length = n → motive ys → motive (block ++ ys)) (xs : List α) :
    motive xs := by
  induction hlength : xs.length using Nat.strongRecOn generalizing xs with
  | ind length ih =>
      by_cases h : xs.length < n
      · exact short xs h
      · have hrest : (xs.drop n).length < length := by
          rw [List.length_drop]
          omega
        rw [← List.take_append_drop n xs]
        exact cons _ _ (by rw [List.length_take]; omega) (ih _ hrest _ rfl)

/-- Nothing is lost by cutting. -/
theorem flatten_wholeBlocks_append (hn : 0 < n) (xs : List α) :
    (wholeBlocks n xs).flatten ++ leftOver n xs = xs := by
  induction xs using blocks_induction hn with
  | short xs h => simp [wholeBlocks_of_lt h, leftOver_of_lt h]
  | cons block ys hblock ih =>
      rw [wholeBlocks_block_append hn hblock, leftOver_block_append hn hblock, List.flatten_cons,
        List.append_assoc, ih]

theorem length_of_mem_wholeBlocks (hn : 0 < n) {block : List α} (h : block ∈ wholeBlocks n xs) :
    block.length = n := by
  induction xs using blocks_induction hn with
  | short xs hshort => simp [wholeBlocks_of_lt hshort] at h
  | cons first ys hfirst ih =>
      rw [wholeBlocks_block_append hn hfirst, List.mem_cons] at h
      rcases h with rfl | hmem
      · exact hfirst
      · exact ih hmem

theorem length_leftOver (n : Nat) (xs : List α) : (leftOver n xs).length = xs.length % n := by
  have hle := Nat.div_add_mod' xs.length n
  rw [leftOver, List.length_drop]
  omega

/-- **Blocks of a list that comes in two parts**: those of the first part,
then those of what it left over and the second part. -/
theorem wholeBlocks_append (hn : 0 < n) (xs ys : List α) :
    wholeBlocks n (xs ++ ys) = wholeBlocks n xs ++ wholeBlocks n (leftOver n xs ++ ys) := by
  induction xs using blocks_induction hn with
  | short xs h => simp [wholeBlocks_of_lt h, leftOver_of_lt h]
  | cons block xs hblock ih =>
      rw [List.append_assoc, wholeBlocks_block_append hn hblock, ih,
        wholeBlocks_block_append hn hblock, leftOver_block_append hn hblock, List.cons_append]

theorem leftOver_append (hn : 0 < n) (xs ys : List α) :
    leftOver n (xs ++ ys) = leftOver n (leftOver n xs ++ ys) := by
  induction xs using blocks_induction hn with
  | short xs h => rw [leftOver_of_lt h]
  | cons block xs hblock ih =>
      rw [List.append_assoc, leftOver_block_append hn hblock, ih, leftOver_block_append hn hblock]

end L4AudioMixer.Lib
