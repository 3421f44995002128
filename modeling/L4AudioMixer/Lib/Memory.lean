/-
L4AudioMixer.Lib.Memory — blocks of memory as functions of an index.

A pointer to elements of type `α` is a function `Nat → α`: element `i` is
what lies `i` elements behind it, whether or not the program owns it.
`firstN` reads a prefix as a list, and `copy` is `memcpy` and `memmove`
(the source is read before anything is written, so overlap is harmless).
Interleaved data lies in rows; `lt_mul_iff_exists` finds a position's row.
-/
import Mathlib.Data.List.Basic

namespace L4AudioMixer.Lib

variable {α : Type}

/-- The first `n` elements behind a pointer. -/
def firstN (mem : Nat → α) (n : Nat) : List α := (List.range n).map mem

/-- Copy `n` elements from `src` to `dst + offset`. -/
def copy (dst : Nat → α) (offset : Nat) (src : Nat → α) (n : Nat) : Nat → α :=
  fun i => if offset ≤ i ∧ i < offset + n then src (i - offset) else dst i

/-- Store a list at the front of a block. -/
def store (mem : Nat → α) (xs : List α) : Nat → α := fun i => (xs[i]?).getD (mem i)

@[simp] theorem length_firstN (mem : Nat → α) (n : Nat) : (firstN mem n).length = n := by
  simp [firstN]

@[simp] theorem getElem_firstN (mem : Nat → α) (n i : Nat) (h : i < (firstN mem n).length) :
    (firstN mem n)[i] = mem i := by
  simp [firstN]

@[simp] theorem firstN_zero (mem : Nat → α) : firstN mem 0 = [] := rfl

theorem firstN_succ (mem : Nat → α) (n : Nat) :
    firstN mem (n + 1) = mem 0 :: firstN (fun i => mem (i + 1)) n := by
  simp only [firstN, List.range_succ_eq_map, List.map_cons, List.map_map]
  rfl

theorem firstN_congr {mem mem' : Nat → α} {n : Nat} (h : ∀ i, i < n → mem i = mem' i) :
    firstN mem n = firstN mem' n := by
  apply List.map_congr_left
  intro i hi
  exact h i (List.mem_range.mp hi)

theorem take_firstN (mem : Nat → α) {k n : Nat} (h : k ≤ n) :
    (firstN mem n).take k = firstN mem k := by
  apply List.ext_getElem
  · simp only [List.length_take, length_firstN]
    omega
  · intro i h₁ h₂
    simp

theorem drop_firstN (mem : Nat → α) (k n : Nat) :
    (firstN mem n).drop k = firstN (fun i => mem (i + k)) (n - k) := by
  apply List.ext_getElem
  · simp
  · intro i h₁ h₂
    simp only [List.getElem_drop, getElem_firstN]
    rw [Nat.add_comm]

/-- A prefix is a shorter one and what follows it. -/
theorem firstN_add (mem : Nat → α) (k n : Nat) :
    firstN mem (k + n) = firstN mem k ++ firstN (fun i => mem (i + k)) n := by
  rw [← List.take_append_drop k (firstN mem (k + n)), take_firstN mem (Nat.le_add_right k n),
    drop_firstN, Nat.add_sub_cancel_left]

/-- Copying behind a prefix appends to it. -/
theorem firstN_copy_append (mem src : Nat → α) (k n : Nat) :
    firstN (copy mem k src n) (k + n) = firstN mem k ++ firstN src n := by
  apply List.ext_getElem
  · simp
  · intro i h₁ h₂
    rw [length_firstN] at h₁
    rw [getElem_firstN]
    by_cases hi : i < k
    · rw [List.getElem_append_left (by simpa using hi), getElem_firstN]
      simp only [copy]
      rw [if_neg (by omega)]
    · rw [List.getElem_append_right (by simpa using hi), getElem_firstN]
      simp only [copy, length_firstN]
      rw [if_pos (by omega)]

/-- A prefix of what was copied to the front. -/
theorem firstN_copy_front (mem src : Nat → α) {k n : Nat} (h : k ≤ n) :
    firstN (copy mem 0 src n) k = firstN src k := by
  apply firstN_congr
  intro i hi
  simp only [copy]
  rw [if_pos (by omega), Nat.sub_zero]

/-- In front of a copy nothing changes. -/
theorem firstN_copy_of_le (mem src : Nat → α) {k offset : Nat} (h : k ≤ offset) (n : Nat) :
    firstN (copy mem offset src n) k = firstN mem k := by
  apply firstN_congr
  intro i hi
  simp only [copy]
  rw [if_neg (by omega)]

/-- What was stored is read back. -/
theorem firstN_store (mem : Nat → α) (xs : List α) : firstN (store mem xs) xs.length = xs := by
  apply List.ext_getElem
  · simp
  · intro i h₁ h₂
    simp [store, h₂]

/-- Behind what was stored nothing changes. -/
theorem store_of_le (mem : Nat → α) {xs : List α} {i : Nat} (h : xs.length ≤ i) :
    store mem xs i = mem i := by
  simp only [store]
  rw [List.getElem?_eq_none h]
  rfl

/-! ## Rows -/

/-- The positions in `m` rows of `n` elements, one row after the other. -/
theorem lt_mul_iff_exists {m n p : Nat} :
    p < m * n ↔ ∃ j < m, ∃ c < n, p = j * n + c := by
  constructor
  · intro hp
    have hn : 0 < n := by
      by_contra hzero
      rw [Nat.eq_zero_of_not_pos hzero] at hp
      omega
    refine ⟨p / n, (Nat.div_lt_iff_lt_mul hn).mpr hp, p % n, Nat.mod_lt p hn, ?_⟩
    exact (Nat.div_add_mod' p n).symm
  · rintro ⟨j, hj, c, hc, rfl⟩
    calc j * n + c < j * n + n := by omega
      _ = (j + 1) * n := (Nat.succ_mul j n).symm
      _ ≤ m * n := Nat.mul_le_mul_right n hj

end L4AudioMixer.Lib
