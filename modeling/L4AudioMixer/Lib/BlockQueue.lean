/-
L4AudioMixer.Lib.BlockQueue — a queue that is filled with pieces of any
size and emptied in blocks of one size.

The queue keeps its whole history: everything pushed, and the number of
blocks popped. Its contents are computed from the two, so that the order
of pushes and pops cannot matter beyond what they add up to, and the
`i`-th block popped is the `i`-th block of what was pushed. An
implementation that keeps only the unread part is compared with it by
its contents.
-/
import Mathlib.Data.List.Basic

namespace L4AudioMixer.Lib

/-- A queue read in blocks of `n`; never were more blocks popped than
pushed. -/
structure BlockQueue (α : Type) (n : Nat) where
  pushed : List α
  popped : Nat
  enough : popped * n ≤ pushed.length

namespace BlockQueue

variable {α : Type} {n : Nat}

def empty : BlockQueue α n := ⟨[], 0, by simp⟩

/-- What was pushed and not yet popped. -/
def contents (q : BlockQueue α n) : List α := q.pushed.drop (q.popped * n)

def push (q : BlockQueue α n) (xs : List α) : BlockQueue α n where
  pushed := q.pushed ++ xs
  popped := q.popped
  enough := by
    have := q.enough
    simp only [List.length_append]
    omega

/-- Remove one block from a queue that holds one. -/
def pop (q : BlockQueue α n) (h : n ≤ q.contents.length) : BlockQueue α n where
  pushed := q.pushed
  popped := q.popped + 1
  enough := by
    have := q.enough
    simp only [contents, List.length_drop] at h
    rw [Nat.add_mul]
    omega

@[simp] theorem contents_empty : (empty : BlockQueue α n).contents = [] := by
  simp [contents, empty]

@[simp] theorem contents_push (q : BlockQueue α n) (xs : List α) :
    (q.push xs).contents = q.contents ++ xs := by
  simp only [contents, push]
  rw [List.drop_append_of_le_length q.enough]

@[simp] theorem contents_pop (q : BlockQueue α n) (h : n ≤ q.contents.length) :
    (q.pop h).contents = q.contents.drop n := by
  simp only [contents, pop, List.drop_drop, Nat.add_mul, Nat.one_mul]

end BlockQueue

end L4AudioMixer.Lib
