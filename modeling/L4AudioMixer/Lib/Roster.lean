/-
L4AudioMixer.Lib.Roster — values under distinct keys, in the order in
which the keys were added.

That no key appears twice is a field of the structure. Adding under a
taken key leaves the roster as it is; every other operation keeps the
order, and `sorted` puts the keys in theirs. `traverse` runs a computation
that can fail on one value after the other. What is under a key afterwards
is said once for each operation (`get?_add`, `get?_remove`, `get?_modify`,
`get?_map`).
-/
import Std.Data.ExtTreeMap
import Mathlib.Data.List.Forall2
import Mathlib.Data.List.Nodup

namespace L4AudioMixer.Lib

variable {κ β δ ε : Type}

/-- Values under distinct keys. -/
structure Roster (κ β : Type) where
  items : List (κ × β)
  distinct : (items.map Prod.fst).Nodup

namespace Roster

/-- No keys. -/
def empty : Roster κ β := ⟨[], List.nodup_nil⟩

def keys (r : Roster κ β) : List κ := r.items.map Prod.fst

def values (r : Roster κ β) : List β := r.items.map Prod.snd

@[ext] theorem ext {r s : Roster κ β} (h : r.items = s.items) : r = s := by
  obtain ⟨items, _⟩ := r
  obtain ⟨items', _⟩ := s
  cases h
  rfl

/-! ## One key -/

section Keys

variable [DecidableEq κ]

/-- The value under a key. -/
def get? (r : Roster κ β) (k : κ) : Option β :=
  (r.items.find? fun item => item.1 = k).map Prod.snd

/-- Add a value under a key that is free, behind the others. -/
def add (r : Roster κ β) (k : κ) (b : β) : Roster κ β :=
  if h : k ∈ r.items.map Prod.fst then r
  else
    { items := r.items ++ [(k, b)]
      distinct := by
        rw [List.map_append]
        exact List.Nodup.append r.distinct (List.nodup_singleton k) (by simpa using h) }

/-- Remove a key with its value. -/
def remove (r : Roster κ β) (k : κ) : Roster κ β where
  items := r.items.filter fun item => item.1 ≠ k
  distinct := r.distinct.sublist (List.Sublist.map Prod.fst List.filter_sublist)

/-- Change the value under a key, if there is one. -/
def modify (r : Roster κ β) (k : κ) (f : β → β) : Roster κ β where
  items := r.items.map fun item => (item.1, if item.1 = k then f item.2 else item.2)
  distinct := by
    rw [List.map_map]
    exact r.distinct

theorem mem_of_get? {r : Roster κ β} {k : κ} {b : β} (h : r.get? k = some b) :
    (k, b) ∈ r.items := by
  simp only [get?, Option.map_eq_some_iff] at h
  obtain ⟨⟨k', b'⟩, hfind, rfl⟩ := h
  have hk : k' = k := by simpa using List.find?_some hfind
  subst hk
  exact List.mem_of_find?_eq_some hfind

/-- Keys are distinct, so an item is found under its key. -/
theorem get?_of_mem {r : Roster κ β} {k : κ} {b : β} (h : (k, b) ∈ r.items) :
    r.get? k = some b := by
  cases hfind : r.items.find? fun item => item.1 = k with
  | none =>
      have hno := List.find?_eq_none.mp hfind (k, b) h
      simp at hno
  | some item =>
      have hk : item.1 = k := by simpa using List.find?_some hfind
      have hsame : item = (k, b) :=
        List.inj_on_of_nodup_map r.distinct (List.mem_of_find?_eq_some hfind) h hk
      simp only [get?, hfind, hsame, Option.map_some]

theorem get?_eq_some {r : Roster κ β} {k : κ} {b : β} :
    r.get? k = some b ↔ (k, b) ∈ r.items :=
  ⟨mem_of_get?, get?_of_mem⟩

theorem get?_eq_none {r : Roster κ β} {k : κ} : r.get? k = none ↔ k ∉ r.keys := by
  simp only [get?, keys, Option.map_eq_none_iff, List.find?_eq_none, decide_eq_true_eq,
    List.mem_map, not_exists, not_and]

@[simp] theorem get?_empty (k : κ) : (empty : Roster κ β).get? k = none := rfl

theorem add_of_some {r : Roster κ β} {k : κ} {c : β} (h : r.get? k = some c) (b : β) :
    r.add k b = r :=
  dif_pos (List.mem_map_of_mem (f := Prod.fst) (mem_of_get? h))

theorem items_add_of_none {r : Roster κ β} {k : κ} (h : r.get? k = none) (b : β) :
    (r.add k b).items = r.items ++ [(k, b)] := by
  have hfree : k ∉ r.items.map Prod.fst := get?_eq_none.mp h
  rw [add, dif_neg hfree]

theorem get?_add (r : Roster κ β) (k a : κ) (b : β) :
    (r.add k b).get? a = if a = k ∧ r.get? k = none then some b else r.get? a := by
  cases hk : r.get? k with
  | some c => simp [add_of_some hk]
  | none =>
      have hitems := items_add_of_none hk b
      by_cases ha : a = k
      · subst ha
        rw [if_pos ⟨rfl, rfl⟩, get?_eq_some, hitems]
        simp
      · rw [if_neg (fun h => ha h.1), get?, hitems, List.find?_append]
        have hka : ¬ k = a := fun h => ha h.symm
        simp [get?, hka]

theorem get?_remove (r : Roster κ β) (k a : κ) :
    (r.remove k).get? a = if a = k then none else r.get? a := by
  by_cases ha : a = k
  · subst ha
    rw [if_pos rfl, get?_eq_none]
    simp [keys, remove]
  · rw [if_neg ha]
    apply Option.ext
    intro b
    rw [get?_eq_some, get?_eq_some]
    simp [remove, ha]

theorem get?_modify (r : Roster κ β) (k a : κ) (f : β → β) :
    (r.modify k f).get? a = if a = k then (r.get? a).map f else r.get? a := by
  have hfind : ∀ items : List (κ × β),
      (items.map fun item => (item.1, if item.1 = k then f item.2 else item.2)).find?
          (fun item => item.1 = a)
        = (items.find? fun item => item.1 = a).map
            fun item => (item.1, if item.1 = k then f item.2 else item.2) := by
    intro items
    rw [List.find?_map]
    rfl
  simp only [get?, modify, hfind, Option.map_map]
  cases hitem : r.items.find? (fun item => item.1 = a) with
  | none => split <;> rfl
  | some item =>
      have hk : item.1 = a := by simpa using List.find?_some hitem
      simp only [Option.map_some, Function.comp_apply, hk]
      split <;> rfl

/-- A change under a key that is free changes nothing. -/
theorem modify_of_none {r : Roster κ β} {k : κ} (h : r.get? k = none) (f : β → β) :
    r.modify k f = r := by
  have hfree := get?_eq_none.mp h
  apply ext
  simp only [modify]
  conv => rhs; rw [← List.map_id r.items]
  apply List.map_congr_left
  rintro ⟨a, b⟩ hmem
  have hne : a ≠ k := by
    rintro rfl
    exact hfree (List.mem_map_of_mem (f := Prod.fst) hmem)
  simp [hne]

/-- Nothing is removed under a key that is free. -/
theorem remove_of_none {r : Roster κ β} {k : κ} (h : r.get? k = none) : r.remove k = r := by
  have hfree := get?_eq_none.mp h
  apply ext
  simp only [remove]
  rw [List.filter_eq_self]
  rintro ⟨a, b⟩ hmem
  have hne : a ≠ k := by
    rintro rfl
    exact hfree (List.mem_map_of_mem (f := Prod.fst) hmem)
  simpa using hne

end Keys

/-! ## All values -/

/-- Change every value, knowing its position. -/
def mapIdx (r : Roster κ β) (f : Nat → β → δ) : Roster κ δ where
  items := r.items.mapIdx fun i item => (item.1, f i item.2)
  distinct := by
    have hkeys : (r.items.mapIdx fun i item => (item.1, f i item.2)).map Prod.fst
        = r.items.map Prod.fst := by
      apply List.ext_getElem
      · simp
      · intro i h₁ h₂
        simp
    rw [hkeys]
    exact r.distinct

/-- Change every value. -/
def map (r : Roster κ β) (f : β → δ) : Roster κ δ where
  items := r.items.map fun item => (item.1, f item.2)
  distinct := by
    rw [List.map_map]
    exact r.distinct

/-- Run `f` on the values in order; the keys stay. -/
def traverseItems (f : β → Except ε δ) :
    (items : List (κ × β)) →
      Except ε { out : List (κ × δ) // out.map Prod.fst = items.map Prod.fst }
  | [] => .ok ⟨[], rfl⟩
  | item :: rest => do
      let d ← f item.2
      let ⟨out, hkeys⟩ ← traverseItems f rest
      return ⟨(item.1, d) :: out, by rw [List.map_cons, List.map_cons, hkeys]⟩

/-- Run `f` on every value, until it fails. -/
def traverse (r : Roster κ β) (f : β → Except ε δ) : Except ε (Roster κ δ) := do
  let ⟨out, hkeys⟩ ← traverseItems f r.items
  return ⟨out, by rw [hkeys]; exact r.distinct⟩

/-- What came of the values, one by one. -/
theorem forall₂_of_traverseItems {f : β → Except ε δ} {items : List (κ × β)}
    {out : { out : List (κ × δ) // out.map Prod.fst = items.map Prod.fst }}
    (h : traverseItems f items = .ok out) :
    List.Forall₂ (fun item result => result.1 = item.1 ∧ f item.2 = .ok result.2)
      items out.val := by
  induction items with
  | nil =>
      cases h
      exact .nil
  | cons item rest ih =>
      simp only [traverseItems] at h
      cases hf : f item.2 with
      | error e =>
          rw [hf] at h
          cases h
      | ok d =>
          cases hrest : traverseItems f rest with
          | error e =>
              rw [hf, hrest] at h
              cases h
          | ok tail =>
              rw [hf, hrest] at h
              cases h
              exact .cons ⟨rfl, hf⟩ (ih hrest)

theorem get?_map [DecidableEq κ] (r : Roster κ β) (f : β → δ) (k : κ) :
    (r.map f).get? k = (r.get? k).map f := by
  simp only [get?, map, List.find?_map, Option.map_map]
  rfl

theorem map_add [DecidableEq κ] (r : Roster κ β) (k : κ) (b : β) (f : β → δ) :
    (r.add k b).map f = (r.map f).add k (f b) := by
  cases hk : r.get? k with
  | some c =>
      rw [add_of_some hk, add_of_some (c := f c) (by rw [get?_map, hk]; rfl)]
  | none =>
      apply ext
      rw [items_add_of_none (r := r.map f) (by rw [get?_map, hk]; rfl)]
      simp only [map, items_add_of_none hk, List.map_append, List.map_cons, List.map_nil]

theorem map_remove [DecidableEq κ] (r : Roster κ β) (k : κ) (f : β → δ) :
    (r.remove k).map f = (r.map f).remove k := by
  apply ext
  simp only [map, remove, List.filter_map]
  rfl

theorem map_modify [DecidableEq κ] (r : Roster κ β) (k : κ) {g : β → β} {f : β → δ} {h : δ → δ}
    (hfg : ∀ b, f (g b) = h (f b)) : (r.modify k g).map f = (r.map f).modify k h := by
  apply ext
  simp only [map, modify, List.map_map]
  apply List.map_congr_left
  rintro ⟨a, b⟩ -
  simp only [Function.comp_apply, Prod.mk.injEq, true_and]
  split
  · exact hfg b
  · rfl

/-! ## Order of the keys -/

section Sorted

open Std

variable [Ord κ] [TransOrd κ] [LawfulEqOrd κ]

/-- The same items in the order of their keys. -/
def sorted (r : Roster κ β) : Roster κ β where
  items := r.items.mergeSort fun a b => (compare a.1 b.1).isLE
  distinct := ((List.mergeSort_perm r.items _).map Prod.fst).nodup_iff.mpr r.distinct

/-- No two keys compare as equal. -/
theorem sorted_ordered (r : Roster κ β) :
    r.sorted.items.Pairwise fun a b => compare a.1 b.1 = .lt := by
  have htotal : ∀ a b : κ × β, ((compare a.1 b.1).isLE || (compare b.1 a.1).isLE) = true := by
    intro a b
    rw [OrientedOrd.eq_swap (a := b.1) (b := a.1)]
    cases compare a.1 b.1 <;> rfl
  have hsorted : r.sorted.items.Pairwise fun a b => (compare a.1 b.1).isLE = true := by
    refine List.pairwise_mergeSort ?_ htotal r.items
    intro a b c
    exact TransOrd.isLE_trans
  have hdistinct := List.pairwise_map.mp r.sorted.distinct
  refine (hsorted.and hdistinct).imp ?_
  rintro a b ⟨hle, hne⟩
  cases hcompare : compare a.1 b.1 with
  | lt => rfl
  | eq => exact absurd (LawfulEqOrd.eq_of_compare hcompare) hne
  | gt =>
      rw [hcompare] at hle
      cases hle

/-- The items in the order of their keys are the only list of them in that
order. -/
theorem items_sorted_eq {r : Roster κ β} {items : List (κ × β)} (hperm : items.Perm r.items)
    (hordered : items.Pairwise fun a b => compare a.1 b.1 = .lt) : r.sorted.items = items := by
  have hsame : r.sorted.items.Perm items := (List.mergeSort_perm r.items _).trans hperm.symm
  refine List.Perm.eq_of_pairwise ?_ r.sorted_ordered hordered hsame
  intro a b _ _ hab hba
  rw [OrientedOrd.eq_swap, hba] at hab
  cases hab

/-- Sorting and changing values do not meet. -/
theorem sorted_map (r : Roster κ β) (f : β → δ) : (r.map f).sorted = r.sorted.map f := by
  apply ext
  apply items_sorted_eq
  · exact (List.mergeSort_perm r.items _).map _
  · simp only [map, List.pairwise_map]
    exact r.sorted_ordered

end Sorted

end Roster

end L4AudioMixer.Lib
