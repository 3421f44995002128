/-
L4AudioMixer.Lib.Heap — objects behind pointers.

A pointer is a number that is handed out once: `alloc` never returns one
it returned before, so a pointer to a destroyed object stays a pointer to
nothing. That the cells from `next` on are empty is a field of the
structure, which makes a newly allocated object different from every
object there is.
-/
import Mathlib.Data.Option.Basic

namespace L4AudioMixer.Lib

/-- A pointer to an object. -/
abbrev Ptr := Nat

/-- The objects that exist. -/
structure Heap (β : Type) where
  cells : Ptr → Option β
  next : Ptr
  /-- Nothing was allocated from `next` on. -/
  unused : ∀ p, next ≤ p → cells p = none

namespace Heap

variable {β : Type}

/-- A heap without objects. -/
def empty : Heap β := ⟨fun _ => none, 0, fun _ _ => rfl⟩

/-- The object behind a pointer, unless it was destroyed. -/
def get? (h : Heap β) (p : Ptr) : Option β := h.cells p

/-- Allocate an object. -/
def alloc (h : Heap β) (b : β) : Ptr × Heap β :=
  (h.next,
    { cells := fun q => if q = h.next then some b else h.cells q
      next := h.next + 1
      unused := by
        intro p hp
        have hlt : h.next < p := hp
        rw [if_neg (Nat.ne_of_gt hlt)]
        exact h.unused p (Nat.le_of_lt hlt) })

/-- Change the object behind a pointer, if there is one. -/
def modify (h : Heap β) (p : Ptr) (f : β → β) : Heap β where
  cells := fun q => if q = p then (h.cells q).map f else h.cells q
  next := h.next
  unused := by
    intro q hq
    rw [h.unused q hq]
    split <;> rfl

/-- Destroy the object behind a pointer. -/
def free (h : Heap β) (p : Ptr) : Heap β where
  cells := fun q => if q = p then none else h.cells q
  next := h.next
  unused := by
    intro q hq
    rw [h.unused q hq]
    split <;> rfl

/-- Two heaps with the same objects behind the same pointers. -/
@[ext] theorem ext {h h' : Heap β} (hget : ∀ p, h.get? p = h'.get? p)
    (hnext : h.next = h'.next) : h = h' := by
  obtain ⟨cells, next, _⟩ := h
  obtain ⟨cells', next', _⟩ := h'
  have hcells : cells = cells' := funext hget
  subst hcells
  simp only at hnext
  subst hnext
  rfl

theorem get?_alloc (h : Heap β) (b : β) (p : Ptr) :
    (h.alloc b).2.get? p = if p = (h.alloc b).1 then some b else h.get? p := rfl

@[simp] theorem get?_alloc_self (h : Heap β) (b : β) :
    (h.alloc b).2.get? (h.alloc b).1 = some b := by
  simp [get?_alloc]

theorem get?_modify (h : Heap β) (p q : Ptr) (f : β → β) :
    (h.modify p f).get? q = if q = p then (h.get? q).map f else h.get? q := rfl

@[simp] theorem get?_modify_self (h : Heap β) (p : Ptr) (f : β → β) :
    (h.modify p f).get? p = (h.get? p).map f := by
  simp [get?_modify]

theorem get?_modify_of_ne (h : Heap β) {p q : Ptr} (f : β → β) (hne : q ≠ p) :
    (h.modify p f).get? q = h.get? q := by
  simp [get?_modify, hne]

theorem get?_free (h : Heap β) (p q : Ptr) :
    (h.free p).get? q = if q = p then none else h.get? q := rfl

theorem get?_free_of_ne (h : Heap β) {p q : Ptr} (hne : q ≠ p) :
    (h.free p).get? q = h.get? q := by
  simp [get?_free, hne]

/-- A pointer to an object is not the next one to be handed out. -/
theorem ne_next_of_get? {h : Heap β} {p : Ptr} {b : β} (hp : h.get? p = some b) :
    p ≠ h.next := by
  rintro rfl
  have hnone : h.get? h.next = none := h.unused h.next (Nat.le_refl _)
  rw [hnone] at hp
  cases hp

theorem lt_next_of_get? {h : Heap β} {p : Ptr} {b : β} (hp : h.get? p = some b) :
    p < h.next := by
  by_contra hge
  have hnone : h.get? p = none := h.unused p (Nat.le_of_not_lt hge)
  rw [hnone] at hp
  cases hp

/-- Allocation leaves the objects there are. -/
theorem get?_alloc_of_some {h : Heap β} {p : Ptr} {b : β} (c : β) (hp : h.get? p = some b) :
    (h.alloc c).2.get? p = some b := by
  have hne : p ≠ (h.alloc c).1 := ne_next_of_get? hp
  rw [get?_alloc, if_neg hne, hp]

/-- An object allocated and destroyed again leaves the others. -/
theorem get?_alloc_free (h : Heap β) (b : β) (p : Ptr) :
    ((h.alloc b).2.free h.next).get? p = h.get? p := by
  rw [get?_free]
  split
  · rename_i hp
    exact (h.unused p (Nat.le_of_eq hp.symm)).symm
  · rename_i hp
    have hne : p ≠ (h.alloc b).1 := hp
    rw [get?_alloc, if_neg hne]

/-! ## Changes in place -/

/-- The same pointers have objects, and each object relates to the one it
was by `K`. -/
def Kept (K : β → β → Prop) (h h' : Heap β) : Prop :=
  ∀ p, Option.Rel K (h.get? p) (h'.get? p)

variable {K : β → β → Prop}

theorem Kept.refl (hK : ∀ b, K b b) (h : Heap β) : Kept K h h := by
  intro p
  cases h.get? p with
  | none => exact .none
  | some b => exact .some (hK b)

theorem Kept.some_of_some {h h' : Heap β} (hk : Kept K h h') {p : Ptr} {b : β}
    (hb : h.get? p = some b) : ∃ b', h'.get? p = some b' ∧ K b b' := by
  have hp := hk p
  rw [hb] at hp
  cases hb' : h'.get? p with
  | none => rw [hb'] at hp; cases hp
  | some b' =>
      rw [hb'] at hp
      cases hp with
      | some hK => exact ⟨b', rfl, hK⟩

theorem Kept.of_some {h h' : Heap β} (hk : Kept K h h') {p : Ptr} {b' : β}
    (hb' : h'.get? p = some b') : ∃ b, h.get? p = some b ∧ K b b' := by
  have hp := hk p
  rw [hb'] at hp
  cases hb : h.get? p with
  | none => rw [hb] at hp; cases hp
  | some b =>
      rw [hb] at hp
      cases hp with
      | some hK => exact ⟨b, rfl, hK⟩

theorem Kept.trans (hK : ∀ a b c, K a b → K b c → K a c) {h₁ h₂ h₃ : Heap β}
    (h₁₂ : Kept K h₁ h₂) (h₂₃ : Kept K h₂ h₃) : Kept K h₁ h₃ := by
  intro p
  cases ha : h₁.get? p with
  | some a =>
      obtain ⟨b, hb, hab⟩ := h₁₂.some_of_some ha
      obtain ⟨c, hc, hbc⟩ := h₂₃.some_of_some hb
      rw [hc]
      exact .some (hK a b c hab hbc)
  | none =>
      cases hc : h₃.get? p with
      | none => exact .none
      | some c =>
          obtain ⟨b, hb, -⟩ := h₂₃.of_some hc
          obtain ⟨a, ha', -⟩ := h₁₂.of_some hb
          rw [ha] at ha'
          cases ha'

/-- Changing one object. -/
theorem Kept.modify (hK : ∀ b, K b b) {h : Heap β} {p : Ptr} {f : β → β}
    (hf : ∀ b, h.get? p = some b → K b (f b)) : Kept K h (h.modify p f) := by
  intro q
  by_cases hq : q = p
  · subst hq
    rw [get?_modify_self]
    cases hb : h.get? q with
    | none => exact .none
    | some b => exact .some (hf b hb)
  · rw [get?_modify_of_ne h f hq]
    exact Kept.refl hK h q

/-- Allocating related objects at the same pointer. -/
theorem Kept.alloc {h h' : Heap β} (hk : Kept K h h') (hnext : h'.next = h.next) {b b' : β}
    (hb : K b b') : Kept K (h.alloc b).2 (h'.alloc b').2 := by
  intro p
  rw [get?_alloc, get?_alloc]
  have hsame : (h'.alloc b').1 = (h.alloc b).1 := hnext
  rw [hsame]
  split
  · exact .some hb
  · exact hk p

end Heap

end L4AudioMixer.Lib
