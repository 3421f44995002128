/-
L4AudioMixer.Lib.Loop — `while` loops as functions, with the rules their
proofs use.

A loop body either asks for another pass or leaves the loop with a
result. `loop` runs the body under a bound on the number of passes and
answers `none` when the bound is used up, so a loop that never ends is
`none` at every bound and termination is a theorem about the loop, not a
feature of its definition. The rules are the usual three: a result does
not change when the bound grows (`loop_mono`), an invariant of the body
holds of the result (`loop_invariant`), and a loop whose passes form a
well-founded relation ends (`loop_terminates`).
-/
import Mathlib.Order.WellFounded

namespace L4AudioMixer.Lib

/-- What one pass of a loop body decides: go round again, or leave. -/
inductive LoopStep (σ ρ : Type*) where
  | next (s : σ)
  | done (r : ρ)

variable {σ ρ : Type*} {body : σ → LoopStep σ ρ}

/-- Run `body` from `s` for at most `fuel` passes. -/
def loop (body : σ → LoopStep σ ρ) : Nat → σ → Option ρ
  | 0, _ => none
  | fuel + 1, s =>
      match body s with
      | .next s' => loop body fuel s'
      | .done r => some r

/-- The loop ends with `r` at every large enough bound. -/
def LoopEnds (body : σ → LoopStep σ ρ) (s : σ) (r : ρ) : Prop :=
  ∃ bound, ∀ fuel, bound ≤ fuel → loop body fuel s = some r

theorem loop_next {s s' : σ} (h : body s = .next s') (fuel : Nat) :
    loop body (fuel + 1) s = loop body fuel s' := by
  simp only [loop, h]

theorem loop_done {s : σ} {r : ρ} (h : body s = .done r) (fuel : Nat) :
    loop body (fuel + 1) s = some r := by
  simp only [loop, h]

/-- A larger bound gives the same result. -/
theorem loop_mono {r : ρ} : ∀ {fuel : Nat} {s : σ}, loop body fuel s = some r →
    ∀ {more : Nat}, fuel ≤ more → loop body more s = some r
  | 0, _, h, _, _ => by simp [loop] at h
  | fuel + 1, s, h, more, hle => by
      obtain ⟨more, rfl⟩ : ∃ k, more = k + 1 := ⟨more - 1, by omega⟩
      cases hb : body s with
      | next s' =>
          rw [loop_next hb] at h ⊢
          exact loop_mono h (by omega)
      | done r' =>
          rw [loop_done hb] at h ⊢
          exact h

theorem loopEnds_of_loop {fuel : Nat} {s : σ} {r : ρ} (h : loop body fuel s = some r) :
    LoopEnds body s r :=
  ⟨fuel, fun _ hle => loop_mono h hle⟩

/-- **Invariant rule**: what every pass keeps, and every exit turns into
`Q`, holds of the result at any bound. -/
theorem loop_invariant (I : σ → Prop) (Q : ρ → Prop)
    (hnext : ∀ s s', I s → body s = .next s' → I s')
    (hdone : ∀ s r, I s → body s = .done r → Q r) :
    ∀ {fuel : Nat} {s : σ} {r : ρ}, I s → loop body fuel s = some r → Q r
  | 0, _, _, _, h => by simp [loop] at h
  | fuel + 1, s, r, hs, h => by
      cases hb : body s with
      | next s' =>
          rw [loop_next hb] at h
          exact loop_invariant I Q hnext hdone (hnext s s' hs hb) h
      | done r' =>
          rw [loop_done hb] at h
          cases h
          exact hdone s r hs hb

/-- **Termination rule**: a loop ends from every state at which its
passes cannot go on for ever. -/
theorem loop_terminates {s : σ} (h : Acc (fun s' s => body s = .next s') s) :
    ∃ r, LoopEnds body s r := by
  induction h with
  | intro s _ ih =>
      cases hb : body s with
      | next s' =>
          obtain ⟨r, bound, hr⟩ := ih s' hb
          exact ⟨r, loopEnds_of_loop ((loop_next hb bound).trans (hr bound le_rfl))⟩
      | done r => exact ⟨r, loopEnds_of_loop (loop_done hb 0)⟩

/-- A loop whose passes make a natural number smaller, as long as an
invariant holds, cannot go on for ever. -/
theorem acc_of_measure (I : σ → Prop) (μ : σ → Nat)
    (hnext : ∀ s s', I s → body s = .next s' → I s' ∧ μ s' < μ s) {s : σ} (hs : I s) :
    Acc (fun s' s => body s = .next s') s := by
  -- strong induction on the measure, with the state free
  induction hn : μ s using Nat.strong_induction_on generalizing s with
  | _ n ih =>
      refine ⟨s, fun s' hb => ?_⟩
      obtain ⟨hs', hlt⟩ := hnext s s' hs hb
      exact ih (μ s') (hn ▸ hlt) hs' rfl

/-- Such a loop ends in no more passes than the number it starts from,
and one. -/
theorem loop_of_measure (I : σ → Prop) (μ : σ → Nat)
    (hnext : ∀ s s', I s → body s = .next s' → I s' ∧ μ s' < μ s) :
    ∀ {fuel : Nat} {s : σ}, I s → μ s < fuel → ∃ r, loop body fuel s = some r
  | 0, _, _, h => absurd h (Nat.not_lt_zero _)
  | fuel + 1, s, hs, h => by
      cases hb : body s with
      | next s' =>
          obtain ⟨hs', hlt⟩ := hnext s s' hs hb
          rw [loop_next hb]
          exact loop_of_measure I μ hnext hs' (by omega)
      | done r => exact ⟨r, loop_done hb fuel⟩

end L4AudioMixer.Lib
