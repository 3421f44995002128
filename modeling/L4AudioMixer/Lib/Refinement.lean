/-
L4AudioMixer.Lib.Refinement — two computations with the same outcome, and
one machine that does what another says.

`SameOutcome R` relates computations that fail with the same failure or
return results related by `R`; it goes through `>>=` (`SameOutcome.bind`).
A machine refines another when related states have related outcomes under
every operation that meets a condition (`Refines`). The rule is
`run_refines`: a run all of whose operations meet the condition has the
same outcome in both, the replies seen through `view`.

A `Usage` says less: which operations a caller may use when. If the states
of a machine follow it, then exactly the runs it allows return
(`run_returns_of_allowed`, `allowed_of_run`).
-/
import L4AudioMixer.Lib.Machine

namespace L4AudioMixer.Lib

/-- Both fail, with the same failure, or both return, related results. -/
inductive SameOutcome {ε α β : Type*} (R : α → β → Prop) : Except ε α → Except ε β → Prop where
  | error (e : ε) : SameOutcome R (.error e) (.error e)
  | ok {a : α} {b : β} (h : R a b) : SameOutcome R (.ok a) (.ok b)

namespace SameOutcome

variable {ε α β : Type*} {R : α → β → Prop} {x : Except ε α} {y : Except ε β}

theorem of_ok {a : α} (h : SameOutcome R x y) (hx : x = .ok a) : ∃ b, y = .ok b ∧ R a b := by
  cases h with
  | error e => cases hx
  | ok h =>
      cases hx
      exact ⟨_, rfl, h⟩

theorem of_error {e : ε} (h : SameOutcome R x y) (hx : x = .error e) : y = .error e := by
  cases h with
  | error e' =>
      cases hx
      rfl
  | ok h => cases hx

/-- Weaken what is asked of the results. -/
theorem mono {S : α → β → Prop} (h : SameOutcome R x y) (hRS : ∀ a b, R a b → S a b) :
    SameOutcome S x y := by
  cases h with
  | error e => exact .error e
  | ok h => exact .ok (hRS _ _ h)

/-- What every result of the left computation satisfies can be added. -/
theorem and_of_ok {Q : α → Prop} (h : SameOutcome R x y) (hQ : ∀ a, x = .ok a → Q a) :
    SameOutcome (fun a b => Q a ∧ R a b) x y := by
  cases h with
  | error e => exact .error e
  | ok h => exact .ok ⟨hQ _ rfl, h⟩

/-- The same computation on both sides. -/
theorem refl (x : Except ε α) : SameOutcome (fun a b => a = b) x x := by
  cases x with
  | error e => exact .error e
  | ok a => exact .ok rfl

/-- One computation after the other. -/
theorem bind {ε α β α' β' : Type} {R : α → β → Prop} {S : α' → β' → Prop} {x : Except ε α}
    {y : Except ε β} {f : α → Except ε α'} {g : β → Except ε β'} (h : SameOutcome R x y)
    (hfg : ∀ a b, R a b → SameOutcome S (f a) (g b)) : SameOutcome S (x >>= f) (y >>= g) := by
  cases h with
  | error e => exact .error e
  | ok h => exact hfg _ _ h

end SameOutcome

namespace Machine

variable {σ τ ω ρ π ε : Type*} {M : Machine σ ω ρ ε} {N : Machine τ ω π ε}

/-- `N` says what `M` does: from states related by `R`, under operations
that meet `C`, both have the same outcome, with replies seen through
`view`. -/
def Refines (M : Machine σ ω ρ ε) (N : Machine τ ω π ε) (C : σ → ω → Prop) (R : σ → τ → Prop)
    (view : ρ → π) : Prop :=
  ∀ s t op, R s t → C s op →
    SameOutcome (fun out out' => R out.1 out'.1 ∧ view out.2 = out'.2) (M.step s op) (N.step t op)

/-- **Refinement rule**: what steps do, runs do. -/
theorem run_refines {C : σ → ω → Prop} {R : σ → τ → Prop} {view : ρ → π}
    (h : Refines M N C R view) {s : σ} {t : τ} {ops : List ω} (hR : R s t)
    (hC : M.Meets C s ops) :
    SameOutcome (fun out out' => R out.1 out'.1 ∧ out.2.map view = out'.2) (M.run s ops)
      (N.run t ops) := by
  induction ops generalizing s t with
  | nil => exact .ok ⟨hR, rfl⟩
  | cons op ops ih =>
      have hstep := h s t op hR hC.1
      simp only [run]
      cases hs : M.step s op with
      | error e =>
          rw [hstep.of_error hs]
          exact .error e
      | ok out =>
          obtain ⟨⟨t', r'⟩, ht, hR', hview⟩ := hstep.of_ok hs
          have hrest := ih hR' (hC.2 out.1 out.2 hs)
          simp only [ht]
          cases hrun : M.run out.1 ops with
          | error e =>
              rw [hrest.of_error hrun]
              exact .error e
          | ok rest =>
              obtain ⟨⟨t'', rs'⟩, ht', hR'', hviews⟩ := hrest.of_ok hrun
              rw [ht']
              refine .ok ⟨hR'', ?_⟩
              rw [List.map_cons, hview, hviews]

end Machine

/-- Which operations may be used, in terms of what a caller knows. -/
structure Usage (τ ω : Type*) where
  allows : τ → ω → Prop
  next : τ → ω → τ

namespace Usage

variable {σ τ ω ρ ε : Type*} (U : Usage τ ω)

/-- Every operation of the list may be used when its turn comes. -/
def Allows : τ → List ω → Prop
  | _, [] => True
  | t, op :: ops => U.allows t op ∧ Allows (U.next t op) ops

variable {U} {R : σ → τ → Prop}

/-- **Allowed runs return**, for a machine that runs under a bound: when
every allowed step does at every large enough bound. -/
theorem run_returns_of_allowed {M : Nat → Machine σ ω ρ ε}
    (hstep : ∀ s t op, R s t → U.allows t op →
      ∃ s' r bound, R s' (U.next t op) ∧ ∀ fuel, bound ≤ fuel → (M fuel).step s op = .ok (s', r))
    {s : σ} {t : τ} {ops : List ω} (hR : R s t) (hops : U.Allows t ops) :
    ∃ s' out bound, ∀ fuel, bound ≤ fuel → (M fuel).run s ops = .ok (s', out) := by
  induction ops generalizing s t with
  | nil => exact ⟨s, [], 0, fun _ _ => rfl⟩
  | cons op ops ih =>
      obtain ⟨s₁, r, b₁, hR₁, h₁⟩ := hstep s t op hR hops.1
      obtain ⟨s₂, out, b₂, h₂⟩ := ih hR₁ hops.2
      refine ⟨s₂, r :: out, max b₁ b₂, fun fuel hle => ?_⟩
      exact Machine.run_cons (h₁ fuel (by omega)) (h₂ fuel (by omega))

/-- **Runs that return are allowed**, when every step that returns is. -/
theorem allowed_of_run {M : Machine σ ω ρ ε}
    (hstep : ∀ s t op s' r, R s t → M.step s op = .ok (s', r) →
      U.allows t op ∧ R s' (U.next t op))
    {s s' : σ} {t : τ} {ops : List ω} {out : List ρ} (hR : R s t)
    (hrun : M.run s ops = .ok (s', out)) : U.Allows t ops := by
  induction ops generalizing s t out with
  | nil => trivial
  | cons op ops ih =>
      obtain ⟨s₁, r, rs, h₁, hrest, -⟩ := Machine.of_run_cons hrun
      obtain ⟨hallows, hR₁⟩ := hstep s t op s₁ r hR h₁
      exact ⟨hallows, ih hR₁ hrest⟩

end Usage

end L4AudioMixer.Lib
