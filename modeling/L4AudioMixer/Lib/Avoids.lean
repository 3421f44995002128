/-
L4AudioMixer.Lib.Avoids — computations that do not fail in one way.

A computation that can fail in many ways is often to be free of one of
them only. `Avoids e Q x` says that `x` does not fail with `e`, and that
what it returns satisfies `Q`; other failures are not excluded. The rules
follow the computation: a value, another failure, one computation after
the other (`Avoids.bind`), a loop (`Avoids.loop`) and a run of a machine
(`Avoids.run`). `run_ne_error_iff` is the rule for a machine whose steps
fail with `e` under a known condition.
-/
import L4AudioMixer.Lib.Loop
import L4AudioMixer.Lib.Machine

namespace L4AudioMixer.Lib

universe u

variable {ε σ ω ρ : Type*} {β γ : Type u} {e : ε} {Q : β → Prop} {R : γ → Prop}

/-- The computation does not fail with `e`, and what it returns satisfies
`Q`. -/
def Avoids (e : ε) (Q : β → Prop) (x : Except ε β) : Prop :=
  x ≠ .error e ∧ ∀ b, x = .ok b → Q b

namespace Avoids

theorem ok {b : β} (h : Q b) : Avoids e Q (.ok b) := by
  refine ⟨fun hne => (by cases hne), fun b' hb => ?_⟩
  cases hb
  exact h

theorem error {f : ε} (h : f ≠ e) : Avoids e Q (.error f) := by
  refine ⟨fun hne => ?_, fun b hb => (by cases hb)⟩
  cases hne
  exact h rfl

/-- A failure that is passed on. -/
theorem of_error {x : Except ε β} {f : ε} (hx : Avoids e Q x) (h : x = .error f) :
    Avoids e R (.error f) := by
  refine error fun hf => ?_
  subst hf
  exact hx.1 h

/-- **Sequence rule.** -/
theorem bind {x : Except ε β} {f : β → Except ε γ} (hx : Avoids e Q x)
    (hf : ∀ b, Q b → Avoids e R (f b)) : Avoids e R (x >>= f) := by
  cases x with
  | error fault => exact hx.of_error rfl
  | ok b => exact hf b (hx.2 b rfl)

theorem mono {Q' : β → Prop} {x : Except ε β} (hx : Avoids e Q x) (h : ∀ b, Q b → Q' b) :
    Avoids e Q' x :=
  ⟨hx.1, fun b hb => h b (hx.2 b hb)⟩

/-- **Loop rule**, for a loop that fails in another way when its bound is
used up. -/
theorem loop {body : σ → LoopStep σ (Except ε β)} {f : ε} (I : σ → Prop)
    (hnext : ∀ s s', I s → body s = .next s' → I s')
    (hdone : ∀ s r, I s → body s = .done r → Avoids e Q r) (hf : f ≠ e) {fuel : Nat} {s : σ}
    (hs : I s) : Avoids e Q ((Lib.loop body fuel s).getD (.error f)) := by
  cases hloop : Lib.loop body fuel s with
  | none => exact error hf
  | some r => exact loop_invariant I (Avoids e Q) hnext hdone hs hloop

/-- **Run rule.** -/
theorem run {M : Machine σ ω ρ ε} (I : σ → Prop) {P : ω → Prop}
    (hstep : ∀ s op, I s → P op → Avoids e (fun r => I r.1) (M.step s op)) {s : σ} {ops : List ω}
    (hs : I s) (hops : ∀ op ∈ ops, P op) : Avoids e (fun r => I r.1) (M.run s ops) := by
  induction ops generalizing s with
  | nil => exact ok hs
  | cons op ops ih =>
      have hfirst := hstep s op hs (hops op (by simp))
      cases hop : M.step s op with
      | error fault =>
          simp only [Machine.run, hop]
          exact hfirst.of_error hop
      | ok r =>
          obtain ⟨s', reply⟩ := r
          have hrest := ih (hfirst.2 _ hop) fun o ho => hops o (by simp [ho])
          cases hrun : M.run s' ops with
          | error fault =>
              simp only [Machine.run, hop, hrun]
              exact hrest.of_error hrun
          | ok out =>
              simp only [Machine.run, hop, hrun]
              exact ok (hrest.2 out hrun)

end Avoids

/-- **Failure rule**: where a step from a state of `I`, which the steps
keep, fails with `e` exactly if it does not meet `C`, a run fails with `e`
exactly if not all of its steps meet `C`. -/
theorem run_ne_error_iff {M : Machine σ ω ρ ε} (I : σ → Prop) {P : ω → Prop} {C : σ → ω → Prop}
    (hkeep : ∀ s op s' r, I s → P op → M.step s op = .ok (s', r) → I s')
    (hfails : ∀ s op, I s → P op → (M.step s op ≠ .error e ↔ C s op)) {s : σ} {ops : List ω}
    (hs : I s) (hops : ∀ op ∈ ops, P op) : M.run s ops ≠ .error e ↔ M.Meets C s ops := by
  induction ops generalizing s with
  | nil => exact ⟨fun _ => trivial, fun _ h => (by cases h)⟩
  | cons op ops ih =>
      have hop := hops op (by simp)
      have hfirst := hfails s op hs hop
      cases hstep : M.step s op with
      | error fault =>
          rw [hstep] at hfirst
          simp only [Machine.run, hstep, Machine.Meets]
          constructor
          · intro hne
            exact ⟨hfirst.mp fun h => hne (by cases h; rfl), fun s' r h => (by cases h)⟩
          · intro hmeets h
            cases h
            exact hfirst.mpr hmeets.1 rfl
      | ok r =>
          obtain ⟨s', reply⟩ := r
          rw [hstep] at hfirst
          have hrest := ih (hkeep s op s' reply hs hop hstep) fun o ho => hops o (by simp [ho])
          have hC : C s op := hfirst.mp fun h => (by cases h)
          have hrun : M.run s (op :: ops) ≠ .error e ↔ M.run s' ops ≠ .error e := by
            simp only [Machine.run, hstep]
            cases M.run s' ops <;> simp
          rw [hrun, hrest]
          constructor
          · exact fun hmeets => Machine.meets_cons hC hstep hmeets
          · exact fun hmeets => hmeets.2 s' reply hstep

end L4AudioMixer.Lib
