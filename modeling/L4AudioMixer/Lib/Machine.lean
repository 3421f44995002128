/-
L4AudioMixer.Lib.Machine — components as state machines with replies.

A component takes one operation at a time; an operation either fails, and
then there is no further state, or gives a new state and a reply. `run`
takes a whole list of operations and collects the replies. The rules:
an invariant of every step is an invariant of every run
(`run_invariant`), with it what every reply satisfies (`run_replies`) and
what holds of the history of a run (`run_history`), the same when only
steps that meet a condition keep it (`run_invariant_of_meets`), and the
two-run rule `run_unwind`, where each run may take steps of its own that
the observer does not see.
-/
import Mathlib.Data.List.Basic

namespace L4AudioMixer.Lib

/-- A component: states `σ`, operations `ω`, replies `ρ`, failures `ε`. -/
structure Machine (σ ω ρ ε : Type*) where
  step : σ → ω → Except ε (σ × ρ)

namespace Machine

variable {σ ω ρ ε : Type*} (M : Machine σ ω ρ ε)

/-- Take the operations in order and collect their replies. -/
def run : σ → List ω → Except ε (σ × List ρ)
  | s, [] => .ok (s, [])
  | s, op :: ops =>
      match M.step s op with
      | .error e => .error e
      | .ok (s', r) =>
          match run s' ops with
          | .error e => .error e
          | .ok (s'', rs) => .ok (s'', r :: rs)

/-- Every step of the run from `s` is taken in a state, and with an
operation, that meet `C`. A run that fails is judged up to the failure. -/
def Meets (C : σ → ω → Prop) : σ → List ω → Prop
  | _, [] => True
  | s, op :: ops =>
      C s op ∧ ∀ s' r, M.step s op = .ok (s', r) → Meets C s' ops

variable {M}

theorem run_cons {s s' s'' : σ} {op : ω} {ops : List ω} {r : ρ} {rs : List ρ}
    (hstep : M.step s op = .ok (s', r)) (hrun : M.run s' ops = .ok (s'', rs)) :
    M.run s (op :: ops) = .ok (s'', r :: rs) := by
  simp only [run, hstep, hrun]

/-- A run of one operation and more is a step and a run. -/
theorem of_run_cons {s t : σ} {op : ω} {ops : List ω} {out : List ρ}
    (h : M.run s (op :: ops) = .ok (t, out)) :
    ∃ s' r rs, M.step s op = .ok (s', r) ∧ M.run s' ops = .ok (t, rs) ∧ out = r :: rs := by
  simp only [run] at h
  split at h
  · simp at h
  · rename_i s' r hstep
    split at h
    · simp at h
    · rename_i s'' rs hrun
      simp only [Except.ok.injEq, Prod.mk.injEq] at h
      obtain ⟨rfl, rfl⟩ := h
      exact ⟨s', r, rs, hstep, hrun, rfl⟩

/-- A run over two lists passes through a state between them. -/
theorem of_run_append {s t : σ} {ops ops' : List ω} {out : List ρ}
    (h : M.run s (ops ++ ops') = .ok (t, out)) :
    ∃ m rs rs', M.run s ops = .ok (m, rs) ∧ M.run m ops' = .ok (t, rs') ∧ out = rs ++ rs' := by
  induction ops generalizing s out with
  | nil => exact ⟨s, [], out, rfl, h, rfl⟩
  | cons op ops ih =>
      obtain ⟨s', r, rs, hstep, hrun, rfl⟩ := of_run_cons h
      obtain ⟨m, rs₁, rs₂, h₁, h₂, rfl⟩ := ih hrun
      exact ⟨m, r :: rs₁, rs₂, run_cons hstep h₁, h₂, rfl⟩

/-- Two runs, one after the other. -/
theorem run_append {s m t : σ} {ops ops' : List ω} {rs rs' : List ρ}
    (h : M.run s ops = .ok (m, rs)) (h' : M.run m ops' = .ok (t, rs')) :
    M.run s (ops ++ ops') = .ok (t, rs ++ rs') := by
  induction ops generalizing s rs with
  | nil => cases h; exact h'
  | cons op ops ih =>
      obtain ⟨s', r, rest, hstep, hrun, rfl⟩ := of_run_cons h
      exact run_cons hstep (ih hrun)

/-- Every operation has one reply. -/
theorem length_of_run {s t : σ} {ops : List ω} {out : List ρ}
    (h : M.run s ops = .ok (t, out)) : out.length = ops.length := by
  induction ops generalizing s out with
  | nil => cases h; rfl
  | cons op ops ih =>
      obtain ⟨s', r, rs, -, hrun, rfl⟩ := of_run_cons h
      simp [ih hrun]

/-- **Invariant rule**: what every step keeps, every run keeps. -/
theorem run_invariant (I : σ → Prop)
    (hstep : ∀ s op s' r, I s → M.step s op = .ok (s', r) → I s')
    {s t : σ} {ops : List ω} {out : List ρ} (hs : I s)
    (h : M.run s ops = .ok (t, out)) : I t := by
  induction ops generalizing s out with
  | nil => cases h; exact hs
  | cons op ops ih =>
      obtain ⟨s', r, rs, h₁, h₂, -⟩ := of_run_cons h
      exact ih (hstep s op s' r hs h₁) h₂

/-- **Reply rule**: what holds of the reply of every step from a state of
`I`, which the steps keep, holds of every reply of a run. -/
theorem run_replies (I : σ → Prop) (Q : ρ → Prop)
    (hstep : ∀ s op s' r, I s → M.step s op = .ok (s', r) → I s' ∧ Q r)
    {s t : σ} {ops : List ω} {out : List ρ} (hs : I s)
    (h : M.run s ops = .ok (t, out)) : ∀ r ∈ out, Q r := by
  induction ops generalizing s out with
  | nil =>
      cases h
      simp
  | cons op ops ih =>
      obtain ⟨s', r, rs, h₁, h₂, rfl⟩ := of_run_cons h
      obtain ⟨hs', hr⟩ := hstep s op s' r hs h₁
      simp only [List.mem_cons, forall_eq_or_imp]
      exact ⟨hr, ih hs' h₂⟩

/-- **History rule**: what holds of the state together with the operations
and replies so far, and of every step after them, holds of every run. -/
theorem run_history (H : List ω → List ρ → σ → Prop)
    (hstep : ∀ ops out s op s' r, H ops out s → M.step s op = .ok (s', r) →
      H (ops ++ [op]) (out ++ [r]) s')
    {s t : σ} {ops : List ω} {out : List ρ} (hs : H [] [] s)
    (h : M.run s ops = .ok (t, out)) : H ops out t := by
  -- the history before the run is free
  have hgeneral : ∀ (ops before : List ω) (out rs : List ρ) (s : σ), H before rs s →
      M.run s ops = .ok (t, out) → H (before ++ ops) (rs ++ out) t := by
    intro ops
    induction ops with
    | nil =>
        intro before out rs s hs h
        cases h
        simpa using hs
    | cons op ops ih =>
        intro before out rs s hs h
        obtain ⟨s', r, rest, h₁, h₂, rfl⟩ := of_run_cons h
        simpa using ih _ _ _ s' (hstep _ _ _ _ _ _ hs h₁) h₂
  simpa using hgeneral ops [] out [] s hs h

/-- **Conditional invariant rule**: what every step that meets `C` keeps,
every run whose steps all meet `C` keeps. -/
theorem run_invariant_of_meets (I : σ → Prop) (C : σ → ω → Prop)
    (hstep : ∀ s op s' r, I s → C s op → M.step s op = .ok (s', r) → I s')
    {s t : σ} {ops : List ω} {out : List ρ} (hs : I s) (hC : M.Meets C s ops)
    (h : M.run s ops = .ok (t, out)) : I t := by
  induction ops generalizing s out with
  | nil => cases h; exact hs
  | cons op ops ih =>
      obtain ⟨s', r, rs, h₁, h₂, -⟩ := of_run_cons h
      exact ih (hstep s op s' r hs hC.1 h₁) (hC.2 s' r h₁) h₂

/-- A step that meets `C`, and a run after it. -/
theorem meets_cons {C : σ → ω → Prop} {s s' : σ} {op : ω} {ops : List ω} {r : ρ} (hC : C s op)
    (hstep : M.step s op = .ok (s', r)) (h : M.Meets C s' ops) : M.Meets C s (op :: ops) := by
  refine ⟨hC, fun u q hu => ?_⟩
  cases hstep.symm.trans hu
  exact h

/-- A weaker condition. -/
theorem meets_mono {C D : σ → ω → Prop} (hCD : ∀ s op, C s op → D s op) {s : σ} {ops : List ω}
    (h : M.Meets C s ops) : M.Meets D s ops := by
  induction ops generalizing s with
  | nil => trivial
  | cons op ops ih => exact ⟨hCD s op h.1, fun s' r hstep => ih (h.2 s' r hstep)⟩

/-- The front of a run that meets `C` meets it. -/
theorem meets_of_append {C : σ → ω → Prop} {s : σ} {ops ops' : List ω}
    (h : M.Meets C s (ops ++ ops')) : M.Meets C s ops := by
  induction ops generalizing s with
  | nil => trivial
  | cons op ops ih => exact ⟨h.1, fun s' r hstep => ih (h.2 s' r hstep)⟩

/-- The rest of a run that meets `C` meets it. -/
theorem meets_rest {C : σ → ω → Prop} {s t : σ} {ops ops' : List ω} {rs : List ρ}
    (h : M.Meets C s (ops ++ ops')) (hrun : M.run s ops = .ok (t, rs)) : M.Meets C t ops' := by
  induction ops generalizing s rs with
  | nil => cases hrun; exact h
  | cons op ops ih =>
      obtain ⟨s', r, rs', hstep, hrest, -⟩ := of_run_cons hrun
      exact ih (h.2 s' r hstep) hrest

/-- A run meets `C` when every one of its steps does. -/
theorem meets_of_steps {C : σ → ω → Prop} {s : σ} {ops : List ω}
    (h : ∀ pre op post s' rs, ops = pre ++ op :: post → M.run s pre = .ok (s', rs) → C s' op) :
    M.Meets C s ops := by
  induction ops generalizing s with
  | nil => trivial
  | cons op ops ih =>
      refine ⟨h [] op ops s [] rfl rfl, fun s' r hstep => ih fun pre o post t rs hops hrun => ?_⟩
      exact h (op :: pre) o post t (r :: rs) (by rw [hops]; rfl) (run_cons hstep hrun)

/-- Conditions that agree on the steps from states of `I`, which the steps
that meet `D` keep, agree on the runs that meet `D`. -/
theorem meets_iff_of_run (I : σ → Prop) {C C' D : σ → ω → Prop}
    (hstep : ∀ s op s' r, I s → D s op → M.step s op = .ok (s', r) → I s')
    (hiff : ∀ s op s' r, I s → M.step s op = .ok (s', r) → (C s op ↔ C' s op))
    {s t : σ} {ops : List ω} {out : List ρ} (hs : I s) (hD : M.Meets D s ops)
    (h : M.run s ops = .ok (t, out)) : M.Meets C s ops ↔ M.Meets C' s ops := by
  induction ops generalizing s out with
  | nil => exact Iff.rfl
  | cons op ops ih =>
      obtain ⟨s', r, rs, h₁, h₂, -⟩ := of_run_cons h
      have hrest := ih (hstep s op s' r hs hD.1 h₁) (hD.2 s' r h₁) h₂
      refine and_congr (hiff s op s' r hs h₁) ⟨fun hC u r' hu => ?_, fun hC u r' hu => ?_⟩
      · cases h₁.symm.trans hu
        exact hrest.mp (hC s' r h₁)
      · cases h₁.symm.trans hu
        exact hrest.mpr (hC s' r h₁)

/-- What every step from a state of `I` meets, every run meets. -/
theorem meets_of_invariant (I : σ → Prop) {C D : σ → ω → Prop}
    (hstep : ∀ s op s' r, I s → D s op → M.step s op = .ok (s', r) → I s')
    (hC : ∀ s op, I s → D s op → C s op) {s : σ} {ops : List ω} (hs : I s)
    (hD : M.Meets D s ops) : M.Meets C s ops := by
  induction ops generalizing s with
  | nil => trivial
  | cons op ops ih =>
      exact ⟨hC s op hs hD.1, fun s' r h => ih (hstep s op s' r hs hD.1 h) (hD.2 s' r h)⟩

/-- **Total-correctness rule** for a machine that runs under a bound: if
every step taken from a state of `I` with an operation of `P` returns, at
every large enough bound, in a state of `I`, then so does every run. -/
theorem run_ends {M : Nat → Machine σ ω ρ ε} (I : σ → Prop) (P : ω → Prop)
    (hstep : ∀ s op, I s → P op →
      ∃ s' r bound, I s' ∧ ∀ fuel, bound ≤ fuel → (M fuel).step s op = .ok (s', r))
    {s : σ} {ops : List ω} (hs : I s) (hops : ∀ op ∈ ops, P op) :
    ∃ t out bound, I t ∧ ∀ fuel, bound ≤ fuel → (M fuel).run s ops = .ok (t, out) := by
  induction ops generalizing s with
  | nil => exact ⟨s, [], 0, hs, fun _ _ => rfl⟩
  | cons op ops ih =>
      obtain ⟨s', r, b₁, hs', h₁⟩ := hstep s op hs (hops op (by simp))
      obtain ⟨t, out, b₂, ht, h₂⟩ := ih hs' (fun o ho => hops o (by simp [ho]))
      refine ⟨t, r :: out, max b₁ b₂, ht, fun fuel hle => ?_⟩
      exact run_cons (h₁ fuel (by omega)) (h₂ fuel (by omega))

/-! ## Two runs -/

/-- What the two-run rule asks of the steps. `R` relates the states of
the two runs, `key` is what an observer sees of an operation and `view`
what it sees of a reply. Operations without a key, taken on either side,
keep `R` and give nothing to see; operations with the same key, taken on
both sides, keep `R` and look the same. -/
structure Unwinds {κ β : Type*} (M : Machine σ ω ρ ε) (C : σ → ω → Prop) (R : σ → σ → Prop)
    (key : ω → Option κ) (view : ρ → Option β) : Prop where
  left : ∀ s t op s' r, R s t → C s op → key op = none → M.step s op = .ok (s', r) →
    R s' t ∧ view r = none
  right : ∀ s t op t' r, R s t → C t op → key op = none → M.step t op = .ok (t', r) →
    R s t' ∧ view r = none
  both : ∀ s t op op' k s' t' r r', R s t → C s op → C t op' → key op = some k →
    key op' = some k → M.step s op = .ok (s', r) → M.step t op' = .ok (t', r') →
    R s' t' ∧ view r = view r'

section Unwind

variable {κ β : Type*} {C : σ → ω → Prop} {R : σ → σ → Prop} {key : ω → Option κ}
  {view : ρ → Option β}

/-- A run the observer sees nothing of. -/
theorem Unwinds.run_right (h : Unwinds M C R key view) {s t t' : σ} {ops : List ω} {rs : List ρ}
    (hR : R s t) (hC : M.Meets C t ops) (hkeys : ∀ op ∈ ops, key op = none)
    (hrun : M.run t ops = .ok (t', rs)) : R s t' ∧ rs.filterMap view = [] := by
  induction ops generalizing t rs with
  | nil => cases hrun; exact ⟨hR, rfl⟩
  | cons op ops ih =>
      obtain ⟨t₁, r, rs₁, hstep, hrest, rfl⟩ := of_run_cons hrun
      obtain ⟨hR₁, hview⟩ := h.right s t op t₁ r hR hC.1 (hkeys op (by simp)) hstep
      obtain ⟨hR', hviews⟩ :=
        ih hR₁ (hC.2 t₁ r hstep) (fun o ho => hkeys o (by simp [ho])) hrest
      exact ⟨hR', by simp [hview, hviews]⟩

/-- **Two-run rule**: two runs whose operations have the same keys in the
same order look the same. -/
theorem run_unwind (h : Unwinds M C R key view) {s t s' t' : σ} {ops ops' : List ω}
    {rs rs' : List ρ} (hR : R s t) (hC : M.Meets C s ops) (hC' : M.Meets C t ops')
    (hkeys : ops.filterMap key = ops'.filterMap key) (hrun : M.run s ops = .ok (s', rs))
    (hrun' : M.run t ops' = .ok (t', rs')) :
    R s' t' ∧ rs.filterMap view = rs'.filterMap view := by
  induction ops generalizing s t ops' rs rs' with
  | nil =>
      cases hrun
      obtain ⟨hR', hviews⟩ := h.run_right hR hC' (List.filterMap_eq_nil_iff.mp hkeys.symm) hrun'
      exact ⟨hR', hviews.symm⟩
  | cons op ops ih =>
      obtain ⟨s₁, r, rs₁, hstep, hrest, rfl⟩ := of_run_cons hrun
      cases hkey : key op with
      | none =>
          obtain ⟨hR₁, hview⟩ := h.left s t op s₁ r hR hC.1 hkey hstep
          rw [List.filterMap_cons_none hkey] at hkeys
          rw [List.filterMap_cons_none hview]
          exact ih hR₁ (hC.2 s₁ r hstep) hC' hkeys hrest hrun'
      | some k =>
          -- the other run comes to its next operation with a key
          rw [List.filterMap_cons_some hkey] at hkeys
          obtain ⟨pre, op', post, rfl, hpre, hkey', hpost⟩ :=
            List.filterMap_eq_cons_iff.mp hkeys.symm
          obtain ⟨t₁, rs₂, rs₃, hrun₁, hrun₂, rfl⟩ := of_run_append hrun'
          obtain ⟨t₂, r', rs₄, hstep', hrest', rfl⟩ := of_run_cons hrun₂
          obtain ⟨hR₁, hviews⟩ := h.run_right hR (meets_of_append hC') hpre hrun₁
          have hC₁ := meets_rest hC' hrun₁
          obtain ⟨hR₂, hview⟩ :=
            h.both s t₁ op op' k s₁ t₂ r r' hR₁ hC.1 hC₁.1 hkey hkey' hstep hstep'
          obtain ⟨hR', hviews'⟩ :=
            ih hR₂ (hC.2 s₁ r hstep) (hC₁.2 t₂ r' hstep') hpost.symm hrest hrest'
          refine ⟨hR', ?_⟩
          rw [List.filterMap_append, hviews, List.nil_append, List.filterMap_cons,
            List.filterMap_cons, hview, hviews']

end Unwind

end Machine

end L4AudioMixer.Lib
