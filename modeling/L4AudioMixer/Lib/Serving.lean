/-
L4AudioMixer.Lib.Serving — requests of any size, served from blocks.

A producer gives its elements in blocks, as the replies of a `Machine`; a
consumer asks for numbers of elements that have nothing to do with the
blocks. `Served M s rest ops s' rest' out` says that `out` was handed over
in the right way: from the state `s`, with `rest` left over from before,
the blocks of the operations `ops` were taken, nothing was lost, doubled
or reordered, and no block was taken before it was needed.

Requests compose (`Served.trans`): a run of requests is one request for
everything, however the consumer divides it.
-/
import L4AudioMixer.Lib.Machine

namespace L4AudioMixer.Lib

variable {σ ω β ε : Type*} {M : Machine σ ω (List β) ε} {s s' s'' : σ} {rest rest' rest'' : List β}
  {ops ops' : List ω} {out out' : List β}

/-- `out` is served from what is left over and the blocks of `ops`. -/
def Served (M : Machine σ ω (List β) ε) (s : σ) (rest : List β) (ops : List ω) (s' : σ)
    (rest' out : List β) : Prop :=
  ∃ blocks, M.run s ops = .ok (s', blocks) ∧ out ++ rest' = rest ++ blocks.flatten ∧
    ∀ init last, blocks = init ++ [last] → rest'.length < last.length

namespace Served

/-- A request for no more than is left over takes no block. -/
theorem of_rest (M : Machine σ ω (List β) ε) (s : σ) (out rest : List β) :
    Served M s (out ++ rest) [] s rest out := by
  refine ⟨[], rfl, by simp, fun init last h => ?_⟩
  simp at h

theorem nil (M : Machine σ ω (List β) ε) (s : σ) (rest : List β) :
    Served M s rest [] s rest [] :=
  of_rest M s [] rest

/-- **Two requests**, one after the other. -/
theorem trans (h : Served M s rest ops s' rest' out) (h' : Served M s' rest' ops' s'' rest'' out') :
    Served M s rest (ops ++ ops') s'' rest'' (out ++ out') := by
  obtain ⟨blocks, hrun, hout, hlazy⟩ := h
  obtain ⟨blocks', hrun', hout', hlazy'⟩ := h'
  refine ⟨blocks ++ blocks', Machine.run_append hrun hrun', ?_, fun init last hlast => ?_⟩
  · rw [List.append_assoc, hout', ← List.append_assoc, hout, List.flatten_append,
      List.append_assoc]
  · obtain rfl | ⟨init', last', rfl⟩ := blocks'.eq_nil_or_concat
    · -- the second request took no block: it is served from the rest of the first
      have hlength := congrArg List.length hout'
      simp only [List.flatten_nil, List.append_nil, List.length_append] at hlength
      have hlt := hlazy init last (by simpa using hlast)
      omega
    · rw [List.concat_eq_append, ← List.append_assoc] at hlast
      obtain ⟨-, hsame⟩ := List.append_inj' hlast rfl
      cases hsame
      exact hlazy' init' last List.concat_eq_append

/-- A block is taken when something of it is handed over at once. -/
theorem of_block {op : ω} (hstep : M.step s op = .ok (s', out ++ rest')) (hout : out ≠ []) :
    Served M s [] [op] s' rest' out := by
  refine ⟨[out ++ rest'], Machine.run_cons hstep rfl, by simp, fun init last hlast => ?_⟩
  have hpos := List.length_pos_of_ne_nil hout
  have hsplit : [] ++ [out ++ rest'] = init ++ [last] := hlast
  obtain ⟨-, hsame⟩ := List.append_inj' hsplit rfl
  cases hsame
  simp only [List.length_append]
  omega

end Served

end L4AudioMixer.Lib
