/-
L4AudioMixer.Lib.OrderedMap — lookups in a `std::map`.

`std::map` is `Std.ExtTreeMap`: lookups say everything about it, and
`toList` runs through it in the order of the keys. `insert` and `emplace`
of C++ are `insertIfNew`.
-/
import Std.Data.ExtTreeMap
import Mathlib.Data.List.Nodup

namespace L4AudioMixer.Lib

open Std

variable {κ ν : Type} [Ord κ] [TransOrd κ] [LawfulEqOrd κ]

theorem getElem?_insertIfNew_eq [DecidableEq κ] (t : ExtTreeMap κ ν) (k a : κ) (v : ν) :
    (t.insertIfNew k v)[a]? = if a = k ∧ t[k]? = none then some v else t[a]? := by
  rw [ExtTreeMap.getElem?_insertIfNew]
  have hmem : ¬ k ∈ t ↔ t[k]? = none := by
    rw [ExtTreeMap.mem_iff_isSome_getElem?]
    cases t[k]? <;> simp
  simp only [Std.compare_eq_iff_eq, hmem, eq_comm (a := a)]

theorem getElem?_erase_eq [DecidableEq κ] (t : ExtTreeMap κ ν) (k a : κ) :
    (t.erase k)[a]? = if a = k then none else t[a]? := by
  rw [ExtTreeMap.getElem?_erase]
  simp only [Std.compare_eq_iff_eq, eq_comm (a := a)]

/-- A key that is there keeps its value. -/
theorem insertIfNew_of_some {t : ExtTreeMap κ ν} {k : κ} {w : ν} (h : t[k]? = some w) (v : ν) :
    t.insertIfNew k v = t := by
  classical
  apply ExtTreeMap.ext_getElem?
  intro a
  rw [getElem?_insertIfNew_eq, if_neg (by simp [h])]

theorem mem_values {t : ExtTreeMap κ ν} {v : ν} :
    v ∈ t.toList.map Prod.snd ↔ ∃ k : κ, t[k]? = some v := by
  simp only [List.mem_map, Prod.exists, ExtTreeMap.mem_toList_iff_getElem?_eq_some,
    exists_eq_right]

/-- A value that no two keys share appears once. -/
theorem nodup_values {t : ExtTreeMap κ ν}
    (hinj : ∀ (k k' : κ) (v : ν), t[k]? = some v → t[k']? = some v → k = k') :
    (t.toList.map Prod.snd).Nodup := by
  have hdistinct := ExtTreeMap.distinct_keys_toList (t := t)
  rw [List.Nodup, List.pairwise_map]
  refine hdistinct.imp_of_mem ?_
  rintro ⟨k, v⟩ ⟨k', v'⟩ hk hk' hne heq
  have hv : v = v' := heq
  subst hv
  apply hne
  have hsame := hinj k k' v (ExtTreeMap.mem_toList_iff_getElem?_eq_some.mp hk)
    (ExtTreeMap.mem_toList_iff_getElem?_eq_some.mp hk')
  rw [hsame]
  exact ReflCmp.compare_self

end L4AudioMixer.Lib
