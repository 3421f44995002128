/-
L4AudioMixer.Djinni.ProxyCacheTheorems — which proxies the cache hands out,
whatever the order in which the parties act.

`Coherent` is the invariant: the proxy of a key in the map was made for an
object that lay there, and a proxy that Java can still refer to is the one
in the map. It is kept by every event (`Coherent.step`), so a proxy that
`_toJava` hands out is either usable or was destroyed by hand and not
cleared yet (`toJava_cases`). `proxies_usable_iff` turns this into a
statement about runs: everything is right unless an object is passed to
Java whose address such a proxy still occupies in the map.
-/
import L4AudioMixer.Djinni.ProxyCache

namespace L4AudioMixer.Djinni

open L4AudioMixer.Lib

variable {τ : Type} {assertions : Bool} {w w' : World τ} {p q i j : Ptr}

/-! ## Memory -/

namespace World

/-- A proxy with its handle. -/
def Holds (w : World τ) (p : Ptr) (proxy : CppProxy) : Prop :=
  w.proxies.get? p = some proxy ∧ proxy.deletion ≠ .finished

theorem isAlive_iff : w.isAlive i = true ↔
    (∃ impl, w.impls.get? i = some impl ∧ 0 < impl.locals) ∨
      ∃ p proxy, w.Holds p proxy ∧ proxy.impl = i := by
  simp only [isAlive, Bool.or_eq_true, Option.any_eq_true, decide_eq_true_eq, List.any_eq_true,
    List.mem_range]
  refine or_congr Iff.rfl ?_
  constructor
  · rintro ⟨p, -, proxy, hp, himpl, hdel⟩
    exact ⟨p, proxy, ⟨hp, hdel⟩, himpl⟩
  · rintro ⟨p, proxy, ⟨hp, hdel⟩, himpl⟩
    exact ⟨p, Heap.lt_next_of_get? hp, proxy, hp, himpl, hdel⟩

theorem addressFree_iff {address : Nat} : w.addressFree address = true ↔
    ∀ i impl, w.impls.get? i = some impl → impl.address = address → w.isAlive i = false := by
  simp only [addressFree, List.all_eq_true, Option.all_eq_true, decide_eq_true_eq, List.mem_range]
  constructor
  · intro h i impl hi haddress
    exact (h i (Heap.lt_next_of_get? hi) impl hi).resolve_left (fun hne => hne haddress)
  · intro h i _ impl hi
    by_cases haddress : impl.address = address
    · exact .inr (h i impl hi haddress)
    · exact .inl haddress

theorem holds_of_handleAt {address : Nat} (h : w.handleAt address = some p) :
    ∃ proxy, w.Holds p proxy ∧ proxy.nativeRef = address := by
  have hp := List.find?_some h
  simp only [Option.any_eq_true, decide_eq_true_eq] at hp
  obtain ⟨proxy, hproxy, hnative, hdel⟩ := hp
  exact ⟨proxy, ⟨hproxy, hdel⟩, hnative⟩

theorem handleAt_eq_none {address : Nat} (h : w.handleAt address = none) {proxy : CppProxy}
    (hp : w.Holds p proxy) : proxy.nativeRef ≠ address := by
  have hno := List.find?_eq_none.mp h p (List.mem_range.mpr (Heap.lt_next_of_get? hp.1))
  simp only [Option.any_eq_true, decide_eq_true_eq, not_exists, not_and] at hno
  intro hnative
  exact hno proxy hp.1 hnative hp.2

theorem onProxy_ok {enabled : CppProxy → Bool} {effect : CppProxy → World τ × Reply}
    {out : World τ × Reply} (h : w.onProxy p enabled effect = .ok out) :
    ∃ proxy, w.proxies.get? p = some proxy ∧ enabled proxy = true ∧ effect proxy = out := by
  unfold onProxy at h
  cases hp : w.proxies.get? p with
  | none =>
      rw [hp] at h
      cases h
  | some proxy =>
      simp only [hp] at h
      cases henabled : enabled proxy with
      | false =>
          rw [henabled, if_neg (by simp)] at h
          cases h
      | true =>
          rw [henabled, if_pos rfl] at h
          exact ⟨proxy, rfl, henabled, Except.ok.inj h⟩

end World

/-! ## The invariant -/

/-- A change of a proxy in place, without a new call of a cleared one. -/
structure Later (old new : CppProxy) : Prop where
  nativeRef : new.nativeRef = old.nativeRef
  impl : new.impl = old.impl
  deletion : old.deletion = .finished → new.deletion = .finished
  cleared : old.cleared = true → new.cleared = true
  calls : 0 < new.calls → new.cleared = false

theorem World.holds_setProxy {x new : CppProxy} {proxy : CppProxy}
    (hp : w.proxies.get? p = some proxy) (hlater : Later proxy new)
    (h : (w.setProxy p new).Holds q x) :
    ∃ y, w.Holds q y ∧ y.nativeRef = x.nativeRef ∧ y.impl = x.impl := by
  obtain ⟨hget, hdel⟩ := h
  simp only [World.setProxy, Heap.get?_modify] at hget
  split at hget
  · rename_i hq
    subst hq
    rw [hp] at hget
    cases hget
    exact ⟨proxy, ⟨hp, fun hfin => hdel (hlater.deletion hfin)⟩, hlater.nativeRef.symm,
      hlater.impl.symm⟩
  · exact ⟨x, ⟨hget, hdel⟩, rfl, rfl⟩

/-- What is owned after a change of a proxy was owned before. -/
theorem World.isAlive_of_setProxy {new proxy : CppProxy} (hp : w.proxies.get? p = some proxy)
    (hlater : Later proxy new) (h : (w.setProxy p new).isAlive i = true) : w.isAlive i = true := by
  rw [World.isAlive_iff] at h ⊢
  rcases h with hlocals | ⟨q, x, hx, rfl⟩
  · exact .inl hlocals
  · obtain ⟨y, hy, -, himpl⟩ := World.holds_setProxy hp hlater hx
    exact .inr ⟨q, y, hy, himpl⟩

variable [DecidableEq τ]

/-- What holds whatever happened before. -/
structure Coherent (w : World τ) : Prop where
  /-- The objects of handles were constructed. -/
  impls : ∀ p proxy, w.proxies.get? p = some proxy → ∃ impl, w.impls.get? proxy.impl = some impl
  /-- The proxy of a key was made for an object with this key. -/
  mapped : ∀ key p, w.mapping.get? key = some p → ∃ proxy impl,
    w.proxies.get? p = some proxy ∧ w.impls.get? proxy.impl = some impl ∧ impl.key = key
  /-- A proxy that Java can refer to is the one in the map. -/
  cached : ∀ p proxy impl, w.proxies.get? p = some proxy → proxy.cleared = false →
    w.impls.get? proxy.impl = some impl → w.mapping.get? impl.key = some p
  /-- No two objects lie at one address. -/
  addresses : ∀ i j a b, w.impls.get? i = some a → w.impls.get? j = some b →
    w.isAlive i = true → w.isAlive j = true → a.address = b.address → i = j
  /-- No two handles lie at one address. -/
  handles : ∀ p q x y, w.Holds p x → w.Holds q y → x.nativeRef = y.nativeRef → p = q
  /-- A call refers to its proxy. -/
  calls : ∀ p proxy, w.proxies.get? p = some proxy → 0 < proxy.calls → proxy.cleared = false

theorem coherent_initial : Coherent (World.initial : World τ) where
  impls := by rintro p proxy ⟨⟩
  mapped := by rintro key p ⟨⟩
  cached := by rintro p proxy impl ⟨⟩
  addresses := by rintro i j a b ⟨⟩
  handles := by rintro p q x y ⟨⟨⟩, -⟩
  calls := by rintro p proxy ⟨⟩

/-- **Changing a proxy in place**, and taking an entry out of the map that
no reachable proxy needs. -/
theorem Coherent.setProxy (hw : Coherent w) {proxy new : CppProxy}
    (hp : w.proxies.get? p = some proxy) (hlater : Later proxy new)
    {mapping : Roster (τ × Nat) Ptr}
    (hentry : ∀ key q, mapping.get? key = some q → w.mapping.get? key = some q)
    (hkept : ∀ key q x, w.mapping.get? key = some q → w.proxies.get? q = some x →
      x.cleared = false → mapping.get? key = some q) :
    Coherent ({ w with mapping }.setProxy p new) := by
  have hback : ∀ q x, ({ w with mapping }.setProxy p new).proxies.get? q = some x →
      ∃ y, w.proxies.get? q = some y ∧ y.impl = x.impl ∧
        (x.cleared = false → y.cleared = false) := by
    intro q x hx
    simp only [World.setProxy, Heap.get?_modify] at hx
    split at hx
    · rename_i hq
      subst hq
      rw [hp] at hx
      cases hx
      refine ⟨proxy, hp, hlater.impl.symm, fun hnew => ?_⟩
      cases hold : proxy.cleared with
      | false => rfl
      | true => rw [hlater.cleared hold] at hnew; cases hnew
    · exact ⟨x, hx, rfl, id⟩
  exact {
    impls := by
      intro q x hx
      obtain ⟨y, hy, himpl, -⟩ := hback q x hx
      exact himpl ▸ hw.impls q y hy
    mapped := by
      intro key q hq
      obtain ⟨x, impl, hx, himpl, hkey⟩ := hw.mapped key q (hentry key q hq)
      by_cases hqp : q = p
      · subst hqp
        rw [hp] at hx
        cases hx
        refine ⟨new, impl, ?_, hlater.impl ▸ himpl, hkey⟩
        simp only [World.setProxy, Heap.get?_modify_self, hp, Option.map_some]
      · refine ⟨x, impl, ?_, himpl, hkey⟩
        simpa only [World.setProxy, Heap.get?_modify_of_ne _ _ hqp] using hx
    cached := by
      intro q x impl hx hcleared himpl
      obtain ⟨y, hy, hsame, hback⟩ := hback q x hx
      have hmapped := hw.cached q y impl hy (hback hcleared) (hsame ▸ himpl)
      exact hkept impl.key q y hmapped hy (hback hcleared)
    addresses := by
      intro a b x y hx hy ha hb hsame
      exact hw.addresses a b x y hx hy (World.isAlive_of_setProxy hp hlater ha)
        (World.isAlive_of_setProxy hp hlater hb) hsame
    handles := by
      intro a b x y hx hy hsame
      obtain ⟨x', hx', hxn, -⟩ := World.holds_setProxy hp hlater hx
      obtain ⟨y', hy', hyn, -⟩ := World.holds_setProxy hp hlater hy
      exact hw.handles a b x' y' hx' hy' (hxn.trans (hsame.trans hyn.symm))
    calls := by
      intro q x hx hcalls
      simp only [World.setProxy, Heap.get?_modify] at hx
      split at hx
      · rename_i hq
        subst hq
        rw [hp] at hx
        cases hx
        exact hlater.calls hcalls
      · exact hw.calls q x hx hcalls }

/-- Nothing in the map changes. -/
theorem Coherent.setProxy_same (hw : Coherent w) {proxy new : CppProxy}
    (hp : w.proxies.get? p = some proxy) (hlater : Later proxy new) :
    Coherent (w.setProxy p new) :=
  hw.setProxy hp hlater (fun _ _ h => h) (fun _ _ _ h _ _ => h)

/-- Copying and dropping a `shared_ptr`. -/
theorem Coherent.setLocals (hw : Coherent w) {locals : Nat}
    (hlocals : 0 < locals → w.isAlive i = true) : Coherent (w.setLocals i locals) := by
  have hget : ∀ k b, (w.setLocals i locals).impls.get? k = some b →
      ∃ a, w.impls.get? k = some a ∧ a.key = b.key ∧ a.address = b.address ∧
        (0 < b.locals → 0 < a.locals ∨ w.isAlive k = true) := by
    intro k b hb
    simp only [World.setLocals, Heap.get?_modify] at hb
    split at hb
    · rename_i hk
      subst hk
      obtain ⟨a, ha, rfl⟩ := Option.map_eq_some_iff.mp hb
      exact ⟨a, ha, rfl, rfl, fun h => .inr (hlocals h)⟩
    · exact ⟨b, hb, rfl, rfl, .inl⟩
  have halive : ∀ k, (w.setLocals i locals).isAlive k = true → w.isAlive k = true := by
    intro k hk
    rcases World.isAlive_iff.mp hk with ⟨b, hb, hpos⟩ | howned
    · obtain ⟨a, ha, -, -, hcase⟩ := hget k b hb
      rcases hcase hpos with hlocal | h
      · exact World.isAlive_iff.mpr (.inl ⟨a, ha, hlocal⟩)
      · exact h
    · exact World.isAlive_iff.mpr (.inr howned)
  have hforth : ∀ k a, w.impls.get? k = some a →
      ∃ b, (w.setLocals i locals).impls.get? k = some b ∧ b.key = a.key := by
    intro k a ha
    simp only [World.setLocals, Heap.get?_modify, ha]
    split
    · exact ⟨_, rfl, rfl⟩
    · exact ⟨a, rfl, rfl⟩
  exact {
    impls := by
      intro q x hx
      obtain ⟨a, ha⟩ := hw.impls q x hx
      obtain ⟨b, hb, -⟩ := hforth x.impl a ha
      exact ⟨b, hb⟩
    mapped := by
      intro key q hq
      obtain ⟨x, a, hx, ha, hkey⟩ := hw.mapped key q hq
      obtain ⟨b, hb, hsame⟩ := hforth x.impl a ha
      exact ⟨x, b, hx, hb, hsame.trans hkey⟩
    cached := by
      intro q x b hx hcleared hb
      obtain ⟨a, ha, hkey, -⟩ := hget x.impl b hb
      exact hkey ▸ hw.cached q x a hx hcleared ha
    addresses := by
      intro k l x y hx hy hk hl hsame
      obtain ⟨a, ha, -, haddr, -⟩ := hget k x hx
      obtain ⟨b, hb, -, hbddr, -⟩ := hget l y hy
      exact hw.addresses k l a b ha hb (halive k hk) (halive l hl)
        (haddr.trans (hsame.trans hbddr.symm))
    handles := hw.handles
    calls := hw.calls }

/-- A new object lies at an address that is free. -/
theorem Coherent.construct (hw : Coherent w) {tag : τ} {address : Nat}
    (hfree : w.addressFree address = true) :
    Coherent { w with impls := (w.impls.alloc { tag, address, locals := 1 }).2 } := by
  have hold : ∀ k a, w.impls.get? k = some a →
      (w.impls.alloc { tag, address, locals := 1 }).2.get? k = some a :=
    fun k a ha => Heap.get?_alloc_of_some _ ha
  have hnew : ∀ k a, (w.impls.alloc { tag, address, locals := 1 }).2.get? k = some a →
      (k = w.impls.next ∧ a.address = address) ∨ w.impls.get? k = some a := by
    intro k a ha
    rw [Heap.get?_alloc] at ha
    split at ha
    · rename_i hk
      cases ha
      exact .inl ⟨hk, rfl⟩
    · exact .inr ha
  have halive : ∀ k, k ≠ w.impls.next →
      World.isAlive { w with impls := (w.impls.alloc { tag, address, locals := 1 }).2 } k = true →
      w.isAlive k = true := by
    intro k hk h
    rcases World.isAlive_iff.mp h with ⟨a, ha, hpos⟩ | howned
    · rcases hnew k a ha with ⟨heq, -⟩ | hget
      · exact absurd heq hk
      · exact World.isAlive_iff.mpr (.inl ⟨a, hget, hpos⟩)
    · exact World.isAlive_iff.mpr (.inr howned)
  exact {
    impls := by
      intro q x hx
      obtain ⟨a, ha⟩ := hw.impls q x hx
      exact ⟨a, hold _ _ ha⟩
    mapped := by
      intro key q hq
      obtain ⟨x, a, hx, ha, hkey⟩ := hw.mapped key q hq
      exact ⟨x, a, hx, hold _ _ ha, hkey⟩
    cached := by
      intro q x a hx hcleared ha
      obtain ⟨b, hb⟩ := hw.impls q x hx
      have hsame : b = a := Option.some.inj ((hold _ _ hb).symm.trans ha)
      exact hsame ▸ hw.cached q x b hx hcleared hb
    addresses := by
      intro k l x y hx hy hk hl hsame
      rcases hnew k x hx with ⟨rfl, hxa⟩ | hx'
      · rcases hnew l y hy with ⟨rfl, -⟩ | hy'
        · rfl
        · -- the address of an object that is there is not free
          have hne := Nat.ne_of_lt (Heap.lt_next_of_get? hy')
          have hdead := World.addressFree_iff.mp hfree l y hy' (hsame.symm.trans hxa)
          rw [halive l hne hl] at hdead
          cases hdead
      · have hkne := Nat.ne_of_lt (Heap.lt_next_of_get? hx')
        rcases hnew l y hy with ⟨rfl, hya⟩ | hy'
        · have hdead := World.addressFree_iff.mp hfree k x hx' (hsame.trans hya)
          rw [halive k hkne hk] at hdead
          cases hdead
        · have hlne := Nat.ne_of_lt (Heap.lt_next_of_get? hy')
          exact hw.addresses k l x y hx' hy' (halive k hkne hk) (halive l hlne hl) hsame
    handles := hw.handles
    calls := hw.calls }

/-- A new proxy, for a key that no reachable proxy has. -/
theorem Coherent.newCppProxy (hw : Coherent w) (mapping : Roster (τ × Nat) Ptr)
    {impl : Impl τ} {handle : Nat} (hi : w.impls.get? i = some impl) (hlocals : 0 < impl.locals)
    (hhandle : w.handleAt handle = none)
    (hfresh : ∀ q x a, w.proxies.get? q = some x → x.cleared = false →
      w.impls.get? x.impl = some a → a.key ≠ impl.key)
    (hmapping : ∀ key, mapping.get? key
      = if key = impl.key then none else w.mapping.get? key) :
    Coherent (World.newCppProxy { w with mapping } i impl.key handle).1 := by
  have hmap : ∀ key, (mapping.add impl.key w.proxies.next).get? key
      = if key = impl.key then some w.proxies.next else w.mapping.get? key := by
    intro key
    rw [Roster.get?_add, hmapping, hmapping, if_pos rfl]
    by_cases hkey : key = impl.key
    · rw [if_pos ⟨hkey, rfl⟩, if_pos hkey]
    · rw [if_neg (fun h => hkey h.1), if_neg hkey, if_neg hkey]
  have hold : ∀ q x, w.proxies.get? q = some x →
      (w.proxies.alloc { nativeRef := handle, impl := i }).2.get? q = some x :=
    fun q x hx => Heap.get?_alloc_of_some _ hx
  have hnew : ∀ q x, (w.proxies.alloc { nativeRef := handle, impl := i }).2.get? q = some x →
      (q = w.proxies.next ∧ x = { nativeRef := handle, impl := i }) ∨
        w.proxies.get? q = some x := by
    intro q x hx
    rw [Heap.get?_alloc] at hx
    split at hx
    · rename_i hq
      cases hx
      exact .inl ⟨hq, rfl⟩
    · exact .inr hx
  have halive : ∀ k, World.isAlive (World.newCppProxy { w with mapping } i impl.key handle).1 k
      = true → w.isAlive k = true := by
    intro k hk
    rcases World.isAlive_iff.mp hk with hlocal | ⟨q, x, ⟨hx, hdel⟩, rfl⟩
    · exact World.isAlive_iff.mpr (.inl hlocal)
    · rcases hnew q x hx with ⟨-, rfl⟩ | hx'
      · exact World.isAlive_iff.mpr (.inl ⟨impl, hi, hlocals⟩)
      · exact World.isAlive_iff.mpr (.inr ⟨q, x, ⟨hx', hdel⟩, rfl⟩)
  exact {
    impls := by
      intro q x hx
      rcases hnew q x hx with ⟨-, rfl⟩ | hx'
      · exact ⟨impl, hi⟩
      · exact hw.impls q x hx'
    mapped := by
      intro key q hq
      rw [show (World.newCppProxy { w with mapping } i impl.key handle).1.mapping
        = mapping.add impl.key w.proxies.next from rfl, hmap] at hq
      split at hq
      · rename_i hkey
        cases hq
        exact ⟨_, impl, w.proxies.get?_alloc_self _, hi, hkey.symm⟩
      · obtain ⟨x, a, hx, ha, hkey⟩ := hw.mapped key q hq
        exact ⟨x, a, hold q x hx, ha, hkey⟩
    cached := by
      intro q x a hx hcleared ha
      show (mapping.add impl.key w.proxies.next).get? a.key = some q
      rw [hmap]
      rcases hnew q x hx with ⟨rfl, rfl⟩ | hx'
      · have hsame : impl = a := Option.some.inj (hi.symm.trans ha)
        rw [if_pos (by rw [hsame])]
      · rw [if_neg (hfresh q x a hx' hcleared ha)]
        exact hw.cached q x a hx' hcleared ha
    addresses := by
      intro k l x y hx hy hk hl hsame
      exact hw.addresses k l x y hx hy (halive k hk) (halive l hl) hsame
    handles := by
      rintro a b x y ⟨hx, hxdel⟩ ⟨hy, hydel⟩ hsame
      rcases hnew a x hx with ⟨rfl, rfl⟩ | hx'
      · rcases hnew b y hy with ⟨rfl, rfl⟩ | hy'
        · rfl
        · exact absurd hsame.symm (World.handleAt_eq_none hhandle ⟨hy', hydel⟩)
      · rcases hnew b y hy with ⟨rfl, rfl⟩ | hy'
        · exact absurd hsame (World.handleAt_eq_none hhandle ⟨hx', hxdel⟩)
        · exact hw.handles a b x y ⟨hx', hxdel⟩ ⟨hy', hydel⟩ hsame
    calls := by
      intro q x hx hcalls
      rcases hnew q x hx with ⟨-, rfl⟩ | hx'
      · rfl
      · exact hw.calls q x hx' hcalls }

/-- The map after a new proxy. -/
theorem World.mapping_newCppProxy {key k : τ × Nat} {handle : Nat}
    (h : (w.newCppProxy i key handle).1.mapping.get? k = some q) :
    q = w.proxies.next ∨ w.mapping.get? k = some q := by
  have hadd : (w.mapping.add key w.proxies.next).get? k = some q := h
  rw [Roster.get?_add] at hadd
  split at hadd
  · cases hadd
    exact .inl rfl
  · exact .inr hadd

/-! ## The cache -/

/-- A proxy that Java can use, for this object. -/
def Usable (w : World τ) (i p : Ptr) : Prop :=
  ∃ proxy, w.proxies.get? p = some proxy ∧ proxy.impl = i ∧ proxy.cleared = false ∧
    proxy.destroyed = false

/-- The key of the object belongs to a proxy that was destroyed and that
the collector has not cleared. -/
def Stale (w : World τ) (i : Ptr) : Prop :=
  ∃ p proxy impl other, w.proxies.get? p = some proxy ∧ proxy.cleared = false ∧
    proxy.destroyed = true ∧ w.impls.get? proxy.impl = some other ∧
    w.impls.get? i = some impl ∧ other.key = impl.key

/-- **What `get` does**: it hands out the reachable proxy of the key, or
makes a new one if there is none. -/
theorem Coherent.get (hw : Coherent w) {impl : Impl τ} {handle : Nat}
    (hi : w.impls.get? i = some impl) (hlocals : 0 < impl.locals)
    (hhandle : w.handleAt handle = none) (h : w.get i impl.key handle = (w', p)) :
    Coherent w' ∧
      ((w' = w ∧ ∃ proxy other, w.proxies.get? p = some proxy ∧ proxy.cleared = false ∧
          w.impls.get? proxy.impl = some other ∧ other.key = impl.key) ∨
        ((∀ q x a, w.proxies.get? q = some x → x.cleared = false →
            w.impls.get? x.impl = some a → a.key ≠ impl.key) ∧
          p = w.proxies.next ∧ w'.impls = w.impls ∧
          w'.proxies = (w.proxies.alloc { nativeRef := handle, impl := i }).2 ∧
          ∀ key q, w'.mapping.get? key = some q →
            q = w.proxies.next ∨ w.mapping.get? key = some q)) := by
  -- unless the map has a reachable proxy under the key, there is none
  have hfresh : (∀ q, w.mapping.get? impl.key = some q → w.isExpired q = true) →
      ∀ q x a, w.proxies.get? q = some x → x.cleared = false →
        w.impls.get? x.impl = some a → a.key ≠ impl.key := by
    intro hexpired q x a hx hcleared ha hkey
    have hmapped := hw.cached q x a hx hcleared ha
    rw [hkey] at hmapped
    have hdead := hexpired q hmapped
    simp only [World.isExpired, hx, hcleared] at hdead
    cases hdead
  unfold World.get at h
  cases hentry : w.mapping.get? impl.key with
  | none =>
      simp only [hentry] at h
      have hnone := hfresh (by rw [hentry]; rintro q ⟨⟩)
      have hcoherent := hw.newCppProxy w.mapping hi hlocals hhandle hnone (by
        intro key
        split
        · rename_i hkey
          rw [hkey, hentry]
        · rfl)
      cases h
      refine ⟨hcoherent, .inr ⟨hnone, rfl, rfl, rfl, fun key q hq => ?_⟩⟩
      exact (World.mapping_newCppProxy hq).imp_right id
  | some q =>
      simp only [hentry] at h
      cases hexpired : w.isExpired q with
      | true =>
          rw [hexpired, if_pos rfl] at h
          have hnone := hfresh (by rw [hentry]; rintro q' ⟨⟩; exact hexpired)
          have hcoherent := hw.newCppProxy (w.mapping.remove impl.key) hi hlocals
            hhandle hnone (fun key => Roster.get?_remove _ _ _)
          cases h
          refine ⟨hcoherent, .inr ⟨hnone, rfl, rfl, rfl, fun key q' hq => ?_⟩⟩
          refine (World.mapping_newCppProxy hq).imp_right fun h => ?_
          rw [Roster.get?_remove] at h
          split at h
          · cases h
          · exact h
      | false =>
          rw [hexpired, if_neg (by simp)] at h
          cases h
          obtain ⟨x, a, hx, ha, hkey⟩ := hw.mapped _ _ hentry
          simp only [World.isExpired, hx] at hexpired
          exact ⟨hw, .inl ⟨rfl, x, a, hx, hexpired, ha, hkey⟩⟩

/-- `remove` takes out of the map an entry that has expired, and nothing
that a reachable proxy needs. -/
theorem World.remove_mapping (key : τ × Nat) :
    ∃ mapping, w.remove key = { w with mapping } ∧
      (∀ k q, mapping.get? k = some q → w.mapping.get? k = some q) ∧
      (∀ k q x, w.mapping.get? k = some q → w.proxies.get? q = some x → x.cleared = false →
        mapping.get? k = some q) ∧
      (∀ q, mapping.get? key = some q → w.isExpired q = false) := by
  unfold World.remove
  cases hentry : w.mapping.get? key with
  | none =>
      refine ⟨w.mapping, rfl, fun _ _ h => h, fun _ _ _ h _ _ => h, ?_⟩
      rw [hentry]
      rintro q ⟨⟩
  | some p =>
      cases hexpired : w.isExpired p with
      | false =>
          refine ⟨w.mapping, by simp [hexpired], fun _ _ h => h, fun _ _ _ h _ _ => h, ?_⟩
          rw [hentry]
          rintro q ⟨⟩
          exact hexpired
      | true =>
          refine ⟨w.mapping.remove key, by simp [hexpired], ?_, ?_, ?_⟩
          · intro k q hq
            rw [Roster.get?_remove] at hq
            split at hq
            · cases hq
            · exact hq
          · intro k q x hq hx hcleared
            rw [Roster.get?_remove, if_neg, hq]
            rintro rfl
            -- the entry taken out is not reachable
            cases hentry.symm.trans hq
            simp only [World.isExpired, hx, hcleared] at hexpired
            cases hexpired
          · intro q hq
            rw [Roster.get?_remove, if_pos rfl] at hq
            cases hq

/-! ## Events -/

/-- An object passed to Java. -/
theorem World.toJava_ok {handle : Nat} {reply : Reply}
    (h : w.step assertions (.toJava i handle) = .ok (w', reply)) :
    ∃ impl p, w.impls.get? i = some impl ∧ 0 < impl.locals ∧ w.handleAt handle = none ∧
      w.get i impl.key handle = (w', p) ∧ reply = .proxy p := by
  simp only [World.step] at h
  cases hi : w.impls.get? i with
  | none =>
      rw [hi] at h
      cases h
  | some impl =>
      simp only [hi] at h
      split at h
      · rename_i henabled
        cases h
        exact ⟨impl, _, rfl, henabled.1, henabled.2, rfl, rfl⟩
      · cases h

/-- The first caller of `_djinni_private_destroy` gets to delete. -/
theorem Coherent.djinniPrivateDestroy (hw : Coherent w) {proxy : CppProxy}
    (hp : w.proxies.get? p = some proxy) : Coherent (w.djinniPrivateDestroy p proxy) := by
  unfold World.djinniPrivateDestroy
  split
  · exact hw
  · rename_i hnot
    refine hw.setProxy_same hp ⟨rfl, rfl, ?_, id, hw.calls p proxy hp⟩
    intro hfinished
    exact absurd (by simp [CppProxy.destroyed, hfinished]) hnot

/-- **Every event keeps the invariant.** -/
theorem Coherent.step (hw : Coherent w) {event : Event τ} {reply : Reply}
    (h : w.step assertions event = .ok (w', reply)) : Coherent w' := by
  cases event with
  | construct tag address =>
      simp only [World.step] at h
      split at h
      · rename_i hfree
        cases h
        exact hw.construct hfree
      · cases h
  | copy i =>
      simp only [World.step] at h
      split at h
      · split at h
        · rename_i halive
          cases h
          exact hw.setLocals (fun _ => halive)
        · cases h
      · cases h
  | reset i =>
      simp only [World.step] at h
      split at h
      · rename_i impl hi
        split at h
        · rename_i hpos
          cases h
          exact hw.setLocals (fun _ => World.isAlive_iff.mpr (.inl ⟨impl, hi, hpos⟩))
        · cases h
      · cases h
  | toJava i handle =>
      obtain ⟨impl, p, hi, hlocals, hhandle, hget, -⟩ := World.toJava_ok h
      exact (hw.get hi hlocals hhandle hget).1
  | clear p =>
      obtain ⟨proxy, hp, henabled, heffect⟩ := World.onProxy_ok h
      cases heffect
      simp only [decide_eq_true_eq] at henabled
      refine hw.setProxy_same hp ⟨rfl, rfl, id, fun _ => rfl, fun hcalls => ?_⟩
      have hzero := henabled.2.1
      simp only at hcalls
      omega
  | enter p =>
      obtain ⟨proxy, hp, henabled, heffect⟩ := World.onProxy_ok h
      split at heffect
      · cases heffect
        exact hw
      · cases heffect
        have hcleared : proxy.cleared = false := by simpa using henabled
        exact hw.setProxy_same hp ⟨rfl, rfl, id, id, fun _ => hcleared⟩
  | native p =>
      obtain ⟨proxy, hp, henabled, heffect⟩ := World.onProxy_ok h
      cases heffect
      have hcleared := hw.calls p proxy hp (by simpa using henabled)
      exact hw.setProxy_same hp ⟨rfl, rfl, id, id, fun _ => hcleared⟩
  | direct p =>
      obtain ⟨proxy, hp, -, heffect⟩ := World.onProxy_ok h
      cases heffect
      exact hw
  | destroy p =>
      obtain ⟨proxy, hp, -, heffect⟩ := World.onProxy_ok h
      cases heffect
      exact hw.djinniPrivateDestroy hp
  | finalize p =>
      obtain ⟨proxy, hp, -, heffect⟩ := World.onProxy_ok h
      cases heffect
      exact hw.djinniPrivateDestroy hp
  | uncache p =>
      obtain ⟨proxy, hp, henabled, heffect⟩ := World.onProxy_ok h
      have hclaimed : proxy.deletion = .claimed := by simpa using henabled
      have hlater : Later proxy { proxy with deletion := .uncached } :=
        ⟨rfl, rfl, by rw [hclaimed]; rintro ⟨⟩, id, hw.calls p proxy hp⟩
      split at heffect
      · rename_i impl _
        obtain ⟨mapping, hmapping, hentry, hkept, -⟩ := World.remove_mapping (w := w) impl.key
        cases heffect
        rw [hmapping]
        exact hw.setProxy hp hlater hentry hkept
      · cases heffect
        exact hw.setProxy_same hp hlater
  | release p =>
      obtain ⟨proxy, hp, -, heffect⟩ := World.onProxy_ok h
      cases heffect
      exact hw.setProxy_same hp ⟨rfl, rfl, fun _ => rfl, id, hw.calls p proxy hp⟩

/-! ## What Java is handed -/

/-- A proxy that was destroyed and that the collector has not cleared. -/
def Destroyed (w : World τ) (p : Ptr) : Prop :=
  ∃ proxy, w.proxies.get? p = some proxy ∧ proxy.cleared = false ∧ proxy.destroyed = true

/-- **An object passed to Java**: Java is handed a usable proxy of it,
unless the key is stale, and then a destroyed one. -/
theorem toJava_cases (hw : Coherent w) {handle : Nat} {reply : Reply}
    (h : w.step assertions (.toJava i handle) = .ok (w', reply)) :
    ∃ p, reply = .proxy p ∧ (¬ Stale w i → Usable w' i p) ∧ (Stale w i → Destroyed w' p) := by
  obtain ⟨impl, p, hi, hlocals, hhandle, hget, rfl⟩ := World.toJava_ok h
  refine ⟨p, rfl, ?_⟩
  obtain ⟨-, ⟨rfl, proxy, other, hp, hcleared, hother, hkey⟩ |
    ⟨hfresh, rfl, himpls, hproxies, -⟩⟩ :=
    hw.get hi hlocals hhandle hget
  · constructor
    · intro hfine
      have hnot : proxy.destroyed = false := by
        by_contra hdestroyed
        exact hfine ⟨p, proxy, impl, other, hp, hcleared, by simpa using hdestroyed, hother, hi,
          hkey⟩
      -- its object is alive, so it is the one at this address
      have hdel : proxy.deletion ≠ .finished := by
        intro hfin
        simp [CppProxy.destroyed, hfin] at hnot
      have hsame : proxy.impl = i :=
        hw.addresses _ _ other impl hother hi
          (World.isAlive_iff.mpr (.inr ⟨p, proxy, ⟨hp, hdel⟩, rfl⟩))
          (World.isAlive_iff.mpr (.inl ⟨impl, hi, hlocals⟩)) (congrArg Prod.snd hkey)
      exact ⟨proxy, hp, hsame, hcleared, hnot⟩
    · rintro ⟨q, y, impl', a, hq, hycleared, hdestroyed, ha, himpl', hsame⟩
      cases himpl'.symm.trans hi
      -- two reachable proxies of one key are one
      have hqp : q = p := by
        have hp' := hw.cached p proxy other hp hcleared hother
        have hq' := hw.cached q y a hq hycleared ha
        rw [hsame, ← hkey, hp'] at hq'
        exact (Option.some.inj hq').symm
      subst hqp
      exact ⟨y, hq, hycleared, hdestroyed⟩
  · constructor
    · intro _
      refine ⟨{ nativeRef := handle, impl := i }, ?_, rfl, rfl, rfl⟩
      rw [hproxies]
      exact w.proxies.get?_alloc_self _
    · rintro ⟨q, y, impl', a, hq, hycleared, -, ha, himpl', hsame⟩
      cases himpl'.symm.trans hi
      exact absurd hsame (hfresh q y a hq hycleared ha)

omit [DecidableEq τ] in
/-- A destroyed proxy is of no use. -/
theorem Destroyed.not_usable (h : Destroyed w p) : ¬ Usable w i p := by
  obtain ⟨proxy, hp, -, hdestroyed⟩ := h
  rintro ⟨x, hx, -, -, hnot⟩
  cases hx.symm.trans hp
  rw [hdestroyed] at hnot
  cases hnot

/-- When an object is passed to Java, Java is handed a proxy it can use. -/
def HandsOutUsable (assertions : Bool) (w : World τ) (event : Event τ) : Prop :=
  ∀ i handle w' p, event = .toJava i handle →
    w.step assertions event = .ok (w', .proxy p) → Usable w' i p

/-- No object is passed to Java while its key is stale. -/
def PassesNoStale (w : World τ) (event : Event τ) : Prop :=
  ∀ i handle, event = .toJava i handle → ¬ Stale w i

/-- When an object is passed to Java while its key is stale, Java is
handed a destroyed proxy. -/
def StaleHandsOutDestroyed (assertions : Bool) (w : World τ) (event : Event τ) : Prop :=
  ∀ i handle w' p, event = .toJava i handle → Stale w i →
    w.step assertions event = .ok (w', .proxy p) → Destroyed w' p

/-- **Which proxies are handed out.** In whatever order C++ code, Java
code, the collector and the finalizer act: Java is handed usable proxies,
each for the object that was passed, if and only if no object is passed
at whose address an object lay whose proxy was destroyed by hand and is
not yet cleared by the collector. Where one is, Java is handed a
destroyed proxy. -/
theorem proxies_usable_iff (assertions : Bool) (events : List (Event τ)) (w : World τ)
    (replies : List Reply)
    (hrun : (proxyMachine τ assertions).run .initial events = .ok (w, replies)) :
    ((proxyMachine τ assertions).Meets (HandsOutUsable assertions) .initial events ↔
      (proxyMachine τ assertions).Meets PassesNoStale .initial events) ∧
    (proxyMachine τ assertions).Meets (StaleHandsOutDestroyed assertions) .initial events := by
  have hstep : ∀ (w : World τ) (event : Event τ) (w' : World τ) (reply : Reply), Coherent w →
      True → (proxyMachine τ assertions).step w event = .ok (w', reply) → Coherent w' :=
    fun _ _ _ _ hw _ h => hw.step h
  have hany : (proxyMachine τ assertions).Meets (fun _ _ => True) .initial events :=
    Machine.meets_of_steps fun _ _ _ _ _ _ _ => trivial
  constructor
  · refine Machine.meets_iff_of_run Coherent hstep ?_ coherent_initial hany hrun
    intro w event w' reply hw h
    constructor
    · rintro husable i handle rfl hstale
      have hhanded : w.step assertions (.toJava i handle) = .ok (w', reply) := h
      obtain ⟨p, rfl, -, hdestroyed⟩ := toJava_cases hw hhanded
      exact (hdestroyed hstale).not_usable (husable i handle w' p rfl h)
    · rintro hfine i handle u p rfl hu
      obtain ⟨p', hreply, husable, -⟩ := toJava_cases hw hu
      cases hreply
      exact husable (hfine i handle rfl)
  · refine Machine.meets_of_invariant Coherent hstep ?_ coherent_initial hany
    rintro w event hw - i handle u p rfl hstale hu
    obtain ⟨p', hreply, -, hdestroyed⟩ := toJava_cases hw hu
    cases hreply
    exact hdestroyed hstale

/-- A mixer is created, destroyed by hand, and another one is created at
the same address before the collector has seen the first proxy. -/
def createAgain : List (Event Unit) :=
  [.construct () 8192, .toJava 0 12288, .reset 0, .destroy 0, .uncache 0, .release 0,
    .construct () 8192, .toJava 1 12288, .reset 1]

/-- The second mixer dies at once, and Java is handed the destroyed proxy
of the first. -/
theorem proxies_usable_iff_create_again :
    ∃ w replies, (proxyMachine Unit false).run .initial createAgain = .ok (w, replies) ∧
      ¬ (proxyMachine Unit false).Meets (HandsOutUsable false) .initial createAgain ∧
      replies[7]? = some (.proxy 0) ∧ w.isAlive 1 = false := by
  obtain ⟨w, replies, hrun, hreply, hdead⟩ : ∃ w replies,
      (proxyMachine Unit false).run .initial createAgain = .ok (w, replies) ∧
        replies[7]? = some (.proxy 0) ∧ w.isAlive 1 = false := ⟨_, _, rfl, rfl, rfl⟩
  refine ⟨w, replies, hrun, fun husable => ?_, hreply, hdead⟩
  have hfine := (proxies_usable_iff false createAgain w replies hrun).1.mp husable
  have hlast := (hfine.2 _ _ rfl).2 _ _ rfl |>.2 _ _ rfl |>.2 _ _ rfl |>.2 _ _ rfl |>.2 _ _ rfl
    |>.2 _ _ rfl
  exact hlast.1 1 12288 rfl ⟨0, _, _, _, rfl, rfl, rfl, rfl, rfl, rfl⟩

end L4AudioMixer.Djinni
