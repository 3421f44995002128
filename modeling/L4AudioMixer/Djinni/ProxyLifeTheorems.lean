/-
L4AudioMixer.Djinni.ProxyLifeTheorems — which calls reach the handle of
their proxy, and what the collector leaves behind.

`calls_reach_iff` is about proxies destroyed by hand. Where assertions are
enabled, the one in front of the generated methods makes them safe as long
as `destroy` does not overlap a call; `mix` and `addRecordedData` go
without it and reach their handle exactly when it was not deleted before.
Where assertions are not enabled, this is so for all methods. `collected_in_order`
is about proxies left to the collector: all the calls are right, every
proxy handed out is, and once every handle is deleted the map is empty.
-/
import L4AudioMixer.Djinni.ProxyCacheTheorems

namespace L4AudioMixer.Djinni

open L4AudioMixer.Lib

variable {τ : Type} {assertions : Bool} {w w' : World τ} {p q i : Ptr}

/-! ## Calls -/

/-- A guarded call is under way only while the proxy is not destroyed. -/
def Guarded (w : World τ) : Prop :=
  ∀ p proxy, w.proxies.get? p = some proxy → 0 < proxy.calls → proxy.deletion = .notYet

theorem Guarded.setProxy (hg : Guarded w) {proxy new : CppProxy}
    (hp : w.proxies.get? p = some proxy) (hnew : 0 < new.calls → new.deletion = .notYet) :
    Guarded (w.setProxy p new) := by
  intro q x hx hcalls
  simp only [World.setProxy, Heap.get?_modify] at hx
  split at hx
  · rename_i hq
    subst hq
    rw [hp] at hx
    cases hx
    exact hnew hcalls
  · exact hg q x hx hcalls

theorem Guarded.djinniPrivateDestroy (hg : Guarded w) {proxy : CppProxy}
    (hp : w.proxies.get? p = some proxy) (hcalls : proxy.calls = 0) :
    Guarded (w.djinniPrivateDestroy p proxy) := by
  unfold World.djinniPrivateDestroy
  split
  · exact hg
  · exact hg.setProxy hp (fun hpos => by simp only at hpos; omega)

variable [DecidableEq τ]

/-- A handle that was not deleted is found at its address. -/
theorem Coherent.handleAt_eq_some (hw : Coherent w) {proxy : CppProxy}
    (hp : w.proxies.get? p = some proxy) :
    w.handleAt proxy.nativeRef = some p ↔ proxy.deletion ≠ .finished := by
  constructor
  · intro h
    obtain ⟨x, ⟨hx, hdel⟩, -⟩ := World.holds_of_handleAt h
    cases hp.symm.trans hx
    exact hdel
  · intro hdel
    cases hfound : w.handleAt proxy.nativeRef with
    | none => exact absurd rfl (World.handleAt_eq_none hfound ⟨hp, hdel⟩)
    | some q =>
        obtain ⟨x, hx, hsame⟩ := World.holds_of_handleAt hfound
        exact congrArg some (hw.handles q p x proxy hx ⟨hp, hdel⟩ hsame)

/-- A native method that uses `nativeRef` finds the handle of its proxy. -/
def CallsReach (assertions : Bool) (w : World τ) (event : Event τ) : Prop :=
  ∀ p w' handle, event = .native p ∨ event = .direct p →
    w.step assertions event = .ok (w', .reached handle) → handle = some p

/-- `destroy` is called while no guarded call of the proxy is under way. -/
def NotDuringCalls (w : World τ) (event : Event τ) : Prop :=
  ∀ p proxy, event = .destroy p → w.proxies.get? p = some proxy → proxy.calls = 0

/-- A method in front of which no assertion is checked uses `nativeRef`:
`mix` and `addRecordedData` always, the others where assertions are not
enabled. -/
def Unchecked (assertions : Bool) (event : Event τ) (p : Ptr) : Prop :=
  event = .direct p ∨ (assertions = false ∧ event = .native p)

/-- Methods without a checked assertion use the handle before it is
deleted. -/
def UncheckedBeforeDeletion (assertions : Bool) (w : World τ) (event : Event τ) : Prop :=
  ∀ p proxy, Unchecked assertions event p → w.proxies.get? p = some proxy →
    proxy.deletion ≠ .finished

/-- With assertions and without overlap, every event keeps the guard. -/
theorem Guarded.step (hg : Guarded w) (hw : Coherent w) {event : Event τ} {reply : Reply}
    (hevent : NotDuringCalls w event) (h : w.step true event = .ok (w', reply)) :
    Guarded w' := by
  cases event with
  | construct tag address =>
      simp only [World.step] at h
      split at h
      · cases h
        exact hg
      · cases h
  | copy i =>
      simp only [World.step] at h
      split at h
      · split at h
        · cases h
          exact hg
        · cases h
      · cases h
  | reset i =>
      simp only [World.step] at h
      split at h
      · split at h
        · cases h
          exact hg
        · cases h
      · cases h
  | toJava i handle =>
      obtain ⟨impl, p, hi, hlocals, hhandle, hget, -⟩ := World.toJava_ok h
      rcases (hw.get hi hlocals hhandle hget).2 with ⟨rfl, -⟩ | ⟨-, -, -, hproxies, -⟩
      · exact hg
      · intro q x hx hcalls
        rw [hproxies, Heap.get?_alloc] at hx
        split at hx
        · cases hx
          rfl
        · exact hg q x hx hcalls
  | clear p =>
      obtain ⟨proxy, hp, -, heffect⟩ := World.onProxy_ok h
      cases heffect
      exact hg.setProxy hp (hg p proxy hp)
  | enter p =>
      obtain ⟨proxy, hp, -, heffect⟩ := World.onProxy_ok h
      split at heffect
      · cases heffect
        exact hg
      · rename_i hnot
        cases heffect
        refine hg.setProxy hp (fun _ => ?_)
        simpa [CppProxy.destroyed] using hnot
  | native p =>
      obtain ⟨proxy, hp, henabled, heffect⟩ := World.onProxy_ok h
      cases heffect
      exact hg.setProxy hp (fun _ => hg p proxy hp (by simpa using henabled))
  | direct p =>
      obtain ⟨proxy, hp, -, heffect⟩ := World.onProxy_ok h
      cases heffect
      exact hg
  | destroy p =>
      obtain ⟨proxy, hp, -, heffect⟩ := World.onProxy_ok h
      cases heffect
      exact hg.djinniPrivateDestroy hp (hevent p proxy rfl hp)
  | finalize p =>
      obtain ⟨proxy, hp, henabled, heffect⟩ := World.onProxy_ok h
      cases heffect
      -- a call would refer to the proxy, and the collector not clear it
      have hcleared : proxy.cleared = true := by simpa using henabled
      have hnone : proxy.calls = 0 := by
        by_contra hcalls
        have hreach := hw.calls p proxy hp (Nat.pos_of_ne_zero hcalls)
        rw [hcleared] at hreach
        cases hreach
      exact hg.djinniPrivateDestroy hp hnone
  | uncache p =>
      obtain ⟨proxy, hp, henabled, heffect⟩ := World.onProxy_ok h
      have hclaimed : proxy.deletion = .claimed := by simpa using henabled
      have hnone : ¬ 0 < proxy.calls := by
        intro hcalls
        rw [hg p proxy hp hcalls] at hclaimed
        cases hclaimed
      split at heffect
      · rename_i impl _
        obtain ⟨mapping, hmapping, -⟩ := World.remove_mapping (w := w) impl.key
        cases heffect
        rw [hmapping]
        exact Guarded.setProxy (w := { w with mapping }) hg hp (fun h => absurd h hnone)
      · cases heffect
        exact hg.setProxy hp (fun h => absurd h hnone)
  | release p =>
      obtain ⟨proxy, hp, henabled, heffect⟩ := World.onProxy_ok h
      have huncached : proxy.deletion = .uncached := by simpa using henabled
      cases heffect
      refine hg.setProxy hp (fun hcalls => ?_)
      rw [hg p proxy hp hcalls] at huncached
      cases huncached

/-- **Which calls reach their handle.** In whatever order the parties act:
where Java's assertions are enabled, if `destroy` does not overlap guarded
calls of the same proxy, every native method finds the handle of its proxy
if and only if `mix` and `addRecordedData` are not called after the handle
was deleted, and the guarded methods need nothing; where assertions are
not enabled, if and only if no method at all uses its handle after that. -/
theorem calls_reach_iff (assertions : Bool) (events : List (Event τ)) (w : World τ)
    (replies : List Reply)
    (hrun : (proxyMachine τ assertions).run .initial events = .ok (w, replies))
    (hdestroy : assertions = true →
      (proxyMachine τ assertions).Meets NotDuringCalls .initial events) :
    (proxyMachine τ assertions).Meets (CallsReach assertions) .initial events ↔
      (proxyMachine τ assertions).Meets (UncheckedBeforeDeletion assertions) .initial events := by
  -- the guard is kept where assertions are checked; elsewhere there is none
  have hD : (proxyMachine τ assertions).Meets
      (fun w event => assertions = true → NotDuringCalls w event) .initial events := by
    cases assertions with
    | false => exact Machine.meets_of_steps fun _ _ _ _ _ _ _ => by rintro ⟨⟩
    | true => exact Machine.meets_mono (fun _ _ h _ => h) (hdestroy rfl)
  refine Machine.meets_iff_of_run (fun w => Coherent w ∧ (assertions = true → Guarded w))
    (fun w event w' reply hI hevent h => ?_) ?_
    ⟨coherent_initial, fun _ => by rintro p proxy ⟨⟩⟩ hD hrun
  · have hstep : w.step assertions event = .ok (w', reply) := h
    refine ⟨hI.1.step hstep, fun henabled => ?_⟩
    subst henabled
    exact (hI.2 rfl).step hI.1 (hevent rfl) hstep
  rintro w event w' reply ⟨hw, hg⟩ h
  have hstep : w.step assertions event = .ok (w', reply) := h
  constructor
  · rintro hreach p proxy (rfl | ⟨-, rfl⟩) hp
    · obtain ⟨x, hx, -, heffect⟩ := World.onProxy_ok hstep
      cases heffect
      cases hp.symm.trans hx
      exact (hw.handleAt_eq_some hp).mp (hreach p _ _ (.inr rfl) hstep)
    · obtain ⟨x, hx, -, heffect⟩ := World.onProxy_ok hstep
      cases heffect
      cases hp.symm.trans hx
      exact (hw.handleAt_eq_some hp).mp (hreach p _ _ (.inl rfl) hstep)
  · rintro hbefore p u handle (rfl | rfl) hu
    · obtain ⟨proxy, hp, henabled, heffect⟩ := World.onProxy_ok hu
      cases heffect
      refine (hw.handleAt_eq_some hp).mpr ?_
      cases assertions with
      | false => exact hbefore p proxy (.inr ⟨rfl, rfl⟩) hp
      | true =>
          rw [hg rfl p proxy hp (by simpa using henabled)]
          rintro ⟨⟩
    · obtain ⟨proxy, hp, -, heffect⟩ := World.onProxy_ok hu
      cases heffect
      exact (hw.handleAt_eq_some hp).mpr (hbefore p proxy (.inl rfl) hp)

/-- A mixer is created, mixed, destroyed by hand, and its volume is set and
it is mixed again. -/
def useAfterDestroy : List (Event Unit) :=
  [.construct () 8192, .toJava 0 12288, .direct 0, .destroy 0, .uncache 0, .release 0, .enter 0,
    .direct 0]

/-- The same, and `updateVolume` goes on to its native method. -/
def useAfterDestroyUnchecked : List (Event Unit) :=
  [.construct () 8192, .toJava 0 12288, .direct 0, .destroy 0, .uncache 0, .release 0, .enter 0,
    .native 0]

/-- With assertions `updateVolume` is refused, and `mix` uses a handle that
is gone; without them `updateVolume` uses one too. -/
theorem calls_reach_iff_use_after_destroy :
    (∃ w replies, (proxyMachine Unit true).run .initial useAfterDestroy = .ok (w, replies) ∧
      replies[6]? = some .refused ∧ replies[7]? = some (.reached none) ∧
      ¬ (proxyMachine Unit true).Meets (UncheckedBeforeDeletion true) .initial
          useAfterDestroy) ∧
    ∃ w replies, (proxyMachine Unit false).run .initial useAfterDestroyUnchecked
        = .ok (w, replies) ∧
      replies[7]? = some (.reached none) ∧
      ¬ (proxyMachine Unit false).Meets (UncheckedBeforeDeletion false) .initial
          useAfterDestroyUnchecked := by
  constructor
  · obtain ⟨w, replies, hrun, hrefused, hnone⟩ : ∃ w replies,
        (proxyMachine Unit true).run .initial useAfterDestroy = .ok (w, replies) ∧
          replies[6]? = some .refused ∧ replies[7]? = some (.reached none) :=
      ⟨_, _, rfl, rfl, rfl⟩
    refine ⟨w, replies, hrun, hrefused, hnone, fun hbefore => ?_⟩
    have hdestroy : (proxyMachine Unit true).Meets NotDuringCalls .initial useAfterDestroy := by
      refine Machine.meets_cons ?_ rfl <| Machine.meets_cons ?_ rfl <| Machine.meets_cons ?_ rfl <|
        Machine.meets_cons ?_ rfl <| Machine.meets_cons ?_ rfl <| Machine.meets_cons ?_ rfl <|
        Machine.meets_cons ?_ rfl <| Machine.meets_cons ?_ rfl trivial
      all_goals rintro p proxy ⟨⟩
      rintro ⟨⟩
      rfl
    have hreach := (calls_reach_iff true useAfterDestroy w replies hrun fun _ => hdestroy).mpr
      hbefore
    have hlast := (hreach.2 _ _ rfl).2 _ _ rfl |>.2 _ _ rfl |>.2 _ _ rfl |>.2 _ _ rfl
      |>.2 _ _ rfl |>.2 _ _ rfl
    cases hlast.1 0 _ none (.inr rfl) rfl
  · obtain ⟨w, replies, hrun, hnone⟩ : ∃ w replies,
        (proxyMachine Unit false).run .initial useAfterDestroyUnchecked = .ok (w, replies) ∧
          replies[7]? = some (.reached none) :=
      ⟨_, _, rfl, rfl⟩
    refine ⟨w, replies, hrun, hnone, fun hbefore => ?_⟩
    have hreach := (calls_reach_iff false useAfterDestroyUnchecked w replies hrun
      (by rintro ⟨⟩)).mpr hbefore
    have hlast := (hreach.2 _ _ rfl).2 _ _ rfl |>.2 _ _ rfl |>.2 _ _ rfl |>.2 _ _ rfl
      |>.2 _ _ rfl |>.2 _ _ rfl
    cases hlast.1 0 _ none (.inl rfl) rfl

/-! ## Proxies left to the collector -/

/-- Java code does not call `destroy`. -/
def NoDestroy (event : Event τ) : Prop := ∀ p, event ≠ .destroy p

/-- What holds as long as proxies are left to the collector: a destroyed
one was cleared before, and is out of the map before its handle goes. -/
structure Collected (w : World τ) : Prop where
  cleared : ∀ p proxy, w.proxies.get? p = some proxy → proxy.destroyed = true →
    proxy.cleared = true
  listed : ∀ key p proxy, w.mapping.get? key = some p → w.proxies.get? p = some proxy →
    proxy.deletion = .notYet ∨ proxy.deletion = .claimed

/-- Changing a proxy in place, with less in the map. -/
theorem Collected.setProxy (hc : Collected w) {proxy new : CppProxy}
    (hp : w.proxies.get? p = some proxy) {mapping : Roster (τ × Nat) Ptr}
    (hentry : ∀ key q, mapping.get? key = some q → w.mapping.get? key = some q)
    (hcleared : new.destroyed = true → new.cleared = true)
    (hlisted : ∀ key, mapping.get? key = some p →
      new.deletion = .notYet ∨ new.deletion = .claimed) :
    Collected ({ w with mapping }.setProxy p new) := by
  have hget : ∀ q x, ({ w with mapping }.setProxy p new).proxies.get? q = some x →
      (q = p ∧ x = new) ∨ (q ≠ p ∧ w.proxies.get? q = some x) := by
    intro q x hx
    simp only [World.setProxy, Heap.get?_modify] at hx
    split at hx
    · rename_i hq
      subst hq
      rw [hp] at hx
      cases hx
      exact .inl ⟨rfl, rfl⟩
    · rename_i hq
      exact .inr ⟨hq, hx⟩
  constructor
  · intro q x hx hdestroyed
    rcases hget q x hx with ⟨-, rfl⟩ | ⟨-, hx'⟩
    · exact hcleared hdestroyed
    · exact hc.cleared q x hx' hdestroyed
  · intro key q x hq hx
    rcases hget q x hx with ⟨rfl, rfl⟩ | ⟨-, hx'⟩
    · exact hlisted key hq
    · exact hc.listed key q x (hentry key q hq) hx'

/-- Without `destroy`, every event keeps this. -/
theorem Collected.step (hc : Collected w) (hw : Coherent w) {event : Event τ} {reply : Reply}
    (hevent : NoDestroy event) (h : w.step assertions event = .ok (w', reply)) : Collected w' := by
  cases event with
  | construct tag address =>
      simp only [World.step] at h
      split at h
      · cases h
        exact ⟨hc.cleared, hc.listed⟩
      · cases h
  | copy i =>
      simp only [World.step] at h
      split at h
      · split at h
        · cases h
          exact ⟨hc.cleared, hc.listed⟩
        · cases h
      · cases h
  | reset i =>
      simp only [World.step] at h
      split at h
      · split at h
        · cases h
          exact ⟨hc.cleared, hc.listed⟩
        · cases h
      · cases h
  | toJava i handle =>
      obtain ⟨impl, p, hi, hlocals, hhandle, hget, -⟩ := World.toJava_ok h
      rcases (hw.get hi hlocals hhandle hget).2 with ⟨rfl, -⟩ | ⟨-, -, -, hproxies, hmapping⟩
      · exact hc
      · have hnew : ∀ q x, w'.proxies.get? q = some x →
            x = { nativeRef := handle, impl := i } ∨ w.proxies.get? q = some x := by
          intro q x hx
          rw [hproxies, Heap.get?_alloc] at hx
          split at hx
          · cases hx
            exact .inl rfl
          · exact .inr hx
        constructor
        · intro q x hx hdestroyed
          rcases hnew q x hx with rfl | hx'
          · cases hdestroyed
          · exact hc.cleared q x hx' hdestroyed
        · intro key q x hq hx
          rcases hnew q x hx with rfl | hx'
          · exact .inl rfl
          · rcases hmapping key q hq with rfl | hold
            · exact absurd rfl (Nat.ne_of_lt (Heap.lt_next_of_get? hx'))
            · exact hc.listed key q x hold hx'
  | clear p =>
      obtain ⟨proxy, hp, -, heffect⟩ := World.onProxy_ok h
      cases heffect
      exact hc.setProxy hp (fun _ _ h => h) (fun _ => rfl)
        (fun key hkey => hc.listed key p proxy hkey hp)
  | enter p =>
      obtain ⟨proxy, hp, -, heffect⟩ := World.onProxy_ok h
      split at heffect
      · cases heffect
        exact hc
      · cases heffect
        exact hc.setProxy hp (fun _ _ h => h) (hc.cleared p proxy hp)
          (fun key hkey => hc.listed key p proxy hkey hp)
  | native p =>
      obtain ⟨proxy, hp, -, heffect⟩ := World.onProxy_ok h
      cases heffect
      exact hc.setProxy hp (fun _ _ h => h) (hc.cleared p proxy hp)
        (fun key hkey => hc.listed key p proxy hkey hp)
  | direct p =>
      obtain ⟨proxy, hp, -, heffect⟩ := World.onProxy_ok h
      cases heffect
      exact hc
  | destroy p => exact absurd rfl (hevent p)
  | finalize p =>
      obtain ⟨proxy, hp, henabled, heffect⟩ := World.onProxy_ok h
      cases heffect
      unfold World.djinniPrivateDestroy
      split
      · exact hc
      · exact hc.setProxy hp (fun _ _ h => h) (fun _ => by simpa using henabled)
          (fun _ _ => .inr rfl)
  | uncache p =>
      obtain ⟨proxy, hp, henabled, heffect⟩ := World.onProxy_ok h
      have hclaimed : proxy.deletion = .claimed := by simpa using henabled
      have hdead : proxy.cleared = true :=
        hc.cleared p proxy hp (by simp [CppProxy.destroyed, hclaimed])
      obtain ⟨impl, himpl⟩ := hw.impls p proxy hp
      simp only [himpl] at heffect
      obtain ⟨mapping, hmapping, hentry, -, hgone⟩ := World.remove_mapping (w := w) impl.key
      cases heffect
      rw [hmapping]
      refine hc.setProxy hp hentry (fun _ => hdead) ?_
      intro key hkey
      -- the only key it could have is the one that was removed
      obtain ⟨x, a, hx, ha, rfl⟩ := hw.mapped key p (hentry key p hkey)
      cases hp.symm.trans hx
      cases himpl.symm.trans ha
      have hlive := hgone p hkey
      simp only [World.isExpired, hp, hdead] at hlive
      cases hlive
  | release p =>
      obtain ⟨proxy, hp, henabled, heffect⟩ := World.onProxy_ok h
      have huncached : proxy.deletion = .uncached := by simpa using henabled
      cases heffect
      refine hc.setProxy hp (fun _ _ h => h)
        (fun _ => hc.cleared p proxy hp (by simp [CppProxy.destroyed, huncached])) ?_
      intro key hkey
      -- a proxy that was taken out of the map is not in it
      rcases hc.listed key p proxy hkey hp with hno | hno
      · rw [huncached] at hno
        cases hno
      · rw [huncached] at hno
        cases hno

/-- An event of a run that is right: Java is handed usable proxies, no
call is refused, and native methods find the handle of their proxy. -/
structure GoesWell (assertions : Bool) (w : World τ) (event : Event τ) : Prop where
  handsOut : HandsOutUsable assertions w event
  reaches : CallsReach assertions w event
  accepts : ∀ p w', event = .enter p → w.step assertions event ≠ .ok (w', .refused)

theorem Collected.goesWell (hc : Collected w) (hw : Coherent w) (event : Event τ) :
    GoesWell assertions w event := by
  -- a proxy that Java can refer to is not destroyed
  have hlive : ∀ {p proxy}, w.proxies.get? p = some proxy → proxy.cleared = false →
      proxy.destroyed = false := by
    intro p proxy hp hcleared
    by_contra hdestroyed
    rw [hc.cleared p proxy hp (by simpa using hdestroyed)] at hcleared
    cases hcleared
  have hhandle : ∀ {p proxy}, w.proxies.get? p = some proxy → proxy.cleared = false →
      w.handleAt proxy.nativeRef = some p := by
    intro p proxy hp hcleared
    rw [hw.handleAt_eq_some hp]
    intro hfinished
    have hnot := hlive hp hcleared
    simp [CppProxy.destroyed, hfinished] at hnot
  constructor
  · rintro i handle u p rfl hu
    obtain ⟨p', hreply, husable, -⟩ := toJava_cases hw hu
    cases hreply
    refine husable ?_
    rintro ⟨q, proxy, impl, other, hq, hcleared, hdestroyed, -⟩
    rw [hlive hq hcleared] at hdestroyed
    cases hdestroyed
  · rintro p u handle (rfl | rfl) hu
    · obtain ⟨proxy, hp, henabled, heffect⟩ := World.onProxy_ok hu
      cases heffect
      exact hhandle hp (hw.calls p proxy hp (by simpa using henabled))
    · obtain ⟨proxy, hp, henabled, heffect⟩ := World.onProxy_ok hu
      cases heffect
      exact hhandle hp (by simpa using henabled)
  · rintro p u rfl hu
    obtain ⟨proxy, hp, henabled, heffect⟩ := World.onProxy_ok hu
    rw [hlive hp (by simpa using henabled), if_neg (by simp)] at heffect
    cases heffect

/-- **Proxies left to the collector.** In whatever order the parties act,
if Java code never calls `destroy`: every proxy handed out is usable and
for the object that was passed, every call reaches its object, guarded or
not, and once all handles are deleted nothing is left in the map. -/
theorem collected_in_order (assertions : Bool) (events : List (Event τ)) (w : World τ)
    (replies : List Reply)
    (hrun : (proxyMachine τ assertions).run .initial events = .ok (w, replies))
    (hevents : ∀ event ∈ events, NoDestroy event) :
    (proxyMachine τ assertions).Meets (GoesWell assertions) .initial events ∧
      ((∀ p proxy, w.proxies.get? p = some proxy → proxy.deletion = .finished) →
        w.mapping.items = []) := by
  have hmeets :
      (proxyMachine τ assertions).Meets (fun _ event => NoDestroy event) .initial events :=
    Machine.meets_of_steps fun pre event post _ _ happend _ =>
      hevents event (by simp [happend])
  have hstep : ∀ (w : World τ) (event : Event τ) (w' : World τ) (reply : Reply),
      Coherent w ∧ Collected w → NoDestroy event →
      (proxyMachine τ assertions).step w event = .ok (w', reply) → Coherent w' ∧ Collected w' :=
    fun _ _ _ _ hI hevent h => ⟨hI.1.step h, hI.2.step hI.1 hevent h⟩
  have hinit : Coherent (World.initial : World τ) ∧ Collected (World.initial : World τ) :=
    ⟨coherent_initial, by rintro p proxy ⟨⟩, by rintro key p proxy ⟨⟩⟩
  constructor
  · exact Machine.meets_of_invariant _ hstep (fun _ event hI _ => hI.2.goesWell hI.1 event)
      hinit hmeets
  · obtain ⟨hw, hc⟩ := Machine.run_invariant_of_meets _ _ hstep hinit hmeets hrun
    intro hfinished
    rw [List.eq_nil_iff_forall_not_mem]
    rintro ⟨key, p⟩ hmem
    have hentry := Roster.get?_of_mem hmem
    obtain ⟨proxy, impl, hp, -, -⟩ := hw.mapped key p hentry
    rcases hc.listed key p proxy hentry hp with hno | hno
    · rw [hfinished p proxy hp] at hno
      cases hno
    · rw [hfinished p proxy hp] at hno
      cases hno

/-- A mixer is created and left to the collector, and another one is
created at its address. -/
def createAfterCollection : List (Event Unit) :=
  [.construct () 8192, .toJava 0 12288, .reset 0, .enter 0, .native 0, .clear 0, .finalize 0,
    .uncache 0, .release 0, .construct () 8192, .toJava 1 12288]

theorem collected_in_order_create_again :
    ∃ w replies, (proxyMachine Unit false).run .initial createAfterCollection = .ok (w, replies) ∧
      replies[10]? = some (.proxy 1) ∧
      (proxyMachine Unit false).Meets (GoesWell false) .initial createAfterCollection := by
  obtain ⟨w, replies, hrun, hreply⟩ : ∃ w replies,
      (proxyMachine Unit false).run .initial createAfterCollection = .ok (w, replies) ∧
        replies[10]? = some (.proxy 1) := ⟨_, _, rfl, rfl⟩
  refine ⟨w, replies, hrun, hreply,
    (collected_in_order false createAfterCollection w replies hrun ?_).1⟩
  intro event hmem p
  simp only [createAfterCollection, List.mem_cons, List.not_mem_nil, or_false] at hmem
  rcases hmem with rfl | rfl | rfl | rfl | rfl | rfl | rfl | rfl | rfl | rfl | rfl
  all_goals rintro ⟨⟩

end L4AudioMixer.Djinni
