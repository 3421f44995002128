/-
L4AudioMixer.Djinni.ProxyCache — the model of how a C++ mixer and its Java
proxy hold on to each other: `proxy_cache_impl.hpp`, `JniInterface` of
`djinni_support.hpp`, `NativeAudioMixerApi.cpp`, `AudioMixerApi.java` and
`AudioMixer.java`.

A Java proxy owns a handle, the handle owns a `shared_ptr` to the object,
and a map from addresses to weak references finds the proxy of an object
again. Four parties act on this in any order: C++ code that constructs
objects and copies and drops `shared_ptr`s to them, Java code that calls
a proxy or destroys it, the collector that clears weak references, and
the finalizer. A `World` is the state they share, and an `Event` is what
one of them does without another in between: `m_mutex` makes `get` and
`remove` such events, the atomic `destroyed` flag makes its test one, and
the steps of a destruction are separate events.

Objects and handles are allocated at addresses that are free; which, is
part of the event. An address can be used again. Pointers (`Lib.Ptr`) are
never used again: they name objects and proxies in the model.
-/
import L4AudioMixer.Lib.Heap
import L4AudioMixer.Lib.Machine
import L4AudioMixer.Lib.Roster

namespace L4AudioMixer.Djinni

open L4AudioMixer.Lib

variable {τ : Type} [DecidableEq τ]

/-- A C++ object: its interface (the `type_index` of its `shared_ptr`),
where it lies, and how many `shared_ptr`s to it there are besides those in
handles. -/
structure Impl (τ : Type) where
  tag : τ
  address : Nat
  locals : Nat

/-- `Key`. -/
def Impl.key (impl : Impl τ) : τ × Nat := (impl.tag, impl.address)

/-- How far the destruction of a proxy's handle has come: not begun;
`destroyed` set; `cleanup` of `~Handle` done; the handle deleted. -/
inductive Deletion where
  | notYet | claimed | uncached | finished
  deriving DecidableEq, Repr

/-- `AudioMixerApi.CppProxy`, with its handle. -/
structure CppProxy where
  /-- The address of the handle. -/
  nativeRef : Nat
  /-- The object of the handle, `m_obj`. -/
  impl : Ptr
  deletion : Deletion := .notYet
  /-- The collector has found the proxy unreachable and cleared the weak
  references to it. -/
  cleared : Bool := false
  /-- Guarded calls that have not used `nativeRef` yet. -/
  calls : Nat := 0

/-- `destroyed.get()`. -/
def CppProxy.destroyed (proxy : CppProxy) : Bool := proxy.deletion ≠ .notYet

/-- What the parties share. -/
structure World (τ : Type) where
  impls : Heap (Impl τ)
  proxies : Heap CppProxy
  /-- `m_mapping`, from keys to weak references. -/
  mapping : Roster (τ × Nat) Ptr

namespace World

/-- Nothing was constructed. -/
def initial : World τ := ⟨.empty, .empty, .empty⟩

/-! ## Memory -/

/-- Some `shared_ptr` owns the object. -/
def isAlive (w : World τ) (i : Ptr) : Bool :=
  (w.impls.get? i).any (fun impl => 0 < impl.locals) ||
    (List.range w.proxies.next).any fun p =>
      (w.proxies.get? p).any fun proxy => proxy.impl = i ∧ proxy.deletion ≠ .finished

/-- No object lies at the address. -/
def addressFree (w : World τ) (address : Nat) : Bool :=
  (List.range w.impls.next).all fun i =>
    (w.impls.get? i).all fun impl => impl.address ≠ address ∨ w.isAlive i = false

/-- The proxy whose handle lies at an address. -/
def handleAt (w : World τ) (address : Nat) : Option Ptr :=
  (List.range w.proxies.next).find? fun p =>
    (w.proxies.get? p).any fun proxy => proxy.nativeRef = address ∧ proxy.deletion ≠ .finished

/-! ## The cache -/

/-- `is_expired` of the weak reference to a proxy. -/
def isExpired (w : World τ) (p : Ptr) : Bool :=
  match w.proxies.get? p with
  | some proxy => proxy.cleared
  | none => true

/-- `newCppProxy`, with a handle at this address, and the `emplace` of its
caller. -/
def newCppProxy (w : World τ) (i : Ptr) (key : τ × Nat) (handle : Nat) : World τ × Ptr :=
  let (p, proxies) := w.proxies.alloc { nativeRef := handle, impl := i }
  ({ w with proxies, mapping := w.mapping.add key p }, p)

/-- `ProxyCache::Pimpl::get`. -/
def get (w : World τ) (i : Ptr) (key : τ × Nat) (handle : Nat) : World τ × Ptr :=
  match w.mapping.get? key with
  | some p =>
      if w.isExpired p then
        { w with mapping := w.mapping.remove key }.newCppProxy i key handle
      else (w, p)
  | none => w.newCppProxy i key handle

/-- `ProxyCache::Pimpl::remove`. -/
def remove (w : World τ) (key : τ × Nat) : World τ :=
  match w.mapping.get? key with
  | some p => if w.isExpired p then { w with mapping := w.mapping.remove key } else w
  | none => w

/-! ## Changes in place -/

def setLocals (w : World τ) (i : Ptr) (locals : Nat) : World τ :=
  { w with impls := w.impls.modify i fun impl => { impl with locals } }

def setProxy (w : World τ) (p : Ptr) (proxy : CppProxy) : World τ :=
  { w with proxies := w.proxies.modify p fun _ => proxy }

end World

/-! ## Events -/

/-- What happens between two looks at the shared state. -/
inductive Event (τ : Type) where
  /-- `make_shared`, as in `AudioMixerApi::Create`. -/
  | construct (tag : τ) (address : Nat)
  /-- A `shared_ptr` is copied. -/
  | copy (i : Ptr)
  /-- A `shared_ptr` outside of handles goes away. -/
  | reset (i : Ptr)
  /-- `_toJava`; a new handle would lie at `handle`. -/
  | toJava (i : Ptr) (handle : Nat)
  /-- The collector clears the weak references to a proxy that Java code
  does not refer to. -/
  | clear (p : Ptr)
  /-- `updateVolume`, `addSource` or `removeSource` comes to its assertion
  and past it, or does not. -/
  | enter (p : Ptr)
  /-- The native method behind it uses `nativeRef`. -/
  | native (p : Ptr)
  /-- `mix` or `addRecordedData` of `AudioMixer.java`, which pass on
  `nativeRef` without an assertion. -/
  | direct (p : Ptr)
  /-- `destroy` of `AudioMixer.java`: `_djinni_private_destroy` tests and
  sets the flag. -/
  | destroy (p : Ptr)
  /-- `finalize`: the same by the finalizer. -/
  | finalize (p : Ptr)
  /-- The `cleanup` of `~Handle`. -/
  | uncache (p : Ptr)
  /-- The rest of `nativeDestroy`: the `shared_ptr` goes away and the
  handle is deleted. -/
  | release (p : Ptr)

/-- What an event gives back. -/
inductive Reply where
  | done
  | constructed (i : Ptr)
  | proxy (p : Ptr)
  /-- The assertion "trying to use a destroyed object" failed. -/
  | refused
  /-- The proxy whose handle `objectFromHandleAddress` found; `none` where
  there is no handle any more. -/
  | reached (handle : Option Ptr)

/-- The event cannot happen in this state. -/
inductive Blocked where
  | blocked

namespace World

/-- An event of a proxy that can happen under a condition. -/
def onProxy (w : World τ) (p : Ptr) (enabled : CppProxy → Bool)
    (effect : CppProxy → World τ × Reply) : Except Blocked (World τ × Reply) :=
  match w.proxies.get? p with
  | some proxy => if enabled proxy then .ok (effect proxy) else .error .blocked
  | none => .error .blocked

/-- `boolean destroyed = this.destroyed.getAndSet(true)`. -/
def djinniPrivateDestroy (w : World τ) (p : Ptr) (proxy : CppProxy) : World τ :=
  if proxy.destroyed then w else w.setProxy p { proxy with deletion := .claimed }

/-- What an event does, with Java's assertions enabled or not. -/
def step (assertions : Bool) (w : World τ) : Event τ → Except Blocked (World τ × Reply)
  | .construct tag address =>
      if w.addressFree address then
        let (i, impls) := w.impls.alloc { tag, address, locals := 1 }
        .ok ({ w with impls }, .constructed i)
      else .error .blocked
  | .copy i =>
      match w.impls.get? i with
      | some impl =>
          if w.isAlive i then .ok (w.setLocals i (impl.locals + 1), .done)
          else .error .blocked
      | none => .error .blocked
  | .reset i =>
      match w.impls.get? i with
      | some impl =>
          if 0 < impl.locals then .ok (w.setLocals i (impl.locals - 1), .done)
          else .error .blocked
      | none => .error .blocked
  | .toJava i handle =>
      match w.impls.get? i with
      | some impl =>
          if 0 < impl.locals ∧ w.handleAt handle = none then
            let (w', p) := w.get i impl.key handle
            .ok (w', .proxy p)
          else .error .blocked
      | none => .error .blocked
  | .clear p =>
      -- a method of the proxy that runs refers to it, `nativeDestroy` too
      w.onProxy p
        (fun proxy => proxy.cleared = false ∧ proxy.calls = 0 ∧
          (proxy.deletion = .notYet ∨ proxy.deletion = .finished))
        fun proxy => (w.setProxy p { proxy with cleared := true }, .done)
  | .enter p =>
      w.onProxy p (fun proxy => proxy.cleared = false) fun proxy =>
        if assertions ∧ proxy.destroyed then (w, .refused)
        else (w.setProxy p { proxy with calls := proxy.calls + 1 }, .done)
  | .native p =>
      w.onProxy p (fun proxy => 0 < proxy.calls) fun proxy =>
        (w.setProxy p { proxy with calls := proxy.calls - 1 },
          .reached (w.handleAt proxy.nativeRef))
  | .direct p =>
      w.onProxy p (fun proxy => proxy.cleared = false) fun proxy =>
        (w, .reached (w.handleAt proxy.nativeRef))
  | .destroy p =>
      w.onProxy p (fun proxy => proxy.cleared = false) fun proxy =>
        (w.djinniPrivateDestroy p proxy, .done)
  | .finalize p =>
      w.onProxy p (fun proxy => proxy.cleared = true) fun proxy =>
        (w.djinniPrivateDestroy p proxy, .done)
  | .uncache p =>
      w.onProxy p (fun proxy => proxy.deletion = .claimed) fun proxy =>
        match w.impls.get? proxy.impl with
        | some impl =>
            ((w.remove impl.key).setProxy p { proxy with deletion := .uncached }, .done)
        | none => (w.setProxy p { proxy with deletion := .uncached }, .done)
  | .release p =>
      w.onProxy p (fun proxy => proxy.deletion = .uncached) fun proxy =>
        (w.setProxy p { proxy with deletion := .finished }, .done)

end World

/-- The parties as a machine: a run is an order in which they act. -/
def proxyMachine (τ : Type) [DecidableEq τ] (assertions : Bool) :
    Machine (World τ) (Event τ) Reply Blocked where
  step := World.step assertions

end L4AudioMixer.Djinni
