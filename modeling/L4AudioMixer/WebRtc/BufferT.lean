/-
L4AudioMixer.WebRtc.BufferT — `rtc::BufferT` of `rtc_base/buffer.h`, as
far as the record source uses it.

The class keeps an array of `capacity_` elements of which the first
`size_` are the buffer. `IsConsistent`, the precondition of every method,
is a field of the structure. A new array is uninitialised, so growing
takes the memory the allocator hands out as a parameter; a request that
no object can satisfy makes `operator new[]` throw, and any smaller one is
taken to succeed.
-/
import L4AudioMixer.Lib.Cxx
import L4AudioMixer.Lib.Memory

namespace L4AudioMixer.WebRtc

open L4AudioMixer.Lib

/-- `rtc::BufferT<T>`. -/
structure BufferT (α : Type) where
  array : Nat → α
  size : Nat
  capacity : Nat
  /-- `IsConsistent`. -/
  consistent : size ≤ capacity

namespace BufferT

variable {α : Type}

/-- The default constructor; the memory behind a null pointer is never read. -/
def empty (uninit : Nat → α) : BufferT α := ⟨uninit, 0, 0, Nat.le_refl _⟩

/-- `data()`: null until the first array is allocated. -/
def data (b : BufferT α) : Option (Nat → α) := if b.capacity = 0 then none else some b.array

theorem data_eq_some {b : BufferT α} {array : Nat → α} (h : b.data = some array) :
    array = b.array := by
  unfold data at h
  split at h
  · cases h
  · cases h
    rfl

/-- The elements of the buffer. -/
def contents (b : BufferT α) : List α := firstN b.array b.size

/-- `EnsureCapacityWithHeadroom(capacity, true)`: a larger array of
uninitialised memory with the old elements in front. -/
def ensureCapacityWithHeadroom (b : BufferT α) (capacity : Nat) (uninit : Nat → α) :
    BufferT α :=
  if capacity ≤ b.capacity then b
  else
    { array := copy uninit 0 b.array b.size
      size := b.size
      capacity := max capacity (b.capacity + b.capacity / 2)
      consistent := by
        have := b.consistent
        omega }

theorem ensure_of_le (b : BufferT α) {capacity : Nat} (h : capacity ≤ b.capacity)
    (uninit : Nat → α) : b.ensureCapacityWithHeadroom capacity uninit = b :=
  if_pos h

theorem capacity_ensure (b : BufferT α) (capacity : Nat) (uninit : Nat → α) :
    capacity ≤ (b.ensureCapacityWithHeadroom capacity uninit).capacity := by
  unfold ensureCapacityWithHeadroom
  split
  · assumption
  · exact Nat.le_max_left _ _

/-- `AppendData(data, size)` for elements of `elementBytes` bytes. -/
def appendData (abi : Abi) (elementBytes : Nat) (b : BufferT α) (data : Nat → α) (size : Nat)
    (uninit : Nat → α) : Except Fault (BufferT α) :=
  if abi.maxObjectBytes < size * elementBytes then .error .badAlloc
  else
    .ok
      { array :=
          copy (b.ensureCapacityWithHeadroom (b.size + size) uninit).array b.size data size
        size := b.size + size
        capacity := (b.ensureCapacityWithHeadroom (b.size + size) uninit).capacity
        consistent := b.capacity_ensure (b.size + size) uninit }

/-- `SetSize(size)`. -/
def setSize (b : BufferT α) (size : Nat) (uninit : Nat → α) : BufferT α where
  array := (b.ensureCapacityWithHeadroom size uninit).array
  size := size
  capacity := (b.ensureCapacityWithHeadroom size uninit).capacity
  consistent := b.capacity_ensure size uninit

/-- `memmove(data(), data() + n, count * sizeof(T))`. -/
def moveToFront (b : BufferT α) (n count : Nat) : BufferT α :=
  { b with array := copy b.array 0 (fun i => b.array (i + n)) count }

@[simp] theorem length_contents (b : BufferT α) : b.contents.length = b.size := by
  simp [contents]

theorem getElem_contents (b : BufferT α) {i : Nat} (h : i < b.contents.length) :
    b.contents[i] = b.array i := by
  simp [contents]

@[simp] theorem contents_empty (uninit : Nat → α) : (empty uninit).contents = [] := rfl

/-- Growing keeps the elements. -/
theorem firstN_ensure (b : BufferT α) (capacity : Nat) (uninit : Nat → α) :
    firstN (b.ensureCapacityWithHeadroom capacity uninit).array b.size = b.contents := by
  unfold ensureCapacityWithHeadroom
  split
  · rfl
  · exact firstN_copy_front _ _ (Nat.le_refl _)

/-- `AppendData` appends. -/
theorem contents_appendData {abi : Abi} {elementBytes : Nat} {b b' : BufferT α}
    {data uninit : Nat → α} {size : Nat}
    (h : b.appendData abi elementBytes data size uninit = .ok b') :
    b'.contents = b.contents ++ firstN data size := by
  unfold appendData at h
  split at h
  · cases h
  · cases h
    simp only [contents, firstN_copy_append, firstN_ensure]

/-- `AppendData` of no more bytes than an object can have returns. -/
theorem appendData_of_le {abi : Abi} {elementBytes size : Nat} (b : BufferT α)
    (data uninit : Nat → α) (h : size * elementBytes ≤ abi.maxObjectBytes) :
    ∃ b', b.appendData abi elementBytes data size uninit = .ok b' ∧
      b'.contents = b.contents ++ firstN data size := by
  cases ha : b.appendData abi elementBytes data size uninit with
  | error e =>
      unfold appendData at ha
      rw [if_neg (Nat.not_lt.mpr h)] at ha
      cases ha
  | ok b' => exact ⟨b', rfl, contents_appendData ha⟩

/-- The overlapping `memmove` and the shrinking `SetSize` drop the front. -/
theorem contents_moveToFront_setSize (b : BufferT α) {n : Nat} (uninit : Nat → α) :
    ((b.moveToFront n (b.size - n)).setSize (b.size - n) uninit).contents
      = b.contents.drop n := by
  have hcap : b.size - n ≤ (b.moveToFront n (b.size - n)).capacity :=
    Nat.le_trans (Nat.sub_le _ _) b.consistent
  simp only [setSize, contents]
  rw [ensure_of_le _ hcap uninit]
  simp only [moveToFront]
  rw [firstN_copy_front _ _ (Nat.le_refl _), drop_firstN]

end BufferT

end L4AudioMixer.WebRtc
