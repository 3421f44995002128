/-
L4AudioMixer.Lib.Java — what a Java call can come to, and the `int`
arithmetic of Java.

A Java call returns, throws, or reaches native code that ends in a
`Fault`. Unlike their C++ counterparts in `Cxx` the operations on `int`
never leave the type: a product is reduced to 32 bits, and only a zero
divisor has no quotient. An array is known by its length.
-/
import L4AudioMixer.Lib.Cxx

namespace L4AudioMixer.Lib.Java

open L4AudioMixer.Lib

/-- The ways a call ends without returning. -/
inductive Abrupt where
  /-- `ArithmeticException`, for a zero divisor. -/
  | arithmetic
  /-- `NegativeArraySizeException`. -/
  | negativeArraySize
  /-- A native call that did not return. -/
  | native (fault : Fault)
  deriving DecidableEq, Repr

/-- A native call. -/
def native {β : Type} : Except Fault β → Except Abrupt β
  | .ok b => .ok b
  | .error fault => .error (.native fault)

/-- `a / b`. The one quotient outside the type is reduced like a product. -/
def div (a b : Int) : Except Abrupt Int :=
  if b = 0 then .error .arithmetic else .ok (toInt32 (a.tdiv b))

/-- `a * b`. -/
def mul (a b : Int) : Int := toInt32 (a * b)

/-- `new byte[length]`: the length of the array. -/
def newArray (length : Int) : Except Abrupt Nat :=
  if length < 0 then .error .negativeArraySize else .ok length.toNat

@[simp] theorem native_eq_ok {β : Type} {x : Except Fault β} {b : β} :
    native x = .ok b ↔ x = .ok b := by
  cases x <;> simp [native]

theorem newArray_eq_ok {length : Int} {n : Nat} :
    newArray length = .ok n ↔ (n : Int) = length := by
  unfold newArray
  split
  · simp only [reduceCtorEq, false_iff]
    omega
  · simp only [Except.ok.injEq]
    omega

/-- A quotient of an `int` by a positive one is exact. -/
theorem div_of_pos {a b : Int} (ha : IsInt32 a) (hb : 0 < b) : div a b = .ok (a.tdiv b) := by
  have habs := natAbs_tdiv_le a b
  have hsign : a = -2147483648 → a.tdiv b ≤ 0 := by
    intro hmin
    have hneg : 0 ≤ (-a).tdiv b := Int.tdiv_nonneg (by omega) (Int.le_of_lt hb)
    rw [Int.neg_tdiv] at hneg
    omega
  obtain ⟨hlow, hhigh⟩ := ha
  rw [div, if_neg (by omega), toInt32_of_isInt32 (by constructor <;> omega)]

/-- A product of three is reduced as a whole. -/
theorem mul_mul (a b c : Int) : mul (mul a b) c = toInt32 (a * b * c) := by
  unfold mul
  rw [toInt32_mul]

end L4AudioMixer.Lib.Java
