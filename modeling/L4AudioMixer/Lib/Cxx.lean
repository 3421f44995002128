/-
L4AudioMixer.Lib.Cxx — what a C++ call can come to, and the C++ integer
arithmetic the models rest on.

A call either returns or ends in a `Fault`: a failed check aborts, an
exception nobody catches ends the program, and undefined behaviour leaves
nothing to say about what follows. Signed 32-bit values are `Int`s that
lie in `IsInt32`; the two operations that can leave the range or have no
value, multiplication and division, are checked functions. `toSizeT` is
the conversion to an unsigned `size_t` of either width.
-/
import Mathlib.Data.Int.Basic

namespace L4AudioMixer.Lib

/-- The ways a call ends without returning. -/
inductive Fault where
  /-- A check failed and the process aborted with this message. -/
  | check (message : String)
  /-- A check on a library's status code failed. -/
  | checkCode (code : Int)
  /-- Integer division by zero: undefined behaviour. -/
  | divisionByZero
  /-- A signed result outside its type: undefined behaviour. -/
  | signedOverflow
  /-- A member function called on an object of another class: undefined behaviour. -/
  | invalidCast
  /-- A pointer to a destroyed object was followed: undefined behaviour. -/
  | danglingPointer
  /-- An array of more bytes than an object can have was asked for:
  `operator new[]` throws. -/
  | badAlloc
  /-- A copy whose length is a negative number taken as a `size_t`: undefined behaviour. -/
  | invalidCopy
  /-- A loop did not end within the bound under which the model was run. -/
  | outOfFuel
  deriving DecidableEq, Repr

/-- The faults by which a check stops the program. -/
def Fault.isCheck : Fault → Bool
  | .check _ | .checkCode _ => true
  | _ => false

/-- A failing computation in front succeeds exactly when both parts do. -/
theorem bind_eq_ok {ε α β : Type} {x : Except ε α} {f : α → Except ε β} {b : β} :
    x >>= f = .ok b ↔ ∃ a, x = .ok a ∧ f a = .ok b := by
  cases x with
  | error e => simp [bind, Except.bind]
  | ok a => simp [bind, Except.bind]

/-- `RTC_CHECK`-style guard: go on when the condition holds. -/
def require (condition : Bool) (fault : Fault) : Except Fault Unit :=
  if condition then .ok () else .error fault

@[simp] theorem require_eq_ok {condition : Bool} {fault : Fault} {u : Unit} :
    require condition fault = .ok u ↔ condition = true := by
  cases condition <;> simp [require]

/-! ## Signed 32-bit arithmetic -/

/-- The values of `int32_t`. -/
def IsInt32 (x : Int) : Prop := -2147483648 ≤ x ∧ x ≤ 2147483647

instance (x : Int) : Decidable (IsInt32 x) := inferInstanceAs (Decidable (_ ∧ _))

/-- A value of the machine type lies in the range. -/
theorem isInt32_toInt (x : Int32) : IsInt32 x.toInt := by
  have hlow := x.le_toInt
  have hhigh := x.toInt_lt
  constructor <;> omega

/-- What lies between 0 and an `int32_t` is one. -/
theorem IsInt32.of_le {x y : Int} (hy : IsInt32 y) (hx : 0 ≤ x) (hle : x ≤ y) : IsInt32 x :=
  ⟨by omega, Int.le_trans hle hy.2⟩

/-- Signed division: towards zero, without a value at a zero divisor and
for the one quotient that does not fit. -/
def divInt32 (a b : Int) : Except Fault Int :=
  if b = 0 then .error .divisionByZero
  else if a = -2147483648 ∧ b = -1 then .error .signedOverflow
  else .ok (a.tdiv b)

/-- Signed multiplication, without a value when the product does not fit. -/
def mulInt32 (a b : Int) : Except Fault Int :=
  if IsInt32 (a * b) then .ok (a * b) else .error .signedOverflow

theorem divInt32_eq_ok {a b q : Int} (h : divInt32 a b = .ok q) :
    b ≠ 0 ∧ q = a.tdiv b := by
  unfold divInt32 at h
  split at h
  · cases h
  · split at h
    · cases h
    · rename_i hb _
      cases h
      exact ⟨hb, rfl⟩

theorem divInt32_of_ne {a b : Int} (hb : b ≠ 0) (h : ¬ (a = -2147483648 ∧ b = -1)) :
    divInt32 a b = .ok (a.tdiv b) := by
  unfold divInt32
  rw [if_neg hb, if_neg h]

/-- A division that fails is not stopped by a check. -/
theorem divInt32_error {a b : Int} (h : b = 0 ∨ (a = -2147483648 ∧ b = -1)) :
    ∃ fault, divInt32 a b = .error fault ∧ fault.isCheck = false := by
  unfold divInt32
  by_cases hb : b = 0
  · exact ⟨_, if_pos hb, rfl⟩
  · rw [if_neg hb, if_pos (h.resolve_left hb)]
    exact ⟨_, rfl, rfl⟩

theorem divInt32_of_pos {a b : Int} (h : 0 < b) : divInt32 a b = .ok (a.tdiv b) := by
  unfold divInt32
  rw [if_neg (by omega), if_neg (by omega)]

theorem mulInt32_eq_ok {a b p : Int} (h : mulInt32 a b = .ok p) :
    IsInt32 (a * b) ∧ p = a * b := by
  unfold mulInt32 at h
  split at h
  · rename_i hfit
    cases h
    exact ⟨hfit, rfl⟩
  · cases h

theorem mulInt32_of_fits {a b : Int} (h : IsInt32 (a * b)) : mulInt32 a b = .ok (a * b) :=
  if_pos h

/-- Conversion of a wider value to `int32_t`. -/
def toInt32 (x : Int) : Int := (x + 2147483648) % 4294967296 - 2147483648

theorem isInt32_toInt32 (x : Int) : IsInt32 (toInt32 x) := by
  unfold toInt32
  constructor <;> omega

theorem toInt32_of_isInt32 {x : Int} (h : IsInt32 x) : toInt32 x = x := by
  obtain ⟨hlow, hhigh⟩ := h
  unfold toInt32
  omega

/-- A conversion changes a value by a multiple of 2^32. -/
theorem exists_toInt32_eq (x : Int) : ∃ k, x = toInt32 x + 4294967296 * k := by
  refine ⟨(x + 2147483648) / 4294967296, ?_⟩
  unfold toInt32
  omega

theorem toInt32_mul (a b : Int) : toInt32 (toInt32 a * b) = toInt32 (a * b) := by
  obtain ⟨k, hk⟩ := exists_toInt32_eq a
  have hprod : a * b = toInt32 a * b + 4294967296 * (k * b) := by
    conv => lhs; rw [hk]
    rw [Int.add_mul, Int.mul_assoc]
  rw [hprod]
  simp only [toInt32]
  omega

/-- Division of a number by one not larger than it. -/
theorem tdiv_pos_of_le {a b : Int} (hb : 0 < b) (h : b ≤ a) : 0 < a.tdiv b := by
  rw [Int.tdiv_eq_ediv_of_nonneg (by omega)]
  have hone : 1 ≤ a / b := (Int.le_ediv_iff_mul_le hb).mpr (by omega)
  omega

theorem le_of_tdiv_pos {a b : Int} (hb : 0 < b) (h : 0 < a.tdiv b) : b ≤ a := by
  by_contra hlt
  rcases Int.le_total 0 a with ha | ha
  · rw [Int.tdiv_eq_zero_of_lt ha (by omega)] at h
    omega
  · have hneg : 0 ≤ (-a).tdiv b := Int.tdiv_nonneg (by omega) (Int.le_of_lt hb)
    rw [Int.neg_tdiv] at hneg
    omega

/-- A quotient of an `int32_t` that is not negative is an `int32_t`. -/
theorem isInt32_tdiv_of_nonneg {a b : Int} (ha : 0 ≤ a) (hb : 0 ≤ b) (h : IsInt32 a) :
    IsInt32 (a.tdiv b) := by
  have hle : a.tdiv b ≤ a := by
    rw [Int.tdiv_eq_ediv_of_nonneg ha]
    exact Int.ediv_le_self b ha
  exact h.of_le (Int.tdiv_nonneg ha hb) hle

/-- A quotient is no larger than what was divided. -/
theorem natAbs_tdiv_le (a b : Int) : (a.tdiv b).natAbs ≤ a.natAbs := by
  rw [Int.natAbs_tdiv]
  exact Nat.div_le_self _ _

/-- A larger divisor has a smaller quotient. -/
theorem tdiv_le_tdiv_of_le {a b c : Int} (ha : 0 ≤ a) (hb : 0 < b) (h : b ≤ c) :
    a.tdiv c ≤ a.tdiv b := by
  rw [Int.tdiv_eq_ediv_of_nonneg ha, Int.tdiv_eq_ediv_of_nonneg ha]
  apply (Int.le_ediv_iff_mul_le hb).mpr
  calc a / c * b ≤ a / c * c := Int.mul_le_mul_of_nonneg_left h (Int.ediv_nonneg ha (by omega))
    _ ≤ a := Int.ediv_mul_le a (by omega)

/-- Dividing before a multiplication rounds more away. -/
theorem natAbs_tdiv_mul_le (a b : Int) (k : Nat) :
    (a.tdiv k * b).natAbs ≤ ((b * a).tdiv k).natAbs := by
  rw [Int.natAbs_mul, Int.natAbs_tdiv, Int.natAbs_tdiv, Int.natAbs_mul, Int.natAbs_natCast,
    Nat.mul_comm]
  exact Nat.mul_div_le_mul_div_assoc _ _ _

theorem tdiv_mul_le_of_pos {a b : Int} {k : Nat} (h : 0 < a.tdiv k * b) :
    a.tdiv k * b ≤ (b * a).tdiv k := by
  have hle := natAbs_tdiv_mul_le a b k
  have hk : (0 : Int) ≤ k := Int.natCast_nonneg k
  have hnonneg : 0 ≤ (b * a).tdiv k := by
    apply Int.tdiv_nonneg _ hk
    by_contra hneg
    rcases Int.le_total 0 a with ha | ha
    · have hq : 0 ≤ a.tdiv k := Int.tdiv_nonneg ha hk
      have hb : b ≤ 0 := by
        by_contra hb
        exact hneg (Int.mul_nonneg (by omega) ha)
      have hx := Int.mul_nonpos_of_nonneg_of_nonpos hq hb
      omega
    · have hq : 0 ≤ (-a).tdiv k := Int.tdiv_nonneg (by omega) hk
      rw [Int.neg_tdiv] at hq
      have hb : 0 ≤ b := by
        by_contra hb
        exact hneg (Int.mul_nonneg_of_nonpos_of_nonpos (by omega) ha)
      have hx := Int.mul_nonpos_of_nonpos_of_nonneg (by omega : a.tdiv k ≤ 0) hb
      omega
  omega

/-! ## `size_t` -/

/-- The two data models in use: `size_t` has 32 or 64 bits. -/
inductive Abi where
  | ilp32
  | lp64
  deriving DecidableEq, Repr

/-- The number of values of `size_t`. -/
def Abi.sizeModulus : Abi → Nat
  | .ilp32 => 4294967296
  | .lp64 => 18446744073709551616

/-- The largest number of bytes an object can have (`PTRDIFF_MAX`). -/
def Abi.maxObjectBytes : Abi → Nat
  | .ilp32 => 2147483647
  | .lp64 => 9223372036854775807

/-- Conversion of a signed value to `size_t`. -/
def toSizeT (abi : Abi) (x : Int) : Nat := (x % abi.sizeModulus).toNat

theorem toSizeT_of_nonneg (abi : Abi) {x : Int} (hx : 0 ≤ x) (h32 : IsInt32 x) :
    toSizeT abi x = x.toNat := by
  obtain ⟨_, hhigh⟩ := h32
  cases abi <;> simp only [toSizeT, Abi.sizeModulus] <;> omega

/-- A negative value becomes a number of at least half the range. -/
theorem maxObjectBytes_lt_toSizeT (abi : Abi) {x : Int} (hx : x < 0) (h32 : IsInt32 x) :
    abi.maxObjectBytes < toSizeT abi x := by
  obtain ⟨hlow, _⟩ := h32
  cases abi <;> simp only [toSizeT, Abi.sizeModulus, Abi.maxObjectBytes] <;> omega

/-- The two cases of the conversion, for values of at most the size of an
`int32_t`. -/
theorem toSizeT_cases (abi : Abi) {x : Int} (h : x.natAbs ≤ 2147483648) :
    (0 ≤ x ∧ toSizeT abi x = x.toNat) ∨ (x < 0 ∧ 2147483648 ≤ toSizeT abi x) := by
  cases abi <;> simp only [toSizeT, Abi.sizeModulus] <;> omega

/-- A product of converted values is the converted product. -/
theorem toSizeT_mul (abi : Abi) (a b : Int) :
    toSizeT abi a * toSizeT abi b % abi.sizeModulus = toSizeT abi (a * b) := by
  have hpos : (0 : Int) < abi.sizeModulus := by cases abi <;> decide
  have ha : 0 ≤ a % (abi.sizeModulus : Int) := Int.emod_nonneg a (by omega)
  have hb : 0 ≤ b % (abi.sizeModulus : Int) := Int.emod_nonneg b (by omega)
  have hab : 0 ≤ a % (abi.sizeModulus : Int) * (b % abi.sizeModulus) := Int.mul_nonneg ha hb
  have hnat : ((a * b) % (abi.sizeModulus : Int)).toNat
      = (a % abi.sizeModulus * (b % abi.sizeModulus)).toNat % abi.sizeModulus := by
    rw [Int.mul_emod, Int.toNat_emod hab (by omega), Int.toNat_natCast]
  rw [toSizeT, toSizeT, toSizeT, hnat, Int.toNat_mul ha hb]

end L4AudioMixer.Lib
