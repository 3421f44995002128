/-
L4AudioMixer.Djinni.StringTheorems — which strings survive the way
between Java and C++.

Each decoder undoes the encoder of the same encoding on the Unicode scalar
values (`utf8_undoes`, `utf16_undoes`). What either function writes is
made of scalar values where the other reads it, also when its input was
malformed: the UTF-16 decoder answers nothing else (`utf16Decode_scalar`),
and the UTF-8 decoder is given what the UTF-16 decoder answered. So a
string comes back unchanged exactly if it is well formed. On characters
`utf8_encode` is the encoder of the standard (`utf8Encode_char`).

`utf8_decode` does answer surrogates, out of three bytes. They do not come
back: `utf16_encode` writes them as they are, and `utf16_decode` replaces
one that is alone and joins two.
-/
import L4AudioMixer.Djinni.Strings
import Mathlib.Data.Nat.Bitwise
import Mathlib.Tactic.Ring

namespace L4AudioMixer.Djinni

open L4AudioMixer.Lib

/-! ## Bits -/

/-- Bits below the shift are added. -/
theorem shiftLeft_or {a b i : Nat} (h : b < 2 ^ i) : a <<< i ||| b = a * 2 ^ i + b := by
  rw [← Nat.shiftLeft_add_eq_or_of_lt h, Nat.shiftLeft_eq]

/-- Six bits at bit `i`, behind those of `a`. -/
theorem join_six {a b : Nat} (i : Nat) (hb : b < 64) :
    a <<< (i + 6) ||| b <<< i = (a * 64 + b) <<< i := by
  have hbelow : b <<< i < 2 ^ (i + 6) := by
    rw [Nat.shiftLeft_eq, pow_add, Nat.mul_comm]
    exact Nat.mul_lt_mul_of_pos_left hb (Nat.two_pow_pos i)
  rw [shiftLeft_or hbelow, Nat.shiftLeft_eq, Nat.shiftLeft_eq]
  ring

theorem lead2 : ∀ x < 32, x ||| 0xC0 = x + 0xC0 ∧ (x + 0xC0) &&& 0x1F = x := by decide

theorem lead3 : ∀ x < 16, x ||| 0xE0 = x + 0xE0 ∧ (x + 0xE0) &&& 0x0F = x := by decide

theorem lead4 : ∀ x < 8, x ||| 0xF0 = x + 0xF0 ∧ (x + 0xF0) &&& 0x0F = x := by decide

theorem continuation : ∀ x < 64, x ||| 0x80 = x + 0x80 ∧ (x + 0x80) &&& 0x3F = x ∧
    notContinuation (x + 0x80) = false := by decide

/-- The low six bits. -/
theorem low6 (pt : Nat) : pt &&& 0x3F = pt % 64 :=
  Nat.and_two_pow_sub_one_eq_mod pt 6

theorem low10 (pt : Nat) : pt &&& 0x3FF = pt % 1024 :=
  Nat.and_two_pow_sub_one_eq_mod pt 10

theorem toNat_byte {x : Nat} (h : x < 256) : (UInt8.ofNat x).toNat = x :=
  UInt8.toNat_ofNat_of_lt h

theorem toNat_unit {x : Nat} (h : x < 65536) : (UInt16.ofNat x).toNat = x :=
  UInt16.toNat_ofNat_of_lt h

/-! ## UTF-8 -/

/-- A Unicode scalar value. -/
def IsScalar (pt : Nat) : Prop := pt < 0xD800 ∨ (0xE000 ≤ pt ∧ pt < 0x110000)

theorem decode_two {x y : Nat} (hlow : 2 ≤ x) (hx : x < 32) (hy : y < 64) (rest : List UInt8) :
    utf8Decode (UInt8.ofNat (x ||| 0xC0) :: UInt8.ofNat (y ||| 0x80) :: rest)
      = (x * 64 + y, rest) := by
  obtain ⟨hlead, hvalue⟩ := lead2 x hx
  obtain ⟨hbyte, hvalue1, hcontinues⟩ := continuation y hy
  have hb0 : byteAt (UInt8.ofNat (x ||| 0xC0) :: UInt8.ofNat (y ||| 0x80) :: rest) 0
      = x + 0xC0 := by
    rw [hlead]
    exact toNat_byte (by omega)
  have hb1 : byteAt (UInt8.ofNat (x ||| 0xC0) :: UInt8.ofNat (y ||| 0x80) :: rest) 1
      = y + 0x80 := by
    rw [hbyte]
    exact toNat_byte (by omega)
  have hpt : x <<< 6 ||| y = x * 64 + y := shiftLeft_or hy
  have hcheck : utf8DecodeCheck (UInt8.ofNat (x ||| 0xC0) :: UInt8.ofNat (y ||| 0x80) :: rest)
      = ⟨2, x * 64 + y⟩ := by
    simp only [utf8DecodeCheck, hb0, hb1, hcontinues, hvalue, hvalue1, hpt, Bool.false_eq_true,
      if_false]
    rw [if_neg (by omega), if_neg (by omega), if_pos (by omega), if_neg (by omega)]
  simp only [utf8Decode, hcheck]
  rfl

theorem decode_three {x y z : Nat} (hlow : 0x800 ≤ x * 4096 + y * 64 + z) (hx : x < 16)
    (hy : y < 64) (hz : z < 64) (rest : List UInt8) :
    utf8Decode (UInt8.ofNat (x ||| 0xE0) :: UInt8.ofNat (y ||| 0x80) :: UInt8.ofNat (z ||| 0x80)
      :: rest) = (x * 4096 + y * 64 + z, rest) := by
  obtain ⟨hlead, hvalue⟩ := lead3 x hx
  obtain ⟨hbyte1, hvalue1, hcontinues1⟩ := continuation y hy
  obtain ⟨hbyte2, hvalue2, hcontinues2⟩ := continuation z hz
  obtain ⟨str, hstr⟩ : ∃ str, str = UInt8.ofNat (x ||| 0xE0) :: UInt8.ofNat (y ||| 0x80)
    :: UInt8.ofNat (z ||| 0x80) :: rest := ⟨_, rfl⟩
  have hb0 : byteAt str 0 = x + 0xE0 := by
    rw [hstr, hlead]
    exact toNat_byte (by omega)
  have hb1 : byteAt str 1 = y + 0x80 := by
    rw [hstr, hbyte1]
    exact toNat_byte (by omega)
  have hb2 : byteAt str 2 = z + 0x80 := by
    rw [hstr, hbyte2]
    exact toNat_byte (by omega)
  have hpt : x <<< 12 ||| y <<< 6 ||| z = x * 4096 + y * 64 + z := by
    rw [join_six 6 hy, shiftLeft_or hz]
    omega
  have hcheck : utf8DecodeCheck str = ⟨3, x * 4096 + y * 64 + z⟩ := by
    simp only [utf8DecodeCheck, hb0, hb1, hb2, hcontinues1, hcontinues2, hvalue, hvalue1, hvalue2,
      hpt, Bool.false_eq_true, if_false]
    rw [if_neg (by omega), if_neg (by omega), if_neg (by omega), if_pos (by omega),
      if_neg (by omega)]
  rw [← hstr]
  simp only [utf8Decode, hcheck]
  rw [hstr]
  rfl

theorem decode_four {x y z w : Nat} (hlow : 0x10000 ≤ x * 262144 + y * 4096 + z * 64 + w)
    (hhigh : x * 262144 + y * 4096 + z * 64 + w < 0x110000) (hx : x < 8) (hy : y < 64)
    (hz : z < 64) (hw : w < 64) (rest : List UInt8) :
    utf8Decode (UInt8.ofNat (x ||| 0xF0) :: UInt8.ofNat (y ||| 0x80) :: UInt8.ofNat (z ||| 0x80)
      :: UInt8.ofNat (w ||| 0x80) :: rest) = (x * 262144 + y * 4096 + z * 64 + w, rest) := by
  obtain ⟨hlead, hvalue⟩ := lead4 x hx
  obtain ⟨hbyte1, hvalue1, hcontinues1⟩ := continuation y hy
  obtain ⟨hbyte2, hvalue2, hcontinues2⟩ := continuation z hz
  obtain ⟨hbyte3, hvalue3, hcontinues3⟩ := continuation w hw
  obtain ⟨str, hstr⟩ : ∃ str, str = UInt8.ofNat (x ||| 0xF0) :: UInt8.ofNat (y ||| 0x80)
    :: UInt8.ofNat (z ||| 0x80) :: UInt8.ofNat (w ||| 0x80) :: rest := ⟨_, rfl⟩
  have hb0 : byteAt str 0 = x + 0xF0 := by
    rw [hstr, hlead]
    exact toNat_byte (by omega)
  have hb1 : byteAt str 1 = y + 0x80 := by
    rw [hstr, hbyte1]
    exact toNat_byte (by omega)
  have hb2 : byteAt str 2 = z + 0x80 := by
    rw [hstr, hbyte2]
    exact toNat_byte (by omega)
  have hb3 : byteAt str 3 = w + 0x80 := by
    rw [hstr, hbyte3]
    exact toNat_byte (by omega)
  have hpt : x <<< 18 ||| y <<< 12 ||| z <<< 6 ||| w = x * 262144 + y * 4096 + z * 64 + w := by
    rw [join_six 12 hy, join_six 6 hz, shiftLeft_or hw]
    ring
  have hcheck : utf8DecodeCheck str = ⟨4, x * 262144 + y * 4096 + z * 64 + w⟩ := by
    simp only [utf8DecodeCheck, hb0, hb1, hb2, hb3, hcontinues1, hcontinues2, hcontinues3, hvalue,
      hvalue1, hvalue2, hvalue3, hpt, Bool.false_eq_true, if_false]
    rw [if_neg (by omega), if_neg (by omega), if_neg (by omega), if_neg (by omega),
      if_pos (by omega), if_neg (by omega)]
  rw [← hstr]
  simp only [utf8Decode, hcheck]
  rw [hstr]
  rfl

/-- **What `utf8_encode` writes is read back.** -/
theorem utf8Decode_encode {pt : Nat} (hpt : pt < 0x110000) (rest : List UInt8) :
    utf8Decode (utf8Encode pt ++ rest) = (pt, rest) := by
  have hy : pt % 64 < 64 := Nat.mod_lt _ (by decide)
  have hz : pt / 64 % 64 < 64 := Nat.mod_lt _ (by decide)
  have hw : pt / 4096 % 64 < 64 := Nat.mod_lt _ (by decide)
  have hs6 : pt >>> 6 = pt / 64 := Nat.shiftRight_eq_div_pow pt 6
  have hs12 : pt >>> 12 = pt / 4096 := Nat.shiftRight_eq_div_pow pt 12
  have hs18 : pt >>> 18 = pt / 262144 := Nat.shiftRight_eq_div_pow pt 18
  unfold utf8Encode
  rw [hs6, hs12, hs18, low6, low6, low6]
  by_cases h1 : pt < 0x80
  · have hb0 : byteAt ([UInt8.ofNat pt] ++ rest) 0 = pt := toNat_byte (by omega)
    have hcheck : utf8DecodeCheck ([UInt8.ofNat pt] ++ rest) = ⟨1, pt⟩ := by
      simp only [utf8DecodeCheck, hb0, if_pos h1]
    rw [if_pos h1]
    simp only [utf8Decode, hcheck]
    rfl
  · by_cases h2 : pt < 0x800
    · rw [if_neg h1, if_pos h2]
      refine (decode_two (by omega) (by omega) hy rest).trans ?_
      have hsum : pt / 64 * 64 + pt % 64 = pt := by omega
      rw [hsum]
    · by_cases h3 : pt < 0x10000
      · have hsum : pt / 4096 * 4096 + pt / 64 % 64 * 64 + pt % 64 = pt := by omega
        rw [if_neg h1, if_neg h2, if_pos h3]
        refine (decode_three (by omega) (by omega) hz hy rest).trans ?_
        rw [hsum]
      · have hsum : pt / 262144 * 262144 + pt / 4096 % 64 * 4096 + pt / 64 % 64 * 64 + pt % 64
            = pt := by omega
        rw [if_neg h1, if_neg h2, if_neg h3, if_pos hpt]
        refine (decode_four (by omega) (by omega) (by omega) hw hz hy rest).trans ?_
        rw [hsum]

theorem utf8_undoes : Undoes IsScalar utf8Decode utf8Encode where
  nonempty pt _ := by
    unfold utf8Encode
    split
    · simp
    · split
      · simp
      · split
        · simp
        · split <;> simp
  decode pt rest hpt := utf8Decode_encode (by unfold IsScalar at hpt; omega) rest

/-! ## UTF-16 -/

/-- **`utf16_decode` answers scalar values only.** -/
theorem utf16Decode_scalar (u : UInt16) (str : List UInt16) :
    IsScalar (utf16Decode (u :: str)).1 := by
  have hc0 := u.toNat_lt
  have hfirst : unitAt (u :: str) 0 = u.toNat := rfl
  unfold utf16Decode utf16DecodeCheck
  rw [hfirst]
  simp only [isHighSurrogate, isLowSurrogate, Bool.and_eq_true, Bool.or_eq_true, decide_eq_true_eq]
  split
  · rename_i hpair
    -- ten bits of each unit
    have hpt : (u.toNat - 0xD800) <<< 10 ||| (unitAt (u :: str) 1 - 0xDC00)
        = (u.toNat - 0xD800) * 1024 + (unitAt (u :: str) 1 - 0xDC00) := shiftLeft_or (by omega)
    simp only [hpt, IsScalar]
    rw [if_neg (by decide)]
    right
    simp only
    omega
  · split
    · simp [invalidPt, IsScalar]
    · rename_i hpair hsurrogate
      simp only [IsScalar]
      rw [if_neg (by decide)]
      simp only
      omega

/-- **What `utf16_encode` writes is read back.** -/
theorem utf16Decode_encode {pt : Nat} (hpt : IsScalar pt) (rest : List UInt16) :
    utf16Decode (utf16Encode pt ++ rest) = (pt, rest) := by
  unfold IsScalar at hpt
  unfold utf16Encode
  by_cases h1 : pt < 0x10000
  · have hc0 : unitAt ([UInt16.ofNat pt] ++ rest) 0 = pt := toNat_unit h1
    have hhigh : isHighSurrogate pt = false := by
      simp only [isHighSurrogate, decide_eq_false_iff_not]
      omega
    have hlow : isLowSurrogate pt = false := by
      simp only [isLowSurrogate, decide_eq_false_iff_not]
      omega
    have hcheck : utf16DecodeCheck ([UInt16.ofNat pt] ++ rest) = ⟨1, pt⟩ := by
      simp only [utf16DecodeCheck, hc0, hhigh, hlow, Bool.false_and, Bool.or_false,
        Bool.false_eq_true, if_false]
    rw [if_pos h1]
    simp only [utf16Decode, hcheck]
    rfl
  · have hs10 : (pt - 0x10000) >>> 10 = (pt - 0x10000) / 1024 := Nat.shiftRight_eq_div_pow _ 10
    rw [if_neg h1, if_pos (by omega), hs10, low10]
    obtain ⟨str, hstr⟩ : ∃ str, str = [UInt16.ofNat ((pt - 0x10000) / 1024 + 0xD800),
      UInt16.ofNat (pt % 1024 + 0xDC00)] ++ rest := ⟨_, rfl⟩
    have hc0 : unitAt str 0 = (pt - 0x10000) / 1024 + 0xD800 := by
      rw [hstr]
      exact toNat_unit (by omega)
    have hc1 : unitAt str 1 = pt % 1024 + 0xDC00 := by
      rw [hstr]
      exact toNat_unit (by omega)
    have hhigh : isHighSurrogate ((pt - 0x10000) / 1024 + 0xD800) = true := by
      simp only [isHighSurrogate, decide_eq_true_eq]
      omega
    have hlow : isLowSurrogate (pt % 1024 + 0xDC00) = true := by
      simp only [isLowSurrogate, decide_eq_true_eq]
      omega
    have hvalue : ((pt - 0x10000) / 1024 + 0xD800 - 0xD800) <<< 10 ||| (pt % 1024 + 0xDC00 - 0xDC00)
        = pt - 0x10000 := by
      rw [Nat.add_sub_cancel, Nat.add_sub_cancel, shiftLeft_or (by omega)]
      omega
    have hcheck : utf16DecodeCheck str = ⟨2, pt⟩ := by
      simp only [utf16DecodeCheck, hc0, hc1, hhigh, hlow, Bool.and_self, if_true, hvalue]
      rw [Nat.sub_add_cancel (Nat.le_of_not_lt h1)]
    rw [← hstr]
    simp only [utf16Decode, hcheck]
    rw [hstr]
    rfl

theorem utf16_undoes : Undoes IsScalar utf16Decode utf16Encode where
  nonempty pt _ := by
    unfold utf16Encode
    split
    · simp
    · split <;> simp
  decode pt rest hpt := utf16Decode_encode hpt rest

/-! ## The loops -/

/-- A decoder that goes on by one unit or more. -/
theorem length_drop_le {α : Type} {res : OffsetPt} (h : res.offset = -1 ∨ 1 ≤ res.offset) (a : α)
    (str : List α) :
    (if res.offset < 0 then (0xFFFD, (a :: str).drop 1)
      else (res.pt, (a :: str).drop res.offset.toNat)).2.length ≤ str.length := by
  split
  · simp
  · simp only [List.length_drop, List.length_cons]
    omega

theorem utf8Decode_shortens : Shortens utf8Decode := by
  intro b str
  have hoffset : (utf8DecodeCheck (b :: str)).offset = -1
      ∨ 1 ≤ (utf8DecodeCheck (b :: str)).offset := by
    fun_cases utf8DecodeCheck (b :: str) <;> simp [invalidPt]
  exact length_drop_le hoffset b str

theorem utf16Decode_shortens : Shortens utf16Decode := by
  intro u str
  have hoffset : (utf16DecodeCheck (u :: str)).offset = -1
      ∨ 1 ≤ (utf16DecodeCheck (u :: str)).offset := by
    fun_cases utf16DecodeCheck (u :: str) <;> simp [invalidPt]
  exact length_drop_le hoffset u str

/-! ## Characters -/

/-- `utf8_encode` writes UTF-8. -/
theorem utf8Encode_char (c : Char) : utf8Encode c.toNat = String.utf8EncodeChar c := by
  have hvalid : c.toNat < 0x110000 := by
    have := c.valid
    unfold UInt32.isValidChar Nat.isValidChar at this
    simp only [Char.toNat]
    omega
  have hs6 : c.toNat >>> 6 = c.toNat / 64 := Nat.shiftRight_eq_div_pow _ 6
  have hs12 : c.toNat >>> 12 = c.toNat / 4096 := Nat.shiftRight_eq_div_pow _ 12
  have hs18 : c.toNat >>> 18 = c.toNat / 262144 := Nat.shiftRight_eq_div_pow _ 18
  have hlow := (continuation (c.toNat % 64) (Nat.mod_lt _ (by decide))).1
  have hmid := (continuation (c.toNat / 64 % 64) (Nat.mod_lt _ (by decide))).1
  have hhigh := (continuation (c.toNat / 4096 % 64) (Nat.mod_lt _ (by decide))).1
  rw [utf8Encode, hs6, hs12, hs18, low6, low6, low6, hlow, hmid, hhigh, String.utf8EncodeChar]
  by_cases h1 : c.toNat < 0x80
  · have h1' : c.val.toNat ≤ 0x7f := Nat.le_of_lt_succ h1
    rw [if_pos h1, if_pos h1']
    rfl
  · have h1' : ¬ c.val.toNat ≤ 0x7f := fun h => h1 (Nat.lt_succ_of_le h)
    by_cases h2 : c.toNat < 0x800
    · have h2' : c.val.toNat ≤ 0x7ff := Nat.le_of_lt_succ h2
      have hx : c.val.toNat / 64 % 0x20 = c.toNat / 64 := Nat.mod_eq_of_lt (by omega)
      rw [if_neg h1, if_neg h1', if_pos h2, if_pos h2', (lead2 (c.toNat / 64) (by omega)).1, hx]
      rfl
    · have h2' : ¬ c.val.toNat ≤ 0x7ff := fun h => h2 (Nat.lt_succ_of_le h)
      by_cases h3 : c.toNat < 0x10000
      · have h3' : c.val.toNat ≤ 0xffff := Nat.le_of_lt_succ h3
        have hx : c.val.toNat / 4096 % 0x10 = c.toNat / 4096 := Nat.mod_eq_of_lt (by omega)
        rw [if_neg h1, if_neg h1', if_neg h2, if_neg h2', if_pos h3, if_pos h3',
          (lead3 (c.toNat / 4096) (by omega)).1, hx]
        rfl
      · have h3' : ¬ c.val.toNat ≤ 0xffff := fun h => h3 (Nat.lt_succ_of_le h)
        have hx : c.val.toNat / 262144 % 0x08 = c.toNat / 262144 :=
          Nat.mod_eq_of_lt (show c.toNat / 262144 < 8 by omega)
        rw [if_neg h1, if_neg h1', if_neg h2, if_neg h2', if_neg h3, if_neg h3', if_pos hvalid,
          (lead4 (c.toNat / 262144) (by omega)).1, hx]
        rfl

theorem isScalar_char (c : Char) : IsScalar c.toNat := by
  have hvalid := c.valid
  simp only [UInt32.isValidChar, Nat.isValidChar] at hvalid
  simp only [IsScalar, Char.toNat]
  omega

theorem flatMap_utf8EncodeChar (chars : List Char) :
    chars.flatMap String.utf8EncodeChar = (chars.map Char.toNat).flatMap utf8Encode := by
  simp only [List.flatMap_map, utf8Encode_char]

theorem forall_isScalar (chars : List Char) : ∀ pt ∈ chars.map Char.toNat, IsScalar pt := by
  simp only [List.mem_map]
  rintro pt ⟨c, -, rfl⟩
  exact isScalar_char c

/-- Characters in UTF-8 arrive in Java as the same characters in UTF-16,
whatever follows them. -/
theorem jniStringFromUTF8_chars (chars : List Char) (rest : List UInt8) :
    jniStringFromUTF8 (chars.flatMap String.utf8EncodeChar ++ rest)
      = (chars.map Char.toNat).flatMap utf16Encode ++ jniStringFromUTF8 rest := by
  rw [flatMap_utf8EncodeChar]
  exact transcode_append utf8Decode_shortens utf8_undoes utf16Encode (forall_isScalar chars) rest

/-- And in C++ the other way round. -/
theorem jniUTF8FromString_chars (chars : List Char) (rest : List UInt16) :
    jniUTF8FromString ((chars.map Char.toNat).flatMap utf16Encode ++ rest)
      = chars.flatMap String.utf8EncodeChar ++ jniUTF8FromString rest := by
  rw [flatMap_utf8EncodeChar]
  exact transcode_append utf16Decode_shortens utf16_undoes utf8Encode (forall_isScalar chars) rest

/-! ## There and back -/

/-- **From Java to C++ and back**: a string is unchanged exactly if it is
UTF-16 of scalar values, that is, without an unpaired surrogate. -/
theorem java_string_survives_iff (jstr : List UInt16) :
    jniStringFromUTF8 (jniUTF8FromString jstr) = jstr ↔
      ∃ pts : List Nat, (∀ pt ∈ pts, IsScalar pt) ∧ jstr = pts.flatMap utf16Encode := by
  have hscalar : ∀ pt ∈ scan utf16Decode jstr.length jstr, IsScalar pt :=
    forall_scan utf16Decode_scalar _ _
  refine transcode_eq_iff utf16_undoes utf8_undoes fun pt hpt => hscalar pt ?_
  rwa [transcode, scan_flatMap utf8_undoes hscalar (Nat.le_refl _)] at hpt

/-- **From C++ to Java and back**: a string is unchanged exactly if it is
UTF-8 of scalar values: no stray or missing continuation byte, no overlong
form, no surrogate, nothing above U+10FFFF. -/
theorem cpp_string_survives_iff (str : List UInt8) :
    jniUTF8FromString (jniStringFromUTF8 str) = str ↔
      ∃ pts : List Nat, (∀ pt ∈ pts, IsScalar pt) ∧ str = pts.flatMap utf8Encode :=
  transcode_eq_iff utf8_undoes utf16_undoes (forall_scan utf16Decode_scalar _ _)

/-- A surrogate pair in six bytes comes back as the four of its code point. -/
example : jniUTF8FromString (jniStringFromUTF8 [0xED, 0xA0, 0xBC, 0xED, 0xBC, 0x8D])
    = [0xF0, 0x9F, 0x8C, 0x8D] := by
  decide

end L4AudioMixer.Djinni
