/-
L4AudioMixer.Djinni.Strings — the model of the string conversions of
`djinni_support.cpp`: `jniStringFromUTF8` and `jniUTF8FromString`.

A path goes from Java to the mixer as UTF-16 and is stored as UTF-8, and
back. Both functions read a code point at an index and write it in the
other encoding. A string from an index on is a list, and behind its end
lies the zero that ends a `std::string`: the decoders look there. `jchar`
and `char16_t` are `UInt16`, `char` is `UInt8`; the code points are small
enough that no 32-bit operation wraps.
-/
import L4AudioMixer.Lib.Scan

namespace L4AudioMixer.Djinni

open L4AudioMixer.Lib

/-- `offset_pt`. -/
structure OffsetPt where
  offset : Int
  pt : Nat
  deriving DecidableEq, Repr

/-- `invalid_pt`. -/
def invalidPt : OffsetPt := ⟨-1, 0⟩

/-! ## UTF-8 -/

/-- `str[i + k]` of a string from `i` on. -/
def byteAt (str : List UInt8) (k : Nat) : Nat := (str.getD k 0).toNat

/-- `(b & 0xC0) != 0x80`. -/
def notContinuation (b : Nat) : Bool := b &&& 0xC0 ≠ 0x80

/-- `utf8_decode_check`. -/
def utf8DecodeCheck (str : List UInt8) : OffsetPt :=
  let b0 := byteAt str 0
  let b1 := byteAt str 1
  let b2 := byteAt str 2
  let b3 := byteAt str 3
  if b0 < 0x80 then ⟨1, b0⟩
  else if b0 < 0xC0 then invalidPt
  else if b0 < 0xE0 then
    if notContinuation b1 then invalidPt
    else
      let pt := (b0 &&& 0x1F) <<< 6 ||| (b1 &&& 0x3F)
      if pt < 0x80 then invalidPt else ⟨2, pt⟩
  else if b0 < 0xF0 then
    if notContinuation b1 then invalidPt
    else if notContinuation b2 then invalidPt
    else
      let pt := (b0 &&& 0x0F) <<< 12 ||| (b1 &&& 0x3F) <<< 6 ||| (b2 &&& 0x3F)
      if pt < 0x800 then invalidPt else ⟨3, pt⟩
  else if b0 < 0xF8 then
    if notContinuation b1 then invalidPt
    else if notContinuation b2 then invalidPt
    else if notContinuation b3 then invalidPt
    else
      let pt := (b0 &&& 0x0F) <<< 18 ||| (b1 &&& 0x3F) <<< 12 ||| (b2 &&& 0x3F) <<< 6
        ||| (b3 &&& 0x3F)
      if pt < 0x10000 ∨ 0x110000 ≤ pt then invalidPt else ⟨4, pt⟩
  else invalidPt

/-- `utf8_decode`, with the string from the new index on. -/
def utf8Decode (str : List UInt8) : Nat × List UInt8 :=
  let res := utf8DecodeCheck str
  if res.offset < 0 then (0xFFFD, str.drop 1) else (res.pt, str.drop res.offset.toNat)

/-- `utf8_encode`. -/
def utf8Encode (pt : Nat) : List UInt8 :=
  if pt < 0x80 then [UInt8.ofNat pt]
  else if pt < 0x800 then
    [UInt8.ofNat (pt >>> 6 ||| 0xC0), UInt8.ofNat ((pt &&& 0x3F) ||| 0x80)]
  else if pt < 0x10000 then
    [UInt8.ofNat (pt >>> 12 ||| 0xE0), UInt8.ofNat ((pt >>> 6 &&& 0x3F) ||| 0x80),
      UInt8.ofNat ((pt &&& 0x3F) ||| 0x80)]
  else if pt < 0x110000 then
    [UInt8.ofNat (pt >>> 18 ||| 0xF0), UInt8.ofNat ((pt >>> 12 &&& 0x3F) ||| 0x80),
      UInt8.ofNat ((pt >>> 6 &&& 0x3F) ||| 0x80), UInt8.ofNat ((pt &&& 0x3F) ||| 0x80)]
  else [0xEF, 0xBF, 0xBD]

/-! ## UTF-16 -/

/-- `str[i + k]` of a string from `i` on. -/
def unitAt (str : List UInt16) (k : Nat) : Nat := (str.getD k 0).toNat

/-- `is_high_surrogate`. -/
def isHighSurrogate (c : Nat) : Bool := 0xD800 ≤ c ∧ c < 0xDC00

/-- `is_low_surrogate`. -/
def isLowSurrogate (c : Nat) : Bool := 0xDC00 ≤ c ∧ c < 0xE000

/-- `utf16_decode_check`. -/
def utf16DecodeCheck (str : List UInt16) : OffsetPt :=
  let c0 := unitAt str 0
  let c1 := unitAt str 1
  if isHighSurrogate c0 && isLowSurrogate c1 then
    ⟨2, ((c0 - 0xD800) <<< 10 ||| (c1 - 0xDC00)) + 0x10000⟩
  else if isHighSurrogate c0 || isLowSurrogate c0 then invalidPt
  else ⟨1, c0⟩

/-- `utf16_decode`, with the string from the new index on. -/
def utf16Decode (str : List UInt16) : Nat × List UInt16 :=
  let res := utf16DecodeCheck str
  if res.offset < 0 then (0xFFFD, str.drop 1) else (res.pt, str.drop res.offset.toNat)

/-- `utf16_encode`. -/
def utf16Encode (pt : Nat) : List UInt16 :=
  if pt < 0x10000 then [UInt16.ofNat pt]
  else if pt < 0x110000 then
    [UInt16.ofNat ((pt - 0x10000) >>> 10 + 0xD800), UInt16.ofNat ((pt &&& 0x3FF) + 0xDC00)]
  else [0xFFFD]

/-! ## The conversions -/

/-- `jniStringFromUTF8`: each pass of the loop reads a code point and
writes it. A pass reads at least a byte, so there are no more than bytes. -/
def jniStringFromUTF8 (str : List UInt8) : List UInt16 := transcode utf8Decode utf16Encode str

/-- `jniUTF8FromString`. -/
def jniUTF8FromString (jstr : List UInt16) : List UInt8 := transcode utf16Decode utf8Encode jstr

end L4AudioMixer.Djinni
