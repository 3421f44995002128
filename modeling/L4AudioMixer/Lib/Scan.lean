/-
L4AudioMixer.Lib.Scan — texts that are read one code at a time.

A decoder takes a code off the front of a text, whatever the text is; an
encoder writes a code. `scan` decodes a whole text. Where the decoder
undoes the encoder on the codes of `V` (`Undoes`), a text of encoded codes
is read back (`scan_flatMap`). A text that is decoded, encoded in another
way and back again is then unchanged exactly if it is a text of encoded
codes of `V` (`transcode_eq_iff`).
-/
import Mathlib.Data.List.Basic

namespace L4AudioMixer.Lib

variable {α β γ : Type*}

/-- The codes of a text of at most so many elements. -/
def scan (decode : List α → γ × List α) : Nat → List α → List γ
  | 0, _ => []
  | _ + 1, [] => []
  | n + 1, a :: text => (decode (a :: text)).1 :: scan decode n (decode (a :: text)).2

/-- The decoder takes an element at least. -/
def Shortens (decode : List α → γ × List α) : Prop :=
  ∀ a text, (decode (a :: text)).2.length ≤ text.length

/-- The decoder takes an encoded code of `V` off the front again. -/
structure Undoes (V : γ → Prop) (decode : List α → γ × List α) (encode : γ → List α) : Prop where
  nonempty : ∀ c, V c → encode c ≠ []
  decode : ∀ c rest, V c → decode (encode c ++ rest) = (c, rest)

variable {V : γ → Prop} {decode : List α → γ × List α} {encode : γ → List α}

/-- What holds of every decoded code holds of the codes of a text. -/
theorem forall_scan (h : ∀ a text, V (decode (a :: text)).1) (n : Nat) (text : List α) :
    ∀ c ∈ scan decode n text, V c := by
  induction n generalizing text with
  | zero =>
      intro c hc
      cases hc
  | succ n ih =>
      cases text with
      | nil =>
          intro c hc
          cases hc
      | cons a text =>
          intro c hc
          rcases List.mem_cons.mp hc with rfl | hc
          · exact h a text
          · exact ih _ c hc

/-- A bound above the length of the text reads the whole text. -/
theorem scan_of_le (hshort : Shortens decode) {n m : Nat} {text : List α} (hn : text.length ≤ n)
    (hm : text.length ≤ m) : scan decode n text = scan decode m text := by
  induction n generalizing m text with
  | zero =>
      obtain rfl := List.length_eq_zero_iff.mp (Nat.le_zero.mp hn)
      cases m <;> rfl
  | succ n ih =>
      cases text with
      | nil => cases m <;> rfl
      | cons a text =>
          rw [List.length_cons] at hn hm
          obtain ⟨m, rfl⟩ : ∃ k, m = k + 1 := ⟨m - 1, by omega⟩
          have hrest := hshort a text
          rw [scan, scan, ih (m := m) (by omega) (by omega)]

/-- **Encoded codes are read back.** -/
theorem scan_flatMap (h : Undoes V decode encode) {codes : List γ} (hV : ∀ c ∈ codes, V c)
    {n : Nat} (hn : (codes.flatMap encode).length ≤ n) :
    scan decode n (codes.flatMap encode) = codes := by
  induction codes generalizing n with
  | nil => cases n <;> rfl
  | cons c codes ih =>
      have hc := hV c (List.mem_cons_self ..)
      obtain ⟨a, text, htext⟩ := List.exists_cons_of_ne_nil (h.nonempty c hc)
      have hback := h.decode c (codes.flatMap encode) hc
      rw [List.flatMap_cons, htext, List.cons_append, List.length_cons] at hn
      obtain ⟨n, rfl⟩ : ∃ k, n = k + 1 := ⟨n - 1, by omega⟩
      rw [List.length_append] at hn
      have hrest := ih (n := n) (fun d hd => hV d (List.mem_cons_of_mem _ hd)) (by omega)
      rw [List.flatMap_cons, htext, List.cons_append, scan, ← List.cons_append, ← htext, hback,
        hrest]

/-- A text, decoded and encoded in another way. -/
def transcode (decode : List α → γ × List α) (encode : γ → List β) (text : List α) : List β :=
  (scan decode text.length text).flatMap encode

/-- A code is decoded and encoded, then the rest of the text. -/
theorem transcode_cons (hshort : Shortens decode) (encode : γ → List β) (a : α) (text : List α) :
    transcode decode encode (a :: text)
      = encode (decode (a :: text)).1 ++ transcode decode encode (decode (a :: text)).2 := by
  have hrest : scan decode text.length (decode (a :: text)).2
      = scan decode (decode (a :: text)).2.length (decode (a :: text)).2 :=
    scan_of_le hshort (hshort a text) (Nat.le_refl _)
  rw [transcode, List.length_cons, scan, List.flatMap_cons, hrest, transcode]

/-- A front of encoded codes is decoded and encoded, whatever follows it. -/
theorem transcode_append (hshort : Shortens decode) (h : Undoes V decode encode)
    (encode' : γ → List β) {codes : List γ} (hV : ∀ c ∈ codes, V c) (rest : List α) :
    transcode decode encode' (codes.flatMap encode ++ rest)
      = codes.flatMap encode' ++ transcode decode encode' rest := by
  induction codes with
  | nil => rfl
  | cons c codes ih =>
      have hc := hV c (List.mem_cons_self ..)
      obtain ⟨a, text, htext⟩ := List.exists_cons_of_ne_nil (h.nonempty c hc)
      have hback := h.decode c (codes.flatMap encode ++ rest) hc
      have hrest := ih fun d hd => hV d (List.mem_cons_of_mem _ hd)
      rw [List.flatMap_cons, List.append_assoc, htext, List.cons_append,
        transcode_cons hshort, ← List.cons_append, ← htext, hback, hrest, List.flatMap_cons,
        List.append_assoc]
/-- **There and back**: if what comes back is decoded to codes of `V`, the
text is unchanged exactly if it is one of encoded codes of `V`. -/
theorem transcode_eq_iff {decode' : List β → γ × List β} {encode' : γ → List β}
    (h : Undoes V decode encode) (h' : Undoes V decode' encode') {text : List α}
    (hback : ∀ c ∈ scan decode' (transcode decode encode' text).length
      (transcode decode encode' text), V c) :
    transcode decode' encode (transcode decode encode' text) = text ↔
      ∃ codes : List γ, (∀ c ∈ codes, V c) ∧ text = codes.flatMap encode := by
  constructor
  · intro hsame
    exact ⟨_, hback, hsame.symm⟩
  · rintro ⟨codes, hV, rfl⟩
    have hthere : transcode decode encode' (codes.flatMap encode) = codes.flatMap encode' := by
      rw [transcode, scan_flatMap h hV (Nat.le_refl _)]
    rw [hthere, transcode, scan_flatMap h' hV (Nat.le_refl _)]

end L4AudioMixer.Lib
