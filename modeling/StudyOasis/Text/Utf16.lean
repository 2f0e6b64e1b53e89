import StudyOasis.Text.JsString
import StudyOasis.Text.Utf8

/-!
# UTF-16

The characters of a JavaScript string.  A surrogate that is not one of a pair stands for no
character; where a string becomes text (`USVString`, `Buffer.from`) it is replaced.

* `decode_encode` : the characters of an encoded text are the text;
* `toWellFormed_eq_iff` : a string without lone surrogates is not changed.
-/

namespace StudyOasis

namespace Utf16

/-- The first unit of a pair. -/
def isHigh (u : UInt16) : Bool := 0xD800 ≤ u.toNat && u.toNat ≤ 0xDBFF

/-- The second unit of a pair. -/
def isLow (u : UInt16) : Bool := 0xDC00 ≤ u.toNat && u.toNat ≤ 0xDFFF

/-- The character of a unit on its own. -/
def single (u : UInt16) : Char :=
  if isHigh u || isLow u then Utf8.replacement else Char.ofNat u.toNat

/-- The character of a pair. -/
def pair (u v : UInt16) : Char :=
  Char.ofNat (0x10000 + (u.toNat - 0xD800) * 0x400 + (v.toNat - 0xDC00))

/-- The characters of a string, with a replacement for every lone surrogate. -/
def decode : JsString → List Char
  | [] => []
  | [u] => [single u]
  | u :: v :: s => if isHigh u && isLow v then pair u v :: decode s else single u :: decode (v :: s)

/-- The string of a text. -/
def encode (cs : List Char) : JsString := cs.flatMap utf16EncodeChar

/-- `toWellFormed()`. -/
def toWellFormed (s : JsString) : JsString := encode (decode s)

/-- A string without lone surrogates. -/
def WellFormed (s : JsString) : Prop := ∃ cs, encode cs = s

@[simp] theorem encode_nil : encode [] = [] := rfl

@[simp] theorem encode_cons (c : Char) (cs : List Char) :
    encode (c :: cs) = utf16EncodeChar c ++ encode cs := rfl

theorem wellFormed_js (s : String) : WellFormed (js s) := ⟨s.toList, rfl⟩

/-- A unit that is no surrogate is a character. -/
theorem decode_cons {u : UInt16} (h : isHigh u = false) (s : JsString) :
    decode (u :: s) = single u :: decode s := by
  cases s with
  | nil => rfl
  | cons v s => simp [decode, h]

theorem decode_pair {u v : UInt16} (hu : isHigh u = true) (hv : isLow v = true) (s : JsString) :
    decode (u :: v :: s) = pair u v :: decode s := by
  simp [decode, hu, hv]

theorem toNat_ofNat {n : ℕ} (h : n < 0x10000) : (UInt16.ofNat n).toNat = n := by
  simp [Nat.mod_eq_of_lt h]

/-- A character and what follows it. -/
theorem decode_encodeChar (c : Char) (s : JsString) :
    decode (utf16EncodeChar c ++ s) = c :: decode s := by
  have hc : c.toNat < 0xD800 ∨ 0xDFFF < c.toNat ∧ c.toNat < 0x110000 := c.valid
  have hof : Char.ofNat c.toNat = c := Char.ofNat_toNat c
  unfold utf16EncodeChar
  generalize c.toNat = n at hc hof
  by_cases hbmp : n < 0x10000
  · have hn := toNat_ofNat hbmp
    have hhigh : isHigh (.ofNat n) = false := by
      rw [isHigh, hn]
      simp
      omega
    have hlow : isLow (.ofNat n) = false := by
      rw [isLow, hn]
      simp
      omega
    rw [if_pos hbmp, List.singleton_append, decode_cons hhigh, single, hhigh, hlow, hn, ← hof]
    simp
  · have hhi := toNat_ofNat (show 0xD800 + (n - 0x10000) / 0x400 < 0x10000 by omega)
    have hlo := toNat_ofNat (show 0xDC00 + (n - 0x10000) % 0x400 < 0x10000 by omega)
    have hhigh : isHigh (.ofNat (0xD800 + (n - 0x10000) / 0x400)) = true := by
      rw [isHigh, hhi]
      simp
      omega
    have hlow : isLow (.ofNat (0xDC00 + (n - 0x10000) % 0x400)) = true := by
      rw [isLow, hlo]
      simp
      omega
    have hcp : 0x10000 + (0xD800 + (n - 0x10000) / 0x400 - 0xD800) * 0x400 +
        (0xDC00 + (n - 0x10000) % 0x400 - 0xDC00) = n := by omega
    rw [if_neg hbmp]
    show decode (_ :: _ :: s) = _
    rw [decode_pair hhigh hlow, pair, hhi, hlo, hcp, hof]

/-- **The characters of an encoded text are the text.** -/
@[simp] theorem decode_encode (cs : List Char) : decode (encode cs) = cs := by
  induction cs with
  | nil => rfl
  | cons c cs ih => rw [encode_cons, decode_encodeChar, ih]

theorem toWellFormed_eq_iff {s : JsString} : toWellFormed s = s ↔ WellFormed s := by
  constructor
  · exact fun h => ⟨decode s, h⟩
  · rintro ⟨cs, rfl⟩
    rw [toWellFormed, decode_encode]

@[simp] theorem toWellFormed_nil : toWellFormed [] = [] := rfl

/-- No character is left out. -/
theorem toWellFormed_eq_nil_iff {s : JsString} : toWellFormed s = [] ↔ s = [] := by
  have hchar (c : Char) (cs : List Char) : encode (c :: cs) ≠ [] := by
    rw [encode_cons, utf16EncodeChar]
    split_ifs <;> simp
  constructor
  · intro h
    match s with
    | [] => rfl
    | [u] => exact absurd h (hchar _ _)
    | u :: v :: s =>
      rw [toWellFormed, decode] at h
      split_ifs at h
      · exact absurd h (hchar _ _)
      · exact absurd h (hchar _ _)
  · rintro rfl
    rfl

end Utf16

end StudyOasis
