import Mathlib.Data.List.DropRight
import Mathlib.Data.List.TakeWhile

/-!
# JavaScript strings

A JavaScript string is a sequence of 16-bit code units, which need not be well-formed UTF-16.
`js` gives the code units of a literal.
-/

namespace StudyOasis

/-- A JavaScript string: its code units. -/
abbrev JsString := List UInt16

/-- The UTF-16 code units of a character. -/
def utf16EncodeChar (c : Char) : JsString :=
  if c.toNat < 0x10000 then [.ofNat c.toNat]
  else
    let n := c.toNat - 0x10000
    [.ofNat (0xD800 + n / 0x400), .ofNat (0xDC00 + n % 0x400)]

/-- A literal as a JavaScript string. -/
def js (s : String) : JsString := s.toList.flatMap utf16EncodeChar

/-- The digits tell the number. -/
theorem toDigits_injective : Function.Injective (Nat.toDigits 10) := by
  intro m n h
  rw [← Nat.ofDigitChars_toDigits (b := 10) (n := m) (by decide) (by decide), h,
    Nat.ofDigitChars_toDigits (by decide) (by decide)]

/-- A text with a code unit, split where it stands last. -/
theorem exists_last_of_mem {c : UInt16} {s : JsString} (h : c ∈ s) :
    ∃ q e, s = q ++ c :: e ∧ c ∉ e := by
  obtain ⟨as, bs, hs, has⟩ := List.eq_append_cons_of_mem (List.mem_reverse.2 h)
  refine ⟨bs.reverse, as.reverse, ?_, by simpa using has⟩
  rw [← List.reverse_reverse s, hs]
  simp

/-- The code units that `\s` matches and `trim` removes. -/
def isSpace (c : UInt16) : Bool :=
  (9 ≤ c && c ≤ 13) || c = 32 || c = 0xA0 || c = 0x1680 || (0x2000 ≤ c && c ≤ 0x200A) ||
    c = 0x2028 || c = 0x2029 || c = 0x202F || c = 0x205F || c = 0x3000 || c = 0xFEFF

/-- `trim()`. -/
def trim (s : JsString) : JsString := ((s.dropWhile isSpace).reverse.dropWhile isSpace).reverse

/-- What `trim` leaves nothing of is blank. -/
theorem trim_eq_nil_iff {s : JsString} : trim s = [] ↔ ∀ c ∈ s, isSpace c = true := by
  rw [trim, List.reverse_eq_nil_iff, List.dropWhile_eq_nil_iff]
  constructor
  · intro h c hc
    rw [← List.takeWhile_append_dropWhile (p := isSpace) (l := s), List.mem_append] at hc
    rcases hc with hc | hc
    · exact List.mem_takeWhile_imp hc
    · exact h c (List.mem_reverse.2 hc)
  · intro h c hc
    rw [List.dropWhile_eq_nil_iff.2 h] at hc
    exact absurd hc List.not_mem_nil

section Trim

variable {s : JsString}

/-- What `trim` leaves starts with no whitespace. -/
theorem isSpace_head_trim (h : trim s ≠ []) : isSpace ((trim s).head h) = false := by
  have hstart : trim s <+: s.dropWhile isSpace := List.rdropWhile_prefix isSpace _
  have hne : s.dropWhile isSpace ≠ [] := by
    intro hnil
    rw [hnil] at hstart
    exact h (List.prefix_nil.1 hstart)
  rw [List.IsPrefix.head hstart h]
  exact List.head_dropWhile_not isSpace hne

/-- What `trim` leaves ends with no whitespace. -/
theorem isSpace_getLast_trim (h : trim s ≠ []) : isSpace ((trim s).getLast h) = false :=
  Bool.eq_false_iff.2 (List.rdropWhile_last_not isSpace (s.dropWhile isSpace) h)

/-- `trim` leaves the front of a text that starts with no whitespace. -/
theorem trim_of_head (hs : s ≠ []) (h : isSpace (s.head hs) = false) :
    trim s = s.rdropWhile isSpace := by
  have hdrop : s.dropWhile isSpace = s := by
    cases s with
    | nil => rfl
    | cons c s => exact List.dropWhile_cons_of_neg (Bool.eq_false_iff.1 h)
  show (s.dropWhile isSpace).rdropWhile isSpace = _
  rw [hdrop]

theorem trim_eq_self_iff (hs : s ≠ []) (h : isSpace (s.head hs) = false) :
    trim s = s ↔ isSpace (s.getLast hs) = false := by
  rw [trim_of_head hs h, List.rdropWhile_eq_self_iff, Bool.eq_false_iff]
  exact ⟨fun hl => hl hs, fun hl _ => hl⟩

/-- A text that starts with no whitespace is not blank. -/
theorem trim_ne_nil_of_head (hs : s ≠ []) (h : isSpace (s.head hs) = false) : trim s ≠ [] := by
  rw [ne_eq, trim_eq_nil_iff]
  intro hall
  rw [hall _ (List.head_mem hs)] at h
  cases h

@[simp] theorem trim_trim (s : JsString) : trim (trim s) = trim s := by
  by_cases h : trim s = []
  · rw [h]
    rfl
  · exact (trim_eq_self_iff h (isSpace_head_trim h)).2 (isSpace_getLast_trim h)

end Trim

/-- What `trim` leaves is not blank. -/
theorem trim_trim_ne_nil {s : JsString} (h : trim s ≠ []) : ¬ ∀ c ∈ trim s, isSpace c = true := by
  intro hall
  have hhead := isSpace_head_trim h
  rw [hall _ (List.head_mem h)] at hhead
  cases hhead

end StudyOasis
