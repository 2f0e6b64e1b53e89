import Mathlib.Data.List.Flatten
import StudyOasis.Text.JsString

/-!
# The visible part of a text

A text without its whitespace: what is left of it however it is trimmed, joined and broken into
lines.

* `visible_trim`, `visible_intercalate` : trimming, and joining with blank separators, leave it;
* `visible_take` : cutting a text off cuts it off;
* `visible_eq_nil_iff` : a text without it is blank.
-/

namespace StudyOasis

variable {s : JsString} {c : UInt16}

/-- The code units of a text that are no whitespace. -/
def visible (s : JsString) : JsString := s.filter fun c => !isSpace c

@[simp] theorem visible_nil : visible [] = [] := rfl

@[simp] theorem visible_append (s t : JsString) : visible (s ++ t) = visible s ++ visible t :=
  List.filter_append s t

theorem visible_cons_of_space (h : isSpace c = true) (s : JsString) :
    visible (c :: s) = visible s :=
  List.filter_cons_of_neg (by simp [h])

theorem visible_eq_nil_iff : visible s = [] ↔ ∀ c ∈ s, isSpace c = true := by
  simp [visible, List.filter_eq_nil_iff]

theorem visible_eq_nil_iff_trim : visible s = [] ↔ trim s = [] :=
  visible_eq_nil_iff.trans trim_eq_nil_iff.symm

theorem visible_reverse (s : JsString) : visible s.reverse = (visible s).reverse :=
  List.filter_reverse

/-- The whitespace at the start is not visible. -/
theorem visible_dropWhile (s : JsString) : visible (s.dropWhile isSpace) = visible s := by
  induction s with
  | nil => rfl
  | cons c s ih =>
    by_cases hc : isSpace c = true
    · rw [List.dropWhile_cons_of_pos hc, ih, visible_cons_of_space hc]
    · rw [List.dropWhile_cons_of_neg hc]

@[simp] theorem visible_trim (s : JsString) : visible (trim s) = visible s := by
  rw [trim, visible_reverse, visible_dropWhile, visible_reverse, List.reverse_reverse,
    visible_dropWhile]

theorem visible_flatten (l : List JsString) : visible l.flatten = l.flatMap visible := by
  rw [visible, List.filter_flatten, ← List.flatMap_def]
  rfl

/-- Blank separators are not visible. -/
theorem visible_intercalate {separator : JsString} (h : visible separator = [])
    (l : List JsString) : visible (List.intercalate separator l) = l.flatMap visible := by
  induction l with
  | nil => rfl
  | cons s l ih =>
    cases l with
    | nil => simp [List.intercalate]
    | cons t l =>
      have hcons : List.intercalate separator (s :: t :: l) =
          s ++ (separator ++ List.intercalate separator (t :: l)) := by
        simp [List.intercalate]
      rw [hcons, visible_append, visible_append, h, List.nil_append, ih]
      rfl

/-- Texts that are left out for being empty are not missed. -/
theorem flatMap_visible_filter (l : List JsString) :
    (l.filter (· ≠ [])).flatMap visible = l.flatMap visible := by
  induction l with
  | nil => rfl
  | cons s l ih =>
    by_cases hs : s = []
    · rw [List.filter_cons_of_neg (by simpa using hs), ih, hs, List.flatMap_cons, visible_nil,
        List.nil_append]
    · rw [List.filter_cons_of_pos (by simpa using hs), List.flatMap_cons, List.flatMap_cons, ih]

/-- A text that is cut off shows a front of what it has shown. -/
theorem visible_take (s : JsString) (n : ℕ) : visible (s.take n) <+: visible s := by
  refine ⟨visible (s.drop n), ?_⟩
  rw [← visible_append, List.take_append_drop]

end StudyOasis
