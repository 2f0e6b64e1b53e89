import Mathlib.Data.List.Chain
import StudyOasis.Upload.Filename

/-!
# Safe file names

What `sanitizeFilename` promises about a name, whatever was sent: `SafeName`.

* `UploadService.sanitizeFilename_eq_self_iff` : the safe names are those that it leaves alone;
* `UploadService.sanitizeFilename_safe` : **every name becomes a safe one**, so a second pass
  changes nothing.
-/

namespace StudyOasis

/-- `\` -/
def backslash : UInt16 := 92

namespace UploadService

/-- A name that may stand in a path. -/
structure SafeName (name : JsString) : Prop where
  /-- `substring(0, 255)`. -/
  length_le : name.length ≤ 255
  /-- Letters and digits of ASCII, `.`, `_`, `-` and U+4E00 to U+9FA5. -/
  kept : ∀ c ∈ name, isKept c = true
  /-- There is no way up. -/
  no_dots : ¬ [dot, dot] <:+: name
  /-- It is one component of a path. -/
  no_separator : slash ∉ name ∧ backslash ∉ name
  /-- It is no hidden file. -/
  head : name.head? ≠ some dot

variable {s t : JsString} {c : UInt16}

/-- No two dots stand side by side. -/
abbrev DotsApart (s : JsString) : Prop := s.IsChain fun a b => ¬ (a = dot ∧ b = dot)

theorem dotsApart_iff : DotsApart s ↔ ¬ [dot, dot] <:+: s := by
  unfold DotsApart
  rw [List.isChain_iff_forall_rel_of_append_cons_cons]
  constructor
  · rintro h ⟨p, q, hs⟩
    have hsplit : s = p ++ dot :: dot :: q := by
      rw [← hs]
      simp
    exact h hsplit ⟨rfl, rfl⟩
  · rintro h a b p q rfl ⟨rfl, rfl⟩
    exact h ⟨p, q, by simp⟩

/-! ### The four steps -/

theorem isKept_cleanUnit (c : UInt16) : isKept (cleanUnit c) = true := by
  unfold cleanUnit
  split_ifs with h
  · exact h
  · rfl

theorem cleanUnit_of_isKept (h : isKept c = true) : cleanUnit c = c := if_pos h

theorem flushDots_dotsApart (run : ℕ) : DotsApart (flushDots run) := by
  match run with
  | 0 => exact .nil
  | 1 => exact .singleton _
  | _ + 2 => exact .singleton _

/-- The second step leaves no two dots side by side. -/
theorem collapseDots_dotsApart (run : ℕ) (s : JsString) : DotsApart (collapseDots run s) := by
  induction s generalizing run with
  | nil => exact flushDots_dotsApart run
  | cons c s ih =>
    rw [collapseDots]
    split_ifs with hc
    · exact ih (run + 1)
    · refine List.isChain_append.2 ⟨flushDots_dotsApart run, ?_, ?_⟩
      · exact List.isChain_cons.2 ⟨fun y _ h => hc h.1, ih 0⟩
      · rintro a - b hb ⟨-, rfl⟩
        exact hc (Option.some.inj hb)

/-- The second step leaves a text alone that has no two dots side by side. -/
theorem collapseDots_eq_self {run : ℕ} (h : DotsApart (List.replicate run dot ++ s)) :
    collapseDots run s = List.replicate run dot ++ s := by
  have hflush {run : ℕ} (h : DotsApart (List.replicate run dot)) :
      flushDots run = List.replicate run dot := by
    match run with
    | 0 => rfl
    | 1 => rfl
    | _ + 2 => exact absurd ⟨rfl, rfl⟩ (List.isChain_cons_cons.1 h).1
  induction s generalizing run with
  | nil =>
    rw [List.append_nil] at h ⊢
    exact hflush h
  | cons c s ih =>
    rw [collapseDots]
    split_ifs with hc
    · -- the dot joins the run
      have hrun : List.replicate run dot ++ c :: s = List.replicate (run + 1) dot ++ s := by
        rw [hc, List.replicate_succ', List.append_assoc, List.singleton_append]
      rw [hrun] at h ⊢
      exact ih h
    · obtain ⟨hrun, hs, -⟩ := List.isChain_append.1 h
      have hrest : collapseDots 0 s = s := ih (List.isChain_cons.1 hs).2
      rw [hflush hrun, hrest]

theorem isKept_of_mem_cleanFilename (h : c ∈ cleanFilename s) : isKept c = true := by
  rcases mem_of_mem_collapseDots 0 ((List.dropWhile_suffix _).subset h) with h | rfl | rfl
  · obtain ⟨x, -, rfl⟩ := List.mem_map.1 h
    exact isKept_cleanUnit x
  · rfl
  · rfl

theorem cleanFilename_dotsApart (s : JsString) : DotsApart (cleanFilename s) :=
  List.IsChain.suffix (collapseDots_dotsApart 0 _) (List.dropWhile_suffix _)

/-- The characters that are kept are no separators. -/
theorem separator_not_mem (h : ∀ c ∈ s, isKept c = true) : slash ∉ s ∧ backslash ∉ s :=
  ⟨fun hc => absurd (h _ hc) (by decide), fun hc => absurd (h _ hc) (by decide)⟩

/-! ### Safe names -/

theorem safeName_sanitizeFilename (s : JsString) : SafeName (sanitizeFilename s) := by
  have hkept : ∀ c ∈ sanitizeFilename s, isKept c = true := fun c hc =>
    isKept_of_mem_cleanFilename (List.mem_of_mem_take hc)
  refine ⟨List.length_take_le _ _, hkept, ?_, separator_not_mem hkept, ?_⟩
  · exact dotsApart_iff.1 (List.IsChain.take (cleanFilename_dotsApart s) 255)
  · rw [sanitizeFilename, List.head?_take]
    exact head?_cleanFilename

/-- No step changes a safe name. -/
theorem sanitizeFilename_of_safeName (h : SafeName s) : sanitizeFilename s = s := by
  have hmap : s.map cleanUnit = s :=
    (List.map_congr_left fun c hc => cleanUnit_of_isKept (h.kept c hc)).trans (List.map_id _)
  have hcollapse : collapseDots 0 s = s := collapseDots_eq_self (dotsApart_iff.2 h.no_dots)
  have hdrop : s.dropWhile (· = dot) = s := by
    rw [List.dropWhile_eq_self_iff]
    intro hpos
    have hhead := h.head
    rw [List.head?_eq_getElem?, List.getElem?_eq_getElem hpos] at hhead
    simpa using hhead
  rw [sanitizeFilename, cleanFilename, hmap, hcollapse, hdrop]
  exact List.take_of_length_le h.length_le

/-- The safe names are those that `sanitizeFilename` leaves alone. -/
theorem sanitizeFilename_eq_self_iff : sanitizeFilename s = s ↔ SafeName s := by
  constructor
  · intro h
    rw [← h]
    exact safeName_sanitizeFilename s
  · exact sanitizeFilename_of_safeName

/-- **Every name becomes a safe one, and stays as it is in a second pass.** -/
theorem sanitizeFilename_safe (filename : JsString) :
    SafeName (sanitizeFilename filename) ∧
      sanitizeFilename (sanitizeFilename filename) = sanitizeFilename filename :=
  ⟨safeName_sanitizeFilename filename, sanitizeFilename_of_safeName
    (safeName_sanitizeFilename filename)⟩

/-- A way up is made one name. -/
example : sanitizeFilename (js "../../etc/passwd") = js "____etc_passwd" := by decide +kernel

end UploadService

end StudyOasis
