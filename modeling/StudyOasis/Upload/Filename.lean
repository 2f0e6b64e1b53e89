import Mathlib.Data.List.DropRight
import StudyOasis.Text.JsString

/-!
# File names

`UploadService.isDangerousFile` looks at the name as it was sent, `sanitizeFilename` rewrites it
in four steps, and the stored extension is the one of the rewritten name.

* `isDangerousFile_sanitizeFilename_iff` : **when a name that is not dangerous becomes dangerous**.
  One way is a path whose last component is nothing but a dangerous extension (`x/.exe` becomes
  `x_.exe`), the other a name that is cut off right behind a dangerous extension.
-/

namespace StudyOasis

/-! ### Code units -/

/-- `.` -/
def dot : UInt16 := 46

/-- `/` -/
def slash : UInt16 := 47

/-- `_` -/
def underscore : UInt16 := 95

/-- `A` to `Z`, `a` to `z`, `0` to `9`. -/
def isAlnum (c : UInt16) : Bool :=
  (97 ≤ c && c ≤ 122) || (65 ≤ c && c ≤ 90) || (48 ≤ c && c ≤ 57)

/-- `toLowerCase()` on one code unit. -/
def toLowerUnit (c : UInt16) : UInt16 :=
  if 65 ≤ c && c ≤ 90 then c + 32 else if c = 0x212A then 107 else c

/-- `toLowerCase()`.  No character but a letter of ASCII and the Kelvin sign has a lower case in
ASCII; the others stay here as they are, which a comparison with ASCII text does not see. -/
def toLowerCase (s : JsString) : JsString := s.map toLowerUnit

/-! ### `path.extname` -/

/-- The last component of a path, without the slashes behind it. -/
def lastComponent (path : JsString) : JsString :=
  (path.rdropWhile (· = slash)).rtakeWhile (· ≠ slash)

/-- `path.extname` : what the last component ends with from its last dot on, if something stands
before that dot. -/
def extname (path : JsString) : JsString :=
  let base := lastComponent path
  let stem := (base.rdropWhile (· ≠ dot)).dropLast
  if stem = [] ∨ base = [dot, dot] then [] else dot :: base.rtakeWhile (· ≠ dot)

namespace UploadService

/-! ### The service -/

/-- `DANGEROUS_EXTENSIONS`. -/
def DANGEROUS_EXTENSIONS : List JsString :=
  [".exe", ".dll", ".bat", ".cmd", ".sh", ".bash", ".scr", ".vbs", ".js", ".jar", ".app", ".msi",
    ".com", ".pif", ".ps1", ".psm1"].map js

/-- `UploadService.isDangerousFile`. -/
def isDangerousFile (filename : JsString) : Bool :=
  DANGEROUS_EXTENSIONS.contains (toLowerCase (extname filename))

/-- `[a-zA-Z0-9._\u4e00-\u9fa5-]`. -/
def isKept (c : UInt16) : Bool :=
  isAlnum c || c = dot || c = underscore || (0x4E00 ≤ c && c ≤ 0x9FA5) || c = 45

/-- A code unit after `.replace(/[^a-zA-Z0-9._\u4e00-\u9fa5-]/g, '_')`. -/
def cleanUnit (c : UInt16) : UInt16 := if isKept c then c else underscore

/-- What a run of dots becomes. -/
def flushDots : ℕ → JsString
  | 0 => []
  | 1 => [dot]
  | _ + 2 => [underscore]

/-- `.replace(/\.{2,}/g, '_')`, behind a run of dots of the given length. -/
def collapseDots : ℕ → JsString → JsString
  | run, [] => flushDots run
  | run, c :: s =>
    if c = dot then collapseDots (run + 1) s else flushDots run ++ c :: collapseDots 0 s

/-- `sanitizeFilename` before it cuts off. -/
def cleanFilename (filename : JsString) : JsString :=
  (collapseDots 0 (filename.map cleanUnit)).dropWhile (· = dot)

/-- `UploadService.sanitizeFilename`. -/
def sanitizeFilename (filename : JsString) : JsString := (cleanFilename filename).take 255

end UploadService

/-! ### Texts and their ends -/

section

variable {p : UInt16 → Bool} {s t d e q : JsString} {c : UInt16}

theorem rtakeWhile_append (ht : ∀ c ∈ t, p c = true)
    (hd : ∀ h : d ≠ [], p (d.getLast h) = false) : (d ++ t).rtakeWhile p = t := by
  induction t using List.reverseRecOn with
  | nil =>
    rw [List.append_nil, List.rtakeWhile_eq_nil_iff]
    intro h
    simp [hd h]
  | append_singleton t c ih =>
    rw [← List.append_assoc, List.rtakeWhile_concat_pos _ _ _ (ht c (by simp)), ih]
    exact fun c hc => ht c (List.mem_append_left _ hc)

theorem rdropWhile_append (ht : ∀ c ∈ t, p c = true)
    (hd : ∀ h : d ≠ [], p (d.getLast h) = false) : (d ++ t).rdropWhile p = d := by
  have := List.rdropWhile_append_rtakeWhile (p := p) (l := d ++ t)
  rw [rtakeWhile_append ht hd] at this
  exact List.append_cancel_right this

theorem ne_of_mem_rtakeWhile {x : UInt16} (h : c ∈ s.rtakeWhile (· ≠ x)) : c ≠ x := by
  simpa using List.mem_rtakeWhile_imp h

/-- The split at the last dot is unique. -/
theorem append_dot_inj {q' e' : JsString} (h : q ++ dot :: e = q' ++ dot :: e') (he : dot ∉ e)
    (he' : dot ∉ e') : q = q' ∧ e = e' := by
  rcases List.append_eq_append_iff.1 h with ⟨m, hm, hm'⟩ | ⟨m, hm, hm'⟩
  · cases m with
    | nil =>
      rw [List.append_nil] at hm
      exact ⟨hm.symm, (List.cons.inj hm').2⟩
    | cons x m => exact absurd ((List.cons.inj hm').2 ▸ by simp) he
  · cases m with
    | nil =>
      rw [List.append_nil] at hm
      exact ⟨hm, (List.cons.inj hm').2.symm⟩
    | cons x m => exact absurd ((List.cons.inj hm').2 ▸ by simp) he'

/-! ### Dangerous extensions -/

theorem isAlnum_of_toLowerUnit (h : isAlnum (toLowerUnit c) = true) (hk : toLowerUnit c ≠ 107) :
    isAlnum c = true := by
  unfold toLowerUnit at h hk
  split_ifs at h hk with hupper hkelvin
  · simp [isAlnum, hupper]
  · exact absurd rfl hk
  · exact h

/-- No capital letter and not the Kelvin sign lowers to a character in front of the letters. -/
theorem eq_of_toLowerUnit {x : UInt16} (h : toLowerUnit c = x) (hx : x < 97) : c = x := by
  unfold toLowerUnit at h
  split_ifs at h with hupper hkelvin
  · simp only [Bool.and_eq_true, decide_eq_true_eq] at hupper
    have hlow : 65 ≤ c.toNat := UInt16.le_iff_toNat_le.1 hupper.1
    have hhigh : c.toNat ≤ 90 := UInt16.le_iff_toNat_le.1 hupper.2
    have hval := congrArg UInt16.toNat h
    have hlt : x.toNat < 97 := UInt16.lt_iff_toNat_lt.1 hx
    simp at hval
    omega
  · obtain rfl := h
    exact absurd hx (by decide)
  · exact h

theorem ne_of_isAlnum (h : isAlnum c = true) : c ≠ dot ∧ c ≠ slash ∧ c ≠ underscore := by
  refine ⟨?_, ?_, ?_⟩ <;> rintro rfl <;> cases h

namespace UploadService

/-- What lowers to a dangerous extension is a dot with letters and digits behind it. -/
theorem dangerous_cases (h : toLowerCase t ∈ DANGEROUS_EXTENSIONS) :
    ∃ e, t = dot :: e ∧ e ≠ [] ∧ ∀ c ∈ e, isAlnum c = true := by
  -- no extension of the list has a `k`, which the Kelvin sign would lower to
  have hlist : (DANGEROUS_EXTENSIONS.all fun x => x.head? = some dot && !x.tail.isEmpty &&
      x.tail.all fun c => isAlnum c && c ≠ 107) = true := by decide
  have hunits := List.all_eq_true.1 hlist _ h
  simp only [Bool.and_eq_true, decide_eq_true_eq, Bool.not_eq_true', List.isEmpty_eq_false_iff,
    List.all_eq_true] at hunits
  obtain ⟨⟨hhead, htail⟩, hunits⟩ := hunits
  cases t with
  | nil => cases hhead
  | cons c e =>
    refine ⟨e, ?_, ?_, ?_⟩
    · rw [eq_of_toLowerUnit (Option.some.inj hhead) (by decide)]
    · rintro rfl
      exact htail rfl
    · intro c hc
      obtain ⟨halnum, hk⟩ := hunits _ (List.mem_map_of_mem hc)
      exact isAlnum_of_toLowerUnit halnum hk

theorem not_mem_dangerous (h : toLowerCase (dot :: e) ∈ DANGEROUS_EXTENSIONS) :
    e ≠ [] ∧ dot ∉ e ∧ slash ∉ e ∧ underscore ∉ e := by
  obtain ⟨e', he, hne, hunits⟩ := dangerous_cases h
  obtain rfl := (List.cons.inj he).2
  exact ⟨hne, fun hc => (ne_of_isAlnum (hunits _ hc)).1 rfl,
    fun hc => (ne_of_isAlnum (hunits _ hc)).2.1 rfl,
    fun hc => (ne_of_isAlnum (hunits _ hc)).2.2 rfl⟩

/-- The text ends with a dangerous extension. -/
def endsDangerously (s : JsString) : Bool :=
  DANGEROUS_EXTENSIONS.any fun ext => ext.isSuffixOf (toLowerCase s)

theorem endsDangerously_iff : endsDangerously s = true ↔
    ∃ q e, s = q ++ dot :: e ∧ toLowerCase (dot :: e) ∈ DANGEROUS_EXTENSIONS := by
  simp only [endsDangerously, List.any_eq_true, List.isSuffixOf_iff_suffix]
  constructor
  · rintro ⟨ext, hext, pre, hpre⟩
    obtain ⟨q, t, rfl, -, ht⟩ := List.map_eq_append_iff.1 hpre.symm
    have hmem : toLowerCase t ∈ DANGEROUS_EXTENSIONS := by
      rw [toLowerCase, ht]
      exact hext
    obtain ⟨e, rfl, -⟩ := dangerous_cases hmem
    exact ⟨q, e, rfl, hmem⟩
  · rintro ⟨q, e, rfl, hmem⟩
    exact ⟨_, hmem, toLowerCase q, (List.map_append ..).symm⟩

/-! ### The extension of a path -/

theorem lastComponent_append (ht : ∀ c ∈ t, c ≠ slash) (hne : t ≠ []) :
    lastComponent (q ++ t) = q.rtakeWhile (· ≠ slash) ++ t := by
  have hself : (q ++ t).rdropWhile (· = slash) = q ++ t := by
    rw [List.rdropWhile_eq_self_iff]
    intro h
    rw [List.getLast_append_of_ne_nil _ hne]
    simpa using ht _ (List.getLast_mem hne)
  rw [lastComponent, hself]
  -- what is in front of the component is empty or ends with a slash
  have hq : q.rdropWhile (· ≠ slash) ++ (q.rtakeWhile (· ≠ slash) ++ t) = q ++ t := by
    rw [← List.append_assoc, List.rdropWhile_append_rtakeWhile]
  rw [← hq]
  refine rtakeWhile_append ?_ ?_
  · intro c hc
    rcases List.mem_append.1 hc with hc | hc
    · exact decide_eq_true (ne_of_mem_rtakeWhile hc)
    · exact decide_eq_true (ht c hc)
  · intro h
    exact Bool.eq_false_iff.2 (List.rdropWhile_last_not _ _ h)

/-- The extension of a path that ends with a dot and more. -/
theorem extname_append (hslash : slash ∉ e) (hdot : dot ∉ e)
    (hdots : q.rtakeWhile (· ≠ slash) ++ dot :: e ≠ [dot, dot]) :
    extname (q ++ dot :: e) =
      if q.rtakeWhile (· ≠ slash) = [] then [] else dot :: e := by
  have hbase : lastComponent (q ++ dot :: e) = q.rtakeWhile (· ≠ slash) ++ dot :: e := by
    refine lastComponent_append ?_ (List.cons_ne_nil _ _)
    rintro c hc rfl
    rcases List.mem_cons.1 hc with hc | hc
    · cases hc
    · exact hslash hc
  have hunits (c : UInt16) (hc : c ∈ e) : decide (c ≠ dot) = true :=
    decide_eq_true fun h => hdot (h ▸ hc)
  have hsplit : q.rtakeWhile (· ≠ slash) ++ dot :: e =
      (q.rtakeWhile (· ≠ slash) ++ [dot]) ++ e := by simp
  have hstem : (q.rtakeWhile (· ≠ slash) ++ dot :: e).rdropWhile (· ≠ dot) =
      q.rtakeWhile (· ≠ slash) ++ [dot] := by
    rw [hsplit]
    exact rdropWhile_append hunits (by simp)
  have hext : (q.rtakeWhile (· ≠ slash) ++ dot :: e).rtakeWhile (· ≠ dot) = e := by
    rw [hsplit]
    exact rtakeWhile_append hunits (by simp)
  simp only [extname, hbase, hstem, hext, List.dropLast_concat, hdots, or_false]

/-- An extension is empty, or a dot with neither dots nor slashes behind it. -/
theorem extname_cases (path : JsString) :
    extname path = [] ∨ ∃ e, extname path = dot :: e ∧ dot ∉ e ∧ slash ∉ e := by
  simp only [extname]
  split_ifs with h
  · exact .inl rfl
  · refine .inr ⟨_, rfl, fun hc => ne_of_mem_rtakeWhile hc rfl, ?_⟩
    intro hc
    exact ne_of_mem_rtakeWhile ((List.rtakeWhile_suffix _ _).subset hc) rfl

/-- An extension is kept behind a name without dots and slashes, in any directory. -/
theorem extname_append_extname {u : JsString} (hne : u ≠ []) (hdot : dot ∉ u) (hslash : slash ∉ u)
    (hd : ∀ h : d ≠ [], d.getLast h = slash) (path : JsString) :
    extname (d ++ u ++ extname path) = extname path := by
  have htake : (d ++ u).rtakeWhile (· ≠ slash) = u := by
    refine rtakeWhile_append ?_ ?_
    · intro c hc
      exact decide_eq_true fun h => hslash (h ▸ hc)
    · intro h
      simp [hd h]
  rcases extname_cases path with h | ⟨e, h, he, he'⟩
  · rw [h, List.append_nil]
    have hnil : d.rtakeWhile (· ≠ slash) = [] :=
      List.rtakeWhile_eq_nil_iff.2 fun h => by simp [hd h]
    have hbase : lastComponent (d ++ u) = u := by
      rw [lastComponent_append (fun c hc h => hslash (h ▸ hc)) hne, hnil, List.nil_append]
    have hstem : u.rdropWhile (· ≠ dot) = [] :=
      List.rdropWhile_eq_nil_iff.2 fun c hc => decide_eq_true fun h => hdot (h ▸ hc)
    simp only [extname, hbase, hstem, List.dropLast_nil, true_or, if_true]
  · rw [h, extname_append he' he, htake, if_neg hne]
    rw [htake]
    intro hdots
    cases u with
    | nil => exact hne rfl
    | cons c u => exact hdot ((List.cons.inj hdots).1 ▸ List.mem_cons_self)

/-- A path that ends with a dangerous extension is dangerous unless that is its last component. -/
theorem isDangerousFile_append (h : toLowerCase (dot :: e) ∈ DANGEROUS_EXTENSIONS) :
    isDangerousFile (q ++ dot :: e) = true ↔ q.rtakeWhile (· ≠ slash) ≠ [] := by
  obtain ⟨hne, hdot, hslash, -⟩ := not_mem_dangerous h
  have hdots : q.rtakeWhile (· ≠ slash) ++ dot :: e ≠ [dot, dot] := by
    intro hdots
    have hsplit : q.rtakeWhile (· ≠ slash) ++ dot :: e = [dot] ++ dot :: [] := hdots
    exact hne (append_dot_inj hsplit hdot (by simp)).2
  rw [isDangerousFile, extname_append hslash hdot hdots]
  split_ifs with hq
  · simp only [hq, ne_eq, not_true_eq_false, iff_false, Bool.not_eq_true]
    rfl
  · exact iff_of_true (List.contains_iff_mem.2 h) hq

/-! ### The four steps -/

theorem collapseDots_of_no_dot (run : ℕ) (he : dot ∉ e) :
    collapseDots run e = flushDots run ++ e := by
  induction e generalizing run with
  | nil => simp [collapseDots]
  | cons c e ih =>
    have hc : c ≠ dot := fun h => he (h ▸ List.mem_cons_self)
    rw [collapseDots, if_neg hc, ih 0 fun h => he (List.mem_cons_of_mem _ h)]
    rfl

/-- A dot behind a run of dots and `q` is the last one of a run, or stands alone. -/
theorem collapseDots_append_dot (run : ℕ) (q : JsString) (he : dot ∉ e) :
    ((List.replicate run dot ++ q).getLast? ≠ some dot →
      collapseDots run (q ++ dot :: e) = collapseDots run q ++ dot :: e) ∧
    ((List.replicate run dot ++ q).getLast? = some dot →
      ∃ x, collapseDots run (q ++ dot :: e) = x ++ underscore :: e) := by
  induction q generalizing run with
  | nil =>
    have hrun : collapseDots run (dot :: e) = flushDots (run + 1) ++ e := by
      rw [collapseDots, if_pos rfl, collapseDots_of_no_dot _ he]
    rw [List.nil_append, hrun]
    match run with
    | 0 => exact ⟨fun _ => rfl, fun h => by simp at h⟩
    | run + 1 =>
      refine ⟨fun h => absurd ?_ h, fun _ => ⟨[], rfl⟩⟩
      simp [List.replicate_succ']
  | cons c q ih =>
    rw [List.cons_append, collapseDots]
    by_cases hc : c = dot
    · have hrun : List.replicate run dot ++ c :: q = List.replicate (run + 1) dot ++ q := by
        rw [hc, List.replicate_succ', List.append_assoc, List.singleton_append]
      rw [if_pos hc, hrun, collapseDots, if_pos hc]
      exact ih (run + 1)
    · have hlast : (List.replicate run dot ++ c :: q).getLast? = some dot ↔
          q.getLast? = some dot := by
        cases q with
        | nil => simp [hc]
        | cons x q => simp
      rw [if_neg hc, collapseDots, if_neg hc, ne_eq, hlast]
      obtain ⟨hneg, hpos⟩ := ih 0
      refine ⟨fun h => ?_, fun h => ?_⟩
      · rw [hneg h, List.append_assoc, List.cons_append]
      · obtain ⟨x, hx⟩ := hpos h
        exact ⟨flushDots run ++ c :: x, by rw [hx, List.append_assoc, List.cons_append]⟩

theorem mem_collapseDots (run : ℕ) (hc : c ∈ s) (hne : c ≠ dot) : c ∈ collapseDots run s := by
  induction s generalizing run with
  | nil => cases hc
  | cons x s ih =>
    rw [collapseDots]
    rcases List.mem_cons.1 hc with rfl | hc
    · rw [if_neg hne]
      exact List.mem_append_right _ List.mem_cons_self
    · split_ifs
      · exact ih _ hc
      · exact List.mem_append_right _ (List.mem_cons_of_mem _ (ih _ hc))

theorem dropWhile_append_of_mem {p : UInt16 → Bool} (hc : c ∈ s) (hp : p c = false) :
    (s ++ t).dropWhile p = s.dropWhile p ++ t := by
  induction s with
  | nil => cases hc
  | cons x s ih =>
    by_cases hx : p x = true
    · have hmem : c ∈ s := by
        rcases List.mem_cons.1 hc with rfl | hc
        · rw [hx] at hp
          cases hp
        · exact hc
      rw [List.cons_append, List.dropWhile_cons_of_pos hx, List.dropWhile_cons_of_pos hx, ih hmem]
    · rw [List.cons_append, List.dropWhile_cons_of_neg hx, List.dropWhile_cons_of_neg hx,
        List.cons_append]

theorem cleanUnit_of_isAlnum (h : isAlnum c = true) : cleanUnit c = c := by
  simp [cleanUnit, isKept, h]

theorem eq_of_cleanUnit {x : UInt16} (h : cleanUnit c = x) (hx : x ≠ underscore) : c = x := by
  unfold cleanUnit at h
  split_ifs at h
  · exact h
  · exact absurd h.symm hx

theorem eq_of_map_cleanUnit (h : s.map cleanUnit = t) (ht : underscore ∉ t) : s = t := by
  induction s generalizing t with
  | nil => exact h
  | cons c s ih =>
    obtain rfl := h
    have hc := eq_of_cleanUnit (c := c) rfl fun heq => ht (heq ▸ List.mem_cons_self)
    have hs := ih rfl fun hmem => ht (List.mem_cons_of_mem _ hmem)
    rw [List.map_cons, ← hc, ← hs]

theorem append_underscore_ne {e' x : JsString} (he : dot ∉ e) (he' : underscore ∉ e') :
    x ++ underscore :: e ≠ q ++ dot :: e' := by
  intro h
  rcases List.append_eq_append_iff.1 h with ⟨m, -, hm⟩ | ⟨m, -, hm⟩
  · cases m with
    | nil => cases (List.cons.inj hm).1
    | cons c m => exact he ((List.cons.inj hm).2 ▸ by simp)
  · cases m with
    | nil => cases (List.cons.inj hm).1
    | cons c m => exact he' ((List.cons.inj hm).2 ▸ by simp)

/-- A dangerous extension outlives the first three steps behind anything but a dot. -/
theorem cleanFilename_append (hne : q ≠ []) (hlast : q.getLast hne ≠ dot)
    (he : ∀ c ∈ e, isAlnum c = true) :
    cleanFilename (q ++ dot :: e) =
      (collapseDots 0 (q.map cleanUnit)).dropWhile (· = dot) ++ dot :: e := by
  have hclean : (q ++ dot :: e).map cleanUnit = q.map cleanUnit ++ dot :: e := by
    have hmap : e.map cleanUnit = e :=
      (List.map_congr_left fun c hc => cleanUnit_of_isAlnum (he c hc)).trans (List.map_id _)
    rw [List.map_append, List.map_cons, hmap]
    rfl
  have hunit : cleanUnit (q.getLast hne) ≠ dot := by
    intro h
    exact hlast (eq_of_cleanUnit h (by decide))
  have hmap : (q.map cleanUnit).getLast? ≠ some dot := by
    rw [List.getLast?_map, List.getLast?_eq_some_getLast hne]
    simpa using hunit
  have hmem : cleanUnit (q.getLast hne) ∈ collapseDots 0 (q.map cleanUnit) :=
    mem_collapseDots 0 (List.mem_map_of_mem (List.getLast_mem hne)) hunit
  have hdot : dot ∉ e := fun hc => (ne_of_isAlnum (he _ hc)).1 rfl
  rw [cleanFilename, hclean, (collapseDots_append_dot 0 _ hdot).1 hmap]
  exact dropWhile_append_of_mem hmem (decide_eq_false hunit)

/-- **The first three steps**: the cleaned name ends with a dangerous extension exactly when the
name does, with something other than a dot in front of it. -/
theorem endsDangerously_cleanFilename_iff : endsDangerously (cleanFilename s) = true ↔
    ∃ q e, s = q ++ dot :: e ∧ toLowerCase (dot :: e) ∈ DANGEROUS_EXTENSIONS ∧
      ∃ h : q ≠ [], q.getLast h ≠ dot := by
  rw [endsDangerously_iff]
  constructor
  · rintro ⟨p, e, hp, hmem⟩
    obtain ⟨-, hdot, -, hunder⟩ := not_mem_dangerous hmem
    -- the cleaned name is an end of what the second step makes
    obtain ⟨dots, hdots⟩ := List.dropWhile_suffix (l := collapseDots 0 (s.map cleanUnit)) (· = dot)
    have hcollapse : collapseDots 0 (s.map cleanUnit) = (dots ++ p) ++ dot :: e := by
      rw [List.append_assoc, ← hp]
      exact hdots.symm
    have hdotMem : dot ∈ s.map cleanUnit := by
      by_contra h
      rw [collapseDots_of_no_dot 0 h] at hcollapse
      change s.map cleanUnit = _ at hcollapse
      exact h (by simp [hcollapse])
    obtain ⟨q, e₁, hs, he₁⟩ := exists_last_of_mem hdotMem
    obtain ⟨hneg, hpos⟩ := collapseDots_append_dot 0 q he₁
    rw [hs] at hcollapse
    by_cases hq : q.getLast? = some dot
    · -- the last dot is one of a run, and the run became an underscore
      obtain ⟨x, hx⟩ := hpos hq
      rw [hx] at hcollapse
      exact absurd hcollapse (append_underscore_ne he₁ hunder)
    · rw [hneg hq] at hcollapse
      obtain ⟨-, rfl⟩ := append_dot_inj hcollapse he₁ hdot
      obtain ⟨q', t, rfl, hq', ht⟩ := List.map_eq_append_iff.1 hs
      obtain rfl := eq_of_map_cleanUnit ht (by simpa [underscore, dot] using hunder)
      subst hq'
      have hne : q' ≠ [] := by
        rintro rfl
        -- a leading dot is taken away, and no other is left
        have hstep : collapseDots 0 (dot :: e₁) = dot :: e₁ := collapseDots_of_no_dot 1 he₁
        rw [cleanFilename, List.nil_append, ht, hstep, List.dropWhile_cons_of_pos rfl] at hp
        have hleft : dot ∈ e₁.dropWhile (· = dot) := by
          rw [hp]
          simp
        exact he₁ ((List.dropWhile_suffix _).subset hleft)
      refine ⟨q', e₁, rfl, hmem, hne, ?_⟩
      intro hlast
      refine hq ?_
      rw [List.getLast?_map, List.getLast?_eq_some_getLast hne, hlast]
      rfl
  · rintro ⟨q, e, rfl, hmem, hne, hlast⟩
    obtain ⟨e', he, -, hunits⟩ := dangerous_cases hmem
    obtain rfl := (List.cons.inj he).2
    exact ⟨_, e, cleanFilename_append hne hlast hunits, hmem⟩

theorem mem_of_mem_collapseDots (run : ℕ) (h : c ∈ collapseDots run s) :
    c ∈ s ∨ c = dot ∨ c = underscore := by
  have hflush (run : ℕ) (h : c ∈ flushDots run) : c = dot ∨ c = underscore := by
    match run with
    | 0 => cases h
    | 1 => exact .inl (List.mem_singleton.1 h)
    | _ + 2 => exact .inr (List.mem_singleton.1 h)
  induction s generalizing run with
  | nil => exact .inr (hflush run h)
  | cons x s ih =>
    rw [collapseDots] at h
    split_ifs at h
    · exact (ih _ h).imp_left (List.mem_cons_of_mem _)
    · rcases List.mem_append.1 h with h | h
      · exact .inr (hflush run h)
      · rcases List.mem_cons.1 h with rfl | h
        · exact .inl List.mem_cons_self
        · exact (ih 0 h).imp_left (List.mem_cons_of_mem _)

theorem slash_not_mem_cleanFilename : slash ∉ cleanFilename s := by
  intro h
  rcases mem_of_mem_collapseDots 0 ((List.dropWhile_suffix _).subset h) with h | h | h
  · obtain ⟨c, -, hc⟩ := List.mem_map.1 h
    obtain rfl := eq_of_cleanUnit hc (by decide)
    exact absurd hc (by decide)
  · cases h
  · cases h

theorem head?_cleanFilename : (cleanFilename s).head? ≠ some dot := by
  intro h
  have := List.head?_dropWhile_not (· = dot) (collapseDots 0 (s.map cleanUnit))
  rw [show ((collapseDots 0 (s.map cleanUnit)).dropWhile (· = dot)).head? = some dot from h] at this
  cases this

/-- A name without slashes and a leading dot is dangerous when it ends dangerously. -/
theorem isDangerousFile_iff_endsDangerously (hslash : slash ∉ s) (hhead : s.head? ≠ some dot) :
    isDangerousFile s = true ↔ endsDangerously s = true := by
  have hbase {q t : JsString} (hs : s = q ++ t) : q.rtakeWhile (· ≠ slash) = q := by
    rw [List.rtakeWhile_eq_self_iff]
    intro c hc
    refine decide_eq_true ?_
    rintro rfl
    exact hslash (hs ▸ List.mem_append_left _ hc)
  have hne {q e : JsString} (hs : s = q ++ dot :: e) : q ≠ [] := by
    rintro rfl
    exact hhead (hs ▸ rfl)
  rw [endsDangerously_iff]
  constructor
  · intro h
    have hext : toLowerCase (extname s) ∈ DANGEROUS_EXTENSIONS := List.contains_iff_mem.1 h
    by_cases hdot : dot ∈ s
    · obtain ⟨q, e, hs, he⟩ := exists_last_of_mem hdot
      have hslash' : slash ∉ e := fun hc => hslash (by simp [hs, hc])
      have hdots : q.rtakeWhile (· ≠ slash) ++ dot :: e ≠ [dot, dot] := by
        rw [hbase hs, ← hs]
        intro hs'
        exact hhead (hs' ▸ rfl)
      have hq := hne hs
      refine ⟨q, e, hs, ?_⟩
      rwa [hs, extname_append hslash' he hdots, hbase hs, if_neg hq] at hext
    · have hnil : (lastComponent s).rdropWhile (· ≠ dot) = [] := by
        rw [List.rdropWhile_eq_nil_iff]
        intro c hc
        refine decide_eq_true ?_
        rintro rfl
        have hmem := (List.rtakeWhile_suffix _ _).subset hc
        exact hdot ((List.rdropWhile_prefix _ _).subset hmem)
      simp only [extname, hnil, List.dropLast_nil, true_or, if_true] at hext
      exact absurd hext (by decide)
  · rintro ⟨q, e, hs, hmem⟩
    have hq := hne hs
    rw [hs, isDangerousFile_append hmem, hbase hs]
    exact hq

/-! ### What becomes of a name -/

/-- The last component of the path is a dangerous extension, with a slash in front of it. -/
def isHiddenExtension (s : JsString) : Bool :=
  DANGEROUS_EXTENSIONS.any fun ext => (slash :: ext).isSuffixOf (toLowerCase s)

/-- The rewritten name has no dangerous extension unless the name itself has: it is short and no
hidden extension, or long and not cut off right behind a dangerous one. -/
def staysSafe (s : JsString) : Bool :=
  if (cleanFilename s).length ≤ 255 then ! isHiddenExtension s
  else ! endsDangerously ((cleanFilename s).take 255)

theorem isHiddenExtension_iff : isHiddenExtension s = true ↔
    ∃ q e, s = q ++ slash :: dot :: e ∧ toLowerCase (dot :: e) ∈ DANGEROUS_EXTENSIONS := by
  simp only [isHiddenExtension, List.any_eq_true, List.isSuffixOf_iff_suffix]
  constructor
  · rintro ⟨ext, hext, pre, hpre⟩
    obtain ⟨q, t, rfl, -, ht⟩ := List.map_eq_append_iff.1 hpre.symm
    cases t with
    | nil => cases ht
    | cons c t =>
      obtain ⟨hc, rfl⟩ := List.cons.inj ht
      obtain rfl := eq_of_toLowerUnit hc (by decide)
      have hmem : toLowerCase t ∈ DANGEROUS_EXTENSIONS := hext
      obtain ⟨e, rfl, -⟩ := dangerous_cases hmem
      exact ⟨q, e, rfl, hmem⟩
  · rintro ⟨q, e, rfl, hmem⟩
    refine ⟨_, hmem, toLowerCase q, ?_⟩
    rw [toLowerCase, toLowerCase, toLowerCase, List.map_append, List.map_cons]
    rfl

/-- **When a name that is let in gets a dangerous extension.** -/
theorem isDangerousFile_sanitizeFilename_iff (h : isDangerousFile s = false) :
    isDangerousFile (sanitizeFilename s) = false ↔ staysSafe s = true := by
  have hslash : slash ∉ sanitizeFilename s := fun hc =>
    slash_not_mem_cleanFilename (List.mem_of_mem_take hc)
  have hhead : (sanitizeFilename s).head? ≠ some dot := by
    rw [sanitizeFilename, List.head?_take]
    exact head?_cleanFilename
  rw [← Bool.not_eq_true, isDangerousFile_iff_endsDangerously hslash hhead, staysSafe]
  split_ifs with hlen
  · rw [sanitizeFilename, List.take_of_length_le hlen, endsDangerously_cleanFilename_iff,
      Bool.not_eq_true', ← Bool.not_eq_true, isHiddenExtension_iff, not_iff_not]
    constructor
    · rintro ⟨q, e, rfl, hmem, hne, -⟩
      -- the name is not dangerous itself, so its extension is all of the last component
      have hnil : q.rtakeWhile (· ≠ slash) = [] := by
        by_contra hq
        rw [(isDangerousFile_append hmem).2 hq] at h
        cases h
      have hlast : q.getLast hne = slash := by
        simpa using List.rtakeWhile_eq_nil_iff.1 hnil hne
      have hq : q = q.dropLast ++ [slash] := by rw [← hlast, List.dropLast_append_getLast]
      refine ⟨q.dropLast, e, ?_, hmem⟩
      calc q ++ dot :: e = (q.dropLast ++ [slash]) ++ dot :: e := congrArg (· ++ dot :: e) hq
        _ = q.dropLast ++ slash :: dot :: e := by simp
    · rintro ⟨q, e, rfl, hmem⟩
      refine ⟨q ++ [slash], e, by simp, hmem, by simp, ?_⟩
      rw [List.getLast_concat]
      decide
  · rw [sanitizeFilename, Bool.not_eq_true', ← Bool.not_eq_true]

end UploadService

end

end StudyOasis
