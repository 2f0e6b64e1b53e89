import Mathlib.Data.List.Basic

/-!
# Splitting a text that arrives in chunks

`List.splitOn nl` is `split('\n')`.  Two ways of reading the lines of a text that arrives in
chunks:

* a reader that keeps the unfinished line for the next chunk reads the lines of the whole text:
  the lines of `xs ++ ys` are those of `xs`, and those of `ys` behind the last line of `xs`
  (`fullLines_append`);
* a reader that splits every chunk on its own sees the pieces of the lines, in order
  (`flatten_linePieces`), and the pieces of a line make up the line (`map_flatten_linePieces`).
-/

namespace StudyOasis

variable {α β : Type*} [DecidableEq α] [DecidableEq β] {nl : α}

/-- A text is a single line, or a line and the rest of the text. -/
theorem line_induction (nl : α) {P : List α → Prop} (single : ∀ xs, nl ∉ xs → P xs)
    (cons : ∀ a xs, nl ∉ a → P xs → P (a ++ nl :: xs)) (xs : List α) : P xs := by
  by_cases hmem : nl ∈ xs
  · obtain ⟨a, b, hxs, ha⟩ := List.eq_append_cons_of_mem hmem
    have hlt : b.length < xs.length := by
      rw [hxs, List.length_append, List.length_cons]
      omega
    rw [hxs]
    exact cons a b ha (line_induction nl single cons b)
  · exact single xs hmem
termination_by xs.length

/-- The last line of a text. -/
def lastLine (nl : α) (xs : List α) : List α := (xs.splitOn nl).getLast (List.splitOn_ne_nil nl xs)

theorem lastLine_of_not_mem {xs : List α} (h : nl ∉ xs) : lastLine nl xs = xs := by
  simp [lastLine, List.splitOn_eq_singleton h]

theorem lastLine_append_cons {a : List α} (h : nl ∉ a) (xs : List α) :
    lastLine nl (a ++ nl :: xs) = lastLine nl xs := by
  simp only [lastLine, List.splitOn_append_cons_self_of_not_mem h]
  exact List.getLast_cons _

theorem not_mem_lastLine (xs : List α) : nl ∉ lastLine nl xs := by
  induction xs using line_induction nl with
  | single xs h => rwa [lastLine_of_not_mem h]
  | cons a xs h ih => rwa [lastLine_append_cons h]

/-- The lines before the last one. -/
def fullLines (nl : α) (xs : List α) : List (List α) := (xs.splitOn nl).dropLast

theorem fullLines_of_not_mem {xs : List α} (h : nl ∉ xs) : fullLines nl xs = [] := by
  simp [fullLines, List.splitOn_eq_singleton h]

theorem fullLines_append_cons {a : List α} (h : nl ∉ a) (xs : List α) :
    fullLines nl (a ++ nl :: xs) = a :: fullLines nl xs := by
  simp only [fullLines, List.splitOn_append_cons_self_of_not_mem h]
  exact List.dropLast_cons_of_ne_nil (List.splitOn_ne_nil nl xs)

theorem splitOn_eq (xs : List α) : xs.splitOn nl = fullLines nl xs ++ [lastLine nl xs] :=
  (List.dropLast_concat_getLast _).symm

/-- The lines of `xs ++ ys`: the last line of `xs` goes on in `ys`. -/
theorem splitOn_append (nl : α) (xs ys : List α) :
    (xs ++ ys).splitOn nl = fullLines nl xs ++ (lastLine nl xs ++ ys).splitOn nl := by
  induction xs using line_induction nl with
  | single xs h => simp [fullLines_of_not_mem h, lastLine_of_not_mem h]
  | cons a xs h ih =>
    rw [List.append_assoc, List.cons_append, List.splitOn_append_cons_self_of_not_mem h, ih,
      fullLines_append_cons h, lastLine_append_cons h, List.cons_append]

theorem fullLines_append (nl : α) (xs ys : List α) :
    fullLines nl (xs ++ ys) = fullLines nl xs ++ fullLines nl (lastLine nl xs ++ ys) := by
  have h := splitOn_append nl xs ys
  rw [splitOn_eq, splitOn_eq (lastLine nl xs ++ ys), ← List.append_assoc] at h
  exact List.append_inj_left' h rfl

/-- What precedes the first separator is put before the first line. -/
theorem splitOn_append_of_not_mem {a : List α} (h : nl ∉ a) (xs : List α) :
    (a ++ xs).splitOn nl = (xs.splitOn nl).modifyHead (a ++ ·) := by
  induction a with
  | nil => cases hx : xs.splitOn nl <;> simp [hx]
  | cons x a ih =>
    obtain ⟨hx, ha⟩ := not_or.1 (mt List.mem_cons.2 h)
    rw [List.cons_append, List.splitOn_cons_eq_if_modifyHead, ih ha,
      if_neg (by simpa using Ne.symm hx)]
    cases hs : xs.splitOn nl <;> rfl

/-- A map that keeps separators, and makes none, maps the lines. -/
theorem splitOn_map_of_sep {nl' : β} {f : List α → List β}
    (hsep : ∀ a b, f (a ++ nl :: b) = f a ++ nl' :: f b) (hmem : ∀ a, nl ∉ a → nl' ∉ f a)
    (xs : List α) : (f xs).splitOn nl' = (xs.splitOn nl).map f := by
  induction xs using line_induction nl with
  | single xs h => rw [List.splitOn_eq_singleton h, List.splitOn_eq_singleton (hmem xs h)]; rfl
  | cons a xs h ih =>
    rw [hsep, List.splitOn_append_cons_self_of_not_mem (hmem a h), ih,
      List.splitOn_append_cons_self_of_not_mem h, List.map_cons]

/-- The lines of a text that is given as terminated lines. -/
theorem splitOn_flatMap_terminated {ls : List (List α)} (h : ∀ l ∈ ls, nl ∉ l) :
    (ls.flatMap (· ++ [nl])).splitOn nl = ls ++ [[]] := by
  induction ls with
  | nil => rfl
  | cons l ls ih =>
    rw [List.flatMap_cons, List.append_assoc, List.singleton_append,
      List.splitOn_append_cons_self_of_not_mem (h l List.mem_cons_self),
      ih fun l' hl => h l' (List.mem_cons_of_mem l hl), List.cons_append]

/-! ### Splitting every chunk on its own -/

/-- The lines of a text that is cut into chunks, each as the list of its pieces. -/
def linePieces (nl : α) : List (List α) → List (List (List α))
  | [] => [[]]
  | chunk :: chunks =>
    (fullLines nl chunk).map (fun piece => [piece]) ++
      (linePieces nl chunks).modifyHead (lastLine nl chunk :: ·)

theorem linePieces_ne_nil (nl : α) (chunks : List (List α)) : linePieces nl chunks ≠ [] := by
  cases chunks with
  | nil => simp [linePieces]
  | cons chunk chunks => simp [linePieces, linePieces_ne_nil nl chunks]

/-- The pieces of a line make up the line. -/
theorem map_flatten_linePieces (nl : α) (chunks : List (List α)) :
    (linePieces nl chunks).map List.flatten = chunks.flatten.splitOn nl := by
  induction chunks with
  | nil => rfl
  | cons chunk chunks ih =>
    -- the last piece of the chunk goes on in the first line of the others
    obtain ⟨l, ls, hl⟩ := List.exists_cons_of_ne_nil (linePieces_ne_nil nl chunks)
    rw [hl, List.map_cons] at ih
    rw [List.flatten_cons, splitOn_append, splitOn_append_of_not_mem (not_mem_lastLine chunk),
      ← ih]
    simp [linePieces, hl, Function.comp_def]

/-- A reader that splits every chunk sees the pieces of the lines, in order. -/
theorem flatten_linePieces (chunks : List (List α)) :
    (linePieces nl chunks).flatten = chunks.flatMap (·.splitOn nl) := by
  induction chunks with
  | nil => rfl
  | cons chunk chunks ih =>
    obtain ⟨l, ls, hl⟩ := List.exists_cons_of_ne_nil (linePieces_ne_nil nl chunks)
    rw [hl, List.flatten_cons] at ih
    rw [List.flatMap_cons, ← ih, splitOn_eq chunk]
    rw [linePieces, List.flatten_append, ← List.flatMap_def, List.flatMap_singleton', hl]
    simp

end StudyOasis
