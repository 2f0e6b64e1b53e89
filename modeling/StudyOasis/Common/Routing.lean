import Mathlib.Data.List.Nodup

/-!
# First-match dispatch

Handlers with patterns that are tried in turn.  A pattern is a list of literals and parameters, and
the segments of a path are compared with its literals by a key.

* `fit_fill` : a pattern reads back the parameters it was filled with;
* `dispatch_fill_iff` : a handler is reached with its parameters exactly if the path fits no pattern
  before its own, as it does not if they are apart (`fit_fill_of_apart`);
* `dispatch_ne_of_covers` : a handler is not reached at all if a pattern before its own covers it.
-/

namespace StudyOasis

namespace Routing

/-- A segment of a pattern. -/
inductive Segment (T : Type*) where
  | literal (text : T)
  | param
  deriving DecidableEq

/-- How the segments of a path are compared.  A segment with a blank key is no parameter. -/
structure Comparison (T K : Type*) where
  key : T → K
  blank : K

variable {T K H : Type*} [DecidableEq K] (c : Comparison T K)

/-- The parameters of a path, if it fits the pattern. -/
def fit : List (Segment T) → List T → Option (List T)
  | [], [] => some []
  | .literal s :: p, t :: path => if c.key s = c.key t then fit p path else none
  | .param :: p, t :: path => if c.key t = c.blank then none else (fit p path).map (t :: ·)
  | _, _ => none

/-- The first handler whose pattern the path fits, and the parameters. -/
def dispatch (pattern : H → List (Segment T)) : List H → List T → Option (H × List T)
  | [], _ => none
  | handler :: handlers, path =>
    match fit c (pattern handler) path with
    | some params => some (handler, params)
    | none => dispatch pattern handlers path

/-- The path that a pattern makes of parameters. -/
def fill : List (Segment T) → List T → List T
  | [], _ => []
  | .literal t :: p, params => t :: fill p params
  | .param :: p, t :: params => t :: fill p params
  | .param :: _, [] => []

/-- How many parameters the pattern has. -/
def holes : List (Segment T) → ℕ
  | [] => 0
  | .literal _ :: p => holes p
  | .param :: p => holes p + 1

/-- Every path that fits `p` fits `q`. -/
def covers : List (Segment T) → List (Segment T) → Bool
  | [], [] => true
  | .literal s :: q, .literal t :: p => c.key s = c.key t && covers q p
  | .param :: q, .literal t :: p => c.key t ≠ c.blank && covers q p
  | .param :: q, .param :: p => covers q p
  | _, _ => false

/-- No path fits both patterns. -/
def apart : List (Segment T) → List (Segment T) → Bool
  | [], [] => false
  | .literal s :: q, .literal t :: p => c.key s ≠ c.key t || apart q p
  | .literal _ :: q, .param :: p => apart q p
  | .param :: q, .literal _ :: p => apart q p
  | .param :: q, .param :: p => apart q p
  | _, _ => true

variable {c} {p q : List (Segment T)} {path params : List T}

theorem fit_fill (hlength : params.length = holes p) (hparams : ∀ t ∈ params, c.key t ≠ c.blank) :
    fit c p (fill p params) = some params := by
  induction p generalizing params with
  | nil =>
    obtain rfl := List.length_eq_zero_iff.1 hlength
    rfl
  | cons segment p ih =>
    cases segment with
    | literal t => rw [fill, fit, if_pos rfl, ih hlength hparams]
    | param =>
      cases params with
      | nil => cases hlength
      | cons t params =>
        obtain ⟨ht, hparams⟩ := List.forall_mem_cons.1 hparams
        rw [fill, fit, if_neg ht, ih (Nat.succ.inj hlength) hparams, Option.map_some]

theorem mem_fill {t : T} (h : t ∈ fill p params) : t ∈ params ∨ .literal t ∈ p := by
  induction p generalizing params with
  | nil => cases h
  | cons segment p ih =>
    cases segment with
    | literal s =>
      rcases List.mem_cons.1 h with rfl | h
      · exact .inr List.mem_cons_self
      · exact (ih h).imp_right (List.mem_cons_of_mem _)
    | param =>
      cases params with
      | nil => cases h
      | cons s params =>
        rcases List.mem_cons.1 h with rfl | h
        · exact .inl List.mem_cons_self
        · exact (ih h).imp (List.mem_cons_of_mem _) (List.mem_cons_of_mem _)

@[simp]
theorem isSome_fit_literal {s t : T} :
    (fit c (.literal s :: p) (t :: path)).isSome = true ↔
      c.key s = c.key t ∧ (fit c p path).isSome = true := by
  rw [fit]
  split_ifs with h <;> simp [h]

@[simp]
theorem isSome_fit_param {t : T} :
    (fit c (.param :: p) (t :: path)).isSome = true ↔
      c.key t ≠ c.blank ∧ (fit c p path).isSome = true := by
  rw [fit]
  split_ifs with h <;> simp [h]

theorem fit_cons_nil (segment : Segment T) : fit c (segment :: p) [] = none := by
  cases segment <;> rfl

/-- A path that fits two patterns is no evidence that they are apart. -/
theorem apart_eq_false (hp : (fit c p path).isSome = true) (hq : (fit c q path).isSome = true) :
    apart c q p = false := by
  induction q generalizing p path with
  | nil =>
    cases path with
    | nil =>
      cases p with
      | nil => rfl
      | cons r p => simp [fit_cons_nil] at hp
    | cons t path => cases hq
  | cons s q ih =>
    cases path with
    | nil => simp [fit_cons_nil] at hq
    | cons t path =>
      cases p with
      | nil => cases hp
      | cons r p =>
        cases s <;> cases r <;> simp only [isSome_fit_literal, isSome_fit_param] at hp hq <;>
          simp [apart, ih hp.2 hq.2]
        exact hq.1.trans hp.1.symm

theorem fit_fill_of_apart (hlength : params.length = holes p)
    (hparams : ∀ t ∈ params, c.key t ≠ c.blank) (h : apart c q p = true) :
    fit c q (fill p params) = none := by
  by_contra hne
  have hfit := Option.isSome_of_eq_some (fit_fill hlength hparams)
  have hboth := apart_eq_false hfit (Option.isSome_iff_ne_none.2 hne)
  exact absurd (hboth.symm.trans h) nofun

theorem fit_isSome_of_covers (h : covers c q p = true) (hp : (fit c p path).isSome = true) :
    (fit c q path).isSome = true := by
  induction q generalizing p path with
  | nil =>
    cases p with
    | nil => exact hp
    | cons r p => cases r <;> cases h
  | cons s q ih =>
    cases p with
    | nil => cases s <;> cases h
    | cons r p =>
      cases path with
      | nil => simp [fit_cons_nil] at hp
      | cons t path =>
        cases s with
        | literal s =>
          cases r with
          | literal r =>
            obtain ⟨hsr, hcovers⟩ := Bool.and_eq_true_iff.1 h
            obtain ⟨hrt, hp⟩ := isSome_fit_literal.1 hp
            exact isSome_fit_literal.2 ⟨(of_decide_eq_true hsr).trans hrt, ih hcovers hp⟩
          | param => cases h
        | param =>
          cases r with
          | literal r =>
            obtain ⟨hr, hcovers⟩ := Bool.and_eq_true_iff.1 h
            obtain ⟨hrt, hp⟩ := isSome_fit_literal.1 hp
            exact isSome_fit_param.2 ⟨hrt ▸ of_decide_eq_true hr, ih hcovers hp⟩
          | param =>
            obtain ⟨ht, hp⟩ := isSome_fit_param.1 hp
            exact isSome_fit_param.2 ⟨ht, ih h hp⟩

/-! ### Handlers in turn -/

/-- A list without repetition splits in one way at each of its elements. -/
theorem append_cons_inj_of_nodup {α : Type*} {a : α} {xs ys xs' ys' : List α}
    (h : (xs ++ a :: ys).Nodup) (heq : xs ++ a :: ys = xs' ++ a :: ys') : xs = xs' ∧ ys = ys' := by
  obtain ⟨hnot, hnot'⟩ : a ∉ xs ∧ a ∉ ys := by
    simpa using (List.nodup_cons.1 (List.nodup_middle.1 h)).1
  obtain ⟨hxs, -, hys⟩ := (List.append_cons_inj_of_notMem hnot hnot').1 heq
  exact ⟨hxs, hys⟩

variable {pattern : H → List (Segment T)} {before after handlers : List H} {handler : H}

theorem dispatch_append_of_none (h : ∀ g ∈ before, fit c (pattern g) path = none) :
    dispatch c pattern (before ++ after) path = dispatch c pattern after path := by
  induction before with
  | nil => rfl
  | cons g before ih =>
    obtain ⟨hg, hbefore⟩ := List.forall_mem_cons.1 h
    rw [List.cons_append, dispatch, hg, ih hbefore]

/-- A list is what stands before an element, the element, and the rest. -/
theorem takeWhile_append_cons_tail {α : Type*} [DecidableEq α] {a : α} {xs : List α}
    (h : a ∈ xs) : xs.takeWhile (· ≠ a) ++ a :: (xs.dropWhile (· ≠ a)).tail = xs := by
  induction xs with
  | nil => cases h
  | cons x xs ih =>
    by_cases hx : x = a
    · simp [hx]
    · have hmem : a ∈ xs := (List.mem_cons.1 h).resolve_left (Ne.symm hx)
      simpa [hx] using ih hmem

/-- What is dispatched fits the pattern of the handler, and none before it. -/
theorem dispatch_eq_some_iff :
    dispatch c pattern handlers path = some (handler, params) ↔
      ∃ before after, handlers = before ++ handler :: after ∧
        fit c (pattern handler) path = some params ∧
        ∀ g ∈ before, fit c (pattern g) path = none := by
  constructor
  · intro h
    induction handlers with
    | nil => cases h
    | cons g handlers ih =>
      cases hg : fit c (pattern g) path with
      | some params' =>
        rw [dispatch, hg] at h
        cases h
        exact ⟨[], handlers, rfl, hg, nofun⟩
      | none =>
        rw [dispatch, hg] at h
        obtain ⟨before, after, rfl, hfit, hbefore⟩ := ih h
        exact ⟨g :: before, after, rfl, hfit, List.forall_mem_cons.2 ⟨hg, hbefore⟩⟩
  · rintro ⟨before, after, rfl, hfit, hbefore⟩
    rw [dispatch_append_of_none hbefore, dispatch, hfit]

/-- **A handler is reached with its parameters** exactly if the path fits no pattern before its
own. -/
theorem dispatch_fill_iff (hnodup : (before ++ handler :: after).Nodup)
    (hlength : params.length = holes (pattern handler))
    (hparams : ∀ t ∈ params, c.key t ≠ c.blank) :
    dispatch c pattern (before ++ handler :: after) (fill (pattern handler) params) =
        some (handler, params) ↔
      ∀ g ∈ before, fit c (pattern g) (fill (pattern handler) params) = none := by
  constructor
  · intro heq
    obtain ⟨before', after', hsplit, -, hbefore⟩ := dispatch_eq_some_iff.1 heq
    obtain rfl := (append_cons_inj_of_nodup hnodup hsplit).1
    exact hbefore
  · intro h
    exact dispatch_eq_some_iff.2 ⟨before, after, rfl, fit_fill hlength hparams, h⟩

/-- **A handler is not reached at all** if a pattern before its own covers it. -/
theorem dispatch_ne_of_covers (hnodup : (before ++ handler :: after).Nodup) {g : H}
    (hg : g ∈ before) (hcovers : covers c (pattern g) (pattern handler) = true)
    (path params : List T) :
    dispatch c pattern (before ++ handler :: after) path ≠ some (handler, params) := by
  intro heq
  obtain ⟨before', after', hsplit, hfit, hbefore⟩ := dispatch_eq_some_iff.1 heq
  obtain rfl := (append_cons_inj_of_nodup hnodup hsplit).1
  have hsome := fit_isSome_of_covers hcovers (Option.isSome_of_eq_some hfit)
  rw [hbefore g hg] at hsome
  cases hsome

end Routing

end StudyOasis
