import Mathlib.Algebra.Order.Ring.Rat
import Mathlib.Data.Fintype.EquivFin
import StudyOasis.Text.JsString

/-!
# Values of JSON

What `JSON.parse` returns, and what the language does with such a value whatever its shape:
properties, truth, conversion to a string and to a number.  A missing property is `none`, as
`undefined`; a `TypeError` is an error of `Js`.

A value that has been parsed has no functions in it.  So an object that has a property `toString` of
its own cannot be converted, and neither can an array with such an object in it.

* `isOk_toStr`, `isOk_toNumber`, `isOk_plus` : which values can be converted, and added;
* `isOk_bind`, `isOk_mapM`, `isOk_foldlM`, `isOk_filterJs` : when a computation throws nothing.
-/

namespace StudyOasis

/-- A number: the value of a double. -/
inductive JsNumber where
  | finite (q : ℚ)
  | posInf
  | negInf
  | nan
  deriving DecidableEq

/-- What `JSON.parse` returns; an object has its own properties, each once. -/
inductive JsonValue where
  | null
  | bool (b : Bool)
  | num (n : JsNumber)
  | str (s : JsString)
  | arr (items : List JsonValue)
  | obj (fields : List (JsString × JsonValue))

/-- What an engine makes of texts and numbers. -/
structure JsEngine where
  /-- `JSON.parse`; a text that is not JSON is `none`. -/
  parse : JsString → Option JsonValue
  /-- `JSON.stringify`. -/
  stringify : JsonValue → JsString
  /-- `String(n)`. -/
  numberToString : JsNumber → JsString
  /-- `Number(s)`. -/
  stringToNumber : JsString → JsNumber
  /-- `x + y`, in doubles. -/
  add : JsNumber → JsNumber → JsNumber
  /-- `x - y`. -/
  sub : JsNumber → JsNumber → JsNumber
  /-- `x * y`. -/
  mul : JsNumber → JsNumber → JsNumber
  /-- `x / y`. -/
  div : JsNumber → JsNumber → JsNumber
  /-- `Math.round(x)`. -/
  round : JsNumber → JsNumber

/-- An operation on numbers whose results are doubles. -/
def JsNumber.exact (op : ℚ → ℚ → ℚ) : JsNumber → JsNumber → JsNumber
  | finite p, finite q => finite (op p q)
  | _, _ => nan

/-- An engine for runs in which no result is rounded and no text is a number. -/
def JsEngine.exact (parse : JsString → Option JsonValue) (stringify : JsonValue → JsString) :
    JsEngine where
  parse
  stringify
  numberToString _ := js "NaN"
  stringToNumber _ := .nan
  add := JsNumber.exact (· + ·)
  sub := JsNumber.exact (· - ·)
  mul := JsNumber.exact (· * ·)
  div := JsNumber.exact (· / ·)
  round x := JsNumber.exact (fun p q => (p + q).floor) x (.finite (1 / 2))

/-- A `TypeError`. -/
structure TypeError where
  deriving DecidableEq

/-- A computation that may throw one. -/
abbrev Js (α : Type) := Except TypeError α

namespace JsNumber

/-- `m < n`. -/
def lt : JsNumber → JsNumber → Bool
  | nan, _ => false
  | _, nan => false
  | finite p, finite q => p < q
  | negInf, n => n ≠ negInf
  | finite _, n => n = posInf
  | posInf, _ => false

theorem lt_finite_mono {n : JsNumber} {p q : ℚ} (h : p ≤ q) (hn : n.lt (finite p) = true) :
    n.lt (finite q) = true := by
  cases n with
  | finite m => exact decide_eq_true (lt_of_lt_of_le (of_decide_eq_true hn) h)
  | negInf => rfl
  | posInf => exact hn
  | nan => exact hn

/-- `Math.min(m, n)`. -/
def min (m n : JsNumber) : JsNumber :=
  if m = nan ∨ n = nan then nan else if n.lt m then n else m

/-- `Math.max(m, n)`. -/
def max (m n : JsNumber) : JsNumber :=
  if m = nan ∨ n = nan then nan else if m.lt n then n else m

/-- `Number.isInteger(n) && n > 0`. -/
def isPositiveInteger : JsNumber → Bool
  | finite q => q.den = 1 && 0 < q
  | _ => false

end JsNumber

namespace JsonValue

/-- `!!value`. -/
def isTruthy : JsonValue → Bool
  | null => false
  | bool b => b
  | num n => n ≠ .finite 0 && n ≠ .nan
  | str s => s ≠ []
  | arr _ => true
  | obj _ => true

/-- `typeof value === 'object'`. -/
def typeofObject : JsonValue → Bool
  | null => true
  | arr _ => true
  | obj _ => true
  | _ => false

/-- The own property of the value under a name that is no index. -/
def property (name : JsString) : JsonValue → Option JsonValue
  | obj fields => fields.lookup name
  | _ => none

/-- `value[name]`, for a name that no prototype has. -/
def get (name : JsString) : JsonValue → Js (Option JsonValue)
  | null => throw ⟨⟩
  | value => pure (value.property name)

/-- `value.length`. -/
def length : JsonValue → Js (Option JsonValue)
  | null => throw ⟨⟩
  | str s => pure (some (num (.finite s.length)))
  | arr items => pure (some (num (.finite items.length)))
  | obj fields => pure (fields.lookup (js "length"))
  | _ => pure none

/-- The items of an array, for a call of one of its methods: no other value has it. -/
def items : JsonValue → Js (List JsonValue)
  | arr items => pure items
  | _ => throw ⟨⟩

/-! ### Conversion -/

/-- The value can be converted to a string and to a number: no object in it, outside other
objects, has a `toString` of its own. -/
def convertible : JsonValue → Bool
  | arr items => allConvertible items
  | obj fields => (fields.lookup (js "toString")).isNone
  | _ => true
where
  /-- The items of an array can be converted. -/
  allConvertible : List JsonValue → Bool
    | [] => true
    | item :: items => item.convertible && allConvertible items

variable (engine : JsEngine)

/-- `String(value)`. -/
def toStr : JsonValue → Js JsString
  | null => pure (js "null")
  | bool b => pure (js (toString b))
  | num n => pure (engine.numberToString n)
  | str s => pure s
  | arr items => (List.intercalate (js ",")) <$> itemTexts items
  | obj fields =>
    if (fields.lookup (js "toString")).isSome then throw ⟨⟩ else pure (js "[object Object]")
where
  /-- What `join` puts together. -/
  itemTexts : List JsonValue → Js (List JsString)
    | [] => pure []
    | null :: items => (fun texts => [] :: texts) <$> itemTexts items
    | item :: items => do
      let text ← item.toStr
      let texts ← itemTexts items
      pure (text :: texts)

/-- `Number(value)`: an object and an array by their string. -/
def toNumber : JsonValue → Js JsNumber
  | null => pure (.finite 0)
  | bool b => pure (.finite (if b then 1 else 0))
  | num n => pure n
  | str s => pure (engine.stringToNumber s)
  | value => engine.stringToNumber <$> value.toStr engine

end JsonValue

/-- `Number(value)` of a property that may be missing. -/
def numberOf (engine : JsEngine) : Option JsonValue → Js JsNumber
  | none => pure .nan
  | some value => value.toNumber engine

/-- What `||` leaves of a property: a value that is truthy. -/
def truthyValue (value : Option JsonValue) : Option JsonValue := value.filter JsonValue.isTruthy

/-- `value.length` of a property that may be missing. -/
def lengthOf : Option JsonValue → Js (Option JsonValue)
  | none => throw ⟨⟩
  | some value => value.length

/-- `value === text`. -/
def equalsText (text : JsString) : Option JsonValue → Bool
  | some (.str s) => s = text
  | _ => false

/-- `String(value)` of a property that may be missing. -/
def textOf (engine : JsEngine) : Option JsonValue → Js JsString
  | none => pure (js "undefined")
  | some value => value.toStr engine

/-- `+` joins the value as a text: objects and arrays are converted to one. -/
def joinsText : Option JsonValue → Bool
  | some (.str _) => true
  | some (.arr _) => true
  | some (.obj _) => true
  | _ => false

/-- What `+` returns. -/
inductive JsSum where
  | num (n : JsNumber)
  | str (s : JsString)
  deriving DecidableEq

/-- `sum + value`. -/
def JsSum.plus (engine : JsEngine) : JsSum → Option JsonValue → Js JsSum
  | str s, value => (fun text => str (s ++ text)) <$> textOf engine value
  | num n, value =>
    if joinsText value then
      (fun text => str (engine.numberToString n ++ text)) <$> textOf engine value
    else (fun m => num (engine.add n m)) <$> numberOf engine value

/-- `filter` with a callback that may throw. -/
def filterJs {α : Type} (p : α → Js Bool) : List α → Js (List α)
  | [] => pure []
  | a :: l => do
    let keep ← p a
    let kept ← filterJs p l
    pure (if keep then a :: kept else kept)

/-- `find` with a callback that may throw. -/
def findJs {α : Type} (p : α → Js Bool) : List α → Js (Option α)
  | [] => pure none
  | a :: l => do if ← p a then pure (some a) else findJs p l

/-! ### What throws -/

section

variable {α β γ : Type} {x : Js α} {f : α → Js β}

theorem bind_eq_ok {b : β} : x >>= f = .ok b ↔ ∃ a, x = .ok a ∧ f a = .ok b := by
  cases x with
  | error e => exact iff_of_false (fun h => (by cases h)) fun ⟨_, h, _⟩ => (by cases h)
  | ok a => exact ⟨fun h => ⟨a, rfl, h⟩, fun ⟨_, h, h'⟩ => (by cases h; exact h')⟩

theorem map_eq_ok {g : α → β} {b : β} : g <$> x = .ok b ↔ ∃ a, x = .ok a ∧ g a = b := by
  cases x with
  | error e => exact iff_of_false (fun h => (by cases h)) fun ⟨_, h, _⟩ => (by cases h)
  | ok a =>
    constructor
    · exact fun h => ⟨a, rfl, Except.ok.inj h⟩
    · rintro ⟨_, h, rfl⟩
      cases h
      rfl

theorem isOk_iff : x.isOk = true ↔ ∃ a, x = .ok a := by
  cases x with
  | error e => exact iff_of_false Bool.false_ne_true fun ⟨_, h⟩ => (by cases h)
  | ok a => exact iff_of_true rfl ⟨a, rfl⟩

theorem isOk_bind : (x >>= f).isOk = true ↔ ∃ a, x = .ok a ∧ (f a).isOk = true := by
  simp only [isOk_iff, bind_eq_ok]
  exact ⟨fun ⟨b, a, h, h'⟩ => ⟨a, h, b, h'⟩, fun ⟨a, h, b, h'⟩ => ⟨b, a, h, h'⟩⟩

theorem isOk_bind_of_eq {a : α} (h : x = .ok a) : (x >>= f).isOk = (f a).isOk := by
  rw [h]
  rfl

/-- A loop with an accumulator throws nothing when no item does, whatever the accumulator is. -/
theorem isOk_foldlM {f : β → α → Js β} {P : α → Prop} (hf : ∀ b a, (f b a).isOk = true ↔ P a)
    (b : β) (l : List α) : (l.foldlM f b).isOk = true ↔ ∀ a ∈ l, P a := by
  induction l generalizing b with
  | nil => exact iff_of_true rfl fun a ha => absurd ha List.not_mem_nil
  | cons a l ih =>
    rw [List.foldlM_cons, List.forall_mem_cons, ← hf b a]
    cases h : f b a with
    | error e => exact iff_of_false Bool.false_ne_true fun h => (by cases h.1)
    | ok b' => exact (ih b').trans (and_iff_right rfl).symm

@[simp] theorem isOk_pure (a : α) : (pure a : Js α).isOk = true := rfl

@[simp] theorem isOk_map (g : α → β) : (g <$> x).isOk = x.isOk := by
  cases x <;> rfl

/-- Two computations, one after the other. -/
theorem isOk_seq (x : Js α) (y : Js β) (g : α → β → γ) :
    (do let a ← x; let b ← y; pure (g a b) : Js γ).isOk = (x.isOk && y.isOk) := by
  cases x <;> cases y <;> rfl

/-- A loop throws nothing when no item does. -/
theorem isOk_mapM {f : α → Js β} {l : List α} :
    (l.mapM f).isOk = true ↔ ∀ a ∈ l, (f a).isOk = true := by
  induction l with
  | nil => simp
  | cons a l ih =>
    rw [List.mapM_cons, isOk_seq, Bool.and_eq_true, ih, List.forall_mem_cons]

/-- A loop that throws nothing returns the results of its items. -/
theorem mapM_eq_ok {l : List α} {bs : List β} {f : α → Js β} (h : l.mapM f = .ok bs) :
    List.Forall₂ (fun a b => f a = .ok b) l bs := by
  induction l generalizing bs with
  | nil =>
    cases h
    exact .nil
  | cons a l ih =>
    rw [List.mapM_cons] at h
    obtain ⟨b, ha, h⟩ := bind_eq_ok.1 h
    obtain ⟨bs, hl, h⟩ := bind_eq_ok.1 h
    cases h
    exact .cons ha (ih hl)

theorem mem_mapM_iff {l : List α} {bs : List β} {f : α → Js β} (h : l.mapM f = .ok bs) (b : β) :
    b ∈ bs ↔ ∃ a ∈ l, f a = .ok b := by
  have hall := mapM_eq_ok h
  clear h
  induction hall with
  | nil => simp
  | @cons a b' l bs hab _ ih => simp [ih, hab, eq_comm]

/-- `filter` throws when the callback does for an item. -/
theorem isOk_filterJs {p : α → Js Bool} {l : List α} :
    (filterJs p l).isOk = true ↔ ∀ a ∈ l, (p a).isOk = true := by
  induction l with
  | nil => simp [filterJs]
  | cons a l ih => rw [filterJs, isOk_seq, Bool.and_eq_true, ih, List.forall_mem_cons]

theorem filterJs_eq {p : α → Js Bool} {q : α → Bool} {l : List α}
    (h : ∀ a ∈ l, p a = .ok (q a)) : filterJs p l = .ok (l.filter q) := by
  induction l with
  | nil => rfl
  | cons a l ih =>
    rw [filterJs, h a List.mem_cons_self, ih fun b hb => h b (List.mem_cons_of_mem a hb),
      List.filter_cons]
    rfl

theorem findJs_eq {p : α → Js Bool} {q : α → Bool} {l : List α}
    (h : ∀ a ∈ l, p a = .ok (q a)) : findJs p l = .ok (l.find? q) := by
  induction l with
  | nil => rfl
  | cons a l ih =>
    rw [findJs, h a List.mem_cons_self, List.find?_cons]
    cases q a with
    | true => rfl
    | false => exact ih fun b hb => h b (List.mem_cons_of_mem a hb)

/-- `find` throws nothing when the callback does not. -/
theorem isOk_findJs_of_forall {p : α → Js Bool} {l : List α} (h : ∀ a ∈ l, (p a).isOk = true) :
    (findJs p l).isOk = true := by
  induction l with
  | nil => rfl
  | cons a l ih =>
    obtain ⟨found, ha⟩ := isOk_iff.1 (h a List.mem_cons_self)
    rw [findJs, ha]
    cases found with
    | true => rfl
    | false => exact ih fun b hb => h b (List.mem_cons_of_mem a hb)

/-- A `find` that finds nothing has called the callback for each item. -/
theorem isOk_of_findJs {p : α → Js Bool} {l : List α} (hnone : ∀ a ∈ l, p a ≠ .ok true)
    (h : (findJs p l).isOk = true) : ∀ a ∈ l, (p a).isOk = true := by
  induction l with
  | nil => exact fun a ha => absurd ha List.not_mem_nil
  | cons a l ih =>
    rw [findJs] at h
    obtain ⟨found, ha, h⟩ := isOk_bind.1 h
    cases found with
    | true => exact absurd ha (hnone a List.mem_cons_self)
    | false =>
      refine List.forall_mem_cons.2 ⟨isOk_iff.2 ⟨_, ha⟩, ?_⟩
      exact ih (fun b hb => hnone b (List.mem_cons_of_mem a hb)) h

theorem mapM_of_forall {l : List α} {f : α → Js β} {g : α → β} (h : ∀ a ∈ l, f a = .ok (g a)) :
    l.mapM f = .ok (l.map g) := by
  induction l with
  | nil => rfl
  | cons a l ih =>
    rw [List.mapM_cons, h a List.mem_cons_self, ih fun b hb => h b (List.mem_cons_of_mem a hb)]
    rfl

end

namespace JsonValue

/-- Induction over the items of arrays and the properties of objects. -/
theorem induction {P : JsonValue → Prop} (null : P null) (bool : ∀ b, P (bool b))
    (num : ∀ n, P (num n)) (str : ∀ s, P (str s))
    (arr : ∀ items, (∀ v ∈ items, P v) → P (arr items))
    (obj : ∀ fields, (∀ p ∈ fields, P p.2) → P (obj fields)) (v : JsonValue) : P v := by
  refine @JsonValue.rec P (fun items => ∀ v ∈ items, P v) (fun fields => ∀ p ∈ fields, P p.2)
    (fun p => P p.2) null bool num str arr obj ?_ ?_ ?_ ?_ ?_ v
  · exact fun _ h => absurd h List.not_mem_nil
  · intro head tail hhead htail v hv
    rcases List.mem_cons.1 hv with rfl | hv
    · exact hhead
    · exact htail v hv
  · exact fun _ h => absurd h List.not_mem_nil
  · intro head tail hhead htail p hp
    rcases List.mem_cons.1 hp with rfl | hp
    · exact hhead
    · exact htail p hp
  · exact fun _ _ h => h

/-- **The values that can be converted to a string.** -/
theorem isOk_toStr (engine : JsEngine) (v : JsonValue) :
    (v.toStr engine).isOk = v.convertible := by
  induction v using JsonValue.induction with
  | null => rfl
  | bool b => rfl
  | num n => rfl
  | str s => rfl
  | arr items ih =>
    rw [toStr, isOk_map, convertible]
    induction items with
    | nil => rfl
    | cons item items ih' =>
      have hitem := ih item List.mem_cons_self
      have hitems := ih' fun v hv => ih v (List.mem_cons_of_mem item hv)
      rw [convertible.allConvertible, ← hitem, ← hitems]
      cases item with
      | null => exact isOk_map _
      | _ => exact isOk_seq _ _ _
  | obj fields ih =>
    rw [toStr, convertible]
    cases fields.lookup (js "toString") <;> rfl

theorem isOk_toNumber (engine : JsEngine) (v : JsonValue) :
    (v.toNumber engine).isOk = v.convertible := by
  cases v with
  | arr items => exact (isOk_map _).trans (isOk_toStr engine (arr items))
  | obj fields => exact (isOk_map _).trans (isOk_toStr engine (obj fields))
  | _ => rfl

end JsonValue

/-- `null` has no properties. -/
theorem JsonValue.get_of_ne_null {v : JsonValue} (h : v ≠ .null) (name : JsString) :
    v.get name = .ok (v.property name) := by
  cases v with
  | null => exact absurd rfl h
  | _ => rfl

theorem JsonValue.isOk_get {v : JsonValue} {name : JsString} :
    (v.get name).isOk = true ↔ v ≠ .null := by
  cases v with
  | null => exact iff_of_false Bool.false_ne_true fun h => h rfl
  | _ => exact iff_of_true rfl fun h => (by cases h)

theorem JsonValue.items_eq_ok {v : JsonValue} {items : List JsonValue} :
    v.items = .ok items ↔ v = .arr items := by
  cases v with
  | arr items' => simp [JsonValue.items, pure, Except.pure]
  | _ => exact iff_of_false (fun h => (by cases h)) fun h => (by cases h)

/-- The text of a value, if it is one. -/
def textIn : Option JsonValue → JsString
  | some (.str s) => s
  | _ => []

/-- A text that none of the values is. -/
theorem exists_ne_text (values : List (Option JsonValue)) :
    ∃ id : JsString, ∀ value ∈ values, equalsText id value = false := by
  obtain ⟨id, hid⟩ := Infinite.exists_notMem_finset (values.map textIn).toFinset
  refine ⟨id, fun value hvalue => ?_⟩
  have hne : textIn value ≠ id := by
    rintro rfl
    exact hid (List.mem_toFinset.2 (List.mem_map_of_mem hvalue))
  unfold equalsText
  split
  · exact decide_eq_false hne
  · rfl

theorem isOk_textOf (engine : JsEngine) (value : Option JsonValue) :
    (textOf engine value).isOk = value.all JsonValue.convertible := by
  cases value with
  | none => rfl
  | some v => exact v.isOk_toStr engine

theorem isOk_numberOf (engine : JsEngine) (value : Option JsonValue) :
    (numberOf engine value).isOk = value.all JsonValue.convertible := by
  cases value with
  | none => rfl
  | some v => exact v.isOk_toNumber engine

/-- **Whatever the sum is**, a value can be added to it when it can be converted. -/
theorem isOk_plus (engine : JsEngine) (sum : JsSum) (value : Option JsonValue) :
    (sum.plus engine value).isOk = value.all JsonValue.convertible := by
  cases sum with
  | str s => rw [JsSum.plus, isOk_map, isOk_textOf]
  | num n =>
    rw [JsSum.plus]
    split_ifs
    · rw [isOk_map, isOk_textOf]
    · rw [isOk_map, isOk_numberOf]

end StudyOasis
