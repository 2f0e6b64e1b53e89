import StudyOasis.Text.Utf16

/-!
# Query strings

A query string is made of `name=value` parts.  Whoever writes one leaves some of the bytes of a
text as they are and writes the others with two hexadecimal digits; `URLSearchParams` and
`encodeURIComponent` leave different ones.  The browser adds digits of its own when the query
becomes part of a URL.  Whoever reads the query (`querystring.parse`, `URLSearchParams`) splits it,
and then undoes the digits.

* `parse_urlQuery` : every part is read as what was written for it;
* `parse_serialize` : **the parts that are read are those that were written**, whatever characters
  are in them.
-/

namespace StudyOasis

namespace FormUrl

/-- A hexadecimal digit. -/
def hexDigit (n : ℕ) : Char := if n < 10 then Char.ofNat (48 + n) else Char.ofNat (55 + n)

/-- The value of a hexadecimal digit. -/
def hexValue (c : Char) : Option ℕ :=
  if 48 ≤ c.toNat ∧ c.toNat ≤ 57 then some (c.toNat - 48)
  else if 65 ≤ c.toNat ∧ c.toNat ≤ 70 then some (c.toNat - 55)
  else if 97 ≤ c.toNat ∧ c.toNat ≤ 102 then some (c.toNat - 87)
  else none

/-- The byte of two digits. -/
def hexByte (a b : Char) : Option UInt8 := do
  let high ← hexValue a
  let low ← hexValue b
  return .ofNat (16 * high + low)

/-- A byte with two digits. -/
def percent (b : UInt8) : List Char := ['%', hexDigit (b.toNat / 16), hexDigit (b.toNat % 16)]

/-- The code of a visible ASCII character other than `#`, `%`, `&`, `+` and `=`. -/
def Plain (n : ℕ) : Prop :=
  32 < n ∧ n < 127 ∧ n ≠ 35 ∧ n ≠ 37 ∧ n ≠ 38 ∧ n ≠ 43 ∧ n ≠ 61

/-- How a text is written: which bytes stay as they are. -/
structure Encoder where
  /-- A blank becomes a plus. -/
  blankAsPlus : Bool
  /-- The bytes that are left as they are. -/
  keeps : UInt8 → Bool
  /-- A byte that is left is no sign of the notation. -/
  keeps_plain : ∀ b, keeps b = true → Plain b.toNat

/-- A letter or a digit. -/
def isAlphanumeric (n : ℕ) : Bool :=
  48 ≤ n && n ≤ 57 || 65 ≤ n && n ≤ 90 || 97 ≤ n && n ≤ 122

theorem plain_of_isAlphanumeric {n : ℕ} (h : isAlphanumeric n = true) : Plain n := by
  simp only [isAlphanumeric, Bool.or_eq_true, Bool.and_eq_true, decide_eq_true_eq] at h
  unfold Plain
  omega

/-- `URLSearchParams.prototype.toString`: letters, digits and `*-._` stay. -/
def searchParams : Encoder where
  blankAsPlus := true
  keeps b := isAlphanumeric b.toNat || [42, 45, 46, 95].contains b.toNat
  keeps_plain b h := by
    rcases Bool.or_eq_true_iff.1 h with h | h
    · exact plain_of_isAlphanumeric h
    · simp only [List.contains_eq_mem, decide_eq_true_eq, List.mem_cons, List.not_mem_nil,
        or_false] at h
      unfold Plain
      omega

/-- `encodeURIComponent`: letters, digits and `-_.!~*'()` stay. -/
def uriComponent : Encoder where
  blankAsPlus := false
  keeps b := isAlphanumeric b.toNat || [33, 39, 40, 41, 42, 45, 46, 95, 126].contains b.toNat
  keeps_plain b h := by
    rcases Bool.or_eq_true_iff.1 h with h | h
    · exact plain_of_isAlphanumeric h
    · simp only [List.contains_eq_mem, decide_eq_true_eq, List.mem_cons, List.not_mem_nil,
        or_false] at h
      unfold Plain
      omega

variable (enc : Encoder)

/-- A byte as it is written. -/
def escapeByte (b : UInt8) : List Char :=
  if enc.blankAsPlus && b = 32 then ['+']
  else if enc.keeps b then [Char.ofNat b.toNat]
  else percent b

/-- Bytes as they are written. -/
def escape (bs : List UInt8) : List Char := bs.flatMap (escapeByte enc)

/-- A text as it is written. -/
def escapeText (s : JsString) : List Char := escape enc (Utf8.encode (Utf16.decode s))

/-- `name=value`. -/
def escapePair (p : JsString × JsString) : List Char :=
  escapeText enc p.1 ++ '=' :: escapeText enc p.2

/-- The query string of the given parts. -/
def serialize (pairs : List (JsString × JsString)) : List Char :=
  ['&'].intercalate (pairs.map (escapePair enc))

/-- The byte of a character that is not a percent sign. -/
def plainByte (c : Char) : UInt8 := if c = '+' then 32 else .ofNat c.toNat

/-- Undo the digits; a percent sign without two digits stays. -/
def unescape : List Char → List UInt8
  | c :: a :: b :: s =>
    if c = '%' then
      match hexByte a b with
      | some byte => byte :: unescape s
      | none => 37 :: unescape (a :: b :: s)
    else plainByte c :: unescape (a :: b :: s)
  | c :: s => plainByte c :: unescape s
  | [] => []

/-- The text that is read. -/
def unescapeText (cs : List Char) : JsString := Utf16.encode (Utf8.decode (unescape cs))

/-- One part, cut at the first `=`. -/
def parsePair (part : List Char) : JsString × JsString :=
  (unescapeText (part.takeWhile (· ≠ '=')), unescapeText ((part.dropWhile (· ≠ '=')).drop 1))

/-- The parts of a query string, in order; empty ones are skipped. -/
def parse (query : List Char) : List (JsString × JsString) :=
  ((query.splitOn '&').filter (· ≠ [])).map parsePair

/-- What a browser drops from a URL. -/
def lineBreaks : List Char := ['\t', '\n', '\r']

/-- The characters of a query that a browser writes with two digits for each of their bytes. -/
def urlEscapes (c : Char) : Bool :=
  c.toNat ≤ 32 || 126 < c.toNat || [34, 35, 39, 60, 62].contains c.toNat

/-- A character of a query as the browser keeps it. -/
def urlChar (c : Char) : List Char :=
  if urlEscapes c then (Utf8.encodeChar c).flatMap percent else [c]

/-- `url.search`, for what stands behind the `?`; the fragment is no part of it. -/
def urlQuery (s : List Char) : List Char :=
  ((s.filter (· ∉ lineBreaks)).takeWhile (· ≠ '#')).flatMap urlChar

/-! ### Bytes -/

theorem toNat_hexDigit {n : ℕ} (h : n < 16) :
    (hexDigit n).toNat = if n < 10 then 48 + n else 55 + n := by
  unfold hexDigit
  split_ifs with hn
  · exact Utf8.toNat_charOfNat (.inl (by omega))
  · exact Utf8.toNat_charOfNat (.inl (by omega))

theorem hexValue_hexDigit {n : ℕ} (h : n < 16) : hexValue (hexDigit n) = some n := by
  rw [hexValue, toNat_hexDigit h]
  by_cases hn : n < 10
  · rw [if_pos hn, if_pos (by omega), Nat.add_sub_cancel_left]
  · rw [if_neg hn, if_neg (by omega), if_pos (by omega), Nat.add_sub_cancel_left]

theorem hexByte_hexDigit (b : UInt8) :
    hexByte (hexDigit (b.toNat / 16)) (hexDigit (b.toNat % 16)) = some b := by
  have hb : b.toNat < 256 := b.toNat_lt
  rw [hexByte, hexValue_hexDigit (by omega), hexValue_hexDigit (by omega)]
  show some (UInt8.ofNat (16 * (b.toNat / 16) + b.toNat % 16)) = some b
  rw [Nat.div_add_mod, UInt8.ofNat_toNat]

/-- A character that is no percent sign stands for its byte. -/
theorem unescape_cons {c : Char} (h : c ≠ '%') (s : List Char) :
    unescape (c :: s) = plainByte c :: unescape s := by
  match s with
  | [] => rfl
  | [_] => rfl
  | a :: b :: s => rw [unescape, if_neg h]

theorem unescape_percent (b : UInt8) (s : List Char) :
    unescape (percent b ++ s) = b :: unescape s := by
  show unescape ('%' :: _ :: _ :: s) = _
  rw [unescape, if_pos rfl, hexByte_hexDigit]

/-- A byte that stays as it is, as a character. -/
theorem toNat_of_keeps {b : UInt8} (h : enc.keeps b = true) :
    (Char.ofNat b.toNat).toNat = b.toNat :=
  Utf8.toNat_charOfNat (.inl (by have := (enc.keeps_plain b h).2.1; omega))

theorem not_mem_percent (b : UInt8) {c : Char} (hc : c = '&' ∨ c = '=') : c ∉ percent b := by
  have hb : b.toNat < 256 := b.toNat_lt
  have hdigit {n : ℕ} (hn : n < 16) : c ≠ hexDigit n := by
    rintro rfl
    have hcode : (hexDigit n).toNat = 38 ∨ (hexDigit n).toNat = 61 :=
      hc.imp (congrArg Char.toNat) (congrArg Char.toNat)
    rw [toNat_hexDigit hn] at hcode
    split_ifs at hcode <;> omega
  simp only [percent, List.mem_cons, List.not_mem_nil, or_false, not_or]
  refine ⟨?_, hdigit (by omega), hdigit (by omega)⟩
  rintro rfl
  revert hc
  decide

/-- The signs between the parts are in no written byte. -/
theorem not_mem_escapeByte (b : UInt8) {c : Char} (hc : c = '&' ∨ c = '=') :
    c ∉ escapeByte enc b := by
  unfold escapeByte
  split_ifs with hblank hkeeps
  · rw [List.mem_singleton]
    rintro rfl
    rcases hc with hc | hc <;> exact absurd hc (by decide)
  · rw [List.mem_singleton]
    rintro rfl
    have hcode := hc.imp (congrArg Char.toNat) (congrArg Char.toNat)
    rw [toNat_of_keeps enc hkeeps] at hcode
    obtain ⟨-, -, -, -, hamp, -, heq⟩ := enc.keeps_plain b hkeeps
    exact hcode.elim hamp heq
  · exact not_mem_percent b hc

theorem not_mem_escapeText (s : JsString) {c : Char} (hc : c = '&' ∨ c = '=') :
    c ∉ escapeText enc s := by
  rw [escapeText, escape, List.mem_flatMap]
  rintro ⟨b, -, hb⟩
  exact not_mem_escapeByte enc b hc hb

/-- What a browser takes over in full. -/
def Kept (s : List Char) : Prop := ∀ c ∈ s, c ∉ lineBreaks ∧ c ≠ '#'

instance (s : List Char) : Decidable (Kept s) :=
  List.decidableBAll (fun c => c ∉ lineBreaks ∧ c ≠ '#') s

theorem urlQuery_of_kept {s : List Char} (h : Kept s) : urlQuery s = s.flatMap urlChar := by
  have hbreaks : ∀ c ∈ s, decide (c ∉ lineBreaks) = true := fun c hc =>
    decide_eq_true (h c hc).1
  have hhash : ∀ c ∈ s, decide (c ≠ '#') = true := fun c hc => decide_eq_true (h c hc).2
  rw [urlQuery, List.filter_eq_self.2 hbreaks, List.takeWhile_eq_self_iff.2 hhash]

/-- A visible character is kept. -/
theorem kept_of_visible {c : Char} (h : 32 < c.toNat) (hhash : c.toNat ≠ 35) :
    c ∉ lineBreaks ∧ c ≠ '#' := by
  simp only [lineBreaks, List.mem_cons, List.not_mem_nil, or_false, not_or]
  refine ⟨⟨?_, ?_, ?_⟩, ?_⟩ <;>
  · rintro rfl
    revert h hhash
    decide

theorem kept_escapeByte (b : UInt8) : Kept (escapeByte enc b) := by
  have hb : b.toNat < 256 := b.toNat_lt
  have hdigit {n : ℕ} (hn : n < 16) : hexDigit n ∉ lineBreaks ∧ hexDigit n ≠ '#' := by
    refine kept_of_visible ?_ ?_ <;>
    · rw [toNat_hexDigit hn]
      split_ifs <;> omega
  intro c hc
  unfold escapeByte at hc
  split_ifs at hc with hblank hkeeps
  · obtain rfl := List.mem_singleton.1 hc
    decide
  · obtain rfl := List.mem_singleton.1 hc
    obtain ⟨hvisible, -, hhash, -⟩ := enc.keeps_plain b hkeeps
    rw [← toNat_of_keeps enc hkeeps] at hvisible hhash
    exact kept_of_visible hvisible hhash
  · simp only [percent, List.mem_cons, List.not_mem_nil, or_false] at hc
    rcases hc with rfl | rfl | rfl
    · decide
    · exact hdigit (by omega)
    · exact hdigit (by omega)

theorem unescape_flatMap_percent (bs : List UInt8) (s : List Char) :
    unescape (bs.flatMap percent ++ s) = bs ++ unescape s := by
  induction bs with
  | nil => rfl
  | cons b bs ih =>
    rw [List.flatMap_cons, List.append_assoc, unescape_percent, ih, List.cons_append]

/-- A character that is no sign of the notation is read from a URL as it was written. -/
theorem unescape_urlChar {c : Char} (hpercent : c ≠ '%') (hplus : c ≠ '+') (s : List Char) :
    unescape (urlChar c ++ s) = Utf8.encodeChar c ++ unescape s := by
  unfold urlChar
  split_ifs with h
  · exact unescape_flatMap_percent _ s
  · simp only [urlEscapes, Bool.or_eq_true, decide_eq_true_eq, not_or] at h
    have hascii : Utf8.encodeChar c = [.ofNat c.toNat] := by
      unfold Utf8.encodeChar
      rw [if_pos (by omega)]
    rw [List.singleton_append, unescape_cons hpercent, plainByte, if_neg hplus, hascii]
    rfl

theorem urlEscapes_hexDigit {n : ℕ} (h : n < 16) : urlEscapes (hexDigit n) = false := by
  rw [urlEscapes, toNat_hexDigit h]
  simp only [Bool.or_eq_false_iff, decide_eq_false_iff_not, List.contains_eq_mem, List.mem_cons,
    List.not_mem_nil, or_false]
  split_ifs <;> omega

/-- What is written with digits stays as it is. -/
theorem flatMap_urlChar_percent (b : UInt8) : (percent b).flatMap urlChar = percent b := by
  have hb : b.toNat < 256 := b.toNat_lt
  have hdigit {n : ℕ} (hn : n < 16) : urlChar (hexDigit n) = [hexDigit n] := by
    rw [urlChar, urlEscapes_hexDigit hn]
    rfl
  rw [percent, List.flatMap_cons, List.flatMap_cons, List.flatMap_singleton, hdigit (by omega),
    hdigit (by omega)]
  rfl

theorem unescape_urlChar_escapeByte (b : UInt8) (s : List Char) :
    unescape ((escapeByte enc b).flatMap urlChar ++ s) = b :: unescape s := by
  unfold escapeByte
  split_ifs with hblank hkeeps
  · simp only [Bool.and_eq_true, decide_eq_true_eq] at hblank
    rw [hblank.2]
    show unescape ('+' :: s) = _
    rw [unescape_cons (by decide)]
    rfl
  · have hn := toNat_of_keeps enc hkeeps
    obtain ⟨-, hlt, -, hpercent, -, hplus, -⟩ := enc.keeps_plain b hkeeps
    have hc : Char.ofNat b.toNat ≠ '%' := fun h => hpercent (hn.symm.trans (congrArg _ h))
    have hc' : Char.ofNat b.toNat ≠ '+' := fun h => hplus (hn.symm.trans (congrArg _ h))
    rw [List.flatMap_singleton, unescape_urlChar hc hc', Utf8.encodeChar, hn, if_pos (by omega),
      UInt8.ofNat_toNat]
    rfl
  · rw [flatMap_urlChar_percent, unescape_percent]

theorem unescape_urlChar_escape (bs : List UInt8) :
    unescape ((escape enc bs).flatMap urlChar) = bs := by
  induction bs with
  | nil => rfl
  | cons b bs ih =>
    rw [escape, List.flatMap_cons, List.flatMap_append, unescape_urlChar_escapeByte, ← escape, ih]

/-- The text that is read from a written one in a URL. -/
def readText (w : List Char) : JsString := unescapeText (w.flatMap urlChar)

/-- **A text that was escaped is read back from a URL.** -/
theorem readText_escapeText (s : JsString) :
    readText (escapeText enc s) = Utf16.toWellFormed s := by
  rw [readText, unescapeText, escapeText, unescape_urlChar_escape, Utf8.decode_encode]
  rfl

/-- A text without signs of the notation is read back from a URL as it stands there. -/
theorem readText_plain {cs : List Char} (h : ∀ c ∈ cs, c ≠ '%' ∧ c ≠ '+') :
    readText cs = Utf16.encode cs := by
  have hbytes : unescape (cs.flatMap urlChar) = Utf8.encode cs := by
    induction cs with
    | nil => rfl
    | cons c cs ih =>
      obtain ⟨⟨hpercent, hplus⟩, hcs⟩ := List.forall_mem_cons.1 h
      rw [List.flatMap_cons, unescape_urlChar hpercent hplus, ih hcs]
      rfl
  rw [readText, unescapeText, hbytes, Utf8.decode_encode]

/-- A part of a query as it is written: its name and its value. -/
structure Part where
  name : List Char
  value : List Char
  name_kept : Kept name
  value_kept : Kept value
  name_plain : '&' ∉ name ∧ '=' ∉ name
  value_plain : '&' ∉ value

/-- `name=value`. -/
def Part.text (part : Part) : List Char := part.name ++ '=' :: part.value

/-- The parts of a query, as they are written. -/
def query (parts : List Part) : List Char := ['&'].intercalate (parts.map Part.text)

theorem query_pair (p q : Part) : query [p, q] = p.text ++ ['&'] ++ q.text := by
  simp [query]

theorem mem_urlChar_iff {c d : Char} (hd : d = '&' ∨ d = '=') : d ∈ urlChar c ↔ d = c := by
  have hdescapes : urlEscapes d = false := by
    rcases hd with rfl | rfl <;> rfl
  unfold urlChar
  split_ifs with h
  · refine iff_of_false ?_ ?_
    · rw [List.mem_flatMap]
      rintro ⟨b, -, hb⟩
      exact not_mem_percent b hd hb
    · rintro rfl
      rw [h] at hdescapes
      cases hdescapes
  · exact List.mem_singleton

theorem not_mem_flatMap_urlChar {s : List Char} {d : Char} (hd : d = '&' ∨ d = '=') (h : d ∉ s) :
    d ∉ s.flatMap urlChar := by
  rw [List.mem_flatMap]
  rintro ⟨c, hc, hmem⟩
  rw [mem_urlChar_iff hd] at hmem
  exact h (hmem ▸ hc)

namespace Part

variable (part : Part)

theorem kept : Kept part.text := by
  intro c hc
  rw [text, List.mem_append, List.mem_cons] at hc
  rcases hc with hc | rfl | hc
  · exact part.name_kept c hc
  · decide
  · exact part.value_kept c hc

theorem not_mem : '&' ∉ part.text := by
  rw [text, List.mem_append, List.mem_cons, not_or, not_or]
  exact ⟨part.name_plain.1, by decide, part.value_plain⟩

/-- A part is read as what its name and its value stand for. -/
theorem parsePair_text :
    parsePair (part.text.flatMap urlChar) = (readText part.name, readText part.value) := by
  have hname : ∀ c ∈ part.name.flatMap urlChar, decide (c ≠ '=') = true := by
    intro c hc
    rw [decide_eq_true_eq]
    rintro rfl
    exact not_mem_flatMap_urlChar (.inr rfl) part.name_plain.2 hc
  rw [parsePair, text, List.flatMap_append, List.takeWhile_append_of_pos hname,
    List.dropWhile_append_of_pos hname, List.flatMap_cons]
  show (unescapeText (part.name.flatMap urlChar ++ []),
    unescapeText (part.value.flatMap urlChar)) = _
  rw [List.append_nil]
  rfl

end Part

theorem kept_query (parts : List Part) : Kept (query parts) := by
  induction parts with
  | nil => exact fun c hc => absurd hc List.not_mem_nil
  | cons part parts ih =>
    cases parts with
    | nil =>
      rw [query, List.map_singleton, List.intercalate_singleton]
      exact part.kept
    | cons next parts =>
      intro c hc
      rw [query, List.map_cons, List.map_cons, List.intercalate_cons_cons, List.mem_append,
        List.mem_append, List.mem_singleton] at hc
      rcases hc with (hc | rfl) | hc
      · exact part.kept c hc
      · decide
      · exact ih c hc

theorem flatMap_urlChar_query (parts : List Part) :
    (query parts).flatMap urlChar =
      ['&'].intercalate (parts.map fun part => part.text.flatMap urlChar) := by
  induction parts with
  | nil => rfl
  | cons part parts ih =>
    cases parts with
    | nil => simp [query]
    | cons next parts =>
      simp only [query, List.map_cons, List.intercalate_cons_cons, List.flatMap_append] at ih ⊢
      rw [ih]
      rfl

/-- **What is read from the URL of a query**: every part, as what was written for it. -/
theorem parse_urlQuery (parts : List Part) :
    parse (urlQuery (query parts)) =
      parts.map fun part => (readText part.name, readText part.value) := by
  rw [urlQuery_of_kept (kept_query parts), flatMap_urlChar_query]
  by_cases hparts : parts = []
  · rw [hparts]
    rfl
  have hsplit : (['&'].intercalate (parts.map fun part => part.text.flatMap urlChar)).splitOn '&' =
      parts.map fun part => part.text.flatMap urlChar := by
    refine List.splitOn_intercalate '&' ?_ (by simpa using hparts)
    intro text htext
    obtain ⟨part, -, rfl⟩ := List.mem_map.1 htext
    exact not_mem_flatMap_urlChar (.inl rfl) part.not_mem
  have hfull : ∀ text ∈ parts.map fun part => part.text.flatMap urlChar,
      decide (text ≠ []) = true := by
    intro text htext
    obtain ⟨part, -, rfl⟩ := List.mem_map.1 htext
    have hmem : '=' ∈ part.text.flatMap urlChar :=
      List.mem_flatMap.2 ⟨'=', by simp [Part.text], by decide⟩
    rw [decide_eq_true_eq]
    exact List.ne_nil_of_mem hmem
  rw [parse, hsplit, List.filter_eq_self.2 hfull, List.map_map]
  exact List.map_congr_left fun part _ => part.parsePair_text

theorem kept_escapeText (s : JsString) : Kept (escapeText enc s) := by
  intro c hc
  rw [escapeText, escape, List.mem_flatMap] at hc
  obtain ⟨b, -, hb⟩ := hc
  exact kept_escapeByte enc b c hb

/-- A part that has been escaped. -/
def escapedPart (p : JsString × JsString) : Part where
  name := escapeText enc p.1
  value := escapeText enc p.2
  name_kept := kept_escapeText enc p.1
  value_kept := kept_escapeText enc p.2
  name_plain := ⟨not_mem_escapeText enc _ (.inl rfl), not_mem_escapeText enc _ (.inr rfl)⟩
  value_plain := not_mem_escapeText enc _ (.inl rfl)

/-- A value that has been escaped, after a name that needs no escape. -/
def namedPart (name : List Char) (hname : Kept name ∧ '&' ∉ name ∧ '=' ∉ name)
    (value : JsString) : Part where
  name := name
  value := escapeText enc value
  name_kept := hname.1
  value_kept := kept_escapeText enc value
  name_plain := hname.2
  value_plain := not_mem_escapeText enc _ (.inl rfl)

/-- **The parts that are read are those that were written**, whatever characters are in them. -/
theorem parse_serialize (pairs : List (JsString × JsString)) :
    parse (urlQuery (serialize enc pairs)) =
      pairs.map fun p => (Utf16.toWellFormed p.1, Utf16.toWellFormed p.2) := by
  have hquery : serialize enc pairs = query (pairs.map (escapedPart enc)) := by
    rw [serialize, query, List.map_map]
    rfl
  rw [hquery, parse_urlQuery, List.map_map]
  refine List.map_congr_left fun p _ => ?_
  exact Prod.ext (readText_escapeText enc p.1) (readText_escapeText enc p.2)

end FormUrl

end StudyOasis
