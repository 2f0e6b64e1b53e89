import StudyOasis.Text.Lines

/-!
# UTF-8 with replacement

The encoder, and the decoder as a machine that reads one byte at a time and puts a replacement
character where the bytes are not UTF-8 (`Buffer.toString`, `TextDecoder`).  The decoder carries
an unfinished character from one chunk to the next; `decode` reads bytes that nothing follows.

* `feed_encode` : the decoder undoes the encoder;
* `splitOn_decode` : line breaks of the text are line breaks of the bytes;
* `append_of_decode` : ASCII at the start of the text is the same ASCII at the start of the bytes.
-/

namespace StudyOasis

namespace Utf8

/-- The bytes of a character. -/
def encodeChar (c : Char) : List UInt8 :=
  let n := c.toNat
  if n < 0x80 then [.ofNat n]
  else if n < 0x800 then [.ofNat (0xC0 + n / 64), .ofNat (0x80 + n % 64)]
  else if n < 0x10000 then
    [.ofNat (0xE0 + n / 4096), .ofNat (0x80 + n / 64 % 64), .ofNat (0x80 + n % 64)]
  else
    [.ofNat (0xF0 + n / 262144), .ofNat (0x80 + n / 4096 % 64), .ofNat (0x80 + n / 64 % 64),
      .ofNat (0x80 + n % 64)]

/-- The bytes of a text. -/
def encode (cs : List Char) : List UInt8 := cs.flatMap encodeChar

/-- The state of the decoder: the number of continuation bytes it waits for, the bits read so far
and the range of the next byte.  What has been read is not the start of an overlong form. -/
structure Decoder where
  need : ℕ := 0
  codePoint : ℕ := 0
  lower : ℕ := 0x80
  upper : ℕ := 0xBF
  lower_ge : 0x80 ≤ lower := by decide
  not_overlong : need ≤ 3 ∧ (need = 1 → 2 ≤ codePoint) ∧
    (need = 2 → 0 < codePoint ∨ 0xA0 ≤ lower) ∧ (need = 3 → 0 < codePoint ∨ 0x90 ≤ lower) := by
    decide
  deriving DecidableEq

/-- The decoder between two characters. -/
abbrev Decoder.start : Decoder := {}

/-- The character that stands for bytes that are not UTF-8. -/
def replacement : Char := '\uFFFD'

/-- The first byte of a character. -/
def first (b : UInt8) : Decoder × List Char :=
  let n := b.toNat
  if n < 0x80 then ({}, [Char.ofNat n])
  else if h : 0xC2 ≤ n ∧ n ≤ 0xDF then
    ({ need := 1, codePoint := n - 0xC0, not_overlong := by omega }, [])
  else if h : 0xE0 ≤ n ∧ n ≤ 0xEF then
    ({ need := 2, codePoint := n - 0xE0
       lower := if n = 0xE0 then 0xA0 else 0x80
       upper := if n = 0xED then 0x9F else 0xBF
       lower_ge := by split <;> decide
       not_overlong := by split <;> omega }, [])
  else if h : 0xF0 ≤ n ∧ n ≤ 0xF4 then
    ({ need := 3, codePoint := n - 0xF0
       lower := if n = 0xF0 then 0x90 else 0x80
       upper := if n = 0xF4 then 0x8F else 0xBF
       lower_ge := by split <;> decide
       not_overlong := by split <;> omega }, [])
  else ({}, [replacement])

/-- One byte: the next state and the characters it completes. -/
def step (d : Decoder) (b : UInt8) : Decoder × List Char :=
  if d.need = 0 then first b
  else if h : d.lower ≤ b.toNat ∧ b.toNat ≤ d.upper then
    let codePoint := d.codePoint * 64 + (b.toNat - 0x80)
    if d.need = 1 then ({}, [Char.ofNat codePoint])
    else
      ({ need := d.need - 1, codePoint
         not_overlong := by
          have := d.not_overlong
          have := d.lower_ge
          omega }, [])
  else
    -- the byte is read again as the first byte of a character
    let r := first b
    (r.1, replacement :: r.2)

/-- Read bytes that others may follow. -/
def feed (d : Decoder) : List UInt8 → Decoder × List Char
  | [] => (d, [])
  | b :: bs =>
    let r := step d b
    let t := feed r.1 bs
    (t.1, r.2 ++ t.2)

/-- What is left of an unfinished character when nothing follows. -/
def flush (d : Decoder) : List Char := if d.need = 0 then [] else [replacement]

/-- Read bytes that nothing follows, from a state of the decoder. -/
def decodeFrom (d : Decoder) (bs : List UInt8) : List Char :=
  (feed d bs).2 ++ flush (feed d bs).1

/-- `Buffer.toString()`. -/
def decode (bs : List UInt8) : List Char := decodeFrom {} bs

theorem feed_append (d : Decoder) (bs bs' : List UInt8) :
    feed d (bs ++ bs') =
      ((feed (feed d bs).1 bs').1, (feed d bs).2 ++ (feed (feed d bs).1 bs').2) := by
  induction bs generalizing d with
  | nil => rfl
  | cons b bs ih => simp [feed, ih]

@[simp] theorem decodeFrom_nil (d : Decoder) : decodeFrom d [] = flush d := rfl

@[simp] theorem decodeFrom_cons (d : Decoder) (b : UInt8) (bs : List UInt8) :
    decodeFrom d (b :: bs) = (step d b).2 ++ decodeFrom (step d b).1 bs := by
  simp [decodeFrom, feed]

/-! ### Decoding what was encoded -/

theorem toNat_ofNat {n : ℕ} (h : n < 256) : (UInt8.ofNat n).toNat = n := by
  simp [Nat.mod_eq_of_lt h]

@[simp] theorem step_start (b : UInt8) : step {} b = first b := rfl

theorem first_of_ascii {b : UInt8} (h : b.toNat < 0x80) :
    first b = ({}, [Char.ofNat b.toNat]) := by
  simp [first, h]

/-- The decoder waits for `need` bytes of the same character. -/
structure Waits (d : Decoder) (need codePoint lower upper : ℕ) : Prop where
  need_eq : d.need = need
  codePoint_eq : d.codePoint = codePoint
  lower_eq : d.lower = lower
  upper_eq : d.upper = upper

theorem first_two {b : UInt8} (h : 0xC2 ≤ b.toNat ∧ b.toNat ≤ 0xDF) :
    ∃ d, first b = (d, []) ∧ Waits d 1 (b.toNat - 0xC0) 0x80 0xBF := by
  unfold first
  rw [if_neg (by omega), dif_pos h]
  exact ⟨_, rfl, rfl, rfl, rfl, rfl⟩

theorem first_three {b : UInt8} (h : 0xE0 ≤ b.toNat ∧ b.toNat ≤ 0xEF) :
    ∃ d, first b = (d, []) ∧ Waits d 2 (b.toNat - 0xE0)
      (if b.toNat = 0xE0 then 0xA0 else 0x80) (if b.toNat = 0xED then 0x9F else 0xBF) := by
  unfold first
  rw [if_neg (by omega), dif_neg (by omega), dif_pos h]
  exact ⟨_, rfl, rfl, rfl, rfl, rfl⟩

theorem first_four {b : UInt8} (h : 0xF0 ≤ b.toNat ∧ b.toNat ≤ 0xF4) :
    ∃ d, first b = (d, []) ∧ Waits d 3 (b.toNat - 0xF0)
      (if b.toNat = 0xF0 then 0x90 else 0x80) (if b.toNat = 0xF4 then 0x8F else 0xBF) := by
  unfold first
  rw [if_neg (by omega), dif_neg (by omega), dif_neg (by omega), dif_pos h]
  exact ⟨_, rfl, rfl, rfl, rfl, rfl⟩

/-- The last byte of a character. -/
theorem step_last {d : Decoder} {b : UInt8} {cp lower upper : ℕ} (hd : Waits d 1 cp lower upper)
    (hb : lower ≤ b.toNat ∧ b.toNat ≤ upper) :
    step d b = ({}, [Char.ofNat (cp * 64 + (b.toNat - 0x80))]) := by
  obtain ⟨hneed, rfl, rfl, rfl⟩ := hd
  unfold step
  rw [if_neg (by omega), dif_pos hb]
  simp only [hneed, if_true]

/-- A byte of a character that is not its last one. -/
theorem step_more {d : Decoder} {b : UInt8} {need cp lower upper : ℕ}
    (hd : Waits d (need + 2) cp lower upper) (hb : lower ≤ b.toNat ∧ b.toNat ≤ upper) :
    ∃ d', step d b = (d', []) ∧ Waits d' (need + 1) (cp * 64 + (b.toNat - 0x80)) 0x80 0xBF := by
  obtain ⟨hneed, rfl, rfl, rfl⟩ := hd
  unfold step
  rw [if_neg (by omega), dif_pos hb]
  simp only
  rw [if_neg (by omega)]
  exact ⟨_, rfl, by simp only; omega, rfl, rfl, rfl⟩

theorem feed_encodeChar (c : Char) : feed {} (encodeChar c) = ({}, [c]) := by
  have hc : c.toNat < 0xD800 ∨ 0xDFFF < c.toNat ∧ c.toNat < 0x110000 := c.valid
  have hof : Char.ofNat c.toNat = c := Char.ofNat_toNat c
  unfold encodeChar
  generalize c.toNat = n at hc hof
  have hcont (k : ℕ) : (UInt8.ofNat (0x80 + k % 64)).toNat = 0x80 + k % 64 :=
    toNat_ofNat (by omega)
  -- one to four bytes: the first one opens a character, the others put its bits together
  by_cases h1 : n < 0x80
  · simp [h1, feed, step, first, toNat_ofNat (show n < 256 by omega), hof]
  by_cases h2 : n < 0x800
  · have hlead := toNat_ofNat (show 0xC0 + n / 64 < 256 by omega)
    obtain ⟨d, hfirst, hd⟩ := first_two (b := .ofNat (0xC0 + n / 64)) (by omega)
    have hlast := step_last (b := .ofNat (0x80 + n % 64)) hd (by rw [hcont]; omega)
    have hcp : (0xC0 + n / 64 - 0xC0) * 64 + (0x80 + n % 64 - 0x80) = n := by omega
    rw [hlead, hcont, hcp, hof] at hlast
    simp only [h1, h2, if_true, if_false, feed, step_start, hfirst, hlast, List.nil_append,
      List.append_nil]
  by_cases h3 : n < 0x10000
  · have hlead := toNat_ofNat (show 0xE0 + n / 4096 < 256 by omega)
    obtain ⟨d, hfirst, hd⟩ := first_three (b := .ofNat (0xE0 + n / 4096)) (by omega)
    rw [hlead] at hd
    obtain ⟨d', hmore, hd'⟩ := step_more (b := .ofNat (0x80 + n / 64 % 64)) hd
      (by rw [hcont]; split_ifs <;> omega)
    have hlast := step_last (b := .ofNat (0x80 + n % 64)) hd' (by rw [hcont]; omega)
    have hcp : ((0xE0 + n / 4096 - 0xE0) * 64 + (0x80 + n / 64 % 64 - 0x80)) * 64 +
        (0x80 + n % 64 - 0x80) = n := by omega
    rw [hcont, hcont, hcp, hof] at hlast
    simp only [h1, h2, h3, if_true, if_false, feed, step_start, hfirst, hmore, hlast,
      List.nil_append, List.append_nil]
  · have hlead := toNat_ofNat (show 0xF0 + n / 262144 < 256 by omega)
    obtain ⟨d, hfirst, hd⟩ := first_four (b := .ofNat (0xF0 + n / 262144)) (by omega)
    rw [hlead] at hd
    obtain ⟨d', hmore, hd'⟩ := step_more (b := .ofNat (0x80 + n / 4096 % 64)) hd
      (by rw [hcont]; split_ifs <;> omega)
    obtain ⟨d'', hmore', hd''⟩ := step_more (b := .ofNat (0x80 + n / 64 % 64)) hd'
      (by rw [hcont]; omega)
    have hlast := step_last (b := .ofNat (0x80 + n % 64)) hd'' (by rw [hcont]; omega)
    have hcp : (((0xF0 + n / 262144 - 0xF0) * 64 + (0x80 + n / 4096 % 64 - 0x80)) * 64 +
        (0x80 + n / 64 % 64 - 0x80)) * 64 + (0x80 + n % 64 - 0x80) = n := by omega
    rw [hcont, hcont, hcont, hcp, hof] at hlast
    simp only [h1, h2, h3, if_false, feed, step_start, hfirst, hmore, hmore', hlast,
      List.nil_append, List.append_nil]

/-- **The decoder undoes the encoder** and is ready for the next character. -/
theorem feed_encode (cs : List Char) : feed {} (encode cs) = ({}, cs) := by
  induction cs with
  | nil => rfl
  | cons c cs ih =>
    rw [encode] at ih
    rw [encode, List.flatMap_cons, feed_append, feed_encodeChar, ih]
    rfl

@[simp] theorem decode_encode (cs : List Char) : decode (encode cs) = cs := by
  simp [decode, decodeFrom, feed_encode, flush]

theorem encode_append (cs cs' : List Char) : encode (cs ++ cs') = encode cs ++ encode cs' :=
  List.flatMap_append

/-! ### ASCII -/

/-- An ASCII character other than NUL. -/
def IsAscii (c : Char) : Prop := 0 < c.toNat ∧ c.toNat < 0x80

instance (c : Char) : Decidable (IsAscii c) := inferInstanceAs (Decidable (_ ∧ _))

theorem not_isAscii_replacement : ¬ IsAscii replacement := by decide

theorem toNat_charOfNat {n : ℕ} (h : n.isValidChar) : (Char.ofNat n).toNat = n := by
  rw [Char.ofNat, dif_pos h]
  rfl

theorem not_isAscii_ofNat {n : ℕ} (h : 0x80 ≤ n) : ¬ IsAscii (Char.ofNat n) := by
  by_cases hv : n.isValidChar
  · rintro ⟨-, h2⟩
    rw [toNat_charOfNat hv] at h2
    omega
  · rw [Char.ofNat, dif_neg hv]
    decide

/-- An ASCII byte ends whatever came before it. -/
theorem step_ascii (d : Decoder) {b : UInt8} (hb : b.toNat < 0x80) :
    step d b = ({}, flush d ++ [Char.ofNat b.toNat]) := by
  have hlower := d.lower_ge
  unfold step flush
  by_cases hd : d.need = 0
  · simp [hd, first_of_ascii hb]
  · rw [if_neg hd, dif_neg (by omega), first_of_ascii hb, if_neg hd]
    rfl

theorem decodeFrom_append_ascii (d : Decoder) (a : List UInt8) {b : UInt8} (hb : b.toNat < 0x80)
    (bs : List UInt8) :
    decodeFrom d (a ++ b :: bs) = decodeFrom d a ++ Char.ofNat b.toNat :: decode bs := by
  simp [decode, decodeFrom, feed_append, feed, step_ascii _ hb]

theorem first_cases {b : UInt8} (hb : 0x80 ≤ b.toNat) :
    first b = ({}, [replacement]) ∨ ∃ d, first b = (d, []) ∧ d.need ≠ 0 := by
  by_cases h2 : 0xC2 ≤ b.toNat ∧ b.toNat ≤ 0xDF
  · obtain ⟨d, h, hd⟩ := first_two h2
    exact .inr ⟨d, h, by rw [hd.need_eq]; decide⟩
  by_cases h3 : 0xE0 ≤ b.toNat ∧ b.toNat ≤ 0xEF
  · obtain ⟨d, h, hd⟩ := first_three h3
    exact .inr ⟨d, h, by rw [hd.need_eq]; decide⟩
  by_cases h4 : 0xF0 ≤ b.toNat ∧ b.toNat ≤ 0xF4
  · obtain ⟨d, h, hd⟩ := first_four h4
    exact .inr ⟨d, h, by rw [hd.need_eq]; decide⟩
  left
  unfold first
  rw [if_neg (by omega), dif_neg h2, dif_neg h3, dif_neg h4]

/-- What a byte that is not ASCII does: it goes on with the character, it finishes one, or it is
the first byte of the next. -/
theorem step_cases (d : Decoder) {b : UInt8} (hb : 0x80 ≤ b.toNat) :
    (d.need ≠ 0 ∧ ∃ d', step d b = (d', []) ∧ d'.need ≠ 0) ∨
      (d.need ≠ 0 ∧ ∃ cp, 0x80 ≤ cp ∧ step d b = ({}, [Char.ofNat cp])) ∨
      step d b = ((first b).1, flush d ++ (first b).2) := by
  by_cases hd : d.need = 0
  · exact .inr (.inr (by simp [step, flush, hd]))
  by_cases hrange : d.lower ≤ b.toNat ∧ b.toNat ≤ d.upper
  · have hwf := d.not_overlong
    by_cases h1 : d.need = 1
    · refine .inr (.inl ⟨hd, _, ?_, step_last ⟨h1, rfl, rfl, rfl⟩ hrange⟩)
      omega
    · have h2 : d.need = (d.need - 2) + 2 := by omega
      obtain ⟨d', h, hd'⟩ := step_more ⟨h2, rfl, rfl, rfl⟩ hrange
      exact .inl ⟨hd, d', h, by rw [hd'.need_eq]; omega⟩
  · exact .inr (.inr (by simp [step, flush, hd, hrange]))

theorem not_mem_flush {c : Char} (hc : IsAscii c) (d : Decoder) : c ∉ flush d := by
  unfold flush
  split_ifs
  · exact List.not_mem_nil
  · rintro h
    obtain rfl := List.mem_singleton.1 h
    exact not_isAscii_replacement hc

/-- A byte that is not ASCII gives no ASCII character. -/
theorem not_mem_step {d : Decoder} {b : UInt8} {c : Char} (hc : IsAscii c) (hb : 0x80 ≤ b.toNat) :
    c ∉ (step d b).2 := by
  rcases step_cases d hb with ⟨-, d', h, -⟩ | ⟨-, cp, hcp, h⟩ | h
  · simp [h]
  · rw [h, List.mem_singleton]
    rintro rfl
    exact not_isAscii_ofNat hcp hc
  · rw [h, List.mem_append, not_or]
    refine ⟨not_mem_flush hc d, ?_⟩
    rcases first_cases hb with h | ⟨d', h, -⟩
    · rw [h, List.mem_singleton]
      rintro rfl
      exact not_isAscii_replacement hc
    · simp [h]

/-- Bytes without the code of an ASCII character decode to a text without it. -/
theorem not_mem_decode {c : Char} (hc : IsAscii c) {bs : List UInt8}
    (h : ∀ b ∈ bs, b.toNat ≠ c.toNat) (d : Decoder) : c ∉ decodeFrom d bs := by
  induction bs generalizing d with
  | nil => exact not_mem_flush hc d
  | cons b bs ih =>
    rw [decodeFrom_cons, List.mem_append, not_or]
    refine ⟨?_, ih (fun b' hb' => h b' (List.mem_cons_of_mem b hb')) _⟩
    by_cases hb : b.toNat < 0x80
    · rw [step_ascii d hb, List.mem_append, not_or, List.mem_singleton]
      refine ⟨not_mem_flush hc d, ?_⟩
      rintro rfl
      exact h b List.mem_cons_self (toNat_charOfNat (.inl (by omega))).symm
    · exact not_mem_step hc (by omega)

/-- **The lines of the text are the decoded lines of the bytes.** -/
theorem splitOn_decode (bs : List UInt8) :
    (decode bs).splitOn '\n' = (bs.splitOn 10).map decode := by
  refine splitOn_map_of_sep (fun a b => decodeFrom_append_ascii {} a (by decide) b) ?_ bs
  intro a ha
  refine not_mem_decode (by decide) ?_ {}
  rintro b hb heq
  obtain rfl : b = 10 := UInt8.toNat_inj.1 heq
  exact ha hb

/-- What an unfinished character becomes is not ASCII. -/
theorem head_decodeFrom {d : Decoder} (hd : d.need ≠ 0) (bs : List UInt8) {c : Char}
    {rest : List Char} (h : decodeFrom d bs = c :: rest) : ¬ IsAscii c := by
  induction bs generalizing d with
  | nil =>
    rw [decodeFrom_nil, flush, if_neg hd] at h
    obtain rfl := (List.cons.inj h).1
    exact not_isAscii_replacement
  | cons b bs ih =>
    have hflush : flush d = [replacement] := if_neg hd
    rw [decodeFrom_cons] at h
    by_cases hb : b.toNat < 0x80
    · rw [step_ascii d hb, hflush] at h
      obtain rfl := (List.cons.inj h).1
      exact not_isAscii_replacement
    · rcases step_cases d (Nat.le_of_not_lt hb) with ⟨-, d', heq, hd'⟩ | ⟨-, cp, hcp, heq⟩ | heq
      · rw [heq] at h
        exact ih hd' h
      · rw [heq] at h
        obtain rfl := (List.cons.inj h).1
        exact not_isAscii_ofNat hcp
      · rw [heq, hflush] at h
        obtain rfl := (List.cons.inj h).1
        exact not_isAscii_replacement

theorem decode_cons_inv {bs : List UInt8} {c : Char} {rest : List Char} (hc : IsAscii c)
    (h : decode bs = c :: rest) : ∃ bs', bs = .ofNat c.toNat :: bs' ∧ decode bs' = rest := by
  cases bs with
  | nil => cases h
  | cons b bs =>
    rw [decode, decodeFrom_cons] at h
    by_cases hb : b.toNat < 0x80
    · rw [step_ascii {} hb] at h
      obtain ⟨rfl, hrest⟩ := List.cons.inj h
      refine ⟨bs, ?_, hrest⟩
      rw [toNat_charOfNat (.inl (by omega)), UInt8.ofNat_toNat]
    -- a byte that is not ASCII cannot be the start of the character
    · exfalso
      rcases first_cases (b := b) (by omega) with hf | ⟨d, hf, hd⟩
      · rw [step_start, hf] at h
        obtain rfl := (List.cons.inj h).1
        exact not_isAscii_replacement hc
      · rw [step_start, hf] at h
        exact head_decodeFrom hd bs h hc

theorem encodeChar_ascii {c : Char} (hc : IsAscii c) : encodeChar c = [.ofNat c.toNat] := by
  simp [encodeChar, hc.2]

/-- An ASCII byte of the encoding is an ASCII character of the text. -/
theorem mem_of_mem_encode {b : UInt8} (hb : b.toNat < 0x80) {cs : List Char} (h : b ∈ encode cs) :
    Char.ofNat b.toNat ∈ cs := by
  obtain ⟨x, y, hxy⟩ := List.append_of_mem h
  have hdec := decodeFrom_append_ascii {} x hb y
  rw [← hxy, ← decode, decode_encode] at hdec
  rw [hdec]
  simp

/-- **ASCII at the start of the text is the same ASCII at the start of the bytes.** -/
theorem append_of_decode {bs : List UInt8} {cs rest : List Char} (hcs : ∀ c ∈ cs, IsAscii c)
    (h : decode bs = cs ++ rest) : ∃ bs', bs = encode cs ++ bs' ∧ decode bs' = rest := by
  induction cs generalizing bs with
  | nil => exact ⟨bs, rfl, h⟩
  | cons c cs ih =>
    obtain ⟨bs', rfl, h'⟩ := decode_cons_inv (hcs c List.mem_cons_self) h
    obtain ⟨bs'', rfl, h''⟩ := ih (fun c' hc' => hcs c' (List.mem_cons_of_mem c hc')) h'
    refine ⟨bs'', ?_, h''⟩
    simp [encode, encodeChar_ascii (hcs c List.mem_cons_self)]

end Utf8

end StudyOasis
