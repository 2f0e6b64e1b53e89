import StudyOasis.Common.QueryOrder

/-!
# Paging

Rows are read page by page, every page by a query of its own.  Each query answers with some order
of all rows, latest first; rows with the same key may come in a different order each time.

* `map_walked_perm_iff` : **when every row is read once, whatever the orders**: no page ends among
  rows with the same key.
-/

namespace StudyOasis

variable {α β : Type*} [LinearOrder β] {key : α → β} {rows : List α}

/-- `take` and `skip`. -/
def pageOf (l : List α) (limit offset : ℕ) : List α := (l.drop offset).take limit

/-- What the first `n` requests answer with, at the offsets `0`, `limit`, `2 * limit`, … -/
def walked (orders : ℕ → QueryOrder key rows) (limit n : ℕ) : List α :=
  (List.range n).flatMap fun k => pageOf (orders k).list limit (k * limit)

/-- Among the latest `n` rows and the others there are rows with the same key. -/
def SplitsTie (key : α → β) (rows : List α) (n : ℕ) : Prop :=
  ∃ a ∈ rows, rows.countP (fun b => key a < key b) < n ∧ n < rows.countP fun b => key a ≤ key b

instance (n : ℕ) : Decidable (SplitsTie key rows n) :=
  inferInstanceAs (Decidable (∃ a ∈ rows, _ ∧ _))

theorem SplitsTie.pos {n : ℕ} (h : SplitsTie key rows n) : 0 < n := by
  obtain ⟨a, -, hlt, -⟩ := h
  omega

theorem SplitsTie.lt_length {n : ℕ} (h : SplitsTie key rows n) : n < rows.length := by
  obtain ⟨a, -, -, hlt⟩ := h
  exact hlt.trans_le List.countP_le_length

/-! ### The front of an order -/

/-- The rows with greater keys come first. -/
theorem filter_eq_take {l : List α} (h : l.Pairwise fun a b => key b ≤ key a) (x : β) :
    l.filter (fun b => x < key b) = l.take (l.countP fun b => x < key b) := by
  induction l with
  | nil => rfl
  | cons a l ih =>
    obtain ⟨ha, hl⟩ := List.pairwise_cons.1 h
    by_cases hx : x < key a
    · rw [List.filter_cons_of_pos (by simpa using hx), List.countP_cons_of_pos (by simpa using hx),
        List.take_succ_cons, ih hl]
    · have hnone : ∀ b ∈ a :: l, ¬ x < key b := by
        intro b hb
        rcases List.mem_cons.1 hb with rfl | hb
        · exact hx
        · exact fun hlt => hx (hlt.trans_le (ha b hb))
      rw [List.filter_eq_nil_iff.2 (by simpa using hnone),
        List.countP_eq_zero.2 (by simpa using hnone), List.take_zero]

theorem countP_le_front {p q : List α} {t : α → Bool} (h : ∀ b ∈ q, ¬ t b = true) :
    (p ++ q).countP t ≤ p.length := by
  rw [List.countP_append, List.countP_eq_zero.2 h]
  exact List.countP_le_length

theorem front_le_countP {p q : List α} {t : α → Bool} (h : ∀ b ∈ p, t b = true) :
    p.length ≤ (p ++ q).countP t := by
  rw [List.countP_append, List.countP_eq_length.2 h]
  exact Nat.le_add_right _ _

/-- The rows with a greater key than one of them, and those with at least its key. -/
theorem countP_bounds {p q : List α} {c : α}
    (h : (p ++ c :: q).Pairwise fun a b => key b ≤ key a) :
    (p ++ c :: q).countP (fun b => key c < key b) ≤ p.length ∧
      p.length < (p ++ c :: q).countP fun b => key c ≤ key b := by
  obtain ⟨-, hback, hfront⟩ := List.pairwise_append.1 h
  constructor
  · refine countP_le_front fun b hb => ?_
    rw [decide_eq_true_eq, not_lt]
    rcases List.mem_cons.1 hb with rfl | hb
    · exact le_rfl
    · exact (List.pairwise_cons.1 hback).1 b hb
  · have hlen := front_le_countP (p := p ++ [c]) (q := q) (t := fun b => key c ≤ key b) (by
      intro b hb
      rw [decide_eq_true_eq]
      rcases List.mem_append.1 hb with hb | hb
      · exact hfront b hb c List.mem_cons_self
      · rw [List.mem_singleton.1 hb])
    rw [List.append_assoc, List.singleton_append, List.length_append, List.length_singleton] at hlen
    omega

variable (o : QueryOrder key rows) {n : ℕ}

/-- Where no rows with the same key are split, all orders begin with the same rows. -/
theorem QueryOrder.take_perm (o' : QueryOrder key rows) (h : ¬ SplitsTie key rows n) :
    (o.list.take n).Perm (o'.list.take n) := by
  by_cases hn : n < o.list.length
  · have hsplit : o.list = o.list.take n ++ o.list[n] :: o.list.drop (n + 1) := by
      rw [← List.drop_eq_getElem_cons hn, List.take_append_drop]
    generalize o.list[n] = c at hsplit
    have hbounds := countP_bounds (hsplit ▸ o.sorted)
    rw [← hsplit, o.perm.countP_eq, o.perm.countP_eq, List.length_take_of_le hn.le] at hbounds
    have hmem : c ∈ rows := by
      rw [← o.perm.mem_iff, hsplit]
      exact List.mem_append_right _ List.mem_cons_self
    -- all rows in front of the cut have a greater key than the one behind it
    have hcount : rows.countP (fun b => key c < key b) = n := by
      by_contra hne
      exact h ⟨c, hmem, by omega, hbounds.2⟩
    have hfront : ∀ o'' : QueryOrder key rows,
        o''.list.take n = o''.list.filter fun b => key c < key b := by
      intro o''
      rw [filter_eq_take o''.sorted, o''.perm.countP_eq, hcount]
    rw [hfront o, hfront o']
    exact (o.perm.trans o'.perm.symm).filter _
  · have hlen : o'.list.length = o.list.length := (o'.perm.trans o.perm.symm).length_eq
    rw [List.take_of_length_le (by omega), List.take_of_length_le (by omega)]
    exact o.perm.trans o'.perm.symm

/-- Where rows with the same key are split, those on both sides of the cut are such rows. -/
theorem SplitsTie.key_eq {p q : List α} {a b : α} (h : SplitsTie key rows (p.length + 1))
    (hperm : (p ++ a :: b :: q).Perm rows)
    (hsorted : (p ++ a :: b :: q).Pairwise fun a b => key b ≤ key a) : key a = key b := by
  obtain ⟨c, -, hlt, hgt⟩ := h
  obtain ⟨-, hback, hfront⟩ := List.pairwise_append.1 hsorted
  obtain ⟨ha, hback⟩ := List.pairwise_cons.1 hback
  obtain ⟨hb, -⟩ := List.pairwise_cons.1 hback
  have hcut : p ++ a :: b :: q = (p ++ [a]) ++ b :: q := by simp
  rw [← hperm.countP_eq, hcut] at hlt hgt
  have hca : key a ≤ key c := by
    by_contra hca
    have hall := front_le_countP (p := p ++ [a]) (q := b :: q) (t := fun b => key c < key b) (by
      intro d hd
      rw [decide_eq_true_eq]
      rcases List.mem_append.1 hd with hd | hd
      · exact (not_le.1 hca).trans_le (hfront d hd a List.mem_cons_self)
      · rw [List.mem_singleton.1 hd]
        exact not_le.1 hca)
    rw [List.length_append, List.length_singleton] at hall
    omega
  have hcb : key c ≤ key b := by
    by_contra hcb
    have hnone := countP_le_front (p := p ++ [a]) (q := b :: q) (t := fun b => key c ≤ key b) (by
      intro d hd
      rw [decide_eq_true_eq, not_le]
      rcases List.mem_cons.1 hd with rfl | hd
      · exact not_le.1 hcb
      · exact (hb d hd).trans_lt (not_le.1 hcb))
    rw [List.length_append, List.length_singleton] at hnone
    omega
  exact le_antisymm (hca.trans hcb) (ha b List.mem_cons_self)

/-- Two rows with the same key may change places. -/
theorem pairwise_swap {p q : List α} {a b : α} (heq : key a = key b)
    (h : (p ++ a :: b :: q).Pairwise fun a b => key b ≤ key a) :
    (p ++ b :: a :: q).Pairwise fun a b => key b ≤ key a := by
  obtain ⟨hp, hback, hfront⟩ := List.pairwise_append.1 h
  obtain ⟨ha, hback⟩ := List.pairwise_cons.1 hback
  obtain ⟨hb, hq⟩ := List.pairwise_cons.1 hback
  refine List.pairwise_append.2 ⟨hp, ?_, fun d hd e he => hfront d hd e ?_⟩
  · refine List.pairwise_cons.2 ⟨fun d hd => ?_, List.pairwise_cons.2 ⟨fun d hd => ?_, hq⟩⟩
    · rcases List.mem_cons.1 hd with rfl | hd
      · exact heq.le
      · exact hb d hd
    · exact ha d (List.mem_cons_of_mem b hd)
  · exact (List.Perm.swap a b q).mem_iff.1 he

/-- Where rows with the same key are split, another order exchanges two of them. -/
theorem QueryOrder.exists_swap (h : SplitsTie key rows n) :
    ∃ (o' : QueryOrder key rows) (p q : List α) (a b : α), n = p.length + 1 ∧
      o.list = p ++ a :: b :: q ∧ o'.list = p ++ b :: a :: q := by
  have hpos := h.pos
  have hlen : n < o.list.length := by
    rw [o.perm.length_eq]
    exact h.lt_length
  obtain ⟨m, rfl⟩ : ∃ m, n = m + 1 := ⟨n - 1, by omega⟩
  have hsplit : o.list = o.list.take m ++ o.list[m] :: o.list[m + 1] :: o.list.drop (m + 2) := by
    rw [← List.drop_eq_getElem_cons, ← List.drop_eq_getElem_cons, List.take_append_drop]
  have hm : (o.list.take m).length = m := List.length_take_of_le (by omega)
  generalize o.list.take m = p, o.list[m] = a, o.list[m + 1] = b, o.list.drop (m + 2) = q
    at hsplit hm
  subst hm
  have hperm := hsplit ▸ o.perm
  have hsorted := hsplit ▸ o.sorted
  refine ⟨⟨p ++ b :: a :: q, ?_, ?_⟩, p, q, a, b, rfl, hsplit, rfl⟩
  · exact ((List.Perm.swap a b q).append_left p).trans hperm
  · exact pairwise_swap (h.key_eq hperm hsorted) hsorted

/-! ### A whole walk -/

variable {orders : ℕ → QueryOrder key rows} {limit : ℕ}

theorem walked_succ (n : ℕ) :
    walked orders limit (n + 1) =
      walked orders limit n ++ pageOf (orders n).list limit (n * limit) := by
  rw [walked, List.range_succ, List.flatMap_append, List.flatMap_singleton]
  rfl

theorem take_succ_page (l : List α) (n : ℕ) :
    l.take ((n + 1) * limit) = l.take (n * limit) ++ pageOf l limit (n * limit) := by
  rw [pageOf, Nat.succ_mul, List.take_add]

/-- When no page splits rows with the same key, the pages are those of one order. -/
theorem walked_perm_take (h : ∀ k, ¬ SplitsTie key rows (k * limit)) (o : QueryOrder key rows)
    (n : ℕ) : (walked orders limit n).Perm (o.list.take (n * limit)) := by
  induction n with
  | zero =>
    rw [Nat.zero_mul, List.take_zero]
    exact List.Perm.refl _
  | succ n ih =>
    have hfront := (orders n).take_perm o (h n)
    have hpage := (orders n).take_perm o (h (n + 1))
    rw [take_succ_page, take_succ_page] at hpage
    have hpage := (List.perm_append_left_iff _).1 ((hfront.symm.append_right _).trans hpage)
    rw [walked_succ, take_succ_page]
    exact ih.append hpage

theorem mem_pageOf {l : List α} {a : α} {i offset : ℕ} (h : l[i]? = some a) (hle : offset ≤ i)
    (hlt : i < offset + limit) : a ∈ pageOf l limit offset := by
  refine List.mem_of_getElem? (i := i - offset) ?_
  rw [pageOf, List.getElem?_take_of_lt (by omega), List.getElem?_drop, Nat.add_sub_cancel' hle, h]

/-- A row that changes its place with the first one of the next page is read twice. -/
theorem not_nodup_walked {k n : ℕ} (hlimit : 0 < limit) (hn : k < n)
    (h : SplitsTie key rows (k * limit)) :
    ∃ orders : ℕ → QueryOrder key rows, ¬ (walked orders limit n).Nodup := by
  obtain ⟨o', p, q, a, b, hp, ho, ho'⟩ := (QueryOrder.stable key rows).exists_swap h
  obtain ⟨j, rfl⟩ : ∃ j, k = j + 1 := ⟨k - 1, (Nat.succ_pred (by rintro rfl; simp at hp)).symm⟩
  rw [Nat.succ_mul] at hp
  refine ⟨fun i => if i ≤ j then QueryOrder.stable key rows else o', fun hnodup => ?_⟩
  have hdisjoint := List.pairwise_iff_getElem.1 (List.nodup_flatMap.1 hnodup).2 j (j + 1)
    (by simp; omega) (by simpa using hn) (by omega)
  simp only [List.getElem_range, Function.onFun] at hdisjoint
  rw [if_pos le_rfl, if_neg (by omega)] at hdisjoint
  refine hdisjoint (a := a) ?_ ?_
  · rw [ho]
    exact mem_pageOf (i := p.length) (by simp) (by omega) (by omega)
  · rw [ho', Nat.succ_mul]
    exact mem_pageOf (i := p.length + 1) (by simp) (by omega) (by omega)

/-- **Every row is read once, whatever the orders**, when no page ends among rows with the same
key, and only then.  Of each row `f` is read, by which it can be told from the others. -/
theorem map_walked_perm_iff {γ : Type*} {f : α → γ} {n : ℕ} (hrows : (rows.map f).Nodup)
    (hlimit : 0 < limit) (hn : rows.length ≤ n * limit) :
    (∀ orders : ℕ → QueryOrder key rows, ((walked orders limit n).map f).Perm (rows.map f)) ↔
      ∀ k, ¬ SplitsTie key rows (k * limit) := by
  constructor
  · intro h k hsplit
    have hk : k < n := Nat.lt_of_mul_lt_mul_right (hsplit.lt_length.trans_le hn)
    obtain ⟨orders, hnodup⟩ := not_nodup_walked hlimit hk hsplit
    exact hnodup (((h orders).nodup_iff.2 hrows).of_map f)
  · intro h orders
    have hperm : (walked orders limit n).Perm _ := walked_perm_take h (QueryOrder.stable key rows) n
    have hlen := (QueryOrder.stable key rows).perm.length_eq
    rw [List.take_of_length_le (by omega)] at hperm
    exact (hperm.trans (QueryOrder.stable key rows).perm).map f

end StudyOasis
