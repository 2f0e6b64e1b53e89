import Mathlib.Data.Prod.Lex
import StudyOasis.Common.OrderBy

/-!
# Orders that leave ties open

A query with `ORDER BY key DESC` answers with some descending order of its rows; rows with the same
key may come in any order.  Where the keys differ there is only one (`QueryOrder.list_eq`).

Rows above a bound come before all others (`QueryOrder.filter_take`).

Of the orders that a query may answer with, `QueryOrder.last p` puts the rows with `p` last among
those with the same key.  Its first rows hold the fewest with `p` (`countP_last_le`), and one more
row takes one of them away in a single case (`countP_last_concat`).
-/

namespace StudyOasis

variable {α β : Type*} [LinearOrder β] {key : α → β} {rows : List α}

/-- An order that a query may answer with. -/
structure QueryOrder (key : α → β) (rows : List α) where
  list : List α
  perm : list.Perm rows
  sorted : list.Pairwise fun a b => key b ≤ key a

namespace QueryOrder

/-- The stable order. -/
def stable (key : α → β) (rows : List α) : QueryOrder key rows :=
  ⟨orderByDesc key rows, orderByDesc_perm, orderByDesc_pairwise⟩

/-- Rows with different keys come in one order. -/
theorem list_eq (o : QueryOrder key rows) (hd : DistinctKeys key rows) :
    o.list = orderByDesc key rows := by
  rw [orderByDesc_eq_reverse hd, ← List.reverse_eq_iff]
  refine eq_orderByAsc hd ((List.reverse_perm _).trans o.perm) ?_
  rw [List.pairwise_reverse]
  exact o.sorted

/-- The rows above a bound all come first: whoever reads enough rows reads them. -/
theorem filter_take (o : QueryOrder key rows) {c : β} {n : ℕ}
    (h : rows.countP (fun a => c < key a) ≤ n) :
    (o.list.take n).filter (fun a => c < key a) = o.list.filter fun a => c < key a := by
  rw [← o.perm.countP_eq] at h
  have hl := o.sorted
  generalize o.list = l at h hl
  induction l generalizing n with
  | nil => rw [List.take_nil]
  | cons a l ih =>
    obtain ⟨hfirst, hl⟩ := List.pairwise_cons.1 hl
    by_cases ha : c < key a
    · rw [List.countP_cons_of_pos (by simpa using ha)] at h
      cases n with
      | zero => omega
      | succ n =>
        rw [List.take_succ_cons, List.filter_cons_of_pos (by simpa using ha),
          List.filter_cons_of_pos (by simpa using ha), ih (by omega) hl]
    · -- all others are below the bound too
      have hnone : (a :: l).filter (fun a => c < key a) = [] := by
        rw [List.filter_eq_nil_iff]
        intro b hb
        rcases List.mem_cons.1 hb with rfl | hb
        · simpa using ha
        · simpa using (hfirst b hb).trans (not_lt.1 ha)
      exact (List.sublist_nil.1 (hnone ▸ (List.take_sublist n _).filter _)).trans hnone.symm

/-- The key, and behind it whether the row is without `p`. -/
def lastKey (key : α → β) (p : α → Bool) (a : α) : β ×ₗ Bool := toLex (key a, !p a)

variable {p : α → Bool} {a b : α}

theorem lastKey_le_iff :
    lastKey key p b ≤ lastKey key p a ↔ key b < key a ∨ key b = key a ∧ (p a → p b) := by
  unfold lastKey
  rw [Prod.Lex.toLex_le_toLex]
  cases p a <;> cases p b <;> simp

theorem pairwise_lastKey :
    (orderByDesc (lastKey key p) rows).Pairwise fun a b => lastKey key p b ≤ lastKey key p a :=
  orderByDesc_pairwise

/-- The order in which the rows with `p` are the last ones with their key. -/
def last (key : α → β) (p : α → Bool) (rows : List α) : QueryOrder key rows where
  list := orderByDesc (lastKey key p) rows
  perm := orderByDesc_perm
  sorted := pairwise_lastKey.imp fun h => (lastKey_le_iff.1 h).elim le_of_lt fun h => h.1.le

/-! ### The fewest rows in front -/

/-- The first rows, without one that has `p`: at most one other comes in its place. -/
theorem countP_take_remove {q r : List α} (ha : p a) (n : ℕ) :
    ((q ++ r).take n).countP p ≤ ((q ++ a :: r).take n).countP p := by
  rcases Nat.lt_or_ge q.length n with hn | hn
  · obtain ⟨m, rfl⟩ : ∃ m, n = q.length + (m + 1) := ⟨n - q.length - 1, by omega⟩
    rw [List.take_length_add_append, List.take_length_add_append, List.take_succ_cons,
      List.countP_append, List.countP_append, List.countP_cons_of_pos ha]
    have hone : (r.take (m + 1)).countP p ≤ (r.take m).countP p + 1 := by
      rw [List.take_add_one, List.countP_append]
      have hle : r[m]?.toList.countP p ≤ r[m]?.toList.length := List.countP_le_length
      have hlen : r[m]?.toList.length ≤ 1 := by cases r[m]? <;> simp
      omega
    omega
  · rw [List.take_append_of_le_length hn, List.take_append_of_le_length hn]

/-- One more row than the first, without one of them: if that one is not in front, or has `p`, the
one that comes in has it too. -/
theorem countP_take_succ {q r : List α} {n : ℕ} (h : p a = true → ∀ b ∈ q, p b = true) :
    ((q ++ r).take n).countP p + (if p a = true then 1 else 0) ≤
      ((q ++ a :: r).take (n + 1)).countP p := by
  rcases Nat.lt_or_ge n q.length with hn | hn
  · rw [List.take_append_of_le_length hn.le, List.take_append_of_le_length hn,
      List.take_succ_eq_append_getElem hn, List.countP_append, List.countP_singleton]
    split_ifs with ha hb hb
    · exact le_rfl
    · exact absurd (h ha _ (List.getElem_mem hn)) hb
    · omega
    · omega
  · obtain ⟨m, rfl⟩ := Nat.exists_eq_add_of_le hn
    rw [Nat.add_assoc, List.take_length_add_append, List.take_length_add_append,
      List.take_succ_cons, List.countP_append, List.countP_append, List.countP_cons]
    omega

/-- A list that puts `p` last has the fewest in front. -/
theorem countP_take_le {l l' : List α} (hperm : l.Perm l')
    (hl : l.Pairwise fun a b => lastKey key p b ≤ lastKey key p a)
    (hl' : l'.Pairwise fun a b => key b ≤ key a) (n : ℕ) :
    (l.take n).countP p ≤ (l'.take n).countP p := by
  induction l generalizing l' n with
  | nil =>
    rw [hperm.nil_eq]
  | cons a l ih =>
    obtain ⟨hfirst, hl⟩ := List.pairwise_cons.1 hl
    obtain ⟨q, r, rfl⟩ := List.append_of_mem (hperm.mem_iff.1 List.mem_cons_self)
    have hrest : l.Perm (q ++ r) := (hperm.trans List.perm_middle).cons_inv
    cases n with
    | zero => simp
    | succ n =>
      -- if the first row has `p`, so have all rows with the same key, and those in front of it in
      -- the other order are such rows
      have hfront : p a = true → ∀ b ∈ q, p b = true := by
        intro ha b hb
        have hle : key a ≤ key b := (List.pairwise_append.1 hl').2.2 b hb a List.mem_cons_self
        have hb' : b ∈ l := hrest.mem_iff.2 (List.mem_append_left r hb)
        rcases lastKey_le_iff.1 (hfirst b hb') with hlt | ⟨-, hp⟩
        · exact absurd hle (not_le.2 hlt)
        · exact hp ha
      have hsub : (q ++ r).Sublist (q ++ a :: r) :=
        (List.Sublist.refl q).append (List.sublist_cons_self a r)
      calc ((a :: l).take (n + 1)).countP p
          = (l.take n).countP p + if p a = true then 1 else 0 := by
            rw [List.take_succ_cons, List.countP_cons]
        _ ≤ ((q ++ r).take n).countP p + if p a = true then 1 else 0 :=
            Nat.add_le_add_right (ih hrest hl (hl'.sublist hsub) n) _
        _ ≤ ((q ++ a :: r).take (n + 1)).countP p := countP_take_succ hfront

/-- **No order has fewer rows with `p` in front** than the one that puts them last. -/
theorem countP_last_le (o : QueryOrder key rows) (n : ℕ) :
    ((last key p rows).list.take n).countP p ≤ (o.list.take n).countP p :=
  countP_take_le ((last key p rows).perm.trans o.perm.symm) pairwise_lastKey o.sorted n

/-- One more row with `p` takes no other away. -/
theorem countP_last_concat_of_pos (key : α → β) (p : α → Bool) (ha : p a = true) (n : ℕ) :
    ((last key p rows).list.take n).countP p ≤
      ((last key p (rows ++ [a])).list.take n).countP p := by
  let o := last key p (rows ++ [a])
  obtain ⟨q, r, hqr⟩ := List.append_of_mem (o.perm.mem_iff.2 (List.mem_append_right rows
    (List.mem_singleton_self a)))
  have hrest : (q ++ r).Perm rows := by
    have h : (q ++ a :: r).Perm (rows ++ [a]) := hqr ▸ o.perm
    exact ((List.perm_middle.symm.trans h).trans (List.perm_append_singleton a rows)).cons_inv
  have hsub : (q ++ r).Sublist (q ++ a :: r) :=
    (List.Sublist.refl q).append (List.sublist_cons_self a r)
  have hsorted : (q ++ a :: r).Pairwise fun a b => key b ≤ key a := hqr ▸ o.sorted
  calc ((last key p rows).list.take n).countP p
      ≤ ((q ++ r).take n).countP p := countP_last_le ⟨q ++ r, hrest, hsorted.sublist hsub⟩ n
    _ ≤ ((q ++ a :: r).take n).countP p := countP_take_remove ha n
    _ = (o.list.take n).countP p := by rw [hqr]

/-- **One more row without `p`**, with the greatest key, takes one away exactly when the rows in
front are as many as they may be and the last of them has `p`. -/
theorem countP_last_concat (key : α → β) (p : α → Bool) (ha : p a = false)
    (h : ∀ b ∈ rows, key b ≤ key a) {n : ℕ} (hn : 0 < n) :
    ((last key p rows).list.take n).countP p =
      ((last key p (rows ++ [a])).list.take n).countP p +
        if ((last key p rows).list.take n).length = n ∧
          ∃ w ∈ ((last key p rows).list.take n).getLast?, p w = true then 1 else 0 := by
  have hlast : ∀ b ∈ rows, lastKey key p b ≤ lastKey key p a := by
    intro b hb
    rw [lastKey_le_iff]
    rcases (h b hb).lt_or_eq with hlt | heq
    · exact .inl hlt
    · exact .inr ⟨heq, fun hp => absurd hp (by simp [ha])⟩
  rcases take_orderByDesc_concat hn hlast with
    ⟨hlt, hperm⟩ | ⟨-, hsame, heq⟩ | ⟨v, w, hw, hlen, -, hperm⟩
  · have hfew : ((last key p rows).list.take n).length < n := hlt
    have hcount : ((last key p (rows ++ [a])).list.take n).countP p =
        (a :: (last key p rows).list.take n).countP p := hperm.countP_eq p
    rw [if_neg (fun hfull => hfew.ne hfull.1), hcount, List.countP_cons_of_neg (by simp [ha])]
    rfl
  · -- the rows in front are as recent as the new one, and all without `p`
    have hsame' : (last key p (rows ++ [a])).list.take n = (last key p rows).list.take n := hsame
    rw [hsame', if_neg]
    · rfl
    · rintro ⟨-, w, hw, hp⟩
      have hkey := heq w (List.mem_of_getLast? hw)
      rw [lastKey, lastKey, toLex_inj, Prod.mk.injEq, hp, ha] at hkey
      exact absurd hkey.2 (by decide)
  · have hfront : (last key p rows).list.take n = v ++ [w] := hw
    have hcount : ((last key p (rows ++ [a])).list.take n).countP p = (a :: v).countP p :=
      hperm.countP_eq p
    have hlen' : (v ++ [w]).length = n := hw ▸ hlen
    rw [hcount, List.countP_cons_of_neg (by simp [ha]), hfront, List.countP_append,
      List.countP_singleton]
    simp [hlen']

end QueryOrder

end StudyOasis
