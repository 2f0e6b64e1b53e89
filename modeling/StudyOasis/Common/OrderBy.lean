import Mathlib.Data.List.Sort

/-!
# Sorting by a key

`ORDER BY key` and `sort` with a comparison of keys, ascending and descending; elements with the
same key stay in the order they come in.  When the keys differ, the result depends only on what
is sorted (`eq_orderByAsc`), and the descending order is the ascending one read backwards
(`orderByDesc_eq_reverse`).
-/

namespace StudyOasis

variable {α β : Type*} [LinearOrder β] {key : α → β} {l l' : List α}

/-- Sort by ascending key. -/
def orderByAsc (key : α → β) (l : List α) : List α := l.insertionSort fun a b => key a ≤ key b

/-- Sort by descending key. -/
def orderByDesc (key : α → β) (l : List α) : List α := l.insertionSort fun a b => key b ≤ key a

theorem orderByAsc_perm : (orderByAsc key l).Perm l := List.perm_insertionSort _ l

theorem orderByDesc_perm : (orderByDesc key l).Perm l := List.perm_insertionSort _ l

theorem orderByAsc_pairwise : (orderByAsc key l).Pairwise fun a b => key a ≤ key b := by
  have : Std.Total fun a b : α => key a ≤ key b := ⟨fun a b => le_total (key a) (key b)⟩
  have : IsTrans α fun a b => key a ≤ key b := ⟨fun _ _ _ => le_trans⟩
  exact List.pairwise_insertionSort _ l

theorem orderByDesc_pairwise : (orderByDesc key l).Pairwise fun a b => key b ≤ key a := by
  have : Std.Total fun a b : α => key b ≤ key a := ⟨fun a b => le_total (key b) (key a)⟩
  have : IsTrans α fun a b => key b ≤ key a := ⟨fun _ _ _ h h' => le_trans h' h⟩
  exact List.pairwise_insertionSort _ l

/-- No two elements of the list have the same key. -/
def DistinctKeys (key : α → β) (l : List α) : Prop := ∀ a ∈ l, ∀ b ∈ l, key a = key b → a = b

instance [DecidableEq α] : Decidable (DistinctKeys key l) :=
  inferInstanceAs (Decidable (∀ a ∈ l, ∀ b ∈ l, key a = key b → a = b))

/-- A sorted list is determined by its elements when their keys differ. -/
theorem eq_orderByAsc (hd : DistinctKeys key l) (hp : l'.Perm l)
    (hs : l'.Pairwise fun a b => key a ≤ key b) : l' = orderByAsc key l := by
  refine List.Perm.eq_of_pairwise ?_ hs orderByAsc_pairwise (hp.trans orderByAsc_perm.symm)
  intro a b ha hb h h'
  exact hd a (hp.mem_iff.1 ha) b (orderByAsc_perm.mem_iff.1 hb) (le_antisymm h h')

theorem orderByAsc_eq_of_perm (hd : DistinctKeys key l) (hp : l'.Perm l) :
    orderByAsc key l' = orderByAsc key l :=
  eq_orderByAsc hd (orderByAsc_perm.trans hp) orderByAsc_pairwise

theorem orderByAsc_eq_self (hs : l.Pairwise fun a b => key a ≤ key b) : orderByAsc key l = l :=
  hs.insertionSort_eq

/-- Filtering and sorting commute. -/
theorem orderByAsc_filter (hd : DistinctKeys key l) (p : α → Bool) :
    (orderByAsc key l).filter p = orderByAsc key (l.filter p) := by
  refine eq_orderByAsc ?_ (orderByAsc_perm.filter p) (orderByAsc_pairwise.filter p)
  intro a ha b hb
  exact hd a (List.mem_of_mem_filter ha) b (List.mem_of_mem_filter hb)

/-- Mapping and sorting commute. -/
theorem map_orderByAsc {γ : Type*} {key' : γ → β} {f : α → γ} (h : ∀ a, key' (f a) = key a) :
    (orderByAsc key l).map f = orderByAsc key' (l.map f) := by
  refine List.map_insertionSort _ _ f l ?_
  intro a _ b _
  rw [h, h]

theorem map_orderByDesc {γ : Type*} {key' : γ → β} {f : α → γ} (h : ∀ a, key' (f a) = key a) :
    (orderByDesc key l).map f = orderByDesc key' (l.map f) := by
  refine List.map_insertionSort _ _ f l ?_
  intro a _ b _
  rw [h, h]

/-- Keys that agree on the elements sort them in the same way. -/
theorem orderByDesc_congr {key' : α → β} (h : ∀ a ∈ l, key a = key' a) :
    orderByDesc key l = orderByDesc key' l := by
  have hsort := List.map_insertionSort (fun a b => key b ≤ key a) (fun a b => key' b ≤ key' a) id l
    (fun a ha b hb => by rw [h a ha, h b hb, id, id])
  rwa [List.map_id, List.map_id] at hsort

/-- **The descending order is the ascending order read backwards.** -/
theorem orderByDesc_eq_reverse (hd : DistinctKeys key l) :
    orderByDesc key l = (orderByAsc key l).reverse := by
  rw [← List.reverse_eq_iff]
  -- the reversed list is sorted the other way round, and the keys leave it no choice
  refine eq_orderByAsc hd ?_ ?_
  · exact (List.reverse_perm _).trans orderByDesc_perm
  · rw [List.pairwise_reverse]
    exact orderByDesc_pairwise

/-! ### Stability -/

/-- The elements with one key stay in the order they come in. -/
theorem filter_orderByDesc (k : β) :
    (orderByDesc key l).filter (fun a => key a = k) = l.filter fun a => key a = k := by
  symm
  -- they are sorted already, so that they are found in the sorted list as they are
  have hsorted : (l.filter fun a => key a = k).Pairwise fun a b => key b ≤ key a := by
    refine List.pairwise_of_forall_mem_list fun a ha b hb => ?_
    rw [of_decide_eq_true (List.mem_filter.1 ha).2, of_decide_eq_true (List.mem_filter.1 hb).2]
  have : Std.Total fun a b : α => key b ≤ key a := ⟨fun a b => le_total (key b) (key a)⟩
  have : IsTrans α fun a b => key b ≤ key a := ⟨fun _ _ _ h h' => le_trans h' h⟩
  have hsub := (List.sublist_insertionSort hsorted List.filter_sublist).filter fun a => key a = k
  rw [List.filter_filter] at hsub
  simp only [Bool.and_self] at hsub
  exact hsub.eq_of_length (orderByDesc_perm.filter _).length_eq.symm

/-- **The sort is stable.** -/
theorem orderByDesc_stable {r : α → α → Prop} (h : l.Pairwise r) :
    (orderByDesc key l).Pairwise fun a b => key a = key b → r a b := by
  rw [List.pairwise_iff_forall_sublist]
  intro a b hab hkey
  have hab := hab.filter fun c => key c = key a
  rw [filter_orderByDesc, List.filter_eq_self.2 (by simp [hkey])] at hab
  exact List.pairwise_iff_forall_sublist.1 h (hab.trans List.filter_sublist)

/-! ### The first elements -/

theorem orderedInsert_of_forall {r : α → α → Prop} [DecidableRel r] {x : α}
    (h : ∀ b ∈ l, r x b) : l.orderedInsert r x = x :: l := by
  cases l with
  | nil => rfl
  | cons b l => exact List.orderedInsert_cons_of_le r l (h b List.mem_cons_self)

theorem orderedInsert_append {r : α → α → Prop} [DecidableRel r] {x : α} {p q : List α}
    (h : ∀ b ∈ p, ¬ r x b) : (p ++ q).orderedInsert r x = p ++ q.orderedInsert r x := by
  induction p with
  | nil => rfl
  | cons b p ih =>
    rw [List.cons_append, List.orderedInsert_of_not_le r _ (h b List.mem_cons_self),
      ih fun c hc => h c (List.mem_cons_of_mem b hc), List.cons_append]

/-- One more element with the greatest key comes behind those with the same key, in front of all
others. -/
theorem orderByDesc_concat {a : α} (h : ∀ b ∈ l, key b ≤ key a) :
    ∃ p q, orderByDesc key l = p ++ q ∧ orderByDesc key (l ++ [a]) = p ++ a :: q ∧
      (∀ b ∈ p, key b = key a) ∧ ∀ b ∈ q, key b < key a := by
  induction l with
  | nil => exact ⟨[], [], rfl, rfl, nofun, nofun⟩
  | cons x l ih =>
    obtain ⟨p, q, hl, hla, hp, hq⟩ := ih fun b hb => h b (List.mem_cons_of_mem x hb)
    unfold orderByDesc at hl hla ⊢
    rw [List.insertionSort_cons, List.cons_append, List.insertionSort_cons, hl, hla]
    rcases (h x List.mem_cons_self).eq_or_lt with hx | hx
    · -- `x` is put in front of elements of its own key or of a smaller one
      have hle : ∀ b ∈ p ++ q, key b ≤ key x := by
        intro b hb
        rw [hx]
        rcases List.mem_append.1 hb with hb | hb
        · exact (hp b hb).le
        · exact (hq b hb).le
      refine ⟨x :: p, q, orderedInsert_of_forall hle, orderedInsert_of_forall ?_, ?_, hq⟩
      · intro b hb
        rcases List.mem_append.1 hb with hb | hb
        · exact hle b (List.mem_append_left _ hb)
        · rcases List.mem_cons.1 hb with rfl | hb
          · exact hx.ge
          · exact hle b (List.mem_append_right _ hb)
      · intro b hb
        rcases List.mem_cons.1 hb with rfl | hb
        · exact hx
        · exact hp b hb
    · -- `x` is put among those of a smaller key
      have hgt : ∀ b ∈ p, ¬ key b ≤ key x := fun b hb => by
        rw [hp b hb, not_le]
        exact hx
      refine ⟨p, q.orderedInsert (fun b c => key c ≤ key b) x, orderedInsert_append hgt, ?_, hp, ?_⟩
      · rw [orderedInsert_append hgt, List.orderedInsert_cons, if_neg (not_le.2 hx)]
      · intro b hb
        rcases List.mem_cons.1 ((List.perm_orderedInsert _ x q).mem_iff.1 hb) with rfl | hb
        · exact hx
        · exact hq b hb

/-- The first elements of a list stand in front of all others. -/
theorem pairwise_take_rest {r : α → α → Prop} (h : l.Pairwise r) {n : ℕ} {a b : α}
    (ha : a ∈ l.take n) (hb : b ∈ l) (hnot : b ∉ l.take n) : r a b := by
  rw [← List.take_append_drop n l] at h hb
  exact (List.pairwise_append.1 h).2.2 a ha b ((List.mem_append.1 hb).resolve_left hnot)

/-- The keys of the first `n` elements are those that fewer than `n` elements exceed. -/
theorem mem_map_take_iff (h : l.Pairwise fun a b => key b ≤ key a) (n : ℕ) (x : β) :
    x ∈ (l.take n).map key ↔ x ∈ l.map key ∧ l.countP (fun a => x < key a) < n := by
  induction l generalizing n with
  | nil => simp
  | cons a l ih =>
    obtain ⟨ha, hl⟩ := List.pairwise_cons.1 h
    cases n with
    | zero => simp
    | succ n =>
      rw [List.take_succ_cons, List.map_cons, List.mem_cons, List.map_cons, List.mem_cons, ih hl,
        List.countP_cons]
      rcases lt_trichotomy x (key a) with hlt | heq | hgt
      · simp [hlt, hlt.ne]
      · subst heq
        have hzero : l.countP (fun b => key a < key b) = 0 := by
          rw [List.countP_eq_zero]
          intro b hb
          simpa using ha b hb
        simp [hzero]
      · have hnot : x ∉ l.map key := by
          intro hmem
          obtain ⟨b, hb, rfl⟩ := List.mem_map.1 hmem
          exact absurd (ha b hb) (not_le.2 hgt)
        simp [hgt.ne', hnot]

/-- **A window of the greatest elements** when one more with the greatest key comes: it grows, it
stays as it is, or its last element gives way. -/
theorem take_orderByDesc_concat {a : α} {n : ℕ} (hn : 0 < n) (h : ∀ b ∈ l, key b ≤ key a) :
    (((orderByDesc key l).take n).length < n ∧
      ((orderByDesc key (l ++ [a])).take n).Perm (a :: (orderByDesc key l).take n)) ∨
    (((orderByDesc key l).take n).length = n ∧
      (orderByDesc key (l ++ [a])).take n = (orderByDesc key l).take n ∧
        ∀ b ∈ (orderByDesc key l).take n, key b = key a) ∨
    ∃ v w, (orderByDesc key l).take n = v ++ [w] ∧ ((orderByDesc key l).take n).length = n ∧
      key w < key a ∧ ((orderByDesc key (l ++ [a])).take n).Perm (a :: v) := by
  obtain ⟨p, q, hl, hla, hp, hq⟩ := orderByDesc_concat h
  rw [hl, hla]
  rcases Nat.lt_or_ge (p ++ q).length n with hlt | hge
  · left
    rw [List.take_of_length_le hlt.le, List.take_of_length_le (by simp at hlt ⊢; omega)]
    exact ⟨hlt, List.perm_middle⟩
  · right
    have hlen : ((p ++ q).take n).length = n := List.length_take_of_le hge
    rcases Nat.lt_or_ge p.length n with hpn | hpn
    · right
      obtain ⟨m, rfl⟩ : ∃ m, n = p.length + (m + 1) := ⟨n - p.length - 1, by omega⟩
      have hm : m < q.length := by
        rw [List.length_append] at hge
        omega
      refine ⟨p ++ q.take m, q[m], ?_, hlen, hq _ (List.getElem_mem hm), ?_⟩
      · rw [List.take_length_add_append, List.append_assoc, List.take_append_getElem]
      · rw [List.take_length_add_append, List.take_succ_cons]
        exact List.perm_middle
    · left
      refine ⟨hlen, ?_, fun b hb => ?_⟩
      · rw [List.take_append_of_le_length hpn, List.take_append_of_le_length hpn]
      · rw [List.take_append_of_le_length hpn] at hb
        exact hp b (List.mem_of_mem_take hb)

end StudyOasis
