import Mathlib.Data.List.Chain
import Mathlib.Data.List.Infix
import Mathlib.Order.Bounds.Basic
import Mathlib.Order.MinMax

/-!
# Blocks of a list

A block is a part of a list without gaps whose neighbours are related, here by any relation.

* `isGreatest_firstBlocks_cons_cons` : the longest block that starts with the first element;
* `isGreatest_blocks_cons` : **the longest block of a list** is that one or one of the rest.
-/

namespace StudyOasis

variable {α : Type*} {R S : α → α → Prop} {a b : α} {l : List α} {m n : ℕ}

/-- The lengths of the blocks of a list. -/
def blockLengths (R : α → α → Prop) (l : List α) : Set ℕ :=
  {n | ∃ block, block <:+: l ∧ block.IsChain R ∧ block.length = n}

/-- The lengths of the blocks that a list starts with. -/
def firstBlockLengths (R : α → α → Prop) (l : List α) : Set ℕ :=
  {n | ∃ block, block <+: l ∧ block.IsChain R ∧ block.length = n}

theorem firstBlockLengths_subset : firstBlockLengths R l ⊆ blockLengths R l := by
  rintro n ⟨block, hpre, hchain, hlen⟩
  exact ⟨block, hpre.isInfix, hchain, hlen⟩

/-- A block of a list stays one for every relation that says the same of its neighbours. -/
theorem isChain_congr (h : l.Pairwise fun a b => R a b ↔ S a b) : l.IsChain R ↔ l.IsChain S := by
  induction l with
  | nil => simp
  | cons a l ih =>
    obtain ⟨ha, hl⟩ := List.pairwise_cons.1 h
    rw [List.isChain_cons, List.isChain_cons, ih hl]
    refine and_congr_left fun _ => forall₂_congr fun b hb => ?_
    exact ha b (List.mem_of_mem_head? hb)

theorem blockLengths_congr (h : l.Pairwise fun a b => R a b ↔ S a b) :
    blockLengths R l = blockLengths S l := by
  ext n
  refine exists_congr fun block => and_congr_right fun hsub => and_congr_left fun _ => ?_
  exact isChain_congr (h.sublist hsub.sublist)

theorem firstBlockLengths_congr (h : l.Pairwise fun a b => R a b ↔ S a b) :
    firstBlockLengths R l = firstBlockLengths S l := by
  ext n
  refine exists_congr fun block => and_congr_right fun hsub => and_congr_left fun _ => ?_
  exact isChain_congr (h.sublist hsub.sublist)

theorem isGreatest_firstBlocks_singleton : IsGreatest (firstBlockLengths R [a]) 1 := by
  refine ⟨⟨[a], List.prefix_rfl, .singleton a, rfl⟩, ?_⟩
  rintro n ⟨block, hpre, -, rfl⟩
  exact hpre.length_le

theorem isGreatest_blocks_nil : IsGreatest (blockLengths R ([] : List α)) 0 := by
  refine ⟨⟨[], List.infix_rfl, .nil, rfl⟩, ?_⟩
  rintro n ⟨block, hsub, -, rfl⟩
  exact hsub.length_le

/-- The first element joins the block behind it, if it is related to its neighbour. -/
theorem isGreatest_firstBlocks_cons_cons (hR : R a b)
    (h : IsGreatest (firstBlockLengths R (b :: l)) n) :
    IsGreatest (firstBlockLengths R (a :: b :: l)) (n + 1) := by
  obtain ⟨⟨block, hpre, hchain, rfl⟩, hle⟩ := h
  constructor
  · refine ⟨a :: block, List.cons_prefix_cons.2 ⟨rfl, hpre⟩, ?_, rfl⟩
    refine List.isChain_cons.2 ⟨fun x hx => ?_, hchain⟩
    rcases List.prefix_cons_iff.1 hpre with rfl | ⟨t, rfl, -⟩
    · cases hx
    · obtain rfl := Option.some.inj hx
      exact hR
  · rintro m ⟨block', hpre', hchain', rfl⟩
    rcases List.prefix_cons_iff.1 hpre' with rfl | ⟨t, rfl, ht⟩
    · exact Nat.zero_le _
    · exact Nat.succ_le_succ (hle ⟨t, ht, (List.isChain_cons.1 hchain').2, rfl⟩)

/-- The first element stands alone, if it is not related to its neighbour. -/
theorem isGreatest_firstBlocks_one (hR : ¬ R a b) :
    IsGreatest (firstBlockLengths R (a :: b :: l)) 1 := by
  refine ⟨⟨[a], List.cons_prefix_cons.2 ⟨rfl, List.nil_prefix⟩, .singleton a, rfl⟩, ?_⟩
  rintro n ⟨block, hpre, hchain, rfl⟩
  rcases List.prefix_cons_iff.1 hpre with rfl | ⟨t, rfl, ht⟩
  · exact Nat.zero_le _
  · rcases List.prefix_cons_iff.1 ht with rfl | ⟨u, rfl, -⟩
    · exact le_rfl
    · exact absurd (List.isChain_cons_cons.1 hchain).1 hR

/-- **The longest block of a list** starts with the first element or lies behind it. -/
theorem isGreatest_blocks_cons (hfirst : IsGreatest (firstBlockLengths R (a :: l)) m)
    (hrest : IsGreatest (blockLengths R l) n) :
    IsGreatest (blockLengths R (a :: l)) (max m n) := by
  constructor
  · rcases max_choice m n with hmax | hmax
    · rw [hmax]
      exact firstBlockLengths_subset hfirst.1
    · rw [hmax]
      obtain ⟨block, hsub, hchain, hlen⟩ := hrest.1
      exact ⟨block, hsub.trans (List.suffix_cons a l).isInfix, hchain, hlen⟩
  · rintro k ⟨block, hsub, hchain, rfl⟩
    rcases List.infix_cons_iff.1 hsub with hpre | hsub
    · exact le_max_of_le_left (hfirst.2 ⟨block, hpre, hchain, rfl⟩)
    · exact le_max_of_le_right (hrest.2 ⟨block, hsub, hchain, rfl⟩)

end StudyOasis
