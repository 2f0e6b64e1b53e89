import Mathlib
import StudyOasis.Common.QueryOrder

/-!
# Groups and their sizes

`GROUP BY key` with a count for each group.  `ORDER BY count DESC` leaves open which of two groups
of the same size comes first, so an answer is any `QueryOrder` of the groups by their sizes.

* `sum_groupBy` : the sizes add up to the number of elements;
* `sum_sublist_ranked_le`, `countP_le_ranked`, `ranked_le_countP` : what a limit keeps of the
  groups, and what it leaves out.
-/

namespace StudyOasis

section Groups

variable {α β : Type*} [DecidableEq β] {key : α → β} {l : List α}

/-- The groups of a list, each with its size. -/
def groupBy (key : α → β) (l : List α) : List (β × ℕ) :=
  (l.map key).dedup.map fun k => (k, (l.map key).count k)

theorem keys_groupBy : (groupBy key l).map Prod.fst = (l.map key).dedup := by
  rw [groupBy, List.map_map]
  exact List.map_id _

/-- No group comes twice. -/
theorem nodup_groupBy : ((groupBy key l).map Prod.fst).Nodup := by
  rw [keys_groupBy]
  exact List.nodup_dedup _

theorem mem_groupBy_iff {k : β} {n : ℕ} :
    (k, n) ∈ groupBy key l ↔ 0 < n ∧ l.countP (fun a => key a = k) = n := by
  have hcount : (l.map key).count k = l.countP fun a => key a = k := by
    rw [List.count, List.countP_map]
    exact List.countP_congr fun a _ => by simp
  rw [groupBy, List.mem_map]
  constructor
  · rintro ⟨k', hk', heq⟩
    obtain ⟨rfl, rfl⟩ := Prod.mk.inj heq
    exact ⟨List.count_pos_iff.2 (List.mem_dedup.1 hk'), hcount.symm⟩
  · rintro ⟨hpos, hn⟩
    rw [← hcount] at hn
    exact ⟨k, List.mem_dedup.2 (List.count_pos_iff.1 (hn ▸ hpos)), by rw [hn]⟩

/-- **The sizes add up to the number of elements.** -/
theorem sum_groupBy : ((groupBy key l).map Prod.snd).sum = l.length := by
  rw [groupBy, List.map_map, ← List.length_map (f := key), ← List.sum_map_count_dedup_eq_length]
  rfl

variable (o : QueryOrder Prod.snd (groupBy key l))

theorem nodup_ranked : (o.list.map Prod.fst).Nodup :=
  (o.perm.map Prod.fst).nodup_iff.2 nodup_groupBy

theorem sum_ranked : (o.list.map Prod.snd).sum = l.length :=
  ((o.perm.map Prod.snd).sum_eq).trans sum_groupBy

/-- A group comes with the number of its elements. -/
theorem snd_ranked {g : β × ℕ} (hg : g ∈ o.list) : g.2 = l.countP fun a => key a = g.1 :=
  (mem_groupBy_iff.1 (o.perm.mem_iff.1 hg)).2.symm

/-- There are as many groups as different keys. -/
theorem length_ranked : o.list.length = (l.map key).dedup.length := by
  rw [o.perm.length_eq, groupBy, List.length_map]

/-- **What a limit keeps** is no more than there is. -/
theorem sum_sublist_ranked_le {gs : List (β × ℕ)} (h : gs.Sublist o.list) :
    (gs.map Prod.snd).sum ≤ l.length := by
  rw [← sum_ranked o]
  exact (h.map Prod.snd).sum_le_sum fun _ _ => Nat.zero_le _

/-- **What a limit leaves out**: a key that is not among the first `n` groups has no more elements
than any of them. -/
theorem countP_le_ranked {n : ℕ} {k : β} (hk : k ∉ (o.list.take n).map Prod.fst) {g : β × ℕ}
    (hg : g ∈ o.list.take n) : (l.countP fun a => key a = k) ≤ g.2 := by
  by_cases hpos : 0 < l.countP fun a => key a = k
  · have hmem : (k, l.countP fun a => key a = k) ∈ o.list :=
      o.perm.mem_iff.2 (mem_groupBy_iff.2 ⟨hpos, rfl⟩)
    exact pairwise_take_rest o.sorted hg hmem fun htake => hk (List.mem_map_of_mem htake)
  · omega

/-- A key that is not among the groups behind the first `n` has no fewer elements than any of
them. -/
theorem ranked_le_countP {n : ℕ} {k : β} (hk : k ∉ (o.list.drop n).map Prod.fst)
    (hpos : 0 < l.countP fun a => key a = k) {g : β × ℕ} (hg : g ∈ o.list.drop n) :
    g.2 ≤ l.countP fun a => key a = k := by
  have hmem : (k, l.countP fun a => key a = k) ∈ o.list :=
    o.perm.mem_iff.2 (mem_groupBy_iff.2 ⟨hpos, rfl⟩)
  have hsorted := o.sorted
  rw [← List.take_append_drop n o.list] at hmem hsorted
  rcases List.mem_append.1 hmem with hmem | hmem
  · exact (List.pairwise_append.1 hsorted).2.2 _ hmem _ hg
  · exact absurd (List.mem_map_of_mem hmem) hk

end Groups

end StudyOasis
