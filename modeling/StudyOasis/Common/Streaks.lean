import Mathlib.Data.Finset.Interval
import Mathlib.Data.Int.ConditionallyCompleteOrder
import Mathlib.Data.Int.Interval
import Mathlib.Data.Set.Finite.Lattice
import Mathlib.Order.Bounds.Basic
import StudyOasis.Common.Blocks

/-!
# Streaks

Days are integers.  A streak is a run of days of a set, one after the other.

* `Streak days last n` : the streak that ends with `last` has exactly `n` days;
* `Longest days n` : no streak has more than `n` days, and one has `n`;
* `streak_iff_of_upper`, `longest_iff_of_upper` : what is left of a streak when only the last days
  of the set are known;
* `exists_firstBlock`, `exists_longestBlock` : on a list from the last day to the first, streaks are
  blocks.
-/

namespace StudyOasis

section Streaks

variable {days window : Set ℤ} {last : ℤ} {m n k : ℕ}

/-- The `n` days up to `last` are days of the set. -/
def Consecutive (days : Set ℤ) (last : ℤ) (n : ℕ) : Prop := ∀ i : ℕ, i < n → last - i ∈ days

/-- The streak that ends with `last` has exactly `n` days. -/
structure Streak (days : Set ℤ) (last : ℤ) (n : ℕ) : Prop where
  consecutive : Consecutive days last n
  before : last - n ∉ days

instance [DecidablePred (· ∈ days)] : Decidable (Consecutive days last n) :=
  inferInstanceAs (Decidable (∀ i : ℕ, i < n → last - i ∈ days))

theorem streak_iff : Streak days last n ↔ Consecutive days last n ∧ last - n ∉ days :=
  ⟨fun h => ⟨h.consecutive, h.before⟩, fun h => ⟨h.1, h.2⟩⟩

instance [DecidablePred (· ∈ days)] : Decidable (Streak days last n) :=
  decidable_of_iff _ streak_iff.symm

/-- No streak has more than `k` days. -/
def StreaksLe (days : Set ℤ) (k : ℕ) : Prop := ∀ last m, Consecutive days last m → m ≤ k

/-- The longest streak has `n` days. -/
def Longest (days : Set ℤ) (n : ℕ) : Prop := IsGreatest {m | ∃ last, Consecutive days last m} n

theorem Consecutive.mono (h : Consecutive window last n) (hsub : window ⊆ days) :
    Consecutive days last n := fun i hi => hsub (h i hi)

theorem Consecutive.of_le (h : Consecutive days last n) (hm : m ≤ n) : Consecutive days last m :=
  fun i hi => h i (hi.trans_le hm)

theorem Streak.unique (hm : Streak days last m) (hn : Streak days last n) : m = n := by
  rcases Nat.lt_trichotomy m n with hlt | heq | hgt
  · exact absurd (hn.consecutive m hlt) hm.before
  · exact heq
  · exact absurd (hm.consecutive n hgt) hn.before

theorem streak_zero_iff : Streak days last 0 ↔ last ∉ days := by
  constructor
  · intro h
    simpa using h.before
  · intro h
    exact ⟨fun i hi => absurd hi (Nat.not_lt_zero i), by simpa using h⟩

/-- One more day at the end. -/
theorem streak_succ_iff : Streak days last (n + 1) ↔ last ∈ days ∧ Streak days (last - 1) n := by
  have hshift (i : ℕ) : last - 1 - (i : ℤ) = last - ((i + 1 : ℕ) : ℤ) := by
    omega
  constructor
  · intro h
    refine ⟨by simpa using h.consecutive 0 n.succ_pos, fun i hi => ?_, ?_⟩
    · rw [hshift]
      exact h.consecutive (i + 1) (Nat.succ_lt_succ hi)
    · rw [hshift]
      exact h.before
  · rintro ⟨hlast, h⟩
    refine ⟨fun i hi => ?_, ?_⟩
    · cases i with
      | zero => simpa using hlast
      | succ i =>
        rw [← hshift]
        exact h.consecutive i (Nat.lt_of_succ_lt_succ hi)
    · rw [← hshift]
      exact h.before

/-- A streak of a finite set has a first day. -/
theorem exists_streak (hfin : days.Finite) (last : ℤ) : ∃ n, Streak days last n := by
  by_contra hnone
  have hall (n : ℕ) : Consecutive days last n := by
    induction n with
    | zero => exact fun i hi => absurd hi (Nat.not_lt_zero i)
    | succ n ih =>
      intro i hi
      rcases Nat.lt_succ_iff_lt_or_eq.1 hi with hlt | rfl
      · exact ih i hlt
      · by_contra hnot
        exact hnone ⟨i, ih, hnot⟩
  refine Set.infinite_of_injective_forall_mem (f := fun i : ℕ => last - (i : ℤ)) ?_ ?_ hfin
  · intro i j hij
    simpa using hij
  · exact fun i => hall (i + 1) i i.lt_succ_self

/-- The streak that ends with a day of the set has that day at least. -/
theorem exists_streak_of_mem (hfin : days.Finite) (h : last ∈ days) :
    ∃ n, Streak days last (n + 1) := by
  obtain ⟨n, hn⟩ := exists_streak hfin last
  cases n with
  | zero => exact absurd h (streak_zero_iff.1 hn)
  | succ n => exact ⟨n, hn⟩

theorem Longest.streaksLe (h : Longest days n) : StreaksLe days n :=
  fun last _ hm => h.2 ⟨last, hm⟩

/-- A number that bounds what the streaks bound is the longest of them. -/
theorem longest_of_le_iff (h : ∀ k, n ≤ k ↔ StreaksLe days k) : Longest days n := by
  refine ⟨?_, fun m ⟨last, hm⟩ => (h n).1 le_rfl last m hm⟩
  cases n with
  | zero => exact ⟨0, fun i hi => absurd hi (Nat.not_lt_zero i)⟩
  | succ n =>
    by_contra hnot
    refine absurd ((h n).2 fun last m hm => ?_) n.lt_irrefl
    -- a longer streak would contain one of that length
    by_contra hlt
    exact hnot ⟨last, hm.of_le (by omega)⟩

theorem longest_empty_iff (hfin : Longest days n) : n = 0 ↔ days = ∅ := by
  constructor
  · rintro rfl
    refine Set.eq_empty_of_forall_notMem fun day hday => ?_
    have : Consecutive days day 1 := fun i hi => by
      obtain rfl : i = 0 := by omega
      simpa using hday
    exact absurd (hfin.streaksLe day 1 this) (by decide)
  · rintro rfl
    obtain ⟨last, hn⟩ := hfin.1
    by_contra hne
    exact hn 0 (by omega)

/-! ### The last days of a set -/

/-- The window holds the last days of the set: with a day, all later ones. -/
structure Upper (window days : Set ℤ) : Prop where
  subset : window ⊆ days
  later : ∀ day ∈ window, ∀ day' ∈ days, day ≤ day' → day' ∈ window

theorem Upper.consecutive (h : Upper window days) (hd : Consecutive days last (n + 1))
    (hfirst : last - n ∈ window) : Consecutive window last (n + 1) :=
  fun i hi => h.later _ hfirst _ (hd i hi) (by omega)

/-- A streak is seen in full when its first day is. -/
theorem streak_iff_of_upper (h : Upper window days) (hd : Streak days last (n + 1)) :
    Streak window last (n + 1) ↔ last - n ∈ window := by
  constructor
  · intro hw
    exact hw.consecutive n n.lt_succ_self
  · intro hfirst
    exact ⟨h.consecutive hd.consecutive hfirst, fun hbefore => hd.before (h.subset hbefore)⟩

/-- The longest streak is seen when the first day of one of that length is. -/
theorem longest_iff_of_upper (h : Upper window days) (hw : Longest window n) :
    Longest days n ↔ days = ∅ ∨
      ∃ last m, Consecutive days last (m + 1) ∧ StreaksLe days (m + 1) ∧ last - m ∈ window := by
  constructor
  · intro hd
    cases n with
    | zero => exact .inl ((longest_empty_iff hd).1 rfl)
    | succ m =>
      obtain ⟨last, hlast⟩ := hw.1
      exact .inr ⟨last, m, hlast.mono h.subset, hd.streaksLe, hlast m m.lt_succ_self⟩
  · rintro (rfl | ⟨last, m, hlast, hle, hfirst⟩)
    · obtain rfl := Set.subset_empty_iff.1 h.subset
      exact hw
    · obtain rfl : n = m + 1 := by
        obtain ⟨last', hlast'⟩ := hw.1
        exact (hle last' n (hlast'.mono h.subset)).antisymm
          (hw.streaksLe last (m + 1) (h.consecutive hlast hfirst))
      exact ⟨⟨last, hlast⟩, fun m' ⟨last', hm'⟩ => hle last' m' hm'⟩

/-- The window is the streak that ends with `last` exactly when it has as many days. -/
theorem streak_card_iff {window : Finset ℤ} (h : Upper window days) (hlast : IsGreatest days last)
    (hmem : last ∈ window) :
    Streak days last window.card ↔
      ∃ first, first - 1 ∉ days ∧ window = Finset.Icc first last := by
  have hle : ∀ day ∈ window, day ≤ last := fun day hday => hlast.2 (h.subset hday)
  constructor
  · intro hs
    refine ⟨last - window.card + 1, by simpa using hs.before, ?_⟩
    refine (Finset.eq_of_subset_of_card_le (fun day hday => ?_) ?_).symm
    · rw [Finset.mem_Icc] at hday
      by_contra hnot
      -- the window lies behind a day of the streak that it lacks, so it is too small
      have hsub : window ⊆ Finset.Ioc day last := by
        intro day' hday'
        refine Finset.mem_Ioc.2 ⟨?_, hle day' hday'⟩
        by_contra hge
        have hday'' : last - (last - day).toNat ∈ days :=
          hs.consecutive (last - day).toNat (by omega)
        exact hnot (h.later day' hday' day (by rwa [show last - (last - day).toNat = day by omega]
          at hday'') (by omega))
      have hcard := Finset.card_le_card hsub
      rw [Int.card_Ioc] at hcard
      have := Finset.card_pos.2 ⟨last, hmem⟩
      omega
    · rw [Int.card_Icc]
      omega
  · rintro ⟨first, hbefore, hwindow⟩
    have hfirst : first ≤ last := by
      rw [hwindow, Finset.mem_Icc] at hmem
      exact hmem.1
    rw [hwindow, Int.card_Icc]
    refine ⟨fun i hi => h.subset ?_, ?_⟩
    · rw [hwindow, Finset.coe_Icc, Set.mem_Icc]
      omega
    · rwa [show last - ((last + 1 - first).toNat : ℤ) = first - 1 by omega]

end Streaks

/-! ### Lists of days -/

section Lists

variable {day : ℤ} {days : List ℤ} {n k : ℕ}

/-- The different days of a list from the last one to the first. -/
theorem pairwise_eraseDups (h : days.Pairwise (· ≥ ·)) : days.eraseDups.Pairwise (· > ·) := by
  induction hn : days.length using Nat.strong_induction_on generalizing days with
  | h n ih =>
    cases days with
    | nil => simp
    | cons day days =>
      obtain ⟨hday, hdays⟩ := List.pairwise_cons.1 h
      rw [List.eraseDups_cons, List.pairwise_cons]
      constructor
      · intro day' hday'
        obtain ⟨hmem, hne⟩ := List.mem_filter.1 (List.mem_eraseDups.1 hday')
        have := hday day' hmem
        simp at hne
        omega
      · refine ih _ ?_ (hdays.filter _) rfl
        rw [← hn, List.length_cons]
        exact Nat.lt_succ_of_le (List.length_filter_le _ _)

/-- The last day and the streak before it are the streak that ends with the last day. -/
theorem streak_cons (h : (day :: days).Pairwise (· > ·)) (hs : Streak {d | d ∈ days} (day - 1) n) :
    Streak {d | d ∈ day :: days} day (n + 1) := by
  have hlt := (List.pairwise_cons.1 h).1
  refine streak_succ_iff.2 ⟨List.mem_cons_self, fun i hi => ?_, fun hmem => ?_⟩
  · exact List.mem_cons_of_mem _ (hs.consecutive i hi)
  · rcases List.mem_cons.1 hmem with heq | hmem
    · omega
    · exact hs.before hmem

/-- The streaks of a list: the one that ends with the last day, and those before it. -/
theorem streaksLe_cons_iff (h : (day :: days).Pairwise (· > ·))
    (hs : Streak {d | d ∈ days} (day - 1) n) :
    StreaksLe {d | d ∈ day :: days} k ↔ n + 1 ≤ k ∧ StreaksLe {d | d ∈ days} k := by
  have hlt := (List.pairwise_cons.1 h).1
  constructor
  · intro hle
    refine ⟨hle day (n + 1) (streak_cons h hs).consecutive, fun last m hm => ?_⟩
    exact hle last m (hm.mono fun d hd => List.mem_cons_of_mem _ hd)
  · rintro ⟨hn, hle⟩ last m hm
    cases m with
    | zero => exact Nat.zero_le k
    | succ m =>
      by_cases hlast : last = day
      · -- the streak that ends with the last day is not longer than `n + 1`
        subst hlast
        by_contra hlt'
        exact (streak_cons h hs).before (hm (n + 1) (by omega))
      · refine hle last (m + 1) fun i hi => ?_
        have hmem := hm 0 m.succ_pos
        rcases List.mem_cons.1 hmem with heq | hmem
        · exact absurd (by simpa using heq) hlast
        · have hlast' := hlt _ hmem
          rcases List.mem_cons.1 (hm i hi) with heq | hmem'
          · simp at hlast'
            omega
          · exact hmem'

/-- The next element of the list is the day before. -/
def DayBefore (day day' : ℤ) : Prop := day' = day - 1

/-- The first block of a list is the streak that ends with the last day. -/
theorem exists_firstBlock (h : (day :: days).Pairwise (· > ·)) :
    ∃ n, IsGreatest (firstBlockLengths DayBefore (day :: days)) (n + 1) ∧
      Streak {d | d ∈ days} (day - 1) n := by
  induction days generalizing day with
  | nil => exact ⟨0, isGreatest_firstBlocks_singleton, streak_zero_iff.2 List.not_mem_nil⟩
  | cons day' days ih =>
    obtain ⟨hlt, hdays⟩ := List.pairwise_cons.1 h
    obtain ⟨n, hn, hs⟩ := ih hdays
    by_cases hbefore : day' = day - 1
    · refine ⟨n + 1, isGreatest_firstBlocks_cons_cons hbefore hn, ?_⟩
      rw [← hbefore]
      exact streak_cons hdays hs
    · refine ⟨0, isGreatest_firstBlocks_one hbefore, streak_zero_iff.2 fun hmem => ?_⟩
      have hday' := hlt day' List.mem_cons_self
      rcases List.mem_cons.1 hmem with heq | hmem
      · exact hbefore heq.symm
      · have := (List.pairwise_cons.1 hdays).1 _ hmem
        omega

/-- The longest block of a list is the longest streak. -/
theorem exists_longestBlock (h : days.Pairwise (· > ·)) :
    ∃ n, IsGreatest (blockLengths DayBefore days) n ∧ ∀ k, n ≤ k ↔ StreaksLe {d | d ∈ days} k := by
  induction days with
  | nil =>
    refine ⟨0, isGreatest_blocks_nil, fun k => iff_of_true (Nat.zero_le k) fun last m hm => ?_⟩
    by_contra hlt
    exact List.not_mem_nil (hm 0 (by omega))
  | cons day days ih =>
    obtain ⟨n, hn, hs⟩ := exists_firstBlock h
    obtain ⟨m, hm, hle⟩ := ih (List.pairwise_cons.1 h).2
    refine ⟨max (n + 1) m, isGreatest_blocks_cons hn hm, fun k => ?_⟩
    rw [streaksLe_cons_iff h hs, max_le_iff, hle]

end Lists

end StudyOasis
