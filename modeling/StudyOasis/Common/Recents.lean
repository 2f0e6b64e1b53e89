import Mathlib.Data.List.Nodup
import Mathlib.Data.List.TakeWhile

/-!
# Recent items

A list of items with different keys, the newest first, cut at a limit: a save puts an item in front
and drops the one it replaces, and items are deleted by their key or all at once.

* `firsts_cons` : what dropping the later items of a key does to a list with a new front;
* `nodup_replay` : changes keep the keys different;
* `key_ne_of_mem_replay` : what has been deleted, and not saved since, is absent;
* `mem_replay` : what has been saved, and not deleted since, is present unless as many newer items
  as the limit have been saved.
-/

namespace StudyOasis

section Recents

variable {α κ : Type*} [DecidableEq κ] {key : α → κ} {limit : ℕ} {x y : α} {k : κ} {l : List α}

/-- The first item of each key. -/
def firsts (key : α → κ) (self : List α) : List α :=
  (self.zipIdx.filter fun h => h.2 = self.findIdx fun t => key t = key h.1).map Prod.fst

/-- A save: the item in front, without the one it replaces. -/
def saveFront (key : α → κ) (limit : ℕ) (x : α) (l : List α) : List α :=
  (firsts key (x :: l)).take limit

/-- A deletion. -/
def deleteKey (key : α → κ) (k : κ) (l : List α) : List α := l.filter fun a => key a ≠ k

/-- The items before an item of a list with different keys have other keys. -/
theorem findIdx_key (hn : (l.map key).Nodup) {i : ℕ} (hi : i < l.length) :
    (l.findIdx fun t => key t = key l[i]) = i := by
  refine (List.findIdx_eq hi).2 ⟨decide_eq_true rfl, fun j hj => decide_eq_false fun h => ?_⟩
  have hmap : (l.map key)[j]? = (l.map key)[i]? := by
    rw [List.getElem?_map, List.getElem?_map, List.getElem?_eq_getElem hi,
      List.getElem?_eq_getElem (hj.trans hi), Option.map_some, Option.map_some, h]
  have hj' : j < (l.map key).length := by
    rw [List.length_map]
    exact hj.trans hi
  exact hj.ne ((List.getElem?_inj hj' hn).1 hmap)

/-- **The first items** behind a new front are the others. -/
theorem firsts_cons (x : α) (hn : (l.map key).Nodup) :
    firsts key (x :: l) = x :: deleteKey key (key x) l := by
  have hfilter : (l.zipIdx 1).filter (fun h => h.2 = (x :: l).findIdx fun t => key t = key h.1) =
      (l.zipIdx 1).filter fun h => key h.1 ≠ key x := by
    refine List.filter_congr ?_
    rintro ⟨a, i⟩ ha
    obtain ⟨hi, hget⟩ := List.mk_mem_zipIdx_iff_le_and_getElem?_sub.1 ha
    obtain ⟨hlt, rfl⟩ := List.getElem?_eq_some_iff.1 hget
    by_cases hx : key x = key l[i - 1]
    · have hzero : i ≠ 0 := by omega
      simp [List.findIdx_cons, hx, hzero]
    · have hone : i = i - 1 + 1 := by omega
      have hx' : key l[i - 1] ≠ key x := fun h => hx h.symm
      simp only [List.findIdx_cons, hx, decide_false, cond_false, findIdx_key hn hlt]
      simp [hx', ← hone]
  have hhead : (x, 0).2 = (x :: l).findIdx fun t => key t = key x := by
    simp [List.findIdx_cons]
  have hothers : ((l.zipIdx 1).filter fun h => key h.1 ≠ key x).map Prod.fst =
      l.filter fun a => key a ≠ key x := by
    conv_rhs => rw [← List.zipIdx_map_fst 1 l, List.filter_map]
    rfl
  rw [firsts, List.zipIdx_cons, List.filter_cons, if_pos (decide_eq_true hhead), hfilter,
    List.map_cons, hothers, deleteKey]

theorem nodup_deleteKey (k : κ) (hn : (l.map key).Nodup) : ((deleteKey key k l).map key).Nodup :=
  hn.sublist (List.filter_sublist.map key)

theorem nodup_saveFront (limit : ℕ) (x : α) (hn : (l.map key).Nodup) :
    ((saveFront key limit x l).map key).Nodup := by
  rw [saveFront, firsts_cons x hn]
  refine List.Nodup.sublist ((List.take_sublist _ _).map key)
    (List.nodup_cons.2 ⟨?_, nodup_deleteKey _ hn⟩)
  rw [List.mem_map]
  rintro ⟨a, ha, hk⟩
  exact of_decide_eq_true (List.mem_filter.1 ha).2 hk

/-- Two saves of an item leave the same list when as many of the other items are the same as
stay. -/
theorem saveFront_eq_iff {l' : List α} (hn : (l.map key).Nodup) (hn' : (l'.map key).Nodup) :
    saveFront key (limit + 1) x l = saveFront key (limit + 1) x l' ↔
      (deleteKey key (key x) l).take limit = (deleteKey key (key x) l').take limit := by
  rw [saveFront, saveFront, firsts_cons x hn, firsts_cons x hn', List.take_succ_cons,
    List.take_succ_cons]
  exact ⟨fun h => (List.cons.inj h).2, fun h => by rw [h]⟩

/-! ### Changes -/

/-- A change of the list. -/
inductive Change (α κ : Type*) where
  | save (x : α)
  | delete (k : κ)
  | clear

namespace Change

/-- The list after the change. -/
def apply (key : α → κ) (limit : ℕ) : Change α κ → List α → List α
  | save x, l => saveFront key limit x l
  | delete k, l => deleteKey key k l
  | clear, _ => []

/-- The change puts an item in front. -/
def isSave : Change α κ → Bool
  | save _ => true
  | _ => false

/-- The change saves an item under the key. -/
def Saves (key : α → κ) (k : κ) : Change α κ → Prop
  | save x => key x = k
  | _ => False

/-- The change deletes the item under the key. -/
def Deletes (k : κ) : Change α κ → Prop
  | save _ => False
  | delete k' => k' = k
  | clear => True

end Change

/-- The list after some changes. -/
def applyAll (key : α → κ) (limit : ℕ) (changes : List (Change α κ)) (l : List α) : List α :=
  changes.foldl (fun l c => c.apply key limit l) l

/-- The list that the changes leave of an empty one. -/
def replay (key : α → κ) (limit : ℕ) (changes : List (Change α κ)) : List α :=
  applyAll key limit changes []

variable {c : Change α κ} {before after : List (Change α κ)}

theorem nodup_apply (c : Change α κ) (hn : (l.map key).Nodup) :
    ((c.apply key limit l).map key).Nodup := by
  cases c with
  | save x => exact nodup_saveFront limit x hn
  | delete k => exact nodup_deleteKey k hn
  | clear => exact List.nodup_nil

theorem nodup_applyAll (changes : List (Change α κ)) (hn : (l.map key).Nodup) :
    ((applyAll key limit changes l).map key).Nodup := by
  induction changes generalizing l with
  | nil => exact hn
  | cons c changes ih => exact ih (nodup_apply c hn)

/-- **The keys stay different.** -/
theorem nodup_replay (changes : List (Change α κ)) :
    ((replay key limit changes).map key).Nodup :=
  nodup_applyAll changes List.nodup_nil

theorem replay_append (changes changes' : List (Change α κ)) :
    replay key limit (changes ++ changes') =
      applyAll key limit changes' (replay key limit changes) :=
  List.foldl_append

/-- A change that does not save a key brings no item under it. -/
theorem key_ne_of_mem_apply (hn : (l.map key).Nodup) (h : ∀ a ∈ l, key a ≠ k)
    (hc : ¬ c.Saves key k) : ∀ a ∈ c.apply key limit l, key a ≠ k := by
  intro a ha
  cases c with
  | save x =>
    rw [Change.apply, saveFront, firsts_cons x hn] at ha
    rcases List.mem_cons.1 (List.mem_of_mem_take ha) with rfl | ha
    · exact hc
    · exact h a (List.mem_of_mem_filter ha)
  | delete k' => exact h a (List.mem_of_mem_filter ha)
  | clear => cases ha

theorem key_ne_of_mem_applyAll {changes : List (Change α κ)} (hn : (l.map key).Nodup)
    (h : ∀ a ∈ l, key a ≠ k) (hsave : ∀ c ∈ changes, ¬ c.Saves key k) :
    ∀ a ∈ applyAll key limit changes l, key a ≠ k := by
  induction changes generalizing l with
  | nil => exact h
  | cons c changes ih =>
    exact ih (nodup_apply c hn) (key_ne_of_mem_apply hn h (hsave c List.mem_cons_self))
      fun c' hc' => hsave c' (List.mem_cons_of_mem c hc')

/-- **What has been deleted**, and not saved again, is absent. -/
theorem key_ne_of_mem_replay (hdelete : c.Deletes k) (hsave : ∀ c' ∈ after, ¬ c'.Saves key k) :
    ∀ a ∈ replay key limit (before ++ c :: after), key a ≠ k := by
  rw [replay_append]
  have hn : ((replay key limit before).map key).Nodup := nodup_replay before
  show ∀ a ∈ applyAll key limit after (c.apply key limit (replay key limit before)), key a ≠ k
  refine key_ne_of_mem_applyAll (nodup_apply c hn) ?_ hsave
  intro a ha
  cases c with
  | save x => exact hdelete.elim
  | delete k' =>
    obtain rfl : k' = k := hdelete
    exact of_decide_eq_true (List.mem_filter.1 ha).2
  | clear => cases ha

/-- A change that neither saves nor deletes a key moves its item by at most one place. -/
theorem apply_append {pre post : List α} (hn : ((pre ++ x :: post).map key).Nodup)
    (hsave : ¬ c.Saves key (key x)) (hdelete : ¬ c.Deletes (key x))
    (hlt : pre.length + (if c.isSave then 1 else 0) < limit) :
    ∃ pre' post', c.apply key limit (pre ++ x :: post) = pre' ++ x :: post' ∧
      pre'.length ≤ pre.length + if c.isSave then 1 else 0 := by
  have hkeep (k : κ) (hk : k ≠ key x) :
      deleteKey key k (pre ++ x :: post) = deleteKey key k pre ++ x :: deleteKey key k post := by
    simp [deleteKey, hk.symm]
  have hle (k : κ) : (deleteKey key k pre).length ≤ pre.length := List.length_filter_le _ _
  cases c with
  | save y =>
    rw [Change.apply, saveFront, firsts_cons y hn, hkeep _ hsave]
    have hroom : pre.length + 1 < limit := hlt
    have hlen := hle (key y)
    obtain ⟨m, hm⟩ : ∃ m, limit = (y :: deleteKey key (key y) pre).length + (m + 1) :=
      ⟨limit - (deleteKey key (key y) pre).length - 2, by rw [List.length_cons]; omega⟩
    refine ⟨y :: deleteKey key (key y) pre, (deleteKey key (key y) post).take m, ?_,
      Nat.succ_le_succ hlen⟩
    rw [hm, ← List.cons_append, List.take_length_add_append, List.take_succ_cons]
  | delete k => exact ⟨_, _, hkeep k hdelete, hle k⟩
  | clear => exact absurd trivial hdelete

theorem mem_applyAll {changes : List (Change α κ)} {pre post : List α}
    (hn : ((pre ++ x :: post).map key).Nodup) (hsave : ∀ c ∈ changes, ¬ c.Saves key (key x))
    (hdelete : ∀ c ∈ changes, ¬ c.Deletes (key x))
    (hcount : pre.length + changes.countP Change.isSave < limit) :
    x ∈ applyAll key limit changes (pre ++ x :: post) := by
  induction changes generalizing pre post with
  | nil => exact List.mem_append_right _ List.mem_cons_self
  | cons c changes ih =>
    rw [List.countP_cons] at hcount
    have hroom : pre.length + (if c.isSave then 1 else 0) < limit := by omega
    obtain ⟨pre', post', happly, hlen⟩ := apply_append hn (hsave c List.mem_cons_self)
      (hdelete c List.mem_cons_self) hroom
    have hn' : ((c.apply key limit (pre ++ x :: post)).map key).Nodup := nodup_apply c hn
    rw [happly] at hn'
    show x ∈ applyAll key limit changes (c.apply key limit (pre ++ x :: post))
    rw [happly]
    exact ih hn' (fun c' hc' => hsave c' (List.mem_cons_of_mem c hc'))
      (fun c' hc' => hdelete c' (List.mem_cons_of_mem c hc')) (by omega)

/-- **What has been saved**, and neither deleted nor saved again, is present as long as fewer items
than the limit have been saved since. -/
theorem mem_replay (hsave : ∀ c ∈ after, ¬ c.Saves key (key x))
    (hdelete : ∀ c ∈ after, ¬ c.Deletes (key x)) (hcount : after.countP Change.isSave < limit) :
    x ∈ replay key limit (before ++ .save x :: after) := by
  rw [replay_append]
  have hn : ((replay key limit before).map key).Nodup := nodup_replay before
  show x ∈ applyAll key limit after (saveFront key limit x (replay key limit before))
  obtain ⟨n, rfl⟩ := Nat.exists_eq_succ_of_ne_zero (Nat.ne_of_gt (Nat.zero_lt_of_lt hcount))
  have hfront : saveFront key (n + 1) x (replay key (n + 1) before) =
      [] ++ x :: (deleteKey key (key x) (replay key (n + 1) before)).take n := by
    rw [saveFront, firsts_cons x hn, List.take_succ_cons, List.nil_append]
  have hn' := nodup_saveFront (n + 1) x hn
  rw [hfront] at hn' ⊢
  exact mem_applyAll hn' hsave hdelete (by simpa using hcount)

end Recents

end StudyOasis
