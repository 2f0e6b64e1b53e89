import Mathlib.Data.List.Nodup
import Mathlib.Data.List.Perm.Subperm

/-!
# Bounded lists with keys

A list whose items have different keys, used as a store.  An `upsert` changes the item under a
key where it stands, or puts a new item in front and cuts the list at a limit.

* `subset_upsert_iff` : when an `upsert` leaves every item as it is.

A list that may be longer than its limit is cut after every change: `put` replaces the item under
the key of the new one or puts the new one in front, and then the list is cut.

* `filter_put` : the other items stay as they are, in their order;
* `mem_take_put_iff` : when the cut leaves the new item.
-/

namespace StudyOasis

section Upsert

variable {α κ : Type*} [DecidableEq κ] {key : α → κ} {k : κ} {f : α → α} {x : α} {limit : ℕ}
  {l : List α}

/-- Change the item under the key `k` by `f`, or put `x` in front and keep `limit` items. -/
def upsert (key : α → κ) (k : κ) (f : α → α) (x : α) (limit : ℕ) (l : List α) : List α :=
  if l.any fun a => key a = k then l.map fun a => if key a = k then f a else a
  else (x :: l).take limit

/-- An `upsert` finds the item as it makes it, or finds room for a new one. -/
def Upserted (key : α → κ) (k : κ) (f : α → α) (limit : ℕ) (l : List α) : Prop :=
  match l.find? fun a => key a = k with
  | some a => f a = a
  | none => l.length < limit

theorem upsert_of_mem {a : α} (ha : a ∈ l) (hk : key a = k) :
    upsert key k f x limit l = l.map fun a => if key a = k then f a else a :=
  if_pos (List.any_eq_true.2 ⟨a, ha, by simpa using hk⟩)

theorem upsert_of_forall_ne (h : ∀ a ∈ l, key a ≠ k) :
    upsert key k f x limit l = (x :: l).take limit :=
  if_neg (by simpa using h)

/-- The item under a key stands alone. -/
theorem upsert_append {pre post : List α} {a : α} (hn : ((pre ++ a :: post).map key).Nodup)
    (hk : key a = k) :
    upsert key k f x limit (pre ++ a :: post) = pre ++ f a :: post := by
  rw [upsert_of_mem (List.mem_append_right _ List.mem_cons_self) hk]
  simp only [List.map_append, List.map_cons, List.nodup_append, List.nodup_cons, List.mem_map,
    List.mem_cons] at hn
  obtain ⟨-, ⟨hpost, -⟩, hpre⟩ := hn
  have same (xs : List α) (hxs : ∀ b ∈ xs, key b ≠ k) :
      xs.map (fun b => if key b = k then f b else b) = xs := by
    refine (List.map_congr_left fun b hb => if_neg (hxs b hb)).trans (List.map_id _)
  rw [List.map_append, List.map_cons, if_pos hk, same pre, same post]
  · intro b hb hbk
    exact hpost ⟨b, hb, hbk.trans hk.symm⟩
  · intro b hb hbk
    exact hpre _ ⟨b, hb, rfl⟩ _ (.inl rfl) (hbk.trans hk.symm)

/-- An item that is already as an `upsert` would make it. -/
theorem upsert_eq_self (hn : (l.map key).Nodup) {a : α} (ha : a ∈ l) (hk : key a = k)
    (hf : f a = a) : upsert key k f x limit l = l := by
  obtain ⟨pre, post, rfl⟩ := List.append_of_mem ha
  rw [upsert_append hn hk, hf]

theorem mem_upsert {a : α} (h : a ∈ upsert key k f x limit l) :
    a = x ∨ a ∈ l ∨ ∃ b ∈ l, key b = k ∧ a = f b := by
  unfold upsert at h
  split_ifs at h
  · obtain ⟨b, hb, rfl⟩ := List.mem_map.1 h
    split_ifs with hk
    · exact .inr (.inr ⟨b, hb, hk, rfl⟩)
    · exact .inr (.inl hb)
  · exact (List.mem_cons.1 (List.mem_of_mem_take h)).imp_right .inl

/-- An `upsert` seen through a map that keeps the keys. -/
theorem map_upsert {β : Type*} {key' : β → κ} {f' : β → β} {g : α → β}
    (hkey : ∀ a, key' (g a) = key a) (hf : ∀ a, g (f a) = f' (g a)) :
    (upsert key k f x limit l).map g = upsert key' k f' (g x) limit (l.map g) := by
  simp only [upsert, List.any_map, Function.comp_def, hkey]
  split_ifs
  · rw [List.map_map, List.map_map]
    refine List.map_congr_left fun a _ => ?_
    simp only [Function.comp_apply, hkey]
    split_ifs
    · exact hf a
    · rfl
  · rw [List.map_take, List.map_cons]

theorem nodup_upsert (hn : (l.map key).Nodup) (hf : ∀ a, key (f a) = key a) (hx : key x = k) :
    ((upsert key k f x limit l).map key).Nodup := by
  by_cases h : ∃ a ∈ l, key a = k
  · obtain ⟨a, ha, hk⟩ := h
    obtain ⟨pre, post, rfl⟩ := List.append_of_mem ha
    rw [upsert_append hn hk]
    simpa [hf] using hn
  · simp only [not_exists, not_and] at h
    rw [upsert_of_forall_ne h]
    refine List.Nodup.sublist ((List.take_sublist _ _).map _) (List.nodup_cons.2 ⟨?_, hn⟩)
    rw [List.mem_map]
    rintro ⟨a, ha, hak⟩
    exact h a ha (hak.trans hx)

theorem length_upsert_le (hl : l.length ≤ limit) :
    (upsert key k f x limit l).length ≤ limit := by
  unfold upsert
  split_ifs
  · rwa [List.length_map]
  · exact List.length_take_le _ _

/-- **When an `upsert` keeps the items**: it finds one under the key that is as it makes it, or
it finds none and there is room for a new one. -/
theorem subset_upsert_iff (hn : (l.map key).Nodup) (hl : l ≠ []) (hx : key x = k) :
    l ⊆ upsert key k f x limit l ↔ Upserted key k f limit l := by
  cases hfind : l.find? fun a => key a = k with
  | some a =>
    obtain ⟨ha, pre, post, rfl, -⟩ := List.find?_eq_some_iff_append.1 hfind
    have hk : key a = k := by simpa using ha
    rw [Upserted, hfind, upsert_append hn hk]
    constructor
    · intro h
      -- the only item with this key is the one that was changed
      rcases List.mem_append.1 (h (List.mem_append_right _ List.mem_cons_self)) with hpre | hmem
      · simp only [List.map_append, List.map_cons, List.nodup_append, List.mem_map] at hn
        exact absurd rfl (hn.2.2 (key a) ⟨a, hpre, rfl⟩ (key a) List.mem_cons_self)
      · rcases List.mem_cons.1 hmem with h | hpost
        · exact h.symm
        · simp only [List.map_append, List.map_cons, List.nodup_append, List.nodup_cons,
            List.mem_map] at hn
          exact absurd ⟨a, hpost, rfl⟩ hn.2.1.1
    · intro h
      rw [show f a = a from h]
      exact List.Subset.refl _
  | none =>
    have hne : ∀ a ∈ l, key a ≠ k := by simpa using hfind
    rw [Upserted, hfind, upsert_of_forall_ne hne]
    constructor
    · intro h
      cases limit with
      | zero => exact absurd (List.subset_nil.1 (by simpa using h)) hl
      | succ n =>
        -- the new item stands for none of the old ones, so they fit behind it
        have htake : l ⊆ l.take n := by
          intro a ha
          rcases List.mem_cons.1 (h ha) with rfl | hmem
          · exact absurd hx (hne a ha)
          · exact hmem
        have hle := (List.subperm_of_subset (List.Nodup.of_map key hn) htake).length_le
        rw [List.length_take] at hle
        show l.length < n + 1
        omega
    · intro h
      rw [List.take_of_length_le (Nat.succ_le_of_lt h)]
      exact List.subset_cons_self _ _

end Upsert

section Put

variable {α κ : Type*} [DecidableEq κ] {key : α → κ} {x : α} {limit : ℕ} {l : List α}

/-- Put `x` in the place of the first item with its key, or in front. -/
def put (key : α → κ) (x : α) (l : List α) : List α :=
  match l.findIdx? fun a => key a = key x with
  | some i => l.set i x
  | none => x :: l

/-- The item under the key of `x` stands before the limit, if there is one. -/
def Fits (key : α → κ) (x : α) (limit : ℕ) (l : List α) : Prop :=
  ∀ i ∈ l.findIdx? fun a => key a = key x, i < limit

instance : Decidable (Fits key x limit l) :=
  inferInstanceAs (Decidable (∀ i ∈ l.findIdx? _, i < limit))

/-- **What `put` does.** -/
theorem put_cases (key : α → κ) (x : α) (l : List α) :
    (∃ pre a post, l = pre ++ a :: post ∧ (∀ b ∈ pre, key b ≠ key x) ∧ key a = key x ∧
      (l.findIdx? fun a => key a = key x) = some pre.length ∧
      put key x l = pre ++ x :: post) ∨
    ((∀ a ∈ l, key a ≠ key x) ∧ (l.findIdx? fun a => key a = key x) = none ∧
      put key x l = x :: l) := by
  cases hfind : l.findIdx? fun a => key a = key x with
  | none =>
    right
    refine ⟨fun a ha => ?_, rfl, by rw [put, hfind]⟩
    simpa using List.findIdx?_eq_none_iff.1 hfind a ha
  | some i =>
    left
    obtain ⟨hi, hk, hpre⟩ := List.findIdx?_eq_some_iff_getElem.1 hfind
    refine ⟨l.take i, l[i], l.drop (i + 1), ?_, ?_, by simpa using hk, ?_, ?_⟩
    · rw [← List.drop_eq_getElem_cons hi, List.take_append_drop]
    · intro b hb
      obtain ⟨j, hj, rfl⟩ := List.mem_take_iff_getElem.1 hb
      simpa using hpre j (by omega)
    · rw [List.length_take_of_le (Nat.le_of_lt hi)]
    · rw [put, hfind]
      exact List.set_eq_take_append_cons_drop.trans (if_pos hi)

theorem nodup_put (hn : (l.map key).Nodup) : ((put key x l).map key).Nodup := by
  rcases put_cases key x l with ⟨pre, a, post, rfl, -, hk, -, hput⟩ | ⟨hne, -, hput⟩
  · rw [hput]
    simpa [hk] using hn
  · rw [hput, List.map_cons, List.nodup_cons]
    refine ⟨?_, hn⟩
    rw [List.mem_map]
    rintro ⟨a, ha, hak⟩
    exact hne a ha hak

/-- The items under other keys. -/
theorem filter_put (key : α → κ) (x : α) (l : List α) :
    (put key x l).filter (key · ≠ key x) = l.filter (key · ≠ key x) := by
  rcases put_cases key x l with ⟨pre, a, post, rfl, -, hk, -, hput⟩ | ⟨-, -, hput⟩
  · rw [hput]
    simp [hk]
  · rw [hput]
    simp

/-- **When the new item is still there after the cut.** -/
theorem mem_take_put_iff (hl : 0 < limit) : x ∈ (put key x l).take limit ↔ Fits key x limit l := by
  unfold Fits
  rcases put_cases key x l with ⟨pre, a, post, rfl, hpre, -, hfind, hput⟩ | ⟨-, hfind, hput⟩
  · rw [hfind, hput]
    constructor
    · intro hx i hi
      obtain rfl := Option.some.inj hi
      by_contra hle
      -- the cut is in front of the new item, where all keys are different
      rw [List.take_append_of_le_length (Nat.le_of_not_lt hle)] at hx
      exact hpre x (List.mem_of_mem_take hx) rfl
    · intro h
      have hlt : pre.length < limit := h _ rfl
      rw [List.take_append, List.take_of_length_le (Nat.le_of_lt hlt)]
      refine List.mem_append_right _ ?_
      obtain ⟨n, hn⟩ := Nat.exists_eq_succ_of_ne_zero (Nat.sub_ne_zero_of_lt hlt)
      rw [hn]
      exact List.mem_cons_self
  · rw [hfind, hput]
    obtain ⟨n, rfl⟩ := Nat.exists_eq_succ_of_ne_zero (Nat.ne_of_gt hl)
    exact iff_of_true List.mem_cons_self nofun

end Put

end StudyOasis
