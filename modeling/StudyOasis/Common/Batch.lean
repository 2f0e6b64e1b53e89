import Mathlib.Data.List.TakeWhile
import Mathlib.Logic.Function.Basic

/-!
# Batches of writes

Writes under keys, one after the other, that stop at the first one that fails; what has been written
before it stays.

* `writeAll_fst_apply` : what is stored under a key after a batch that writes each key once;
* `writeAll_fst_eq_self_iff` : **a batch changes nothing** exactly when what it writes before it
  stops is stored already.
-/

namespace StudyOasis

variable {κ ν : Type*} {fails : κ → Bool} {ws : List (κ × ν)} {k : κ}

/-- The writes that are made. -/
def written (fails : κ → Bool) (ws : List (κ × ν)) : List (κ × ν) :=
  ws.takeWhile fun w => !fails w.1

theorem written_cons_of_fails {v : ν} (h : fails k = true) :
    written fails ((k, v) :: ws) = [] := by
  simp [written, h]

theorem written_cons {v : ν} (h : fails k = false) :
    written fails ((k, v) :: ws) = (k, v) :: written fails ws := by
  simp [written, h]

theorem written_subset : written fails ws ⊆ ws := (List.takeWhile_prefix _).subset

/-- Without a failing write all of them are made. -/
theorem written_of_all (h : ws.all (fun w => !fails w.1) = true) : written fails ws = ws :=
  List.takeWhile_eq_self_iff.2 (List.all_eq_true.1 h)

variable [DecidableEq κ] {m : κ → Option ν}

/-- A batch of writes: the store after it, and whether all writes were made. -/
def writeAll (fails : κ → Bool) : List (κ × ν) → (κ → Option ν) → (κ → Option ν) × Bool
  | [], m => (m, true)
  | (k, v) :: ws, m =>
    if fails k then (m, false) else writeAll fails ws (Function.update m k (some v))

@[simp] theorem writeAll_nil : writeAll fails [] m = (m, true) := rfl

theorem writeAll_cons_of_fails {v : ν} (h : fails k = true) :
    writeAll fails ((k, v) :: ws) m = (m, false) := if_pos h

theorem writeAll_cons {v : ν} (h : fails k = false) :
    writeAll fails ((k, v) :: ws) m = writeAll fails ws (Function.update m k (some v)) :=
  if_neg (Bool.eq_false_iff.1 h)

/-- Two batches, one after the other. -/
theorem writeAll_append (ws' : List (κ × ν)) :
    writeAll fails (ws ++ ws') m =
      if (writeAll fails ws m).2 then writeAll fails ws' (writeAll fails ws m).1
      else writeAll fails ws m := by
  induction ws generalizing m with
  | nil => rfl
  | cons w ws ih =>
    obtain ⟨k, v⟩ := w
    rw [List.cons_append]
    cases h : fails k with
    | true => simp [writeAll_cons_of_fails h]
    | false => simp only [writeAll_cons h, ih]

theorem writeAll_snd : (writeAll fails ws m).2 = ws.all fun w => !fails w.1 := by
  induction ws generalizing m with
  | nil => rfl
  | cons w ws ih =>
    obtain ⟨k, v⟩ := w
    cases h : fails k with
    | true => simp [writeAll_cons_of_fails h, h]
    | false => simp [writeAll_cons h, ih, h]

/-- A key that is not written. -/
theorem writeAll_fst_of_notMem (hk : ∀ v, (k, v) ∉ written fails ws) :
    (writeAll fails ws m).1 k = m k := by
  induction ws generalizing m with
  | nil => rfl
  | cons w ws ih =>
    obtain ⟨k', v'⟩ := w
    cases h : fails k' with
    | true => rw [writeAll_cons_of_fails h]
    | false =>
      rw [written_cons h] at hk
      have hne : k ≠ k' := by
        rintro rfl
        exact hk v' List.mem_cons_self
      rw [writeAll_cons h, ih fun v hv => hk v (List.mem_cons_of_mem _ hv),
        Function.update_of_ne hne]

/-- A key that is written once. -/
theorem writeAll_fst_of_mem (hnodup : (ws.map Prod.fst).Nodup) {v : ν}
    (hkv : (k, v) ∈ written fails ws) : (writeAll fails ws m).1 k = some v := by
  induction ws generalizing m with
  | nil => exact absurd hkv List.not_mem_nil
  | cons w ws ih =>
    obtain ⟨k', v'⟩ := w
    rw [List.map_cons, List.nodup_cons] at hnodup
    cases h : fails k' with
    | true =>
      rw [written_cons_of_fails h] at hkv
      exact absurd hkv List.not_mem_nil
    | false =>
      rw [writeAll_cons h]
      rw [written_cons h] at hkv
      rcases List.mem_cons.1 hkv with heq | hkv
      · cases heq
        have hlater : ∀ u, (k, u) ∉ written fails ws := by
          intro u hu
          exact hnodup.1 (List.mem_map.2 ⟨(k, u), written_subset hu, rfl⟩)
        rw [writeAll_fst_of_notMem hlater, Function.update_self]
      · exact ih hnodup.2 hkv

/-- **A batch changes nothing** exactly when what it writes before it stops is stored already. -/
theorem writeAll_fst_eq_self_iff (hnodup : (ws.map Prod.fst).Nodup) :
    (writeAll fails ws m).1 = m ↔ ∀ w ∈ written fails ws, m w.1 = some w.2 := by
  constructor
  · intro h w hw
    rw [← congrFun h w.1]
    exact writeAll_fst_of_mem hnodup hw
  · intro hall
    funext k
    by_cases hk : ∃ v, (k, v) ∈ written fails ws
    · obtain ⟨v, hv⟩ := hk
      rw [writeAll_fst_of_mem hnodup hv, hall _ hv]
    · exact writeAll_fst_of_notMem (not_exists.1 hk)

end StudyOasis
