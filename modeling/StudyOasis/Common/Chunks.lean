import Mathlib.Data.List.TakeDrop
import Mathlib.Data.Nat.Init

/-!
# Lists cut into chunks

A loop over `⌈length / n⌉` indices that takes a slice of `n` elements for each.

* `flatten_chunks` : **nothing is lost and nothing is taken twice**;
* `ne_nil_of_mem_chunks`, `length_le_of_mem_chunks` : no chunk is empty or too long.
-/

namespace StudyOasis

variable {α : Type*} {n : ℕ} {l c : List α}

/-- `slice(i * n, (i + 1) * n)`. -/
def chunk (n : ℕ) (l : List α) (i : ℕ) : List α := (l.drop (i * n)).take n

/-- The chunks of a list. -/
def chunks (n : ℕ) (l : List α) : List (List α) :=
  (List.range ((l.length + n - 1) / n)).map (chunk n l)

@[simp] theorem length_chunks : (chunks n l).length = (l.length + n - 1) / n := by
  rw [chunks, List.length_map, List.length_range]

/-- The first chunks are the front of the list. -/
theorem flatten_map_chunk (n : ℕ) (l : List α) (k : ℕ) :
    ((List.range k).map (chunk n l)).flatten = l.take (k * n) := by
  induction k with
  | zero => simp
  | succ k ih =>
    rw [List.range_succ, List.map_append, List.flatten_append, ih, Nat.succ_mul, List.take_add,
      List.map_singleton, List.flatten_singleton, chunk]

/-- An index is one of a chunk exactly when its chunk starts in the list. -/
theorem lt_chunks_iff (hn : 0 < n) {i : ℕ} : i < (l.length + n - 1) / n ↔ i * n < l.length := by
  rw [← Nat.succ_le_iff, Nat.le_div_iff_mul_le hn, Nat.succ_mul]
  omega

theorem flatten_chunks (hn : 0 < n) (l : List α) : (chunks n l).flatten = l := by
  rw [chunks, flatten_map_chunk]
  refine List.take_of_length_le ?_
  by_contra hlt
  exact Nat.lt_irrefl _ ((lt_chunks_iff hn).2 (Nat.lt_of_not_le hlt))

theorem ne_nil_of_mem_chunks (hn : 0 < n) (h : c ∈ chunks n l) : c ≠ [] := by
  obtain ⟨i, hi, rfl⟩ := List.mem_map.1 h
  have hstart := (lt_chunks_iff hn).1 (List.mem_range.1 hi)
  refine List.ne_nil_of_length_pos ?_
  rw [chunk, List.length_take, List.length_drop]
  omega

theorem length_le_of_mem_chunks (h : c ∈ chunks n l) : c.length ≤ n := by
  obtain ⟨i, -, rfl⟩ := List.mem_map.1 h
  exact List.length_take_le _ _

/-- The chunks with their indices. -/
theorem mapIdx_chunks {β : Type*} (f : ℕ → List α → β) :
    (chunks n l).mapIdx f =
      (List.range ((l.length + n - 1) / n)).map fun i => f i (chunk n l i) := by
  refine List.ext_getElem (by simp) fun i _ _ => ?_
  simp [chunks]

end StudyOasis
