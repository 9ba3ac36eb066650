import Mathlib

namespace EvseIso15118

/-- The ring: the cells by number, the one to write next, the oldest, and how many are in use. -/
structure RingBuffer (α : Type*) where
  entries : ℤ → α
  head : ℤ
  tail : ℤ
  count : ℤ

namespace RingBuffer

variable {α : Type*}

/-- Appends an element; a full queue loses its first. -/
def enqueue (size : ℕ) (q : List α) (a : α) : List α :=
  if q.length < size then q ++ [a] else q.tail ++ [a]

@[simp] theorem length_rtake (l : List α) (k : ℕ) : (l.rtake k).length = min l.length k := by
  rw [List.rtake, List.length_drop]
  omega

theorem enqueue_rtake {size : ℕ} (hsize : 0 < size) (l : List α) (a : α) :
    enqueue size (l.rtake size) a = (l ++ [a]).rtake size := by
  obtain ⟨k, rfl⟩ : ∃ k, size = k + 1 := ⟨size - 1, by omega⟩
  rw [enqueue, length_rtake, List.rtake_concat_succ]
  split_ifs with hroom
  · rw [List.rtake, List.rtake, show l.length - (k + 1) = 0 by omega,
      show l.length - k = 0 by omega]
  · rw [List.rtake, List.rtake, List.tail_drop, show l.length - (k + 1) + 1 = l.length - k by omega]

/-- `(i + 1) % size` -/
def next (size : ℕ) (i : ℤ) : ℤ := (i + 1).tmod size

theorem next_eq {size : ℕ} {i : ℤ} (hi : 0 ≤ i) : next size i = (i + 1) % size :=
  Int.tmod_eq_emod_of_nonneg (by omega)

/-- Writes the cell at `head`. A ring with a cell to spare counts one more, a full one gives up
its oldest cell. -/
def push (size : ℕ) (r : RingBuffer α) (a : α) : RingBuffer α :=
  { entries := Function.update r.entries r.head a
    head := next size r.head
    tail := if r.count < size then r.tail else next size r.tail
    count := if r.count < size then r.count + 1 else r.count }

def reset (r : RingBuffer α) : RingBuffer α := { r with head := 0, tail := 0, count := 0 }

/-- `k` cells from `pos` on, round the end. -/
def readFrom (size : ℕ) (r : RingBuffer α) : ℕ → ℤ → List α
  | 0, _ => []
  | k + 1, pos => r.entries pos :: readFrom size r k (next size pos)

/-- The cells in use hold the queue `q`, from the oldest on. -/
structure Holds (size : ℕ) (r : RingBuffer α) (q : List α) : Prop where
  tail_nonneg : 0 ≤ r.tail
  tail_lt : r.tail < size
  head_eq : r.head = (r.tail + r.count) % size
  count_eq : r.count = q.length
  length_le : q.length ≤ size
  cells : ∀ i (h : i < q.length), r.entries ((r.tail + i) % size) = q[i]

theorem cell_ne {size : ℕ} (t : ℤ) {i j : ℤ} (hij : i < j) (hj : j < i + size) :
    (t + i) % size ≠ (t + j) % size := by
  intro h
  rw [Int.emod_add_cancel_left, eq_comm, Int.emod_eq_emod_iff_emod_sub_eq_zero] at h
  have hdvd : (size : ℤ) ∣ j - i := Int.dvd_of_emod_eq_zero h
  have hle := Int.le_of_dvd (by omega) hdvd
  omega

variable {size : ℕ} {r : RingBuffer α} {q : List α}

theorem holds_reset (hsize : 0 < size) (r : RingBuffer α) : r.reset.Holds size [] where
  tail_nonneg := le_refl 0
  tail_lt := by
    change (0 : ℤ) < size
    exact_mod_cast hsize
  head_eq := by simp [reset]
  count_eq := rfl
  length_le := Nat.zero_le _
  cells i h := absurd h (Nat.not_lt_zero i)

theorem Holds.head_nonneg (h : r.Holds size q) : 0 ≤ r.head := by
  rw [h.head_eq]
  exact Int.emod_nonneg _ (by have := h.tail_nonneg; have := h.tail_lt; omega)

theorem Holds.head_lt (h : r.Holds size q) : r.head < size := by
  rw [h.head_eq]
  exact Int.emod_lt_of_pos _ (lt_of_le_of_lt h.tail_nonneg h.tail_lt)

theorem Holds.head_of_full (h : r.Holds size q) (hfull : q.length = size) : r.head = r.tail := by
  rw [h.head_eq, h.count_eq, hfull, Int.add_emod_right, Int.emod_eq_of_lt h.tail_nonneg h.tail_lt]

theorem Holds.push_room (h : r.Holds size q) (hroom : q.length < size) (a : α) :
    (r.push size a).Holds size (q ++ [a]) := by
  have hcount : r.count < size := by rw [h.count_eq]; exact_mod_cast hroom
  have htail : (r.push size a).tail = r.tail := if_pos hcount
  have hcount' : (r.push size a).count = r.count + 1 := if_pos hcount
  refine ⟨htail ▸ h.tail_nonneg, htail ▸ h.tail_lt, ?_, ?_, by simpa using hroom, ?_⟩
  · rw [htail, hcount', ← add_assoc]
    change next size r.head = _
    rw [next_eq h.head_nonneg, h.head_eq, Int.emod_add_emod]
  · rw [hcount', h.count_eq, List.length_append, List.length_singleton, Nat.cast_add, Nat.cast_one]
  · intro i hi
    rw [htail]
    change Function.update r.entries r.head a _ = _
    rw [h.head_eq, h.count_eq]
    rw [List.length_append, List.length_singleton] at hi
    obtain hlt | rfl := Nat.lt_succ_iff_lt_or_eq.mp hi
    · rw [Function.update_of_ne (cell_ne r.tail (by omega) (by omega)),
        List.getElem_append_left hlt, h.cells i hlt]
    · rw [Function.update_self, List.getElem_concat_length rfl]

theorem Holds.push_full (h : r.Holds size q) (hfull : q.length = size) (a : α) :
    (r.push size a).Holds size (q.tail ++ [a]) := by
  have hsize : 0 < size := by have := h.tail_nonneg; have := h.tail_lt; omega
  have hcount : ¬ r.count < size := by rw [h.count_eq, hfull]; exact lt_irrefl _
  have htail : (r.push size a).tail = (r.tail + 1) % size := by
    rw [← next_eq h.tail_nonneg]
    exact if_neg hcount
  have hcount' : (r.push size a).count = r.count := if_neg hcount
  have hlength : (q.tail ++ [a]).length = size := by
    rw [List.length_append, List.length_tail, hfull, List.length_singleton]
    omega
  refine ⟨?_, ?_, ?_, ?_, hlength.le, ?_⟩
  · rw [htail]
    exact Int.emod_nonneg _ (by omega)
  · rw [htail]
    exact Int.emod_lt_of_pos _ (by omega)
  · rw [htail, hcount', h.count_eq, hfull, Int.add_emod_right, Int.emod_emod_of_dvd _ (dvd_refl _)]
    change next size r.head = _
    rw [next_eq h.head_nonneg, h.head_of_full hfull]
  · rw [hcount', h.count_eq, hlength, hfull]
  · intro i hi
    rw [hlength] at hi
    rw [htail, Int.emod_add_emod, add_assoc, add_comm 1 (i : ℤ)]
    change Function.update r.entries r.head a _ = _
    rw [h.head_eq, h.count_eq, hfull]
    by_cases hlast : i + 1 = size
    · -- the cell that was the oldest
      have hi' : i = q.tail.length := by rw [List.length_tail]; omega
      subst hi'
      rw [show ((q.tail.length : ℤ) + 1) = (size : ℤ) by exact_mod_cast hlast,
        Function.update_self, List.getElem_concat_length rfl]
    · have hlt : i < q.tail.length := by rw [List.length_tail]; omega
      have hcell := h.cells (i + 1) (by omega)
      rw [Nat.cast_add, Nat.cast_one] at hcell
      rw [Function.update_of_ne (cell_ne r.tail (by omega) (by omega)),
        List.getElem_append_left hlt, List.getElem_tail, hcell]

/-- One step: the ring goes on holding the bounded queue. -/
theorem Holds.push (h : r.Holds size q) (a : α) :
    (r.push size a).Holds size (enqueue size q a) := by
  rw [enqueue]
  split_ifs with hroom
  · exact h.push_room hroom a
  · exact h.push_full (le_antisymm h.length_le (not_lt.mp hroom)) a

theorem Holds.readFrom_eq (h : r.Holds size q) (k j : ℕ) (hk : j + k ≤ q.length) :
    r.readFrom size k ((r.tail + j) % size) = (q.drop j).take k := by
  have hsize : (size : ℤ) ≠ 0 := by have := h.tail_nonneg; have := h.tail_lt; omega
  induction k generalizing j with
  | zero => simp [readFrom]
  | succ k ih =>
    have hj : j < q.length := by omega
    rw [readFrom, h.cells j hj, next_eq (Int.emod_nonneg _ hsize), Int.emod_add_emod, add_assoc,
      List.drop_eq_getElem_cons hj, List.take_succ_cons]
    have hrest := ih (j + 1) (by omega)
    rw [Nat.cast_add, Nat.cast_one] at hrest
    rw [hrest]

/-- From `tail` on, the oldest elements are read. -/
theorem Holds.readFrom_tail (h : r.Holds size q) {k : ℕ} (hk : k ≤ q.length) :
    r.readFrom size k r.tail = q.take k := by
  have hread := h.readFrom_eq k 0 (by omega)
  rwa [Nat.cast_zero, add_zero, Int.emod_eq_of_lt h.tail_nonneg h.tail_lt,
    List.drop_zero] at hread

/-- `p` places further on stands the same element. -/
def Repeats (p : ℕ) (q : List α) : Prop := ∀ i, i + p < q.length → q[i]? = q[i + p]?

theorem take_eq_rtake_iff {k : ℕ} (hk : k ≤ q.length) :
    q.take k = q.rtake k ↔ Repeats (q.length - k) q := by
  rw [List.rtake, List.ext_getElem?_iff]
  constructor
  · intro h i hi
    have hget := h i
    rwa [List.getElem?_take_of_lt (by omega), List.getElem?_drop, add_comm] at hget
  · intro h i
    by_cases hi : i < k
    · rw [List.getElem?_take_of_lt hi, List.getElem?_drop, add_comm]
      exact h i (by omega)
    · rw [List.getElem?_eq_none (by rw [List.length_take]; omega),
        List.getElem?_eq_none (by rw [List.length_drop]; omega)]

end RingBuffer

end EvseIso15118
