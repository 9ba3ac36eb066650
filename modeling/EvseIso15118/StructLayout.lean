import Mathlib

namespace EvseIso15118.StructLayout

structure Member (ι : Type*) where
  name : ι
  size : ℕ
  align : ℕ

/-- A member at its offset. -/
structure Slot (ι : Type*) where
  name : ι
  offset : ℕ
  size : ℕ
  deriving DecidableEq

section place
variable {ι : Type*}

/-- The first multiple of `align` that is not before `pos`. -/
def alignUp (pos align : ℕ) : ℕ := (pos + align - 1) / align * align

/-- The members from `pos` on. -/
def place (pos : ℕ) : List (Member ι) → List (Slot ι)
  | [] => []
  | m :: ms =>
    ⟨m.name, alignUp pos m.align, m.size⟩ :: place (alignUp pos m.align + m.size) ms

def placeEnd (pos : ℕ) : List (Member ι) → ℕ
  | [] => pos
  | m :: ms => placeEnd (alignUp pos m.align + m.size) ms

theorem place_append (pos : ℕ) (xs ys : List (Member ι)) :
    place pos (xs ++ ys) = place pos xs ++ place (placeEnd pos xs) ys := by
  induction xs generalizing pos with
  | nil => rfl
  | cons m ms ih => rw [List.cons_append, place, place, placeEnd, ih, List.cons_append]

end place

section memory
variable {ι α : Type*}

def Slot.read (s : Slot ι) (mem : ℕ → α) : List α :=
  (List.range s.size).map fun i => mem (s.offset + i)

theorem Slot.read_eq_iff {x y : ι} {off off' size : ℕ} {mem mem' : ℕ → α} :
    (Slot.mk x off size).read mem = (Slot.mk y off' size).read mem' ↔
      ∀ i < size, mem (off + i) = mem' (off' + i) := by
  rw [Slot.read, Slot.read, List.map_inj_left]
  simp only [List.mem_range]

/-- Bytes that are written one after the other. -/
structure Write (α : Type*) where
  address : ℕ
  bytes : List α

namespace Write

def apply (w : Write α) (mem : ℕ → α) : ℕ → α := fun i =>
  if i < w.address then mem i else (w.bytes[i - w.address]?).getD (mem i)

def applyAll (ws : List (Write α)) (mem : ℕ → α) : ℕ → α :=
  ws.foldl (fun mem w => w.apply mem) mem

theorem apply_inside (w : Write α) (mem : ℕ → α) {i : ℕ} (h : i < w.bytes.length) :
    w.apply mem (w.address + i) = w.bytes[i] := by
  simp [apply, h]

theorem apply_before (w : Write α) (mem : ℕ → α) {i : ℕ} (h : i < w.address) :
    w.apply mem i = mem i := if_pos h

theorem apply_after (w : Write α) (mem : ℕ → α) {i : ℕ} (h : w.address + w.bytes.length ≤ i) :
    w.apply mem i = mem i := by
  rw [apply, if_neg (by omega), List.getElem?_eq_none (by omega), Option.getD_none]

theorem apply_outside (w : Write α) (mem : ℕ → α) {i : ℕ}
    (h : i < w.address ∨ w.address + w.bytes.length ≤ i) : w.apply mem i = mem i := by
  rcases h with h | h
  · exact w.apply_before mem h
  · exact w.apply_after mem h

theorem applyAll_cons (w : Write α) (ws : List (Write α)) (mem : ℕ → α) :
    applyAll (w :: ws) mem = applyAll ws (w.apply mem) := rfl

theorem applyAll_append (ws vs : List (Write α)) (mem : ℕ → α) :
    applyAll (ws ++ vs) mem = applyAll vs (applyAll ws mem) := List.foldl_append

/-- What is written to the addresses from `start` to `stop` is there already. -/
def Rewrites (start stop : ℕ) (mem : ℕ → α) (w : Write α) : Prop :=
  ∀ i (h : i < w.bytes.length), start ≤ w.address + i → w.address + i < stop →
    w.bytes[i] = mem (w.address + i)

theorem apply_eq_iff (w : Write α) (mem : ℕ → α) {start stop : ℕ} :
    (∀ i, start ≤ i → i < stop → w.apply mem i = mem i) ↔ w.Rewrites start stop mem := by
  constructor
  · intro h i hi hstart hstop
    rw [← w.apply_inside mem hi]
    exact h _ hstart hstop
  · intro h i hstart hstop
    by_cases hout : i < w.address ∨ w.address + w.bytes.length ≤ i
    · exact w.apply_outside mem hout
    · obtain ⟨k, rfl⟩ := Nat.exists_eq_add_of_le (by omega : w.address ≤ i)
      rw [w.apply_inside mem (by omega)]
      exact h k _ hstart hstop

end Write

end memory

end EvseIso15118.StructLayout
