import Mathlib

namespace EvseIso15118.Reassembly

variable {α : Type*}

/-- The announced length is positive and does not change when more arrives. -/
structure Format (α : Type*) where
  total : List α → Option ℕ
  total_pos : ∀ {s k}, total s = some k → 0 < k
  total_append : ∀ {s k}, total s = some k → ∀ t, total (s ++ t) = some k

namespace Format

variable (F : Format α)

/-- The first frame and what follows it, once all of the frame is there. -/
def firstFrame (s : List α) : Option (List α × List α) :=
  match F.total s with
  | none => none
  | some k => if k ≤ s.length then some (s.take k, s.drop k) else none

variable {F}

theorem firstFrame_eq_some {s f r : List α} (h : F.firstFrame s = some (f, r)) :
    F.total s = some f.length ∧ s = f ++ r := by
  unfold firstFrame at h
  split at h
  · cases h
  · rename_i k hk
    split_ifs at h with hl
    cases h
    exact ⟨by simpa [hl] using hk, (List.take_append_drop k s).symm⟩

theorem firstFrame_append {f r : List α} (h : F.total (f ++ r) = some f.length) :
    F.firstFrame (f ++ r) = some (f, r) := by
  simp [firstFrame, h]

theorem firstFrame_length_lt {s f r : List α} (h : F.firstFrame s = some (f, r)) :
    r.length < s.length := by
  obtain ⟨hk, rfl⟩ := firstFrame_eq_some h
  have := F.total_pos hk
  simp
  omega

theorem firstFrame_nil : F.firstFrame [] = none := by
  cases h : F.firstFrame [] with
  | none => rfl
  | some p =>
    have := firstFrame_length_lt h
    simp at this

variable (F)

/-- The complete frames of a stream, and what is left after the last of them. -/
def split (s : List α) : List (List α) × List α :=
  match _h : F.firstFrame s with
  | none => ([], s)
  | some (f, r) => (f :: (split r).1, (split r).2)
termination_by s.length
decreasing_by all_goals exact firstFrame_length_lt _h

def frames (s : List α) : List (List α) := (F.split s).1

def residue (s : List α) : List α := (F.split s).2

variable {F}

theorem split_of_none {s : List α} (h : F.firstFrame s = none) : F.split s = ([], s) := by
  rw [split]
  split
  · rfl
  · rename_i hs
    rw [h] at hs
    cases hs

theorem split_of_some {s f r : List α} (h : F.firstFrame s = some (f, r)) :
    F.split s = (f :: F.frames r, F.residue r) := by
  rw [split]
  split
  · rename_i hs
    rw [h] at hs
    cases hs
  · rename_i hs
    rw [h] at hs
    cases hs
    rfl

theorem frames_of_none {s : List α} (h : F.firstFrame s = none) : F.frames s = [] := by
  simp [frames, split_of_none h]

theorem residue_of_none {s : List α} (h : F.firstFrame s = none) : F.residue s = s := by
  simp [residue, split_of_none h]

theorem frames_of_some {s f r : List α} (h : F.firstFrame s = some (f, r)) :
    F.frames s = f :: F.frames r := by
  rw [frames, split_of_some h]

theorem residue_of_some {s f r : List α} (h : F.firstFrame s = some (f, r)) :
    F.residue s = F.residue r := by
  rw [residue, split_of_some h]

theorem induction_frames {motive : List α → Prop}
    (incomplete : ∀ s, F.firstFrame s = none → motive s)
    (complete : ∀ s f r, F.firstFrame s = some (f, r) → motive r → motive s)
    (s : List α) : motive s := by
  induction hn : s.length using Nat.strong_induction_on generalizing s with
  | _ n ih =>
    cases h : F.firstFrame s with
    | none => exact incomplete s h
    | some p =>
      obtain ⟨f, r⟩ := p
      exact complete s f r h (ih r.length (hn ▸ firstFrame_length_lt h) r rfl)

theorem flatten_frames_append_residue (s : List α) : (F.frames s).flatten ++ F.residue s = s := by
  induction s using F.induction_frames with
  | incomplete s h => simp [frames_of_none h, residue_of_none h]
  | complete s f r h ih =>
    rw [frames_of_some h, residue_of_some h, List.flatten_cons, List.append_assoc, ih]
    exact (firstFrame_eq_some h).2.symm

theorem length_frames_le (s : List α) : (F.frames s).length ≤ s.length := by
  induction s using F.induction_frames with
  | incomplete s h => simp [frames_of_none h]
  | complete s f r h ih =>
    have := firstFrame_length_lt h
    rw [frames_of_some h, List.length_cons]
    omega

theorem firstFrame_residue (s : List α) : F.firstFrame (F.residue s) = none := by
  induction s using F.induction_frames with
  | incomplete s h => rwa [residue_of_none h]
  | complete s f r h ih => rwa [residue_of_some h]

/-- Cutting a stream at any point and keeping the residue changes nothing. -/
theorem split_append (s t : List α) :
    F.frames (s ++ t) = F.frames s ++ F.frames (F.residue s ++ t) ∧
      F.residue (s ++ t) = F.residue (F.residue s ++ t) := by
  induction s using F.induction_frames with
  | incomplete s h => simp [frames_of_none h, residue_of_none h]
  | complete s f r h ih =>
    obtain ⟨hk, rfl⟩ := firstFrame_eq_some h
    have ht : F.firstFrame (f ++ r ++ t) = some (f, r ++ t) := by
      rw [List.append_assoc]
      exact firstFrame_append (by rw [← List.append_assoc]; exact F.total_append hk t)
    rw [frames_of_some ht, residue_of_some ht, frames_of_some h, residue_of_some h]
    exact ⟨by rw [ih.1, List.cons_append], ih.2⟩

theorem split_flatten_cons (s c : List α) (cs : List (List α)) :
    F.frames (s ++ (c :: cs).flatten) =
        F.frames (s ++ c) ++ F.frames (F.residue (s ++ c) ++ cs.flatten) ∧
      F.residue (s ++ (c :: cs).flatten) = F.residue (F.residue (s ++ c) ++ cs.flatten) := by
  rw [List.flatten_cons, ← List.append_assoc]
  exact split_append (s ++ c) cs.flatten

variable (F)

/-- A list that is one frame, no more and no less. -/
def IsFrame (f : List α) : Prop := F.total f = some f.length

/-- The bytes after the last complete frame, when `m` bytes have come of frames
of the given lengths. -/
def leftover : List ℕ → ℕ → ℕ
  | [], m => m
  | k :: ks, m => if k ≤ m then leftover ks (m - k) else m

variable {F}

theorem IsFrame.firstFrame_append {f : List α} (h : F.IsFrame f) (r : List α) :
    F.firstFrame (f ++ r) = some (f, r) :=
  Format.firstFrame_append (F.total_append h r)

theorem IsFrame.firstFrame_prefix {p q : List α} (h : F.IsFrame (p ++ q)) (hq : q ≠ []) :
    F.firstFrame p = none := by
  cases hf : F.firstFrame p with
  | none => rfl
  | some x =>
    obtain ⟨hk, hp⟩ := firstFrame_eq_some (f := x.1) (r := x.2) hf
    have ht := F.total_append hk q
    rw [h] at ht
    have hl := congrArg List.length hp
    have := List.length_pos_iff.mpr hq
    simp only [List.length_append, Option.some.injEq] at ht hl
    omega

theorem frames_flatten {fs : List (List α)} (h : ∀ f ∈ fs, F.IsFrame f) :
    F.frames fs.flatten = fs ∧ F.residue fs.flatten = [] := by
  induction fs with
  | nil => exact ⟨frames_of_none firstFrame_nil, residue_of_none firstFrame_nil⟩
  | cons f fs ih =>
    have hf := (h f (by simp)).firstFrame_append fs.flatten
    have ih := ih fun g hg => h g (by simp [hg])
    rw [List.flatten_cons, frames_of_some hf, residue_of_some hf, ih.1, ih.2]
    exact ⟨rfl, rfl⟩

/-- A prefix of a stream of frames: the frames that are in it whole, and a
residue that is a proper part of the next one. -/
theorem frames_of_prefix {fs : List (List α)} (h : ∀ f ∈ fs, F.IsFrame f) {p q : List α}
    (hpq : p ++ q = fs.flatten) :
    ∃ hs, fs = F.frames p ++ hs ∧ F.residue p ++ q = hs.flatten ∧
      (F.residue p).length = leftover (fs.map List.length) p.length := by
  induction fs generalizing p with
  | nil =>
    obtain ⟨rfl, rfl⟩ := List.append_eq_nil_iff.mp hpq
    exact ⟨[], by simp [frames_of_none firstFrame_nil, residue_of_none firstFrame_nil, leftover]⟩
  | cons f fs ih =>
    have hf := h f (by simp)
    rw [List.flatten_cons] at hpq
    have hp : p <+: f ++ fs.flatten := ⟨q, hpq⟩
    by_cases hl : f.length ≤ p.length
    · obtain ⟨p', rfl⟩ := List.prefix_of_prefix_length_le (List.prefix_append f _) hp hl
      rw [List.append_assoc, List.append_cancel_left_eq] at hpq
      obtain ⟨hs, hfs, hr, hlen⟩ := ih (fun g hg => h g (by simp [hg])) hpq
      have hff := hf.firstFrame_append p'
      refine ⟨hs, ?_, ?_, ?_⟩
      · rw [frames_of_some hff, List.cons_append, ← hfs]
      · rw [residue_of_some hff, hr]
      · simp [residue_of_some hff, hlen, leftover]
    · obtain ⟨q', rfl⟩ := List.prefix_of_prefix_length_le hp (List.prefix_append f _) (by omega)
      have hn : F.firstFrame p = none := hf.firstFrame_prefix (by rintro rfl; simp at hl)
      refine ⟨(p ++ q') :: fs, ?_, ?_, ?_⟩
      · simp [frames_of_none hn]
      · rw [residue_of_none hn, hpq, List.flatten_cons]
      · rw [residue_of_none hn, List.map_cons, leftover, if_neg hl]

end Format

end EvseIso15118.Reassembly
