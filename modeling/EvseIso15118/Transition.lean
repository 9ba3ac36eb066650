import Mathlib

namespace EvseIso15118.Transition

variable {σ α : Type*} (step : σ → α → Option σ)

/-- The state after these actions; `step` is none where an action is not possible. -/
def run (s : σ) : List α → Option σ
  | [] => some s
  | a :: as => (step s a).bind fun t => run t as

/-- Every action of the run meets a condition in the state in which it is taken. -/
def Along (C : σ → α → Prop) (s : σ) : List α → Prop
  | [] => True
  | a :: as => C s a ∧ ∀ t, step s a = some t → Along C t as

instance decidableAlong (C : σ → α → Prop) [∀ s a, Decidable (C s a)] (s : σ) :
    (as : List α) → Decidable (Along step C s as)
  | [] => .isTrue trivial
  | a :: as =>
    match h : step s a with
    | none => decidable_of_iff (C s a) (by simp [Along, h])
    | some t =>
      have := decidableAlong C t as
      decidable_of_iff (C s a ∧ Along step C t as) (by simp [Along, h])

variable {step}

theorem run_cons {s t : σ} {a : α} {as : List α} (h : run step s (a :: as) = some t) :
    ∃ u, step s a = some u ∧ run step u as = some t := Option.bind_eq_some_iff.mp h

theorem invariant {I : σ → Prop} (hstep : ∀ s a t, I s → step s a = some t → I t) {s t : σ}
    {as : List α} (hs : I s) (hrun : run step s as = some t) : I t := by
  induction as generalizing s with
  | nil =>
    cases hrun
    exact hs
  | cons a as ih =>
    rcases run_cons hrun with ⟨u, hu, hrest⟩
    exact ih (hstep s a u hs hu) hrest

theorem invariant_along {C : σ → α → Prop} {I : σ → Prop}
    (hstep : ∀ s a t, I s → C s a → step s a = some t → I t) {s t : σ} {as : List α} (hs : I s)
    (hrun : run step s as = some t) (hC : Along step C s as) : I t := by
  induction as generalizing s with
  | nil =>
    cases hrun
    exact hs
  | cons a as ih =>
    rcases run_cons hrun with ⟨u, hu, hrest⟩
    exact ih (hstep s a u hs hC.1 hu) hrest (hC.2 u hu)

theorem along_of_invariant {P C : σ → α → Prop} {I : σ → Prop}
    (hstep : ∀ s a t, I s → P s a → step s a = some t → C s a ∧ I t) {s t : σ} {as : List α}
    (hs : I s) (hrun : run step s as = some t) (hP : Along step P s as) :
    Along step C s as ∧ I t := by
  induction as generalizing s with
  | nil =>
    cases hrun
    exact ⟨trivial, hs⟩
  | cons a as ih =>
    rcases run_cons hrun with ⟨u, hu, hrest⟩
    rcases hstep s a u hs hP.1 hu with ⟨hC, hkeep⟩
    rcases ih hkeep hrest (hP.2 u hu) with ⟨hall, ht⟩
    refine ⟨⟨hC, ?_⟩, ht⟩
    intro v hv
    rw [hu, Option.some_inj] at hv
    rwa [← hv]

/-- The states of a run, which stays in the last one. -/
def stateAt (step : σ → α → Option σ) (s : σ) : List α → ℕ → σ
  | [], _ => s
  | _ :: _, 0 => s
  | a :: as, n + 1 => stateAt step ((step s a).getD s) as n

theorem stateAt_zero (s : σ) (as : List α) : stateAt step s as 0 = s := by cases as <;> rfl

theorem stateAt_of_length_le {s t : σ} {as : List α} {n : ℕ} (hrun : run step s as = some t)
    (hn : as.length ≤ n) : stateAt step s as n = t := by
  induction as generalizing s n with
  | nil =>
    cases hrun
    rfl
  | cons a as ih =>
    rcases run_cons hrun with ⟨u, hu, hrest⟩
    obtain ⟨n, rfl⟩ := Nat.exists_eq_succ_of_ne_zero (Nat.ne_zero_of_lt hn)
    rw [stateAt, hu]
    exact ih hrest (Nat.le_of_succ_le_succ hn)

theorem stateAt_step {C : σ → α → Prop} {s t : σ} {as : List α} (hrun : run step s as = some t)
    (hC : Along step C s as) (n : ℕ) :
    (as[n]? = none ∧ stateAt step s as (n + 1) = stateAt step s as n) ∨
      ∃ a, as[n]? = some a ∧ C (stateAt step s as n) a ∧
        step (stateAt step s as n) a = some (stateAt step s as (n + 1)) := by
  induction as generalizing s n with
  | nil => exact Or.inl ⟨rfl, rfl⟩
  | cons a as ih =>
    rcases run_cons hrun with ⟨u, hu, hrest⟩
    cases n with
    | zero =>
      right
      refine ⟨a, rfl, hC.1, ?_⟩
      rw [stateAt, stateAt, hu, Option.getD_some, stateAt_zero]
    | succ n =>
      rw [stateAt, stateAt, hu, Option.getD_some, List.getElem?_cons_succ]
      exact ih hrest (hC.2 u hu) n

/-- Two conditions that agree in every state with the invariant, which the second one keeps, hold
along the same runs. -/
theorem along_congr {P C : σ → α → Prop} {I : σ → Prop}
    (hstep : ∀ s a t, I s → step s a = some t → (P s a ↔ C s a) ∧ (C s a → I t)) {s t : σ}
    {as : List α} (hs : I s) (hrun : run step s as = some t) :
    Along step P s as ↔ Along step C s as := by
  induction as generalizing s with
  | nil => exact Iff.rfl
  | cons a as ih =>
    rcases run_cons hrun with ⟨u, hu, hrest⟩
    rcases hstep s a u hs hu with ⟨hiff, hkeep⟩
    simp only [Along, hu, Option.some.injEq, forall_eq']
    rw [hiff]
    apply and_congr_right
    intro hC
    exact ih (hkeep hC) hrest

/-- Where every step both keeps `I` if it meets the condition and loses it for good if not, `I`
holds at the end exactly of the runs whose steps all meet the condition. `B` is an invariant of
every run, and only runs to a state with `A` are looked at, which comes from such states only. -/
theorem along_iff {C : σ → α → Prop} {A B I : σ → Prop}
    (hB : ∀ s a t, B s → step s a = some t → B t)
    (hA : ∀ s a t, B s → step s a = some t → A t → A s)
    (hI : ∀ s a t, B s → step s a = some t → A t → (I t ↔ C s a ∧ I s)) {s t : σ} {as : List α}
    (hs : B s) (hrun : run step s as = some t) (ht : A t) :
    A s ∧ (I t ↔ Along step C s as ∧ I s) := by
  induction as generalizing s with
  | nil =>
    cases hrun
    exact ⟨ht, ⟨fun h => ⟨trivial, h⟩, And.right⟩⟩
  | cons a as ih =>
    rcases run_cons hrun with ⟨u, hu, hrest⟩
    have hih := ih (hB s a u hs hu) hrest
    have hstep := hI s a u hs hu hih.1
    have hall : Along step C s (a :: as) ↔ C s a ∧ Along step C u as := by
      simp only [Along, hu, Option.some.injEq, forall_eq']
    refine ⟨hA s a u hs hu hih.1, ?_⟩
    rw [hih.2, hstep, hall]
    exact and_left_comm.trans and_assoc.symm

end EvseIso15118.Transition
