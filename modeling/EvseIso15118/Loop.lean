import Mathlib

namespace EvseIso15118.Loop

variable {σ ρ : Type*} (body : σ → σ ⊕ ρ)

/-- At most so many rounds of a `while` loop, whose body goes round again with a new state or
leaves with a result. -/
def run : ℕ → σ → σ ⊕ ρ
  | 0, s => .inl s
  | n + 1, s =>
    match body s with
    | .inl s' => run n s'
    | .inr r => .inr r

/-- The loop is at `t` after some number of rounds from `s`. -/
def Visits (s t : σ) : Prop := ∃ n, run body n s = .inl t

variable {body}

theorem run_succ_inl {s s' : σ} (h : body s = .inl s') (n : ℕ) :
    run body (n + 1) s = run body n s' := by
  simp [run, h]

theorem run_succ_inr {s : σ} {r : ρ} (h : body s = .inr r) (n : ℕ) :
    run body (n + 1) s = .inr r := by
  simp [run, h]

theorem run_add_inl {s t : σ} {m : ℕ} (h : run body m s = .inl t) (n : ℕ) :
    run body (m + n) s = run body n t := by
  induction m generalizing s with
  | zero =>
    cases h
    rw [Nat.zero_add]
  | succ m ih =>
    rw [Nat.succ_add]
    cases hb : body s with
    | inl s' =>
      rw [run_succ_inl hb] at h ⊢
      exact ih h
    | inr r =>
      rw [run_succ_inr hb] at h
      cases h

theorem run_add_inr {s : σ} {r : ρ} {m : ℕ} (h : run body m s = .inr r) (n : ℕ) :
    run body (m + n) s = .inr r := by
  induction m generalizing s with
  | zero => cases h
  | succ m ih =>
    rw [Nat.succ_add]
    cases hb : body s with
    | inl s' =>
      rw [run_succ_inl hb] at h ⊢
      exact ih h
    | inr r' =>
      rw [run_succ_inr hb] at h ⊢
      exact h

theorem run_of_le {s : σ} {r : ρ} {m n : ℕ} (h : run body m s = .inr r) (hmn : m ≤ n) :
    run body n s = .inr r := by
  obtain ⟨k, rfl⟩ := Nat.exists_eq_add_of_le hmn
  exact run_add_inr h k

theorem Visits.refl (s : σ) : Visits body s s := ⟨0, rfl⟩

theorem Visits.tail {s t u : σ} (h : Visits body s t) (hb : body t = .inl u) :
    Visits body s u := by
  obtain ⟨n, hn⟩ := h
  exact ⟨n + 1, by rw [run_add_inl hn, run_succ_inl hb]; rfl⟩

theorem exists_visited_of_run_inr {s : σ} {r : ρ} {n : ℕ} (h : run body n s = .inr r) :
    ∃ t, Visits body s t ∧ body t = .inr r := by
  induction n generalizing s with
  | zero => cases h
  | succ n ih =>
    cases hb : body s with
    | inl s' =>
      rw [run_succ_inl hb] at h
      obtain ⟨t, ⟨m, hm⟩, ht⟩ := ih h
      exact ⟨t, ⟨m + 1, by rw [run_succ_inl hb, hm]⟩, ht⟩
    | inr r' =>
      rw [run_succ_inr hb] at h
      cases h
      exact ⟨s, Visits.refl s, hb⟩

/-- The invariant rule: what a round preserves holds at every visited state. -/
theorem Visits.invariant {I : σ → Prop} {s t : σ} (h : Visits body s t) (hs : I s)
    (hstep : ∀ u v, I u → body u = .inl v → I v) : I t := by
  obtain ⟨n, hn⟩ := h
  induction n generalizing s with
  | zero =>
    cases hn
    exact hs
  | succ n ih =>
    cases hb : body s with
    | inl s' =>
      rw [run_succ_inl hb] at hn
      exact ih (hstep s s' hs hb) hn
    | inr r =>
      rw [run_succ_inr hb] at hn
      cases hn

theorem run_eq_inl_of_invariant {I : σ → Prop} {s : σ} (hs : I s)
    (hstep : ∀ u, I u → ∃ v, body u = .inl v ∧ I v) (n : ℕ) : ∃ t, run body n s = .inl t := by
  induction n generalizing s with
  | zero => exact ⟨s, rfl⟩
  | succ n ih =>
    obtain ⟨v, hv, hi⟩ := hstep s hs
    rw [run_succ_inl hv]
    exact ih hi

theorem run_rel {σ' ρ' : Type*} {body' : σ' → σ' ⊕ ρ'} {R : σ → σ' → Prop} {Q : ρ → ρ' → Prop}
    (hstep : ∀ s s', R s s' → Sum.LiftRel R Q (body s) (body' s')) (n : ℕ) {s : σ} {s' : σ'}
    (h : R s s') : Sum.LiftRel R Q (run body n s) (run body' n s') := by
  induction n generalizing s s' with
  | zero => exact Sum.LiftRel.inl h
  | succ n ih =>
    have hone := hstep s s' h
    cases hb : body s with
    | inl t =>
      cases hb' : body' s' with
      | inl t' =>
        rw [hb, hb', Sum.liftRel_inl_inl] at hone
        rw [run_succ_inl hb, run_succ_inl hb']
        exact ih hone
      | inr r' =>
        rw [hb, hb'] at hone
        cases hone
    | inr r =>
      cases hb' : body' s' with
      | inl t' =>
        rw [hb, hb'] at hone
        cases hone
      | inr r' =>
        rw [run_succ_inr hb, run_succ_inr hb', ← hb, ← hb']
        exact hone

theorem Visits.run_eq_inl {s t : σ} (h : Visits body s t)
    (ht : ∀ n, ∃ u, run body n t = .inl u) (n : ℕ) : ∃ u, run body n s = .inl u := by
  obtain ⟨m, hm⟩ := h
  cases hn : run body n s with
  | inl u => exact ⟨u, rfl⟩
  | inr r =>
    obtain ⟨u, hu⟩ := ht n
    have := run_of_le hn (Nat.le_add_left n m)
    rw [run_add_inl hm, hu] at this
    cases this

/-- A loop whose rounds bring a rank down leaves. -/
theorem exists_run_eq_inr {I : σ → Prop} {rank : σ → ℕ} {s : σ} (hs : I s)
    (hstep : ∀ u v, I u → body u = .inl v → I v ∧ rank v < rank u) {n : ℕ} (hn : rank s < n) :
    ∃ r, run body n s = .inr r := by
  induction n generalizing s with
  | zero => omega
  | succ n ih =>
    cases hb : body s with
    | inl t =>
      obtain ⟨ht, hlt⟩ := hstep s t hs hb
      rw [run_succ_inl hb]
      exact ih ht (by omega)
    | inr r => exact ⟨r, run_succ_inr hb n⟩

section ahead
variable {α : Type*} {next : α → α → Prop} {a b c : α}

open Relation

theorem not_transGen_self (hdet : Relator.RightUnique next) (hend : ∀ d, ¬ next b d)
    (h : ReflTransGen next a b) : ¬ TransGen next a a := by
  induction h using ReflTransGen.head_induction_on with
  | refl =>
    intro hcycle
    obtain ⟨d, hd, -⟩ := TransGen.head'_iff.mp hcycle
    exact hend d hd
  | head hstep _ ih =>
    intro hcycle
    obtain ⟨d, hd, hback⟩ := TransGen.head'_iff.mp hcycle
    rw [hdet hd hstep] at hback
    exact ih (TransGen.tail' hback hstep)

/-- The places on the way at which the walk goes on. -/
def ahead (next : α → α → Prop) (a : α) : Set α :=
  {x | ReflTransGen next a x ∧ ∃ y, next x y}

theorem ncard_ahead_lt (hdet : Relator.RightUnique next) (hend : ∀ d, ¬ next b d)
    (hfinite : (ahead next a).Finite) (hstep : next a c) (h : ReflTransGen next c b) :
    (ahead next c).ncard < (ahead next a).ncard := by
  apply Set.ncard_lt_ncard _ hfinite
  refine ⟨fun x hx => ⟨.head hstep hx.1, hx.2⟩, fun hsub => ?_⟩
  have ha := hsub ⟨.refl, c, hstep⟩
  exact not_transGen_self hdet hend (.head hstep h) (TransGen.head' hstep ha.1)

end ahead

end EvseIso15118.Loop
