import EvseIso15118.Transition

namespace EvseIso15118.Sharing

/-- What a call of a component leaves behind and what is seen of it. -/
structure Outcome (σ τ ω : Type*) where
  own : σ
  shared : τ
  seen : ω

/-- The components and what they share. -/
structure State (ι σ τ : Type*) where
  own : ι → σ
  shared : τ

variable {ι σ τ α ω : Type*} (step : α → σ → τ → Outcome σ τ ω)

/-- What is seen of a component that is alone. -/
def trace : List α → σ → τ → List ω
  | [], _, _ => []
  | a :: as, s, t => (step a s t).seen :: trace as (step a s t).own (step a s t).shared

section calls
variable [DecidableEq ι]

def State.call (s : State ι σ τ) (c : ι × α) : State ι σ τ where
  own := Function.update s.own c.1 (step c.2 (s.own c.1) s.shared).own
  shared := (step c.2 (s.own c.1) s.shared).shared

/-- What is seen of component `i` among the others. -/
def traceOf (i : ι) : List (ι × α) → State ι σ τ → List ω
  | [], _ => []
  | c :: cs, s =>
    if c.1 = i then (step c.2 (s.own i) s.shared).seen :: traceOf i cs (s.call step c)
    else traceOf i cs (s.call step c)

/-- The calls of component `i`. -/
def callsOf (i : ι) (cs : List (ι × α)) : List α := (cs.filter fun c => c.1 = i).map Prod.snd

/-- The condition holds of every call. -/
abbrev Along (C : State ι σ τ → ι × α → Prop) (s : State ι σ τ) (cs : List (ι × α)) : Prop :=
  Transition.Along (fun s c => some (s.call step c)) C s cs

variable {step}

theorem along_cons {C : State ι σ τ → ι × α → Prop} {s : State ι σ τ} {c : ι × α}
    {cs : List (ι × α)} :
    Along step C s (c :: cs) ↔ C s c ∧ Along step C (s.call step c) cs := by
  simp only [Transition.Along, Option.some.injEq, forall_eq']

theorem callsOf_cons_self (a : α) (i : ι) (cs : List (ι × α)) :
    callsOf i ((i, a) :: cs) = a :: callsOf i cs := by
  simp [callsOf]

theorem callsOf_cons_ne {i : ι} {c : ι × α} (h : c.1 ≠ i) (cs : List (ι × α)) :
    callsOf i (c :: cs) = callsOf i cs := by
  simp [callsOf, h]

/-- A component finds in the shared state what it would find alone, and its own calls keep
that. -/
structure Confined (step : α → σ → τ → Outcome σ τ ω) (Agree : σ → τ → τ → Prop)
    (C : State ι σ τ → ι × α → Prop) : Prop where
  /-- A call depends on what is agreed on only. -/
  self : ∀ s i a t, C s (i, a) → Agree (s.own i) s.shared t →
    (step a (s.own i) s.shared).seen = (step a (s.own i) t).seen ∧
    (step a (s.own i) s.shared).own = (step a (s.own i) t).own ∧
    Agree (step a (s.own i) s.shared).own (step a (s.own i) s.shared).shared
      (step a (s.own i) t).shared
  /-- A call of another component leaves alone what is agreed on. -/
  other : ∀ s j a i t, C s (j, a) → j ≠ i → Agree (s.own i) s.shared t →
    Agree (s.own i) (step a (s.own j) s.shared).shared t

theorem traceOf_eq_trace {Agree : σ → τ → τ → Prop} {C : State ι σ τ → ι × α → Prop}
    (hconf : Confined step Agree C) {i : ι} {cs : List (ι × α)} {s : State ι σ τ} {t : τ}
    (hC : Along step C s cs) (h : Agree (s.own i) s.shared t) :
    traceOf step i cs s = trace step (callsOf i cs) (s.own i) t := by
  induction cs generalizing s t with
  | nil => rfl
  | cons c cs ih =>
    rw [along_cons] at hC
    rcases c with ⟨j, a⟩
    by_cases hj : j = i
    · subst hj
      rcases hconf.self s j a t hC.1 h with ⟨hseen, hown, hagree⟩
      have hnext : (s.call step (j, a)).own j = (step a (s.own j) t).own := by
        rw [← hown]
        exact Function.update_self j _ s.own
      rw [traceOf, if_pos rfl, callsOf_cons_self, trace, hseen, ← hnext]
      apply congrArg (List.cons _)
      apply ih hC.2
      rw [hnext, ← hown]
      exact hagree
    · have hsame : (s.call step (j, a)).own i = s.own i :=
        Function.update_of_ne (Ne.symm hj) _ s.own
      rw [traceOf, if_neg hj, callsOf_cons_ne hj, ← hsame]
      apply ih hC.2
      rw [hsame]
      exact hconf.other s j a i t hC.1 hj h

end calls

end EvseIso15118.Sharing
