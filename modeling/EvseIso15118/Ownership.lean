import Mathlib

namespace EvseIso15118.Ownership

/-- A program asks its environment, one call after the other, and goes on with the answer. -/
inductive Prog {κ : Type} (Answer : κ → Type) (α : Type)
  | ret (a : α)
  | ask (c : κ) (k : Answer c → Prog Answer α)

section prog
variable {κ : Type} {Answer : κ → Type} {α β : Type}

def Prog.bind (p : Prog Answer α) (f : α → Prog Answer β) : Prog Answer β :=
  match p with
  | .ret a => f a
  | .ask c k => .ask c fun answer => (k answer).bind f

instance : Monad (Prog Answer) where
  pure := Prog.ret
  bind := Prog.bind

/-- A call and the answer to it. -/
abbrev Event (Answer : κ → Type) := Σ c, Answer c

/-- What the program asked and was answered, and what it returned. -/
inductive Runs : Prog Answer α → List (Event Answer) → α → Prop
  | ret (a : α) : Runs (.ret a) [] a
  | ask {c : κ} {k : Answer c → Prog Answer α} (answer : Answer c) {es : List (Event Answer)}
      {a : α} (h : Runs (k answer) es a) : Runs (.ask c k) (⟨c, answer⟩ :: es) a

@[simp] theorem runs_ret_iff {a b : α} {es : List (Event Answer)} :
    Runs (Prog.ret a) es b ↔ es = [] ∧ b = a := by
  constructor
  · rintro ⟨⟩
    exact ⟨rfl, rfl⟩
  · rintro ⟨rfl, rfl⟩
    exact Runs.ret b

@[simp] theorem runs_pure_iff {a b : α} {es : List (Event Answer)} :
    Runs (pure a : Prog Answer α) es b ↔ es = [] ∧ b = a := runs_ret_iff

@[simp] theorem runs_ask_iff {c : κ} {k : Answer c → Prog Answer α} {es : List (Event Answer)}
    {a : α} : Runs (Prog.ask c k) es a ↔
      ∃ answer es', es = ⟨c, answer⟩ :: es' ∧ Runs (k answer) es' a := by
  constructor
  · rintro ⟨⟩
    exact ⟨_, _, rfl, by assumption⟩
  · rintro ⟨answer, es', rfl, h⟩
    exact Runs.ask answer h

theorem runs_bind_iff {p : Prog Answer α} {f : α → Prog Answer β} {es : List (Event Answer)}
    {b : β} : Runs (p >>= f) es b ↔
      ∃ es₁ es₂ a, es = es₁ ++ es₂ ∧ Runs p es₁ a ∧ Runs (f a) es₂ b := by
  induction p generalizing es with
  | ret a =>
    constructor
    · intro h
      exact ⟨[], es, a, rfl, Runs.ret a, h⟩
    · rintro ⟨es₁, es₂, a', rfl, ha, h⟩
      rcases runs_ret_iff.mp ha with ⟨rfl, rfl⟩
      exact h
  | ask c k ih =>
    change Runs (Prog.ask c fun answer => k answer >>= f) es b ↔ _
    rw [runs_ask_iff]
    constructor
    · rintro ⟨answer, es', rfl, h⟩
      rcases (ih answer).mp h with ⟨es₁, es₂, a, rfl, ha, hb⟩
      exact ⟨⟨c, answer⟩ :: es₁, es₂, a, rfl, Runs.ask answer ha, hb⟩
    · rintro ⟨es₁, es₂, a, rfl, ha, hb⟩
      rcases runs_ask_iff.mp ha with ⟨answer, es', rfl, ha'⟩
      exact ⟨answer, es' ++ es₂, rfl, (ih answer).mpr ⟨es', es₂, a, rfl, ha', hb⟩⟩

def Prog.run (answers : (c : κ) → Answer c) : Prog Answer α → List (Event Answer) × α
  | .ret a => ([], a)
  | .ask c k => (⟨c, answers c⟩ :: ((k (answers c)).run answers).1, ((k (answers c)).run answers).2)

theorem runs_run (answers : (c : κ) → Answer c) (p : Prog Answer α) :
    Runs p (p.run answers).1 (p.run answers).2 := by
  induction p with
  | ret a => exact Runs.ret a
  | ask c k ih => exact Runs.ask _ (ih (answers c))

/-- Whatever the program is answered, `Q` is true of what it returns and of what an observer has
made of the events. -/
def Follows {σ : Type} (observe : σ → Event Answer → σ) (s : σ) (p : Prog Answer α)
    (Q : α → σ → Prop) : Prop :=
  match p with
  | .ret a => Q a s
  | .ask c k => ∀ answer, Follows observe (observe s ⟨c, answer⟩) (k answer) Q

section follows
variable {σ : Type} {observe : σ → Event Answer → σ} {s : σ} {p : Prog Answer α} {Q : α → σ → Prop}

theorem Follows.sound (h : Follows observe s p Q) {es : List (Event Answer)} {a : α}
    (hrun : Runs p es a) : Q a (es.foldl observe s) := by
  induction hrun generalizing s with
  | ret a => exact h
  | ask answer _ ih => exact ih (h answer)

theorem Follows.bind {f : α → Prog Answer β} {T : β → σ → Prop} (h : Follows observe s p Q)
    (hf : ∀ a t, Q a t → Follows observe t (f a) T) : Follows observe s (p >>= f) T := by
  induction p generalizing s with
  | ret a => exact hf a s h
  | ask c k ih => exact fun answer => ih answer (h answer)

end follows

/-- `Q` is true of what the program returns, whatever it is answered. -/
def Ensures (p : Prog Answer α) (Q : α → Prop) : Prop :=
  match p with
  | .ret a => Q a
  | .ask _ k => ∀ answer, Ensures (k answer) Q

theorem Ensures.sound {p : Prog Answer α} {Q : α → Prop} (h : Ensures p Q)
    {es : List (Event Answer)} {a : α} (hrun : Runs p es a) : Q a := by
  induction hrun with
  | ret a => exact h
  | ask answer _ ih => exact ih (h answer)

theorem Ensures.mono {p : Prog Answer α} {Q Q' : α → Prop} (h : Ensures p Q)
    (hq : ∀ a, Q a → Q' a) : Ensures p Q' := by
  induction p with
  | ret a => exact hq a h
  | ask c k ih => exact fun answer => ih answer (h answer)

theorem Ensures.and {p : Prog Answer α} {Q Q' : α → Prop} (h : Ensures p Q) (h' : Ensures p Q') :
    Ensures p fun a => Q a ∧ Q' a := by
  induction p with
  | ret a => exact ⟨h, h'⟩
  | ask c k ih => exact fun answer => ih answer (h answer) (h' answer)

theorem ensures_of_forall {p : Prog Answer α} {Q : α → Prop} (h : ∀ a, Q a) : Ensures p Q := by
  induction p with
  | ret a => exact h a
  | ask c k ih => exact ih

theorem Ensures.bind {p : Prog Answer α} {Q : α → Prop} {f : α → Prog Answer β} {T : β → Prop}
    (h : Ensures p Q) (hf : ∀ a, Q a → Ensures (f a) T) : Ensures (p >>= f) T := by
  induction p with
  | ret a => exact hf a h
  | ask c k ih => exact fun answer => ih answer (h answer)

end prog

/-- Which resources a call needs and gives up, and which an answer hands out. -/
structure Discipline {κ : Type} (Answer : κ → Type) (R : Type) where
  uses : κ → Set R
  frees : κ → Set R
  frees_subset : ∀ c, frees c ⊆ uses c
  makes : Event Answer → Set R

namespace Discipline

variable {κ R : Type} {Answer : κ → Type} (D : Discipline Answer R)

def next (held : Set R) (e : Event Answer) : Set R := held \ D.frees e.1 ∪ D.makes e

/-- What is held after these events. -/
def final (held : Set R) (es : List (Event Answer)) : Set R := es.foldl D.next held

/-- Each call uses what is held when it is made. -/
def Legal (held : Set R) : List (Event Answer) → Prop
  | [] => True
  | e :: es => D.uses e.1 ⊆ held ∧ Legal (D.next held e) es

/-- The environment hands out what is not held yet. -/
def Fresh (held : Set R) : List (Event Answer) → Prop
  | [] => True
  | e :: es => Disjoint (D.makes e) held ∧ Fresh (D.next held e) es

variable {D} {held : Set R} {e : Event Answer} {es : List (Event Answer)}

open Classical in
theorem balance_next (r : R) (hlegal : D.uses e.1 ⊆ held) (hfresh : Disjoint (D.makes e) held) :
    (if r ∈ held then 1 else 0) + (if r ∈ D.makes e then 1 else 0) =
      (if r ∈ D.next held e then 1 else 0) + (if r ∈ D.frees e.1 then 1 else 0) := by
  have hnext : r ∈ D.next held e ↔ (r ∈ held ∧ r ∉ D.frees e.1) ∨ r ∈ D.makes e := Iff.rfl
  by_cases hm : r ∈ D.makes e
  · have hh : r ∉ held := Set.disjoint_left.mp hfresh hm
    have hf : r ∉ D.frees e.1 := fun h => hh (hlegal (D.frees_subset e.1 h))
    rw [if_pos hm, if_neg hh, if_neg hf, if_pos (hnext.mpr (Or.inr hm))]
  · by_cases hf : r ∈ D.frees e.1
    · have hh : r ∈ held := hlegal (D.frees_subset e.1 hf)
      have hn : r ∉ D.next held e := fun h => (hnext.mp h).elim (fun h => h.2 hf) hm
      rw [if_neg hm, if_pos hh, if_pos hf, if_neg hn]
    · have hn : r ∈ D.next held e ↔ r ∈ held := by
        rw [hnext]
        tauto
      rw [if_neg hm, if_neg hf, if_congr hn rfl rfl]

open Classical in
/-- A resource is handed out as often as it is given up, but for what is held before and after. -/
theorem balance (r : R) (hlegal : D.Legal held es) (hfresh : D.Fresh held es) :
    (if r ∈ held then 1 else 0) + es.countP (fun e => r ∈ D.makes e) =
      (if r ∈ D.final held es then 1 else 0) + es.countP (fun e => r ∈ D.frees e.1) := by
  induction es generalizing held with
  | nil => rfl
  | cons e es ih =>
    have hrest := ih hlegal.2 hfresh.2
    have hone := balance_next r hlegal.1 hfresh.1
    change _ = (if r ∈ D.final (D.next held e) es then 1 else 0) + _
    rw [List.countP_cons, List.countP_cons]
    simp only [decide_eq_true_eq]
    omega

end Discipline

section owns
variable {κ R : Type} {Answer : κ → Type} {α β : Type}

/-- Holding `held`, the program only uses what it holds, whatever it is answered, and `Q` is true
of what it returns and of what it holds then. -/
def Owns (D : Discipline Answer R) (held : Set R) (p : Prog Answer α) (Q : α → Set R → Prop) :
    Prop :=
  match p with
  | .ret a => Q a held
  | .ask c k => D.uses c ⊆ held ∧ ∀ answer, Disjoint (D.makes ⟨c, answer⟩) held →
      Owns D (D.next held ⟨c, answer⟩) (k answer) Q

variable {D : Discipline Answer R} {held : Set R} {p : Prog Answer α} {Q Q' : α → Set R → Prop}

/-- In every run, with every environment that hands out new resources only. -/
theorem Owns.sound (h : Owns D held p Q) {es : List (Event Answer)} {a : α} (hrun : Runs p es a)
    (hfresh : D.Fresh held es) : D.Legal held es ∧ Q a (D.final held es) := by
  induction hrun generalizing held with
  | ret a => exact ⟨trivial, h⟩
  | ask answer _ ih =>
    rcases ih (h.2 answer hfresh.1) hfresh.2 with ⟨hlegal, hq⟩
    exact ⟨⟨h.1, hlegal⟩, hq⟩

theorem Owns.mono (h : Owns D held p Q) (hq : ∀ a s, Q a s → Q' a s) : Owns D held p Q' := by
  induction p generalizing held with
  | ret a => exact hq a held h
  | ask c k ih => exact ⟨h.1, fun answer hfresh => ih answer (h.2 answer hfresh)⟩

theorem Owns.bind {f : α → Prog Answer β} {T : β → Set R → Prop} (h : Owns D held p Q)
    (hf : ∀ a s, Q a s → Owns D s (f a) T) : Owns D held (p >>= f) T := by
  induction p generalizing held with
  | ret a => exact hf a held h
  | ask c k ih => exact ⟨h.1, fun answer hfresh => ih answer (h.2 answer hfresh)⟩

open Classical in
/-- Of a program that ends with what it began with: each resource is handed out as often as it is
given up. -/
theorem Owns.returns (h : Owns D held p fun _ s => s = held) {es : List (Event Answer)} {a : α}
    (hrun : Runs p es a) (hfresh : D.Fresh held es) :
    D.Legal held es ∧ D.final held es = held ∧
      ∀ r, es.countP (fun e => r ∈ D.makes e) = es.countP fun e => r ∈ D.frees e.1 := by
  rcases h.sound hrun hfresh with ⟨hlegal, hfinal⟩
  refine ⟨hlegal, hfinal, fun r => ?_⟩
  have hbalance := Discipline.balance r hlegal hfresh
  rw [hfinal] at hbalance
  exact Nat.add_left_cancel hbalance

end owns

end EvseIso15118.Ownership
