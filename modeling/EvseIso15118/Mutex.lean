import EvseIso15118.Transition

namespace EvseIso15118.Mutex

open Relation

/-- What an operation asks of the shared state before it takes the lock, what its section begins
with in its own variables, and its statements; none at the end of the section. -/
structure Sections (Op σ ν : Type*) where
  admits : σ → Op → Bool
  enter : Op → ν
  step : σ → ν → Option (σ × ν)

/-- A call that has released the lock, with what it leaves in its variables. -/
structure Call (τ Op ν : Type*) where
  thread : τ
  op : Op
  result : ν

/-- The shared state, the thread in its section if there is one, the calls that wait for the lock,
those that the threads have not begun, and those that are done. -/
structure Threads (τ Op σ ν : Type*) where
  shared : σ
  holder : Option (τ × Op × ν)
  waiting : τ → Option Op
  todo : τ → List Op
  done : List (Call τ Op ν)

variable {τ Op σ ν : Type*} (S : Sections Op σ ν)

def start (s : σ) (program : τ → List Op) : Threads τ Op σ ν :=
  ⟨s, none, fun _ => none, program, []⟩

section act
variable [DecidableEq τ] (c : Threads τ Op σ ν) (t : τ)

/-- A thread that is in no call begins the next one, which returns at once if it is not admitted. -/
def begin : Option (Threads τ Op σ ν) :=
  match c.todo t with
  | [] => none
  | op :: ops =>
    if S.admits c.shared op then
      some { c with
        waiting := Function.update c.waiting t (some op)
        todo := Function.update c.todo t ops }
    else some { c with todo := Function.update c.todo t ops }

/-- The holder of the lock does a statement of its section, or releases the lock. -/
def work (op : Op) (x : ν) : Threads τ Op σ ν :=
  match S.step c.shared x with
  | some (s, y) => { c with shared := s, holder := some (t, op, y) }
  | none => { c with holder := none, done := c.done ++ [⟨t, op, x⟩] }

/-- What a thread does next, none if it waits for the lock or has done all its calls. -/
def act : Option (Threads τ Op σ ν) :=
  match c.holder, c.waiting t with
  | none, some op =>
    some { c with
      holder := some (t, op, S.enter op)
      waiting := Function.update c.waiting t none }
  | none, none => begin S c t
  | some (u, op, x), none => if u = t then some (work S c t op x) else begin S c t
  | some (u, op, x), some _ => if u = t then some (work S c t op x) else none

end act

def Steps : σ × ν → σ × ν → Prop := ReflTransGen fun p q => S.step p.1 p.2 = some q

/-- A section to its end. -/
def Whole (p q : σ × ν) : Prop := Steps S p q ∧ S.step q.1 q.2 = none

/-- One call after the other. -/
inductive Serial (s : σ) : List (Call τ Op ν) → σ → Prop
  | nil : Serial s [] s
  | concat {m s' : σ} {cs : List (Call τ Op ν)} {c : Call τ Op ν} (h : Serial s cs m)
      (hc : Whole S (m, S.enter c.op) (s', c.result)) : Serial s (cs ++ [c]) s'

variable {S} {p q r : σ × ν}

theorem whole_of_none (h : S.step p.1 p.2 = none) : Whole S p q ↔ q = p := by
  constructor
  · rintro ⟨hsteps, -⟩
    rcases hsteps.cases_head with heq | ⟨m, hm, -⟩
    · exact heq.symm
    · rw [h] at hm
      cases hm
  · rintro rfl
    exact ⟨.refl, h⟩

theorem whole_of_step (h : S.step p.1 p.2 = some q) : Whole S p r ↔ Whole S q r := by
  constructor
  · rintro ⟨hsteps, hend⟩
    rcases hsteps.cases_head with heq | ⟨m, hm, hrest⟩
    · rw [← heq, h] at hend
      cases hend
    · rw [h] at hm
      cases hm
      exact ⟨hrest, hend⟩
  · rintro ⟨hsteps, hend⟩
    exact ⟨hsteps.head h, hend⟩

theorem Steps.invariant {I : σ → Prop} (hstep : ∀ s x t y, I s → S.step s x = some (t, y) → I t)
    (h : Steps S p q) (hp : I p.1) : I q.1 := by
  induction h with
  | refl => exact hp
  | tail _ hlast ih => exact hstep _ _ _ _ ih hlast

theorem Serial.invariant {I : σ → Prop} (hstep : ∀ s x t y, I s → S.step s x = some (t, y) → I t)
    {s s' : σ} {cs : List (Call τ Op ν)} (h : Serial S s cs s') (hs : I s) : I s' := by
  induction h with
  | nil => exact hs
  | concat _ hc ih => exact hc.1.invariant hstep ih

/-- If each section does `f` to the shared state and leaves what `Result` says, so do the calls one
after the other. -/
theorem Serial.foldl {I : σ → Prop} {f : Op → σ → σ} {Result : Op → σ → ν → Prop}
    (hf : ∀ s op t x, I s → Whole S (s, S.enter op) (t, x) →
      t = f op s ∧ I t ∧ Result op s x) {s s' : σ} {cs : List (Call τ Op ν)}
    (h : Serial S s cs s') (hs : I s) :
    s' = cs.foldl (fun m c => f c.op m) s ∧ I s' ∧
      ∀ before c after, cs = before ++ c :: after →
        Result c.op (before.foldl (fun m c => f c.op m) s) c.result := by
  induction h with
  | nil =>
    refine ⟨rfl, hs, ?_⟩
    intro before c after hsplit
    simp at hsplit
  | concat hserial hc ih =>
    rcases ih with ⟨rfl, hm, hall⟩
    rcases hf _ _ _ _ hm hc with ⟨ht, hIt, hresult⟩
    refine ⟨?_, hIt, ?_⟩
    · rw [List.foldl_append, ht]
      rfl
    · intro before d after hsplit
      rcases List.eq_nil_or_concat after with rfl | ⟨init, last, rfl⟩
      · rcases List.append_inj' hsplit rfl with ⟨rfl, hlast⟩
        cases hlast
        exact hresult
      · rw [List.concat_eq_append, ← List.cons_append, ← List.append_assoc] at hsplit
        rcases List.append_inj' hsplit rfl with ⟨rfl, -⟩
        exact hall before d init rfl

variable [DecidableEq τ]

def opsOf (t : τ) (cs : List (Call τ Op ν)) : List Op :=
  (cs.filter fun c => c.thread = t).map Call.op

theorem opsOf_concat (t : τ) (cs : List (Call τ Op ν)) (c : Call τ Op ν) :
    opsOf t (cs ++ [c]) = opsOf t cs ++ if c.thread = t then [c.op] else [] := by
  unfold opsOf
  rw [List.filter_append, List.map_append]
  split_ifs with h
  · simp [h]
  · simp [h]

def Threads.current (c : Threads τ Op σ ν) (t : τ) : List Op :=
  (match c.holder with
    | none => []
    | some (u, op, _) => if u = t then [op] else []) ++ (c.waiting t).toList

/-- The shared state is that of the calls done, one after the other, and of the part of a section
that the holder of the lock has done; every thread has kept to its program, and waits only while
it does not hold the lock. -/
structure Consistent (S : Sections Op σ ν) (s : σ) (program : τ → List Op)
    (c : Threads τ Op σ ν) : Prop where
  serial : ∃ m, Serial S s c.done m ∧ (c.holder = none → c.shared = m) ∧
    ∀ t op x, c.holder = some (t, op, x) → Steps S (m, S.enter op) (c.shared, x)
  waits : ∀ t op x, c.holder = some (t, op, x) → c.waiting t = none
  order : ∀ t, opsOf t c.done ++ c.current t ++ c.todo t = program t

theorem consistent_start (s : σ) (program : τ → List Op) :
    Consistent S s program (start s program) where
  serial := by
    refine ⟨s, .nil, fun _ => rfl, ?_⟩
    rintro t op x ⟨⟩
  waits := by
    rintro t op x ⟨⟩
  order _ := rfl

variable {s : σ} {program : τ → List Op} {c d : Threads τ Op σ ν} {t : τ}

theorem Consistent.invariant (h : Consistent S s program c) {I : σ → Prop}
    (hstep : ∀ s x t y, I s → S.step s x = some (t, y) → I t) (hs : I s) : I c.shared := by
  rcases h.serial with ⟨m, hserial, hfree, hheld⟩
  have hm := hserial.invariant hstep hs
  rcases hholder : c.holder with _ | ⟨t, op, x⟩
  · rwa [hfree hholder]
  · exact (hheld t op x hholder).invariant hstep hm

theorem Consistent.begin (h : Consistent S s program c) (hfree : c.waiting t = none)
    (hadmits : ∀ op, S.admits c.shared op = true) (hother : ∀ op x, c.holder ≠ some (t, op, x))
    (hact : Mutex.begin S c t = some d) : Consistent S s program d := by
  unfold Mutex.begin at hact
  cases htodo : c.todo t with
  | nil =>
    simp only [htodo] at hact
    cases hact
  | cons op ops =>
    simp only [htodo, hadmits, if_true] at hact
    cases hact
    refine ⟨h.serial, ?_, fun v => ?_⟩
    · intro v op' x hholder
      have hv : v ≠ t := by
        rintro rfl
        exact hother op' x hholder
      exact (Function.update_of_ne hv _ _).trans (h.waits v op' x hholder)
    · rw [← h.order v]
      by_cases hv : v = t
      · subst hv
        simp [Threads.current, htodo, hfree]
      · simp [Threads.current, Function.update_of_ne hv]

theorem Consistent.work {op : Op} {x : ν} (h : Consistent S s program c)
    (hholder : c.holder = some (t, op, x)) : Consistent S s program (Mutex.work S c t op x) := by
  rcases h.serial with ⟨m, hserial, -, hheld⟩
  have hsteps := hheld t op x hholder
  have hwaits := h.waits t op x hholder
  unfold Mutex.work
  cases hstep : S.step c.shared x with
  | some q =>
    refine ⟨⟨m, hserial, fun hnone => (by cases hnone), ?_⟩, ?_, fun v => ?_⟩
    · rintro v op' y ⟨⟩
      exact hsteps.tail hstep
    · rintro v op' y ⟨⟩
      exact hwaits
    · rw [← h.order v]
      simp [Threads.current, hholder]
  | none =>
    refine ⟨⟨c.shared, hserial.concat ⟨hsteps, hstep⟩, fun _ => rfl, ?_⟩, ?_, fun v => ?_⟩
    · rintro v op' y ⟨⟩
    · rintro v op' y ⟨⟩
    · rw [← h.order v, opsOf_concat]
      simp [Threads.current, hholder]

theorem Consistent.act (h : Consistent S s program c)
    (hadmits : ∀ op, S.admits c.shared op = true) (hact : Mutex.act S c t = some d) :
    Consistent S s program d := by
  unfold Mutex.act at hact
  split at hact
  next op hholder hwaiting =>
    cases hact
    rcases h.serial with ⟨m, hserial, hfree, -⟩
    refine ⟨⟨m, hserial, fun hnone => (by cases hnone), ?_⟩, ?_, fun v => ?_⟩
    · rintro v op' x ⟨⟩
      rw [hfree hholder]
      exact .refl
    · rintro v op' x ⟨⟩
      exact Function.update_self _ _ _
    · rw [← h.order v]
      by_cases hv : v = t
      · subst hv
        simp [Threads.current, hholder, hwaiting]
      · simp [Threads.current, hholder, Function.update_of_ne hv, Ne.symm hv]
  next hholder hwaiting =>
    apply h.begin hwaiting hadmits _ hact
    intro op x hsome
    cases hholder.symm.trans hsome
  next u op x hholder hwaiting =>
    split_ifs at hact with hut
    · cases hact
      subst hut
      exact h.work hholder
    · apply h.begin hwaiting hadmits _ hact
      intro op' y hsome
      cases hholder.symm.trans hsome
      exact hut rfl
  next u op x _ hholder hwaiting =>
    split_ifs at hact with hut
    cases hact
    subst hut
    exact h.work hholder

/-- In every state that a schedule leads to, if what the statements keep admits all calls. -/
theorem Consistent.run {I : σ → Prop}
    (hstep : ∀ s x t y, I s → S.step s x = some (t, y) → I t)
    (hadmits : ∀ s op, I s → S.admits s op = true) (hs : I s) {ts : List τ}
    (hrun : Transition.run (Mutex.act S) (start s program) ts = some c) :
    Consistent S s program c :=
  Transition.invariant
    (fun _ _ _ h hact => h.act (fun op => hadmits _ op (h.invariant hstep hs)) hact)
    (consistent_start s program) hrun

theorem Consistent.finished (h : Consistent S s program c)
    (hstuck : ∀ t, Mutex.act S c t = none) :
    c.holder = none ∧ ∀ t, opsOf t c.done = program t := by
  unfold Mutex.act at hstuck
  rcases hholder : c.holder with _ | ⟨u, op, x⟩
  · refine ⟨rfl, fun t => ?_⟩
    have ht := hstuck t
    rw [hholder] at ht
    cases hwaiting : c.waiting t with
    | some op => simp [hwaiting] at ht
    | none =>
      simp only [hwaiting, Mutex.begin] at ht
      have htodo : c.todo t = [] := by
        cases htodo : c.todo t with
        | nil => rfl
        | cons op ops =>
          simp only [htodo] at ht
          split_ifs at ht
      simpa [Threads.current, hholder, hwaiting, htodo] using h.order t
  · have hu := hstuck u
    rw [hholder, h.waits u op x hholder] at hu
    simp at hu

end EvseIso15118.Mutex
