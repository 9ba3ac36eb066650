import EvseIso15118.Transition

namespace EvseIso15118.Network

/-- A party is a step function of its environment and of the message it is handed. -/
structure Protocol (σ μ ε : Type*) where
  /-- The party after a step, and the messages it puts on the way to its peer. -/
  step : ε → Option μ → σ → σ × List μ
  /-- A party that halted takes no more steps. -/
  halted : σ → Bool
  /-- Only a party that listens is handed a message. -/
  listens : σ → Bool

structure State (σ μ : Type*) where
  party : Bool → σ
  /-- The messages on the way to a party. -/
  inbox : Bool → List μ

/-- `recv` is the place in its inbox of the message the party is handed, if any. -/
inductive Action (ε : Type*)
  | step (r : Bool) (env : ε) (recv : Option ℕ)
  | lose (r : Bool) (k : ℕ)
  | duplicate (r : Bool) (k : ℕ)

section act
variable {σ μ ε : Type*} (P : Protocol σ μ ε)

/-- Party `r` has stepped to `out`, `rest` is still on the way to it. -/
def State.after (s : State σ μ) (r : Bool) (out : σ × List μ) (rest : List μ) : State σ μ where
  party := Function.update s.party r out.1
  inbox q := if q = r then rest else s.inbox q ++ out.2

@[simp] theorem State.after_inbox_self (s : State σ μ) (r : Bool) (out : σ × List μ)
    (rest : List μ) : (s.after r out rest).inbox r = rest := if_pos rfl

@[simp] theorem State.after_inbox_not (s : State σ μ) (r : Bool) (out : σ × List μ)
    (rest : List μ) : (s.after r out rest).inbox (!r) = s.inbox (!r) ++ out.2 :=
  if_neg (by simp)

@[simp] theorem State.after_party_self (s : State σ μ) (r : Bool) (out : σ × List μ)
    (rest : List μ) : (s.after r out rest).party r = out.1 := Function.update_self _ _ _

@[simp] theorem State.after_party_not (s : State σ μ) (r : Bool) (out : σ × List μ)
    (rest : List μ) : (s.after r out rest).party (!r) = s.party (!r) :=
  Function.update_of_ne (by simp) _ _

def act (s : State σ μ) : Action ε → Option (State σ μ)
  | .step r env none =>
    if P.halted (s.party r) then none
    else some (s.after r (P.step env none (s.party r)) (s.inbox r))
  | .step r env (some k) =>
    if P.halted (s.party r) || !P.listens (s.party r) then none
    else (s.inbox r)[k]?.map fun m =>
      s.after r (P.step env (some m) (s.party r)) ((s.inbox r).eraseIdx k)
  | .lose r k => some { s with inbox := Function.update s.inbox r ((s.inbox r).eraseIdx k) }
  | .duplicate r k =>
    (s.inbox r)[k]?.map fun m =>
      { s with inbox := Function.update s.inbox r (s.inbox r ++ [m]) }

/-- The channel hands over the first message and makes no copies. -/
def Action.inOrder : Action ε → Bool
  | .step _ _ recv => recv.all (· == 0)
  | .lose _ _ => true
  | .duplicate _ _ => false

def received (s : State σ μ) : Action ε → Option μ
  | .step r _ (some k) => (s.inbox r)[k]?
  | _ => none

def Steps (C : (Bool → σ) → Bool → Option μ → Prop) (s : State σ μ) : Action ε → Prop
  | .step r env recv => C s.party r (received s (.step r env recv))
  | _ => True

instance (C : (Bool → σ) → Bool → Option μ → Prop) [∀ p r m, Decidable (C p r m)]
    (s : State σ μ) (a : Action ε) : Decidable (Steps C s a) := by
  cases a <;> unfold Steps <;> infer_instance

end act

section cases
variable {σ μ ε : Type*} {P : Protocol σ μ ε} {s t : State σ μ}

/-- A fault of the channel moves no party and puts nothing new on the way. -/
structure Fault (s t : State σ μ) : Prop where
  party : t.party = s.party
  inbox : ∀ r, ∀ m ∈ t.inbox r, m ∈ s.inbox r

/-- Party `r` has stepped, with a message from its inbox if any. -/
structure Stepped (P : Protocol σ μ ε) (s t : State σ μ) (r : Bool) (env : ε)
    (recv : Option μ) : Prop where
  running : P.halted (s.party r) = false
  fromInbox : ∀ m ∈ recv, m ∈ s.inbox r
  listens : recv.isSome → P.listens (s.party r) = true
  party : t.party = Function.update s.party r (P.step env recv (s.party r)).1
  own : ∀ m ∈ t.inbox r, m ∈ s.inbox r
  other : ∀ m ∈ t.inbox (!r), m ∈ s.inbox (!r) ∨ m ∈ (P.step env recv (s.party r)).2

theorem fault_update {r : Bool} {ms : List μ} (h : ∀ m ∈ ms, m ∈ s.inbox r) :
    Fault s { s with inbox := Function.update s.inbox r ms } where
  party := rfl
  inbox := by
    intro q m hm
    change m ∈ Function.update s.inbox r ms q at hm
    by_cases hq : q = r
    · subst hq
      rw [Function.update_self] at hm
      exact h m hm
    · rw [Function.update_of_ne hq] at hm
      exact hm

theorem stepped_after {r : Bool} {env : ε} {recv : Option μ} {rest : List μ}
    (hrun : P.halted (s.party r) = false) (hfrom : ∀ m ∈ recv, m ∈ s.inbox r)
    (hlis : recv.isSome → P.listens (s.party r) = true) (hrest : ∀ m ∈ rest, m ∈ s.inbox r) :
    Stepped P s (s.after r (P.step env recv (s.party r)) rest) r env recv where
  running := hrun
  fromInbox := hfrom
  listens := hlis
  party := rfl
  own := by
    intro m hm
    rw [State.after_inbox_self] at hm
    exact hrest m hm
  other := by
    intro m hm
    rw [State.after_inbox_not] at hm
    exact List.mem_append.mp hm

theorem act_cases {a : Action ε} (h : act P s a = some t) :
    Fault s t ∧ (∀ C, Steps C s a) ∨
      ∃ r env k, a = .step r env k ∧ Stepped P s t r env (received s a) := by
  cases a with
  | step r env k =>
    right
    refine ⟨r, env, k, rfl, ?_⟩
    cases k with
    | none =>
      rw [act] at h
      split_ifs at h with hh
      cases h
      exact stepped_after (Bool.eq_false_iff.mpr hh) (by simp) (by simp)
        fun _ hm => hm
    | some k =>
      rw [act] at h
      split_ifs at h with hh
      rcases Option.map_eq_some_iff.mp h with ⟨m, hm, rfl⟩
      rw [Bool.or_eq_true, not_or, Bool.not_eq_true, Bool.not_eq_true, Bool.not_eq_false'] at hh
      have hrec : received s (.step r env (some k)) = some m := hm
      rw [hrec]
      refine stepped_after hh.1 ?_ (fun _ => hh.2) fun _ hm => List.mem_of_mem_eraseIdx hm
      rintro _ ⟨⟩
      exact List.mem_of_getElem? hm
  | lose r k =>
    left
    cases h
    exact ⟨fault_update fun _ hm => List.mem_of_mem_eraseIdx hm, fun _ => trivial⟩
  | duplicate r k =>
    left
    rcases Option.map_eq_some_iff.mp h with ⟨m, hm, rfl⟩
    refine ⟨fault_update ?_, fun _ => trivial⟩
    intro m' hm'
    rcases List.mem_append.mp hm' with hm' | hm'
    · exact hm'
    · rw [List.mem_singleton.mp hm']
      exact List.mem_of_getElem? hm

end cases

section invariant
variable {σ μ ε : Type*} (P : Protocol σ μ ε)

/-- An invariant over the parties and the messages on the way to each: `Msg p r m` says what
message `m` on the way to `r` means for the parties `p`. -/
structure Invariant where
  Parties : (Bool → σ) → Prop
  Msg : (Bool → σ) → Bool → μ → Prop
  /-- A step keeps what is said about the parties. -/
  parties_step : ∀ p r env recv, Parties p → P.halted (p r) = false →
    (∀ m ∈ recv, Msg p r m) → Parties (Function.update p r (P.step env recv (p r)).1)
  /-- It keeps the meaning of the messages on the way. -/
  msg_stable : ∀ p r env recv q m, Parties p → P.halted (p r) = false → Msg p q m →
    Msg (Function.update p r (P.step env recv (p r)).1) q m
  /-- What it sends has its meaning. -/
  msg_sent : ∀ p r env recv, Parties p → P.halted (p r) = false →
    ∀ m ∈ (P.step env recv (p r)).2,
      Msg (Function.update p r (P.step env recv (p r)).1) (!r) m

variable {P}

structure Invariant.Holds (I : Invariant P) (s : State σ μ) : Prop where
  parties : I.Parties s.party
  msg : ∀ r, ∀ m ∈ s.inbox r, I.Msg s.party r m

theorem Invariant.act (I : Invariant P) {s t : State σ μ} {a : Action ε} (h : I.Holds s)
    (hact : Network.act P s a = some t) : I.Holds t := by
  rcases act_cases hact with ⟨hf, -⟩ | ⟨r, env, k, rfl, hst⟩
  · constructor
    · rw [hf.party]
      exact h.parties
    · intro r m hm
      rw [hf.party]
      exact h.msg r m (hf.inbox r m hm)
  · have stable := I.msg_stable s.party r env (received s (.step r env k))
    constructor
    · rw [hst.party]
      exact I.parties_step _ _ _ _ h.parties hst.running fun m hm =>
        h.msg r m (hst.fromInbox m hm)
    · intro q m hm
      rw [hst.party]
      -- nothing new is on the way to the party itself
      by_cases hq : q = r
      · subst hq
        exact stable q m h.parties hst.running (h.msg q m (hst.own m hm))
      · obtain rfl : q = !r := by
          revert hq
          cases q <;> cases r <;> simp
        rcases hst.other m hm with hm | hm
        · exact stable _ m h.parties hst.running (h.msg _ m hm)
        · exact I.msg_sent _ _ _ _ h.parties hst.running m hm

/-- With nothing on the way, only the parties have to be looked at. -/
theorem Invariant.holds_of_empty (I : Invariant P) {s : State σ μ} (hparties : I.Parties s.party)
    (hinbox : ∀ r, s.inbox r = []) : I.Holds s := by
  refine ⟨hparties, ?_⟩
  intro r m hm
  rw [hinbox r] at hm
  cases hm

theorem Invariant.run (I : Invariant P) {s t : State σ μ} {as : List (Action ε)}
    (hs : I.Holds s) (hrun : Transition.run (Network.act P) s as = some t) : I.Holds t :=
  Transition.invariant (fun _ _ _ h hact => I.act h hact) hs hrun

end invariant

end EvseIso15118.Network
