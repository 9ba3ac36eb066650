import Mathlib

namespace EvseIso15118.Dialogue

inductive Act (τ : Type*)
  | send (t : τ)
  | recv (t : τ)
  deriving DecidableEq

variable {τ : Type*}

def Act.dual : Act τ → Act τ
  | .send t => .recv t
  | .recv t => .send t

/-- The script of the other side. -/
def dual (l : List (Act τ)) : List (Act τ) := l.map Act.dual

def sends (ts : List τ) : List (Act τ) := ts.map Act.send

def recvs (ts : List τ) : List (Act τ) := ts.map Act.recv

@[simp] theorem dual_nil : dual ([] : List (Act τ)) = [] := rfl

@[simp] theorem dual_cons (a : Act τ) (l : List (Act τ)) : dual (a :: l) = a.dual :: dual l := rfl

@[simp] theorem sends_nil : sends ([] : List τ) = [] := rfl

@[simp] theorem recvs_nil : recvs ([] : List τ) = [] := rfl

@[simp] theorem recvs_cons (t : τ) (ts : List τ) : recvs (t :: ts) = Act.recv t :: recvs ts := rfl

theorem recvs_append (ts us : List τ) : recvs (ts ++ us) = recvs ts ++ recvs us := List.map_append

theorem dual_append (l m : List (Act τ)) : dual (l ++ m) = dual l ++ dual m := List.map_append

theorem dual_sends (ts : List τ) : dual (sends ts) = recvs ts := by
  simp only [dual, sends, recvs, List.map_map]
  rfl

theorem dual_dual (l : List (Act τ)) : dual (dual l) = l := by
  unfold dual
  rw [List.map_map]
  have hid : (Act.dual ∘ Act.dual : Act τ → Act τ) = id := by
    funext a
    cases a <;> rfl
  rw [hid, List.map_id]

/-- What is left of the two scripts, and the messages on the way to each side. -/
structure State (τ : Type*) where
  script : Bool → List (Act τ)
  queue : Bool → List τ

namespace State

/-- Side `r` has nothing to receive, and the other one what is in its queue before it answers
the rest of the script of `r`. -/
def Leads (s : State τ) (r : Bool) : Prop :=
  s.queue r = [] ∧ s.script (!r) = recvs (s.queue (!r)) ++ dual (s.script r)

/-- One of the two sides leads. -/
def Aligned (s : State τ) : Prop := ∃ r, s.Leads r

/-- Side `r` sends these messages. -/
def send (s : State τ) (r : Bool) (ts : List τ) (rest : List (Act τ)) : State τ where
  script := Function.update s.script r rest
  queue := Function.update s.queue (!r) (s.queue (!r) ++ ts)

/-- Side `r` receives the first message in its queue. -/
def receive (s : State τ) (r : Bool) (rest : List (Act τ)) : State τ where
  script := Function.update s.script r rest
  queue := Function.update s.queue r (s.queue r).tail

variable {s : State τ} {r : Bool}

@[simp] theorem send_script_self (ts : List τ) (rest : List (Act τ)) :
    (s.send r ts rest).script r = rest := Function.update_self _ _ _

@[simp] theorem send_script_not (ts : List τ) (rest : List (Act τ)) :
    (s.send r ts rest).script (!r) = s.script (!r) := Function.update_of_ne (by simp) _ _

@[simp] theorem send_queue_self (ts : List τ) (rest : List (Act τ)) :
    (s.send r ts rest).queue r = s.queue r := Function.update_of_ne (by simp) _ _

@[simp] theorem send_queue_not (ts : List τ) (rest : List (Act τ)) :
    (s.send r ts rest).queue (!r) = s.queue (!r) ++ ts := Function.update_self _ _ _

@[simp] theorem receive_script_self (rest : List (Act τ)) : (s.receive r rest).script r = rest :=
  Function.update_self _ _ _

@[simp] theorem receive_script_not (rest : List (Act τ)) :
    (s.receive r rest).script (!r) = s.script (!r) := Function.update_of_ne (by simp) _ _

@[simp] theorem receive_queue_self (rest : List (Act τ)) :
    (s.receive r rest).queue r = (s.queue r).tail := Function.update_self _ _ _

@[simp] theorem receive_queue_not (rest : List (Act τ)) :
    (s.receive r rest).queue (!r) = s.queue (!r) := Function.update_of_ne (by simp) _ _

theorem aligned_of_dual (hq : ∀ r, s.queue r = []) (h : s.script (!r) = dual (s.script r)) :
    s.Aligned := by
  refine ⟨r, hq r, ?_⟩
  rw [hq, h]
  rfl

/-- A side that does not lead has nothing on the way to the other one, and has to receive what
is in its own queue. -/
theorem Leads.other (h : s.Leads (!r)) :
    s.queue (!r) = [] ∧ s.script r = recvs (s.queue r) ++ dual (s.script (!r)) := by
  have h2 := h.2
  rw [Bool.not_not] at h2
  exact ⟨h.1, h2⟩

theorem Aligned.leads_of_send (h : s.Aligned) {t : τ} {rest : List (Act τ)}
    (hs : s.script r = .send t :: rest) : s.Leads r := by
  rcases h with ⟨q, hq⟩
  by_cases hqr : q = r
  · rwa [← hqr]
  · obtain rfl := Bool.eq_not_iff.mpr hqr
    have hother := hq.other
    cases hque : s.queue r with
    | nil =>
      refine ⟨hque, ?_⟩
      rw [hother.2, hque, hother.1, recvs_nil, List.nil_append, List.nil_append, dual_dual]
    | cons u us =>
      rw [hs, hque, recvs_cons, List.cons_append] at hother
      cases hother.2

theorem Aligned.send (h : s.Aligned) {ts : List τ} {rest : List (Act τ)}
    (hs : s.script r = sends ts ++ rest) : (s.send r ts rest).Aligned := by
  cases ts with
  | nil =>
    have hsame : s.send r [] rest = s := by
      rw [sends_nil, List.nil_append] at hs
      rw [State.send, List.append_nil, ← hs, Function.update_eq_self, Function.update_eq_self]
    rwa [hsame]
  | cons t ts =>
    rcases h.leads_of_send hs with ⟨hq, hother⟩
    refine ⟨r, ?_, ?_⟩
    · rw [send_queue_self, hq]
    · rw [send_script_not, send_queue_not, send_script_self, hother, hs, dual_append, dual_sends,
        recvs_append, List.append_assoc]

theorem Aligned.expected (h : s.Aligned) {t : τ} {ts : List τ} (hq : s.queue r = t :: ts) :
    ∃ rest, s.script r = .recv t :: rest ∧ (s.receive r rest).Aligned := by
  rcases h with ⟨q, hlead⟩
  by_cases hqr : q = r
  · subst hqr
    have hnil := hlead.1
    rw [hq] at hnil
    cases hnil
  · obtain rfl := Bool.eq_not_iff.mpr hqr
    rcases hlead.other with ⟨hnil, hscript⟩
    rw [hq, recvs_cons, List.cons_append] at hscript
    refine ⟨_, hscript, !r, ?_, ?_⟩
    · rw [receive_queue_not, hnil]
    · rw [Bool.not_not, receive_script_self, receive_queue_self, receive_script_not, hq,
        List.tail_cons]

/-- As long as a script is not over, somebody has to send or has a message to receive. -/
theorem Aligned.progress (h : s.Aligned) (hne : s.script r ≠ []) :
    ∃ q t rest, s.script q = .send t :: rest ∨ s.queue q ≠ [] ∧ s.script q = .recv t :: rest := by
  rcases h with ⟨q, hlead⟩
  have hother := hlead.2
  cases hque : s.queue (!q) with
  | cons t ts =>
    rw [hque, recvs_cons, List.cons_append] at hother
    exact ⟨!q, t, _, Or.inr ⟨by simp [hque], hother⟩⟩
  | nil =>
    rw [hque, recvs_nil, List.nil_append] at hother
    -- both queues are empty, so the next act of the dialogue is a send
    cases hs : s.script q with
    | nil =>
      rw [hs, dual_nil] at hother
      by_cases hqr : q = r
      · rw [← hqr] at hne
        exact absurd hs hne
      · obtain rfl := Bool.eq_not_iff.mpr (Ne.symm hqr)
        exact absurd hother hne
    | cons a rest =>
      rw [hs, dual_cons] at hother
      cases a with
      | send t => exact ⟨q, t, rest, Or.inl hs⟩
      | recv t => exact ⟨!q, t, _, Or.inl hother⟩

end State

end EvseIso15118.Dialogue
