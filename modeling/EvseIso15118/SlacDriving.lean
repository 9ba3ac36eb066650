import EvseIso15118.SlacPhases

namespace EvseIso15118

/-- Calls of `slac_step` until one does not return 0. -/
def slacDrive : List (SlacEnv × Option (List Byte)) → SlacParty → SlacParty
  | [], p => p
  | i :: is, p =>
    let q := (slacStep i.1 i.2 p).party
    if slacResult q.ctx = 0 then slacDrive is q else q

def slacDriveSeen :
    List (SlacEnv × Option (List Byte)) → SlacParty → List (SlacState × List (List Byte))
  | [], _ => []
  | i :: is, p =>
    let out := slacStep i.1 i.2 p
    (out.party.ctx.state, out.sent) ::
      if slacResult out.party.ctx = 0 then slacDriveSeen is out.party else []

/-- The states that the loop of `slac_run` goes through, with the frames sent in each step. -/
def slacLoopSeen :
    List (SlacEnv × Option (List Byte)) → SlacParty → List (SlacState × List (List Byte))
  | [], _ => []
  | i :: is, p =>
    if p.ctx.state.terminal then []
    else
      let out := slacStep i.1 i.2 p
      (out.party.ctx.state, out.sent) :: slacLoopSeen is out.party

theorem slacResult_eq_zero_iff (ctx : SlacContext) :
    slacResult ctx = 0 ↔ ctx.state.terminal = false := by
  rw [← not_iff_not, ← ne_eq, slacResult_ne_zero_iff, Bool.not_eq_false]

theorem slacLoop_of_terminal {p : SlacParty} (h : p.ctx.state.terminal = true)
    (is : List (SlacEnv × Option (List Byte))) : slacLoop is p = p ∧ slacLoopSeen is p = [] := by
  cases is with
  | nil => exact ⟨rfl, rfl⟩
  | cons i is => exact ⟨if_pos h, if_pos h⟩

theorem slacDrive_eq_slacLoop {p : SlacParty} (h : p.ctx.state.terminal = false)
    (is : List (SlacEnv × Option (List Byte))) :
    slacDrive is p = slacLoop is p ∧ slacDriveSeen is p = slacLoopSeen is p := by
  induction is generalizing p with
  | nil => exact ⟨rfl, rfl⟩
  | cons i is ih =>
    rw [slacDrive, slacDriveSeen, slacLoop, slacLoopSeen, h]
    simp only [Bool.false_eq_true, if_false]
    by_cases hend : slacResult (slacStep i.1 i.2 p).party.ctx = 0
    · have hnext := ih ((slacResult_eq_zero_iff _).mp hend)
      rw [if_pos hend, if_pos hend, hnext.1, hnext.2]
      exact ⟨rfl, rfl⟩
    · rw [if_neg hend, if_neg hend]
      have hdone := slacLoop_of_terminal ((slacResult_ne_zero_iff _).mp hend) is
      rw [hdone.1, hdone.2]
      exact ⟨rfl, rfl⟩

/-- What the first `n` calls find. -/
def firstInputs (inputs : ℕ → SlacEnv × Option (List Byte)) (n : ℕ) :
    List (SlacEnv × Option (List Byte)) := (List.range n).map inputs

/-- Step by step and in one call of `slac_run`: the same states and frames, the same result and
the same keys. The result 1 of a step is the 0 of `slac_run`. -/
structure DriversAgree (p : SlacParty) (inputs : ℕ → SlacEnv × Option (List Byte)) : Prop where
  seen : ∀ n, slacDriveSeen (firstInputs inputs n) p =
    slacLoopSeen (firstInputs inputs n) { p with ctx := slacRunStart p.ctx }
  result : ∀ n, slacResult (slacDrive (firstInputs inputs n) p).ctx =
    slacResult (slacRun (firstInputs inputs n) p).ctx
  nmk : ∀ n, (slacDrive (firstInputs inputs n) p).ctx.nmk =
    (slacRun (firstInputs inputs n) p).ctx.nmk
  nid : ∀ n, (slacDrive (firstInputs inputs n) p).ctx.nid =
    (slacRun (firstInputs inputs n) p).ctx.nid

theorem slacRunStart_running (ctx : SlacContext) : (slacRunStart ctx).state.terminal = false := by
  unfold slacRunStart
  split_ifs <;> rfl

theorem slacRunStart_slacRunStart (ctx : SlacContext) :
    slacRunStart (slacRunStart ctx) = slacRunStart ctx := by
  cases h : ctx.isEv with
  | true =>
    rw [slacRunStart_ev h]
    exact slacRunStart_ev h
  | false =>
    rw [slacRunStart_evse h]
    exact slacRunStart_evse h

/-- Set up as `slac_run` does it, a context can be driven either way. -/
theorem driversAgree_of_runStart (p : SlacParty) (inputs : ℕ → SlacEnv × Option (List Byte)) :
    DriversAgree { p with ctx := slacRunStart p.ctx } inputs := by
  have hsame := fun n => @slacDrive_eq_slacLoop { p with ctx := slacRunStart p.ctx }
    (slacRunStart_running p.ctx) (firstInputs inputs n)
  have hrun : ∀ n, slacRun (firstInputs inputs n) { p with ctx := slacRunStart p.ctx } =
      slacLoop (firstInputs inputs n) { p with ctx := slacRunStart p.ctx } := by
    intro n
    rw [slacRun, slacRunStart_slacRunStart]
  constructor
  · intro n
    rw [slacRunStart_slacRunStart]
    exact (hsame n).2
  all_goals
    intro n
    rw [hrun n, (hsame n).1]

theorem slacStep_slacInit (localMac : Mac) (isEv : Bool) (st : SlacStatics)
    (i : SlacEnv × Option (List Byte)) :
    slacStep i.1 i.2 ⟨slacInit localMac isEv, st⟩ = ⟨⟨slacInit localMac isEv, st⟩, []⟩ := by
  cases isEv <;> rfl

theorem slacDrive_slacInit (localMac : Mac) (isEv : Bool) (st : SlacStatics)
    (is : List (SlacEnv × Option (List Byte))) :
    slacDrive is ⟨slacInit localMac isEv, st⟩ = ⟨slacInit localMac isEv, st⟩ ∧
      slacDriveSeen is ⟨slacInit localMac isEv, st⟩ =
        is.map fun _ => ((slacInit localMac isEv).state, []) := by
  have hzero : slacResult (slacInit localMac isEv) = 0 := by cases isEv <;> rfl
  induction is with
  | nil => exact ⟨rfl, rfl⟩
  | cons i is ih =>
    rw [slacDrive, slacDriveSeen, slacStep_slacInit]
    simp only [if_pos hzero, ih, List.map_cons, and_self]

/-- The first step of `slac_run` is one of a match. -/
theorem slacStep_runStart_state (p : SlacParty) (i : SlacEnv × Option (List Byte)) :
    (slacStep i.1 i.2 { p with ctx := slacRunStart p.ctx }).party.ctx.state ≠
      if p.ctx.isEv then .evIdle else .evseIdle := by
  cases h : p.ctx.isEv with
  | true =>
    rw [slacRunStart_ev h]
    let q : SlacParty := ⟨{ p.ctx with state := .evSendParmReq }, p.statics⟩
    have hev : q.ctx.isEv = true := h
    have hw : waitOf q.ctx.isEv q.ctx.state = none := by
      rw [hev]
      rfl
    change (slacStep i.1 i.2 q).party.ctx.state ≠ _
    rw [slacStep_of_send hw, slacSend_ev hev]
    change (evSendParmReq i.1 q.ctx).1.state ≠ _
    unfold evSendParmReq
    dsimp only
    split_ifs <;> simp
  | false =>
    rw [slacRunStart_evse h]
    let q : SlacParty :=
      ⟨{ p.ctx with state := .evseWaitParmReq, soundCount := 0, aag := fun _ => 0 }, p.statics⟩
    have hw : waitOf q.ctx.isEv q.ctx.state = some evseWaitParmReq := by
      change waitOf p.ctx.isEv .evseWaitParmReq = _
      rw [h]
      rfl
    change (slacStep i.1 i.2 q).party.ctx.state ≠ _
    rw [slacStep_of_wait hw]
    rcases evseWaitParmReq.run_cases i.1 i.2 q.ctx q.statics with
      ⟨frame, _, _, hrun⟩ | ⟨_, hrun⟩ | hrun
    all_goals
      rw [hrun]
      simp [evseWaitParmReq, q]

/-- Whatever arrives, the two ways differ from the first step on. -/
theorem drivers_never_agree (localMac : Mac) (isEv : Bool) (st : SlacStatics)
    (inputs : ℕ → SlacEnv × Option (List Byte)) :
    ¬ DriversAgree ⟨slacInit localMac isEv, st⟩ inputs := by
  intro h
  have hone := h.seen 1
  rw [(slacDrive_slacInit localMac isEv st _).2] at hone
  have hrunning := slacRunStart_running (slacInit localMac isEv)
  have hstate := slacStep_runStart_state ⟨slacInit localMac isEv, st⟩ (inputs 0)
  simp only [firstInputs, List.range_one, List.map_cons, List.map_nil, slacLoopSeen, hrunning,
    Bool.false_eq_true, if_false, List.cons.injEq, Prod.mk.injEq] at hone
  exact hstate hone.1.1.symm

/-- What `slac_run` of an EV finds on its way to MATCHED. -/
def matchingInputs (n : ℕ) : SlacEnv × Option (List Byte) :=
  (untilMatchReq ++ [(quietAt 240, some foreignMatchCnf)]).getD n (quietAt 240, none)

/-- `slac_run` ends with 1 and a key, ten calls of `slac_step` end with 0 and none. -/
theorem drivers_differ_matchingInputs :
    let p : SlacParty := ⟨slacInit (fun _ => 2) true, .zero⟩
    slacResult (slacRun (firstInputs matchingInputs 10) p).ctx = 1 ∧
    (slacRun (firstInputs matchingInputs 10) p).ctx.nmk = (fun _ => 0xAA) ∧
    slacResult (slacDrive (firstInputs matchingInputs 10) p).ctx = 0 ∧
    (slacDrive (firstInputs matchingInputs 10) p).ctx.nmk = (fun _ => 0) ∧
    ¬ DriversAgree p matchingInputs := by
  have hrun : slacResult (slacRun (firstInputs matchingInputs 10)
      ⟨slacInit (fun _ => 2) true, .zero⟩).ctx = 1 := by decide +kernel
  have hdrive : slacResult (slacDrive (firstInputs matchingInputs 10)
      ⟨slacInit (fun _ => 2) true, .zero⟩).ctx = 0 := by decide +kernel
  refine ⟨hrun, by decide +kernel, hdrive, by decide +kernel, ?_⟩
  intro h
  have hsame := h.result 10
  rw [hrun, hdrive] at hsame
  cases hsame

end EvseIso15118
