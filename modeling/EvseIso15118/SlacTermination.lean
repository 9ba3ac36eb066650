import EvseIso15118.SlacDialogue
import EvseIso15118.SlacDriving
import EvseIso15118.Progress

namespace EvseIso15118

open Progress

def SlacState.ofEv : SlacState → Bool
  | .evIdle | .evSendParmReq | .evWaitParmCnf | .evSendStartAtten | .evSendMnbcSounds
  | .evWaitAttenChar | .evSendAttenRsp | .evSendValidate | .evWaitValidateCnf | .evSendMatchReq
  | .evWaitMatchCnf | .evMatched | .evFailed => true
  | _ => false

/-- How many requests can go unanswered before the EV gives up, with `retry_count` an `int`. -/
def attemptsLeft (retryCount : ℤ) : ℕ :=
  if toInt32 retryCount = 2147483647 then 2147483652 else (3 - toInt32 retryCount).toNat

/-- At least the number of steps to the end that do something: retries first, then sounds, then
states. It is 0 where no step does and in the wait without a time limit. -/
def stepsLeft (ctx : SlacContext) : ℕ :=
  match ctx.state with
  | .evSendParmReq => 10 + 2 * attemptsLeft ctx.retryCount
  | .evWaitParmCnf => 9 + 2 * attemptsLeft ctx.retryCount
  | .evSendStartAtten => 8
  | .evSendMnbcSounds => 7
  | .evWaitAttenChar => 6
  | .evSendAttenRsp => 5
  | .evSendValidate => 4
  | .evWaitValidateCnf => 3
  | .evSendMatchReq => 2
  | .evWaitMatchCnf => 1
  | .evseSendParmCnf => 20
  | .evseWaitStartAtten => 19
  | .evseCollectSounds => 8 + (numSounds - ctx.soundCount.toNat)
  | .evseSendAttenChar => 7
  | .evseWaitAttenRsp => 6
  | .evseWaitValidateReq => 5
  | .evseSendValidateCnf => 4
  | .evseWaitMatchReq => 3
  | .evseSendMatchCnf => 2
  | .evIdle | .evMatched | .evFailed | .evseIdle | .evseWaitParmReq | .evseMatched
  | .evseFailed => 0

/-- A match in which every wait has a time limit and began at a reading of the clock. -/
structure UnderWay (readings : Set UInt64) (ctx : SlacContext) : Prop where
  role : ctx.state.ofEv = ctx.isEv
  left : 0 < stepsLeft ctx
  began : waitOf ctx.isEv ctx.state ≠ none → ctx.lastTime ∈ readings
  collecting : ctx.state = .evseCollectSounds → ctx.soundCount.toNat < numSounds

/-- The loop ends in a state of the role. -/
structure Ended (ctx : SlacContext) : Prop where
  role : ctx.state.ofEv = ctx.isEv
  terminal : ctx.state.terminal = true

/-- What a step comes to that does something. -/
def Advances (readings : Set UInt64) (ctx ctx' : SlacContext) : Prop :=
  Ended ctx' ∨ UnderWay readings ctx' ∧ stepsLeft ctx' < stepsLeft ctx

theorem attemptsLeft_lt {retryCount : ℤ} (h : ¬ 3 ≤ toInt32 (retryCount + 1)) :
    0 < attemptsLeft (toInt32 (retryCount + 1)) ∧
      attemptsLeft (toInt32 (retryCount + 1)) < attemptsLeft retryCount := by
  have hbounds := toInt32_bounds (retryCount + 1)
  have hnext : toInt32 (retryCount + 1) =
      if toInt32 retryCount = 2147483647 then -2147483648 else toInt32 retryCount + 1 := by
    rw [toInt32_eq, toInt32_eq]
    split_ifs <;> omega
  rw [attemptsLeft, attemptsLeft, toInt32_of_small hbounds.1 hbounds.2]
  split_ifs at hnext ⊢ <;> omega

section step
variable {readings : Set UInt64} {env : SlacEnv} {ctx : SlacContext} {w : Wait}

theorem UnderWay.running (h : UnderWay readings ctx) : ctx.state.terminal = false := by
  have hleft := h.left
  unfold stepsLeft at hleft
  revert hleft
  cases ctx.state <;> simp [SlacState.terminal]

theorem evSend_advances (hev : ctx.isEv = true) (h : UnderWay readings ctx)
    (hw : waitOf true ctx.state = none) (henv : env.millis ∈ readings) (evseMac : Mac) :
    Advances readings ctx (evSend env ctx evseMac).1 := by
  have hrole := h.role
  have hleft := h.left
  cases hs : ctx.state <;> simp [hs, hev, SlacState.ofEv, stepsLeft, waitOf] at hrole hleft hw
  case evSendParmReq =>
    simp only [evSend, hs, evSendParmReq]
    split_ifs
    · exact Or.inl ⟨hev.symm, rfl⟩
    · refine Or.inr ⟨⟨hev.symm, ?_, fun _ => henv, by simp⟩, ?_⟩
      · simp [stepsLeft]
      · simp [stepsLeft, hs]
  all_goals
    simp only [evSend, hs]
    refine Or.inr ⟨⟨hev.symm, ?_, ?_, ?_⟩, ?_⟩
    all_goals simp [stepsLeft, waitOf, hev, hs, henv]

theorem evseSend_advances (hevse : ctx.isEv = false) (h : UnderWay readings ctx)
    (hw : waitOf false ctx.state = none) (henv : env.millis ∈ readings) (evMac : Mac)
    (runId : Octets 8) : Advances readings ctx (evseSend env ctx evMac runId).1 := by
  have hrole := h.role
  have hleft := h.left
  cases hs : ctx.state <;> simp [hs, hevse, SlacState.ofEv, stepsLeft, waitOf] at hrole hleft hw
  case evseSendMatchCnf =>
    simp only [evseSend, hs, evseSendMatchCnf]
    exact Or.inl ⟨hevse.symm, rfl⟩
  all_goals
    simp only [evseSend, hs]
    refine Or.inr ⟨⟨hevse.symm, ?_, ?_, ?_⟩, ?_⟩
    all_goals simp [stepsLeft, hs, henv]

theorem slacSend_advances {p : SlacParty} (h : UnderWay readings p.ctx)
    (hw : waitOf p.ctx.isEv p.ctx.state = none) (henv : env.millis ∈ readings) :
    Advances readings p.ctx (slacSend env p).1 := by
  cases hr : p.ctx.isEv with
  | true =>
    rw [slacSend_ev hr]
    exact evSend_advances hr h (hr ▸ hw) henv _
  | false =>
    rw [slacSend_evse hr]
    exact evseSend_advances hr h (hr ▸ hw) henv _ _

theorem evAccept_advances (hev : ctx.isEv = true) (hw : waitOf true ctx.state = some w)
    (st : SlacStatics) : Advances readings ctx (w.accept env ctx st).1 := by
  rcases waitOf_ev hw with ⟨hs, rfl⟩ | ⟨hs, rfl⟩ | ⟨hs, rfl⟩ | ⟨hs, rfl⟩
  case inr.inr.inl =>
    dsimp only [evWaitValidateCnf]
    split_ifs
    · refine Or.inr ⟨⟨hev.symm, ?_, ?_, ?_⟩, ?_⟩
      all_goals simp [stepsLeft, waitOf, hev, hs]
    · exact Or.inl ⟨hev.symm, rfl⟩
  case inr.inr.inr => exact Or.inl ⟨hev.symm, rfl⟩
  all_goals
    refine Or.inr ⟨⟨hev.symm, ?_, ?_, ?_⟩, ?_⟩
    all_goals
      simp [evWaitParmCnf, evWaitAttenChar, stepsLeft, waitOf, hev, hs, Nat.lt_add_right]

theorem evseAccept_advances (hevse : ctx.isEv = false) (h : UnderWay readings ctx)
    (hw : waitOf false ctx.state = some w) (henv : env.millis ∈ readings) (st : SlacStatics) :
    Advances readings ctx (w.accept env ctx st).1 := by
  rcases waitOf_evse hw with
    ⟨hs, rfl⟩ | ⟨hs, rfl⟩ | ⟨hs, rfl⟩ | ⟨hs, rfl⟩ | ⟨hs, rfl⟩ | ⟨hs, rfl⟩
  · exact absurd h.left (by simp [stepsLeft, hs])
  case inr.inr.inl =>
    -- one sound more, and the tenth ends the collection
    have hlt := h.collecting hs
    have hsucc := UInt8.toNat_succ hlt
    have hbegan := h.began (by rw [hevse, hw]; simp)
    dsimp only [evseCollectSounds]
    split_ifs with hten
    · refine Or.inr ⟨⟨hevse.symm, ?_, ?_, ?_⟩, ?_⟩
      all_goals simp [stepsLeft, waitOf, hevse, hs, Nat.lt_add_right]
    · rw [UInt8.ten_le_succ_iff hlt] at hten
      refine Or.inr ⟨⟨by rw [hs, hevse]; rfl, ?_, fun _ => hbegan, ?_⟩, ?_⟩
      · simp [stepsLeft, hs]
      · intro _
        change (ctx.soundCount + 1).toNat < numSounds
        omega
      · simp only [stepsLeft, hs, hsucc]
        omega
  all_goals
    refine Or.inr ⟨⟨hevse.symm, ?_, ?_, ?_⟩, ?_⟩
    all_goals simp [evseWaitStartAtten, evseWaitAttenRsp, evseWaitValidateReq, evseWaitMatchReq,
      stepsLeft, waitOf, hevse, hs, henv, numSounds]

theorem evTimeout_advances (hev : ctx.isEv = true) (hw : waitOf true ctx.state = some w) :
    Advances readings ctx (w.timeout ctx) := by
  rcases waitOf_ev hw with ⟨hs, rfl⟩ | ⟨_, rfl⟩ | ⟨_, rfl⟩ | ⟨_, rfl⟩
  · dsimp only [evWaitParmCnf]
    split_ifs with hretries
    · exact Or.inl ⟨hev.symm, rfl⟩
    · refine Or.inr ⟨⟨hev.symm, ?_, ?_, ?_⟩, ?_⟩
      · simp [stepsLeft]
      · simp [waitOf, hev]
      · simp
      · have hlt := (attemptsLeft_lt hretries).2
        simp only [stepsLeft, hs]
        omega
  all_goals exact Or.inl ⟨hev.symm, rfl⟩

theorem evseTimeout_advances (hevse : ctx.isEv = false) (h : UnderWay readings ctx)
    (hw : waitOf false ctx.state = some w) : Advances readings ctx (w.timeout ctx) := by
  rcases waitOf_evse hw with
    ⟨hs, rfl⟩ | ⟨_, rfl⟩ | ⟨hs, rfl⟩ | ⟨_, rfl⟩ | ⟨_, rfl⟩ | ⟨_, rfl⟩
  · exact absurd h.left (by simp [stepsLeft, hs])
  case inr.inr.inl =>
    dsimp only [evseCollectSounds]
    split_ifs
    · refine Or.inr ⟨⟨hevse.symm, ?_, ?_, ?_⟩, ?_⟩
      all_goals simp [stepsLeft, waitOf, hevse, hs, Nat.lt_add_right]
    · exact Or.inl ⟨hevse.symm, rfl⟩
  all_goals exact Or.inl ⟨hevse.symm, rfl⟩

theorem UnderWay.expired (h : UnderWay readings ctx) (hw : waitOf ctx.isEv ctx.state = some w)
    (hlate : 12000 < env.millis - ctx.lastTime) : w.expired env ctx = true := by
  have hlimit : ∃ limit, w.limit = some limit ∧ limit ≤ 12000 := by
    cases hr : ctx.isEv with
    | true =>
      rw [hr] at hw
      rcases waitOf_ev hw with ⟨_, rfl⟩ | ⟨_, rfl⟩ | ⟨_, rfl⟩ | ⟨_, rfl⟩
      all_goals exact ⟨_, rfl, by decide⟩
    | false =>
      rw [hr] at hw
      rcases waitOf_evse hw with
        ⟨hs, rfl⟩ | ⟨_, rfl⟩ | ⟨_, rfl⟩ | ⟨_, rfl⟩ | ⟨_, rfl⟩ | ⟨_, rfl⟩
      · exact absurd h.left (by simp [stepsLeft, hs])
      all_goals exact ⟨_, rfl, by decide⟩
  rcases hlimit with ⟨limit, hlim, hle⟩
  rw [Wait.expired, hlim]
  exact decide_eq_true (UInt64.lt_of_le_of_lt hle hlate)

variable {p : SlacParty} (recv : Option (List Byte))

theorem accept_advances (h : UnderWay readings ctx) (hw : waitOf ctx.isEv ctx.state = some w)
    (henv : env.millis ∈ readings) (st : SlacStatics) :
    Advances readings ctx (w.accept env ctx st).1 := by
  cases hr : ctx.isEv with
  | true => exact evAccept_advances hr (hr ▸ hw) st
  | false => exact evseAccept_advances hr h (hr ▸ hw) henv st

theorem timeout_advances (h : UnderWay readings ctx) (hw : waitOf ctx.isEv ctx.state = some w) :
    Advances readings ctx (w.timeout ctx) := by
  cases hr : ctx.isEv with
  | true => exact evTimeout_advances hr (hr ▸ hw)
  | false => exact evseTimeout_advances hr h (hr ▸ hw)

/-- Step lemma: a step under way gets the match on, or it waits and the limit has not passed. -/
theorem slacStep_advances (h : UnderWay readings p.ctx) (henv : env.millis ∈ readings) :
    Advances readings p.ctx (slacStep env recv p).party.ctx ∨
      waitOf p.ctx.isEv p.ctx.state ≠ none ∧ (slacStep env recv p).party.ctx = p.ctx ∧
        env.millis - p.ctx.lastTime ≤ 12000 := by
  rcases slacStep_cases env recv rfl with
    ⟨hw, _, hstep⟩ | ⟨w, hw, ⟨_, st, _, _, hstep⟩ | ⟨_, _, hstep⟩ | ⟨_, hexp, hstep⟩⟩
  · rw [hstep]
    exact Or.inl (slacSend_advances h hw henv)
  · rw [hstep]
    exact Or.inl (accept_advances h hw henv st)
  · rw [hstep]
    exact Or.inl (timeout_advances h hw)
  · refine Or.inr ⟨by simp [hw], hstep, UInt64.not_lt.mp ?_⟩
    intro hlate
    rw [h.expired hw hlate] at hexp
    cases hexp

end step

section runs
variable {inputs : ℕ → SlacEnv × Option (List Byte)}

def clockReading (inputs : ℕ → SlacEnv × Option (List Byte)) (n : ℕ) : UInt64 :=
  (inputs n).1.millis

theorem firstInputs_succ (inputs : ℕ → SlacEnv × Option (List Byte)) (n : ℕ) :
    firstInputs inputs (n + 1) = firstInputs inputs n ++ [inputs n] := by
  simp [firstInputs, List.range_succ]

/-- A match under way ends: with a clock that passes the longest limit, whatever arrives. -/
theorem underWay_leadsTo_ended (hclock : Passes 12000 (clockReading inputs)) (p : SlacParty) :
    LeadsTo (fun n => slacLoop (firstInputs inputs n) p)
      (fun q => UnderWay (Set.range (clockReading inputs)) q.ctx) fun q => Ended q.ctx := by
  have hnext : ∀ n, UnderWay (Set.range (clockReading inputs))
      (slacLoop (firstInputs inputs n) p).ctx →
      slacLoop (firstInputs inputs (n + 1)) p =
        (slacStep (inputs n).1 (inputs n).2 (slacLoop (firstInputs inputs n) p)).party := by
    intro n hn
    rw [firstInputs_succ, slacLoop_append_step hn.running]
  refine LeadsTo.of_waits SlacParty.ctx stepsLeft ?_ ?_
  · intro n hn
    rw [hnext n hn]
    rcases slacStep_advances (inputs n).2 hn ⟨n, rfl⟩ with hadv | ⟨_, hsame, _⟩
    · exact Or.inr hadv
    · rw [hsame]
      exact Or.inl ⟨hn, rfl⟩
  · intro n hn
    by_cases hw : waitOf (slacLoop (firstInputs inputs n) p).ctx.isEv
        (slacLoop (firstInputs inputs n) p).ctx.state = none
    · -- nothing is waited for
      refine (Filter.Eventually.of_forall ?_).frequently
      intro m hm hkey
      rw [hnext m hm, ← hkey]
      rcases slacStep_advances (inputs m).2 hm ⟨m, rfl⟩ with hadv | ⟨hwait, _⟩
      · exact hadv
      · rw [hkey] at hwait
        exact absurd hw hwait
    · -- the wait began at a reading that the clock leaves behind
      rcases hn.began hw with ⟨k, hk⟩
      refine (hclock k).mono ?_
      intro m hlate hm hkey
      rw [hnext m hm, ← hkey]
      rcases slacStep_advances (inputs m).2 hm ⟨m, rfl⟩ with hadv | ⟨_, _, hle⟩
      · exact hadv
      · rw [hkey, ← hk] at hle
        exact absurd hlate (UInt64.not_lt.mpr hle)

theorem Ended.ev {ctx : SlacContext} (h : Ended ctx) (hev : ctx.isEv = true) :
    ctx.state = .evMatched ∨ ctx.state = .evFailed := by
  rcases h with ⟨hrole, hterminal⟩
  rw [hev] at hrole
  revert hrole hterminal
  cases ctx.state <;> simp [SlacState.terminal, SlacState.ofEv]

theorem Ended.evse {ctx : SlacContext} (h : Ended ctx) (hevse : ctx.isEv = false) :
    ctx.state = .evseMatched ∨ ctx.state = .evseFailed := by
  rcases h with ⟨hrole, hterminal⟩
  rw [hevse] at hrole
  revert hrole hterminal
  cases ctx.state <;> simp [SlacState.terminal, SlacState.ofEv]

end runs

def cEvMatchRetry : ℕ := 3

/-- The frames that `slac_run` sends. -/
def slacRunSent (inputs : List (SlacEnv × Option (List Byte))) (p : SlacParty) :
    List (List Byte) :=
  (slacLoopSeen inputs { p with ctx := slacRunStart p.ctx }).flatMap Prod.snd

def parmReqCount (frames : List (List Byte)) : ℕ :=
  frames.countP fun frame => frameType frame = some mmeCmSlacParmReq

/-- How many CM_SLAC_PARM.REQ an EV can still send. -/
def parmReqsLeft (ctx : SlacContext) : ℕ :=
  match ctx.state with
  | .evSendParmReq => max 1 (attemptsLeft ctx.retryCount)
  | .evWaitParmCnf => attemptsLeft ctx.retryCount - 1
  | _ => 0

section parmReq
variable {p : SlacParty} (env : SlacEnv) (recv : Option (List Byte))

theorem parmReqsLeft_evSend (hne : p.ctx.state ≠ .evSendParmReq) (evseMac : Mac) :
    parmReqsLeft (evSend env p.ctx evseMac).1 ≤ parmReqsLeft p.ctx := by
  cases hs : p.ctx.state <;> simp [evSend, parmReqsLeft, hs]
  exact absurd hs hne

theorem parmReqsLeft_evAccept {w : Wait} (hw : waitOf true p.ctx.state = some w)
    (st : SlacStatics) : parmReqsLeft (w.accept env p.ctx st).1 = 0 := by
  rcases waitOf_ev hw with ⟨_, rfl⟩ | ⟨_, rfl⟩ | ⟨_, rfl⟩ | ⟨_, rfl⟩
  case inr.inr.inl =>
    dsimp only [evWaitValidateCnf]
    split_ifs <;> rfl
  all_goals rfl

theorem parmReqsLeft_evTimeout {ctx : SlacContext} {w : Wait}
    (hw : waitOf true ctx.state = some w) :
    parmReqsLeft (w.timeout ctx) ≤ parmReqsLeft ctx := by
  rcases waitOf_ev hw with ⟨hs, rfl⟩ | ⟨_, rfl⟩ | ⟨_, rfl⟩ | ⟨_, rfl⟩
  · dsimp only [evWaitParmCnf]
    split_ifs with hretries
    · exact Nat.zero_le _
    · have hlt := attemptsLeft_lt hretries
      simp only [parmReqsLeft, hs]
      omega
  all_goals exact Nat.zero_le _

theorem parmReqCount_step (hev : p.ctx.isEv = true) :
    parmReqCount (slacStep env recv p).sent +
      parmReqsLeft (slacStep env recv p).party.ctx ≤ parmReqsLeft p.ctx := by
  by_cases hs : p.ctx.state = .evSendParmReq
  · have hw : waitOf p.ctx.isEv p.ctx.state = none := by
      rw [hev, hs]
      rfl
    rw [slacStep_of_send hw, slacSend_ev hev]
    simp only [evSend, hs, evSendParmReq, sendFrame]
    cases env.send 0
    · simp [parmReqCount, parmReqsLeft]
    · simp only [parmReqCount, parmReqsLeft, hs]
      simp
      omega
  · have hnone : parmReqCount (slacStep env recv p).sent = 0 := by
      rw [parmReqCount, List.countP_eq_zero]
      intro frame hf
      rcases evStep_sent hev hf with ⟨hsend, _⟩ | hother
      · exact absurd hsend hs
      · simpa using hother
    rw [hnone, Nat.zero_add]
    rcases slacStep_cases env recv hev with
      ⟨_, _, hstep⟩ | ⟨w, hw, ⟨_, st, _, _, hstep⟩ | ⟨_, _, hstep⟩ | ⟨_, _, hstep⟩⟩
    · rw [hstep, slacSend_ev hev]
      exact parmReqsLeft_evSend env hs _
    · rw [hstep, parmReqsLeft_evAccept env hw]
      exact Nat.zero_le _
    · rw [hstep]
      exact parmReqsLeft_evTimeout hw
    · rw [hstep]

theorem parmReqCount_loop (hev : p.ctx.isEv = true) (is : List (SlacEnv × Option (List Byte))) :
    parmReqCount ((slacLoopSeen is p).flatMap Prod.snd) ≤ parmReqsLeft p.ctx := by
  induction is generalizing p with
  | nil => exact Nat.zero_le _
  | cons i is ih =>
    rw [slacLoopSeen]
    split_ifs
    · exact Nat.zero_le _
    · have hrest := ih ((slacStep_isEv i.1 i.2 p).trans hev)
      rw [List.flatMap_cons, parmReqCount, List.countP_append]
      exact (Nat.add_le_add_left hrest _).trans (parmReqCount_step i.1 i.2 hev)

end parmReq

/-- With a clock that passes every limit the EV is matched or has failed after finitely many
steps, whatever arrives and whether or not its frames go out, and no run of it sends more than
`C_EV_MATCH_RETRY` requests. -/
theorem ev_slacRun_ends {p : SlacParty} (hev : p.ctx.isEv = true) (hretry : p.ctx.retryCount = 0)
    {inputs : ℕ → SlacEnv × Option (List Byte)} (hclock : Passes 12000 (clockReading inputs)) :
    (∃ n, (slacRun (firstInputs inputs n) p).ctx.state = .evMatched ∨
      (slacRun (firstInputs inputs n) p).ctx.state = .evFailed) ∧
    ∀ n, parmReqCount (slacRunSent (firstInputs inputs n) p) ≤ cEvMatchRetry := by
  have hstart : UnderWay (Set.range (clockReading inputs)) (slacRunStart p.ctx) := by
    rw [slacRunStart_ev hev]
    exact ⟨hev.symm, by simp [stepsLeft], by simp [waitOf, hev], by simp⟩
  constructor
  · rcases underWay_leadsTo_ended hclock { p with ctx := slacRunStart p.ctx } 0 hstart with
      ⟨n, _, hended⟩
    exact ⟨n, hended.ev ((slacRun_isEv (firstInputs inputs n) p).trans hev)⟩
  · intro n
    have hleft : parmReqsLeft (slacRunStart p.ctx) = cEvMatchRetry := by
      rw [slacRunStart_ev hev]
      change max 1 (attemptsLeft p.ctx.retryCount) = 3
      rw [hretry]
      decide
    rw [← hleft]
    refine parmReqCount_loop ?_ _
    rw [slacRunStart_ev hev]
    exact hev

/-- Nothing ever arrives, and 20 seconds pass from step to step. -/
def silentInputs (n : ℕ) : SlacEnv × Option (List Byte) :=
  (quietAt (UInt64.ofNat (20000 * n)), none)

theorem passes_silentInputs : Passes 12000 (clockReading silentInputs) := by
  refine @passes_of_monotone 12000 (fun n => 20000 * n) ?_ ?_ ?_
  · intro m n hmn
    exact Nat.mul_le_mul_left 20000 hmn
  · intro bound
    exact ⟨bound + 1, by omega⟩
  · intro n
    change 20000 * (n + 1) + 12000 < _
    omega

theorem ev_slacRun_ends_silentInputs :
    (∃ n, (slacRun (firstInputs silentInputs n) ⟨slacInit (fun _ => 2) true, .zero⟩).ctx.state =
        .evMatched ∨
      (slacRun (firstInputs silentInputs n) ⟨slacInit (fun _ => 2) true, .zero⟩).ctx.state =
        .evFailed) ∧
    ∀ n, parmReqCount (slacRunSent (firstInputs silentInputs n)
      ⟨slacInit (fun _ => 2) true, .zero⟩) ≤ cEvMatchRetry :=
  ev_slacRun_ends rfl rfl passes_silentInputs

/-- `TT_EVSE_SLAC_INIT_MS`, which no code uses. -/
def ttEvseSlacInitMs : UInt64 := 20000

section evse
variable {p : SlacParty} {inputs : ℕ → SlacEnv × Option (List Byte)}

/-- A CM_SLAC_PARM.REQ is there to be received in this step. -/
def ParmReqAt (inputs : ℕ → SlacEnv × Option (List Byte)) (n : ℕ) : Prop :=
  (inputs n).2.bind frameType = some mmeCmSlacParmReq

/-- `slac_run` comes to an end. -/
def EvseEnds (inputs : ℕ → SlacEnv × Option (List Byte)) (p : SlacParty) : Prop :=
  ∃ n, (slacRun (firstInputs inputs n) p).ctx.state = .evseMatched ∨
    (slacRun (firstInputs inputs n) p).ctx.state = .evseFailed

/-- The wait for the first CM_SLAC_PARM.REQ lasts no longer than `TT_EVSE_SLAC_INIT_MS`. -/
def InitInTime (inputs : ℕ → SlacEnv × Option (List Byte)) (p : SlacParty) : Prop :=
  ∀ n, (slacRun (firstInputs inputs n) p).ctx.state = .evseWaitParmReq →
    clockReading inputs n - clockReading inputs 0 ≤ ttEvseSlacInitMs

theorem slacStep_evseWaitParmReq {q : SlacParty} (hevse : q.ctx.isEv = false)
    (hs : q.ctx.state = .evseWaitParmReq) (env : SlacEnv) (recv : Option (List Byte)) :
    (slacStep env recv q).party.ctx =
      if recv.bind frameType = some mmeCmSlacParmReq then { q.ctx with state := .evseSendParmCnf }
      else q.ctx := by
  have hw : waitOf q.ctx.isEv q.ctx.state = some evseWaitParmReq := by
    rw [hevse, hs]
    rfl
  split_ifs with ht
  · cases recv with
    | none => cases ht
    | some frame => exact congrArg SlacParty.ctx (stepOver_accept hw ht _)
  · exact congrArg Prod.fst (slacStep_kept_of_ignored hw ht)

theorem slacLoop_append_terminal {is : List (SlacEnv × Option (List Byte))} {q : SlacParty}
    (h : (slacLoop is q).ctx.state.terminal = true) (i : SlacEnv × Option (List Byte)) :
    slacLoop (is ++ [i]) q = slacLoop is q := by
  induction is generalizing q with
  | nil => exact if_pos h
  | cons j is ih =>
    rw [List.cons_append, slacLoop, slacLoop]
    split_ifs with hq
    · rfl
    · rw [slacLoop, if_neg hq] at h
      exact ih h

theorem underWay_or_ended_succ {n : ℕ} {q : SlacParty}
    (h : UnderWay (Set.range (clockReading inputs)) (slacLoop (firstInputs inputs n) q).ctx ∨
      Ended (slacLoop (firstInputs inputs n) q).ctx) :
    UnderWay (Set.range (clockReading inputs)) (slacLoop (firstInputs inputs (n + 1)) q).ctx ∨
      Ended (slacLoop (firstInputs inputs (n + 1)) q).ctx := by
  rw [firstInputs_succ]
  rcases h with hway | hended
  · rw [slacLoop_append_step hway.running]
    rcases slacStep_advances (inputs n).2 hway ⟨n, rfl⟩ with (hended | hon) | ⟨_, hsame, _⟩
    · exact Or.inr hended
    · exact Or.inl hon.1
    · rw [hsame]
      exact Or.inl hway
  · rw [slacLoop_append_terminal hended.terminal]
    exact Or.inr hended

variable (inputs) in
/-- Until the first CM_SLAC_PARM.REQ an EVSE is where it was, and after it under way. -/
theorem evse_first_parmReq (hevse : p.ctx.isEv = false) (n : ℕ) :
    ((∀ k < n, ¬ ParmReqAt inputs k) ∧
      (slacRun (firstInputs inputs n) p).ctx = slacRunStart p.ctx) ∨
    ((∃ k < n, ParmReqAt inputs k) ∧
      (UnderWay (Set.range (clockReading inputs)) (slacRun (firstInputs inputs n) p).ctx ∨
        Ended (slacRun (firstInputs inputs n) p).ctx)) := by
  induction n with
  | zero => exact Or.inl ⟨by simp, rfl⟩
  | succ n ih =>
    rcases ih with ⟨hnone, hctx⟩ | ⟨⟨k, hk, hreq⟩, hon⟩
    · have hstate : (slacRun (firstInputs inputs n) p).ctx.state = .evseWaitParmReq := by
        rw [hctx, slacRunStart_evse hevse]
      have hrole := (slacRun_isEv (firstInputs inputs n) p).trans hevse
      have hstep := slacStep_evseWaitParmReq hrole hstate (inputs n).1 (inputs n).2
      have hrun : slacRun (firstInputs inputs (n + 1)) p =
          (slacStep (inputs n).1 (inputs n).2 (slacRun (firstInputs inputs n) p)).party := by
        rw [slacRun, firstInputs_succ, slacLoop_append_step]
        · rfl
        · change (slacRun (firstInputs inputs n) p).ctx.state.terminal = false
          rw [hstate]
          rfl
      rw [hrun, hstep]
      split_ifs with hreq
      · refine Or.inr ⟨⟨n, n.lt_succ_self, hreq⟩, Or.inl ⟨hrole.symm, ?_, ?_, ?_⟩⟩
        · simp [stepsLeft]
        · simp [waitOf, hrole]
        · simp
      · refine Or.inl ⟨?_, hctx⟩
        intro k hk
        rcases Nat.lt_succ_iff_lt_or_eq.mp hk with hlt | rfl
        · exact hnone k hlt
        · exact hreq
    · exact Or.inr ⟨⟨k, hk.trans n.lt_succ_self, hreq⟩, underWay_or_ended_succ hon⟩

theorem evse_waits_iff (hevse : p.ctx.isEv = false) (n : ℕ) :
    (slacRun (firstInputs inputs n) p).ctx.state = .evseWaitParmReq ↔
      ∀ k < n, ¬ ParmReqAt inputs k := by
  rcases evse_first_parmReq inputs hevse n with ⟨hnone, hctx⟩ | ⟨⟨k, hk, hreq⟩, hon⟩
  · rw [hctx, slacRunStart_evse hevse]
    exact ⟨fun _ => hnone, fun _ => rfl⟩
  · constructor
    · intro hs
      rcases hon with hway | hended
      · exact absurd hway.left (by simp [stepsLeft, hs])
      · exact absurd hended.terminal (by simp [SlacState.terminal, hs])
    · intro hnone
      exact absurd hreq (hnone k hk)

theorem evseEnds_iff (hevse : p.ctx.isEv = false)
    (hclock : Passes 12000 (clockReading inputs)) :
    EvseEnds inputs p ↔ ∃ n, ParmReqAt inputs n := by
  constructor
  · rintro ⟨n, hend⟩
    by_contra hnone
    have hwait := (evse_waits_iff hevse n).mpr fun k _ hreq => hnone ⟨k, hreq⟩
    rw [hwait] at hend
    rcases hend with hend | hend <;> cases hend
  · rintro ⟨n, hreq⟩
    rcases evse_first_parmReq inputs hevse (n + 1) with ⟨hnone, _⟩ | ⟨_, hon⟩
    · exact absurd hreq (hnone n n.lt_succ_self)
    · have hended : ∃ m, Ended (slacRun (firstInputs inputs m) p).ctx := by
        rcases hon with hway | hended
        · have hleads := underWay_leadsTo_ended hclock { p with ctx := slacRunStart p.ctx }
          rcases hleads (n + 1) hway with ⟨m, _, hm⟩
          exact ⟨m, hm⟩
        · exact ⟨n + 1, hended⟩
      rcases hended with ⟨m, hm⟩
      exact ⟨m, hm.evse ((slacRun_isEv _ p).trans hevse)⟩

/-- With a clock that passes every limit the EVSE ends exactly if a CM_SLAC_PARM.REQ ever
arrives, and it waits for it no longer than `TT_EVSE_SLAC_INIT_MS` exactly if one arrives by
then. -/
theorem evse_slacRun_ends_iff (hevse : p.ctx.isEv = false)
    (hclock : Passes 12000 (clockReading inputs)) :
    (EvseEnds inputs p ↔ ∃ n, ParmReqAt inputs n) ∧
    (EvseEnds inputs p ∧ InitInTime inputs p ↔ ∃ n, ParmReqAt inputs n ∧
      ∀ m ≤ n, clockReading inputs m - clockReading inputs 0 ≤ ttEvseSlacInitMs) := by
  refine ⟨evseEnds_iff hevse hclock, ?_⟩
  rw [evseEnds_iff hevse hclock]
  constructor
  · rintro ⟨hex, htime⟩
    classical
    refine ⟨Nat.find hex, Nat.find_spec hex, ?_⟩
    intro m hm
    refine htime m ((evse_waits_iff hevse m).mpr ?_)
    intro k hk
    exact Nat.find_min hex (hk.trans_le hm)
  · rintro ⟨n, hreq, htime⟩
    refine ⟨⟨n, hreq⟩, ?_⟩
    intro m hs
    refine htime m ?_
    by_contra hlate
    exact (evse_waits_iff hevse m).mp hs n (not_le.mp hlate) hreq

def oneRequest (n : ℕ) : SlacEnv × Option (List Byte) :=
  ((silentInputs n).1, if n = 1 then some (cmSlacParmReq (fun _ => 2) fun _ => 0) else none)

/-- The EVSE is still there to answer it, and fails when nothing follows. -/
theorem evse_slacRun_ends_iff_oneRequest :
    EvseEnds oneRequest ⟨slacInit (fun _ => 4) false, .zero⟩ ∧
      InitInTime oneRequest ⟨slacInit (fun _ => 4) false, .zero⟩ := by
  have h := @evse_slacRun_ends_iff ⟨slacInit (fun _ => 4) false, .zero⟩ oneRequest rfl
    passes_silentInputs
  refine h.2.mpr ⟨1, frameType_cmSlacParmReq _ _, ?_⟩
  intro m hm
  rcases Nat.le_one_iff_eq_zero_or_eq_one.mp hm with rfl | rfl <;> decide

/-- Nothing ever arrives: the EVSE waits for good. -/
theorem evse_slacRun_waits_forever :
    Passes 12000 (clockReading silentInputs) ∧
      (∀ n, (slacRun (firstInputs silentInputs n) ⟨slacInit (fun _ => 4) false, .zero⟩).ctx.state =
        .evseWaitParmReq) ∧
      ¬ EvseEnds silentInputs ⟨slacInit (fun _ => 4) false, .zero⟩ := by
  have hnone : ∀ n, ¬ ParmReqAt silentInputs n := by
    intro n h
    cases h
  refine ⟨passes_silentInputs, ?_, ?_⟩
  · intro n
    exact (evse_waits_iff rfl n).mpr fun k _ => hnone k
  · rw [evseEnds_iff rfl passes_silentInputs]
    rintro ⟨n, hn⟩
    exact hnone n hn

end evse

end EvseIso15118
