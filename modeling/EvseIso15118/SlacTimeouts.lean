import EvseIso15118.SlacTermination

namespace EvseIso15118

def ttEvseMatchMnbcMs : ℕ := 600

def ttMatchJoinMs : ℕ := 12000

def SlacState.timeLimit : SlacState → Option ℕ
  | .evWaitParmCnf => some 400
  | .evWaitAttenChar => some (ttEvseMatchMnbcMs + 200)
  | .evWaitValidateCnf => some 1200
  | .evWaitMatchCnf => some ttMatchJoinMs
  | .evseWaitStartAtten => some 800
  | .evseCollectSounds => some ttEvseMatchMnbcMs
  | .evseWaitAttenRsp => some 800
  | .evseWaitValidateReq => some 1500
  | .evseWaitMatchReq => some ttMatchJoinMs
  | _ => none

section step
variable {env : SlacEnv} {ctx : SlacContext} {w : Wait} {limit : ℕ}

/-- A wait that times out has waited longer than its limit, as far as `lastTime` says. -/
theorem expired_timeLimit {r : Bool} (hw : waitOf r ctx.state = some w)
    (hexp : w.expired env ctx = true) :
    ∃ limit, ctx.state.timeLimit = some limit ∧ limit < (env.millis - ctx.lastTime).toNat := by
  cases r with
  | true =>
    rcases waitOf_ev hw with ⟨hs, rfl⟩ | ⟨hs, rfl⟩ | ⟨hs, rfl⟩ | ⟨hs, rfl⟩
    all_goals
      rw [hs]
      refine ⟨_, rfl, ?_⟩
      exact UInt64.lt_iff_toNat_lt.mp (of_decide_eq_true hexp)
  | false =>
    rcases waitOf_evse hw with
      ⟨_, rfl⟩ | ⟨hs, rfl⟩ | ⟨hs, rfl⟩ | ⟨hs, rfl⟩ | ⟨hs, rfl⟩ | ⟨hs, rfl⟩
    · cases hexp
    all_goals
      rw [hs]
      refine ⟨_, rfl, ?_⟩
      exact UInt64.lt_iff_toNat_lt.mp (of_decide_eq_true hexp)

/-- `lastTime` in a wait with a time limit: the reading of the step that entered it, and no later
step of the wait touches it. -/
structure CountsFrom (env : SlacEnv) (ctx ctx' : SlacContext) : Prop where
  entered : ctx'.state ≠ ctx.state → ctx'.lastTime = env.millis
  stayed : ctx'.state = ctx.state → ctx'.lastTime = ctx.lastTime

theorem CountsFrom.refl (env : SlacEnv) (ctx : SlacContext) : CountsFrom env ctx ctx :=
  ⟨fun h => absurd rfl h, fun _ => rfl⟩

theorem CountsFrom.of_entered {ctx' : SlacContext} (hne : ctx'.state ≠ ctx.state)
    (h : ctx'.lastTime = env.millis) : CountsFrom env ctx ctx' :=
  ⟨fun _ => h, fun heq => absurd heq hne⟩

theorem evSend_countsFrom {evseMac : Mac}
    (hlim : (evSend env ctx evseMac).1.state.timeLimit = some limit) :
    CountsFrom env ctx (evSend env ctx evseMac).1 := by
  cases hs : ctx.state <;> simp only [evSend, evSendParmReq, hs] at hlim ⊢
  case evSendParmReq =>
    split_ifs at hlim ⊢
    · cases hlim
    · exact .of_entered (by simp [hs]) rfl
  case evSendStartAtten => cases hlim
  case evSendAttenRsp => cases hlim
  case evSendMnbcSounds => exact .of_entered (by simp [hs]) rfl
  case evSendValidate => exact .of_entered (by simp [hs]) rfl
  case evSendMatchReq => exact .of_entered (by simp [hs]) rfl
  all_goals exact .refl env ctx

theorem evseSend_countsFrom {evMac : Mac} {runId : Octets 8}
    (hlim : (evseSend env ctx evMac runId).1.state.timeLimit = some limit) :
    CountsFrom env ctx (evseSend env ctx evMac runId).1 := by
  cases hs : ctx.state <;> simp only [evseSend, evseSendMatchCnf, hs] at hlim ⊢
  case evseSendMatchCnf => cases hlim
  case evseSendParmCnf => exact .of_entered (by simp [hs]) rfl
  case evseSendAttenChar => exact .of_entered (by simp [hs]) rfl
  case evseSendValidateCnf => exact .of_entered (by simp [hs]) rfl
  all_goals exact .refl env ctx

theorem accept_countsFrom {r : Bool} (hw : waitOf r ctx.state = some w) {st : SlacStatics}
    (hlim : (w.accept env ctx st).1.state.timeLimit = some limit) :
    CountsFrom env ctx (w.accept env ctx st).1 := by
  cases r with
  | true =>
    rcases waitOf_ev hw with ⟨_, rfl⟩ | ⟨_, rfl⟩ | ⟨_, rfl⟩ | ⟨_, rfl⟩
    · cases hlim
    · cases hlim
    · dsimp only [evWaitValidateCnf] at hlim
      split_ifs at hlim <;> cases hlim
    · cases hlim
  | false =>
    rcases waitOf_evse hw with
      ⟨_, rfl⟩ | ⟨hs, rfl⟩ | ⟨hs, rfl⟩ | ⟨hs, rfl⟩ | ⟨_, rfl⟩ | ⟨_, rfl⟩
    · cases hlim
    · exact .of_entered (by simp [evseWaitStartAtten, hs]) rfl
    · -- the collection goes on and its time with it
      dsimp only [evseCollectSounds] at hlim ⊢
      split_ifs at hlim ⊢
      · cases hlim
      · exact ⟨fun h => absurd rfl h, fun _ => rfl⟩
    · exact .of_entered (by simp [evseWaitAttenRsp, hs]) rfl
    · cases hlim
    · cases hlim

theorem timeout_timeLimit {r : Bool} (hw : waitOf r ctx.state = some w)
    (hexp : w.expired env ctx = true) : (w.timeout ctx).state.timeLimit = none := by
  cases r with
  | true =>
    rcases waitOf_ev hw with ⟨_, rfl⟩ | ⟨_, rfl⟩ | ⟨_, rfl⟩ | ⟨_, rfl⟩
    · dsimp only [evWaitParmCnf]
      split_ifs <;> rfl
    all_goals rfl
  | false =>
    rcases waitOf_evse hw with ⟨_, rfl⟩ | ⟨_, rfl⟩ | ⟨_, rfl⟩ | ⟨_, rfl⟩ | ⟨_, rfl⟩ | ⟨_, rfl⟩
    · cases hexp
    · rfl
    · dsimp only [evseCollectSounds]
      split_ifs <;> rfl
    all_goals rfl

/-- Step lemma, over all transitions into a limited wait. -/
theorem slacStep_countsFrom {p : SlacParty} {recv : Option (List Byte)}
    (hlim : (slacStep env recv p).party.ctx.state.timeLimit = some limit) :
    CountsFrom env p.ctx (slacStep env recv p).party.ctx := by
  rcases slacStep_cases env recv rfl with
    ⟨_, _, hstep⟩ | ⟨w, hw, ⟨_, st, _, _, hstep⟩ | ⟨_, hexp, hstep⟩ | ⟨_, _, hstep⟩⟩
  · rw [hstep] at hlim ⊢
    cases hr : p.ctx.isEv with
    | true =>
      rw [slacSend_ev hr] at hlim ⊢
      exact evSend_countsFrom hlim
    | false =>
      rw [slacSend_evse hr] at hlim ⊢
      exact evseSend_countsFrom hlim
  · rw [hstep] at hlim ⊢
    exact accept_countsFrom hw hlim
  · rw [hstep, timeout_timeLimit hw hexp] at hlim
    cases hlim
  · rw [hstep]
    exact .refl env p.ctx

end step

section runs
variable {inputs : ℕ → SlacEnv × Option (List Byte)} {p : SlacParty} {n : ℕ}

/-- Where `slac_run` is after `n` steps. -/
def slacRunAt (inputs : ℕ → SlacEnv × Option (List Byte)) (p : SlacParty) (n : ℕ) : SlacParty :=
  slacRun (firstInputs inputs n) p

/-- What step `n` adds to a log of the run. -/
theorem loopLog_firstInputs_succ {α : Type*}
    (log : SlacEnv → Option (List Byte) → SlacParty → List α)
    (inputs : ℕ → SlacEnv × Option (List Byte)) (p : SlacParty) (n : ℕ) :
    loopLog log (firstInputs inputs (n + 1)) { p with ctx := slacRunStart p.ctx } =
      loopLog log (firstInputs inputs n) { p with ctx := slacRunStart p.ctx } ++
        if (slacRunAt inputs p n).ctx.state.terminal then []
        else log (inputs n).1 (inputs n).2 (slacRunAt inputs p n) := by
  rw [firstInputs_succ, loopLog_append]
  change _ ++ loopLog log [inputs n] (slacRunAt inputs p n) = _
  rw [loopLog]
  simp only [loopLog, List.append_nil]

/-- The state after `n` steps was entered in step `k` and not left since. -/
structure EnteredAt (inputs : ℕ → SlacEnv × Option (List Byte)) (p : SlacParty) (n k : ℕ) :
    Prop where
  before : k < n
  enters : (slacRunAt inputs p k).ctx.state ≠ (slacRunAt inputs p n).ctx.state
  stays : ∀ m, k < m → m ≤ n →
    (slacRunAt inputs p m).ctx.state = (slacRunAt inputs p n).ctx.state

/-- After `n` steps the next one leaves a wait state and consumes no frame. -/
structure TimesOutAt (inputs : ℕ → SlacEnv × Option (List Byte)) (p : SlacParty) (n : ℕ) :
    Prop where
  waits : waitOf (slacRunAt inputs p n).ctx.isEv (slacRunAt inputs p n).ctx.state ≠ none
  unanswered : consumedBy (slacRunAt inputs p n) (inputs n).2 = none
  leaves : (slacRunAt inputs p (n + 1)).ctx.state ≠ (slacRunAt inputs p n).ctx.state

theorem slacRunAt_succ (h : (slacRunAt inputs p n).ctx.state.terminal = false) :
    slacRunAt inputs p (n + 1) =
      (slacStep (inputs n).1 (inputs n).2 (slacRunAt inputs p n)).party := by
  unfold slacRunAt slacRun at h ⊢
  rw [firstInputs_succ, slacLoop_append_step h]

theorem slacRunAt_succ_terminal (h : (slacRunAt inputs p n).ctx.state.terminal = true) :
    slacRunAt inputs p (n + 1) = slacRunAt inputs p n := by
  unfold slacRunAt slacRun at h ⊢
  rw [firstInputs_succ, slacLoop_append_terminal h]

theorem EnteredAt.succ {k : ℕ} (h : EnteredAt inputs p n k)
    (hsame : (slacRunAt inputs p (n + 1)).ctx.state = (slacRunAt inputs p n).ctx.state) :
    EnteredAt inputs p (n + 1) k := by
  refine ⟨h.before.trans n.lt_succ_self, hsame ▸ h.enters, ?_⟩
  intro m hkm hm
  rcases Nat.le_succ_iff.mp hm with hle | rfl
  · rw [hsame]
    exact h.stays m hkm hle
  · rfl

theorem EnteredAt.now
    (hne : (slacRunAt inputs p (n + 1)).ctx.state ≠ (slacRunAt inputs p n).ctx.state) :
    EnteredAt inputs p (n + 1) n := by
  refine ⟨n.lt_succ_self, hne.symm, ?_⟩
  intro m hnm hm
  rw [le_antisymm hm hnm]

/-- Run lemma: whatever `lastTime` was before, in a limited wait it is the reading of the step
that entered the wait. -/
theorem lastTime_of_limited {limit : ℕ}
    (hlim : (slacRunAt inputs p n).ctx.state.timeLimit = some limit) :
    ∃ k, EnteredAt inputs p n k ∧
      (slacRunAt inputs p n).ctx.lastTime = clockReading inputs k := by
  induction n generalizing limit with
  | zero =>
    -- no run starts in such a wait
    change (slacRunStart p.ctx).state.timeLimit = _ at hlim
    unfold slacRunStart at hlim
    split_ifs at hlim <;> cases hlim
  | succ n ih =>
    cases hend : (slacRunAt inputs p n).ctx.state.terminal with
    | true =>
      rw [slacRunAt_succ_terminal hend] at hlim
      revert hend hlim
      cases (slacRunAt inputs p n).ctx.state <;> simp [SlacState.terminal, SlacState.timeLimit]
    | false =>
      have hstep := slacRunAt_succ hend
      have hcounts := slacStep_countsFrom (hstep ▸ hlim)
      rw [← hstep] at hcounts
      by_cases hsame : (slacRunAt inputs p (n + 1)).ctx.state = (slacRunAt inputs p n).ctx.state
      · rw [hsame] at hlim
        rcases ih hlim with ⟨k, hk, htime⟩
        exact ⟨k, hk.succ hsame, (hcounts.stayed hsame).trans htime⟩
      · exact ⟨n, .now hsame, hcounts.entered hsame⟩

/-- The clock never goes back. -/
def ClockMonotone (inputs : ℕ → SlacEnv × Option (List Byte)) : Prop :=
  Monotone fun n => (clockReading inputs n).toNat

theorem ClockMonotone.toNat_sub (hclock : ClockMonotone inputs) {k : ℕ} (h : k ≤ n) :
    (clockReading inputs n - clockReading inputs k).toNat =
      (clockReading inputs n).toNat - (clockReading inputs k).toNat :=
  UInt64.toNat_sub_of_le _ _ (UInt64.le_iff_toNat_le.mpr (hclock h))

/-- Whatever an earlier run left in `lastTime` and whatever arrives: a wait that times out was
entered more than its limit ago. -/
theorem no_premature_timeout (hclock : ClockMonotone inputs)
    (h : TimesOutAt inputs p n) :
    ∃ k limit, EnteredAt inputs p n k ∧
      (slacRunAt inputs p n).ctx.state.timeLimit = some limit ∧
      (clockReading inputs k).toNat + limit < (clockReading inputs n).toNat := by
  have hrunning : (slacRunAt inputs p n).ctx.state.terminal = false := by
    rw [← Bool.not_eq_true]
    intro hend
    exact h.leaves (by rw [slacRunAt_succ_terminal hend])
  have hleaves := h.leaves
  rw [slacRunAt_succ hrunning] at hleaves
  rcases slacStep_cases (inputs n).1 (inputs n).2 rfl with
    ⟨hw, _⟩ | ⟨w, hw, ⟨_, _, hc, _⟩ | ⟨_, hexp, _⟩ | ⟨_, _, hstep⟩⟩
  · exact absurd hw h.waits
  · rw [h.unanswered] at hc
    cases hc
  · rcases expired_timeLimit hw hexp with ⟨limit, hlim, hlate⟩
    rcases lastTime_of_limited hlim with ⟨k, hk, htime⟩
    refine ⟨k, limit, hk, hlim, ?_⟩
    rw [htime] at hlate
    change limit < (clockReading inputs n - clockReading inputs k).toNat at hlate
    rw [hclock.toNat_sub hk.before.le] at hlate
    omega
  · rw [hstep] at hleaves
    exact absurd rfl hleaves

end runs

/-- A clock that stands still but for one jump of 401 milliseconds. -/
def oneJump (n : ℕ) : SlacEnv × Option (List Byte) := (quietAt (if n = 0 then 0 else 401), none)

theorem oneJump_monotone : ClockMonotone oneJump := by
  intro m n hmn
  change (if m = 0 then (0 : UInt64) else 401).toNat ≤ (if n = 0 then (0 : UInt64) else 401).toNat
  split_ifs with hm hn
  · exact le_rfl
  · exact Nat.zero_le _
  · exact absurd (Nat.le_zero.mp (‹n = 0› ▸ hmn)) hm
  · exact le_rfl

/-- The wait for CM_SLAC_PARM.CNF of an EV that has a `lastTime` from an earlier run. -/
theorem no_premature_timeout_oneJump :
    let p : SlacParty := ⟨{ slacInit (fun _ => 2) true with lastTime := 7 }, .zero⟩
    ∃ k limit, EnteredAt oneJump p 1 k ∧ (slacRunAt oneJump p 1).ctx.state.timeLimit = some limit ∧
      (clockReading oneJump k).toNat + limit < (clockReading oneJump 1).toNat := by
  exact no_premature_timeout oneJump_monotone
    ⟨by decide +kernel, by decide +kernel, by decide +kernel⟩

end EvseIso15118
