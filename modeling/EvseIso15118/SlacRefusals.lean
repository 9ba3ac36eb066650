import EvseIso15118.SlacSending

namespace EvseIso15118

/-- The frame that brings a role the result of its peer. -/
def answerType (isEv : Bool) : UInt16 := if isEv then mmeCmValidateCnf else mmeCmAttenCharRsp

def answerState (isEv : Bool) : SlacState :=
  if isEv then .evWaitValidateCnf else .evseWaitAttenRsp

/-- Where `result` stands in that frame. -/
def resultOffset (isEv : Bool) : ℕ := if isEv then 20 else 68

def matchedState (isEv : Bool) : SlacState := if isEv then .evMatched else .evseMatched

/-- The frame has a result, and it is 0. -/
def Accepted (isEv : Bool) (frame : List Byte) : Prop :=
  resultOffset isEv < frame.length ∧ byteAt frame (resultOffset isEv) = 0x00

/-- With any other frame the match is over, whatever comes after it: it ends in failure, and the
key is the one from before. -/
def AbortsOnRefusal (env : SlacEnv) (frame : List Byte) (q : SlacParty) : Prop :=
  ¬ Accepted q.ctx.isEv frame → ∀ is,
    (slacLoop is (slacStep env (some frame) q).party).ctx.state = failedState q.ctx.isEv ∧
    (slacLoop is (slacStep env (some frame) q).party).ctx.nmk = q.ctx.nmk

/-- An EV that reads a negative result, in the frame or behind its end; an EVSE that gets no
negative result. -/
def ResultHeeded (q : SlacParty) (frame : List Byte) : Prop :=
  if q.ctx.isEv then 20 < frame.length ∨ octetAt q.statics.buf 20 ≠ 0x00
  else Accepted false frame

section step
variable {q : SlacParty} {frame : List Byte}

theorem waitOf_answerState (hs : q.ctx.state = answerState q.ctx.isEv) :
    waitOf q.ctx.isEv q.ctx.state =
      some (if q.ctx.isEv then evWaitValidateCnf else evseWaitAttenRsp) := by
  rw [hs]
  cases q.ctx.isEv <;> rfl

variable (env : SlacEnv)

theorem slacStep_answer_ev (hev : q.ctx.isEv = true) (hs : q.ctx.state = answerState q.ctx.isEv)
    (ht : frameType frame = some (answerType q.ctx.isEv)) :
    (slacStep env (some frame) q).party.ctx = { q.ctx with
      state := if octetAt (recvInto q.statics.buf frame) 20 = 0x00 then .evSendMatchReq
        else .evFailed } := by
  have hw := waitOf_answerState hs
  rw [hev, if_pos rfl, ← hev] at hw
  rw [hev] at ht
  exact congrArg SlacParty.ctx (stepOver_accept hw ht q.statics.buf)

theorem slacStep_answer_evse (hevse : q.ctx.isEv = false)
    (hs : q.ctx.state = answerState q.ctx.isEv)
    (ht : frameType frame = some (answerType q.ctx.isEv)) :
    (slacStep env (some frame) q).party.ctx =
      { q.ctx with state := .evseWaitValidateReq, lastTime := env.millis } := by
  have hw := waitOf_answerState hs
  rw [hevse, if_neg (by simp), ← hevse] at hw
  rw [hevse] at ht
  exact congrArg SlacParty.ctx (stepOver_accept hw ht q.statics.buf)

theorem octetAt_result_eq_zero_iff (hev : q.ctx.isEv = true) :
    octetAt (recvInto q.statics.buf frame) 20 = 0x00 ↔
      Accepted true frame ∨ ¬ ResultHeeded q frame := by
  rw [ResultHeeded, if_pos hev, not_or, not_not]
  by_cases hlen : 20 < frame.length
  · rw [octetAt_recvInto hlen (by decide)]
    exact ⟨fun h => Or.inl ⟨hlen, h⟩, fun h => h.elim And.right fun h => absurd hlen h.1⟩
  · rw [octetAt_recvInto_stale (not_lt.mp hlen)]
    exact ⟨fun h => Or.inr ⟨hlen, h⟩, fun h => h.elim (fun h => absurd h.1 hlen) And.right⟩

end step

def CanMatch (q : SlacParty) : Prop :=
  ∃ is, (slacLoop is q).ctx.state = matchedState q.ctx.isEv

namespace CanMatch
variable {q : SlacParty}

theorem of_step (hrunning : q.ctx.state.terminal = false) (env : SlacEnv)
    (recv : Option (List Byte)) (h : CanMatch (slacStep env recv q).party) : CanMatch q := by
  rcases h with ⟨is, his⟩
  refine ⟨(env, recv) :: is, ?_⟩
  rw [slacLoop_cons_running hrunning, his, slacStep_isEv]

theorem of_matched (h : q.ctx.state = matchedState q.ctx.isEv) : CanMatch q := ⟨[], h⟩

theorem evWaitMatchCnf (hev : q.ctx.isEv = true) (hs : q.ctx.state = .evWaitMatchCnf) :
    CanMatch q := by
  have hw : waitOf q.ctx.isEv q.ctx.state = some EvseIso15118.evWaitMatchCnf := by
    rw [hev, hs]
    rfl
  refine of_step (by rw [hs]; rfl) (quietAt 0) (some (cmSlacMatchCnf q.ctx.localMac (fun _ => 4)
    q.ctx.runId (fun _ => 1) fun _ => 1)) (of_matched ?_)
  rw [slacStep_isEv, hev]
  exact congrArg (fun p => p.ctx.state)
    (stepOver_accept hw (frameType_cmSlacMatchCnf _ _ _ _ _) q.statics.buf)

theorem evSendMatchReq (hev : q.ctx.isEv = true) (hs : q.ctx.state = .evSendMatchReq) :
    CanMatch q := by
  have hw : waitOf q.ctx.isEv q.ctx.state = none := by
    rw [hev, hs]
    rfl
  refine of_step (by rw [hs]; rfl) (quietAt 0) none (evWaitMatchCnf ?_ ?_)
  · rw [slacStep_isEv, hev]
  · rw [slacStep_of_send hw, slacSend_ev hev]
    simp only [evSend, hs]

theorem evseSendMatchCnf (hevse : q.ctx.isEv = false) (hs : q.ctx.state = .evseSendMatchCnf) :
    CanMatch q := by
  have hrunning : q.ctx.state.terminal = false := by
    rw [hs]
    rfl
  refine of_step hrunning (quietAt 0) none (of_matched ?_)
  rw [slacStep_isEv, hevse]
  exact (evseStep_matched_iff hevse hrunning).mpr hs

theorem evseWaitMatchReq (hevse : q.ctx.isEv = false) (hs : q.ctx.state = .evseWaitMatchReq) :
    CanMatch q := by
  have hw : waitOf q.ctx.isEv q.ctx.state = some EvseIso15118.evseWaitMatchReq := by
    rw [hevse, hs]
    rfl
  refine of_step (by rw [hs]; rfl) (quietAt 0)
    (some (cmSlacMatchReq q.ctx.localMac (fun _ => 2) q.ctx.runId)) (evseSendMatchCnf ?_ ?_)
  · rw [slacStep_isEv, hevse]
  · exact congrArg (fun p => p.ctx.state)
      (stepOver_accept hw (frameType_cmSlacMatchReq _ _ _) q.statics.buf)

theorem evseSendValidateCnf (hevse : q.ctx.isEv = false)
    (hs : q.ctx.state = .evseSendValidateCnf) : CanMatch q := by
  have hw : waitOf q.ctx.isEv q.ctx.state = none := by
    rw [hevse, hs]
    rfl
  refine of_step (by rw [hs]; rfl) (quietAt 0) none (evseWaitMatchReq ?_ ?_)
  · rw [slacStep_isEv, hevse]
  · rw [slacStep_of_send hw, slacSend_evse hevse]
    simp only [evseSend, hs]

theorem evseWaitValidateReq (hevse : q.ctx.isEv = false)
    (hs : q.ctx.state = .evseWaitValidateReq) : CanMatch q := by
  have hw : waitOf q.ctx.isEv q.ctx.state = some EvseIso15118.evseWaitValidateReq := by
    rw [hevse, hs]
    rfl
  refine of_step (by rw [hs]; rfl) (quietAt 0)
    (some (cmValidateReq q.ctx.localMac fun _ => 2)) (evseSendValidateCnf ?_ ?_)
  · rw [slacStep_isEv, hevse]
  · exact congrArg (fun p => p.ctx.state)
      (stepOver_accept hw (frameType_cmValidateReq _ _) q.statics.buf)

theorem not_failed (h : CanMatch q) :
    ¬ ∀ is, (slacLoop is q).ctx.state = failedState q.ctx.isEv := by
  rcases h with ⟨is, his⟩
  intro hall
  have hboth := his.symm.trans (hall is)
  revert hboth
  cases q.ctx.isEv <;> simp [matchedState, failedState]

end CanMatch

section refusal
variable {q : SlacParty} {frame : List Byte}

theorem slacStep_answer_cases (env : SlacEnv) (hs : q.ctx.state = answerState q.ctx.isEv)
    (ht : frameType frame = some (answerType q.ctx.isEv)) :
    ((Accepted q.ctx.isEv frame ∨ ¬ ResultHeeded q frame) ∧
        CanMatch (slacStep env (some frame) q).party) ∨
      (¬ Accepted q.ctx.isEv frame ∧ ResultHeeded q frame ∧
        (slacStep env (some frame) q).party.ctx =
          { q.ctx with state := failedState q.ctx.isEv }) := by
  cases hr : q.ctx.isEv with
  | true =>
    have hstep := slacStep_answer_ev env hr hs ht
    by_cases hzero : octetAt (recvInto q.statics.buf frame) 20 = 0x00
    · left
      rw [if_pos hzero] at hstep
      refine ⟨(octetAt_result_eq_zero_iff hr).mp hzero, .evSendMatchReq ?_ ?_⟩
      · rw [slacStep_isEv, hr]
      · rw [hstep]
    · right
      rw [if_neg hzero] at hstep
      rw [octetAt_result_eq_zero_iff hr, not_or, not_not] at hzero
      exact ⟨hzero.1, hzero.2, hstep⟩
  | false =>
    left
    have hstep := slacStep_answer_evse env hr hs ht
    refine ⟨?_, .evseWaitValidateReq ?_ ?_⟩
    · rw [ResultHeeded, if_neg (by simp [hr])]
      exact em _
    · rw [slacStep_isEv, hr]
    · rw [hstep]

theorem abortsOnRefusal_iff (env : SlacEnv) (hs : q.ctx.state = answerState q.ctx.isEv)
    (ht : frameType frame = some (answerType q.ctx.isEv)) :
    AbortsOnRefusal env frame q ↔ ResultHeeded q frame := by
  constructor
  · intro habort
    by_contra hunheeded
    rcases slacStep_answer_cases env hs ht with ⟨hacc, hcan⟩ | ⟨_, hheeded, _⟩
    · by_cases hzero : Accepted q.ctx.isEv frame
      · -- an EVSE would have heeded it, and so would an EV
        refine hunheeded ?_
        unfold ResultHeeded
        split_ifs with hev
        · rw [hev] at hzero
          exact Or.inl hzero.1
        · rw [Bool.not_eq_true] at hev
          rwa [hev] at hzero
      · refine hcan.not_failed fun is => ?_
        rw [slacStep_isEv]
        exact (habort hzero is).1
    · exact hunheeded hheeded
  · intro hheeded hrefused is
    rcases slacStep_answer_cases env hs ht with ⟨hacc | hno, _⟩ | ⟨_, _, hstep⟩
    · exact absurd hacc hrefused
    · exact absurd hheeded hno
    · have hend : (slacStep env (some frame) q).party.ctx.state.terminal = true := by
        rw [hstep]
        cases q.ctx.isEv <;> rfl
      rw [(slacLoop_of_terminal hend is).1, hstep]
      exact ⟨rfl, rfl⟩

end refusal

section runs
variable {inputs : ℕ → SlacEnv × Option (List Byte)} {p : SlacParty} {n : ℕ}

/-- In the first `n` steps every result of the peer was heeded. -/
def ResultsHeeded (inputs : ℕ → SlacEnv × Option (List Byte)) (p : SlacParty) (n : ℕ) : Prop :=
  ∀ k < n, ∀ frame, (inputs k).2 = some frame →
    (slacRunAt inputs p k).ctx.state = answerState (slacRunAt inputs p k).ctx.isEv →
    frameType frame = some (answerType (slacRunAt inputs p k).ctx.isEv) →
    ResultHeeded (slacRunAt inputs p k) frame

theorem slacConsumed_succ (h : (slacRunAt inputs p n).ctx.state.terminal = false) :
    slacConsumed (firstInputs inputs (n + 1)) p = slacConsumed (firstInputs inputs n) p ++
      (consumedBy (slacRunAt inputs p n) (inputs n).2).toList := by
  rw [slacConsumed, slacConsumed, loopConsumed_eq_loopLog, loopConsumed_eq_loopLog,
    loopLog_firstInputs_succ, if_neg (by simp [h])]

theorem slacConsumed_succ_terminal (h : (slacRunAt inputs p n).ctx.state.terminal = true) :
    slacConsumed (firstInputs inputs (n + 1)) p = slacConsumed (firstInputs inputs n) p := by
  rw [slacConsumed, slacConsumed, loopConsumed_eq_loopLog, loopConsumed_eq_loopLog,
    loopLog_firstInputs_succ, if_pos h, List.append_nil]

theorem consumedBy_answer {q : SlacParty} {recv : Option (List Byte)} {frame : List Byte}
    (hc : consumedBy q recv = some frame)
    (ht : frameType frame = some (answerType q.ctx.isEv)) :
    recv = some frame ∧ q.ctx.state = answerState q.ctx.isEv := by
  cases hw : waitOf q.ctx.isEv q.ctx.state with
  | none =>
    rw [consumedBy_of_send hw] at hc
    cases hc
  | some w =>
    rw [consumedBy_of_wait hw, Option.filter_eq_some_iff] at hc
    refine ⟨hc.1, ?_⟩
    have hawaited : w.awaited = answerType q.ctx.isEv := by
      have htype := of_decide_eq_true hc.2
      rw [ht, Option.some_inj] at htype
      exact htype.symm
    cases hr : q.ctx.isEv with
    | true =>
      rw [hr] at hw hawaited
      rcases waitOf_ev hw with ⟨hs, rfl⟩ | ⟨hs, rfl⟩ | ⟨hs, rfl⟩ | ⟨hs, rfl⟩
      · exact absurd hawaited (by decide)
      · exact absurd hawaited (by decide)
      · exact hs
      · exact absurd hawaited (by decide)
    | false =>
      rw [hr] at hw hawaited
      rcases waitOf_evse hw with
        ⟨hs, rfl⟩ | ⟨hs, rfl⟩ | ⟨hs, rfl⟩ | ⟨hs, rfl⟩ | ⟨hs, rfl⟩ | ⟨hs, rfl⟩
      · exact absurd hawaited (by decide)
      · exact absurd hawaited (by decide)
      · exact absurd hawaited (by decide)
      · exact hs
      all_goals exact absurd hawaited (by decide)

theorem accepted_of_resultsHeeded (h : ResultsHeeded inputs p n)
    (hok : (slacRunAt inputs p n).ctx.state ≠ failedState p.ctx.isEv) :
    ∀ frame ∈ slacConsumed (firstInputs inputs n) p,
      frameType frame = some (answerType p.ctx.isEv) → Accepted p.ctx.isEv frame := by
  induction n with
  | zero =>
    intro frame hmem
    cases hmem
  | succ n ih =>
    have hbefore : ResultsHeeded inputs p n := fun k hk => h k (hk.trans n.lt_succ_self)
    cases hend : (slacRunAt inputs p n).ctx.state.terminal with
    | true =>
      rw [slacRunAt_succ_terminal hend] at hok
      rw [slacConsumed_succ_terminal hend]
      exact ih hbefore hok
    | false =>
      have hrole : (slacRunAt inputs p n).ctx.isEv = p.ctx.isEv := slacRun_isEv _ p
      intro frame hmem ht
      rw [slacConsumed_succ hend] at hmem
      rcases List.mem_append.mp hmem with hold | hnew
      · refine ih hbefore ?_ frame hold ht
        intro hfailed
        rw [hfailed] at hend
        cases hr : p.ctx.isEv <;> simp [hr, failedState, SlacState.terminal] at hend
      · rw [← hrole] at ht
        rcases consumedBy_answer (Option.mem_toList.mp hnew) ht with ⟨hrecv, hs⟩
        rcases slacStep_answer_cases (inputs n).1 hs ht with ⟨hacc | hno, _⟩ | ⟨_, _, hstep⟩
        · rwa [hrole] at hacc
        · exact absurd (h n n.lt_succ_self frame hrecv hs ht) hno
        · rw [slacRunAt_succ hend, hrecv, hstep, hrole] at hok
          exact absurd rfl hok

theorem answer_of_matched (hm : (slacRunAt inputs p n).ctx.state = matchedState p.ctx.isEv) :
    ∃ frame ∈ slacConsumed (firstInputs inputs n) p,
      frameType frame = some (answerType p.ctx.isEv) := by
  have htypes : some (answerType p.ctx.isEv) ∈
      (slacConsumed (firstInputs inputs n) p).map frameType := by
    cases hr : p.ctx.isEv with
    | true =>
      rw [hr] at hm
      rw [(ev_phases hr (firstInputs inputs n)).1 _ (by
        change consumedTypes (slacRunAt inputs p n).ctx = _
        rw [consumedTypes, hm]
        rfl)]
      simp [answerType]
    | false =>
      rw [hr] at hm
      rw [(evse_phases hr (firstInputs inputs n)).1 _ (by
        change consumedTypes (slacRunAt inputs p n).ctx = _
        rw [consumedTypes, hm]
        rfl)]
      simp [answerType]
  rcases List.mem_map.mp htypes with ⟨frame, hmem, ht⟩
  exact ⟨frame, hmem, ht⟩

/-- A refusal ends the match exactly if it is heeded, whatever follows; where every result is
heeded a matched party has been accepted by its peer. -/
theorem negative_result_aborts_iff (inputs : ℕ → SlacEnv × Option (List Byte)) (p : SlacParty)
    (n : ℕ) :
    ((slacRunAt inputs p n).ctx.state = answerState p.ctx.isEv → ∀ env frame,
      frameType frame = some (answerType p.ctx.isEv) →
      (AbortsOnRefusal env frame (slacRunAt inputs p n) ↔
        ResultHeeded (slacRunAt inputs p n) frame)) ∧
    (ResultsHeeded inputs p n →
      (slacRunAt inputs p n).ctx.state = matchedState p.ctx.isEv →
      ∃ frame ∈ slacConsumed (firstInputs inputs n) p,
        frameType frame = some (answerType p.ctx.isEv) ∧ Accepted p.ctx.isEv frame) := by
  have hrole : (slacRunAt inputs p n).ctx.isEv = p.ctx.isEv := slacRun_isEv _ p
  constructor
  · intro hs env frame ht
    rw [← hrole] at hs ht
    exact abortsOnRefusal_iff env hs ht
  · intro hheeded hm
    rcases answer_of_matched hm with ⟨frame, hmem, ht⟩
    refine ⟨frame, hmem, ht, accepted_of_resultsHeeded hheeded ?_ frame hmem ht⟩
    rw [hm]
    cases p.ctx.isEv <;> simp [matchedState, failedState]

end runs

def attenRspWith (result : Byte) : List Byte :=
  (cmAttenCharRsp (fun _ => 4) (fun _ => 2) fun i => UInt8.ofNat (16 + i)).set 68 result

def answeredWith (result : Byte) (n : ℕ) : SlacEnv × Option (List Byte) :=
  (untilMatchCnf.set 6 (quietAt 710, some (attenRspWith result))).getD n (quietAt 730, none)

theorem negative_result_aborts_iff_accepted :
    AbortsOnRefusal (quietAt 710) (attenRspWith 0) (slacRunAt (answeredWith 0) matchingEvse 6) ∧
    ∃ frame ∈ slacConsumed (firstInputs (answeredWith 0) 11) matchingEvse,
      frameType frame = some mmeCmAttenCharRsp ∧ Accepted false frame := by
  constructor
  · refine ((negative_result_aborts_iff (answeredWith 0) matchingEvse 6).1 (by decide +kernel)
      (quietAt 710) (attenRspWith 0) (by decide +kernel)).mpr ?_
    exact ⟨by decide +kernel, by decide +kernel⟩
  · refine (negative_result_aborts_iff (answeredWith 0) matchingEvse 11).2 ?_ (by decide +kernel)
    intro k hk frame hrecv hs _
    have h6 : k = 6 := by
      revert hs
      interval_cases k <;> decide +kernel
    subst h6
    cases hrecv
    exact ⟨by decide +kernel, by decide +kernel⟩

/-- The EV refuses, the EVSE is matched and has made a key. -/
theorem matched_after_refusal :
    attenRspWith 1 ∈ slacConsumed (firstInputs (answeredWith 1) 11) matchingEvse ∧
    frameType (attenRspWith 1) = some mmeCmAttenCharRsp ∧ byteAt (attenRspWith 1) 68 = 0x01 ∧
    (slacRunAt (answeredWith 1) matchingEvse 11).ctx.state = .evseMatched ∧
    (slacRunAt (answeredWith 1) matchingEvse 11).ctx.nmk ≠ matchingEvse.ctx.nmk := by
  decide +kernel

end EvseIso15118
