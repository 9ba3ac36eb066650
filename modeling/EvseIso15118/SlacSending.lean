import EvseIso15118.SlacTimeouts

namespace EvseIso15118

/-- How many frames a SEND state gets out. -/
def SlacState.burst : SlacState → ℕ
  | .evSendMnbcSounds => numSounds
  | _ => 1

def failedState (isEv : Bool) : SlacState := if isEv then .evFailed else .evseFailed

/-- If not all frames of its phase went out, the machine has failed. -/
def FailureNoticed (env : SlacEnv) (recv : Option (List Byte)) (p : SlacParty) : Prop :=
  (slacStep env recv p).sent.length = p.ctx.state.burst ∨
    (slacStep env recv p).party.ctx.state = failedState p.ctx.isEv

section step
variable {env : SlacEnv} {p : SlacParty} {recv : Option (List Byte)}

theorem waitOf_of_isSend (hsend : p.ctx.state.isSend = true) :
    waitOf p.ctx.isEv p.ctx.state = none := by
  revert hsend
  cases p.ctx.isEv <;> cases p.ctx.state <;> simp [SlacState.isSend, waitOf]

theorem length_sendFrame (frame : List Byte) :
    (sendFrame env frame).length = 1 ↔ ∀ i < 1, env.send i = true := by
  unfold sendFrame
  cases h : env.send 0 <;> simp [h]

theorem length_evSendMnbcSounds (ctx : SlacContext) :
    (evSendMnbcSounds env ctx).length = numSounds ↔ ∀ i < numSounds, env.send i = true := by
  rw [evSendMnbcSounds, List.length_map]
  calc ((List.range numSounds).takeWhile env.send).length = numSounds
      ↔ (List.range numSounds).takeWhile env.send = List.range numSounds := by
        refine ⟨fun h => ?_, fun h => by rw [h, List.length_range]⟩
        exact (List.takeWhile_prefix env.send).eq_of_length (by rw [h, List.length_range])
    _ ↔ ∀ i < numSounds, env.send i = true := by
        rw [List.takeWhile_eq_self_iff]
        simp only [List.mem_range]

/-- What a SEND state does: the first of the EV may fail, the sounds and every other single
frame go their way whatever comes of them. -/
theorem slacSend_cases (hsend : p.ctx.state.isSend = true)
    (hrole : p.ctx.state.ofEv = p.ctx.isEv) :
    (∃ frame, (slacSend env p).2 = sendFrame env frame) ∧ p.ctx.state.burst = 1 ∧
        ((slacSend env p).1.state = failedState p.ctx.isEv ↔
          p.ctx.state = .evSendParmReq ∧ env.send 0 = false) ∨
      p.ctx.state = .evSendMnbcSounds ∧ (slacSend env p).2 = evSendMnbcSounds env p.ctx ∧
        (slacSend env p).1.state ≠ failedState p.ctx.isEv := by
  cases hr : p.ctx.isEv with
  | true =>
    rw [slacSend_ev hr]
    cases hs : p.ctx.state <;>
      simp [hs, hr, SlacState.isSend, SlacState.ofEv] at hsend hrole
    case evSendParmReq =>
      refine .inl ⟨⟨cmSlacParmReq p.ctx.localMac (randBytes env 0 8), ?_⟩, rfl, ?_⟩
      all_goals
        simp only [evSend, hs, evSendParmReq]
        split_ifs with hfail <;> simp [failedState, hfail]
    case evSendMnbcSounds =>
      refine .inr ⟨rfl, ?_, ?_⟩ <;> simp [evSend, hs, failedState]
    all_goals
      refine .inl ⟨⟨_, by simp only [evSend, hs]; rfl⟩, rfl, ?_⟩
      simp [evSend, hs, failedState]
  | false =>
    rw [slacSend_evse hr]
    cases hs : p.ctx.state <;>
      simp [hs, hr, SlacState.isSend, SlacState.ofEv] at hsend hrole
    all_goals
      refine .inl ⟨⟨_, by simp only [evseSend, hs, evseSendMatchCnf]; rfl⟩, rfl, ?_⟩
      simp [evseSend, hs, evseSendMatchCnf, failedState]

theorem slacStep_sent_all (hsend : p.ctx.state.isSend = true)
    (hrole : p.ctx.state.ofEv = p.ctx.isEv) :
    (slacStep env recv p).sent.length = p.ctx.state.burst ↔
      ∀ i < p.ctx.state.burst, env.send i = true := by
  rw [slacStep_of_send (waitOf_of_isSend hsend)]
  change (slacSend env p).2.length = _ ↔ _
  rcases slacSend_cases hsend hrole with ⟨⟨frame, hsent⟩, hburst, _⟩ | ⟨hs, hsent, _⟩
  · rw [hsent, hburst]
    exact length_sendFrame frame
  · rw [hsent, hs]
    exact length_evSendMnbcSounds p.ctx

theorem slacStep_send_failed (hsend : p.ctx.state.isSend = true)
    (hrole : p.ctx.state.ofEv = p.ctx.isEv) :
    (slacStep env recv p).party.ctx.state = failedState p.ctx.isEv ↔
      p.ctx.state = .evSendParmReq ∧ env.send 0 = false := by
  rw [slacStep_of_send (waitOf_of_isSend hsend)]
  change (slacSend env p).1.state = _ ↔ _
  rcases slacSend_cases hsend hrole with ⟨_, _, hfailed⟩ | ⟨hs, _, hgoes⟩
  · exact hfailed
  · refine iff_of_false hgoes fun h => ?_
    rw [hs] at h
    cases h.1

theorem failureNoticed_iff (hsend : p.ctx.state.isSend = true)
    (hrole : p.ctx.state.ofEv = p.ctx.isEv) :
    FailureNoticed env recv p ↔
      p.ctx.state = .evSendParmReq ∨ ∀ i < p.ctx.state.burst, env.send i = true := by
  rw [FailureNoticed, slacStep_sent_all hsend hrole, slacStep_send_failed hsend hrole]
  constructor
  · rintro (hall | ⟨hs, _⟩)
    · exact Or.inr hall
    · exact Or.inl hs
  · rintro (hs | hall)
    · cases h0 : env.send 0 with
      | false => exact Or.inr ⟨hs, rfl⟩
      | true =>
        left
        intro i hi
        rw [hs] at hi
        rwa [Nat.lt_one_iff.mp hi]
    · exact Or.inl hall

/-- A wait of the EVSE neither is nor ends in SLAC_EVSE_MATCHED, and it is not the last SEND
state. -/
theorem evseWait_not_matched {ctx : SlacContext} {w : Wait}
    (hw : waitOf false ctx.state = some w) :
    ctx.state ≠ .evseMatched ∧ ctx.state ≠ .evseSendMatchCnf ∧
      (∀ st, (w.accept env ctx st).1.state ≠ .evseMatched) ∧
      (w.timeout ctx).state ≠ .evseMatched := by
  rcases waitOf_evse hw with
    ⟨hs, rfl⟩ | ⟨hs, rfl⟩ | ⟨hs, rfl⟩ | ⟨hs, rfl⟩ | ⟨hs, rfl⟩ | ⟨hs, rfl⟩
  · simp [hs, evseWaitParmReq]
  · simp [hs, evseWaitStartAtten, evseFail]
  · -- the collection ends in SLAC_EVSE_SEND_ATTEN_CHAR or in failure
    refine ⟨by simp [hs], by simp [hs], fun st => ?_, ?_⟩
    · dsimp only [evseCollectSounds]
      split_ifs <;> simp [hs]
    · dsimp only [evseCollectSounds]
      split_ifs <;> simp
  · simp [hs, evseWaitAttenRsp, evseFail]
  · simp [hs, evseWaitValidateReq, evseFail]
  · simp [hs, evseWaitMatchReq, evseFail]

theorem evseStep_matched_iff (hevse : p.ctx.isEv = false)
    (hrunning : p.ctx.state.terminal = false) :
    (slacStep env recv p).party.ctx.state = .evseMatched ↔ p.ctx.state = .evseSendMatchCnf := by
  rcases slacStep_cases env recv hevse with
    ⟨_, _, hstep⟩ | ⟨w, hw, ⟨_, st, _, _, hstep⟩ | ⟨_, _, hstep⟩ | ⟨_, _, hstep⟩⟩
  · rw [hstep, slacSend_evse hevse]
    cases hs : p.ctx.state <;> simp [hs, SlacState.terminal] at hrunning <;>
      simp [evseSend, evseSendMatchCnf, hs]
  all_goals
    obtain ⟨hmatched, hsend, haccept, htimeout⟩ := @evseWait_not_matched env p.ctx w hw
    rw [hstep]
  · exact iff_of_false (haccept _) hsend
  · exact iff_of_false htimeout hsend
  · exact iff_of_false hmatched hsend

variable (env recv) in
theorem evseStep_sent_matchCnf (hevse : p.ctx.isEv = false)
    (hs : p.ctx.state = .evseSendMatchCnf) :
    ∃ nmk nid, (slacStep env recv p).sent =
      sendFrame env (cmSlacMatchCnf p.statics.evMac p.ctx.localMac p.statics.runId nmk nid) := by
  have hw : waitOf p.ctx.isEv p.ctx.state = none := by
    rw [hevse, hs]
    rfl
  rw [slacStep_of_send hw, slacSend_evse hevse]
  simp only [evseSend, hs]
  exact ⟨_, _, rfl⟩

theorem evseStep_sent_other (hevse : p.ctx.isEv = false)
    (hrunning : p.ctx.state.terminal = false) (hs : p.ctx.state ≠ .evseSendMatchCnf)
    {frame : List Byte} (hf : frame ∈ (slacStep env recv p).sent) :
    frameType frame ≠ some mmeCmSlacMatchCnf := by
  rcases evseStep_sent hevse hf with ⟨_, rfl⟩ | htype | htype | ⟨_, _, _, hctx⟩
  · rw [frameType_cmSlacParmCnf]
    decide
  · rw [htype]
    decide
  · rw [htype]
    decide
  · have hmatched : (slacStep env recv p).party.ctx.state = .evseMatched := by rw [hctx]
    exact absurd ((evseStep_matched_iff hevse hrunning).mp hmatched) hs

end step

theorem slacLoopSeen_eq_loopLog (is : List (SlacEnv × Option (List Byte))) (p : SlacParty) :
    slacLoopSeen is p = loopLog (fun env recv p =>
      [((slacStep env recv p).party.ctx.state, (slacStep env recv p).sent)]) is p := by
  induction is generalizing p with
  | nil => rfl
  | cons i is ih =>
    rw [slacLoopSeen, loopLog, ← ih]
    split_ifs <;> rfl

section runs
variable {inputs : ℕ → SlacEnv × Option (List Byte)} {p : SlacParty} {n : ℕ}

theorem slacRunSent_succ (h : (slacRunAt inputs p n).ctx.state.terminal = false) :
    slacRunSent (firstInputs inputs (n + 1)) p = slacRunSent (firstInputs inputs n) p ++
      (slacStep (inputs n).1 (inputs n).2 (slacRunAt inputs p n)).sent := by
  rw [slacRunSent, slacRunSent, slacLoopSeen_eq_loopLog, slacLoopSeen_eq_loopLog,
    loopLog_firstInputs_succ, if_neg (by simp [h]), List.flatMap_append, List.flatMap_singleton]

theorem slacRunSent_succ_terminal (h : (slacRunAt inputs p n).ctx.state.terminal = true) :
    slacRunSent (firstInputs inputs (n + 1)) p = slacRunSent (firstInputs inputs n) p := by
  rw [slacRunSent, slacRunSent, slacLoopSeen_eq_loopLog, slacLoopSeen_eq_loopLog,
    loopLog_firstInputs_succ, if_pos h, List.append_nil]

/-- A CM_SLAC_MATCH.CNF with the keys of this EVSE, for whoever receives it. -/
def KeysSent (frames : List (List Byte)) (evse : SlacContext) : Prop :=
  ∃ frame ∈ frames, frameType frame = some mmeCmSlacMatchCnf ∧ CarriesKey evse frame

/-- Whenever the EVSE was in SLAC_EVSE_SEND_MATCH_CNF its frame was taken. -/
def MatchCnfTaken (inputs : ℕ → SlacEnv × Option (List Byte)) (p : SlacParty) (n : ℕ) : Prop :=
  ∀ k < n, (slacRunAt inputs p k).ctx.state = .evseSendMatchCnf → (inputs k).1.send 0 = true

/-- After `n` steps of an EVSE: before the match nothing of it went out, after the match its keys
did exactly if the frame was taken. -/
structure MatchCnfAt (inputs : ℕ → SlacEnv × Option (List Byte)) (p : SlacParty) (n : ℕ) :
    Prop where
  unmatched : (slacRunAt inputs p n).ctx.state ≠ .evseMatched →
    (∀ frame ∈ slacRunSent (firstInputs inputs n) p, frameType frame ≠ some mmeCmSlacMatchCnf) ∧
    ∀ k < n, (slacRunAt inputs p k).ctx.state ≠ .evseSendMatchCnf
  matched : (slacRunAt inputs p n).ctx.state = .evseMatched →
    (KeysSent (slacRunSent (firstInputs inputs n) p) (slacRunAt inputs p n).ctx ↔
      MatchCnfTaken inputs p n)

theorem MatchCnfAt.last (hevse : p.ctx.isEv = false) (h : MatchCnfAt inputs p n)
    (hs : (slacRunAt inputs p n).ctx.state = .evseSendMatchCnf) : MatchCnfAt inputs p (n + 1) := by
  have hrole : (slacRunAt inputs p n).ctx.isEv = false := (slacRun_isEv _ p).trans hevse
  have hrunning : (slacRunAt inputs p n).ctx.state.terminal = false := by rw [hs]; rfl
  have hstep := slacRunAt_succ hrunning
  have hmatched : (slacRunAt inputs p (n + 1)).ctx.state = .evseMatched := by
    rw [hstep]
    exact (evseStep_matched_iff hrole hrunning).mpr hs
  rcases h.unmatched (by rw [hs]; simp) with ⟨hnone, hbefore⟩
  refine ⟨fun hne => absurd hmatched hne, fun _ => ?_⟩
  rw [slacRunSent_succ hrunning]
  rcases evseStep_sent_matchCnf (inputs n).1 (inputs n).2 hrole hs with ⟨nmk, nid, hsent⟩
  constructor
  · rintro ⟨frame, hmem, htype, _⟩ k hk hk'
    rcases List.mem_append.mp hmem with hold | hnew
    · exact absurd htype (hnone frame hold)
    · -- the frame is there, so it was taken
      rcases Nat.lt_succ_iff_lt_or_eq.mp hk with hlt | rfl
      · exact absurd hk' (hbefore k hlt)
      · rw [hsent, sendFrame] at hnew
        split_ifs at hnew with h0
        · exact h0
        · cases hnew
  · intro htaken
    have h0 := htaken n n.lt_succ_self hs
    have hmem : cmSlacMatchCnf (slacRunAt inputs p n).statics.evMac
        (slacRunAt inputs p n).ctx.localMac (slacRunAt inputs p n).statics.runId nmk nid ∈
          (slacStep (inputs n).1 (inputs n).2 (slacRunAt inputs p n)).sent := by
      rw [hsent, sendFrame, if_pos h0]
      exact List.mem_singleton_self _
    refine ⟨_, List.mem_append_right _ hmem, frameType_cmSlacMatchCnf _ _ _ _ _, ?_⟩
    rw [hstep]
    exact carriesKey_of_evseStep hrole _ _ hmem

theorem MatchCnfAt.step (hevse : p.ctx.isEv = false) (h : MatchCnfAt inputs p n)
    (hrunning : (slacRunAt inputs p n).ctx.state.terminal = false)
    (hs : (slacRunAt inputs p n).ctx.state ≠ .evseSendMatchCnf) :
    MatchCnfAt inputs p (n + 1) := by
  have hrole : (slacRunAt inputs p n).ctx.isEv = false := (slacRun_isEv _ p).trans hevse
  have hunmatched : (slacRunAt inputs p n).ctx.state ≠ .evseMatched := by
    intro hm
    rw [hm] at hrunning
    cases hrunning
  rcases h.unmatched hunmatched with ⟨hnone, hbefore⟩
  refine ⟨fun _ => ⟨?_, ?_⟩, fun hm => ?_⟩
  · intro frame hmem
    rw [slacRunSent_succ hrunning] at hmem
    rcases List.mem_append.mp hmem with hold | hnew
    · exact hnone frame hold
    · exact evseStep_sent_other hrole hrunning hs hnew
  · intro k hk
    rcases Nat.lt_succ_iff_lt_or_eq.mp hk with hlt | rfl
    · exact hbefore k hlt
    · exact hs
  · rw [slacRunAt_succ hrunning] at hm
    exact absurd ((evseStep_matched_iff hrole hrunning).mp hm) hs

theorem MatchCnfAt.rest (h : MatchCnfAt inputs p n)
    (hend : (slacRunAt inputs p n).ctx.state.terminal = true) : MatchCnfAt inputs p (n + 1) := by
  have hlast : (slacRunAt inputs p n).ctx.state ≠ .evseSendMatchCnf := by
    intro hs
    rw [hs] at hend
    cases hend
  have hrest : MatchCnfTaken inputs p (n + 1) ↔ MatchCnfTaken inputs p n := by
    refine ⟨fun htaken k hk => htaken k (hk.trans n.lt_succ_self), fun htaken k hk hs => ?_⟩
    rcases Nat.lt_succ_iff_lt_or_eq.mp hk with hlt | rfl
    · exact htaken k hlt hs
    · exact absurd hs hlast
  constructor
  · rw [slacRunAt_succ_terminal hend, slacRunSent_succ_terminal hend]
    intro hne
    rcases h.unmatched hne with ⟨hnone, hbefore⟩
    refine ⟨hnone, ?_⟩
    intro k hk
    rcases Nat.lt_succ_iff_lt_or_eq.mp hk with hlt | rfl
    · exact hbefore k hlt
    · exact hlast
  · rw [slacRunAt_succ_terminal hend, slacRunSent_succ_terminal hend, hrest]
    exact h.matched

theorem matchCnfAt (hevse : p.ctx.isEv = false) (inputs : ℕ → SlacEnv × Option (List Byte))
    (n : ℕ) : MatchCnfAt inputs p n := by
  induction n with
  | zero =>
    have hstart : (slacRunAt inputs p 0).ctx.state = .evseWaitParmReq := by
      change (slacRunStart p.ctx).state = _
      rw [slacRunStart_evse hevse]
    refine ⟨fun _ => ⟨by simp [slacRunSent, firstInputs, slacLoopSeen], by simp⟩, ?_⟩
    rw [hstart]
    intro hm
    cases hm
  | succ n ih =>
    cases hend : (slacRunAt inputs p n).ctx.state.terminal with
    | true => exact ih.rest hend
    | false =>
      by_cases hs : (slacRunAt inputs p n).ctx.state = .evseSendMatchCnf
      · exact ih.last hevse hs
      · exact ih.step hevse hend hs

/-- A SEND state notices a failed transmission exactly if it is the first of the EV; a matched
EVSE has sent its keys exactly if their frame was taken. -/
theorem failed_send_noticed_iff (p : SlacParty) :
    (p.ctx.state.isSend = true → p.ctx.state.ofEv = p.ctx.isEv → ∀ env recv,
      (FailureNoticed env recv p ↔
        p.ctx.state = .evSendParmReq ∨ ∀ i < p.ctx.state.burst, env.send i = true)) ∧
    (p.ctx.isEv = false → ∀ (inputs : ℕ → SlacEnv × Option (List Byte)) (n : ℕ),
      (slacRunAt inputs p n).ctx.state = .evseMatched →
      (KeysSent (slacRunSent (firstInputs inputs n) p) (slacRunAt inputs p n).ctx ↔
        MatchCnfTaken inputs p n)) := by
  constructor
  · intro hsend hrole env recv
    exact failureNoticed_iff hsend hrole
  · intro hevse inputs n
    exact (matchCnfAt hevse inputs n).matched

end runs

/-- What an EVSE finds on its way to MATCHED, with one sound only. -/
def untilMatchCnf : List (SlacEnv × Option (List Byte)) :=
  let runId : Octets 8 := fun i => UInt8.ofNat (16 + i)
  let ev : Mac := fun _ => 2
  let evse : Mac := fun _ => 4
  [(quietAt 0, some (cmSlacParmReq ev runId)), (quietAt 10, none),
    (quietAt 20, some (cmStartAttenInd ev runId)), (quietAt 30, some (cmMnbcSoundInd ev runId 9)),
    (quietAt 700, none), (quietAt 700, none), (quietAt 710, some (cmAttenCharRsp evse ev runId)),
    (quietAt 720, some (cmValidateReq evse ev)), (quietAt 720, none),
    (quietAt 730, some (cmSlacMatchReq evse ev runId))]

def lastSend (taken : Bool) (n : ℕ) : SlacEnv × Option (List Byte) :=
  untilMatchCnf.getD n ({ quietAt 730 with send := fun _ => taken }, none)

def matchingEvse : SlacParty :=
  ⟨{ slacInit (fun _ => 4) false with state := .evseSendMatchCnf }, .zero⟩

theorem failed_send_noticed_iff_taken :
    FailureNoticed (quietAt 730) none matchingEvse ∧
    KeysSent (slacRunSent (firstInputs (lastSend true) 11) matchingEvse)
      (slacRunAt (lastSend true) matchingEvse 11).ctx := by
  have h := failed_send_noticed_iff matchingEvse
  constructor
  · exact (h.1 rfl rfl (quietAt 730) none).mpr (Or.inr fun _ _ => rfl)
  · refine (h.2 rfl (lastSend true) 11 (by decide +kernel)).mpr ?_
    intro k hk _
    interval_cases k <;> rfl

/-- The EVSE is matched and nobody has its keys. -/
theorem matched_unsent :
    ¬ FailureNoticed { quietAt 730 with send := fun _ => false } none matchingEvse ∧
    (slacRunAt (lastSend false) matchingEvse 11).ctx.state = .evseMatched ∧
    ¬ KeysSent (slacRunSent (firstInputs (lastSend false) 11) matchingEvse)
      (slacRunAt (lastSend false) matchingEvse 11).ctx := by
  refine ⟨?_, by decide +kernel, ?_⟩
  · rw [failureNoticed_iff rfl rfl]
    rintro (hs | hall)
    · cases hs
    · exact absurd (hall 0 Nat.one_pos) (by decide)
  · rintro ⟨frame, hmem, htype, -⟩
    revert frame
    decide +kernel

end EvseIso15118
