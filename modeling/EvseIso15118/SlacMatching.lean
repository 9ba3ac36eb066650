import EvseIso15118.SlacChannel

namespace EvseIso15118

open Network

@[simp] theorem frameType_cmSlacParmCnf (evMac localMac : Mac) (runId : Octets 8) :
    frameType (cmSlacParmCnf evMac localMac runId) = some mmeCmSlacParmCnf := by
  simp only [cmSlacParmCnf, List.append_assoc]
  exact frameType_buildHdr _ _ _ _

@[simp] theorem frameType_cmAttenCharInd (evMac localMac : Mac) (runId : Octets 8)
    (soundCount : Byte) (aag : Octets 58) :
    frameType (cmAttenCharInd evMac localMac runId soundCount aag) = some mmeCmAttenCharInd := by
  simp only [cmAttenCharInd, List.append_assoc]
  exact frameType_buildHdr _ _ _ _

@[simp] theorem frameType_cmValidateCnf (evMac localMac : Mac) :
    frameType (cmValidateCnf evMac localMac) = some mmeCmValidateCnf :=
  frameType_buildHdr _ _ _ _

@[simp] theorem frameType_cmSlacMatchCnf (evMac localMac : Mac) (runId : Octets 8)
    (nmk : Octets 16) (nid : Octets 7) :
    frameType (cmSlacMatchCnf evMac localMac runId nmk nid) = some mmeCmSlacMatchCnf := by
  simp only [cmSlacMatchCnf, List.append_assoc]
  exact frameType_buildHdr _ _ _ _

theorem nmk_of_cmSlacMatchCnf (evMac localMac : Mac) (runId : Octets 8) (nmk : Octets 16)
    (nid : Octets 7) (buf : Octets 2048) :
    field (recvInto buf (cmSlacMatchCnf evMac localMac runId nmk nid)) 84 16 = nmk := by
  rw [cmSlacMatchCnf]
  apply field_recvInto
  · simp [le16Bytes]
  · decide

theorem nid_of_cmSlacMatchCnf (evMac localMac : Mac) (runId : Octets 8) (nmk : Octets 16)
    (nid : Octets 7) (buf : Octets 2048) :
    field (recvInto buf (cmSlacMatchCnf evMac localMac runId nmk nid)) 100 7 = nid := by
  rw [cmSlacMatchCnf, ← List.append_nil (_ ++ List.ofFn nid)]
  apply field_recvInto
  · simp [le16Bytes]
  · decide

/-- The EV has taken a confirmation in this run. -/
def SlacState.confirmed : SlacState → Bool
  | .evSendStartAtten | .evSendMnbcSounds | .evWaitAttenChar | .evSendAttenRsp | .evSendValidate
  | .evWaitValidateCnf | .evSendMatchReq | .evWaitMatchCnf | .evMatched => true
  | _ => false

section party
variable {env : SlacEnv} {p : SlacParty} {recv : Option (List Byte)}

theorem slacSend_ev (h : p.ctx.isEv = true) : slacSend env p = evSend env p.ctx p.statics.evseMac :=
  if_pos h

theorem slacSend_evse (h : p.ctx.isEv = false) :
    slacSend env p = evseSend env p.ctx p.statics.evMac p.statics.runId := by
  rw [slacSend, h, if_neg (by simp)]

/-- In a send state the EV is not matched and does not get past its request, and past it the run
id stays. -/
theorem evSend_cases (env : SlacEnv) (ctx : SlacContext) (evseMac : Mac) :
    (evSend env ctx evseMac).1 = ctx ∨
      ((evSend env ctx evseMac).1.state ≠ .evMatched ∧
        (evSend env ctx evseMac).1.state.confirmed = ctx.state.confirmed ∧
        (ctx.state.confirmed = true → (evSend env ctx evseMac).1.runId = ctx.runId)) := by
  cases hs : ctx.state
  case evSendParmReq =>
    right
    simp only [evSend, hs, evSendParmReq]
    split_ifs
    · exact ⟨by simp, rfl, fun h => by cases h⟩
    · exact ⟨by simp, rfl, fun h => by cases h⟩
  case evSendStartAtten | evSendMnbcSounds | evSendAttenRsp | evSendValidate | evSendMatchReq =>
    right
    simp [evSend, hs, SlacState.confirmed]
  all_goals
    left
    simp only [evSend, hs]

theorem evStep_matched (hev : p.ctx.isEv = true) (hrun : p.ctx.state.terminal = false)
    (hm : (slacStep env recv p).party.ctx.state = .evMatched) :
    ∃ frame, recv = some frame ∧ frameType frame = some mmeCmSlacMatchCnf ∧
      (slacStep env recv p).party.ctx.nmk = field (recvInto p.statics.buf frame) 84 16 ∧
      (slacStep env recv p).party.ctx.nid = field (recvInto p.statics.buf frame) 100 7 := by
  cases hw : waitOf p.ctx.isEv p.ctx.state with
  | none =>
    rw [slacStep_of_send hw, slacSend_ev hev] at hm
    rcases evSend_cases env p.ctx p.statics.evseMac with h | ⟨h, _⟩
    · rw [h] at hm
      change p.ctx.state = .evMatched at hm
      rw [hm] at hrun
      cases hrun
    · exact absurd hm h
  | some w =>
    rw [slacStep_of_wait hw] at hm ⊢
    rw [hev] at hw
    rcases w.run_cases env recv p.ctx p.statics with ⟨frame, hrecv, htype, h⟩ | ⟨_, h⟩ | h
    · rw [h] at hm ⊢
      -- only the last wait accepts into the matched state
      rcases waitOf_ev hw with ⟨_, rfl⟩ | ⟨_, rfl⟩ | ⟨_, rfl⟩ | ⟨_, rfl⟩
      · cases hm
      · cases hm
      · dsimp only [evWaitValidateCnf] at hm
        split_ifs at hm
      · exact ⟨frame, hrecv, htype, rfl, rfl⟩
    · rw [h] at hm
      rcases waitOf_ev hw with ⟨_, rfl⟩ | ⟨_, rfl⟩ | ⟨_, rfl⟩ | ⟨_, rfl⟩
      · dsimp only [evWaitParmCnf] at hm
        split_ifs at hm
      all_goals cases hm
    · rw [h] at hm
      change p.ctx.state = .evMatched at hm
      rw [hm] at hrun
      cases hrun

theorem eq_of_mem_sendFrame {frame f : List Byte} (h : frame ∈ sendFrame env f) : frame = f := by
  unfold sendFrame at h
  split_ifs at h
  · exact List.mem_singleton.mp h
  · cases h

theorem evseStep_sent (hevse : p.ctx.isEv = false) {frame : List Byte}
    (hf : frame ∈ (slacStep env recv p).sent) :
    (p.ctx.state = .evseSendParmCnf ∧
        frame = cmSlacParmCnf p.statics.evMac p.ctx.localMac p.statics.runId) ∨
      frameType frame = some mmeCmAttenCharInd ∨ frameType frame = some mmeCmValidateCnf ∨
      (∃ nmk nid, frame = cmSlacMatchCnf p.statics.evMac p.ctx.localMac p.statics.runId nmk nid ∧
        (slacStep env recv p).party.ctx =
          { p.ctx with nmk := nmk, nid := nid, state := .evseMatched }) := by
  cases hw : waitOf p.ctx.isEv p.ctx.state with
  | some w =>
    rw [slacStep_of_wait hw] at hf
    cases hf
  | none =>
    rw [slacStep_of_send hw, slacSend_evse hevse] at hf ⊢
    unfold evseSend at hf ⊢
    split at hf
    · rename_i hs
      exact Or.inl ⟨hs, eq_of_mem_sendFrame hf⟩
    · rw [eq_of_mem_sendFrame hf]
      right; left
      simp
    · rw [eq_of_mem_sendFrame hf]
      right; right; left
      simp
    · right; right; right
      exact ⟨_, _, eq_of_mem_sendFrame hf, rfl⟩
    · cases hf

end party

theorem role_update {p : Bool → SlacParty} (h : ∀ q, (p q).ctx.isEv = q) (r : Bool) (env : SlacEnv)
    (recv : Option (List Byte)) (q : Bool) :
    (Function.update p r (slacProtocol.step env recv (p r)).1 q).ctx.isEv = q := by
  by_cases hq : q = r
  · subst hq
    rw [Function.update_self]
    exact (slacStep_isEv env recv (p q)).trans (h q)
  · rw [Function.update_of_ne hq]
    exact h q

/-- A step at this time, with `rand()` counting up from `first`. -/
def stepAt (r : Bool) (millis : UInt64) (first : ℕ) (recv : Option ℕ) : Action SlacEnv :=
  .step r ⟨millis, fun i => first + i, fun _ => true⟩ recv

def twoStations : Bool → SlacContext := fun r => slacInit (fun _ => if r then 2 else 4) r

/-- The run from CM_START_ATTEN_CHAR.IND to the end. Before the EVSE finds it, it takes `early`
frames; the EV finds its frames in place `k` of its inbox. -/
def attenAndMatch (early k : ℕ) : List (Action SlacEnv) :=
  [stepAt true 510 0 none, stepAt true 710 0 none] ++
    List.replicate (early + 1) (stepAt false 720 0 (some 0)) ++
    List.replicate 10 (stepAt false 725 0 (some 0)) ++
    [stepAt false 730 0 none, stepAt true 735 0 (some k), stepAt true 735 0 none,
      stepAt true 735 0 none, stepAt false 740 0 (some 0), stepAt false 745 0 (some 0),
      stepAt false 745 0 none, stepAt true 750 0 (some k), stepAt true 750 0 none,
      stepAt false 755 0 (some 0), stepAt false 755 100 none, stepAt true 760 0 (some k)]

/-- The first request is lost, the confirmation of the second comes twice. -/
def retriedRun : List (Action SlacEnv) :=
  [stepAt true 0 16 none, .lose false 0, stepAt true 500 0 none, stepAt true 500 32 none,
    stepAt false 505 0 (some 0), stepAt false 505 0 none, .duplicate true 0,
    stepAt true 510 0 (some 0)] ++ attenAndMatch 0 1

theorem retriedRun_matched :
    ∃ s ∈ Transition.run (act slacProtocol) (slacStart twoStations fun _ => .zero) retriedRun,
      (s.party true).ctx.state = .evMatched := by
  decide +kernel

/-- The confirmation of the first request comes 10 ms after the second request has been sent,
with a new run id. -/
def lateConfirmationRun : List (Action SlacEnv) :=
  [stepAt true 0 16 none, stepAt false 10 0 (some 0), stepAt false 10 0 none,
    stepAt true 500 0 none, stepAt true 500 32 none, stepAt true 510 0 (some 0)] ++
    attenAndMatch 1 0

/-- The EVSE is matched and these are its keys. -/
def Installed (evse : SlacContext) (nmk : Octets 16) (nid : Octets 7) : Prop :=
  evse.state = .evseMatched ∧ nmk = evse.nmk ∧ nid = evse.nid

/-- What a frame on its way to the EV says about the key, if it is a CM_SLAC_MATCH.CNF. -/
def CarriesKey (evse : SlacContext) (frame : List Byte) : Prop :=
  frameType frame = some mmeCmSlacMatchCnf → ∀ buf,
    Installed evse (field (recvInto buf frame) 84 16) (field (recvInto buf frame) 100 7)

theorem carriesKey_of_evseStep {p : SlacParty} (hevse : p.ctx.isEv = false) (env : SlacEnv)
    (recv : Option (List Byte)) {frame : List Byte} (hf : frame ∈ (slacStep env recv p).sent) :
    CarriesKey (slacStep env recv p).party.ctx frame := by
  intro htype buf
  rcases evseStep_sent hevse hf with ⟨_, rfl⟩ | h | h | ⟨nmk, nid, rfl, hctx⟩
  · rw [frameType_cmSlacParmCnf] at htype
    cases htype
  · rw [h] at htype
    cases htype
  · rw [h] at htype
    cases htype
  · rw [hctx]
    exact ⟨rfl, nmk_of_cmSlacMatchCnf _ _ _ _ _ _, nid_of_cmSlacMatchCnf _ _ _ _ _ _⟩

/-- A matched EV holds the keys of a matched EVSE. The messages carry it: only the EVSE's last
step sends a CM_SLAC_MATCH.CNF, and no step of the EVSE follows that could change its keys. -/
def keyAgreement : Invariant slacProtocol where
  Parties p := (∀ r, (p r).ctx.isEv = r) ∧
    ((p true).ctx.state = .evMatched →
      Installed (p false).ctx (p true).ctx.nmk (p true).ctx.nid)
  Msg p r frame := r = true → CarriesKey (p false).ctx frame
  parties_step := by
    intro p r env recv ⟨hrole, hmatched⟩ hrun hmsg
    refine ⟨role_update hrole r env recv, ?_⟩
    intro hm
    cases r with
    | true =>
      rw [Function.update_self] at hm ⊢
      rw [Function.update_of_ne (by decide)]
      rcases evStep_matched (hrole true) hrun hm with ⟨frame, hrecv, htype, hnmk, hnid⟩
      have hkey := hmsg frame hrecv rfl htype (p true).statics.buf
      rw [← hnmk, ← hnid] at hkey
      exact hkey
    | false =>
      -- an EVSE that a matched EV relies on takes no more steps
      rw [Function.update_of_ne (by decide)] at hm
      have hend : (p false).ctx.state.terminal = true := by
        rw [(hmatched hm).1]
        rfl
      exact absurd (hend.symm.trans hrun) (by decide)
  msg_stable := by
    intro p r env recv q frame ⟨hrole, _⟩ hrun hmsg hq htype buf
    cases r with
    | true =>
      rw [Function.update_of_ne (by decide)]
      exact hmsg hq htype buf
    | false =>
      -- the EVSE of a key on the way has ended: it does not step
      have hend : (p false).ctx.state.terminal = true := by
        rw [(hmsg hq htype buf).1]
        rfl
      exact absurd (hend.symm.trans hrun) (by decide)
  msg_sent := by
    intro p r env recv ⟨hrole, _⟩ _ frame hframe hr
    cases r with
    | true => cases hr
    | false =>
      rw [Function.update_self]
      exact carriesKey_of_evseStep (hrole false) env recv hframe

theorem keyAgreement_start {ctx : Bool → SlacContext} (hrole : ∀ r, (ctx r).isEv = r)
    (statics : Bool → SlacStatics) : keyAgreement.Holds (slacStart ctx statics) := by
  apply keyAgreement.holds_of_empty ⟨slacStart_role hrole statics, ?_⟩ fun _ => rfl
  intro h
  change (slacRunStart (ctx true)).state = .evMatched at h
  rw [slacRunStart_ev (hrole true)] at h
  cases h

/-- Whatever is lost, late, reordered or duplicated, and however the steps and timeouts
interleave, an EV that ends up matched shares the key of an EVSE that is matched. -/
theorem matched_ev_shares_key {ctx : Bool → SlacContext} (hrole : ∀ r, (ctx r).isEv = r)
    {statics : Bool → SlacStatics} {as : List (Action SlacEnv)} {s : SlacJoint}
    (hrun : Transition.run (act slacProtocol) (slacStart ctx statics) as = some s)
    (hm : (s.party true).ctx.state = .evMatched) :
    (s.party false).ctx.state = .evseMatched ∧
      (s.party true).ctx.nmk = (s.party false).ctx.nmk ∧
      (s.party true).ctx.nid = (s.party false).ctx.nid :=
  (keyAgreement.run (keyAgreement_start hrole statics) hrun).parties.2 hm

theorem matched_ev_shares_key_retried :
    ∃ s, Transition.run (act slacProtocol) (slacStart twoStations fun _ => .zero) retriedRun =
        some s ∧
      (s.party true).ctx.state = .evMatched ∧ (s.party false).ctx.state = .evseMatched ∧
      (s.party true).ctx.nmk = (s.party false).ctx.nmk ∧
      (s.party true).ctx.nid = (s.party false).ctx.nid := by
  rcases retriedRun_matched with ⟨s, hs, hm⟩
  exact ⟨s, hs, hm, matched_ev_shares_key (fun _ => rfl) hs hm⟩

/-- `run_id` of a CM_SLAC_PARM.CNF. -/
def parmCnfRunId (frame : List Byte) : Octets 8 := fun i => byteAt frame (35 + i)

theorem parmCnfRunId_cmSlacParmCnf (evMac localMac : Mac) (runId : Octets 8) :
    parmCnfRunId (cmSlacParmCnf evMac localMac runId) = runId := by
  funext i
  rw [parmCnfRunId, cmSlacParmCnf, byteAt_append_right _ (by simp)]
  simp only [List.length_append, buildHdr_length, List.length_ofFn, List.length_cons,
    List.length_nil]
  rw [Nat.add_sub_cancel_left, byteAt_ofFn]

section party
variable {env : SlacEnv} {p : SlacParty} {recv : Option (List Byte)}

theorem evStep_confirmed (hev : p.ctx.isEv = true)
    (hc : (slacStep env recv p).party.ctx.state.confirmed = true) :
    (slacStep env recv p).party.ctx.runId = p.ctx.runId ∧
      (p.ctx.state.confirmed = true ∨ p.ctx.state = .evWaitParmCnf ∧
        ∃ frame, recv = some frame ∧ frameType frame = some mmeCmSlacParmCnf) := by
  cases hw : waitOf p.ctx.isEv p.ctx.state with
  | none =>
    rw [slacStep_of_send hw, slacSend_ev hev] at hc ⊢
    rcases evSend_cases env p.ctx p.statics.evseMac with h | ⟨_, hsame, hid⟩
    · rw [h] at hc ⊢
      exact ⟨rfl, Or.inl hc⟩
    · have hold : p.ctx.state.confirmed = true := hsame.symm.trans hc
      exact ⟨hid hold, Or.inl hold⟩
  | some w =>
    rw [slacStep_of_wait hw] at hc ⊢
    rw [hev] at hw
    rcases w.run_cases env recv p.ctx p.statics with ⟨frame, hrecv, htype, h⟩ | ⟨_, h⟩ | h
    · rw [h] at hc ⊢
      rcases waitOf_ev hw with ⟨hs, rfl⟩ | ⟨hs, rfl⟩ | ⟨hs, rfl⟩ | ⟨hs, rfl⟩
      · exact ⟨rfl, Or.inr ⟨hs, frame, hrecv, htype⟩⟩
      all_goals exact ⟨rfl, Or.inl (by rw [hs]; rfl)⟩
    · rw [h] at hc
      rcases waitOf_ev hw with ⟨_, rfl⟩ | ⟨_, rfl⟩ | ⟨_, rfl⟩ | ⟨_, rfl⟩
      · dsimp only [evWaitParmCnf] at hc
        split_ifs at hc <;> cases hc
      all_goals cases hc
    · rw [h] at hc ⊢
      exact ⟨rfl, Or.inl hc⟩

theorem evStep_of_confirmed (hev : p.ctx.isEv = true) (hc : p.ctx.state.confirmed = true)
    (hok : (slacStep env recv p).party.ctx.state ≠ .evFailed) :
    (slacStep env recv p).party.ctx.state.confirmed = true := by
  cases hw : waitOf p.ctx.isEv p.ctx.state with
  | none =>
    rw [slacStep_of_send hw, slacSend_ev hev]
    rcases evSend_cases env p.ctx p.statics.evseMac with h | ⟨_, hsame, _⟩
    · rw [h]
      exact hc
    · exact hsame.trans hc
  | some w =>
    rw [slacStep_of_wait hw] at hok ⊢
    rw [hev] at hw
    rcases w.run_cases env recv p.ctx p.statics with ⟨frame, _, _, h⟩ | ⟨_, h⟩ | h
    · rw [h] at hok ⊢
      rcases waitOf_ev hw with ⟨_, rfl⟩ | ⟨_, rfl⟩ | ⟨_, rfl⟩ | ⟨_, rfl⟩
      case inr.inr.inl =>
        dsimp only [evWaitValidateCnf] at hok ⊢
        split_ifs at hok ⊢
        · rfl
        · exact absurd rfl hok
      all_goals rfl
    · rw [h] at hok
      rcases waitOf_ev hw with ⟨hs, rfl⟩ | ⟨_, rfl⟩ | ⟨_, rfl⟩ | ⟨_, rfl⟩
      · rw [hs] at hc
        cases hc
      all_goals exact absurd rfl hok
    · rw [h]
      exact hc

theorem evStep_of_parmCnf (hev : p.ctx.isEv = true) (hs : p.ctx.state = .evWaitParmCnf)
    {frame : List Byte} (htype : frameType frame = some mmeCmSlacParmCnf) :
    (slacStep env (some frame) p).party.ctx.state.confirmed = true := by
  have hw : waitOf p.ctx.isEv p.ctx.state = some evWaitParmCnf := by
    rw [hev, hs]
    rfl
  have ha : (recvFrame p.statics.buf (some frame)).1 = some evWaitParmCnf.awaited := by
    rw [recvFrame_some]
    exact htype
  rw [slacStep_of_wait hw, Wait.run, if_pos ha]
  rfl

theorem evseStep_runId (hevse : p.ctx.isEv = false) (hs : p.ctx.state ≠ .evseWaitParmReq) :
    (slacStep env recv p).party.ctx.state ≠ .evseWaitParmReq ∧
      (slacStep env recv p).party.statics.runId = p.statics.runId := by
  cases hw : waitOf p.ctx.isEv p.ctx.state with
  | none =>
    rw [slacStep_of_send hw, slacSend_evse hevse]
    refine ⟨?_, rfl⟩
    change (evseSend env p.ctx p.statics.evMac p.statics.runId).1.state ≠ _
    unfold evseSend
    split
    · simp
    · simp
    · simp
    · simp [evseSendMatchCnf]
    · exact hs
  | some w =>
    rw [slacStep_of_wait hw]
    rw [hevse] at hw
    rcases w.run_cases env recv p.ctx p.statics with ⟨frame, _, _, h⟩ | ⟨_, h⟩ | h
    · rw [h]
      -- only a request is stored, and the EVSE has one already
      rcases waitOf_evse hw with
        ⟨hq, rfl⟩ | ⟨_, rfl⟩ | ⟨hq, rfl⟩ | ⟨_, rfl⟩ | ⟨_, rfl⟩ | ⟨_, rfl⟩
      · exact absurd hq hs
      case inr.inr.inl =>
        refine ⟨?_, rfl⟩
        dsimp only [evseCollectSounds]
        split_ifs
        · simp
        · exact hs
      all_goals exact ⟨by simp [evseWaitStartAtten, evseWaitAttenRsp, evseWaitValidateReq,
        evseWaitMatchReq], rfl⟩
    · rw [h]
      refine ⟨?_, rfl⟩
      rcases waitOf_evse hw with
        ⟨hq, rfl⟩ | ⟨_, rfl⟩ | ⟨_, rfl⟩ | ⟨_, rfl⟩ | ⟨_, rfl⟩ | ⟨_, rfl⟩
      · exact absurd hq hs
      case inr.inr.inl =>
        dsimp only [evseCollectSounds]
        split_ifs <;> simp
      all_goals exact SlacState.noConfusion
    · rw [h]
      exact ⟨hs, rfl⟩

end party

/-- A confirmation that the EV takes is one to the request whose run id it holds. -/
def OwnConfirmation (p : Bool → SlacParty) (r : Bool) (recv : Option (List Byte)) : Prop :=
  r = true → (p true).ctx.state = .evWaitParmCnf → ∀ frame ∈ recv,
    frameType frame = some mmeCmSlacParmCnf → parmCnfRunId frame = (p true).ctx.runId

instance (p : Bool → SlacParty) (r : Bool) (recv : Option (List Byte)) :
    Decidable (OwnConfirmation p r recv) := by
  unfold OwnConfirmation
  infer_instance

/-- The EVSE has a request, and this is its run id. -/
def Requested (evse : SlacParty) (runId : Octets 8) : Prop :=
  evse.ctx.state ≠ .evseWaitParmReq ∧ runId = evse.statics.runId

theorem Requested.step {evse : SlacParty} {runId : Octets 8} (h : Requested evse runId)
    (hevse : evse.ctx.isEv = false) (env : SlacEnv) (recv : Option (List Byte)) :
    Requested (slacStep env recv evse).party runId := by
  have hstep := @evseStep_runId env evse recv hevse h.1
  exact ⟨hstep.1, h.2.trans hstep.2.symm⟩

/-- Every confirmation carries the run id of the one request the EVSE takes, and an EV past its
request has an EVSE that has taken one. -/
def confirmations : Invariant slacProtocol where
  Parties p := (∀ r, (p r).ctx.isEv = r) ∧
    ((p true).ctx.state.confirmed = true → (p false).ctx.state ≠ .evseWaitParmReq)
  Msg p r frame := r = true → frameType frame = some mmeCmSlacParmCnf →
    Requested (p false) (parmCnfRunId frame)
  parties_step := by
    intro p r env recv ⟨hrole, hconf⟩ _ hmsg
    refine ⟨role_update hrole r env recv, ?_⟩
    intro hc
    cases r with
    | true =>
      rw [Function.update_self] at hc
      rw [Function.update_of_ne (by decide)]
      rcases evStep_confirmed (hrole true) hc with ⟨_, hold | ⟨_, frame, rfl, htype⟩⟩
      · exact hconf hold
      · exact (hmsg frame rfl rfl htype).1
    | false =>
      rw [Function.update_of_ne (by decide)] at hc
      rw [Function.update_self]
      exact (evseStep_runId (hrole false) (hconf hc)).1
  msg_stable := by
    intro p r env recv q frame ⟨hrole, _⟩ _ hmsg hq htype
    cases r with
    | true =>
      rw [Function.update_of_ne (by decide)]
      exact hmsg hq htype
    | false =>
      rw [Function.update_self]
      exact (hmsg hq htype).step (hrole false) env recv
  msg_sent := by
    intro p r env recv ⟨hrole, _⟩ _ frame hframe hr htype
    cases r with
    | true => cases hr
    | false =>
      rw [Function.update_self]
      rcases evseStep_sent (hrole false) hframe with ⟨hs, rfl⟩ | h | h | ⟨nmk, nid, rfl, _⟩
      · rw [parmCnfRunId_cmSlacParmCnf]
        have hreq : Requested (p false) (p false).statics.runId := ⟨by rw [hs]; simp, rfl⟩
        exact hreq.step (hrole false) env recv
      · rw [h] at htype
        cases htype
      · rw [h] at htype
        cases htype
      · rw [frameType_cmSlacMatchCnf] at htype
        cases htype

/-- An EV past its request holds the run id of the EVSE. -/
def SameRunId (p : Bool → SlacParty) : Prop :=
  (p true).ctx.state.confirmed = true → (p true).ctx.runId = (p false).statics.runId

/-- Step lemma for the EV: unless it fails, the run ids agree after a step exactly if they did
before and no confirmation of another run was taken. -/
theorem sameRunId_evStep {p : Bool → SlacParty} (hp : confirmations.Parties p) {env : SlacEnv}
    {recv : Option (List Byte)} (hmsg : ∀ frame ∈ recv, confirmations.Msg p true frame)
    (hok : (slacStep env recv (p true)).party.ctx.state ≠ .evFailed) :
    SameRunId (Function.update p true (slacStep env recv (p true)).party) ↔
      OwnConfirmation p true recv ∧ SameRunId p := by
  unfold SameRunId
  rw [Function.update_self, Function.update_of_ne (by decide)]
  by_cases hc : (p true).ctx.state.confirmed = true
  · have hu := evStep_of_confirmed (hp.1 true) hc hok
    have hid := (evStep_confirmed (hp.1 true) hu).1
    rw [hid]
    refine ⟨fun h => ⟨?_, fun _ => h hu⟩, fun h _ => h.2 hc⟩
    intro _ hs
    rw [hs] at hc
    cases hc
  · by_cases ht : (p true).ctx.state = .evWaitParmCnf ∧
        ∃ frame, recv = some frame ∧ frameType frame = some mmeCmSlacParmCnf
    · -- the run ids meet here: the frame has the EVSE's, the context the EV's
      rcases ht with ⟨hs, frame, rfl, htype⟩
      have hu := @evStep_of_parmCnf env (p true) (hp.1 true) hs frame htype
      have hid := (evStep_confirmed (hp.1 true) hu).1
      have hfrom := (hmsg frame rfl rfl htype).2
      rw [hid]
      constructor
      · intro h
        refine ⟨?_, fun h' => absurd h' hc⟩
        rintro _ _ _ ⟨⟩ _
        exact hfrom.trans (h hu).symm
      · intro h _
        exact (h.1 rfl hs frame rfl htype).symm.trans hfrom
    · refine ⟨fun _ => ⟨?_, fun h => absurd h hc⟩, fun _ hu => ?_⟩
      · intro _ hs frame hframe htype
        exact absurd ⟨hs, frame, hframe, htype⟩ ht
      · rcases (evStep_confirmed (hp.1 true) hu).2 with hold | htaken
        · exact absurd hold hc
        · exact absurd htaken ht

theorem sameRunId_act {s t : SlacJoint} {a : Action SlacEnv} (hs : confirmations.Holds s)
    (hact : act slacProtocol s a = some t) (hok : (t.party true).ctx.state ≠ .evFailed) :
    SameRunId t.party ↔ Steps OwnConfirmation s a ∧ SameRunId s.party := by
  rcases act_cases hact with ⟨hf, hC⟩ | ⟨r, env, k, rfl, hst⟩
  · rw [hf.party]
    exact ⟨fun h => ⟨hC _, h⟩, And.right⟩
  · rw [hst.party] at hok ⊢
    cases r with
    | true =>
      rw [Function.update_self] at hok
      exact sameRunId_evStep hs.parties (fun m hm => hs.msg true m (hst.fromInbox m hm)) hok
    | false =>
      have htrivial : Steps OwnConfirmation s (.step false env k) := fun h => by cases h
      have hid := fun hc => (@evseStep_runId env (s.party false) (received s (.step false env k))
        (hs.parties.1 false) (hs.parties.2 hc)).2
      unfold SameRunId
      rw [Function.update_self, Function.update_of_ne (by decide)]
      exact ⟨fun h => ⟨htrivial, fun hc => (h hc).trans (hid hc)⟩,
        fun h hc => (h.2 hc).trans (hid hc).symm⟩

theorem evFailed_act {s t : SlacJoint} {a : Action SlacEnv} (hact : act slacProtocol s a = some t)
    (h : (s.party true).ctx.state = .evFailed) : (t.party true).ctx.state = .evFailed := by
  rcases act_cases hact with ⟨hf, -⟩ | ⟨r, env, k, rfl, hst⟩
  · rw [hf.party, h]
  · rw [hst.party]
    cases r with
    | true =>
      have hrunning : (s.party true).ctx.state.terminal = false := hst.running
      rw [h] at hrunning
      cases hrunning
    | false => rw [Function.update_of_ne (by decide), h]

/-- A matched EV and its EVSE hold the same run id exactly in the runs in which the EV took no
confirmation of an earlier request. -/
theorem matched_runIds_agree_iff {ctx : Bool → SlacContext} (hrole : ∀ r, (ctx r).isEv = r)
    {statics : Bool → SlacStatics} {as : List (Action SlacEnv)} {s : SlacJoint}
    (hrun : Transition.run (act slacProtocol) (slacStart ctx statics) as = some s)
    (hm : (s.party true).ctx.state = .evMatched) :
    (s.party true).ctx.runId = (s.party false).statics.runId ↔
      Transition.Along (act slacProtocol) (Steps OwnConfirmation) (slacStart ctx statics) as := by
  have hnew : (slacStart ctx statics).party true = ⟨slacRunStart (ctx true), statics true⟩ := rfl
  rw [slacRunStart_ev (hrole true)] at hnew
  have hnot : ((slacStart ctx statics).party true).ctx.state.confirmed ≠ true := by
    rw [hnew]
    simp [SlacState.confirmed]
  have hstart : confirmations.Holds (slacStart ctx statics) :=
    confirmations.holds_of_empty ⟨slacStart_role hrole statics, fun h => absurd h hnot⟩
      fun _ => rfl
  have hiff := (Transition.along_iff
    (A := fun s : SlacJoint => (s.party true).ctx.state ≠ .evFailed)
    (B := confirmations.Holds) (I := fun s => SameRunId s.party) (C := Steps OwnConfirmation)
    (fun _ _ _ h hact => confirmations.act h hact)
    (fun _ _ _ _ hact ht h => ht (evFailed_act hact h))
    (fun _ _ _ h hact ht => sameRunId_act h hact ht) hstart hrun (by rw [hm]; simp)).2
  have hend : SameRunId s.party ↔ (s.party true).ctx.runId = (s.party false).statics.runId := by
    unfold SameRunId
    rw [hm]
    exact ⟨fun h => h rfl, fun h _ => h⟩
  rw [← hend, hiff]
  exact ⟨And.left, fun h => ⟨h, fun hc => absurd hc hnot⟩⟩

theorem matched_runIds_agree_iff_retried :
    ∃ s, Transition.run (act slacProtocol) (slacStart twoStations fun _ => .zero) retriedRun =
        some s ∧
      (s.party true).ctx.state = .evMatched ∧
      (s.party true).ctx.runId = (s.party false).statics.runId := by
  have hown : Transition.Along (act slacProtocol) (Steps OwnConfirmation)
      (slacStart twoStations fun _ => .zero) retriedRun := by decide +kernel
  rcases retriedRun_matched with ⟨s, hs, hm⟩
  exact ⟨s, hs, hm, (matched_runIds_agree_iff (fun _ => rfl) hs hm).mpr hown⟩

/-- Nothing is lost, duplicated or reordered, both are matched, and the run ids differ. -/
theorem matched_runIds_differ_lateConfirmation :
    lateConfirmationRun.all Action.inOrder = true ∧
    ∃ s, Transition.run (act slacProtocol) (slacStart twoStations fun _ => .zero)
        lateConfirmationRun = some s ∧
      (s.party true).ctx.state = .evMatched ∧ (s.party false).ctx.state = .evseMatched ∧
      (s.party true).ctx.runId ≠ (s.party false).statics.runId := by
  have hrun : ∃ s ∈ Transition.run (act slacProtocol) (slacStart twoStations fun _ => .zero)
      lateConfirmationRun, (s.party true).ctx.state = .evMatched ∧
        (s.party false).ctx.state = .evseMatched ∧
        (s.party true).ctx.runId ≠ (s.party false).statics.runId := by decide +kernel
  exact ⟨by decide, hrun⟩

end EvseIso15118
