import EvseIso15118.Dialogue
import EvseIso15118.SlacPhases

namespace EvseIso15118

open Network

@[simp] theorem frameType_cmSlacParmReq (localMac : Mac) (runId : Octets 8) :
    frameType (cmSlacParmReq localMac runId) = some mmeCmSlacParmReq := by
  simp only [cmSlacParmReq, List.append_assoc]
  exact frameType_buildHdr _ _ _ _

@[simp] theorem frameType_cmStartAttenInd (localMac : Mac) (runId : Octets 8) :
    frameType (cmStartAttenInd localMac runId) = some mmeCmStartAttenInd := by
  simp only [cmStartAttenInd, List.append_assoc]
  exact frameType_buildHdr _ _ _ _

@[simp] theorem frameType_cmMnbcSoundInd (localMac : Mac) (runId : Octets 8) (cnt : Byte) :
    frameType (cmMnbcSoundInd localMac runId cnt) = some mmeCmMnbcSoundInd := by
  simp only [cmMnbcSoundInd, List.append_assoc]
  exact frameType_buildHdr _ _ _ _

@[simp] theorem frameType_cmAttenCharRsp (evseMac localMac : Mac) (runId : Octets 8) :
    frameType (cmAttenCharRsp evseMac localMac runId) = some mmeCmAttenCharRsp := by
  simp only [cmAttenCharRsp, List.append_assoc]
  exact frameType_buildHdr _ _ _ _

@[simp] theorem frameType_cmValidateReq (evseMac localMac : Mac) :
    frameType (cmValidateReq evseMac localMac) = some mmeCmValidateReq :=
  frameType_buildHdr _ _ _ _

@[simp] theorem frameType_cmSlacMatchReq (evseMac localMac : Mac) (runId : Octets 8) :
    frameType (cmSlacMatchReq evseMac localMac runId) = some mmeCmSlacMatchReq := by
  simp only [cmSlacMatchReq, List.append_assoc]
  exact frameType_buildHdr _ _ _ _

theorem runId_of_cmSlacParmReq (localMac : Mac) (runId : Octets 8) (buf : Octets 2048) :
    field (recvInto buf (cmSlacParmReq localMac runId)) 20 8 = runId := by
  rw [cmSlacParmReq]
  apply field_recvInto
  · simp
  · decide

theorem hasResult_cmValidateCnf (evMac localMac : Mac) :
    HasResult (cmValidateCnf evMac localMac) 0x00 := by
  constructor
  · simp [cmValidateCnf]
  · rw [cmValidateCnf, byteAt_append_right _ (by simp), buildHdr_length]
    rfl

open Dialogue

/-- What the EV sends and receives in a match. -/
def evScript : List (Act UInt16) :=
  [.send mmeCmSlacParmReq, .recv mmeCmSlacParmCnf, .send mmeCmStartAttenInd] ++
    sends (List.replicate numSounds mmeCmMnbcSoundInd) ++
    [.recv mmeCmAttenCharInd, .send mmeCmAttenCharRsp, .send mmeCmValidateReq,
      .recv mmeCmValidateCnf, .send mmeCmSlacMatchReq, .recv mmeCmSlacMatchCnf]

def evseScript : List (Act UInt16) := dual evScript

/-- What a party has still to send and to receive; none if it is not in a match. -/
def SlacContext.script (ctx : SlacContext) : Option (List (Act UInt16)) :=
  match ctx.isEv, ctx.state with
  | true, .evSendParmReq => some evScript
  | true, .evWaitParmCnf => some (evScript.drop 1)
  | true, .evSendStartAtten => some (evScript.drop 2)
  | true, .evSendMnbcSounds => some (evScript.drop 3)
  | true, .evWaitAttenChar => some (evScript.drop 13)
  | true, .evSendAttenRsp => some (evScript.drop 14)
  | true, .evSendValidate => some (evScript.drop 15)
  | true, .evWaitValidateCnf => some (evScript.drop 16)
  | true, .evSendMatchReq => some (evScript.drop 17)
  | true, .evWaitMatchCnf => some (evScript.drop 18)
  | true, .evMatched => some []
  | false, .evseWaitParmReq => some evseScript
  | false, .evseSendParmCnf => some (evseScript.drop 1)
  | false, .evseWaitStartAtten => some (evseScript.drop 2)
  | false, .evseCollectSounds =>
    -- with the tenth sound the EVSE leaves this state
    if ctx.soundCount.toNat < numSounds then some (evseScript.drop (3 + ctx.soundCount.toNat))
    else none
  | false, .evseSendAttenChar => some (evseScript.drop 13)
  | false, .evseWaitAttenRsp => some (evseScript.drop 14)
  | false, .evseWaitValidateReq => some (evseScript.drop 15)
  | false, .evseSendValidateCnf => some (evseScript.drop 16)
  | false, .evseWaitMatchReq => some (evseScript.drop 17)
  | false, .evseSendMatchCnf => some (evseScript.drop 18)
  | false, .evseMatched => some []
  | _, _ => none

theorem script_collecting {ctx : SlacContext} (hevse : ctx.isEv = false)
    (hs : ctx.state = .evseCollectSounds) (h : ctx.soundCount.toNat < numSounds) :
    ctx.script = some (evseScript.drop (3 + ctx.soundCount.toNat)) := by
  rw [SlacContext.script, hevse, hs]
  exact if_pos h

theorem evseScript_sound {n : ℕ} (h : n < numSounds) :
    evseScript.drop (3 + n) = .recv mmeCmMnbcSoundInd :: evseScript.drop (3 + (n + 1)) := by
  have hall : ∀ n < 10, evseScript.drop (3 + n) =
      .recv mmeCmMnbcSoundInd :: evseScript.drop (3 + (n + 1)) := by decide
  exact hall n h

section party
variable {env : SlacEnv} {p : SlacParty} {w : Wait} {l : List (Act UInt16)}

theorem evSendMnbcSounds_of_send (hsend : ∀ i < numSounds, env.send i = true)
    (ctx : SlacContext) :
    (evSendMnbcSounds env ctx).map frameType =
      (List.replicate numSounds mmeCmMnbcSoundInd).map some := by
  have hall : (List.range numSounds).takeWhile env.send = List.range numSounds := by
    rw [List.takeWhile_eq_self_iff]
    intro i hi
    exact hsend i (List.mem_range.mp hi)
  rw [evSendMnbcSounds, hall, List.map_map]
  simp [Function.comp_def, List.map_const']

theorem sendFrame_of_send (hsend : ∀ i < numSounds, env.send i = true) (frame : List Byte) :
    sendFrame env frame = [frame] := if_pos (hsend 0 (by decide))

/-- What goes out is the beginning of the script, and the rest is the script after it. -/
def SendsScript (l : List (Act UInt16)) (out : SlacContext × List (List Byte)) : Prop :=
  ∃ ts rest, out.2.map frameType = ts.map some ∧ l = sends ts ++ rest ∧ out.1.script = some rest

section send
variable {ctx : SlacContext} (hsend : ∀ i < numSounds, env.send i = true)
include hsend

theorem evSend_script (hr : ctx.isEv = true) (hw : waitOf true ctx.state = none)
    (hs : ctx.script = some l) (evseMac : Mac) : SendsScript l (evSend env ctx evseMac) := by
  have hone := sendFrame_of_send hsend
  have hfirst := hsend 0 (by decide)
  cases hstate : ctx.state <;> rw [hstate] at hw <;>
    simp only [SlacContext.script, hr, hstate, Option.some_inj, reduceCtorEq] at hs <;>
    simp only [evSend, hstate]
  case evSendParmReq =>
    refine ⟨[mmeCmSlacParmReq], evScript.drop 1, ?_, hs.symm, ?_⟩
    · simp [evSendParmReq, hfirst, hone]
    · simp [evSendParmReq, hfirst, SlacContext.script, hr]
  case evSendStartAtten =>
    exact ⟨[mmeCmStartAttenInd], evScript.drop 3, by simp [hone], hs.symm,
      by simp [SlacContext.script, hr]⟩
  case evSendMnbcSounds =>
    exact ⟨List.replicate numSounds mmeCmMnbcSoundInd, evScript.drop 13,
      evSendMnbcSounds_of_send hsend ctx, hs.symm, by simp [SlacContext.script, hr]⟩
  case evSendAttenRsp =>
    exact ⟨[mmeCmAttenCharRsp], evScript.drop 15, by simp [hone], hs.symm,
      by simp [SlacContext.script, hr]⟩
  case evSendValidate =>
    exact ⟨[mmeCmValidateReq], evScript.drop 16, by simp [hone], hs.symm,
      by simp [SlacContext.script, hr]⟩
  case evSendMatchReq =>
    exact ⟨[mmeCmSlacMatchReq], evScript.drop 18, by simp [hone], hs.symm,
      by simp [SlacContext.script, hr]⟩
  case evMatched =>
    exact ⟨[], [], rfl, hs.symm, by simp [SlacContext.script, hr, hstate]⟩
  -- the others wait
  all_goals cases hw

theorem evseSend_script (hr : ctx.isEv = false) (hw : waitOf false ctx.state = none)
    (hs : ctx.script = some l) (evMac : Mac) (runId : Octets 8) :
    SendsScript l (evseSend env ctx evMac runId) := by
  have hone := sendFrame_of_send hsend
  cases hstate : ctx.state <;> rw [hstate] at hw <;>
    simp only [SlacContext.script, hr, hstate, Option.some_inj, reduceCtorEq] at hs <;>
    simp only [evseSend, hstate]
  case evseSendParmCnf =>
    exact ⟨[mmeCmSlacParmCnf], evseScript.drop 2, by simp [hone], hs.symm,
      by simp [SlacContext.script, hr]⟩
  case evseSendAttenChar =>
    exact ⟨[mmeCmAttenCharInd], evseScript.drop 14, by simp [hone], hs.symm,
      by simp [SlacContext.script, hr]⟩
  case evseSendValidateCnf =>
    exact ⟨[mmeCmValidateCnf], evseScript.drop 17, by simp [hone], hs.symm,
      by simp [SlacContext.script, hr]⟩
  case evseSendMatchCnf =>
    exact ⟨[mmeCmSlacMatchCnf], [], by simp [evseSendMatchCnf, hone], hs.symm,
      by simp [evseSendMatchCnf, SlacContext.script, hr]⟩
  case evseMatched =>
    exact ⟨[], [], rfl, hs.symm, by simp [SlacContext.script, hr, hstate]⟩
  -- the others wait
  all_goals cases hw

theorem slacSend_script (hw : waitOf p.ctx.isEv p.ctx.state = none) (hs : p.ctx.script = some l) :
    SendsScript l (slacSend env p) := by
  cases hr : p.ctx.isEv with
  | true =>
    rw [slacSend_ev hr]
    rw [hr] at hw
    exact evSend_script hsend hr hw hs p.statics.evseMac
  | false =>
    rw [slacSend_evse hr]
    rw [hr] at hw
    exact evseSend_script hsend hr hw hs p.statics.evMac p.statics.runId

end send

section accept
variable {ctx : SlacContext}

theorem evAccept_script (hr : ctx.isEv = true) (hw : waitOf true ctx.state = some w)
    (hs : ctx.script = some l) {frame : List Byte} (htype : frameType frame = some w.awaited)
    (hres : frameType frame = some mmeCmValidateCnf → HasResult frame 0x00) (st : SlacStatics) :
    ∃ rest, l = .recv w.awaited :: rest ∧
      (w.accept env ctx { st with buf := recvInto st.buf frame }).1.script = some rest := by
  rcases waitOf_ev hw with ⟨hstate, rfl⟩ | ⟨hstate, rfl⟩ | ⟨hstate, rfl⟩ | ⟨hstate, rfl⟩ <;>
    simp only [SlacContext.script, hr, hstate, Option.some_inj] at hs
  · exact ⟨evScript.drop 2, hs.symm, by simp [evWaitParmCnf, SlacContext.script, hr]⟩
  · exact ⟨evScript.drop 14, hs.symm, by simp [evWaitAttenChar, SlacContext.script, hr]⟩
  · -- with another result the EV would fail
    have h20 := hres htype
    refine ⟨evScript.drop 17, hs.symm, ?_⟩
    simp [evWaitValidateCnf, octetAt_recvInto h20.1 (by decide), h20.2, SlacContext.script, hr]
  · exact ⟨[], hs.symm, by simp [evWaitMatchCnf, SlacContext.script, hr]⟩

theorem evseCollectSounds_script (hr : ctx.isEv = false) (hstate : ctx.state = .evseCollectSounds)
    (hlt : ctx.soundCount.toNat < numSounds) (st : SlacStatics) :
    (evseCollectSounds.accept env ctx st).1.script =
      some (evseScript.drop (3 + (ctx.soundCount.toNat + 1))) := by
  by_cases hten : 10 ≤ ctx.soundCount + 1
  · rw [(UInt8.ten_le_succ_iff hlt).mp hten]
    simp [evseCollectSounds, hten, SlacContext.script, hr]
    rfl
  · rw [← UInt8.toNat_succ hlt]
    apply script_collecting
    · exact hr
    · exact (if_neg hten).trans hstate
    · rw [UInt8.ten_le_succ_iff hlt] at hten
      change (ctx.soundCount + 1).toNat < numSounds
      rw [UInt8.toNat_succ hlt]
      omega

theorem evseAccept_script (hr : ctx.isEv = false) (hw : waitOf false ctx.state = some w)
    (hs : ctx.script = some l) (st : SlacStatics) :
    ∃ rest, l = .recv w.awaited :: rest ∧ (w.accept env ctx st).1.script = some rest := by
  rcases waitOf_evse hw with ⟨hstate, rfl⟩ | ⟨hstate, rfl⟩ | ⟨hstate, rfl⟩ | ⟨hstate, rfl⟩ |
      ⟨hstate, rfl⟩ | ⟨hstate, rfl⟩ <;>
    simp only [SlacContext.script, hr, hstate, Option.some_inj] at hs
  · exact ⟨evseScript.drop 1, hs.symm, by simp [evseWaitParmReq, SlacContext.script, hr]⟩
  · refine ⟨evseScript.drop 3, hs.symm, script_collecting ?_ rfl ?_⟩
    · exact hr
    · exact Nat.succ_pos 9
  · split_ifs at hs with hlt
    rw [Option.some_inj] at hs
    refine ⟨_, ?_, evseCollectSounds_script hr hstate hlt st⟩
    rw [← hs]
    exact evseScript_sound hlt
  · exact ⟨evseScript.drop 15, hs.symm, by simp [evseWaitAttenRsp, SlacContext.script, hr]⟩
  · exact ⟨evseScript.drop 16, hs.symm, by simp [evseWaitValidateReq, SlacContext.script, hr]⟩
  · exact ⟨evseScript.drop 18, hs.symm, by simp [evseWaitMatchReq, SlacContext.script, hr]⟩

end accept

variable (env) in
theorem slacStep_script_of_recv (hw : waitOf p.ctx.isEv p.ctx.state = some w)
    (hs : p.ctx.script = some l) {frame : List Byte} (htype : frameType frame = some w.awaited)
    (hres : p.ctx.isEv = true → frameType frame = some mmeCmValidateCnf → HasResult frame 0x00) :
    ∃ rest, l = .recv w.awaited :: rest ∧
      (slacStep env (some frame) p).party.ctx.script = some rest := by
  have hstep : (slacStep env (some frame) p).party = _ := stepOver_accept hw htype p.statics.buf
  rw [hstep]
  cases hr : p.ctx.isEv with
  | true =>
    rw [hr] at hw
    exact evAccept_script hr hw hs htype (hres hr) p.statics
  | false =>
    rw [hr] at hw
    exact evseAccept_script hr hw hs _

theorem slacStep_kept_of_none (hw : waitOf p.ctx.isEv p.ctx.state = some w)
    (htime : InTime env p) : (slacStep env none p).party.kept = p.kept := by
  rw [slacStep_kept_of_ignored hw (by simp), htime w hw, if_neg (by simp)]
  rfl

end party

section sent
variable {env : SlacEnv} {p : SlacParty} {recv : Option (List Byte)} {frame : List Byte}

theorem evStep_sent (hev : p.ctx.isEv = true) (hf : frame ∈ (slacStep env recv p).sent) :
    (p.ctx.state = .evSendParmReq ∧
        frame = cmSlacParmReq p.ctx.localMac (slacStep env recv p).party.ctx.runId) ∨
      frameType frame ≠ some mmeCmSlacParmReq := by
  cases hw : waitOf p.ctx.isEv p.ctx.state with
  | some w =>
    rw [slacStep_of_wait hw] at hf
    cases hf
  | none =>
    rw [slacStep_of_send hw, slacSend_ev hev] at hf ⊢
    unfold evSend at hf ⊢
    split at hf
    case h_1 hs =>
      left
      refine ⟨hs, ?_⟩
      dsimp only [evSendParmReq] at hf ⊢
      split_ifs at hf ⊢ <;> exact eq_of_mem_sendFrame hf
    case h_3 =>
      right
      rcases List.mem_map.mp hf with ⟨i, _, rfl⟩
      rw [frameType_cmMnbcSoundInd]
      decide
    case h_7 => cases hf
    all_goals
      right
      rw [eq_of_mem_sendFrame hf]
      simp only [frameType_cmStartAttenInd, frameType_cmAttenCharRsp, frameType_cmValidateReq,
        frameType_cmSlacMatchReq]
      decide

theorem evseStep_sent_result (hevse : p.ctx.isEv = false)
    (hf : frame ∈ (slacStep env recv p).sent) (ht : frameType frame = some mmeCmValidateCnf) :
    HasResult frame 0x00 := by
  cases hw : waitOf p.ctx.isEv p.ctx.state with
  | some w =>
    rw [slacStep_of_wait hw] at hf
    cases hf
  | none =>
    rw [slacStep_of_send hw, slacSend_evse hevse] at hf
    unfold evseSend at hf
    split at hf
    case h_3 =>
      rw [eq_of_mem_sendFrame hf]
      exact hasResult_cmValidateCnf _ _
    case h_5 => cases hf
    all_goals
      rw [eq_of_mem_sendFrame hf] at ht
      simp only [frameType_cmSlacParmCnf, frameType_cmAttenCharInd, frameType_cmSlacMatchCnf] at ht
      cases ht

end sent

def SlacState.isSend : SlacState → Bool
  | .evSendParmReq | .evSendStartAtten | .evSendMnbcSounds | .evSendAttenRsp | .evSendValidate
  | .evSendMatchReq | .evseSendParmCnf | .evseSendAttenChar | .evseSendValidateCnf
  | .evseSendMatchCnf => true
  | _ => false

section script
variable {ctx : SlacContext}

theorem script_of_wait {w : Wait} {l : List (Act UInt16)} (hw : waitOf ctx.isEv ctx.state = some w)
    (hs : ctx.script = some l) : ∃ rest, l = .recv w.awaited :: rest := by
  cases hr : ctx.isEv with
  | true =>
    rw [hr] at hw
    rcases waitOf_ev hw with ⟨hstate, rfl⟩ | ⟨hstate, rfl⟩ | ⟨hstate, rfl⟩ | ⟨hstate, rfl⟩
    all_goals
      simp only [SlacContext.script, hr, hstate, Option.some_inj] at hs
      exact ⟨_, hs.symm⟩
  | false =>
    rw [hr] at hw
    rcases waitOf_evse hw with
      ⟨hstate, rfl⟩ | ⟨hstate, rfl⟩ | ⟨hstate, rfl⟩ | ⟨hstate, rfl⟩ | ⟨hstate, rfl⟩ | ⟨hstate, rfl⟩
    case inr.inr.inl =>
      simp only [SlacContext.script, hr, hstate] at hs
      split_ifs at hs with hlt
      rw [Option.some_inj] at hs
      exact ⟨_, hs.symm.trans (evseScript_sound hlt)⟩
    all_goals
      simp only [SlacContext.script, hr, hstate, Option.some_inj] at hs
      exact ⟨_, hs.symm⟩

theorem script_cases {l : List (Act UInt16)} (hs : ctx.script = some l) :
    (ctx.state.terminal = true ∧ l = []) ∨
      (ctx.state.isSend = true ∧ ∃ t rest, l = .send t :: rest) ∨
      ∃ w rest, waitOf ctx.isEv ctx.state = some w ∧ l = .recv w.awaited :: rest := by
  cases hw : waitOf ctx.isEv ctx.state with
  | some w =>
    rcases script_of_wait hw hs with ⟨rest, hl⟩
    exact Or.inr (Or.inr ⟨w, rest, rfl, hl⟩)
  | none =>
    cases hr : ctx.isEv <;> cases hstate : ctx.state <;> rw [hr, hstate] at hw <;>
      simp only [SlacContext.script, hr, hstate, Option.some_inj, reduceCtorEq] at hs
    case true.evMatched | false.evseMatched => exact Or.inl ⟨rfl, hs.symm⟩
    case true.evSendParmReq | true.evSendStartAtten | true.evSendMnbcSounds | true.evSendAttenRsp
        | true.evSendValidate | true.evSendMatchReq | false.evseSendParmCnf
        | false.evseSendAttenChar | false.evseSendValidateCnf | false.evseSendMatchCnf =>
      exact Or.inr (Or.inl ⟨rfl, _, _, hs.symm⟩)
    all_goals cases hw

end script

instance (env : SlacEnv) (p : SlacParty) : Decidable (InTime env p) :=
  decidable_of_iff (∀ w ∈ waitOf p.ctx.isEv p.ctx.state, w.expired env p.ctx = false) Iff.rfl

/-- A party takes the first frame on its way or none, what it sends gets through, and its time
limit has not passed. -/
def Reliable (s : SlacJoint) : Action SlacEnv → Prop
  | .step r env recv =>
    (recv = none ∨ recv = some 0) ∧ (∀ i < numSounds, env.send i = true) ∧ InTime env (s.party r)
  | _ => False

instance (s : SlacJoint) (a : Action SlacEnv) : Decidable (Reliable s a) := by
  cases a <;> unfold Reliable <;> infer_instance

theorem reliable_cases {s t : SlacJoint} {a : Action SlacEnv} (hrel : Reliable s a)
    (hact : act slacProtocol s a = some t) :
    ∃ r env, (∀ i < numSounds, env.send i = true) ∧ InTime env (s.party r) ∧
      (t = s.after r (slacProtocol.step env none (s.party r)) (s.inbox r) ∨
        ∃ w frame rest, waitOf (s.party r).ctx.isEv (s.party r).ctx.state = some w ∧
          s.inbox r = frame :: rest ∧
          t = s.after r (slacProtocol.step env (some frame) (s.party r)) rest) := by
  cases a with
  | step r env recv =>
    rcases hrel with ⟨hrecv, hsend, htime⟩
    refine ⟨r, env, hsend, htime, ?_⟩
    rcases hrecv with rfl | rfl
    · rw [act] at hact
      split_ifs at hact
      cases hact
      exact Or.inl rfl
    · rw [act] at hact
      split_ifs at hact with hh
      rcases Option.map_eq_some_iff.mp hact with ⟨frame, hframe, rfl⟩
      rw [Bool.or_eq_true, not_or, Bool.not_eq_true, Bool.not_eq_true, Bool.not_eq_false'] at hh
      rcases Option.isSome_iff_exists.mp hh.2 with ⟨w, hw⟩
      cases hin : s.inbox r with
      | nil =>
        rw [hin] at hframe
        cases hframe
      | cons frame' rest =>
        rw [hin] at hframe
        cases hframe
        exact Or.inr ⟨w, frame, rest, hw, rfl, rfl⟩
  | lose r k => cases hrel
  | duplicate r k => cases hrel

/-- The scripts of the two parties are aligned over the types of the frames on the way, and each
CM_VALIDATE.CNF on the way has result 0. -/
structure InDialogue (s : SlacJoint) : Prop where
  role : ∀ r, (s.party r).ctx.isEv = r
  aligned : ∃ d : Dialogue.State UInt16, d.Aligned ∧
    (∀ r, (s.party r).ctx.script = some (d.script r)) ∧
    ∀ r, (s.inbox r).map frameType = (d.queue r).map some
  results : ∀ frame ∈ s.inbox true, frameType frame = some mmeCmValidateCnf → HasResult frame 0x00

theorem role_after {s : SlacJoint} (h : ∀ r, (s.party r).ctx.isEv = r) (r : Bool) (env : SlacEnv)
    (recv : Option (List Byte)) (rest : List (List Byte)) (q : Bool) :
    ((s.after r (slacProtocol.step env recv (s.party r)) rest).party q).ctx.isEv = q :=
  role_update h r env recv q

theorem InDialogue.results_after {s : SlacJoint} (h : InDialogue s) (r : Bool) (env : SlacEnv)
    (recv : Option (List Byte)) {rest : List (List Byte)} (hrest : rest ⊆ s.inbox r) :
    ∀ frame ∈ (s.after r (slacProtocol.step env recv (s.party r)) rest).inbox true,
      frameType frame = some mmeCmValidateCnf → HasResult frame 0x00 := by
  intro frame hmem htype
  cases r with
  | true =>
    rw [State.after_inbox_self] at hmem
    exact h.results frame (hrest hmem) htype
  | false =>
    rcases List.mem_append.mp hmem with hold | hnew
    · exact h.results frame hold htype
    · exact evseStep_sent_result (h.role false) hnew htype

theorem InDialogue.after {s : SlacJoint} (h : InDialogue s) {r : Bool} {env : SlacEnv}
    {recv : Option (List Byte)} {rest : List (List Byte)} (hrest : rest ⊆ s.inbox r)
    {d : Dialogue.State UInt16} (hd : d.Aligned)
    (hself : (slacStep env recv (s.party r)).party.ctx.script = some (d.script r))
    (hother : (s.party (!r)).ctx.script = some (d.script (!r)))
    (hqueue : rest.map frameType = (d.queue r).map some)
    (hsent : (s.inbox (!r) ++ (slacStep env recv (s.party r)).sent).map frameType =
      (d.queue (!r)).map some) :
    InDialogue (s.after r (slacProtocol.step env recv (s.party r)) rest) := by
  refine ⟨role_after h.role r env recv rest, ⟨d, hd, ?_, ?_⟩, h.results_after r env recv hrest⟩
  · refine (Bool.forall_bool' r).mpr ⟨?_, ?_⟩
    · rw [State.after_party_self]
      exact hself
    · rw [State.after_party_not]
      exact hother
  · refine (Bool.forall_bool' r).mpr ⟨?_, ?_⟩
    · rw [State.after_inbox_self]
      exact hqueue
    · rw [State.after_inbox_not]
      exact hsent

theorem InDialogue.step_none {s : SlacJoint} (h : InDialogue s) {r : Bool} {env : SlacEnv}
    (hsend : ∀ i < numSounds, env.send i = true) (htime : InTime env (s.party r)) :
    InDialogue (s.after r (slacProtocol.step env none (s.party r)) (s.inbox r)) := by
  rcases h.aligned with ⟨d, hd, hscript, hqueue⟩
  have hstep : SendsScript (d.script r)
      ((slacStep env none (s.party r)).party.ctx, (slacStep env none (s.party r)).sent) := by
    cases hw : waitOf (s.party r).ctx.isEv (s.party r).ctx.state with
    | some w =>
      have hctx := kept_ctx (slacStep_kept_of_none hw htime)
      rw [hctx, slacStep_of_wait hw]
      exact ⟨[], d.script r, rfl, rfl, hscript r⟩
    | none =>
      rw [slacStep_of_send hw]
      exact slacSend_script hsend hw (hscript r)
  rcases hstep with ⟨ts, rest, hts, hl, hrest⟩
  apply h.after (List.Subset.refl _) (hd.send hl)
  · rw [State.send_script_self]
    exact hrest
  · rw [State.send_script_not]
    exact hscript (!r)
  · rw [State.send_queue_self]
    exact hqueue r
  · rw [State.send_queue_not, List.map_append, List.map_append, hqueue]
    exact congrArg _ hts

theorem InDialogue.awaited {s : SlacJoint} (h : InDialogue s) {r : Bool} {w : Wait}
    (hw : waitOf (s.party r).ctx.isEv (s.party r).ctx.state = some w) {frame : List Byte}
    {rest : List (List Byte)} (hin : s.inbox r = frame :: rest) :
    frameType frame = some w.awaited := by
  rcases h.aligned with ⟨d, hd, hscript, hqueue⟩
  have hmap := hqueue r
  rw [hin, List.map_cons] at hmap
  cases hq : d.queue r with
  | nil =>
    rw [hq] at hmap
    cases hmap
  | cons t ts =>
    rw [hq, List.map_cons, List.cons.injEq] at hmap
    -- the first type in the queue is the first in the script, and that is the awaited one
    rcases hd.expected hq with ⟨l, hl, _⟩
    rcases script_of_wait hw (hscript r) with ⟨l', hl'⟩
    rw [hl, List.cons.injEq, Act.recv.injEq] at hl'
    rw [hmap.1, hl'.1]

theorem InDialogue.step_some {s : SlacJoint} (h : InDialogue s) {r : Bool} (env : SlacEnv)
    {w : Wait} (hw : waitOf (s.party r).ctx.isEv (s.party r).ctx.state = some w) {frame : List Byte}
    {rest : List (List Byte)} (hin : s.inbox r = frame :: rest) :
    InDialogue (s.after r (slacProtocol.step env (some frame) (s.party r)) rest) := by
  have htype := h.awaited hw hin
  rcases h.aligned with ⟨d, hd, hscript, hqueue⟩
  have hmap := hqueue r
  rw [hin, List.map_cons, htype] at hmap
  cases hq : d.queue r with
  | nil =>
    rw [hq] at hmap
    cases hmap
  | cons t ts =>
    rw [hq, List.map_cons, List.cons.injEq] at hmap
    rcases hd.expected hq with ⟨l, hl, hnext⟩
    have hres : (s.party r).ctx.isEv = true → frameType frame = some mmeCmValidateCnf →
        HasResult frame 0x00 := by
      intro hev
      rw [h.role r] at hev
      subst hev
      exact h.results frame (by rw [hin]; exact List.mem_cons_self)
    rcases slacStep_script_of_recv env hw (hscript r) htype hres with ⟨l', hl', hrest⟩
    rw [hl, List.cons.injEq] at hl'
    rcases hl' with ⟨-, rfl⟩
    refine h.after ?_ hnext ?_ ?_ ?_ ?_
    · rw [hin]
      exact List.subset_cons_self frame rest
    · rw [State.receive_script_self]
      exact hrest
    · rw [State.receive_script_not]
      exact hscript (!r)
    · rw [State.receive_queue_self, hq]
      exact hmap.2
    · rw [State.receive_queue_not, slacStep_of_wait hw, List.append_nil]
      exact hqueue (!r)

/-- The EVSE has left the collection with all sounds. -/
def AllSounds (ctx : SlacContext) : Prop :=
  ctx.state.soundsCollected = true → ctx.soundCount.toNat = numSounds

namespace AllSounds

theorem send {ctx : SlacContext} (h : AllSounds ctx) (env : SlacEnv) (evMac : Mac)
    (runId : Octets 8) : AllSounds (evseSend env ctx evMac runId).1 := by
  unfold evseSend
  split
  case h_1 => exact fun hc => absurd hc (by simp [SlacState.soundsCollected])
  case h_5 => exact h
  all_goals
    rename_i hs
    exact fun _ => h (by rw [hs]; rfl)

theorem accept {ctx : SlacContext} (h : AllSounds ctx) (hrange : SoundsInRange ctx) {w : Wait}
    (hw : waitOf false ctx.state = some w) (env : SlacEnv) (st : SlacStatics) :
    AllSounds (w.accept env ctx st).1 := by
  rcases waitOf_evse hw with
    ⟨hs, rfl⟩ | ⟨hs, rfl⟩ | ⟨hs, rfl⟩ | ⟨hs, rfl⟩ | ⟨hs, rfl⟩ | ⟨hs, rfl⟩
  case inr.inr.inl =>
    intro hc
    have hlt := hrange.collecting hs
    change (ctx.soundCount + 1).toNat = numSounds
    rw [UInt8.toNat_succ hlt, ← UInt8.ten_le_succ_iff hlt]
    -- with fewer sounds it goes on collecting
    by_contra hten
    dsimp only [evseCollectSounds] at hc
    rw [if_neg hten, hs] at hc
    cases hc
  case inl | inr.inl =>
    exact fun hc => absurd hc
      (by simp [evseWaitParmReq, evseWaitStartAtten, SlacState.soundsCollected])
  all_goals exact fun _ => h (by rw [hs]; rfl)

theorem step {env : SlacEnv} {p : SlacParty} (h : AllSounds p.ctx) (hevse : p.ctx.isEv = false)
    (hrange : SoundsInRange p.ctx) (htime : InTime env p) (recv : Option (List Byte)) :
    AllSounds (slacStep env recv p).party.ctx := by
  rcases slacStep_cases env recv hevse with
    ⟨_, _, hstep⟩ | ⟨w, hw, ⟨_, st, _, _, hstep⟩ | ⟨_, hexp, _⟩ | ⟨_, _, hstep⟩⟩
  · rw [hstep, slacSend_evse hevse]
    exact h.send env p.statics.evMac p.statics.runId
  · rw [hstep]
    exact h.accept hrange hw env st
  · rw [htime w (hevse ▸ hw)] at hexp
    cases hexp
  · rw [hstep]
    exact h

end AllSounds

/-- A CM_SLAC_PARM.REQ with this run id, or another frame. -/
def CarriesRunId (frame : List Byte) (runId : Octets 8) : Prop :=
  frameType frame = some mmeCmSlacParmReq → ∀ buf, field (recvInto buf frame) 20 8 = runId

/-- The EV sends one request, and the EVSE takes the run id from it. -/
structure OneRequest (s : SlacJoint) : Prop where
  before : (s.party true).ctx.state = .evSendParmReq →
    s.inbox false = [] ∧ (s.party false).ctx.state = .evseWaitParmReq
  carried : (s.party true).ctx.state ≠ .evSendParmReq →
    ∀ frame ∈ s.inbox false, CarriesRunId frame (s.party true).ctx.runId
  taken : (s.party true).ctx.state ≠ .evSendParmReq →
    (s.party false).ctx.state ≠ .evseWaitParmReq →
      (s.party false).statics.runId = (s.party true).ctx.runId

theorem carriesRunId_cmSlacParmReq (localMac : Mac) (runId : Octets 8) :
    CarriesRunId (cmSlacParmReq localMac runId) runId :=
  fun _ buf => runId_of_cmSlacParmReq localMac runId buf

theorem evStep_request {env : SlacEnv} {p : SlacParty} (hev : p.ctx.isEv = true)
    (htime : InTime env p) (recv : Option (List Byte)) :
    (slacStep env recv p).party.ctx.state ≠ .evSendParmReq ∧
      (p.ctx.state ≠ .evSendParmReq → (slacStep env recv p).party.ctx.runId = p.ctx.runId) := by
  rcases slacStep_cases env recv hev with
    ⟨_, _, hstep⟩ | ⟨w, hw, ⟨_, st, _, _, hstep⟩ | ⟨_, hexp, _⟩ | ⟨_, _, hstep⟩⟩
  · rw [hstep, slacSend_ev hev]
    unfold evSend
    split
    case h_1 hs =>
      refine ⟨?_, fun hne => absurd hs hne⟩
      unfold evSendParmReq
      dsimp only
      split_ifs <;> simp
    case h_7 hne _ _ _ _ _ => exact ⟨hne, fun _ => rfl⟩
    all_goals exact ⟨by simp, fun _ => rfl⟩
  · rw [hstep]
    rcases waitOf_ev hw with ⟨_, rfl⟩ | ⟨_, rfl⟩ | ⟨_, rfl⟩ | ⟨_, rfl⟩
    case inr.inr.inl =>
      refine ⟨?_, fun _ => rfl⟩
      dsimp only [evWaitValidateCnf]
      split_ifs <;> simp
    all_goals exact ⟨by simp [evWaitParmCnf, evWaitAttenChar, evWaitMatchCnf], fun _ => rfl⟩
  · rw [htime w (hev ▸ hw)] at hexp
    cases hexp
  · rw [hstep]
    refine ⟨?_, fun _ => rfl⟩
    intro hs
    rw [hs] at hw
    cases hw

theorem OneRequest.evStep {s : SlacJoint} (h : OneRequest s)
    (hrole : (s.party true).ctx.isEv = true) {env : SlacEnv}
    (htime : InTime env (s.party true)) (recv : Option (List Byte))
    (rest : List (List Byte)) :
    OneRequest (s.after true (slacProtocol.step env recv (s.party true)) rest) := by
  have hnext := evStep_request hrole htime recv
  refine ⟨fun hs => absurd hs hnext.1, fun _ frame hmem htype => ?_, fun _ htaken => ?_⟩
  · change frame ∈ s.inbox false ++ (slacStep env recv (s.party true)).sent at hmem
    change ∀ buf, _ = (slacStep env recv (s.party true)).party.ctx.runId
    by_cases hs : (s.party true).ctx.state = .evSendParmReq
    · rw [(h.before hs).1, List.nil_append] at hmem
      rcases evStep_sent hrole hmem with ⟨_, rfl⟩ | hne
      · exact carriesRunId_cmSlacParmReq _ _ htype
      · exact absurd htype hne
    · rw [hnext.2 hs]
      rcases List.mem_append.mp hmem with hold | hnew
      · exact h.carried hs frame hold htype
      · rcases evStep_sent hrole hnew with ⟨hs', _⟩ | hne
        · exact absurd hs' hs
        · exact absurd htype hne
  · change (s.party false).statics.runId = (slacStep env recv (s.party true)).party.ctx.runId
    change (s.party false).ctx.state ≠ _ at htaken
    have hs : (s.party true).ctx.state ≠ .evSendParmReq := fun hs => htaken (h.before hs).2
    rw [hnext.2 hs]
    exact h.taken hs htaken

theorem OneRequest.evseStep {s : SlacJoint} (h : OneRequest s)
    (hrole : (s.party false).ctx.isEv = false) {env : SlacEnv} (htime : InTime env (s.party false))
    {recv : Option (List Byte)} {rest : List (List Byte)}
    (hin : recv.toList ++ rest = s.inbox false)
    (htype : ∀ w frame, waitOf (s.party false).ctx.isEv (s.party false).ctx.state = some w →
      recv = some frame → frameType frame = some w.awaited) :
    OneRequest (s.after false (slacProtocol.step env recv (s.party false)) rest) := by
  have hwaits : (s.party false).ctx.state = .evseWaitParmReq →
      waitOf (s.party false).ctx.isEv (s.party false).ctx.state = some evseWaitParmReq := by
    intro hs
    rw [hrole, hs]
    rfl
  have hidle : (s.party false).ctx.state = .evseWaitParmReq → recv = none →
      (slacStep env recv (s.party false)).party.ctx.state = .evseWaitParmReq := by
    rintro hs rfl
    rw [kept_ctx (slacStep_kept_of_none (hwaits hs) htime), hs]
  refine ⟨fun hs => ?_, fun hs frame hmem => ?_, fun hs htaken => ?_⟩
  · change (s.party true).ctx.state = _ at hs
    rw [(h.before hs).1] at hin
    rcases List.append_eq_nil_iff.mp hin with ⟨hrecv, rfl⟩
    refine ⟨rfl, hidle (h.before hs).2 ?_⟩
    cases recv with
    | none => rfl
    | some frame => cases hrecv
  · rw [State.after_inbox_self] at hmem
    exact h.carried hs frame (by rw [← hin]; exact List.mem_append_right _ hmem)
  · change (s.party true).ctx.state ≠ _ at hs
    change (slacStep env recv (s.party false)).party.ctx.state ≠ _ at htaken
    change (slacStep env recv (s.party false)).party.statics.runId = (s.party true).ctx.runId
    by_cases hw : (s.party false).ctx.state = .evseWaitParmReq
    · cases recv with
      | none => exact absurd (hidle hw rfl) htaken
      | some frame =>
        have hreq := htype _ frame (hwaits hw) rfl
        have hstep : (slacStep env (some frame) (s.party false)).party = _ :=
          stepOver_accept (hwaits hw) hreq (s.party false).statics.buf
        rw [hstep]
        exact h.carried hs frame (by rw [← hin]; exact List.mem_cons_self) hreq _
    · rw [(evseStep_runId hrole hw).2]
      exact h.taken hs hw

/-- What holds in every state of a reliable run. -/
structure Lossless (s : SlacJoint) : Prop where
  dialogue : InDialogue s
  range : SoundsInRange (s.party false).ctx
  sounds : AllSounds (s.party false).ctx
  request : OneRequest s

theorem Lossless.act {s t : SlacJoint} {a : Action SlacEnv} (h : Lossless s) (hrel : Reliable s a)
    (hact : act slacProtocol s a = some t) : Lossless t := by
  have hrole := h.dialogue.role
  rcases reliable_cases hrel hact with ⟨r, env, hsend, htime, hcase⟩
  -- what it does to the parties and what is on the way to the EVSE
  have hstep : ∃ recv rest, t = s.after r (slacProtocol.step env recv (s.party r)) rest ∧
      InDialogue t ∧ recv.toList ++ rest = s.inbox r ∧
      ∀ w frame, waitOf (s.party r).ctx.isEv (s.party r).ctx.state = some w →
        recv = some frame → frameType frame = some w.awaited := by
    rcases hcase with rfl | ⟨w, frame, rest, hw, hin, rfl⟩
    · refine ⟨none, _, rfl, h.dialogue.step_none hsend htime, rfl, ?_⟩
      rintro w frame _ ⟨⟩
    · refine ⟨some frame, rest, rfl, h.dialogue.step_some env hw hin, hin.symm, ?_⟩
      rintro w' _ hw' ⟨⟩
      exact h.dialogue.awaited hw' hin
  rcases hstep with ⟨recv, rest, rfl, hdial, hin, htype⟩
  cases r with
  | true => exact ⟨hdial, h.range, h.sounds, h.request.evStep (hrole true) htime recv rest⟩
  | false =>
    exact ⟨hdial, h.range.step (hrole false), h.sounds.step (hrole false) h.range htime recv,
      h.request.evseStep (hrole false) htime hin htype⟩

theorem lossless_start {ctx : Bool → SlacContext} (hrole : ∀ r, (ctx r).isEv = r)
    (statics : Bool → SlacStatics) : Lossless (slacStart ctx statics) := by
  have hev : ((slacStart ctx statics).party true).ctx = slacRunStart (ctx true) := rfl
  have hevse : ((slacStart ctx statics).party false).ctx = slacRunStart (ctx false) := rfl
  rw [slacRunStart_ev (hrole true)] at hev
  rw [slacRunStart_evse (hrole false)] at hevse
  refine ⟨⟨slacStart_role hrole statics, ?_, ?_⟩, ?_, ?_, ?_⟩
  · refine ⟨⟨fun r => if r then evScript else evseScript, fun _ => []⟩, ?_, ?_, fun _ => rfl⟩
    · exact State.aligned_of_dual (r := true) (fun _ => rfl) rfl
    · refine Bool.forall_bool.mpr ⟨?_, ?_⟩
      · rw [hevse, SlacContext.script, hrole false]
        rfl
      · rw [hev, SlacContext.script, hrole true]
        rfl
  · intro frame hmem
    cases hmem
  · rw [hevse]
    exact ⟨Nat.zero_le _, by simp, by simp [SlacState.soundsCollected]⟩
  · intro hc
    rw [hevse] at hc
    cases hc
  · refine ⟨fun _ => ⟨rfl, ?_⟩, fun hs => ?_, fun hs => ?_⟩
    · rw [hevse]
    · rw [hev] at hs
      exact absurd rfl hs
    · rw [hev] at hs
      exact absurd rfl hs

theorem script_not_failed {ctx : SlacContext} {l : List (Act UInt16)} (hs : ctx.script = some l) :
    slacResult ctx ≠ -1 := by
  unfold slacResult
  cases hstate : ctx.state
  case evFailed | evseFailed =>
    rw [SlacContext.script, hstate] at hs
    cases hr : ctx.isEv <;> rw [hr] at hs <;> cases hs
  all_goals decide

theorem script_matched {ctx : SlacContext} (hs : ctx.script = some []) : slacResult ctx = 1 := by
  rcases script_cases hs with ⟨hend, _⟩ | ⟨_, t, rest, hl⟩ | ⟨w, rest, _, hl⟩
  · rcases slacResult_cases ctx with h | h | h
    · exact h
    · exact absurd h ((slacResult_ne_zero_iff ctx).mpr hend)
    · exact absurd h (script_not_failed hs)
  · cases hl
  · cases hl

/-- As long as not both are matched, somebody can go on. -/
theorem InDialogue.progress {s : SlacJoint} (h : InDialogue s) {r : Bool}
    (hne : slacResult (s.party r).ctx ≠ 1) :
    ∃ q, (s.party q).ctx.state.isSend = true ∨
      (waitOf (s.party q).ctx.isEv (s.party q).ctx.state).isSome ∧ s.inbox q ≠ [] := by
  rcases h.aligned with ⟨d, hd, hscript, hqueue⟩
  have hrest : d.script r ≠ [] := by
    intro hnil
    have hr := hscript r
    rw [hnil] at hr
    exact hne (script_matched hr)
  rcases hd.progress hrest with ⟨q, t, rest, hsend | ⟨hq, hrecv⟩⟩
  · refine ⟨q, Or.inl ?_⟩
    rcases script_cases (hscript q) with ⟨_, hnil⟩ | ⟨hs, _⟩ | ⟨w, l, _, hl⟩
    · rw [hsend] at hnil
      cases hnil
    · exact hs
    · rw [hsend] at hl
      cases hl
  · refine ⟨q, Or.inr ⟨?_, ?_⟩⟩
    · rcases script_cases (hscript q) with ⟨_, hnil⟩ | ⟨_, t', l, hl⟩ | ⟨w, l, hw, _⟩
      · rw [hrecv] at hnil
        cases hnil
      · rw [hrecv] at hl
        cases hl
      · rw [hw]
        rfl
    · intro hnil
      have hlen := congrArg List.length (hqueue q)
      rw [hnil, List.map_nil, List.length_map] at hlen
      exact hq (List.eq_nil_of_length_eq_zero hlen.symm)

/-- Over a lossless channel, with all sends successful and no time limit exceeded, and however
the steps interleave: neither side fails, a waiting side finds the type it awaits, the EVSE counts
all sounds, and until both are matched somebody can go on. Then they hold the same key and run
id. -/
theorem lossless_match {ctx : Bool → SlacContext} (hrole : ∀ r, (ctx r).isEv = r)
    {statics : Bool → SlacStatics} {as : List (Action SlacEnv)} {s : SlacJoint}
    (hrun : Transition.run (act slacProtocol) (slacStart ctx statics) as = some s)
    (hrel : Transition.Along (act slacProtocol) Reliable (slacStart ctx statics) as) :
    (∀ r, slacResult (s.party r).ctx ≠ -1) ∧
    (∀ r w, waitOf (s.party r).ctx.isEv (s.party r).ctx.state = some w →
      ∀ frame ∈ (s.inbox r).head?, frameType frame = some w.awaited) ∧
    ((s.party false).ctx.state.soundsCollected = true →
      (s.party false).ctx.soundCount.toNat = numSounds) ∧
    ((∃ r, slacResult (s.party r).ctx ≠ 1) → ∃ q, (s.party q).ctx.state.isSend = true ∨
      (waitOf (s.party q).ctx.isEv (s.party q).ctx.state).isSome ∧ s.inbox q ≠ []) ∧
    ((∀ r, slacResult (s.party r).ctx = 1) →
      (s.party true).ctx.nmk = (s.party false).ctx.nmk ∧
      (s.party true).ctx.nid = (s.party false).ctx.nid ∧
      (s.party true).ctx.runId = (s.party false).statics.runId) := by
  have h : Lossless s := Transition.invariant_along (fun _ _ _ h hrel hact => h.act hrel hact)
    (lossless_start hrole statics) hrun hrel
  rcases h.dialogue.aligned with ⟨d, _, hscript, _⟩
  refine ⟨fun r => script_not_failed (hscript r), ?_, h.sounds, ?_, ?_⟩
  · intro r w hw frame hframe
    rcases List.head?_eq_some_iff.mp hframe with ⟨rest, hin⟩
    exact h.dialogue.awaited hw hin
  · rintro ⟨r, hne⟩
    exact h.dialogue.progress hne
  · intro hm
    have hev : (s.party true).ctx.state = .evMatched := by
      rcases (slacResult_eq_one_iff _).mp (hm true) with hs | hs
      · exact hs
      · have hl := hscript true
        rw [SlacContext.script, h.dialogue.role true, hs] at hl
        cases hl
    have hevse : (s.party false).ctx.state = .evseMatched := by
      rcases (slacResult_eq_one_iff _).mp (hm false) with hs | hs
      · have hl := hscript false
        rw [SlacContext.script, h.dialogue.role false, hs] at hl
        cases hl
      · exact hs
    have hkey := (keyAgreement.run (keyAgreement_start hrole statics) hrun).parties.2 hev
    refine ⟨hkey.2.1, hkey.2.2, ?_⟩
    exact (h.request.taken (by rw [hev]; simp) (by rw [hevse]; simp)).symm

def losslessRun : List (Action SlacEnv) :=
  [stepAt true 0 16 none, stepAt false 10 0 none, stepAt false 10 0 (some 0),
    stepAt false 10 0 none, stepAt true 20 0 (some 0)] ++ attenAndMatch 0 0

/-- Both are matched in the end. -/
theorem lossless_match_losslessRun :
    ∃ s, Transition.run (act slacProtocol) (slacStart twoStations fun _ => .zero) losslessRun =
        some s ∧
      (s.party false).ctx.soundCount.toNat = numSounds ∧
      (s.party true).ctx.nmk = (s.party false).ctx.nmk ∧
      (s.party true).ctx.nid = (s.party false).ctx.nid ∧
      (s.party true).ctx.runId = (s.party false).statics.runId := by
  have hrun : ∃ s ∈ Transition.run (act slacProtocol) (slacStart twoStations fun _ => .zero)
      losslessRun, (∀ r, slacResult (s.party r).ctx = 1) ∧
        (s.party false).ctx.state.soundsCollected = true := by decide +kernel
  have hrel : Transition.Along (act slacProtocol) Reliable (slacStart twoStations fun _ => .zero)
      losslessRun := by decide +kernel
  rcases hrun with ⟨s, hs, hm, hc⟩
  have h := lossless_match (fun _ => rfl) hs hrel
  exact ⟨s, hs, h.2.2.1 hc, h.2.2.2.2 hm⟩

end EvseIso15118
