import EvseIso15118.SlacFrames

namespace EvseIso15118

inductive SlacState
  | evIdle
  | evSendParmReq
  | evWaitParmCnf
  | evSendStartAtten
  | evSendMnbcSounds
  | evWaitAttenChar
  | evSendAttenRsp
  | evSendValidate
  | evWaitValidateCnf
  | evSendMatchReq
  | evWaitMatchCnf
  | evMatched
  | evFailed
  | evseIdle
  | evseWaitParmReq
  | evseSendParmCnf
  | evseWaitStartAtten
  | evseCollectSounds
  | evseSendAttenChar
  | evseWaitAttenRsp
  | evseWaitValidateReq
  | evseSendValidateCnf
  | evseWaitMatchReq
  | evseSendMatchCnf
  | evseMatched
  | evseFailed
  deriving DecidableEq

/-- The loop of `slac_run` ends in these. -/
def SlacState.terminal : SlacState → Bool
  | .evMatched | .evFailed | .evseMatched | .evseFailed => true
  | _ => false

/-- `SlacContext`, without the socket. -/
structure SlacContext where
  localMac : Mac
  runId : Octets 8
  nmk : Octets 16
  nid : Octets 7
  aag : Octets 58
  soundCount : Byte
  state : SlacState
  isEv : Bool
  retryCount : ℤ
  lastTime : UInt64
  deriving DecidableEq

/-- The static variables of `slac_step`. -/
structure SlacStatics where
  buf : Octets 2048
  evseMac : Mac
  evMac : Mac
  runId : Octets 8

structure SlacParty where
  ctx : SlacContext
  statics : SlacStatics

/-- The clock, the values of `rand()` one after the other, and which frames `sendto` takes. -/
structure SlacEnv where
  millis : UInt64
  rand : ℕ → ℕ
  send : ℕ → Bool

/-- `rand_bytes`, from the value with this number on. -/
def randBytes (env : SlacEnv) (first n : ℕ) : Octets n :=
  fun i => UInt8.ofNat (env.rand (first + i))

/-- The party after a step and the frames that went out. -/
structure SlacStep where
  party : SlacParty
  sent : List (List Byte)

/-- What a wait state does with a frame of the type it awaits, and after its time limit in
milliseconds. -/
structure Wait where
  awaited : UInt16
  limit : Option UInt64
  accept : SlacEnv → SlacContext → SlacStatics → SlacContext × SlacStatics
  timeout : SlacContext → SlacContext

namespace Wait

/-- `millis() - ctx->last_time > limit`, unsigned. -/
def expired (w : Wait) (env : SlacEnv) (ctx : SlacContext) : Bool :=
  match w.limit with
  | none => false
  | some limit => limit < env.millis - ctx.lastTime

/-- `recv_frame` and what follows it; `recv` is the frame there is, none for an error. -/
def run (w : Wait) (env : SlacEnv) (recv : Option (List Byte)) (ctx : SlacContext)
    (st : SlacStatics) : SlacParty :=
  let received := recvFrame st.buf recv
  let st := { st with buf := received.2 }
  if received.1 = some w.awaited then ⟨(w.accept env ctx st).1, (w.accept env ctx st).2⟩
  else if w.expired env ctx then ⟨w.timeout ctx, st⟩
  else ⟨ctx, st⟩

end Wait

def evFail (ctx : SlacContext) : SlacContext := { ctx with state := .evFailed }

def evseFail (ctx : SlacContext) : SlacContext := { ctx with state := .evseFailed }

def evWaitParmCnf : Wait where
  awaited := mmeCmSlacParmCnf
  limit := some 400
  accept _ ctx st :=
    ({ ctx with state := .evSendStartAtten }, { st with evseMac := field st.buf 6 6 })
  timeout ctx :=
    { ctx with
      retryCount := toInt32 (ctx.retryCount + 1)
      -- `C_EV_MATCH_RETRY`
      state := if 3 ≤ toInt32 (ctx.retryCount + 1) then .evFailed else .evSendParmReq }

def evWaitAttenChar : Wait where
  awaited := mmeCmAttenCharInd
  limit := some 800
  accept _ ctx st := ({ ctx with aag := field st.buf 70 58, state := .evSendAttenRsp }, st)
  timeout := evFail

def evWaitValidateCnf : Wait where
  awaited := mmeCmValidateCnf
  limit := some 1200
  accept _ ctx st :=
    ({ ctx with state := if octetAt st.buf 20 = 0x00 then .evSendMatchReq else .evFailed }, st)
  timeout := evFail

def evWaitMatchCnf : Wait where
  awaited := mmeCmSlacMatchCnf
  limit := some 12000
  accept _ ctx st :=
    ({ ctx with nmk := field st.buf 84 16, nid := field st.buf 100 7, state := .evMatched }, st)
  timeout := evFail

/-- Without a time limit. -/
def evseWaitParmReq : Wait where
  awaited := mmeCmSlacParmReq
  limit := none
  accept _ ctx st :=
    ({ ctx with state := .evseSendParmCnf },
      { st with evMac := field st.buf 6 6, runId := field st.buf 20 8 })
  timeout ctx := ctx

def evseWaitStartAtten : Wait where
  awaited := mmeCmStartAttenInd
  limit := some 800
  accept env ctx st :=
    ({ ctx with state := .evseCollectSounds, soundCount := 0, lastTime := env.millis }, st)
  timeout := evseFail

/-- Attenuation is simulated: 20 to 39 dB for each group. -/
def evseCollectSounds : Wait where
  awaited := mmeCmMnbcSoundInd
  limit := some 600
  accept env ctx st :=
    -- the sums wrap at 256
    ({ ctx with
        aag := fun g => ctx.aag g + UInt8.ofNat (20 + env.rand g % 20)
        soundCount := ctx.soundCount + 1
        state := if 10 ≤ ctx.soundCount + 1 then .evseSendAttenChar else ctx.state }, st)
  timeout ctx :=
    { ctx with state := if 0 < ctx.soundCount then .evseSendAttenChar else .evseFailed }

def evseWaitAttenRsp : Wait where
  awaited := mmeCmAttenCharRsp
  limit := some 800
  accept env ctx st := ({ ctx with state := .evseWaitValidateReq, lastTime := env.millis }, st)
  timeout := evseFail

def evseWaitValidateReq : Wait where
  awaited := mmeCmValidateReq
  limit := some 1500
  accept _ ctx st := ({ ctx with state := .evseSendValidateCnf }, st)
  timeout := evseFail

def evseWaitMatchReq : Wait where
  awaited := mmeCmSlacMatchReq
  limit := some 12000
  accept _ ctx st := ({ ctx with state := .evseSendMatchCnf }, st)
  timeout := evseFail

/-- The wait states of a role; in all other states nothing is received. -/
def waitOf : Bool → SlacState → Option Wait
  | true, .evWaitParmCnf => some evWaitParmCnf
  | true, .evWaitAttenChar => some evWaitAttenChar
  | true, .evWaitValidateCnf => some evWaitValidateCnf
  | true, .evWaitMatchCnf => some evWaitMatchCnf
  | false, .evseWaitParmReq => some evseWaitParmReq
  | false, .evseWaitStartAtten => some evseWaitStartAtten
  | false, .evseCollectSounds => some evseCollectSounds
  | false, .evseWaitAttenRsp => some evseWaitAttenRsp
  | false, .evseWaitValidateReq => some evseWaitValidateReq
  | false, .evseWaitMatchReq => some evseWaitMatchReq
  | _, _ => none

/-- `send_frame` for the one frame of a state. -/
def sendFrame (env : SlacEnv) (frame : List Byte) : List (List Byte) :=
  if env.send 0 then [frame] else []

/-- The only state that looks at the result of its sender. -/
def evSendParmReq (env : SlacEnv) (ctx : SlacContext) : SlacContext × List (List Byte) :=
  let ctx := { ctx with runId := randBytes env 0 8 }
  let sent := sendFrame env (cmSlacParmReq ctx.localMac ctx.runId)
  if env.send 0 = false then ({ ctx with state := .evFailed }, sent)
  else ({ ctx with state := .evWaitParmCnf, lastTime := env.millis }, sent)

/-- `cnt` counts down from 9; a sound that cannot be sent ends the loop. -/
def evSendMnbcSounds (env : SlacEnv) (ctx : SlacContext) : List (List Byte) :=
  ((List.range numSounds).takeWhile env.send).map fun i =>
    cmMnbcSoundInd ctx.localMac ctx.runId (UInt8.ofNat (numSounds - 1 - i))

def evSend (env : SlacEnv) (ctx : SlacContext) (evseMac : Mac) :
    SlacContext × List (List Byte) :=
  match ctx.state with
  | .evSendParmReq => evSendParmReq env ctx
  | .evSendStartAtten =>
    ({ ctx with state := .evSendMnbcSounds },
      sendFrame env (cmStartAttenInd ctx.localMac ctx.runId))
  | .evSendMnbcSounds =>
    ({ ctx with state := .evWaitAttenChar, lastTime := env.millis }, evSendMnbcSounds env ctx)
  | .evSendAttenRsp =>
    ({ ctx with state := .evSendValidate },
      sendFrame env (cmAttenCharRsp evseMac ctx.localMac ctx.runId))
  | .evSendValidate =>
    ({ ctx with state := .evWaitValidateCnf, lastTime := env.millis },
      sendFrame env (cmValidateReq evseMac ctx.localMac))
  | .evSendMatchReq =>
    ({ ctx with state := .evWaitMatchCnf, lastTime := env.millis },
      sendFrame env (cmSlacMatchReq evseMac ctx.localMac ctx.runId))
  | _ => (ctx, [])

/-- The averages in CM_ATTEN_CHAR.IND. -/
def averageAag (ctx : SlacContext) : Octets 58 := fun g =>
  if 0 < ctx.soundCount then ctx.aag g / ctx.soundCount else 0

/-- `nid[6] &= 0xFC`. -/
def clearNidBits (nid : Octets 7) : Octets 7 := fun i => if i = 6 then nid i &&& 0xFC else nid i

/-- `evse_send_match_cnf`: new keys, kept and sent. -/
def evseSendMatchCnf (env : SlacEnv) (ctx : SlacContext) (evMac : Mac) (runId : Octets 8) :
    SlacContext × List (List Byte) :=
  let nmk := randBytes env 0 16
  let nid := clearNidBits (randBytes env 16 7)
  ({ ctx with nmk := nmk, nid := nid, state := .evseMatched },
    sendFrame env (cmSlacMatchCnf evMac ctx.localMac runId nmk nid))

def evseSend (env : SlacEnv) (ctx : SlacContext) (evMac : Mac) (runId : Octets 8) :
    SlacContext × List (List Byte) :=
  match ctx.state with
  | .evseSendParmCnf =>
    ({ ctx with state := .evseWaitStartAtten, lastTime := env.millis },
      sendFrame env (cmSlacParmCnf evMac ctx.localMac runId))
  | .evseSendAttenChar =>
    ({ ctx with state := .evseWaitAttenRsp, lastTime := env.millis },
      sendFrame env (cmAttenCharInd evMac ctx.localMac runId ctx.soundCount (averageAag ctx)))
  | .evseSendValidateCnf =>
    ({ ctx with state := .evseWaitMatchReq, lastTime := env.millis },
      sendFrame env (cmValidateCnf evMac ctx.localMac))
  | .evseSendMatchCnf => evseSendMatchCnf env ctx evMac runId
  | _ => (ctx, [])

def slacSend (env : SlacEnv) (p : SlacParty) : SlacContext × List (List Byte) :=
  if p.ctx.isEv then evSend env p.ctx p.statics.evseMac
  else evseSend env p.ctx p.statics.evMac p.statics.runId

/-- `slac_step`: `ev_step` or `evse_step`. -/
def slacStep (env : SlacEnv) (recv : Option (List Byte)) (p : SlacParty) : SlacStep :=
  match waitOf p.ctx.isEv p.ctx.state with
  | some w => ⟨w.run env recv p.ctx p.statics, []⟩
  | none => ⟨⟨(slacSend env p).1, p.statics⟩, (slacSend env p).2⟩

/-- The return value of `slac_step`. -/
def slacResult (ctx : SlacContext) : ℤ :=
  match ctx.state with
  | .evMatched | .evseMatched => 1
  | .evFailed | .evseFailed => -1
  | _ => 0

/-- `slac_init`, the socket apart: the MAC address is that of the interface. -/
def slacInit (localMac : Mac) (isEv : Bool) : SlacContext where
  localMac := localMac
  runId _ := 0
  nmk _ := 0
  nid _ := 0
  aag _ := 0
  soundCount := 0
  state := if isEv then .evIdle else .evseIdle
  isEv := isEv
  retryCount := 0
  lastTime := 0

def SlacStatics.zero : SlacStatics := ⟨fun _ => 0, fun _ => 0, fun _ => 0, fun _ => 0⟩

/-- The states in which the loop of `slac_run` ends are those in which `slac_step` does not
return 0. -/
theorem slacResult_ne_zero_iff (ctx : SlacContext) :
    slacResult ctx ≠ 0 ↔ ctx.state.terminal = true := by
  unfold slacResult
  cases ctx.state <;> simp [SlacState.terminal]

theorem slacResult_cases (ctx : SlacContext) :
    slacResult ctx = 1 ∨ slacResult ctx = 0 ∨ slacResult ctx = -1 := by
  unfold slacResult
  cases ctx.state <;> simp

theorem slacResult_eq_one_iff (ctx : SlacContext) :
    slacResult ctx = 1 ↔ ctx.state = .evMatched ∨ ctx.state = .evseMatched := by
  unfold slacResult
  cases ctx.state <;> simp

/-- What `slac_run` does before its loop. -/
def slacRunStart (ctx : SlacContext) : SlacContext :=
  -- run id, keys and retry count are those of an earlier run, if any
  if ctx.isEv then { ctx with state := .evSendParmReq }
  else { ctx with state := .evseWaitParmReq, soundCount := 0, aag := fun _ => 0 }

/-- The loop of `slac_run`, for these environments and receptions. -/
def slacLoop : List (SlacEnv × Option (List Byte)) → SlacParty → SlacParty
  | [], p => p
  | i :: is, p =>
    if p.ctx.state.terminal then p else slacLoop is (slacStep i.1 i.2 p).party

/-- `slac_run` for these environments and receptions. -/
def slacRun (inputs : List (SlacEnv × Option (List Byte))) (p : SlacParty) : SlacParty :=
  slacLoop inputs { p with ctx := slacRunStart p.ctx }

section step
variable {env : SlacEnv} {p : SlacParty}

theorem slacStep_of_wait {w : Wait} (h : waitOf p.ctx.isEv p.ctx.state = some w)
    (recv : Option (List Byte)) :
    slacStep env recv p = ⟨w.run env recv p.ctx p.statics, []⟩ := by
  rw [slacStep, h]

theorem slacStep_of_send (h : waitOf p.ctx.isEv p.ctx.state = none)
    (recv : Option (List Byte)) :
    slacStep env recv p = ⟨⟨(slacSend env p).1, p.statics⟩, (slacSend env p).2⟩ := by
  rw [slacStep, h]

end step

end EvseIso15118
