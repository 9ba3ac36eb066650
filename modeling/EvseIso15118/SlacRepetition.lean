import EvseIso15118.SlacContexts
import EvseIso15118.SlacTimeouts

namespace EvseIso15118

/-- `sizeof` of the struct that a frame of this type is read as. -/
def structLen (mmtype : UInt16) : ℕ :=
  if mmtype = mmeCmSlacParmReq then 30
  else if mmtype = mmeCmSlacParmCnf then 43
  else if mmtype = mmeCmStartAttenInd then 37
  else if mmtype = mmeCmMnbcSoundInd then 54
  else if mmtype = mmeCmAttenCharInd then 128
  else if mmtype = mmeCmAttenCharRsp then 69
  else if mmtype = mmeCmValidateReq ∨ mmtype = mmeCmValidateCnf then 21
  else if mmtype = mmeCmSlacMatchReq then 84
  else if mmtype = mmeCmSlacMatchCnf then 107
  else 0

def FullLength (data : List Byte) : Prop :=
  ∀ mmtype, frameType data = some mmtype → structLen mmtype ≤ data.length

theorem FullLength.covers {data : List Byte} (h : FullLength data) (ctx : SlacContext) :
    Covers ctx data := by
  intro w hw ht
  have hlen := h _ ht
  have hhdr := length_of_frameType ht
  cases hr : ctx.isEv with
  | true =>
    rw [hr] at hw
    rcases waitOf_ev hw with ⟨hs, rfl⟩ | ⟨hs, rfl⟩ | ⟨hs, rfl⟩ | ⟨hs, rfl⟩
    · rw [hs]
      exact hhdr
    all_goals
      rw [hs]
      exact hlen
  | false =>
    rw [hr] at hw
    rcases waitOf_evse hw with
      ⟨hs, rfl⟩ | ⟨hs, rfl⟩ | ⟨hs, rfl⟩ | ⟨hs, rfl⟩ | ⟨hs, rfl⟩ | ⟨hs, rfl⟩
    · rw [hs]
      have h30 : 30 ≤ data.length := hlen
      change 28 ≤ data.length
      omega
    all_goals
      rw [hs]
      exact hhdr

/-- The same clock, set `d` milliseconds ahead. -/
def SlacEnv.shift (d : UInt64) (env : SlacEnv) : SlacEnv :=
  { env with millis := env.millis + d }

section shift
variable (d : UInt64) (env : SlacEnv)

@[simp] theorem SlacEnv.shift_send : (env.shift d).send = env.send := rfl

@[simp] theorem randBytes_shift (first n : ℕ) :
    randBytes (env.shift d) first n = randBytes env first n := rfl

@[simp] theorem sendFrame_shift (frame : List Byte) :
    sendFrame (env.shift d) frame = sendFrame env frame := rfl

end shift

def shiftInputs (d : UInt64) (is : List (SlacEnv × Option (List Byte))) :
    List (SlacEnv × Option (List Byte)) :=
  is.map fun i => (i.1.shift d, i.2)

/-- Equal in all that the rest of the run reads, and the waits began at the same time. -/
structure AlikeContexts (d : UInt64) (ctx ctx' : SlacContext) : Prop where
  localMac : ctx.localMac = ctx'.localMac
  state : ctx.state = ctx'.state
  isEv : ctx.isEv = ctx'.isEv
  retryCount : ctx.isEv = true → ctx.retryCount = ctx'.retryCount
  runId : ctx.isEv = true → ctx.state ≠ .evSendParmReq → ctx.runId = ctx'.runId
  aag : ctx.isEv = false → ctx.aag = ctx'.aag
  soundCount : ctx.isEv = false → ctx.soundCount = ctx'.soundCount
  lastTime : ctx.state.timeLimit ≠ none → ctx.lastTime = ctx'.lastTime + d

/-- The contexts are alike, and the peer is the same where it is still used. -/
structure Alike (d : UInt64) (p q : SlacParty) : Prop where
  contexts : AlikeContexts d p.ctx q.ctx
  peer : p.ctx.usesPeer = true → p.statics.peer p.ctx.isEv = q.statics.peer p.ctx.isEv

section step
variable {d : UInt64} {env : SlacEnv} {p q : SlacParty} {recv : Option (List Byte)} {w : Wait}

namespace AlikeContexts
variable {ctx ctx' : SlacContext}

theorem wait (h : AlikeContexts d ctx ctx') (hw : waitOf ctx.isEv ctx.state = some w) :
    waitOf ctx'.isEv ctx'.state = some w := by rwa [← h.isEv, ← h.state]

theorem enter (h : AlikeContexts d ctx ctx') (hid : ctx.isEv = true → ctx.runId = ctx'.runId)
    {s : SlacState} (hs : s.timeLimit = none) :
    AlikeContexts d { ctx with state := s } { ctx' with state := s } :=
  ⟨h.localMac, rfl, h.isEv, h.retryCount, fun hev _ => hid hev, h.aag, h.soundCount,
    fun hl => absurd hs hl⟩

theorem enterWait (h : AlikeContexts d ctx ctx')
    (hid : ctx.isEv = true → ctx.runId = ctx'.runId) (s : SlacState) (now : UInt64) :
    AlikeContexts d { ctx with state := s, lastTime := now + d }
      { ctx' with state := s, lastTime := now } :=
  ⟨h.localMac, rfl, h.isEv, h.retryCount, fun hev _ => hid hev, h.aag, h.soundCount,
    fun _ => rfl⟩

theorem runId_of_ne (h : AlikeContexts d ctx ctx') (hne : ctx.state ≠ .evSendParmReq) :
    ctx.isEv = true → ctx.runId = ctx'.runId := fun hev => h.runId hev hne

theorem ne_of_wait (hw : waitOf ctx.isEv ctx.state = some w) : ctx.state ≠ .evSendParmReq := by
  intro hs
  rw [hs] at hw
  cases hr : ctx.isEv <;> rw [hr] at hw <;> cases hw

theorem expired (h : AlikeContexts d ctx ctx') (hw : waitOf ctx.isEv ctx.state = some w) :
    w.expired (env.shift d) ctx = w.expired env ctx' := by
  have helapsed : ctx.state.timeLimit ≠ none →
      env.millis + d - ctx.lastTime = env.millis - ctx'.lastTime := by
    intro hl
    rw [h.lastTime hl, UInt64.sub_eq_iff_eq_add, ← UInt64.add_assoc, UInt64.sub_add_cancel]
  cases hr : ctx.isEv with
  | true =>
    rw [hr] at hw
    rcases waitOf_ev hw with ⟨hs, rfl⟩ | ⟨hs, rfl⟩ | ⟨hs, rfl⟩ | ⟨hs, rfl⟩
    all_goals
      change decide (_ < env.millis + d - ctx.lastTime) = decide (_ < env.millis - ctx'.lastTime)
      rw [helapsed (by rw [hs]; simp [SlacState.timeLimit])]
  | false =>
    rw [hr] at hw
    rcases waitOf_evse hw with
      ⟨hs, rfl⟩ | ⟨hs, rfl⟩ | ⟨hs, rfl⟩ | ⟨hs, rfl⟩ | ⟨hs, rfl⟩ | ⟨hs, rfl⟩
    · rfl
    all_goals
      change decide (_ < env.millis + d - ctx.lastTime) = decide (_ < env.millis - ctx'.lastTime)
      rw [helapsed (by rw [hs]; simp [SlacState.timeLimit])]

theorem timeout (h : AlikeContexts d ctx ctx') (hw : waitOf ctx.isEv ctx.state = some w) :
    AlikeContexts d (w.timeout ctx) (w.timeout ctx') := by
  have hid := h.runId_of_ne (ne_of_wait hw)
  cases hr : ctx.isEv with
  | true =>
    rw [hr] at hw
    rcases waitOf_ev hw with ⟨_, rfl⟩ | ⟨_, rfl⟩ | ⟨_, rfl⟩ | ⟨_, rfl⟩
    · simp only [evWaitParmCnf, ← h.retryCount hr]
      refine ⟨h.localMac, rfl, h.isEv, fun _ => rfl, fun hev _ => hid hev, h.aag, h.soundCount, ?_⟩
      dsimp only
      split_ifs <;> simp [SlacState.timeLimit]
    all_goals exact h.enter hid rfl
  | false =>
    rw [hr] at hw
    rcases waitOf_evse hw with ⟨_, rfl⟩ | ⟨_, rfl⟩ | ⟨_, rfl⟩ | ⟨_, rfl⟩ | ⟨_, rfl⟩ | ⟨_, rfl⟩
    · exact h
    · exact h.enter hid rfl
    · have hnext := h.enter hid (s := (EvseIso15118.evseCollectSounds.timeout ctx).state) (by
        dsimp only [evseCollectSounds]
        split_ifs <;> rfl)
      dsimp only [evseCollectSounds] at hnext ⊢
      rwa [h.soundCount hr] at hnext ⊢
    all_goals exact h.enter hid rfl

theorem accept (h : AlikeContexts d ctx ctx') (hw : waitOf ctx.isEv ctx.state = some w)
    {frame : List Byte} (ht : frameType frame = some w.awaited) (hfull : FullLength frame)
    (st st' : SlacStatics) :
    AlikeContexts d
      (w.accept (env.shift d) ctx { st with buf := recvInto st.buf frame }).1
      (w.accept env ctx' { st' with buf := recvInto st'.buf frame }).1 := by
  have hid := h.runId_of_ne (ne_of_wait hw)
  have hread := hfull.covers ctx w hw ht
  cases hr : ctx.isEv with
  | true =>
    rw [hr] at hw
    rcases waitOf_ev hw with ⟨hs, rfl⟩ | ⟨hs, rfl⟩ | ⟨hs, rfl⟩ | ⟨hs, rfl⟩
    · exact h.enter hid rfl
    · exact ⟨h.localMac, rfl, h.isEv, h.retryCount, fun hev _ => hid hev,
        fun hevse => absurd (hr.symm.trans hevse) (by decide), h.soundCount,
        fun hl => absurd rfl hl⟩
    · -- the result byte is one of the frame
      rw [hs] at hread
      have h20 : 20 < frame.length := hread
      simp only [evWaitValidateCnf, octetAt_recvInto h20 (show 20 < 2048 by decide)]
      refine h.enter hid ?_
      split_ifs <;> rfl
    · exact ⟨h.localMac, rfl, h.isEv, h.retryCount, fun hev _ => hid hev, h.aag, h.soundCount,
        fun hl => absurd rfl hl⟩
  | false =>
    rw [hr] at hw
    rcases waitOf_evse hw with
      ⟨hs, rfl⟩ | ⟨hs, rfl⟩ | ⟨hs, rfl⟩ | ⟨hs, rfl⟩ | ⟨hs, rfl⟩ | ⟨hs, rfl⟩
    · exact h.enter hid rfl
    · exact ⟨h.localMac, rfl, h.isEv, h.retryCount, fun hev _ => hid hev, h.aag, fun _ => rfl,
        fun _ => rfl⟩
    · -- one more sound, measured alike
      have hlast := h.lastTime (by rw [hs]; simp [SlacState.timeLimit])
      simp only [evseCollectSounds, ← h.soundCount hr, ← h.aag hr, ← h.state]
      exact ⟨h.localMac, rfl, h.isEv, h.retryCount, fun hev _ => hid hev, fun _ => rfl,
        fun _ => rfl, fun _ => hlast⟩
    · exact h.enterWait hid _ _
    · exact h.enter hid rfl
    · exact h.enter hid rfl

theorem evSend (h : AlikeContexts d ctx ctx') (evseMac evseMac' : Mac) :
    AlikeContexts d (evSend (env.shift d) ctx evseMac).1 (evSend env ctx' evseMac').1 := by
  have hs' := h.state
  cases hs : ctx.state <;> rw [hs] at hs' <;> simp only [EvseIso15118.evSend, hs, ← hs']
  case evSendParmReq =>
    cases hsend : env.send 0 <;>
      simp only [evSendParmReq, SlacEnv.shift_send, hsend, if_true, Bool.true_eq_false, if_false]
    · exact ⟨h.localMac, rfl, h.isEv, h.retryCount, fun _ _ => rfl, h.aag, h.soundCount,
        fun hl => absurd rfl hl⟩
    · exact ⟨h.localMac, rfl, h.isEv, h.retryCount, fun _ _ => rfl, h.aag, h.soundCount,
        fun _ => rfl⟩
  case evSendStartAtten | evSendAttenRsp => exact h.enter (h.runId_of_ne (by simp [hs])) rfl
  case evSendMnbcSounds | evSendValidate | evSendMatchReq =>
    exact h.enterWait (h.runId_of_ne (by simp [hs])) _ _
  all_goals exact h

theorem evSend_frames (h : AlikeContexts d ctx ctx') (hev : ctx.isEv = true)
    {evseMac evseMac' : Mac} (hmac : ctx.usesPeer = true → evseMac = evseMac') :
    (EvseIso15118.evSend (env.shift d) ctx evseMac).2 =
      (EvseIso15118.evSend env ctx' evseMac').2 := by
  have hs' := h.state
  unfold SlacContext.usesPeer at hmac
  rw [hev] at hmac
  cases hs : ctx.state <;> rw [hs] at hs' hmac <;> simp only [EvseIso15118.evSend, hs, ← hs']
  case evSendParmReq =>
    cases hsend : env.send 0 <;>
      simp only [evSendParmReq, SlacEnv.shift_send, hsend, if_true, Bool.true_eq_false, if_false,
        h.localMac, randBytes_shift, sendFrame_shift]
  case evSendStartAtten =>
    rw [h.localMac, h.runId_of_ne (by simp [hs]) hev, sendFrame_shift]
  case evSendMnbcSounds =>
    simp only [evSendMnbcSounds, SlacEnv.shift_send, h.localMac,
      h.runId_of_ne (by simp [hs]) hev]
  case evSendAttenRsp | evSendMatchReq =>
    rw [h.localMac, h.runId_of_ne (by simp [hs]) hev, hmac rfl, sendFrame_shift]
  case evSendValidate => rw [h.localMac, hmac rfl, sendFrame_shift]

theorem evseSend (h : AlikeContexts d ctx ctx') (hevse : ctx.isEv = false) (evMac evMac' : Mac)
    (runId runId' : Octets 8) :
    AlikeContexts d (evseSend (env.shift d) ctx evMac runId).1
      (evseSend env ctx' evMac' runId').1 := by
  have hs' := h.state
  have hid : ctx.isEv = true → ctx.runId = ctx'.runId :=
    fun hev => absurd (hevse.symm.trans hev) (by decide)
  cases hs : ctx.state <;> rw [hs] at hs' <;> simp only [EvseIso15118.evseSend, hs, ← hs']
  case evseSendMatchCnf =>
    exact ⟨h.localMac, rfl, h.isEv, h.retryCount, fun hev _ => hid hev, h.aag, h.soundCount,
      fun hl => absurd rfl hl⟩
  case evseSendParmCnf | evseSendAttenChar | evseSendValidateCnf => exact h.enterWait hid _ _
  all_goals exact h

theorem evseSend_frames (h : AlikeContexts d ctx ctx') (hevse : ctx.isEv = false)
    {evMac evMac' : Mac} {runId runId' : Octets 8}
    (hpeer : ctx.usesPeer = true → evMac = evMac' ∧ runId = runId') :
    (EvseIso15118.evseSend (env.shift d) ctx evMac runId).2 =
      (EvseIso15118.evseSend env ctx' evMac' runId').2 := by
  have hs' := h.state
  have havg : averageAag ctx = averageAag ctx' := by
    unfold averageAag
    rw [h.aag hevse, h.soundCount hevse]
  unfold SlacContext.usesPeer at hpeer
  rw [hevse] at hpeer
  cases hs : ctx.state <;> rw [hs] at hs' hpeer <;>
    simp only [EvseIso15118.evseSend, evseSendMatchCnf, hs, ← hs', randBytes_shift,
      sendFrame_shift]
  case evseSendParmCnf | evseSendMatchCnf =>
    rw [h.localMac, (hpeer rfl).1, (hpeer rfl).2]
  case evseSendAttenChar =>
    rw [h.localMac, (hpeer rfl).1, (hpeer rfl).2, h.soundCount hevse, havg]
  case evseSendValidateCnf => rw [h.localMac, (hpeer rfl).1]

end AlikeContexts

theorem Alike.contexts_step (h : Alike d p q) (hfull : ∀ data ∈ recv, FullLength data) :
    AlikeContexts d (slacStep (env.shift d) recv p).party.ctx (slacStep env recv q).party.ctx := by
  cases hw : waitOf p.ctx.isEv p.ctx.state with
  | none =>
    have hw' : waitOf q.ctx.isEv q.ctx.state = none := by
      rwa [← h.contexts.isEv, ← h.contexts.state]
    rw [slacStep_of_send hw, slacStep_of_send hw']
    cases hr : p.ctx.isEv with
    | true =>
      rw [slacSend_ev hr, slacSend_ev (h.contexts.isEv ▸ hr)]
      exact h.contexts.evSend _ _
    | false =>
      rw [slacSend_evse hr, slacSend_evse (h.contexts.isEv ▸ hr)]
      exact h.contexts.evseSend hr _ _ _ _
  | some w =>
    have hw' := h.contexts.wait hw
    by_cases ht : recv.bind frameType = some w.awaited
    · cases recv with
      | none => cases ht
      | some frame =>
        have hp : (slacStep (env.shift d) (some frame) p).party = _ :=
          stepOver_accept hw ht p.statics.buf
        have hq : (slacStep env (some frame) q).party = _ := stepOver_accept hw' ht q.statics.buf
        rw [hp, hq]
        exact h.contexts.accept hw ht (hfull frame rfl) p.statics q.statics
    · have hp : (slacStep (env.shift d) recv p).party.ctx = _ :=
        congrArg Prod.fst (slacStep_kept_of_ignored hw ht)
      have hq : (slacStep env recv q).party.ctx = _ :=
        congrArg Prod.fst (slacStep_kept_of_ignored hw' ht)
      rw [hp, hq, h.contexts.expired hw]
      split_ifs
      · exact h.contexts.timeout hw
      · exact h.contexts

theorem Alike.sent (h : Alike d p q) :
    (slacStep (env.shift d) recv p).sent = (slacStep env recv q).sent := by
  cases hw : waitOf p.ctx.isEv p.ctx.state with
  | some w => rw [slacStep_of_wait hw, slacStep_of_wait (h.contexts.wait hw)]
  | none =>
    have hw' : waitOf q.ctx.isEv q.ctx.state = none := by
      rwa [← h.contexts.isEv, ← h.contexts.state]
    rw [slacStep_of_send hw, slacStep_of_send hw']
    change (slacSend _ p).2 = (slacSend _ q).2
    have hpeer := h.peer
    unfold SlacStatics.peer at hpeer
    cases hr : p.ctx.isEv with
    | true =>
      rw [slacSend_ev hr, slacSend_ev (h.contexts.isEv ▸ hr)]
      refine h.contexts.evSend_frames hr fun huses => ?_
      have hsame := hpeer huses
      rw [hr] at hsame
      exact congrArg Prod.fst hsame
    | false =>
      rw [slacSend_evse hr, slacSend_evse (h.contexts.isEv ▸ hr)]
      refine h.contexts.evseSend_frames hr fun huses => ?_
      have hsame := hpeer huses
      rw [hr] at hsame
      exact ⟨congrArg Prod.fst hsame, Option.some_inj.mp (congrArg Prod.snd hsame)⟩

variable (env) in
theorem Alike.step (h : Alike d p q) (hfull : ∀ data ∈ recv, FullLength data) :
    Alike d (slacStep (env.shift d) recv p).party (slacStep env recv q).party := by
  refine ⟨h.contexts_step hfull, fun huses => ?_⟩
  have hstored : storedFrame q.ctx recv = storedFrame p.ctx recv := by
    rw [storedFrame, storedFrame, h.contexts.isEv, h.contexts.state]
  have hp := @slacStep_peer (env.shift d) p recv (fun data hd => (hfull data hd).covers _)
    p.ctx.isEv
  have hq := @slacStep_peer env q recv (fun data hd => (hfull data hd).covers _) p.ctx.isEv
  rw [if_pos rfl] at hp
  rw [if_pos h.contexts.isEv, hstored] at hq
  rw [slacStep_isEv, hp, hq]
  cases hframe : storedFrame p.ctx recv with
  | some frame => rfl
  | none =>
    rcases usesPeer_of_step huses with hold | hsome
    · exact h.peer hold
    · rw [hframe] at hsome
      cases hsome

end step

/-- Run lemma: the same states, the same frames, and in the end the same state. -/
theorem Alike.loop {d : UInt64} {p q : SlacParty} (h : Alike d p q)
    {is : List (SlacEnv × Option (List Byte))} (hfull : ∀ i ∈ is, ∀ data ∈ i.2, FullLength data) :
    slacLoopSeen (shiftInputs d is) p = slacLoopSeen is q ∧
      (slacLoop (shiftInputs d is) p).ctx.state = (slacLoop is q).ctx.state := by
  induction is generalizing p q with
  | nil => exact ⟨rfl, h.contexts.state⟩
  | cons i is ih =>
    have hstep := h.step i.1 (hfull i List.mem_cons_self)
    have hrest := ih hstep fun j hj => hfull j (List.mem_cons_of_mem i hj)
    change slacLoopSeen ((i.1.shift d, i.2) :: shiftInputs d is) p = _ ∧
      (slacLoop ((i.1.shift d, i.2) :: shiftInputs d is) p).ctx.state = _
    rw [slacLoopSeen, slacLoopSeen, slacLoop, slacLoop, h.contexts.state]
    split_ifs
    · exact ⟨rfl, h.contexts.state⟩
    · dsimp only
      rw [hrest.1, hstep.contexts.state, h.sent]
      exact ⟨rfl, hrest.2⟩

/-- What `slac_init` and any number of calls of `slac_run` that came to an end leave behind. -/
inductive LeftBehind (localMac : Mac) (isEv : Bool) : SlacContext → Prop
  | init : LeftBehind localMac isEv (slacInit localMac isEv)
  | run {ctx : SlacContext} (h : LeftBehind localMac isEv ctx) (st : SlacStatics)
      (is : List (SlacEnv × Option (List Byte)))
      (hend : (slacRun is ⟨ctx, st⟩).ctx.state.terminal = true) :
      LeftBehind localMac isEv (slacRun is ⟨ctx, st⟩).ctx

/-- No step changes the address, and the retries are not counted or counted as an `int`. -/
structure KeepsCount (ctx ctx' : SlacContext) : Prop where
  localMac : ctx'.localMac = ctx.localMac
  retryCount : ctx'.retryCount = ctx.retryCount ∨ ctx'.retryCount = toInt32 (ctx.retryCount + 1)

theorem slacStep_keepsCount (env : SlacEnv) (recv : Option (List Byte)) (p : SlacParty) :
    KeepsCount p.ctx (slacStep env recv p).party.ctx := by
  rcases slacStep_cases env recv rfl with
    ⟨_, _, hstep⟩ | ⟨w, hw, ⟨_, st, _, _, hstep⟩ | ⟨_, _, hstep⟩ | ⟨_, _, hstep⟩⟩
  · rw [hstep]
    cases hr : p.ctx.isEv with
    | true =>
      rw [slacSend_ev hr]
      unfold evSend evSendParmReq
      dsimp only
      split <;> (try split_ifs) <;> exact ⟨rfl, .inl rfl⟩
    | false =>
      rw [slacSend_evse hr]
      unfold evseSend evseSendMatchCnf
      split <;> exact ⟨rfl, .inl rfl⟩
  all_goals
    rw [hstep]
  · cases hr : p.ctx.isEv <;> rw [hr] at hw
    · rcases waitOf_evse hw with ⟨_, rfl⟩ | ⟨_, rfl⟩ | ⟨_, rfl⟩ | ⟨_, rfl⟩ | ⟨_, rfl⟩ | ⟨_, rfl⟩
      all_goals exact ⟨rfl, .inl rfl⟩
    · rcases waitOf_ev hw with ⟨_, rfl⟩ | ⟨_, rfl⟩ | ⟨_, rfl⟩ | ⟨_, rfl⟩
      all_goals exact ⟨rfl, .inl rfl⟩
  · cases hr : p.ctx.isEv <;> rw [hr] at hw
    · rcases waitOf_evse hw with ⟨_, rfl⟩ | ⟨_, rfl⟩ | ⟨_, rfl⟩ | ⟨_, rfl⟩ | ⟨_, rfl⟩ | ⟨_, rfl⟩
      all_goals exact ⟨rfl, .inl rfl⟩
    · rcases waitOf_ev hw with ⟨_, rfl⟩ | ⟨_, rfl⟩ | ⟨_, rfl⟩ | ⟨_, rfl⟩
      · exact ⟨rfl, .inr rfl⟩
      all_goals exact ⟨rfl, .inl rfl⟩
  · exact ⟨rfl, .inl rfl⟩

/-- A context left behind still has the role and the address it was set up with, and its count is
an `int`. -/
theorem LeftBehind.kept {localMac : Mac} {isEv : Bool} {ctx : SlacContext}
    (h : LeftBehind localMac isEv ctx) :
    ctx.localMac = localMac ∧ ctx.isEv = isEv ∧
      -2147483648 ≤ ctx.retryCount ∧ ctx.retryCount < 2147483648 := by
  induction h with
  | init => exact ⟨rfl, rfl, (by decide : (-2147483648 : ℤ) ≤ 0 ∧ (0 : ℤ) < 2147483648)⟩
  | @run ctx _ st is _ ih =>
    have hinv := slacLoop_invariant
      (I := fun _ p => p.ctx.localMac = localMac ∧ p.ctx.isEv = isEv ∧
        -2147483648 ≤ p.ctx.retryCount ∧ p.ctx.retryCount < 2147483648)
      (fun _ p env recv hp => by
        have hstep := slacStep_keepsCount env recv p
        refine ⟨hstep.localMac.trans hp.1, (slacStep_isEv env recv p).trans hp.2.1, ?_⟩
        rcases hstep.retryCount with hcount | hcount <;> rw [hcount]
        · exact hp.2.2
        · exact toInt32_bounds _)
      is [] ⟨slacRunStart ctx, st⟩ (by
        unfold slacRunStart
        split_ifs <;> exact ih)
    exact hinv

/-- From any static variables and at any time of day, a further `slac_run` goes through the states
and sends the frames of one on a fresh context, and comes to the same result. -/
def RepeatsAsFresh (localMac : Mac) (isEv : Bool) (ctx : SlacContext) : Prop :=
  ∀ (d : UInt64) (st st' : SlacStatics) (is : List (SlacEnv × Option (List Byte))),
    (∀ i ∈ is, ∀ data ∈ i.2, FullLength data) →
    slacLoopSeen (shiftInputs d is) ⟨slacRunStart ctx, st⟩ =
        slacLoopSeen is ⟨slacRunStart (slacInit localMac isEv), st'⟩ ∧
      slacResult (slacRun (shiftInputs d is) ⟨ctx, st⟩).ctx =
        slacResult (slacRun is ⟨slacInit localMac isEv, st'⟩).ctx

section rerun
variable {localMac : Mac} {isEv : Bool} {ctx : SlacContext}

/-- What `slac_run` sets is all that it needs, but for the retries of an EV. -/
theorem alike_slacRunStart (h : LeftBehind localMac isEv ctx)
    (hretry : isEv = false ∨ ctx.retryCount = 0) (d : UInt64) (st st' : SlacStatics) :
    Alike d ⟨slacRunStart ctx, st⟩ ⟨slacRunStart (slacInit localMac isEv), st'⟩ := by
  rcases h.kept with ⟨hmac, hrole, _⟩
  cases isEv with
  | true =>
    rw [slacRunStart_ev hrole, slacRunStart_ev rfl]
    refine ⟨⟨hmac, rfl, hrole, fun _ => ?_, fun _ hne => absurd rfl hne, fun hevse => ?_,
      fun hevse => ?_, fun hl => absurd rfl hl⟩, fun huses => ?_⟩
    · exact hretry.resolve_left (by simp)
    · exact absurd (hrole.symm.trans hevse) (by decide)
    · exact absurd (hrole.symm.trans hevse) (by decide)
    · cases huses
  | false =>
    rw [slacRunStart_evse hrole, slacRunStart_evse rfl]
    refine ⟨⟨hmac, rfl, hrole, fun hev => ?_, fun hev => ?_, fun _ => rfl, fun _ => rfl,
      fun hl => absurd rfl hl⟩, fun huses => ?_⟩
    · exact absurd (hrole.symm.trans hev) (by decide)
    · exact absurd (hrole.symm.trans hev) (by decide)
    · cases huses

theorem slacResult_congr {ctx ctx' : SlacContext} (h : ctx.state = ctx'.state) :
    slacResult ctx = slacResult ctx' := by
  rw [slacResult, slacResult, h]

theorem shiftInputs_zero (is : List (SlacEnv × Option (List Byte))) : shiftInputs 0 is = is := by
  unfold shiftInputs SlacEnv.shift
  simp

theorem slacLoop_unanswered {p : SlacParty} (hev : p.ctx.isEv = true)
    (hs : p.ctx.state = .evSendParmReq) {env env' : SlacEnv} (hsend : env.send 0 = true)
    (hlate : 400 < env'.millis - env.millis) (is : List (SlacEnv × Option (List Byte))) :
    ∃ q, slacLoop ((env, none) :: (env', none) :: is) p = slacLoop is q ∧ q.ctx.isEv = true ∧
      q.ctx.retryCount = toInt32 (p.ctx.retryCount + 1) ∧
      q.ctx.state =
        if 3 ≤ toInt32 (p.ctx.retryCount + 1) then .evFailed else .evSendParmReq := by
  have hw : waitOf p.ctx.isEv p.ctx.state = none := by
    rw [hev, hs]
    rfl
  have hsent : (slacStep env none p).party.ctx = { p.ctx with
      runId := randBytes env 0 8, state := .evWaitParmCnf, lastTime := env.millis } := by
    rw [slacStep_of_send hw, slacSend_ev hev]
    simp [evSend, hs, evSendParmReq, hsend]
  generalize hp' : (slacStep env none p).party = p' at hsent
  have hw' : waitOf p'.ctx.isEv p'.ctx.state = some evWaitParmCnf := by
    rw [hsent]
    change waitOf p.ctx.isEv .evWaitParmCnf = _
    rw [hev]
    rfl
  have hexp : evWaitParmCnf.expired env' p'.ctx = true := by
    rw [hsent]
    exact decide_eq_true hlate
  have hlost : (slacStep env' none p').party.ctx = evWaitParmCnf.timeout p'.ctx := by
    have hkept : (slacStep env' none p').party.ctx = _ :=
      congrArg Prod.fst (slacStep_kept_of_ignored hw' (by simp))
    rwa [if_pos hexp] at hkept
  have hrunning : p'.ctx.state.terminal = false := by
    rw [hsent]
    rfl
  refine ⟨(slacStep env' none p').party, ?_, ?_, ?_, ?_⟩
  · rw [slacLoop_cons_running (by rw [hs]; rfl), hp', slacLoop_cons_running hrunning]
  · rw [hlost, hsent]
    exact hev
  · rw [hlost, hsent]
    rfl
  · rw [hlost, hsent]
    rfl

theorem fullLength_silent (n : ℕ) :
    ∀ i ∈ firstInputs silentInputs n, ∀ data ∈ i.2, FullLength data := by
  intro i hi data hdata
  rcases List.mem_map.mp hi with ⟨k, _, rfl⟩
  cases hdata

/-- Where an EV is after `n` requests without an answer. -/
def afterUnanswered : ℕ → ℤ → SlacState
  | 0, _ => .evSendParmReq
  | n + 1, retryCount =>
    if 3 ≤ toInt32 (retryCount + 1) then .evFailed
    else afterUnanswered n (toInt32 (retryCount + 1))

theorem slacLoop_afterUnanswered (envs : List (SlacEnv × SlacEnv))
    (hlate : ∀ e ∈ envs, e.1.send 0 = true ∧ 400 < e.2.millis - e.1.millis) {p : SlacParty}
    (hev : p.ctx.isEv = true) (hs : p.ctx.state = .evSendParmReq) :
    (slacLoop (envs.flatMap fun e => [(e.1, none), (e.2, none)]) p).ctx.state =
      afterUnanswered envs.length p.ctx.retryCount := by
  induction envs generalizing p with
  | nil => exact hs
  | cons e envs ih =>
    rcases List.forall_mem_cons.mp hlate with ⟨⟨hsend, hexp⟩, hrest⟩
    rcases slacLoop_unanswered hev hs hsend hexp
      (envs.flatMap fun e => [(e.1, none), (e.2, none)]) with ⟨q, hq, hev', hcount, hstate⟩
    change (slacLoop ((e.1, none) :: (e.2, none) :: envs.flatMap _) p).ctx.state = _
    rw [hq, List.length_cons, afterUnanswered]
    split_ifs at hstate ⊢
    · rw [(slacLoop_of_terminal (by rw [hstate]; rfl) _).1, hstate]
    · rw [ih hrest hev' hstate, hcount]

theorem slacRun_silent (hrole : ctx.isEv = true) (st : SlacStatics) :
    (slacRun (firstInputs silentInputs 4) ⟨ctx, st⟩).ctx.state =
        afterUnanswered 2 ctx.retryCount ∧
      (slacRun (firstInputs silentInputs 6) ⟨ctx, st⟩).ctx.state =
        afterUnanswered 3 ctx.retryCount := by
  rw [slacRun, slacRun, slacRunStart_ev hrole]
  constructor
  · exact slacLoop_afterUnanswered [((silentInputs 0).1, (silentInputs 1).1),
      ((silentInputs 2).1, (silentInputs 3).1)] (by decide) hrole rfl
  · exact slacLoop_afterUnanswered [((silentInputs 0).1, (silentInputs 1).1),
      ((silentInputs 2).1, (silentInputs 3).1), ((silentInputs 4).1, (silentInputs 5).1)]
      (by decide) hrole rfl

theorem afterUnanswered_cases (n : ℕ) (retryCount : ℤ) :
    afterUnanswered n retryCount = .evFailed ∨ afterUnanswered n retryCount = .evSendParmReq := by
  induction n generalizing retryCount with
  | zero => exact .inr rfl
  | succ n ih =>
    rw [afterUnanswered]
    split_ifs
    · exact .inl rfl
    · exact ih _

theorem slacResult_afterUnanswered {ctx : SlacContext} {n : ℕ} {retryCount : ℤ}
    (h : ctx.state = afterUnanswered n retryCount) :
    slacResult ctx = -1 ↔ afterUnanswered n retryCount = .evFailed := by
  unfold slacResult
  rw [h]
  rcases afterUnanswered_cases n retryCount with hs | hs <;> rw [hs] <;> decide

/-- Only with no retry counted does an EV fail at the third request and not before. -/
theorem retryCount_eq_zero {retryCount : ℤ} (hlow : -2147483648 ≤ retryCount)
    (hhigh : retryCount < 2147483648) (htwo : afterUnanswered 2 retryCount ≠ .evFailed)
    (hthree : afterUnanswered 3 retryCount = .evFailed) : retryCount = 0 := by
  simp only [afterUnanswered] at htwo hthree
  split_ifs at htwo hthree with h1 h2 h3
  · exact absurd rfl htwo
  · exact absurd rfl htwo
  · have hstep (k : ℤ) (hk : -2147483648 ≤ k) (hlt : k < 2147483647) :
        toInt32 (k + 1) = k + 1 := toInt32_of_small (by omega) (by omega)
    by_cases hmax : retryCount = 2147483647
    · -- the count wraps, and is far from 3 afterwards
      subst hmax
      revert h3
      decide
    · rw [hstep retryCount hlow (by omega)] at h1 h2 h3
      rw [hstep (retryCount + 1) (by omega) (by omega)] at h2 h3
      rw [hstep (retryCount + 1 + 1) (by omega) (by omega)] at h3
      omega

/-- A context that completed runs leave behind is as good as a fresh one exactly if it is one of
an EVSE or no retry is counted in it. -/
theorem repeatsAsFresh_iff (h : LeftBehind localMac isEv ctx) :
    RepeatsAsFresh localMac isEv ctx ↔ isEv = false ∨ ctx.retryCount = 0 := by
  rcases h.kept with ⟨_, hrole, hlow, hhigh⟩
  constructor
  · intro hrepeats
    refine or_iff_not_imp_left.mpr fun hev => ?_
    rw [Bool.not_eq_false] at hev
    subst hev
    have hfour := (hrepeats 0 .zero .zero _ (fullLength_silent 4)).2
    have hsix := (hrepeats 0 .zero .zero _ (fullLength_silent 6)).2
    -- a fresh one is at its third attempt after four steps, and has failed after six
    have hfresh := @slacRun_silent (slacInit localMac true) rfl .zero
    have hsilent := slacRun_silent hrole .zero
    rw [shiftInputs_zero] at hfour hsix
    apply retryCount_eq_zero hlow hhigh
    · intro hfailed
      have hearly := (slacResult_afterUnanswered hsilent.1).mpr hfailed
      rw [hfour] at hearly
      exact absurd ((slacResult_afterUnanswered hfresh.1).mp hearly)
        (by decide : afterUnanswered 2 0 ≠ .evFailed)
    · apply (slacResult_afterUnanswered hsilent.2).mp
      rw [hsix]
      exact (slacResult_afterUnanswered hfresh.2).mpr
        (by decide : afterUnanswered 3 0 = .evFailed)
  · intro hretry d st st' is hfull
    have hloop := (alike_slacRunStart h hretry d st st').loop hfull
    exact ⟨hloop.1, slacResult_congr hloop.2⟩

end rerun

/-- After a match at the first attempt an EV can be run again. -/
theorem repeatsAsFresh_iff_matched :
    RepeatsAsFresh (fun _ => 2) true
      (slacRun (firstInputs matchingInputs 10) ⟨slacInit (fun _ => 2) true, .zero⟩).ctx :=
  (repeatsAsFresh_iff (.run .init .zero _ (by decide +kernel))).mpr (Or.inr (by decide +kernel))

def unansweredEv : SlacContext :=
  (slacRun (firstInputs silentInputs 6) ⟨slacInit (fun _ => 2) true, .zero⟩).ctx

/-- An EV left by a run without any answer makes one attempt where a fresh one makes three. -/
theorem unansweredEv_not_repeated :
    LeftBehind (fun _ => 2) true unansweredEv ∧
    parmReqCount (slacRunSent (firstInputs silentInputs 6) ⟨unansweredEv, .zero⟩) = 1 ∧
    parmReqCount (slacRunSent (firstInputs silentInputs 6) ⟨slacInit (fun _ => 2) true, .zero⟩) =
      3 ∧
    ¬ RepeatsAsFresh (fun _ => 2) true unansweredEv := by
  refine ⟨.run .init .zero _ (by decide +kernel), by decide +kernel, by decide +kernel, ?_⟩
  intro h
  have hsame := (h 0 .zero .zero _ (fullLength_silent 4)).2
  revert hsame
  decide +kernel

end EvseIso15118
