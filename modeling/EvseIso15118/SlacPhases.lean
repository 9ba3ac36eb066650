import EvseIso15118.SlacIsolation

namespace EvseIso15118

/-- The frame a step consumes: it is of the type that the state awaits. -/
def consumedBy (p : SlacParty) (recv : Option (List Byte)) : Option (List Byte) :=
  (waitOf p.ctx.isEv p.ctx.state).bind fun w =>
    recv.filter fun frame => frameType frame = some w.awaited

/-- The frames that the loop of `slac_run` consumes, in order. -/
def loopConsumed : List (SlacEnv × Option (List Byte)) → SlacParty → List (List Byte)
  | [], _ => []
  | i :: is, p =>
    if p.ctx.state.terminal then []
    else (consumedBy p i.2).toList ++ loopConsumed is (slacStep i.1 i.2 p).party

/-- The frames that `slac_run` consumes. -/
def slacConsumed (inputs : List (SlacEnv × Option (List Byte))) (p : SlacParty) :
    List (List Byte) := loopConsumed inputs { p with ctx := slacRunStart p.ctx }

/-- What a log says of the steps of the loop of `slac_run`, in order. -/
def loopLog {α : Type*} (log : SlacEnv → Option (List Byte) → SlacParty → List α) :
    List (SlacEnv × Option (List Byte)) → SlacParty → List α
  | [], _ => []
  | i :: is, p =>
    if p.ctx.state.terminal then []
    else log i.1 i.2 p ++ loopLog log is (slacStep i.1 i.2 p).party

theorem loopLog_invariant {α : Type*} {log : SlacEnv → Option (List Byte) → SlacParty → List α}
    {I : List α → SlacParty → Prop}
    (hstep : ∀ entries p env recv, I entries p →
      I (entries ++ log env recv p) (slacStep env recv p).party)
    (is : List (SlacEnv × Option (List Byte))) (entries : List α) (p : SlacParty)
    (h : I entries p) : I (entries ++ loopLog log is p) (slacLoop is p) := by
  induction is generalizing entries p with
  | nil => simpa [loopLog, slacLoop] using h
  | cons i is ih =>
    rw [loopLog, slacLoop]
    split_ifs
    · simpa using h
    · rw [← List.append_assoc]
      exact ih _ _ (hstep _ _ _ _ h)

theorem loopLog_append {α : Type*} (log : SlacEnv → Option (List Byte) → SlacParty → List α)
    (is js : List (SlacEnv × Option (List Byte))) (p : SlacParty) :
    loopLog log (is ++ js) p = loopLog log is p ++ loopLog log js (slacLoop is p) := by
  induction is generalizing p with
  | nil => rfl
  | cons i is ih =>
    rw [List.cons_append, loopLog, loopLog, slacLoop]
    split_ifs with hend
    · cases js with
      | nil => rfl
      | cons j js => rw [loopLog, if_pos hend, List.append_nil]
    · rw [ih, List.append_assoc]

theorem loopConsumed_eq_loopLog (is : List (SlacEnv × Option (List Byte))) (p : SlacParty) :
    loopConsumed is p = loopLog (fun _ recv p => (consumedBy p recv).toList) is p := by
  induction is generalizing p with
  | nil => rfl
  | cons i is ih => rw [loopConsumed, loopLog, ih]

theorem slacLoop_invariant {I : List (List Byte) → SlacParty → Prop}
    (hstep : ∀ frames p env recv, I frames p →
      I (frames ++ (consumedBy p recv).toList) (slacStep env recv p).party)
    (is : List (SlacEnv × Option (List Byte))) (frames : List (List Byte)) (p : SlacParty)
    (h : I frames p) : I (frames ++ loopConsumed is p) (slacLoop is p) := by
  rw [loopConsumed_eq_loopLog]
  exact loopLog_invariant hstep is frames p h

theorem slacRun_isEv (is : List (SlacEnv × Option (List Byte))) (p : SlacParty) :
    (slacRun is p).ctx.isEv = p.ctx.isEv := by
  refine slacLoop_invariant (I := fun _ q => q.ctx.isEv = p.ctx.isEv) ?_ is [] _ ?_
  · intro _ q env recv hq
    exact (slacStep_isEv env recv q).trans hq
  · change (slacRunStart p.ctx).isEv = _
    unfold slacRunStart
    split_ifs <;> rfl

/-- The types of the frames consumed on the way to a state, where it says so. -/
def consumedTypes (ctx : SlacContext) : Option (List UInt16) :=
  let sounds := List.replicate ctx.soundCount.toNat mmeCmMnbcSoundInd
  match ctx.state with
  | .evSendParmReq | .evWaitParmCnf | .evseWaitParmReq => some []
  | .evSendStartAtten | .evSendMnbcSounds | .evWaitAttenChar => some [mmeCmSlacParmCnf]
  | .evSendAttenRsp | .evSendValidate | .evWaitValidateCnf =>
    some [mmeCmSlacParmCnf, mmeCmAttenCharInd]
  | .evSendMatchReq | .evWaitMatchCnf =>
    some [mmeCmSlacParmCnf, mmeCmAttenCharInd, mmeCmValidateCnf]
  | .evMatched =>
    some [mmeCmSlacParmCnf, mmeCmAttenCharInd, mmeCmValidateCnf, mmeCmSlacMatchCnf]
  | .evseSendParmCnf | .evseWaitStartAtten => some [mmeCmSlacParmReq]
  | .evseCollectSounds | .evseSendAttenChar | .evseWaitAttenRsp =>
    some ([mmeCmSlacParmReq, mmeCmStartAttenInd] ++ sounds)
  | .evseWaitValidateReq =>
    some ([mmeCmSlacParmReq, mmeCmStartAttenInd] ++ sounds ++ [mmeCmAttenCharRsp])
  | .evseSendValidateCnf | .evseWaitMatchReq =>
    some ([mmeCmSlacParmReq, mmeCmStartAttenInd] ++ sounds ++
      [mmeCmAttenCharRsp, mmeCmValidateReq])
  | .evseSendMatchCnf | .evseMatched =>
    some ([mmeCmSlacParmReq, mmeCmStartAttenInd] ++ sounds ++
      [mmeCmAttenCharRsp, mmeCmValidateReq, mmeCmSlacMatchReq])
  | .evIdle | .evFailed | .evseIdle | .evseFailed => none

/-- SLAC_EVSE_SEND_ATTEN_CHAR and what comes after it, failure apart. -/
def SlacState.soundsCollected : SlacState → Bool
  | .evseSendAttenChar | .evseWaitAttenRsp | .evseWaitValidateReq | .evseSendValidateCnf
  | .evseWaitMatchReq | .evseSendMatchCnf | .evseMatched => true
  | _ => false

/-- The sound count of an EVSE is in range. -/
structure SoundsInRange (ctx : SlacContext) : Prop where
  le : ctx.soundCount.toNat ≤ numSounds
  collecting : ctx.state = .evseCollectSounds → ctx.soundCount.toNat < numSounds
  collected : ctx.state.soundsCollected = true → 1 ≤ ctx.soundCount.toNat

theorem UInt8.toNat_succ {n : UInt8} (h : n.toNat < numSounds) : (n + 1).toNat = n.toNat + 1 := by
  have h10 : n.toNat < 10 := h
  rw [UInt8.toNat_add]
  exact Nat.mod_eq_of_lt (by change n.toNat + 1 < 256; omega)

theorem UInt8.ten_le_succ_iff {n : UInt8} (h : n.toNat < numSounds) :
    10 ≤ n + 1 ↔ n.toNat + 1 = numSounds := by
  rw [UInt8.le_iff_toNat_le, UInt8.toNat_succ h]
  exact ⟨fun hle => le_antisymm h hle, fun heq => heq.ge⟩

section step
variable {env : SlacEnv} {p : SlacParty} {recv : Option (List Byte)} {w : Wait}

theorem consumedBy_of_wait (hw : waitOf p.ctx.isEv p.ctx.state = some w) :
    consumedBy p recv = recv.filter fun frame => frameType frame = some w.awaited := by
  rw [consumedBy, hw, Option.bind_some]

variable (env recv) in
theorem slacStep_wait_cases (hw : waitOf p.ctx.isEv p.ctx.state = some w) :
    (∃ frame, recv = some frame ∧ consumedBy p recv = some frame ∧
      frameType frame = some w.awaited ∧
      (slacStep env recv p).party =
        ⟨(w.accept env p.ctx { p.statics with buf := recvInto p.statics.buf frame }).1,
          (w.accept env p.ctx { p.statics with buf := recvInto p.statics.buf frame }).2⟩) ∨
    (consumedBy p recv = none ∧ (slacStep env recv p).party.ctx =
      if w.expired env p.ctx then w.timeout p.ctx else p.ctx) := by
  by_cases ht : recv.bind frameType = some w.awaited
  · left
    cases recv with
    | none => cases ht
    | some frame =>
      have htype : frameType frame = some w.awaited := ht
      refine ⟨frame, rfl, ?_, htype, stepOver_accept hw htype _⟩
      rw [consumedBy_of_wait hw, Option.filter_some, if_pos (by simpa using htype)]
  · right
    refine ⟨?_, congrArg Prod.fst (slacStep_kept_of_ignored hw ht)⟩
    rw [consumedBy_of_wait hw]
    cases recv with
    | none => rfl
    | some frame => exact if_neg (by simpa using ht)

theorem consumedBy_of_send (hw : waitOf p.ctx.isEv p.ctx.state = none) :
    consumedBy p recv = none := by
  rw [consumedBy, hw, Option.bind_none]

variable (env recv) in
/-- All that a step can do to the context: it sends, it accepts the frame it consumes, its time is
over, or it waits on. -/
theorem slacStep_cases {r : Bool} (hr : p.ctx.isEv = r) :
    (waitOf r p.ctx.state = none ∧ consumedBy p recv = none ∧
      (slacStep env recv p).party.ctx = (slacSend env p).1) ∨
    ∃ w, waitOf r p.ctx.state = some w ∧
      ((∃ frame st, consumedBy p recv = some frame ∧ frameType frame = some w.awaited ∧
          (slacStep env recv p).party.ctx = (w.accept env p.ctx st).1) ∨
        (consumedBy p recv = none ∧ w.expired env p.ctx = true ∧
          (slacStep env recv p).party.ctx = w.timeout p.ctx) ∨
        (consumedBy p recv = none ∧ w.expired env p.ctx = false ∧
          (slacStep env recv p).party.ctx = p.ctx)) := by
  subst hr
  cases hw : waitOf p.ctx.isEv p.ctx.state with
  | none =>
    rw [slacStep_of_send hw]
    exact Or.inl ⟨rfl, consumedBy_of_send hw, rfl⟩
  | some w =>
    refine Or.inr ⟨w, rfl, ?_⟩
    rcases slacStep_wait_cases env recv hw with ⟨frame, _, hc, htype, hstep⟩ | ⟨hc, hstep⟩
    · exact Or.inl ⟨frame, _, hc, htype, congrArg SlacParty.ctx hstep⟩
    · right
      rw [hstep]
      cases w.expired env p.ctx
      · exact Or.inr ⟨hc, rfl, rfl⟩
      · exact Or.inl ⟨hc, rfl, rfl⟩

theorem consumedTypes_slacSend :
    (consumedTypes (slacSend env p).1 = none ∨
      consumedTypes (slacSend env p).1 = consumedTypes p.ctx) ∧
    (slacSend env p).1.soundCount = p.ctx.soundCount := by
  unfold slacSend
  split_ifs with hr
  · cases hs : p.ctx.state
    case evSendParmReq =>
      simp only [evSend, evSendParmReq, hs]
      split_ifs
      · exact ⟨Or.inl rfl, rfl⟩
      · exact ⟨Or.inr (by rw [consumedTypes, consumedTypes, hs]), rfl⟩
    all_goals
      refine ⟨Or.inr ?_, ?_⟩
      · simp only [evSend, consumedTypes, hs]
      · simp only [evSend, hs]
  · cases hs : p.ctx.state
    all_goals
      refine ⟨Or.inr ?_, ?_⟩
      · simp only [evseSend, evseSendMatchCnf, consumedTypes, hs]
      · simp only [evseSend, evseSendMatchCnf, hs]

theorem consumedTypes_timeout {r : Bool} (ctx : SlacContext) (hw : waitOf r ctx.state = some w) :
    consumedTypes (w.timeout ctx) = none ∨ consumedTypes (w.timeout ctx) = consumedTypes ctx := by
  cases r with
  | true =>
    rcases waitOf_ev hw with ⟨hs, rfl⟩ | ⟨_, rfl⟩ | ⟨_, rfl⟩ | ⟨_, rfl⟩
    · simp only [evWaitParmCnf, consumedTypes, hs]
      split_ifs
      · exact Or.inl rfl
      · exact Or.inr rfl
    all_goals exact Or.inl rfl
  | false =>
    rcases waitOf_evse hw with
      ⟨hs, rfl⟩ | ⟨_, rfl⟩ | ⟨hs, rfl⟩ | ⟨_, rfl⟩ | ⟨_, rfl⟩ | ⟨_, rfl⟩
    · exact Or.inr rfl
    case inr.inr.inl =>
      simp only [evseCollectSounds, consumedTypes, hs]
      split_ifs
      · exact Or.inr rfl
      · exact Or.inl rfl
    all_goals exact Or.inl rfl

theorem consumedTypes_accept {r : Bool} (ctx : SlacContext) (hw : waitOf r ctx.state = some w)
    (hrange : r = false → SoundsInRange ctx) (st : SlacStatics) :
    consumedTypes (w.accept env ctx st).1 = none ∨
      ∃ types, consumedTypes ctx = some types ∧
        consumedTypes (w.accept env ctx st).1 = some (types ++ [w.awaited]) := by
  cases r with
  | true =>
    rcases waitOf_ev hw with ⟨hs, rfl⟩ | ⟨hs, rfl⟩ | ⟨hs, rfl⟩ | ⟨hs, rfl⟩
    case inr.inr.inl =>
      simp only [evWaitValidateCnf, consumedTypes, hs]
      split_ifs
      · exact Or.inr ⟨_, rfl, rfl⟩
      · exact Or.inl rfl
    all_goals
      refine Or.inr ⟨_, by rw [consumedTypes, hs], ?_⟩
      rfl
  | false =>
    rcases waitOf_evse hw with
      ⟨hs, rfl⟩ | ⟨hs, rfl⟩ | ⟨hs, rfl⟩ | ⟨hs, rfl⟩ | ⟨hs, rfl⟩ | ⟨hs, rfl⟩
    case inr.inr.inl =>
      -- one more sound in the count
      right
      refine ⟨_, by rw [consumedTypes, hs], ?_⟩
      have hsucc := UInt8.toNat_succ ((hrange rfl).collecting hs)
      simp only [evseCollectSounds, consumedTypes, hs, hsucc, List.replicate_succ']
      split_ifs
      all_goals simp only [List.append_assoc]
    all_goals
      right
      refine ⟨_, by rw [consumedTypes, hs], ?_⟩
      simp [evseWaitParmReq, evseWaitStartAtten, evseWaitAttenRsp, evseWaitValidateReq,
        evseWaitMatchReq, consumedTypes]

/-- Step lemma: the types a state speaks of are those before the step and the one consumed. -/
theorem consumedTypes_step (hrange : p.ctx.isEv = false → SoundsInRange p.ctx)
    {types' : List UInt16} (h : consumedTypes (slacStep env recv p).party.ctx = some types') :
    ∃ types, consumedTypes p.ctx = some types ∧
      types'.map some = types.map some ++ (consumedBy p recv).toList.map frameType := by
  rcases slacStep_cases env recv rfl with
    ⟨_, hc, hstep⟩ | ⟨w, hw, ⟨frame, st, hc, htype, hstep⟩ | ⟨hc, _, hstep⟩ | ⟨hc, _, hstep⟩⟩
  · rw [hstep] at h
    rcases (@consumedTypes_slacSend env p).1 with hn | he
    · rw [hn] at h
      cases h
    · rw [he] at h
      exact ⟨types', h, by simp [hc]⟩
  · rw [hstep] at h
    rcases consumedTypes_accept p.ctx hw hrange st with hn | ⟨types, ht, hacc⟩
    · rw [hn] at h
      cases h
    · rw [hacc] at h
      cases h
      exact ⟨types, ht, by simp [hc, htype]⟩
  · -- a timeout takes no frame
    rw [hstep] at h
    rcases consumedTypes_timeout p.ctx hw with hn | he
    · rw [hn] at h
      cases h
    · rw [he] at h
      exact ⟨types', h, by simp [hc]⟩
  · rw [hstep] at h
    exact ⟨types', h, by simp [hc]⟩

namespace SoundsInRange
variable {ctx : SlacContext}

theorem fail (h : SoundsInRange ctx) : SoundsInRange (evseFail ctx) :=
  ⟨h.le, by simp [evseFail], by simp [evseFail, SlacState.soundsCollected]⟩

theorem send (h : SoundsInRange ctx) (evMac : Mac) (runId : Octets 8) :
    SoundsInRange (evseSend env ctx evMac runId).1 := by
  unfold evseSend
  split
  case h_5 => exact h
  case h_1 => exact ⟨h.le, by simp, by simp [SlacState.soundsCollected]⟩
  all_goals
    rename_i hs
    exact ⟨h.le, by simp [evseSendMatchCnf], fun _ => h.collected (by rw [hs]; rfl)⟩

theorem sound (h : SoundsInRange ctx) (hs : ctx.state = .evseCollectSounds) (st : SlacStatics) :
    SoundsInRange (evseCollectSounds.accept env ctx st).1 := by
  have hlt := h.collecting hs
  have hsucc := UInt8.toNat_succ hlt
  refine ⟨?_, ?_, ?_⟩
  · change (ctx.soundCount + 1).toNat ≤ numSounds
    omega
  · intro hstate
    change (ctx.soundCount + 1).toNat < numSounds
    dsimp only [evseCollectSounds] at hstate
    split_ifs at hstate with hten
    rw [UInt8.ten_le_succ_iff hlt] at hten
    omega
  · intro _
    change 1 ≤ (ctx.soundCount + 1).toNat
    omega

theorem accept (h : SoundsInRange ctx) (hw : waitOf false ctx.state = some w) (st : SlacStatics) :
    SoundsInRange (w.accept env ctx st).1 := by
  rcases waitOf_evse hw with
    ⟨hs, rfl⟩ | ⟨hs, rfl⟩ | ⟨hs, rfl⟩ | ⟨hs, rfl⟩ | ⟨hs, rfl⟩ | ⟨hs, rfl⟩
  · exact ⟨h.le, by simp [evseWaitParmReq], by simp [evseWaitParmReq, SlacState.soundsCollected]⟩
  · exact ⟨Nat.zero_le _, fun _ => Nat.succ_pos 9,
      by simp [evseWaitStartAtten, SlacState.soundsCollected]⟩
  · exact h.sound hs st
  all_goals
    exact ⟨h.le, by simp [evseWaitAttenRsp, evseWaitValidateReq, evseWaitMatchReq],
      fun _ => h.collected (by rw [hs]; rfl)⟩

theorem timeout (h : SoundsInRange ctx) (hw : waitOf false ctx.state = some w) :
    SoundsInRange (w.timeout ctx) := by
  rcases waitOf_evse hw with ⟨_, rfl⟩ | ⟨_, rfl⟩ | ⟨_, rfl⟩ | ⟨_, rfl⟩ | ⟨_, rfl⟩ | ⟨_, rfl⟩
  · exact h
  case inr.inr.inl =>
    -- the collection goes on to the answer only with a sound
    refine ⟨h.le, ?_, ?_⟩
    · intro hstate
      dsimp only [evseCollectSounds] at hstate
      split_ifs at hstate
    · intro hstate
      dsimp only [evseCollectSounds] at hstate ⊢
      split_ifs at hstate with hpos
      · exact UInt8.lt_iff_toNat_lt.mp hpos
      · cases hstate
  all_goals exact h.fail

theorem step (h : SoundsInRange p.ctx) (hevse : p.ctx.isEv = false) :
    SoundsInRange (slacStep env recv p).party.ctx := by
  rcases slacStep_cases env recv hevse with
    ⟨_, _, hstep⟩ | ⟨w, hw, ⟨_, st, _, _, hstep⟩ | ⟨_, _, hstep⟩ | ⟨_, _, hstep⟩⟩
  · rw [hstep, slacSend_evse hevse]
    exact h.send p.statics.evMac p.statics.runId
  · rw [hstep]
    exact h.accept hw st
  · rw [hstep]
    exact h.timeout hw
  · rw [hstep]
    exact h

end SoundsInRange

theorem evStep_of_failed (hs : p.ctx.state = .evFailed) :
    (slacStep env recv p).party.ctx.state = .evFailed := by
  have hw : waitOf p.ctx.isEv p.ctx.state = none := by
    rw [hs]
    cases p.ctx.isEv <;> rfl
  rw [slacStep_of_send hw]
  change (slacSend env p).1.state = .evFailed
  unfold slacSend evSend evseSend
  rw [hs]
  split_ifs <;> exact hs

theorem evStep_validated (hev : p.ctx.isEv = true) {frame : List Byte}
    (hc : consumedBy p recv = some frame) (htype : frameType frame = some mmeCmValidateCnf)
    (hlen : 21 ≤ frame.length) (hok : (slacStep env recv p).party.ctx.state ≠ .evFailed) :
    byteAt frame 20 = 0x00 := by
  cases hw : waitOf p.ctx.isEv p.ctx.state with
  | none =>
    rw [consumedBy_of_send hw] at hc
    cases hc
  | some w =>
    rcases slacStep_wait_cases env recv hw with ⟨frame', _, hc', htype', hstep⟩ | ⟨hc', _⟩
    · rw [hc] at hc'
      cases hc'
      rw [htype, Option.some_inj] at htype'
      rw [hev] at hw
      rw [hstep] at hok
      rcases waitOf_ev hw with ⟨_, rfl⟩ | ⟨_, rfl⟩ | ⟨_, rfl⟩ | ⟨_, rfl⟩
      case inr.inr.inl =>
        dsimp only [evWaitValidateCnf] at hok
        rw [octetAt_recvInto hlen (by decide)] at hok
        by_contra hne
        rw [if_neg hne] at hok
        exact hok rfl
      all_goals exact absurd htype' (by decide)
    · rw [hc] at hc'
      cases hc'

end step

/-- The frames consumed have the types that the state speaks of. -/
def PhasesMatch (frames : List (List Byte)) (ctx : SlacContext) : Prop :=
  ∀ types, consumedTypes ctx = some types → frames.map frameType = types.map some

theorem PhasesMatch.step {frames : List (List Byte)} {p : SlacParty}
    (h : PhasesMatch frames p.ctx) (hrange : p.ctx.isEv = false → SoundsInRange p.ctx)
    (env : SlacEnv) (recv : Option (List Byte)) :
    PhasesMatch (frames ++ (consumedBy p recv).toList) (slacStep env recv p).party.ctx := by
  intro types' ht
  rcases consumedTypes_step hrange ht with ⟨types, hold, hnew⟩
  rw [List.map_append, h types hold, hnew]

theorem evse_phases {p : SlacParty} (hevse : p.ctx.isEv = false)
    (is : List (SlacEnv × Option (List Byte))) :
    PhasesMatch (slacConsumed is p) (slacRun is p).ctx ∧ SoundsInRange (slacRun is p).ctx := by
  have hinv := slacLoop_invariant
    (I := fun frames p => p.ctx.isEv = false ∧ PhasesMatch frames p.ctx ∧ SoundsInRange p.ctx)
    (fun frames p env recv h => ⟨(slacStep_isEv env recv p).trans h.1,
      h.2.1.step (fun _ => h.2.2) env recv, h.2.2.step h.1⟩)
    is [] { p with ctx := slacRunStart p.ctx }
    (by
      rw [slacRunStart_evse hevse]
      refine ⟨hevse, ?_, Nat.zero_le _, by simp, by simp [SlacState.soundsCollected]⟩
      rintro types ⟨⟩
      rfl)
  exact hinv.2

/-- Every CM_VALIDATE.CNF with a result has result 0, unless the EV has failed. -/
def ValidResults (frames : List (List Byte)) (ctx : SlacContext) : Prop :=
  ctx.state ≠ .evFailed → ∀ frame ∈ frames, frameType frame = some mmeCmValidateCnf →
    21 ≤ frame.length → byteAt frame 20 = 0x00

theorem ValidResults.step {frames : List (List Byte)} {p : SlacParty} (hev : p.ctx.isEv = true)
    (h : ValidResults frames p.ctx) (env : SlacEnv) (recv : Option (List Byte)) :
    ValidResults (frames ++ (consumedBy p recv).toList) (slacStep env recv p).party.ctx := by
  intro hok frame hmem htype hlen
  rcases List.mem_append.mp hmem with hold | hnew
  · exact h (fun hf => hok (evStep_of_failed hf)) frame hold htype hlen
  · exact evStep_validated hev (Option.mem_toList.mp hnew) htype hlen hok

theorem ev_phases {p : SlacParty} (hev : p.ctx.isEv = true)
    (is : List (SlacEnv × Option (List Byte))) :
    PhasesMatch (slacConsumed is p) (slacRun is p).ctx ∧
      ValidResults (slacConsumed is p) (slacRun is p).ctx := by
  have hinv := slacLoop_invariant
    (I := fun frames p => p.ctx.isEv = true ∧ PhasesMatch frames p.ctx ∧ ValidResults frames p.ctx)
    (fun frames p env recv h => ⟨(slacStep_isEv env recv p).trans h.1,
      h.2.1.step (fun hf => absurd (h.1.symm.trans hf) (by decide)) env recv,
      h.2.2.step h.1 env recv⟩)
    is [] { p with ctx := slacRunStart p.ctx }
    (by
      rw [slacRunStart_ev hev]
      refine ⟨hev, ?_, by simp [ValidResults]⟩
      rintro types ⟨⟩
      rfl)
  exact hinv.2

/-- `result` of a CM_VALIDATE.CNF. -/
def HasResult (frame : List Byte) (result : Byte) : Prop :=
  21 ≤ frame.length ∧ byteAt frame 20 = result

/-- All that an EVSE has to consume, in this order: 1 to 10 sounds among them. -/
def EvsePhases (frames : List (List Byte)) : Prop :=
  ∃ n, 1 ≤ n ∧ n ≤ numSounds ∧ frames.map frameType =
    ([mmeCmSlacParmReq, mmeCmStartAttenInd] ++ List.replicate n mmeCmMnbcSoundInd ++
      [mmeCmAttenCharRsp, mmeCmValidateReq, mmeCmSlacMatchReq]).map some

/-- All that an EV has to consume, in this order. -/
def EvPhases (frames : List (List Byte)) : Prop :=
  ∃ parmCnf attenCharInd validateCnf matchCnf,
    frames = [parmCnf, attenCharInd, validateCnf, matchCnf] ∧
    frameType parmCnf = some mmeCmSlacParmCnf ∧ frameType attenCharInd = some mmeCmAttenCharInd ∧
    frameType validateCnf = some mmeCmValidateCnf ∧ HasResult validateCnf 0x00 ∧
    frameType matchCnf = some mmeCmSlacMatchCnf

/-- What an EV that is matched has consumed: the four confirmations in their order, and the
third has result 0 exactly if it is long enough to have one. -/
theorem evPhases_iff {frames : List (List Byte)} {ctx : SlacContext} (hs : ctx.state = .evMatched)
    (h : PhasesMatch frames ctx) (hvalid : ValidResults frames ctx) :
    EvPhases frames ↔
      ∀ frame ∈ frames, frameType frame = some mmeCmValidateCnf → 21 ≤ frame.length := by
  have htypes := h _ (by rw [consumedTypes, hs])
  simp only [List.map_cons, List.map_nil, List.map_eq_cons_iff, List.map_eq_nil_iff] at htypes
  rcases htypes with ⟨a, _, rfl, ha, b, _, rfl, hb, c, _, rfl, hc, d, _, rfl, hd, rfl⟩
  have hresult := hvalid (by rw [hs]; simp) c (by simp) hc
  constructor
  · rintro ⟨_, _, _, _, heq, _, _, _, hres, _⟩ frame hmem htype
    simp only [List.cons.injEq, and_true] at heq
    rcases heq with ⟨rfl, rfl, rfl, rfl⟩
    simp only [List.mem_cons, List.not_mem_nil, or_false] at hmem
    rcases hmem with rfl | rfl | rfl | rfl
    · rw [ha] at htype
      cases htype
    · rw [hb] at htype
      cases htype
    · exact hres.1
    · rw [hd] at htype
      cases htype
  · intro hlong
    have hlen := hlong c (by simp) hc
    exact ⟨a, b, c, d, rfl, ha, hb, hc, ⟨hlen, hresult hlen⟩, hd⟩

/-- Whatever frames arrive and whatever the clock says: the sounds of an EVSE stay in range and
it is matched only behind all its phases. So is an EV, exactly if each CM_VALIDATE.CNF that it
takes is long enough to have a result. -/
theorem slac_phases_in_order (is : List (SlacEnv × Option (List Byte))) (p : SlacParty) :
    (p.ctx.isEv = false →
      SoundsInRange (slacRun is p).ctx ∧
      ((slacRun is p).ctx.state = .evseMatched → EvsePhases (slacConsumed is p))) ∧
    (p.ctx.isEv = true → (slacRun is p).ctx.state = .evMatched →
      (slacConsumed is p).map frameType =
        [mmeCmSlacParmCnf, mmeCmAttenCharInd, mmeCmValidateCnf, mmeCmSlacMatchCnf].map some ∧
      (EvPhases (slacConsumed is p) ↔
        ∀ frame ∈ slacConsumed is p, frameType frame = some mmeCmValidateCnf →
          21 ≤ frame.length)) := by
  constructor
  · intro hevse
    rcases evse_phases hevse is with ⟨hphases, hrange⟩
    refine ⟨hrange, ?_⟩
    intro hs
    refine ⟨_, hrange.collected (by rw [hs]; rfl), hrange.le, ?_⟩
    exact hphases _ (by rw [consumedTypes, hs])
  · intro hev hs
    rcases ev_phases hev is with ⟨hphases, hvalid⟩
    exact ⟨hphases _ (by rw [consumedTypes, hs]), evPhases_iff hs hphases hvalid⟩

/-- With a whole CM_VALIDATE.CNF the EV is matched behind all its phases. -/
theorem slac_phases_in_order_untilMatchReq :
    EvPhases (slacConsumed (untilMatchReq ++ [(quietAt 240, some foreignMatchCnf)])
      ⟨slacInit (fun _ => 2) true, .zero⟩) := by
  have h := (slac_phases_in_order (untilMatchReq ++ [(quietAt 240, some foreignMatchCnf)])
    ⟨slacInit (fun _ => 2) true, .zero⟩).2 rfl (by decide +kernel)
  exact h.2.mpr (by decide +kernel)

/-- A run in which the CM_VALIDATE.CNF is cut after its header. The result read is the first byte
of the address in the CM_ATTEN_CHAR.IND before it. -/
def unvalidatedRun : List (SlacEnv × Option (List Byte)) :=
  let runId : Octets 8 := fun i => UInt8.ofNat (16 + i)
  let ev : Mac := fun _ => 2
  let evse : Mac := fun i => UInt8.ofNat i
  [(quietAt 0, none), (quietAt 10, some (cmSlacParmCnf ev evse runId)), (quietAt 10, none),
    (quietAt 210, none), (quietAt 220, some (cmAttenCharInd ev evse runId 10 fun _ => 30)),
    (quietAt 220, none), (quietAt 220, none),
    (quietAt 230, some (buildHdr ev evse mmeCmValidateCnf)), (quietAt 230, none),
    (quietAt 240, some (cmSlacMatchCnf ev evse runId (fun _ => 1) fun _ => 0))]

/-- The EV is matched without a CM_VALIDATE.CNF with result 0. -/
theorem matched_without_result :
    (slacRun unvalidatedRun ⟨slacInit (fun _ => 2) true, .zero⟩).ctx.state = .evMatched ∧
      ¬ EvPhases (slacConsumed unvalidatedRun ⟨slacInit (fun _ => 2) true, .zero⟩) := by
  have hcut : ∀ frame ∈ (slacConsumed unvalidatedRun ⟨slacInit (fun _ => 2) true, .zero⟩)[2]?,
      frame.length = 18 := by decide +kernel
  refine ⟨by decide +kernel, ?_⟩
  rintro ⟨a, b, c, d, heq, _, _, _, hres, _⟩
  have hlen := hcut c (by rw [heq]; rfl)
  exact absurd hres.1 (by omega)

end EvseIso15118
