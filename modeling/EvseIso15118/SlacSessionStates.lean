import EvseIso15118.SlacDriving
import EvseIso15118.SlacIntegration

namespace EvseIso15118

open Ownership

/-- The context of a session that is to match, or has matched, is new, or has matched with the keys
of the session. There is none before and after an error. -/
structure SlacSession.Consistent (sess : SlacSession) : Prop where
  known : sess.state ∈ [SeccState.idle, .slacInit, .slacMatching, .slacMatched, .tlsHandshake,
    .error]
  fresh : sess.state ∈ [SeccState.slacInit, .slacMatching] → ∀ b, sess.slacCtx = some b →
    b.ctx = slacInit b.ctx.localMac true
  matched : sess.state ∈ [SeccState.slacMatched, .tlsHandshake] → ∀ b, sess.slacCtx = some b →
    slacResult b.ctx = 1 ∧ sess.slacNmk = b.ctx.nmk ∧ sess.slacNid = b.ctx.nid
  released : sess.state ∈ [SeccState.idle, .error] → sess.slacCtx = none

theorem ensures_slacRunCalls (fuel : ℕ) (b : SlacBlock) (st : SlacStatics) :
    Ensures (slacRunCalls fuel b st) fun r => ∀ t, r = some t → 0 ≤ t.1 →
      slacResult t.2.1.ctx = 1 := by
  apply (ensures_of_forall fun _ => trivial).bind
  rintro (_ | ⟨next, st'⟩) -
  · rintro t ⟨⟩
  dsimp only
  split_ifs with hev hevse
  · rintro t ⟨⟩ -
    exact (slacResult_eq_one_iff next.ctx).mpr (Or.inl hev)
  · rintro t ⟨⟩ -
    exact (slacResult_eq_one_iff next.ctx).mpr (Or.inr hevse)
  · rintro t ⟨⟩ hret
    exact absurd hret (not_le.mpr neg_one_lt_zero)

theorem ensures_slacInitCalls (block : ℕ) (iface : List Byte) (isEv : Bool) :
    Ensures (slacInitCalls block iface isEv) fun r =>
      r.2.ctx = slacInit r.2.ctx.localMac isEv := by
  apply (ensures_of_forall fun _ => trivial).bind
  rintro ⟨fd, mac⟩ -
  rfl

theorem ensures_drop (sess : SlacSession) (b : SlacBlock) :
    Ensures (sess.drop b) fun t => t = { sess with slacCtx := none } := by
  unfold SlacSession.drop slacCleanup
  split_ifs
  · exact fun _ _ => rfl
  · exact fun _ => rfl

theorem slacStep_of_terminal {p : SlacParty} (h : p.ctx.state.terminal = true) (env : SlacEnv)
    (recv : Option (List Byte)) : slacStep env recv p = ⟨p, []⟩ := by
  rcases p with ⟨⟨_, _, _, _, _, _, state, isEv, _, _⟩, st⟩
  cases state
  case evMatched | evFailed | evseMatched | evseFailed => cases isEv <;> rfl
  all_goals cases h

theorem ensures_cleanupSlac (sess : SlacSession) :
    Ensures (seccSessionCleanupSlac sess) fun t => t = { sess with slacCtx := none } := by
  unfold seccSessionCleanupSlac
  cases hctx : sess.slacCtx with
  | none =>
    change sess = { sess with slacCtx := none }
    rw [← hctx]
  | some b => exact ensures_drop sess b

namespace SlacSession.Consistent

variable {sess : SlacSession}

theorem of_slacCtx_none (h : sess.slacCtx = none)
    (hknown : sess.state ∈ [SeccState.idle, .slacInit, .slacMatching, .slacMatched, .tlsHandshake,
      .error]) : sess.Consistent where
  known := hknown
  fresh _ b hb := by cases h.symm.trans hb
  matched _ b hb := by cases h.symm.trans hb
  released _ := h

theorem of_matched {b : SlacBlock} (hb : sess.slacCtx = some b) (h : slacResult b.ctx = 1) :
    (sess.matched b).Consistent where
  known := by simp [SlacSession.matched]
  fresh hstate := by simp [SlacSession.matched] at hstate
  matched _ c hc := by
    cases hb.symm.trans hc
    exact ⟨h, rfl, rfl⟩
  released hstate := by simp [SlacSession.matched] at hstate

variable (h : sess.Consistent)
include h

theorem new_or_matched {b : SlacBlock} (hctx : sess.slacCtx = some b) :
    sess.state ∈ [SeccState.slacInit, .slacMatching] ∧ b.ctx = slacInit b.ctx.localMac true ∨
      sess.state ∈ [SeccState.slacMatched, .tlsHandshake] ∧ slacResult b.ctx = 1 := by
  have hknown := h.known
  simp only [List.mem_cons, List.not_mem_nil, or_false] at hknown
  have hnotReleased : sess.state ∉ [SeccState.idle, .error] := by
    intro hstate
    cases (h.released hstate).symm.trans hctx
  rcases hknown with hs | hs | hs | hs | hs | hs
  · exact absurd (by simp [hs]) hnotReleased
  · have hnew : sess.state ∈ [SeccState.slacInit, .slacMatching] := by simp [hs]
    exact Or.inl ⟨hnew, h.fresh hnew b hctx⟩
  · have hnew : sess.state ∈ [SeccState.slacInit, .slacMatching] := by simp [hs]
    exact Or.inl ⟨hnew, h.fresh hnew b hctx⟩
  · have hmatched : sess.state ∈ [SeccState.slacMatched, .tlsHandshake] := by simp [hs]
    exact Or.inr ⟨hmatched, (h.matched hmatched b hctx).1⟩
  · have hmatched : sess.state ∈ [SeccState.slacMatched, .tlsHandshake] := by simp [hs]
    exact Or.inr ⟨hmatched, (h.matched hmatched b hctx).1⟩
  · exact absurd (by simp [hs]) hnotReleased

theorem step : Ensures (seccSessionSlacStep sess) fun r =>
    r.2.Consistent ∧ (sess.state ∈ [SeccState.idle, .slacInit, .slacMatching] → r.1 ≠ 1 ∧
      r.2 = { sess with slacCtx := r.2.slacCtx, statics := r.2.statics }) := by
  unfold seccSessionSlacStep
  cases hctx : sess.slacCtx with
  | none => exact ⟨h, fun _ => ⟨of_decide_eq_true rfl, rfl⟩⟩
  | some b =>
    rintro ⟨env, recv⟩
    have hstep : slacStep env recv ⟨b.ctx, sess.statics⟩ = ⟨⟨b.ctx, sess.statics⟩, []⟩ := by
      rcases h.new_or_matched hctx with ⟨-, hnew⟩ | ⟨-, hmatched⟩
      · rw [hnew]
        exact slacStep_slacInit b.ctx.localMac true sess.statics (env, recv)
      · apply slacStep_of_terminal
        apply (slacResult_ne_zero_iff _).mp
        rw [hmatched]
        exact one_ne_zero
    have hsame : ({ sess with slacCtx := some { b with ctx := b.ctx } } : SlacSession) = sess := by
      rw [← hctx]
    change Ensures (if slacResult (slacStep env recv ⟨b.ctx, sess.statics⟩).party.ctx = 1 then _
      else if slacResult (slacStep env recv ⟨b.ctx, sess.statics⟩).party.ctx = -1 then _ else _) _
    rw [hstep]
    rcases h.new_or_matched hctx with ⟨hstate, hnew⟩ | ⟨hstate, hmatched⟩
    · have hzero : slacResult b.ctx = 0 := by
        rw [hnew]
        rfl
      rw [hzero, if_neg (by decide), if_neg (by decide)]
      exact ⟨hsame.symm ▸ h, fun _ => ⟨of_decide_eq_true rfl, rfl⟩⟩
    · rw [if_pos hmatched]
      refine ⟨of_matched rfl hmatched, fun hs => ?_⟩
      simp only [List.mem_cons, List.not_mem_nil, or_false] at hs hstate
      rcases hstate with hstate | hstate <;> simp [hstate] at hs

theorem run (fuel : ℕ) : Ensures (seccSessionSlacRun fuel sess) fun r =>
    ∀ t, r = some t → t.2.Consistent := by
  unfold seccSessionSlacRun
  cases hctx : sess.slacCtx with
  | none =>
    rintro t ⟨⟩
    exact h
  | some b =>
    apply (ensures_slacRunCalls fuel b sess.statics).bind
    rintro (_ | ⟨ret, next, st⟩) hr
    · rintro t ⟨⟩
    dsimp only
    split_ifs with hret
    · apply (ensures_drop _ next).bind
      rintro _ rfl t ⟨⟩
      exact of_slacCtx_none rfl (by simp)
    · rintro t ⟨⟩
      exact of_matched rfl (hr _ rfl (not_lt.mp hret))

theorem handle : Ensures (seccSessionHandleSlacState sess) SlacSession.Consistent := by
  unfold seccSessionHandleSlacState
  split
  case h_1 hstate =>
    have hnew : sess.state ∈ [SeccState.slacInit, .slacMatching] := by simp [hstate]
    exact ⟨by simp, fun _ => h.fresh hnew, fun hs => by simp at hs, fun hs => by simp at hs⟩
  case h_2 hstate =>
    apply h.step.bind
    rintro ⟨ret, next⟩ ⟨hnext, hret⟩
    dsimp only
    rw [if_neg (hret (by simp [hstate])).1]
    exact hnext
  case h_3 hstate =>
    have hmatched : sess.state ∈ [SeccState.slacMatched, .tlsHandshake] := by simp [hstate]
    exact ⟨by simp, fun hs => by simp at hs, fun _ => h.matched hmatched, fun hs => by simp at hs⟩
  case h_4 =>
    exact h

theorem cleanup : Ensures (seccSessionCleanupSlac sess) SlacSession.Consistent := by
  apply (ensures_cleanupSlac sess).mono
  rintro _ rfl
  exact of_slacCtx_none rfl h.known

omit h in
theorem init (plcIface : List Byte) :
    Ensures (seccSessionWithSlacInit sess plcIface) fun r => r.2.Consistent ∧
      r.2.state ∈ [SeccState.idle, .slacInit, .slacMatching] ∧ r.2.slacNmk = sess.slacNmk ∧
        r.2.slacNid = sess.slacNid := by
  rintro r (_ | block)
  · exact ⟨of_slacCtx_none rfl (by simp), by simp, rfl, rfl⟩
  apply (ensures_slacInitCalls block plcIface true).bind
  rintro ⟨ret, b⟩ hb
  dsimp only at hb ⊢
  split_ifs
  · exact fun _ => ⟨of_slacCtx_none rfl (by simp), by simp, rfl, rfl⟩
  · refine ⟨⟨by simp, ?_, fun hs => by simp at hs, fun hs => by simp at hs⟩, by simp, rfl, rfl⟩
    rintro - c ⟨⟩
    exact hb

theorem call (c : SlacSessionCall) : Ensures (slacSessionCall sess c) fun r =>
    ∀ t, r = some t → t.Consistent := by
  cases c with
  | withSlacInit plcIface =>
    apply (init plcIface).bind
    rintro r hr t ⟨⟩
    exact hr.1
  | slacStep =>
    apply h.step.bind
    rintro r hr t ⟨⟩
    exact hr.1
  | slacRun fuel =>
    apply (h.run fuel).bind
    rintro (_ | r) hr t ⟨⟩
    exact hr r rfl
  | handleSlacState =>
    apply h.handle.bind
    rintro r hr t ⟨⟩
    exact hr
  | cleanupSlac =>
    apply h.cleanup.bind
    rintro r hr t ⟨⟩
    exact hr

theorem calls (cs : List SlacSessionCall) : Ensures (slacSessionCalls cs sess) fun r =>
    ∀ t, r = some t → t.1.Consistent := by
  induction cs generalizing sess with
  | nil =>
    rintro t ⟨⟩
    exact h
  | cons c cs ih =>
    apply (h.call c).bind
    rintro (_ | next) hnext
    · rintro t ⟨⟩
    apply (ih (hnext next rfl)).bind
    rintro (_ | r) hr t ⟨⟩
    exact hr r rfl

end SlacSession.Consistent

/-- Nothing has come of a match: the keys are those of `start`. -/
structure SlacSession.Unmatched (start sess : SlacSession) : Prop where
  consistent : sess.Consistent
  state : sess.state ∈ [SeccState.idle, .slacInit, .slacMatching]
  nmk : sess.slacNmk = start.slacNmk
  nid : sess.slacNid = start.slacNid

namespace SlacSession.Unmatched

variable {start sess : SlacSession} (h : start.Unmatched sess)
include h

theorem step : Ensures (seccSessionSlacStep sess) fun r => r.1 ≠ 1 ∧ start.Unmatched r.2 := by
  apply h.consistent.step.mono
  rintro ⟨ret, next⟩ ⟨hconsistent, hsame⟩
  rcases hsame h.state with ⟨hret, hnext⟩
  dsimp only at hconsistent hret hnext
  refine ⟨hret, hconsistent, ?_, ?_, ?_⟩
  all_goals rw [hnext]
  · exact h.state
  · exact h.nmk
  · exact h.nid

theorem handle : Ensures (seccSessionHandleSlacState sess) start.Unmatched := by
  have hkeep : Ensures (seccSessionHandleSlacState sess) fun t =>
      t.state ∈ [SeccState.idle, .slacInit, .slacMatching] ∧ t.slacNmk = start.slacNmk ∧
        t.slacNid = start.slacNid := by
    have hstate := h.state
    unfold seccSessionHandleSlacState
    split
    case h_1 => exact ⟨by simp, h.nmk, h.nid⟩
    case h_2 =>
      apply h.step.bind
      rintro ⟨ret, next⟩ ⟨hret, hnext⟩
      dsimp only at hret ⊢
      rw [if_neg hret]
      exact ⟨hnext.state, hnext.nmk, hnext.nid⟩
    case h_3 hs => simp [hs] at hstate
    case h_4 => exact ⟨hstate, h.nmk, h.nid⟩
  apply (h.consistent.handle.and hkeep).mono
  rintro t ⟨hconsistent, hstate, hnmk, hnid⟩
  exact ⟨hconsistent, hstate, hnmk, hnid⟩

theorem call (c : SlacSessionCall) (hc : ∀ fuel, c ≠ .slacRun fuel) :
    Ensures (slacSessionCall sess c) fun r => ∀ t, r = some t → start.Unmatched t := by
  cases c with
  | withSlacInit plcIface =>
    apply (SlacSession.Consistent.init plcIface).bind
    rintro r ⟨hconsistent, hstate, hnmk, hnid⟩ t ⟨⟩
    exact ⟨hconsistent, hstate, hnmk.trans h.nmk, hnid.trans h.nid⟩
  | slacStep =>
    apply h.step.bind
    rintro r hr t ⟨⟩
    exact hr.2
  | slacRun fuel => exact absurd rfl (hc fuel)
  | handleSlacState =>
    apply h.handle.bind
    rintro r hr t ⟨⟩
    exact hr
  | cleanupSlac =>
    apply (h.consistent.cleanup.and (ensures_cleanupSlac sess)).bind
    rintro _ ⟨hconsistent, rfl⟩ t ⟨⟩
    exact ⟨hconsistent, h.state, h.nmk, h.nid⟩

theorem calls {cs : List SlacSessionCall} (hcs : ∀ fuel, .slacRun fuel ∉ cs) :
    Ensures (slacSessionCalls cs sess) fun r => ∀ t, r = some t → start.Unmatched t.1 := by
  induction cs generalizing sess with
  | nil =>
    rintro t ⟨⟩
    exact h
  | cons c cs ih =>
    have hc : ∀ fuel, c ≠ .slacRun fuel := fun fuel hrun => hcs fuel (hrun ▸ List.mem_cons_self)
    apply (h.call c hc).bind
    rintro (_ | next) hnext
    · rintro t ⟨⟩
    apply (ih (hnext next rfl) fun fuel hmem => hcs fuel (List.mem_cons_of_mem _ hmem)).bind
    rintro (_ | r) hr t ⟨⟩
    exact hr r rfl

end SlacSession.Unmatched

/-- In any order of the calls the state says what there is: with SLAC_MATCHED or TLS_HANDSHAKE the
keys are those of the context, with SLAC_INIT or SLAC_MATCHING it has not begun to match, and
nothing leads to TCP_CONNECTED. Without `secc_session_slac_run` there is never a match. -/
theorem slac_session_states {calls : List SlacSessionCall} {sess : SlacSession}
    {es : List PosixEvent} {t : SlacSession} {lost : List SlacBlock} (hnone : sess.slacCtx = none)
    (hidle : sess.state = .idle) (hrun : Runs (slacSessionCalls calls sess) es (some (t, lost))) :
    t.Consistent ∧ t.state ≠ .tcpConnected ∧
      ((∀ fuel, .slacRun fuel ∉ calls) → sess.Unmatched t) := by
  have hconsistent : sess.Consistent := .of_slacCtx_none hnone (by simp [hidle])
  have hunmatched : sess.Unmatched sess := ⟨hconsistent, by simp [hidle], rfl, rfl⟩
  have ht := (hconsistent.calls calls).sound hrun _ rfl
  refine ⟨ht, fun hstate => ?_, fun hcalls => (hunmatched.calls hcalls).sound hrun _ rfl⟩
  have hknown := ht.known
  simp [hstate] at hknown

theorem slac_session_states_silent :
    let calls : List SlacSessionCall := [.withSlacInit [0x65], .handleSlacState, .handleSlacState]
    ∃ es t, Runs (slacSessionCalls calls .initial) es (some (t, [])) ∧ t.state = .slacMatching ∧
      SlacSession.initial.Unmatched t := by
  intro calls
  have hrun := runs_run silentSystem (slacSessionCalls calls .initial)
  have hcalls : ∀ fuel, .slacRun fuel ∉ calls := by simp [calls]
  exact ⟨_, _, hrun, rfl, (slac_session_states rfl rfl hrun).2.2 hcalls⟩

end EvseIso15118
