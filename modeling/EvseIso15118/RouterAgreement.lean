import EvseIso15118.CallRounds
import EvseIso15118.ChargingSequence

namespace EvseIso15118

/-- The router has a branch for the type, or the frame loop treats it before the router. -/
def Recognised (msgType : ExiMsgType) : Prop :=
  msgType = .supportedAppProtocol ∨ routedState msgType ≠ .error

instance (msgType : ExiMsgType) : Decidable (Recognised msgType) := by
  unfold Recognised
  infer_instance

theorem recognised_iff {msgType : ExiMsgType} (h : msgType ≠ .unknown) :
    Recognised msgType ↔ msgType ≠ .serviceDetail := by
  cases msgType
  case unknown => exact absurd rfl h
  all_goals decide

theorem recognised_of_built {codec : Codec} {st : ExiStatics} {head : SeccHead}
    {msgType : ExiMsgType} {out : ResponseBuffer}
    (h : (seccBuildResponse codec st head msgType out).1 = 0) :
    Recognised msgType ↔ msgType ≠ .serviceDetail := by
  apply recognised_iff
  rintro rfl
  cases h

section rounds
variable {τ : Type} {codec : Codec} {tlsWrite : τ → List Byte → ℤ × τ}

theorem requestHead_state_ne_error {head : SeccHead} {msgType : ExiMsgType}
    (hstate : head.state ≠ .error) (h : Recognised msgType) :
    (requestHead head msgType).state ≠ .error := by
  unfold requestHead
  split_ifs with happ
  · exact hstate
  · exact h.resolve_left happ

theorem Rounds.state_ne_error {start stop : SeccHead × SeccWorld τ} {es : List Event}
    (h : Rounds (seccMessageLayer codec tlsWrite) start es stop)
    (hno : ∀ payload len, GetsAnswer es payload len →
      requestType codec payload len ≠ .serviceDetail)
    (hstate : start.1.state ≠ .error) : stop.1.state ≠ .error := by
  induction h with
  | start => exact hstate
  | header _ offset ih => exact ih fun payload len h => hno payload len (h.append _)
  | @served es st' st'' _ offset first len payload msgType response ret hserved ih =>
    have hold := ih fun payload len h => hno payload len (h.append _)
    have hanswer : GetsAnswer
        (es ++ [.header offset, .decode first len payload, .write msgType response ret])
        payload len :=
      ⟨es ++ [.header offset], first, msgType, response, ret, [], by simp, hserved.accepted⟩
    have htype : requestType codec payload len = msgType :=
      (exiDecodeMessage_type _ _ _ _).symm.trans hserved.type
    have hne := hno payload len hanswer
    rw [htype] at hne
    rw [hserved.head]
    exact requestHead_state_ne_error hold ((recognised_of_built hserved.built).mpr hne)

theorem requestType_ne_unknown {sessionId : UInt32} {events : List Event}
    (h : WritesAnswer codec sessionId events) {payload : List Byte} {len : ℤ}
    (hanswer : GetsAnswer events payload len) : requestType codec payload len ≠ .unknown := by
  rcases hanswer with ⟨pre, start, msgType, response, ret, post, rfl, _⟩
  rcases h (pre ++ [.decode start len payload]) msgType response ret post (by simp) with
    ⟨pre', start', len', payload', doc, hpre, st, htype, hdoc, _⟩
  rcases List.append_inj' hpre rfl with ⟨_, hlast⟩
  cases hlast
  rw [← exiDecodeMessage_type codec st, htype]
  rintro rfl
  have hnone := hdoc { SeccContext.initial.toSeccHead with sessionId := sessionId } rfl
  cases hnone

theorem sessionCalls_state_ne_error {fuel : ℕ} {reads : List (List Byte)} {ctx : SeccContext}
    {world : SeccWorld τ} (hstate : ctx.state ≠ .error)
    (hno : ∀ r ∈ sessionCalls (seccMessageLayer codec tlsWrite) fuel reads ctx world,
      ∀ payload len, GetsAnswer r.events payload len →
        requestType codec payload len ≠ .serviceDetail) :
    ∀ r ∈ sessionCalls (seccMessageLayer codec tlsWrite) fuel reads ctx world, r.exit = .done →
      r.ctx.state ≠ .error := by
  induction reads generalizing ctx world with
  | nil => simp [sessionCalls]
  | cons c cs ih =>
    rw [sessionCalls] at hno ⊢
    rcases List.forall_mem_cons.mp hno with ⟨hfirst, hrest⟩
    refine List.forall_mem_cons.mpr ⟨?_, ?_⟩
    · intro hdone
      exact (v2gProcessMessage_rounds hdone).state_ne_error hfirst hstate
    · split_ifs at hrest ⊢ with hdone
      · exact ih ((v2gProcessMessage_rounds hdone).state_ne_error hfirst hstate) hrest
      · simp

/-- From any context that is not in the error state, whatever is received and however it decodes:
every call that returns 0 leaves the context out of the error state, and only recognised requests
are answered, exactly if no ServiceDetailReq is answered. -/
theorem router_agrees_iff {fuel : ℕ} {reads : List (List Byte)} {ctx : SeccContext}
    {world : SeccWorld τ} (hstate : ctx.state ≠ .error) :
    let calls := sessionCalls (seccMessageLayer codec tlsWrite) fuel reads ctx world
    ((∀ r ∈ calls, r.exit = .done → r.ctx.state ≠ .error) ∧
      ∀ r ∈ calls, ∀ payload len, GetsAnswer r.events payload len →
        Recognised (requestType codec payload len)) ↔
    ∀ r ∈ calls, ∀ payload len, GetsAnswer r.events payload len →
      requestType codec payload len ≠ .serviceDetail := by
  intro calls
  have hwrites : ∀ r ∈ sessionCalls (seccMessageLayer codec tlsWrite) fuel reads ctx world,
      WritesAnswer codec ctx.sessionId r.events :=
    (roundInvariant_writesAnswer codec ctx.sessionId tlsWrite).calls fuel reads rfl
  constructor
  · rintro ⟨_, hrec⟩ r hr payload len hanswer
    rw [← recognised_iff (requestType_ne_unknown (hwrites r hr) hanswer)]
    exact hrec r hr payload len hanswer
  · intro hno
    refine ⟨sessionCalls_state_ne_error hstate hno, ?_⟩
    intro r hr payload len hanswer
    rw [recognised_iff (requestType_ne_unknown (hwrites r hr) hanswer)]
    exact hno r hr payload len hanswer

end rounds

def byteSession (requests : List Byte) : List (CallResult (SeccWorld Unit)) :=
  sessionCalls byteLayer 2049 (requests.map byteFrame) .initial ⟨{}, ()⟩

/-- A ServiceDetailReq is answered, the call returns 0 and the session is in the error state. -/
theorem serviceDetail_answered :
    sessionEvents (byteSession [0x02]) = [.header 0, .decode 8 1 [0x02],
      .write .serviceDetail [0x01, 0xFE, 0x80, 0x01, 0x00, 0x00, 0x00, 0x01, 0x82] 9] ∧
    requestType byteCodec [0x02] 1 = .serviceDetail ∧ ¬ Recognised .serviceDetail ∧
    SeccContext.initial.state ≠ .error ∧
    ∃ r ∈ byteSession [0x02], r.exit = .done ∧ r.ctx.state = .error := by
  decide +kernel

/-- A PowerDeliveryReq and a SessionStopReq keep out of it. -/
theorem router_agrees_iff_byteSession :
    (byteSession [0x01, 0x03]).map CallResult.exit = [.done, .done] ∧
      ∀ r ∈ byteSession [0x01, 0x03], r.exit = .done → r.ctx.state ≠ .error := by
  refine ⟨by decide +kernel, ?_⟩
  have hstate : SeccContext.initial.state ≠ .error := by decide
  have hno : ∀ r ∈ byteSession [0x01, 0x03],
      .serviceDetail ∉ dispatchedTypes byteCodec r.events := by decide +kernel
  apply ((router_agrees_iff hstate).mpr ?_).1
  rintro r hr payload len hanswer heq
  exact hno r hr (heq ▸ hanswer.dispatched byteCodec)

end EvseIso15118
