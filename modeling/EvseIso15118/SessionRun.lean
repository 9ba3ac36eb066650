import EvseIso15118.V2gtpHandler

namespace EvseIso15118

section session
variable {ω : Type} (L : MessageLayer ω) (fuel : ℕ)

/-- The calls that `secc_session_run` makes for these reads: up to the first that fails. -/
def sessionCalls : List (List Byte) → SeccContext → ω → List (CallResult ω)
  | [], _, _ => []
  | c :: cs, ctx, world =>
    let r := v2gProcessMessage L fuel c ctx world
    r :: if r.exit = .done then sessionCalls cs r.ctx r.world else []

def sessionEnd : SeccHead × ω → List (CallResult ω) → SeccHead × ω
  | st, [] => st
  | _, r :: rs => sessionEnd (r.ctx.toSeccHead, r.world) rs

def sessionEvents (rs : List (CallResult ω)) : List Event := rs.flatMap CallResult.events

end session

/-- `J` is kept by every round, which adds events that satisfy `P`. -/
structure RoundInvariant {ω : Type} (L : MessageLayer ω) (J : SeccHead × ω → Prop)
    (P : List Event → Prop) : Prop where
  nil : P []
  append : ∀ {es fs}, P es → P fs → P (es ++ fs)
  step : ∀ s : FrameLoop ω, J (s.ctx.toSeccHead, s.world) →
    J (headAfter (frameStep L s)) ∧ ∃ es, eventsAfter (frameStep L s) = s.events ++ es ∧ P es

namespace RoundInvariant

variable {ω : Type} {L : MessageLayer ω} {J : SeccHead × ω → Prop}
  {P : List Event → Prop}

theorem next (h : RoundInvariant L J P) {s : FrameLoop ω} (hJ : J (s.ctx.toSeccHead, s.world))
    (hP : P s.events) :
    J (headAfter (frameStep L s)) ∧ P (eventsAfter (frameStep L s)) := by
  obtain ⟨hJ', es, he, hes⟩ := h.step s hJ
  exact ⟨hJ', he ▸ h.append hP hes⟩

theorem call (h : RoundInvariant L J P) (fuel : ℕ) (read : List Byte) {ctx : SeccContext}
    {world : ω}
    (hJ : J (ctx.toSeccHead, world)) :
    J ((v2gProcessMessage L fuel read ctx world).ctx.toSeccHead,
      (v2gProcessMessage L fuel read ctx world).world) ∧
      P (v2gProcessMessage L fuel read ctx world).events := by
  rcases v2gProcessMessage_cases (L := L) fuel read ctx world with
    ⟨-, hr⟩ | ⟨-, hr⟩ | ⟨s, hs, hr⟩
  · rw [hr]
    exact ⟨hJ, h.nil⟩
  · rw [hr]
    exact ⟨hJ, h.nil⟩
  · have hinv : J (s.ctx.toSeccHead, s.world) ∧ P s.events := by
      apply hs.invariant (I := fun u => J (u.ctx.toSeccHead, u.world) ∧ P u.events)
      · intro hl
        exact ⟨hJ, h.nil⟩
      · intro u v hu huv
        simpa [huv] using h.next hu.1 hu.2
    rcases hr with hr | hr
    · rw [hr]
      exact hinv
    · have hnext := h.next hinv.1 hinv.2
      rwa [hr] at hnext

theorem calls (h : RoundInvariant L J P) (fuel : ℕ) (reads : List (List Byte)) {ctx : SeccContext}
    {world : ω} (hJ : J (ctx.toSeccHead, world)) :
    ∀ r ∈ sessionCalls L fuel reads ctx world, P r.events := by
  induction reads generalizing ctx world with
  | nil => simp [sessionCalls]
  | cons c cs ih =>
    rcases h.call fuel c hJ with ⟨hJ', hP⟩
    rw [sessionCalls]
    split_ifs
    · exact List.forall_mem_cons.mpr ⟨hP, ih hJ'⟩
    · exact List.forall_mem_cons.mpr ⟨hP, by simp⟩

theorem of_handleRequest {K : SeccHead → Prop}
    (h : ∀ (ctx : SeccContext) msgType, K ctx.toSeccHead →
      K (handleRequest ctx msgType).toSeccHead) :
    RoundInvariant L (fun st => K st.1) fun _ => True where
  nil := trivial
  append _ _ := trivial
  step s hs := by
    rcases frameStep_cases (L := L) s with ⟨⟨es, -, hes⟩, hhead⟩ | ⟨-, hstep⟩
    · exact ⟨by rw [hhead]; exact hs, es, hes, trivial⟩
    · set u := decodeExi L (s.log (.header s.offset)) s.header with hu
      have hK : K u.2.ctx.toSeccHead := h _ _ hs
      have hevents : u.2.events = s.events ++
          [.header s.offset, decodeCall (s.log (.header s.offset)) s.header] := by
        rw [hu, decodeExi_events, FrameLoop.log_events, List.append_assoc]
        rfl
      rw [hstep]
      cases hr : respond L u.2 s.header u.1 with
      | inl t =>
        rcases respond_eq_inl hr with ⟨-, hctx, -, ret, he⟩
        rw [headAfter_inl, hctx, eventsAfter_inl, he, hevents, List.append_assoc]
        exact ⟨hK, _, rfl, trivial⟩
      | inr r =>
        rcases respond_eq_inr hr with ⟨hctx, he | ⟨-, ret, he⟩⟩
        · rw [headAfter_inr, hctx, eventsAfter_inr, he, hevents]
          exact ⟨hK, _, rfl, trivial⟩
        · rw [headAfter_inr, hctx, eventsAfter_inr, he, hevents, List.append_assoc]
          exact ⟨hK, _, rfl, trivial⟩

theorem session (h : RoundInvariant L J P) (fuel : ℕ) (reads : List (List Byte)) {ctx : SeccContext}
    {world : ω} (hJ : J (ctx.toSeccHead, world)) :
    J (sessionEnd (ctx.toSeccHead, world) (sessionCalls L fuel reads ctx world)) ∧
      P (sessionEvents (sessionCalls L fuel reads ctx world)) := by
  induction reads generalizing ctx world with
  | nil => exact ⟨hJ, h.nil⟩
  | cons c cs ih =>
    obtain ⟨hJ', hP⟩ := h.call fuel c hJ
    rw [sessionCalls, sessionEvents, List.flatMap_cons, sessionEnd]
    split_ifs
    · exact ⟨(ih hJ').1, h.append hP (ih hJ').2⟩
    · exact ⟨hJ', h.append hP h.nil⟩

end RoundInvariant

end EvseIso15118
