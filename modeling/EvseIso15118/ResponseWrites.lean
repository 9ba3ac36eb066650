import EvseIso15118.CallRounds
import EvseIso15118.ChargingSequence
import EvseIso15118.TlsTransport

namespace EvseIso15118

/-- The calls of `tls_write` so far and the bytes that went out. -/
structure Connection where
  writes : ℕ
  wire : List Byte
  deriving DecidableEq

/-- `tls_write`, where the call with this number takes as many bytes as `accepts` says. -/
def Connection.write (st : TransportStatics) (accepts : ℕ → List Byte → ℤ) (c : Connection)
    (buf : List Byte) : ℤ × Connection :=
  let ret := tlsWrite st (accepts c.writes) (accepts c.writes) buf
  (ret, ⟨c.writes + 1, c.wire ++ buf.take ret.toNat⟩)

def acceptedBytes (events : List Event) : List Byte :=
  events.flatMap fun
    | .write _ response ret => response.take ret.toNat
    | _ => []

/-- Every response was taken to its end. -/
def TakenWhole (events : List Event) : Prop :=
  ∀ msgType response ret, .write msgType response ret ∈ events → response.length ≤ ret.toNat

/-- Every request that was dispatched was answered, before the next one. -/
def EachAnswered : List Event → Prop
  | [] => True
  | .header _ :: es => EachAnswered es
  | .decode _ _ _ :: .write _ _ _ :: es => EachAnswered es
  | _ => False

theorem EachAnswered.append {es fs : List Event} (he : EachAnswered es) (hf : EachAnswered fs) :
    EachAnswered (es ++ fs) := by
  induction es using EachAnswered.induct with
  | case1 => exact hf
  | case2 offset es ih => exact ih he
  | case3 start len payload msgType response ret es ih => exact ih he
  | case4 es h1 h2 h3 =>
    unfold EachAnswered at he
    split at he
    · exact absurd rfl h1
    · exact absurd rfl (h2 _ _)
    · exact absurd rfl (h3 _ _ _ _ _ _ _)
    · exact he.elim

theorem acceptedBytes_append (es fs : List Event) :
    acceptedBytes (es ++ fs) = acceptedBytes es ++ acceptedBytes fs := List.flatMap_append

theorem acceptedBytes_length_le (events : List Event) :
    (acceptedBytes events).length ≤ (writtenResponses events).flatten.length := by
  induction events with
  | nil => exact le_rfl
  | cons e es ih =>
    cases e with
    | header offset => exact ih
    | decode start len payload => exact ih
    | write msgType response ret =>
      change (response.take ret.toNat ++ acceptedBytes es).length ≤
        (response ++ (writtenResponses es).flatten).length
      rw [List.length_append, List.length_append, List.length_take]
      omega

theorem takenWhole_write {msgType : ExiMsgType} {response : List Byte} {ret : ℤ}
    {es : List Event} :
    TakenWhole (.write msgType response ret :: es) ↔
      response.length ≤ ret.toNat ∧ TakenWhole es := by
  constructor
  · intro h
    exact ⟨h _ _ _ List.mem_cons_self, fun m q r hm => h m q r (List.mem_cons_of_mem _ hm)⟩
  · rintro ⟨hfirst, hrest⟩ m q r hm
    rcases List.mem_cons.mp hm with heq | hm
    · cases heq
      exact hfirst
    · exact hrest m q r hm

theorem takenWhole_of_not_write {e : Event} {es : List Event}
    (he : ∀ msgType response ret, e ≠ .write msgType response ret) :
    TakenWhole (e :: es) ↔ TakenWhole es := by
  constructor
  · intro h m q r hm
    exact h m q r (List.mem_cons_of_mem _ hm)
  · intro h m q r hm
    rcases List.mem_cons.mp hm with heq | hm
    · exact absurd heq.symm (he m q r)
    · exact h m q r hm

/-- One response cut short is missed in all that went out, for no other one makes up for it. -/
theorem acceptedBytes_eq_iff (events : List Event) :
    acceptedBytes events = (writtenResponses events).flatten ↔ TakenWhole events := by
  induction events with
  | nil => simp [acceptedBytes, writtenResponses, TakenWhole]
  | cons e es ih =>
    cases e with
    | header offset =>
      rw [takenWhole_of_not_write (by simp), ← ih]
      rfl
    | decode start len payload =>
      rw [takenWhole_of_not_write (by simp), ← ih]
      rfl
    | write msgType response ret =>
      rw [takenWhole_write, ← ih]
      change response.take ret.toNat ++ acceptedBytes es =
        response ++ (writtenResponses es).flatten ↔ _
      constructor
      · intro h
        have hlen := congrArg List.length h
        have hle := acceptedBytes_length_le es
        rw [List.length_append, List.length_append, List.length_take] at hlen
        have hwhole : response.length ≤ ret.toNat := by omega
        rw [List.take_of_length_le hwhole] at h
        exact ⟨hwhole, List.append_cancel_left h⟩
      · rintro ⟨hwhole, hrest⟩
        rw [List.take_of_length_le hwhole, hrest]

section run
variable {codec : Codec} {st : TransportStatics} {accepts : ℕ → List Byte → ℤ}

theorem Rounds.connection {start : SeccHead × SeccWorld Connection} {es : List Event}
    {stop : SeccHead × SeccWorld Connection}
    (h : Rounds (seccMessageLayer codec (Connection.write st accepts)) start es stop) :
    stop.2.net.wire = start.2.net.wire ++ acceptedBytes es ∧ EachAnswered es := by
  induction h with
  | start => exact ⟨(List.append_nil _).symm, trivial⟩
  | header _ offset ih =>
    rw [acceptedBytes_append, ih.1]
    exact ⟨by simp [acceptedBytes], ih.2.append trivial⟩
  | served _ offset first len hserved ih =>
    refine ⟨?_, ih.2.append trivial⟩
    have hret := congrArg Prod.fst hserved.written
    have hnet := congrArg (fun w => w.2.net.wire) hserved.written
    dsimp only at hret hnet
    rw [← hnet, ← hret, acceptedBytes_append, ← List.append_assoc, ← ih.1]
    exact congrArg _ (List.append_nil _).symm

/-- In every run of calls that return 0, with every behaviour of the transport: each request that
was dispatched was answered, with its own response, and all responses went out whole one after
the other exactly if no write took less than its response. -/
theorem responses_whole_iff {fuel : ℕ} {reads : List (List Byte)} {ctx : SeccContext}
    {world : SeccWorld Connection}
    (hdone : ∀ r ∈ sessionCalls (seccMessageLayer codec (Connection.write st accepts)) fuel reads
      ctx world, r.exit = .done) :
    let L := seccMessageLayer codec (Connection.write st accepts)
    let events := sessionEvents (sessionCalls L fuel reads ctx world)
    let stop := sessionEnd (ctx.toSeccHead, world) (sessionCalls L fuel reads ctx world)
    EachAnswered events ∧ WritesAnswer codec ctx.sessionId events ∧
    (stop.2.net.wire = world.net.wire ++ (writtenResponses events).flatten ↔
      TakenWhole events) := by
  have hconn := (sessionCalls_rounds hdone).connection
  have hinv := roundInvariant_writesAnswer codec ctx.sessionId (Connection.write st accepts)
  refine ⟨hconn.2, (hinv.session fuel reads rfl).2, ?_⟩
  rw [hconn.1, List.append_cancel_left_eq, acceptedBytes_eq_iff]

end run

def powerLayer (accepts : ℕ → List Byte → ℤ) : MessageLayer (SeccWorld Connection) :=
  seccMessageLayer powerCodec (Connection.write {} accepts)

def powerRun (accepts : ℕ → List Byte → ℤ) : List (CallResult (SeccWorld Connection)) :=
  sessionCalls (powerLayer accepts) 2049 [powerDeliveryRead ++ powerDeliveryRead] .initial
    ⟨{}, ⟨0, []⟩⟩

def powerWire (accepts : ℕ → List Byte → ℤ) : List Byte :=
  (sessionEnd (SeccContext.initial.toSeccHead, ⟨{}, ⟨0, []⟩⟩) (powerRun accepts)).2.net.wire

/-- Four bytes of each response go out, and the call returns 0. -/
theorem responses_cut_short :
    (powerRun fun _ _ => 4).map CallResult.exit = [.done] ∧
    powerWire (fun _ _ => 4) = [0x01, 0xFE, 0x80, 0x01, 0x01, 0xFE, 0x80, 0x01] ∧
    writtenResponses (sessionEvents (powerRun fun _ _ => 4)) =
      [[0x01, 0xFE, 0x80, 0x01, 0x00, 0x00, 0x00, 0x01, 0x81],
        [0x01, 0xFE, 0x80, 0x01, 0x00, 0x00, 0x00, 0x01, 0x81]] ∧
    powerWire (fun _ _ => 4) ≠
      (writtenResponses (sessionEvents (powerRun fun _ _ => 4))).flatten := by
  decide +kernel

/-- A transport that takes whole responses. -/
theorem responses_whole_iff_powerRun :
    powerWire (fun _ response => response.length) =
      (writtenResponses (sessionEvents (powerRun fun _ response => response.length))).flatten := by
  have hdone : ∀ r ∈ powerRun fun _ response => response.length, r.exit = .done := by
    decide +kernel
  have hwhole : TakenWhole (sessionEvents (powerRun fun _ response => response.length)) :=
    (acceptedBytes_eq_iff _).mp (by decide +kernel)
  have h := @responses_whole_iff powerCodec {} (fun _ response => response.length) 2049
    [powerDeliveryRead ++ powerDeliveryRead] .initial ⟨{}, ⟨0, []⟩⟩ hdone
  exact h.2.2.mpr hwhole

end EvseIso15118
