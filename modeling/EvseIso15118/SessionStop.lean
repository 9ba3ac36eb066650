import EvseIso15118.CallRounds
import EvseIso15118.SeccSession

namespace EvseIso15118

section run
variable {ω : Type} {L : MessageLayer ω} {fuel : ℕ}

theorem sessionLoop_returned {reads : List (List Byte)} {sess : SeccContext} {world : ω}
    (h : (sessionLoop L fuel reads sess world).returned = true) :
    (sessionLoop L fuel reads sess world).session.state = .error := by
  induction reads generalizing sess world with
  | nil => cases h
  | cons c cs ih =>
    rw [sessionLoop] at h ⊢
    cases hret : (v2gProcessMessage L fuel c sess world).exit.ret with
    | none =>
      rw [hret] at h
      cases h
    | some ret =>
      rw [hret] at h
      dsimp only at h ⊢
      split_ifs at h ⊢
      · rfl
      · exact ih h

end run

section stop
variable {τ : Type} {codec : Codec} {tlsWrite : τ → List Byte → ℤ × τ} {fuel : ℕ}

def runCalls {ω : Type} (L : MessageLayer ω) (fuel : ℕ) (reads : List (List Byte))
    (sess : SeccContext) (world : ω) : List (CallResult ω) :=
  sessionCalls L fuel reads { sess with state := .serviceDiscovery } world

/-- Behind an answered SessionStopReq nothing is dispatched or answered, and the run has returned
without the error state. -/
def StopEnds {ω : Type} (codec : Codec) (events : List Event) (run : RunResult ω) : Prop :=
  ∀ pre start len payload msgType response ret post,
    events = pre ++ .decode start len payload :: .write msgType response ret :: post → 0 ≤ ret →
    requestType codec payload len = .sessionStop →
      decodedPayloads post = [] ∧ writtenResponses post = [] ∧
      run.returned = true ∧ run.session.state ≠ .error

/-- A SessionStopReq ends no run: the property holds exactly of the runs in which none is
answered. -/
theorem stopEnds_iff (reads : List (List Byte)) (sess : SeccContext) (world : SeccWorld τ) :
    let L := seccMessageLayer codec tlsWrite
    let events := sessionEvents (runCalls L fuel reads sess world)
    StopEnds codec events (seccSessionRun L fuel reads sess world) ↔
      ∀ payload len, GetsAnswer events payload len →
        requestType codec payload len ≠ .sessionStop := by
  intro L events
  constructor
  · rintro h payload len ⟨pre, start, msgType, response, ret, post, hevents, hret⟩ htype
    rcases h pre start len payload msgType response ret post hevents hret htype with
      ⟨_, _, hreturned, hstate⟩
    exact hstate (sessionLoop_returned hreturned)
  · intro hno pre start len payload msgType response ret post hevents hret htype
    exact absurd htype
      (hno payload len ⟨pre, start, msgType, response, ret, post, hevents, hret⟩)

end stop

def stopThenDelivery : List (List Byte) := [byteFrame 0x03 ++ byteFrame 0x01, []]

theorem stopThenDelivery_events :
    sessionEvents (runCalls byteLayer 2049 stopThenDelivery .initial ⟨{}, ()⟩) =
      [.header 0] ++ .decode 8 1 [0x03] ::
        .write .sessionStop [0x01, 0xFE, 0x80, 0x01, 0x00, 0x00, 0x00, 0x01, 0x83] 9 ::
        [.header 9, .decode 17 1 [0x01],
          .write .powerDelivery [0x01, 0xFE, 0x80, 0x01, 0x00, 0x00, 0x00, 0x01, 0x81] 9] := by
  decide +kernel

/-- The PowerDeliveryReq is dispatched and answered after the stop, and the run returns with the
error state. -/
theorem stop_ignored_stopThenDelivery :
    (seccSessionRun byteLayer 2049 stopThenDelivery .initial ⟨{}, ()⟩).returned = true ∧
    (seccSessionRun byteLayer 2049 stopThenDelivery .initial ⟨{}, ()⟩).session.state = .error ∧
    ¬ StopEnds byteCodec
      (sessionEvents (runCalls byteLayer 2049 stopThenDelivery .initial ⟨{}, ()⟩))
      (seccSessionRun byteLayer 2049 stopThenDelivery .initial ⟨{}, ()⟩) := by
  refine ⟨by decide +kernel, by decide +kernel, ?_⟩
  intro h
  have hlater := (h _ _ _ _ _ _ _ _ stopThenDelivery_events (by decide) (by decide)).1
  exact absurd hlater (by decide)

end EvseIso15118
