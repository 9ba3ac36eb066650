import EvseIso15118.Progress
import EvseIso15118.SlacSending

namespace EvseIso15118

open Network Dialogue

/-- The party has something to send, or something to take. -/
def CanGoOn (s : SlacJoint) (q : Bool) : Prop :=
  (s.party q).ctx.state.isSend = true ∨
    (waitOf (s.party q).ctx.isEv (s.party q).ctx.state).isSome ∧ s.inbox q ≠ []

/-- The action makes the party send, or hands it a frame. -/
def GoesOn (s : SlacJoint) (q : Bool) : Action SlacEnv → Prop
  | .step r _ recv => r = q ∧ ((s.party q).ctx.state.isSend = true ∨ recv.isSome)
  | _ => False

/-- How many messages a party has still to send and to take. -/
def actsLeft (ctx : SlacContext) : ℕ := (ctx.script.getD []).length

def messagesLeft (s : SlacJoint) : ℕ :=
  actsLeft (s.party true).ctx + actsLeft (s.party false).ctx

section party
variable {env : SlacEnv} {p : SlacParty} {l : List (Act UInt16)}

theorem ofEv_of_script (hs : p.ctx.script = some l) : p.ctx.state.ofEv = p.ctx.isEv := by
  unfold SlacContext.script at hs
  cases hr : p.ctx.isEv <;> cases hstate : p.ctx.state <;> rw [hr, hstate] at hs
  any_goals rfl
  all_goals cases hs

theorem actsLeft_of_none (hsend : ∀ i < numSounds, env.send i = true) (htime : InTime env p)
    (hs : p.ctx.script = some l) :
    actsLeft (slacStep env none p).party.ctx ≤ actsLeft p.ctx ∧
      (p.ctx.state.isSend = true →
        actsLeft (slacStep env none p).party.ctx < actsLeft p.ctx) := by
  cases hw : waitOf p.ctx.isEv p.ctx.state with
  | some w =>
    rw [kept_ctx (slacStep_kept_of_none hw htime)]
    refine ⟨le_rfl, fun his => ?_⟩
    rw [waitOf_of_isSend his] at hw
    cases hw
  | none =>
    rcases slacSend_script hsend hw hs with ⟨ts, rest, hts, rfl, hrest⟩
    have hstep : (slacStep env none p).party.ctx.script = some rest := by
      rw [slacStep_of_send hw]
      exact hrest
    unfold actsLeft
    rw [hstep, hs]
    simp only [Option.getD_some, List.length_append, sends, List.length_map]
    refine ⟨by omega, fun his => ?_⟩
    -- a send state sends at least one frame
    have hlen := (@slacStep_sent_all env p none his (ofEv_of_script hs)).mpr
    have hall : (slacStep env none p).sent.length = p.ctx.state.burst := by
      apply hlen
      intro i hi
      apply hsend
      refine hi.trans_le ?_
      unfold SlacState.burst
      split <;> decide
    have hpos : 0 < p.ctx.state.burst := by
      unfold SlacState.burst
      split <;> decide
    have hts' := congrArg List.length hts
    rw [List.length_map, List.length_map] at hts'
    have hsent : (slacStep env none p).sent = (slacSend env p).2 := by rw [slacStep_of_send hw]
    rw [hsent, hts'] at hall
    omega

end party

section joint
variable {s t : SlacJoint} {a : Action SlacEnv}

theorem left_after {r : Bool} {env : SlacEnv} {recv : Option (List Byte)}
    {rest : List (List Byte)} :
    messagesLeft (s.after r (slacProtocol.step env recv (s.party r)) rest) +
      actsLeft (s.party r).ctx =
      messagesLeft s + actsLeft (slacStep env recv (s.party r)).party.ctx := by
  have hother := s.after_party_not r (slacProtocol.step env recv (s.party r)) rest
  have hself := s.after_party_self r (slacProtocol.step env recv (s.party r)) rest
  unfold messagesLeft
  cases r with
  | true =>
    change (s.after true _ rest).party false = s.party false at hother
    rw [hself, hother]
    change actsLeft (slacStep env recv (s.party true)).party.ctx + _ + _ = _
    omega
  | false =>
    change (s.after false _ rest).party true = s.party true at hother
    rw [hself, hother]
    change _ + actsLeft (slacStep env recv (s.party false)).party.ctx + _ = _
    omega

/-- Step lemma: nothing is added to the scripts, and going on takes something off. -/
theorem left_act (h : Lossless s) (hrel : Reliable s a) (hact : act slacProtocol s a = some t) :
    messagesLeft t ≤ messagesLeft s ∧ ∀ q, GoesOn s q a → messagesLeft t < messagesLeft s := by
  rcases h.dialogue.aligned with ⟨d, _, hscript, _⟩
  cases a with
  | lose r k => cases hrel
  | duplicate r k => cases hrel
  | step r env recv =>
    rcases hrel with ⟨hrecv, hsend, htime⟩
    rcases hrecv with rfl | rfl
    · rw [act] at hact
      split_ifs at hact
      cases hact
      rcases actsLeft_of_none hsend htime (hscript r) with ⟨hle, hlt⟩
      have hsum := @left_after s r env none (s.inbox r)
      refine ⟨by omega, ?_⟩
      rintro q ⟨rfl, his | hsome⟩
      · have := hlt his
        omega
      · cases hsome
    · rw [act] at hact
      split_ifs at hact with hh
      rcases Option.map_eq_some_iff.mp hact with ⟨frame, hframe, rfl⟩
      rw [Bool.or_eq_true, not_or, Bool.not_eq_true, Bool.not_eq_true, Bool.not_eq_false'] at hh
      rcases Option.isSome_iff_exists.mp hh.2 with ⟨w, hw⟩
      cases hin : s.inbox r with
      | nil =>
        rw [hin] at hframe
        cases hframe
      | cons frame' rest =>
        rw [hin] at hframe
        cases hframe
        have hres : (s.party r).ctx.isEv = true → frameType frame = some mmeCmValidateCnf →
            HasResult frame 0x00 := by
          intro hev
          rw [h.dialogue.role r] at hev
          subst hev
          exact h.dialogue.results frame (by rw [hin]; exact List.mem_cons_self)
        rcases slacStep_script_of_recv env hw (hscript r) (h.dialogue.awaited hw hin) hres with
          ⟨l, hl, hrest⟩
        have hlt : actsLeft (slacStep env (some frame) (s.party r)).party.ctx <
            actsLeft (s.party r).ctx := by
          unfold actsLeft
          rw [hrest, hscript r, hl]
          simp
        have hsum := @left_after s r env (some frame) rest
        have hless :
            messagesLeft (s.after r (slacProtocol.step env (some frame) (s.party r)) rest) <
              messagesLeft s := by omega
        exact ⟨hless.le, fun _ _ => hless⟩

end joint

/-- An endless run over a lossless channel, in which nothing may happen for a while. Whoever can
go on does so at some time. -/
structure FairRun (ctx : Bool → SlacContext) (statics : Bool → SlacStatics)
    (x : ℕ → SlacJoint) (a : ℕ → Option (Action SlacEnv)) : Prop where
  start : x 0 = slacStart ctx statics
  step : ∀ n, (a n = none ∧ x (n + 1) = x n) ∨
    ∃ action, a n = some action ∧ Reliable (x n) action ∧
      act slacProtocol (x n) action = some (x (n + 1))
  fair : ∀ n q, CanGoOn (x n) q → ∃ m, n ≤ m ∧ ∃ action, a m = some action ∧
    GoesOn (x m) q action

namespace FairRun

variable {ctx : Bool → SlacContext} {statics : Bool → SlacStatics} {x : ℕ → SlacJoint}
  {a : ℕ → Option (Action SlacEnv)}

theorem invariant (h : FairRun ctx statics x a) {I : SlacJoint → Prop}
    (hstart : I (slacStart ctx statics))
    (hstep : ∀ s action t, I s → Reliable s action → act slacProtocol s action = some t → I t)
    (n : ℕ) : I (x n) := by
  induction n with
  | zero =>
    rw [h.start]
    exact hstart
  | succ n ih =>
    rcases h.step n with ⟨_, hsame⟩ | ⟨action, _, hrel, hact⟩
    · rw [hsame]
      exact ih
    · exact hstep _ _ _ ih hrel hact

theorem lossless (hrole : ∀ r, (ctx r).isEv = r) (h : FairRun ctx statics x a) (n : ℕ) :
    Lossless (x n) :=
  h.invariant (lossless_start hrole statics) (fun _ _ _ hs hrel hact => hs.act hrel hact) n

theorem messagesLeft_le (hrole : ∀ r, (ctx r).isEv = r) (h : FairRun ctx statics x a) {n m : ℕ}
    (hnm : n ≤ m) : messagesLeft (x m) ≤ messagesLeft (x n) := by
  induction m, hnm using Nat.le_induction with
  | base => exact le_rfl
  | succ m hm ih =>
    rcases h.step m with ⟨_, hsame⟩ | ⟨action, _, hrel, hact⟩
    · rw [hsame]
      exact ih
    · exact (left_act (h.lossless hrole m) hrel hact).1.trans ih

theorem leadsTo_matched (hrole : ∀ r, (ctx r).isEv = r) (h : FairRun ctx statics x a) :
    Progress.LeadsTo x Lossless fun s => ∀ r, slacResult (s.party r).ctx = 1 := by
  apply Progress.LeadsTo.of_rank messagesLeft
  rintro b n ⟨hn, rfl⟩
  by_cases hm : ∀ r, slacResult ((x n).party r).ctx = 1
  · exact ⟨n, le_rfl, Or.inl hm⟩
  · push Not at hm
    rcases hm with ⟨r, hr⟩
    rcases hn.dialogue.progress hr with ⟨q, hq⟩
    rcases h.fair n q hq with ⟨m, hnm, action, ha, hgoes⟩
    refine ⟨m + 1, hnm.trans m.le_succ, Or.inr ⟨h.lossless hrole (m + 1), ?_⟩⟩
    rcases h.step m with ⟨hnone, _⟩ | ⟨action', ha', hrel, hact⟩
    · rw [ha] at hnone
      cases hnone
    · obtain rfl := Option.some_inj.mp (ha.symm.trans ha')
      have hless := (left_act (h.lossless hrole m) hrel hact).2 q hgoes
      exact hless.trans_le (h.messagesLeft_le hrole hnm)

end FairRun

theorem terminal_of_matched {ctx : SlacContext} (h : slacResult ctx = 1) :
    ctx.state.terminal = true := by
  apply (slacResult_ne_zero_iff ctx).mp
  rw [h]
  decide

theorem act_of_matched {s : SlacJoint} (h : ∀ r, slacResult (s.party r).ctx = 1)
    {a : Action SlacEnv} (hrel : Reliable s a) : act slacProtocol s a = none := by
  cases a with
  | lose r k => cases hrel
  | duplicate r k => cases hrel
  | step r env recv =>
    have hhalted : slacProtocol.halted (s.party r) = true := terminal_of_matched (h r)
    cases recv with
    | none => rw [act, if_pos hhalted]
    | some k => rw [act, hhalted, Bool.true_or, if_pos rfl]

theorem evMatched_of_lossless {s : SlacJoint} (h : Lossless s)
    (hm : slacResult (s.party true).ctx = 1) : (s.party true).ctx.state = .evMatched := by
  rcases h.dialogue.aligned with ⟨d, _, hscript, _⟩
  rcases (slacResult_eq_one_iff _).mp hm with hs | hs
  · exact hs
  · have hl := hscript true
    rw [SlacContext.script, h.dialogue.role true, hs] at hl
    cases hl

/-- Over a lossless channel, with all sends successful, no time limit exceeded and nobody kept
from going on for ever, both sides are matched from some time on, and with one key. -/
theorem lossless_match_ends {ctx : Bool → SlacContext} (hrole : ∀ r, (ctx r).isEv = r)
    {statics : Bool → SlacStatics} {x : ℕ → SlacJoint} {a : ℕ → Option (Action SlacEnv)}
    (h : FairRun ctx statics x a) :
    ∃ n, ∀ m, n ≤ m → (∀ r, slacResult ((x m).party r).ctx = 1) ∧
      ((x m).party true).ctx.nmk = ((x m).party false).ctx.nmk ∧
      ((x m).party true).ctx.nid = ((x m).party false).ctx.nid := by
  rcases h.leadsTo_matched hrole 0 (h.lossless hrole 0) with ⟨n, _, hn⟩
  have hkey := h.invariant (keyAgreement_start hrole statics)
    fun _ _ _ hs _ hact => keyAgreement.act hs hact
  refine ⟨n, fun m hnm => ?_⟩
  have hm : ∀ r, slacResult ((x m).party r).ctx = 1 := by
    induction m, hnm using Nat.le_induction with
    | base => exact hn
    | succ m _ ih =>
      rcases h.step m with ⟨_, hsame⟩ | ⟨action, _, hrel, hact⟩
      · rw [hsame]
        exact ih
      · rw [act_of_matched ih hrel] at hact
        cases hact
  exact ⟨hm, ((hkey m).parties.2 (evMatched_of_lossless (h.lossless hrole m) (hm true))).2⟩

theorem canGoOn_after {s : SlacJoint} {r : Bool} {out : SlacParty × List (List Byte)}
    {rest : List (List Byte)} (h : CanGoOn s (!r)) : CanGoOn (s.after r out rest) (!r) := by
  unfold CanGoOn
  rw [State.after_party_not, State.after_inbox_not]
  apply h.imp_right
  rintro ⟨hwait, hin⟩
  exact ⟨hwait, List.append_ne_nil_of_left_ne_nil hin _⟩

theorem canGoOn_act {s t : SlacJoint} {a : Action SlacEnv} {q : Bool} (h : CanGoOn s q)
    (hrel : Reliable s a) (hact : act slacProtocol s a = some t) :
    GoesOn s q a ∨ CanGoOn t q := by
  cases a with
  | lose r k => cases hrel
  | duplicate r k => cases hrel
  | step r env recv =>
    by_cases hr : q = r
    · subst hr
      rcases h with his | ⟨hwait, hin⟩
      · exact Or.inl ⟨rfl, Or.inl his⟩
      · rcases hrel.1 with rfl | rfl
        · -- a party that waits in vain stays as it is
          rcases Option.isSome_iff_exists.mp hwait with ⟨w, hw⟩
          have hkept := kept_ctx (slacStep_kept_of_none hw hrel.2.2)
          rw [act] at hact
          split_ifs at hact
          cases hact
          right; right
          rw [State.after_party_self, State.after_inbox_self]
          change (waitOf (slacStep env none (s.party q)).party.ctx.isEv
            (slacStep env none (s.party q)).party.ctx.state).isSome ∧ _
          rw [hkept]
          exact ⟨hwait, hin⟩
        · exact Or.inl ⟨rfl, Or.inr rfl⟩
    · right
      obtain rfl := Bool.eq_not_iff.mpr hr
      rcases hrel.1 with rfl | rfl
      · rw [act] at hact
        split_ifs at hact
        cases hact
        exact canGoOn_after h
      · rw [act] at hact
        split_ifs at hact
        rcases Option.map_eq_some_iff.mp hact with ⟨frame, _, rfl⟩
        exact canGoOn_after h

theorem not_canGoOn_of_matched {s : SlacJoint} {q : Bool}
    (h : slacResult (s.party q).ctx = 1) : ¬CanGoOn s q := by
  have hterminal := terminal_of_matched h
  unfold CanGoOn
  cases hstate : (s.party q).ctx.state <;> rw [hstate] at hterminal
  any_goals cases hterminal
  all_goals
    cases hrole : (s.party q).ctx.isEv <;> simp [SlacState.isSend, waitOf]

theorem FairRun.of_run {ctx : Bool → SlacContext} {statics : Bool → SlacStatics} {t : SlacJoint}
    {as : List (Action SlacEnv)}
    (hrun : Transition.run (act slacProtocol) (slacStart ctx statics) as = some t)
    (hrel : Transition.Along (act slacProtocol) Reliable (slacStart ctx statics) as)
    (hend : ∀ r, slacResult (t.party r).ctx = 1) :
    FairRun ctx statics (Transition.stateAt (act slacProtocol) (slacStart ctx statics) as)
      fun n => as[n]? where
  start := Transition.stateAt_zero _ _
  step := Transition.stateAt_step hrun hrel
  fair := by
    intro n q hn
    by_contra hnever
    push Not at hnever
    -- who never goes on can go on for ever
    have hstill : ∀ m, n ≤ m →
        CanGoOn (Transition.stateAt (act slacProtocol) (slacStart ctx statics) as m) q := by
      intro m hnm
      induction m, hnm using Nat.le_induction with
      | base => exact hn
      | succ m hnm ih =>
        rcases Transition.stateAt_step hrun hrel m with ⟨_, hsame⟩ | ⟨action, ha, hr, hact⟩
        · rw [hsame]
          exact ih
        · exact (canGoOn_act ih hr hact).resolve_left (hnever m hnm action ha)
    have hlast := hstill (max n as.length) (le_max_left _ _)
    rw [Transition.stateAt_of_length_le hrun (le_max_right _ _)] at hlast
    exact not_canGoOn_of_matched (hend q) hlast

theorem lossless_match_ends_losslessRun :
    ∃ x a, FairRun twoStations (fun _ => .zero) x a ∧
      ∃ n, ∀ m, n ≤ m → (∀ r, slacResult ((x m).party r).ctx = 1) ∧
        ((x m).party true).ctx.nmk = ((x m).party false).ctx.nmk ∧
        ((x m).party true).ctx.nid = ((x m).party false).ctx.nid := by
  have hrun : ∃ s ∈ Transition.run (act slacProtocol) (slacStart twoStations fun _ => .zero)
      losslessRun, ∀ r, slacResult (s.party r).ctx = 1 := by decide +kernel
  have hrel : Transition.Along (act slacProtocol) Reliable (slacStart twoStations fun _ => .zero)
      losslessRun := by decide +kernel
  rcases hrun with ⟨s, hs, hm⟩
  have hfair := FairRun.of_run hs hrel hm
  exact ⟨_, _, hfair, lossless_match_ends (fun _ => rfl) hfair⟩

end EvseIso15118
