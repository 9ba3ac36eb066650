import EvseIso15118.SlacMatching
import EvseIso15118.SlacStaleBytes

namespace EvseIso15118

/-- The peer's MAC address has been stored: by the EV from a confirmation, by the EVSE, with the
run id, from a request. -/
def SlacState.peerStored : SlacState → Bool
  | .evseSendParmCnf | .evseWaitStartAtten | .evseCollectSounds | .evseSendAttenChar
  | .evseWaitAttenRsp | .evseWaitValidateReq | .evseSendValidateCnf | .evseWaitMatchReq
  | .evseSendMatchCnf | .evseMatched => true
  | s => s.confirmed

/-- The party waits for a frame, and not for this one. -/
def Ignores (p : SlacParty) (data : List Byte) : Prop :=
  ∃ w, waitOf p.ctx.isEv p.ctx.state = some w ∧ frameType data ≠ some w.awaited

/-- The time limit of the wait has not passed. -/
def InTime (env : SlacEnv) (p : SlacParty) : Prop :=
  ∀ w, waitOf p.ctx.isEv p.ctx.state = some w → w.expired env p.ctx = false

section ignored
variable {env : SlacEnv} {p : SlacParty} {data : List Byte}

theorem slacStep_kept_of_ignores (h : Ignores p data) :
    (slacStep env (some data) p).party.kept = (slacStep env none p).party.kept := by
  rcases h with ⟨w, hw, ht⟩
  have hsome : (some data).bind frameType ≠ some w.awaited := ht
  have hnone : (none : Option (List Byte)).bind frameType ≠ some w.awaited := by simp
  rw [slacStep_kept_of_ignored hw hsome, slacStep_kept_of_ignored hw hnone]

theorem slacStep_kept_of_inTime (h : Ignores p data) (ht : InTime env p) :
    (slacStep env (some data) p).party.kept = p.kept := by
  rcases h with ⟨w, hw, htype⟩
  have hsome : (some data).bind frameType ≠ some w.awaited := htype
  rw [slacStep_kept_of_ignored hw hsome, ht w hw, if_neg (by simp)]
  rfl

theorem ignores_running (h : Ignores p data) : p.ctx.state.terminal = false := by
  rcases h with ⟨w, hw, _⟩
  revert hw
  generalize p.ctx.isEv = r
  cases p.ctx.state <;> cases r <;> simp [waitOf, SlacState.terminal]

end ignored

/-- The second run has the frames of the first and others between them, which the party ignores:
instead of an empty reception, or as further receptions in time. -/
inductive Interleaved : SlacParty → List (SlacEnv × Option (List Byte)) →
    List (SlacEnv × Option (List Byte)) → Prop
  | nil (p : SlacParty) : Interleaved p [] []
  | own {p : SlacParty} {env : SlacEnv} {recv : Option (List Byte)}
      {is js : List (SlacEnv × Option (List Byte))}
      (hcov : ∀ data ∈ recv, Covers p.ctx data)
      (h : Interleaved (slacStep env recv p).party is js) :
      Interleaved p ((env, recv) :: is) ((env, recv) :: js)
  | instead {p : SlacParty} {env : SlacEnv} {data : List Byte}
      {is js : List (SlacEnv × Option (List Byte))} (hign : Ignores p data)
      (h : Interleaved (slacStep env none p).party is js) :
      Interleaved p ((env, none) :: is) ((env, some data) :: js)
  | further {p : SlacParty} {env : SlacEnv} {data : List Byte}
      {is js : List (SlacEnv × Option (List Byte))} (hign : Ignores p data)
      (htime : InTime env p) (h : Interleaved p is js) :
      Interleaved p is ((env, some data) :: js)

theorem slacLoop_cons_running {p : SlacParty} (h : p.ctx.state.terminal = false) (env : SlacEnv)
    (recv : Option (List Byte)) (is : List (SlacEnv × Option (List Byte))) :
    slacLoop ((env, recv) :: is) p = slacLoop is (slacStep env recv p).party := by
  rw [slacLoop, h, if_neg (by simp)]

theorem kept_ctx {p q : SlacParty} (h : p.kept = q.kept) : p.ctx = q.ctx := congrArg Prod.fst h

theorem Ignores.congr {p q : SlacParty} {data : List Byte} (h : Ignores p data)
    (hk : p.kept = q.kept) : Ignores q data := by
  unfold Ignores at h ⊢
  rwa [← kept_ctx hk]

theorem InTime.congr {env : SlacEnv} {p q : SlacParty} (h : InTime env p)
    (hk : p.kept = q.kept) : InTime env q := by
  unfold InTime at h ⊢
  rwa [← kept_ctx hk]

theorem slacLoop_kept_of_interleaved {p : SlacParty} {is js : List (SlacEnv × Option (List Byte))}
    (h : Interleaved p is js) {q : SlacParty} (hk : p.kept = q.kept) :
    (slacLoop is p).kept = (slacLoop js q).kept := by
  induction h generalizing q with
  | nil p => exact hk
  | @own p env recv is js hcov _ ih =>
    by_cases ht : p.ctx.state.terminal
    · have ht' : q.ctx.state.terminal := kept_ctx hk ▸ ht
      rw [slacLoop, if_pos ht, slacLoop, if_pos ht']
      exact hk
    · have ht' : ¬q.ctx.state.terminal := kept_ctx hk ▸ ht
      rw [slacLoop, if_neg ht, slacLoop, if_neg ht']
      exact ih (slacStep_kept_congr hk hcov)
  | @instead p env data is js hign _ ih =>
    have hign' := hign.congr hk
    rw [slacLoop_cons_running (ignores_running hign),
      slacLoop_cons_running (ignores_running hign')]
    apply ih
    rw [slacStep_kept_of_ignores hign']
    exact slacStep_kept_congr hk (by simp)
  | @further p env data is js hign htime _ ih =>
    -- a step of the second run only
    have hign' := hign.congr hk
    rw [slacLoop_cons_running (ignores_running hign')]
    apply ih
    rw [slacStep_kept_of_inTime hign' (htime.congr hk)]
    exact hk

def runIdOffset (mmtype : UInt16) : Option ℕ :=
  if mmtype = mmeCmSlacParmReq then some 20
  else if mmtype = mmeCmSlacParmCnf then some 35
  else if mmtype = mmeCmStartAttenInd then some 29
  else if mmtype = mmeCmMnbcSoundInd then some 38
  else if mmtype = mmeCmAttenCharInd ∨ mmtype = mmeCmAttenCharRsp then some 26
  else if mmtype = mmeCmSlacMatchReq ∨ mmtype = mmeCmSlacMatchCnf then some 68
  else none

/-- Two frames of one type that are alike but for the source address and the run id. -/
structure SameButOrigin (mmtype : UInt16) (data data' : List Byte) : Prop where
  type : frameType data = some mmtype
  type' : frameType data' = some mmtype
  length : data.length = data'.length
  rest : ∀ i, (i < 6 ∨ 12 ≤ i) → (∀ off ∈ runIdOffset mmtype, i < off ∨ off + 8 ≤ i) →
    byteAt data i = byteAt data' i

theorem SameButOrigin.octetAt {mmtype : UInt16} {data data' : List Byte}
    (h : SameButOrigin mmtype data data') (buf : Octets 2048) {i : ℕ} (hi : 12 ≤ i)
    (hoff : ∀ off ∈ runIdOffset mmtype, i < off ∨ off + 8 ≤ i) :
    octetAt (recvInto buf data) i = octetAt (recvInto buf data') i := by
  have hrest := h.rest i (Or.inr hi) hoff
  unfold EvseIso15118.octetAt recvInto
  rw [h.length]
  simp only [hrest]

theorem SameButOrigin.field {mmtype : UInt16} {data data' : List Byte}
    (h : SameButOrigin mmtype data data') (buf : Octets 2048) (off n : ℕ) (hi : 12 ≤ off)
    (hoff : ∀ o ∈ runIdOffset mmtype, off + n ≤ o ∨ o + 8 ≤ off) :
    field (recvInto buf data) off n = field (recvInto buf data') off n := by
  funext i
  apply h.octetAt buf (by omega)
  intro o ho
  have := i.isLt
  rcases hoff o ho with hlt | hge
  · left
    omega
  · right
    omega

theorem slacStep_kept_of_sameButOrigin {p : SlacParty} {env : SlacEnv} {mmtype : UInt16}
    {data data' : List Byte} (hp : p.ctx.state.peerStored = true)
    (h : SameButOrigin mmtype data data') :
    (slacStep env (some data) p).party.kept = (slacStep env (some data') p).party.kept := by
  cases hw : waitOf p.ctx.isEv p.ctx.state with
  | none => rw [slacStep_of_send hw, slacStep_of_send hw]
  | some w =>
    by_cases ht : mmtype = w.awaited
    · subst ht
      rw [slacStep_of_wait hw, slacStep_of_wait hw]
      simp only [Wait.run, recvFrame_some]
      rw [if_pos h.type, if_pos h.type']
      revert hw
      generalize p.ctx.isEv = r
      intro hw
      cases r with
      | true =>
        rcases waitOf_ev hw with ⟨hs, rfl⟩ | ⟨_, rfl⟩ | ⟨_, rfl⟩ | ⟨_, rfl⟩
        · -- here the source address is stored, but no peer yet
          rw [hs] at hp
          cases hp
        · simp only [SlacParty.kept, evWaitAttenChar]
          rw [h.field _ 70 58 (by decide) (by decide)]
        · simp only [SlacParty.kept, evWaitValidateCnf]
          rw [h.octetAt _ (by decide) (by decide)]
        · simp only [SlacParty.kept, evWaitMatchCnf]
          rw [h.field _ 84 16 (by decide) (by decide), h.field _ 100 7 (by decide) (by decide)]
      | false =>
        rcases waitOf_evse hw with
          ⟨hs, rfl⟩ | ⟨_, rfl⟩ | ⟨_, rfl⟩ | ⟨_, rfl⟩ | ⟨_, rfl⟩ | ⟨_, rfl⟩
        · rw [hs] at hp
          cases hp
        all_goals rfl
    · have hne : (some data).bind frameType ≠ some w.awaited := by
        rw [Option.bind_some, h.type]
        simpa using ht
      have hne' : (some data').bind frameType ≠ some w.awaited := by
        rw [Option.bind_some, h.type']
        simpa using ht
      rw [slacStep_kept_of_ignored hw hne, slacStep_kept_of_ignored hw hne']

def withSource (data : List Byte) (src : Mac) : List Byte :=
  data.take 6 ++ List.ofFn src ++ data.drop 12

theorem byteAt_withSource {data : List Byte} (src : Mac) (hlen : 18 ≤ data.length) {i : ℕ}
    (hi : i < 6 ∨ 12 ≤ i) : byteAt (withSource data src) i = byteAt data i := by
  have h6 : (data.take 6).length = 6 := by
    rw [List.length_take]
    omega
  unfold withSource
  rcases hi with hlt | hge
  · rw [List.append_assoc, byteAt_append_left _ (by omega), byteAt_take hlt]
  · rw [byteAt_append_right _ (by simp; omega), byteAt_drop, List.length_append, h6,
      List.length_ofFn]
    congr 1
    omega

theorem sameButOrigin_withSource {data : List Byte} {mmtype : UInt16}
    (h : frameType data = some mmtype) (src : Mac) :
    SameButOrigin mmtype data (withSource data src) := by
  have hlen := length_of_frameType h
  have hlen' : (withSource data src).length = data.length := by
    simp [withSource]
    omega
  refine ⟨h, ?_, hlen'.symm, ?_⟩
  · rw [← h]
    unfold frameType
    rw [hlen', byteAt_withSource src hlen (by omega), byteAt_withSource src hlen (by omega),
      byteAt_withSource src hlen (by omega), byteAt_withSource src hlen (by omega)]
  · intro i hi _
    exact (byteAt_withSource src hlen hi).symm

/-- `rand()` counts up from 16. -/
def quietAt (millis : UInt64) : SlacEnv := ⟨millis, fun i => 16 + i, fun _ => true⟩

/-- What an EV finds on its way to CM_SLAC_MATCH.REQ, with an EVSE at 04:04:04:04:04:04. -/
def untilMatchReq : List (SlacEnv × Option (List Byte)) :=
  let runId : Octets 8 := fun i => UInt8.ofNat (16 + i)
  let ev : Mac := fun _ => 2
  let evse : Mac := fun _ => 4
  [(quietAt 0, none), (quietAt 10, some (cmSlacParmCnf ev evse runId)), (quietAt 10, none),
    (quietAt 210, none), (quietAt 220, some (cmAttenCharInd ev evse runId 10 fun _ => 30)),
    (quietAt 220, none), (quietAt 220, none), (quietAt 230, some (cmValidateCnf ev evse)),
    (quietAt 230, none)]

def waitingEv : SlacParty := slacRun untilMatchReq ⟨slacInit (fun _ => 2) true, .zero⟩

/-- A key from 06:06:06:06:06:06, for a run id of its own. -/
def foreignMatchCnf : List Byte :=
  cmSlacMatchCnf (fun _ => 2) (fun _ => 6) (fun _ => 0) (fun _ => 0xAA) fun _ => 0xA8

/-- With neither the address nor the run id of the match it installs its key. -/
theorem foreign_matchCnf_installs_key :
    waitingEv.statics.evseMac = (fun _ => 4) ∧ waitingEv.ctx.runId ≠ (fun _ => 0) ∧
    (slacStep (quietAt 240) none waitingEv).party.ctx.state = .evWaitMatchCnf ∧
    (slacStep (quietAt 240) none waitingEv).party.ctx.nmk = (fun _ => 0) ∧
    (slacStep (quietAt 240) (some foreignMatchCnf) waitingEv).party.ctx.state = .evMatched ∧
    (slacStep (quietAt 240) (some foreignMatchCnf) waitingEv).party.ctx.nmk = fun _ => 0xAA := by
  decide +kernel

theorem waitOf_waitingEv :
    waitOf waitingEv.ctx.isEv waitingEv.ctx.state = some evWaitMatchCnf := by
  have hs : waitingEv.ctx.state = .evWaitMatchCnf := by decide +kernel
  have hev : waitingEv.ctx.isEv = true := by decide +kernel
  rw [hs, hev]
  rfl

/-- A frame that is not awaited is no more than an empty reception, and any number of them
between the frames of a run changes nothing. A frame that is awaited does what it does whatever
its source address and run id. -/
theorem frames_told_apart_by_type (p : SlacParty) :
    (∀ env data, Ignores p data →
      (slacStep env (some data) p).party.kept = (slacStep env none p).party.kept) ∧
    (∀ is js, Interleaved p is js → (slacLoop js p).kept = (slacLoop is p).kept) ∧
    (p.ctx.state.peerStored = true → ∀ env mmtype data data', SameButOrigin mmtype data data' →
      (slacStep env (some data) p).party.kept = (slacStep env (some data') p).party.kept) := by
  refine ⟨?_, ?_, ?_⟩
  · intro env data h
    exact slacStep_kept_of_ignores h
  · intro is js h
    exact (slacLoop_kept_of_interleaved h rfl).symm
  · intro hp env mmtype data data' h
    exact slacStep_kept_of_sameButOrigin hp h

/-- A request of another station changes nothing, and a key of another station is as good as one
from the peer's address. -/
theorem frames_told_apart_by_type_waitingEv :
    (slacLoop [(quietAt 235, some (cmValidateReq (fun _ => 2) fun _ => 6)), (quietAt 240, none)]
        waitingEv).kept = (slacLoop [(quietAt 240, none)] waitingEv).kept ∧
    (slacStep (quietAt 240) (some foreignMatchCnf) waitingEv).party.kept =
      (slacStep (quietAt 240) (some (withSource foreignMatchCnf waitingEv.statics.evseMac))
        waitingEv).party.kept := by
  have h := frames_told_apart_by_type waitingEv
  constructor
  · apply h.2.1
    refine Interleaved.further ⟨evWaitMatchCnf, waitOf_waitingEv, by decide +kernel⟩ ?_ ?_
    · intro w hw
      rw [waitOf_waitingEv] at hw
      cases hw
      decide +kernel
    · exact Interleaved.own (by simp) (Interleaved.nil _)
  · exact h.2.2 (by decide +kernel) _ _ _ _
      (sameButOrigin_withSource (frameType_cmSlacMatchCnf _ _ _ _ _) _)

end EvseIso15118
