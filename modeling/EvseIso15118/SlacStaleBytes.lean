import EvseIso15118.SlacChannel

namespace EvseIso15118

/-- All that a step leaves behind except the buffer: the context, the stored MAC addresses and
the stored run id. -/
def SlacParty.kept (p : SlacParty) : SlacContext × Mac × Mac × Octets 8 :=
  (p.ctx, p.statics.evseMac, p.statics.evMac, p.statics.runId)

/-- The end of what a state reads of the frame it awaits. -/
def SlacState.readEnd : SlacState → ℕ
  | .evWaitAttenChar => 128
  | .evWaitValidateCnf => 21
  | .evWaitMatchCnf => 107
  | .evseWaitParmReq => 28
  | _ => 18

/-- The frame is not the awaited one or reaches to the end of what is read of it. -/
def Covers (ctx : SlacContext) (data : List Byte) : Prop :=
  ∀ w, waitOf ctx.isEv ctx.state = some w → frameType data = some w.awaited →
    ctx.state.readEnd ≤ data.length

theorem length_of_frameType {data : List Byte} {mmtype : UInt16}
    (h : frameType data = some mmtype) : 18 ≤ data.length := by
  by_contra hlt
  rw [frameType, if_pos (by omega)] at h
  cases h

section accept
variable {w : Wait} {s : SlacState} {data : List Byte}

theorem accept_kept_congr {r : Bool} (hw : waitOf r s = some w) (hlen : 18 ≤ data.length)
    (hread : s.readEnd ≤ data.length) (env : SlacEnv) (ctx : SlacContext) (st : SlacStatics)
    (buf buf' : Octets 2048) :
    (⟨(w.accept env ctx { st with buf := recvInto buf data }).1,
        (w.accept env ctx { st with buf := recvInto buf data }).2⟩ : SlacParty).kept =
      (⟨(w.accept env ctx { st with buf := recvInto buf' data }).1,
        (w.accept env ctx { st with buf := recvInto buf' data }).2⟩ : SlacParty).kept := by
  have same : ∀ {off n : ℕ}, off + n ≤ data.length → off + n ≤ 2048 →
      field (recvInto buf data) off n = field (recvInto buf' data) off n :=
    fun h hn => field_recvInto_congr h hn
  cases r with
  | true =>
    rcases waitOf_ev hw with ⟨rfl, rfl⟩ | ⟨rfl, rfl⟩ | ⟨rfl, rfl⟩ | ⟨rfl, rfl⟩
    · simp only [SlacParty.kept, evWaitParmCnf]
      rw [same (by omega) (by decide)]
    · simp only [SlacParty.kept, evWaitAttenChar]
      rw [same hread (by decide)]
    · simp only [SlacParty.kept, evWaitValidateCnf]
      rw [octetAt_recvInto hread (by decide), octetAt_recvInto hread (by decide)]
    · simp only [SlacParty.kept, evWaitMatchCnf]
      have hnid : 100 + 7 ≤ data.length := hread
      rw [same (by omega) (by decide), same hnid (by decide)]
  | false =>
    rcases waitOf_evse hw with
      ⟨rfl, rfl⟩ | ⟨_, rfl⟩ | ⟨_, rfl⟩ | ⟨_, rfl⟩ | ⟨_, rfl⟩ | ⟨_, rfl⟩
    · simp only [SlacParty.kept, evseWaitParmReq]
      rw [same (by omega) (by decide), same hread (by decide)]
    all_goals rfl

theorem octetAt_stale_ne {i : ℕ} (h : data.length ≤ i) (hi : i < 2048) :
    octetAt (recvInto (fun _ => 0) data) i ≠ octetAt (recvInto (fun _ => 1) data) i := by
  rw [octetAt_recvInto_stale h, octetAt_recvInto_stale h, octetAt_const 0 hi, octetAt_const 1 hi]
  decide

theorem accept_kept_stale {r : Bool} (hw : waitOf r s = some w) (hlen : 18 ≤ data.length)
    (hread : data.length < s.readEnd) (env : SlacEnv) (ctx : SlacContext) (st : SlacStatics) :
    (⟨(w.accept env ctx { st with buf := recvInto (fun _ => 0) data }).1,
        (w.accept env ctx { st with buf := recvInto (fun _ => 0) data }).2⟩ : SlacParty).kept ≠
      (⟨(w.accept env ctx { st with buf := recvInto (fun _ => 1) data }).1,
        (w.accept env ctx { st with buf := recvInto (fun _ => 1) data }).2⟩ : SlacParty).kept := by
  intro heq
  -- the last byte that is read is an old one
  have hlast : data.length ≤ s.readEnd - 1 := Nat.le_sub_one_of_lt hread
  cases r with
  | true =>
    rcases waitOf_ev hw with ⟨rfl, rfl⟩ | ⟨rfl, rfl⟩ | ⟨rfl, rfl⟩ | ⟨rfl, rfl⟩
    · exact absurd hlen (not_le.mpr hread)
    · exact octetAt_stale_ne hlast (by decide) (congrArg (fun o => o.1.aag 57) heq)
    · -- the result byte decides between the next request and failure
      have h20 : data.length ≤ 20 := hlast
      have h0 : octetAt (recvInto (fun _ => 0) data) 20 = 0 := by
        rw [octetAt_recvInto_stale h20, octetAt_const 0 (by decide)]
      have h1 : octetAt (recvInto (fun _ => 1) data) 20 = 1 := by
        rw [octetAt_recvInto_stale h20, octetAt_const 1 (by decide)]
      have hstate := congrArg (fun o => o.1.state) heq
      simp only [SlacParty.kept, evWaitValidateCnf] at hstate
      rw [h0, h1] at hstate
      cases hstate
    · exact octetAt_stale_ne hlast (by decide) (congrArg (fun o => o.1.nid 6) heq)
  | false =>
    rcases waitOf_evse hw with
      ⟨rfl, rfl⟩ | ⟨rfl, rfl⟩ | ⟨rfl, rfl⟩ | ⟨rfl, rfl⟩ | ⟨rfl, rfl⟩ | ⟨rfl, rfl⟩
    · exact octetAt_stale_ne hlast (by decide) (congrArg (fun o => o.2.2.2 7) heq)
    all_goals exact absurd hlen (not_le.mpr hread)

end accept

section step
variable (env : SlacEnv) (ctx : SlacContext) (st : SlacStatics) (data : List Byte)

/-- The party after a step over a buffer with this in it. -/
def stepOver (recv : Option (List Byte)) (buf : Octets 2048) : SlacParty :=
  (slacStep env recv ⟨ctx, { st with buf := buf }⟩).party

variable {env ctx st data}

theorem stepOver_accept {w : Wait} (hw : waitOf ctx.isEv ctx.state = some w)
    (ht : frameType data = some w.awaited) (buf : Octets 2048) :
    stepOver env ctx st (some data) buf =
      ⟨(w.accept env ctx { st with buf := recvInto buf data }).1,
        (w.accept env ctx { st with buf := recvInto buf data }).2⟩ := by
  rw [stepOver, slacStep_of_wait hw]
  simp only [Wait.run, recvFrame_some]
  rw [if_pos ht]

/-- Without an awaited frame a wait state only looks at the clock. -/
theorem slacStep_kept_of_ignored {p : SlacParty} {w : Wait} {recv : Option (List Byte)}
    (hw : waitOf p.ctx.isEv p.ctx.state = some w) (ht : recv.bind frameType ≠ some w.awaited) :
    (slacStep env recv p).party.kept =
      (if w.expired env p.ctx then w.timeout p.ctx else p.ctx, p.statics.evseMac,
        p.statics.evMac, p.statics.runId) := by
  have hrecv : (recvFrame p.statics.buf recv).1 ≠ some w.awaited := by
    cases recv with
    | none => exact ht
    | some data => rwa [recvFrame_some]
  rw [slacStep_of_wait hw, Wait.run, if_neg hrecv]
  split_ifs <;> rfl

theorem stepOver_none (buf : Octets 2048) :
    (stepOver env ctx st none buf).kept = (slacStep env none ⟨ctx, st⟩).party.kept := by
  cases hw : waitOf ctx.isEv ctx.state with
  | none =>
    rw [stepOver, slacStep_of_send hw, slacStep_of_send hw]
    rfl
  | some w =>
    have ht : (none : Option (List Byte)).bind frameType ≠ some w.awaited := by simp
    rw [stepOver, slacStep_kept_of_ignored hw ht, slacStep_kept_of_ignored hw ht]

theorem stepOver_congr (hcov : Covers ctx data) (buf buf' : Octets 2048) :
    (stepOver env ctx st (some data) buf).kept = (stepOver env ctx st (some data) buf').kept := by
  cases hw : waitOf ctx.isEv ctx.state with
  | none =>
    rw [stepOver, stepOver, slacStep_of_send hw, slacStep_of_send hw]
    rfl
  | some w =>
    by_cases ht : frameType data = some w.awaited
    · rw [stepOver_accept hw ht, stepOver_accept hw ht]
      exact accept_kept_congr hw (length_of_frameType ht) (hcov w hw ht) env ctx st buf buf'
    · have ht : (some data).bind frameType ≠ some w.awaited := ht
      rw [stepOver, stepOver, slacStep_kept_of_ignored hw ht, slacStep_kept_of_ignored hw ht]

theorem slacStep_kept_congr {p q : SlacParty} (h : p.kept = q.kept) {recv : Option (List Byte)}
    (hcov : ∀ data ∈ recv, Covers p.ctx data) :
    (slacStep env recv p).party.kept = (slacStep env recv q).party.kept := by
  rcases p with ⟨ctx, buf, evseMac, evMac, runId⟩
  rcases q with ⟨ctx', buf', evseMac', evMac', runId'⟩
  cases h
  let st : SlacStatics := ⟨buf, evseMac, evMac, runId⟩
  cases recv with
  | none => exact (@stepOver_none env ctx st buf').symm
  | some data => exact @stepOver_congr env ctx st data (hcov data rfl) buf buf'

end step

/-- The bytes an earlier frame left in the buffer have no effect on a step exactly where the
frame covers what is read of it. -/
theorem stepOver_independent_iff (env : SlacEnv) (ctx : SlacContext) (st : SlacStatics)
    (data : List Byte) :
    (∀ buf buf', (stepOver env ctx st (some data) buf).kept =
      (stepOver env ctx st (some data) buf').kept) ↔ Covers ctx data := by
  constructor
  · intro h w hw ht
    by_contra hlt
    have h01 := h (fun _ => 0) (fun _ => 1)
    rw [stepOver_accept hw ht, stepOver_accept hw ht] at h01
    exact accept_kept_stale hw (length_of_frameType ht) (by omega) env ctx st h01
  · intro hcov buf buf'
    exact stepOver_congr hcov buf buf'

/-- A CM_VALIDATE.CNF cut after its header: an old byte is the result. -/
theorem stepOver_dependent_validateCnf :
    let ctx : SlacContext := { slacInit (fun _ => 2) true with state := .evWaitValidateCnf }
    let data := buildHdr (fun _ => 2) (fun _ => 4) mmeCmValidateCnf
    data.length = ethMmeHeaderLen ∧
    (stepOver ⟨0, fun _ => 0, fun _ => true⟩ ctx .zero (some data) fun _ => 0).ctx.state =
      .evSendMatchReq ∧
    (stepOver ⟨0, fun _ => 0, fun _ => true⟩ ctx .zero (some data) fun _ => 4).ctx.state =
      .evFailed := by
  decide +kernel

end EvseIso15118
