import EvseIso15118.SlacDialogue
import EvseIso15118.SlacMatching

namespace EvseIso15118

theorem mod_div_eq_div_iff {sum n k : ℕ} (hk : 0 < k) (hn : k ≤ n) :
    sum % n / k = sum / k ↔ sum < n := by
  constructor
  · intro heq
    by_contra hge
    -- at least `k` is lost, which is one in the average
    have hlost : sum % n + k ≤ sum := by
      have hdiv := Nat.mod_add_div sum n
      have hone := Nat.mul_le_mul_left n (Nat.div_pos (not_lt.mp hge) (hk.trans_le hn))
      omega
    have hle := Nat.div_le_div_right (c := k) hlost
    rw [Nat.add_div_right _ hk] at hle
    omega
  · intro hlt
    rw [Nat.mod_eq_of_lt hlt]

theorem average_mem {low high : ℕ} {l : List ℕ} (hne : 0 < l.length)
    (h : ∀ x ∈ l, low ≤ x ∧ x ≤ high) :
    low ≤ l.sum / l.length ∧ l.sum / l.length ≤ high := by
  have hlow := List.card_nsmul_le_sum l low fun x hx => (h x hx).1
  have hhigh := List.sum_le_card_nsmul l high fun x hx => (h x hx).2
  rw [smul_eq_mul] at hlow hhigh
  constructor
  · rw [Nat.le_div_iff_mul_le hne, Nat.mul_comm]
    exact hlow
  · exact Nat.div_le_of_le_mul hhigh

/-- The simulated attenuation of each group for one sound. -/
def measurement (env : SlacEnv) : Fin 58 → ℕ := fun g => 20 + env.rand g % 20

/-- What a step measures: something for each sound it consumes. -/
def measuredBy (env : SlacEnv) (recv : Option (List Byte)) (p : SlacParty) :
    List (Fin 58 → ℕ) :=
  if p.ctx.state = .evseCollectSounds then (consumedBy p recv).toList.map fun _ => measurement env
  else []

/-- The measurements of a `slac_run`, sound by sound. -/
def slacMeasured (inputs : List (SlacEnv × Option (List Byte))) (p : SlacParty) :
    List (Fin 58 → ℕ) := loopLog measuredBy inputs { p with ctx := slacRunStart p.ctx }

def groupSum (ms : List (Fin 58 → ℕ)) (g : Fin 58) : ℕ := (ms.map fun m => m g).sum

def SlacState.beforeSounds : SlacState → Bool
  | .evseWaitParmReq | .evseSendParmCnf | .evseWaitStartAtten => true
  | _ => false

/-- The context against what was measured: the sums are right up to 256. -/
structure Accumulated (ms : List (Fin 58 → ℕ)) (ctx : SlacContext) : Prop where
  range : SoundsInRange ctx
  sums : ∀ g, (ctx.aag g).toNat = groupSum ms g % 256
  bounds : ∀ m ∈ ms, ∀ g, 20 ≤ m g ∧ m g ≤ 39
  before : ctx.state.beforeSounds = true → ms = []
  count : ctx.state = .evseCollectSounds ∨ ctx.state.soundsCollected = true →
    ctx.soundCount.toNat = ms.length

theorem measurement_bounds (env : SlacEnv) (g : Fin 58) :
    20 ≤ measurement env g ∧ measurement env g ≤ 39 := by
  have hlt := Nat.mod_lt (env.rand g) (by decide : 0 < 20)
  dsimp only [measurement]
  omega

theorem measuredBy_of_none {env : SlacEnv} {recv : Option (List Byte)} {p : SlacParty}
    (h : consumedBy p recv = none) : measuredBy env recv p = [] := by
  rw [measuredBy, h]
  exact ite_self _

theorem groupSum_append (ms : List (Fin 58 → ℕ)) (m : Fin 58 → ℕ) (g : Fin 58) :
    groupSum (ms ++ [m]) g = groupSum ms g + m g := by
  simp [groupSum]

theorem toNat_add_measurement (a : Byte) (env : SlacEnv) (g : Fin 58) :
    (a + UInt8.ofNat (20 + env.rand g % 20)).toNat = (a.toNat + measurement env g) % 256 := by
  rw [UInt8.toNat_add, UInt8.toNat_ofNat', measurement]
  omega

namespace Accumulated
variable {ms : List (Fin 58 → ℕ)} {ctx ctx' : SlacContext} {env : SlacEnv} {w : Wait}

theorem keep (h : Accumulated ms ctx) (hrange : SoundsInRange ctx') (haag : ctx'.aag = ctx.aag)
    (hcount : ctx'.soundCount = ctx.soundCount)
    (hbefore : ctx'.state.beforeSounds = true → ctx.state.beforeSounds = true)
    (hafter : ctx'.state = .evseCollectSounds ∨ ctx'.state.soundsCollected = true →
      ctx.state = .evseCollectSounds ∨ ctx.state.soundsCollected = true) :
    Accumulated ms ctx' := by
  refine ⟨hrange, ?_, h.bounds, fun hb => h.before (hbefore hb), ?_⟩
  · rw [haag]
    exact h.sums
  · rw [hcount]
    exact fun ha => h.count (hafter ha)

theorem send (h : Accumulated ms ctx) (evMac : Mac) (runId : Octets 8) :
    Accumulated ms (evseSend env ctx evMac runId).1 := by
  have hrange : SoundsInRange (evseSend env ctx evMac runId).1 := h.range.send evMac runId
  unfold evseSend at hrange ⊢
  split at hrange
  case h_5 => exact h
  all_goals
    rename_i hs
    refine h.keep hrange rfl rfl ?_ ?_
    all_goals simp [evseSendMatchCnf, hs, SlacState.beforeSounds, SlacState.soundsCollected]

theorem timeout (h : Accumulated ms ctx) (hw : waitOf false ctx.state = some w) :
    Accumulated ms (w.timeout ctx) := by
  have hrange := h.range.timeout hw
  rcases waitOf_evse hw with
    ⟨hs, rfl⟩ | ⟨hs, rfl⟩ | ⟨hs, rfl⟩ | ⟨hs, rfl⟩ | ⟨hs, rfl⟩ | ⟨hs, rfl⟩
  · exact h
  case inr.inr.inl =>
    refine h.keep hrange rfl rfl ?_ ?_
    · dsimp only [evseCollectSounds]
      split_ifs <;> simp [SlacState.beforeSounds]
    · exact fun _ => Or.inl hs
  all_goals
    refine h.keep hrange rfl rfl ?_ ?_
    all_goals
      simp [evseWaitStartAtten, evseWaitAttenRsp, evseWaitValidateReq, evseWaitMatchReq, evseFail,
        SlacState.beforeSounds, SlacState.soundsCollected]

theorem sound (h : Accumulated ms ctx) (hs : ctx.state = .evseCollectSounds) (st : SlacStatics) :
    Accumulated (ms ++ [measurement env]) (evseCollectSounds.accept env ctx st).1 := by
  refine ⟨h.range.sound hs st, ?_, ?_, ?_, ?_⟩
  · intro g
    change (ctx.aag g + UInt8.ofNat (20 + env.rand g % 20)).toNat = _
    rw [toNat_add_measurement, h.sums, groupSum_append, Nat.mod_add_mod]
  · intro m hm
    rcases List.mem_append.mp hm with hold | hnew
    · exact h.bounds m hold
    · rw [List.mem_singleton.mp hnew]
      exact measurement_bounds env
  · dsimp only [evseCollectSounds]
    rw [hs]
    split_ifs <;> simp [SlacState.beforeSounds]
  · intro _
    change (ctx.soundCount + 1).toNat = _
    rw [UInt8.toNat_succ (h.range.collecting hs), h.count (Or.inl hs)]
    simp

theorem accept (h : Accumulated ms ctx) (hw : waitOf false ctx.state = some w)
    (hs : ctx.state ≠ .evseCollectSounds) (st : SlacStatics) :
    Accumulated ms (w.accept env ctx st).1 := by
  have hrange : SoundsInRange (w.accept env ctx st).1 := h.range.accept hw st
  rcases waitOf_evse hw with
    ⟨hs, rfl⟩ | ⟨hs, rfl⟩ | ⟨hs', rfl⟩ | ⟨hs, rfl⟩ | ⟨hs, rfl⟩ | ⟨hs, rfl⟩
  case inr.inl =>
    have hnone := h.before (by rw [hs]; rfl)
    subst hnone
    exact ⟨hrange, h.sums, h.bounds, fun _ => rfl, fun _ => rfl⟩
  case inr.inr.inl => exact absurd hs' hs
  all_goals
    refine h.keep hrange rfl rfl ?_ ?_
    all_goals
      simp [evseWaitParmReq, evseWaitAttenRsp, evseWaitValidateReq, evseWaitMatchReq, hs,
        SlacState.beforeSounds, SlacState.soundsCollected]

theorem step {p : SlacParty} (h : Accumulated ms p.ctx) (hevse : p.ctx.isEv = false)
    (env : SlacEnv) (recv : Option (List Byte)) :
    Accumulated (ms ++ measuredBy env recv p) (slacStep env recv p).party.ctx := by
  rcases slacStep_cases env recv hevse with
    ⟨_, hc, hstep⟩ | ⟨w, hw, ⟨_, st, hc, _, hstep⟩ | ⟨hc, _, hstep⟩ | ⟨hc, _, hstep⟩⟩
  · rw [hstep, measuredBy_of_none hc, List.append_nil, slacSend_evse hevse]
    exact h.send p.statics.evMac p.statics.runId
  · rw [hstep, measuredBy, hc]
    split_ifs with hs
    · have hcollect : w = evseCollectSounds := by
        rw [hs] at hw
        exact (Option.some_inj.mp hw).symm
      subst hcollect
      exact h.sound hs st
    · rw [List.append_nil]
      exact h.accept hw hs st
  · rw [hstep, measuredBy_of_none hc, List.append_nil]
    exact h.timeout hw
  · rw [hstep, measuredBy_of_none hc, List.append_nil]
    exact h

end Accumulated

/-- Run lemma: the sums of a `slac_run` of an EVSE are those of what it measured. -/
theorem accumulated_slacRun {p : SlacParty} (hevse : p.ctx.isEv = false)
    (is : List (SlacEnv × Option (List Byte))) :
    Accumulated (slacMeasured is p) (slacRun is p).ctx := by
  have hinv := @loopLog_invariant _ measuredBy
    (fun ms q => q.ctx.isEv = false ∧ Accumulated ms q.ctx)
    (fun ms q env recv h => ⟨(slacStep_isEv env recv q).trans h.1, h.2.step h.1 env recv⟩)
    is [] { p with ctx := slacRunStart p.ctx }
    (by
      rw [slacRunStart_evse hevse]
      refine ⟨hevse, ⟨Nat.zero_le _, by simp, by simp [SlacState.soundsCollected]⟩, ?_, by simp,
        fun _ => rfl, by simp [SlacState.soundsCollected]⟩
      intro g
      rfl)
  exact hinv.2

/-- `aag` of a CM_ATTEN_CHAR.IND. -/
def attenCharAag (frame : List Byte) : Octets 58 := fun g => byteAt frame (70 + g)

theorem attenCharAag_cmAttenCharInd (evMac localMac : Mac) (runId : Octets 8) (soundCount : Byte)
    (aag : Octets 58) :
    attenCharAag (cmAttenCharInd evMac localMac runId soundCount aag) = aag := by
  funext g
  have hlen : (buildHdr evMac localMac mmeCmAttenCharInd ++ [0x00, 0x00] ++ List.ofFn localMac ++
      List.ofFn runId ++ macId localMac ++ macId evMac ++ [soundCount, 58]).length = 70 := by simp
  rw [attenCharAag, cmAttenCharInd, byteAt_append_right _ (by omega), hlen,
    Nat.add_sub_cancel_left, byteAt_ofFn]

theorem attenChar_sent {p : SlacParty} (hevse : p.ctx.isEv = false)
    (hs : p.ctx.state = .evseSendAttenChar) {env : SlacEnv} {recv : Option (List Byte)}
    {frame : List Byte} (hf : frame ∈ (slacStep env recv p).sent) :
    frameType frame = some mmeCmAttenCharInd ∧ attenCharAag frame = averageAag p.ctx := by
  have hw : waitOf p.ctx.isEv p.ctx.state = none := by
    rw [hevse, hs]
    rfl
  rw [slacStep_of_send hw, slacSend_evse hevse] at hf
  simp only [evseSend, hs] at hf
  rw [eq_of_mem_sendFrame hf]
  exact ⟨frameType_cmAttenCharInd _ _ _ _ _, attenCharAag_cmAttenCharInd _ _ _ _ _⟩

theorem groupSum_div_bounds {ms : List (Fin 58 → ℕ)} (hne : 1 ≤ ms.length)
    (h : ∀ m ∈ ms, ∀ g, 20 ≤ m g ∧ m g ≤ 39) (g : Fin 58) :
    20 ≤ groupSum ms g / ms.length ∧ groupSum ms g / ms.length ≤ 39 := by
  have hmap := @average_mem 20 39 (ms.map fun m => m g)
    (by rwa [List.length_map]) (by
    intro x hx
    rcases List.mem_map.mp hx with ⟨m, hm, rfl⟩
    exact h m hm g)
  rwa [List.length_map] at hmap

/-- Whatever a `slac_run` of an EVSE measured for 1 to 10 sounds: the CM_ATTEN_CHAR.IND it sends
has the average of a group, from 20 to 39, exactly if the sum of the group fits in 8 bits. -/
theorem attenChar_average_iff {p : SlacParty} (hevse : p.ctx.isEv = false)
    (is : List (SlacEnv × Option (List Byte)))
    (hs : (slacRun is p).ctx.state = .evseSendAttenChar) :
    let ms := slacMeasured is p
    1 ≤ ms.length ∧ ms.length ≤ numSounds ∧ (∀ m ∈ ms, ∀ g, 20 ≤ m g ∧ m g ≤ 39) ∧
    ∀ env recv, ∀ frame ∈ (slacStep env recv (slacRun is p)).sent,
      frameType frame = some mmeCmAttenCharInd ∧
      ∀ g, ((attenCharAag frame g).toNat = groupSum ms g / ms.length ∧
          20 ≤ (attenCharAag frame g).toNat ∧ (attenCharAag frame g).toNat ≤ 39) ↔
        groupSum ms g ≤ 255 := by
  intro ms
  have hacc : Accumulated ms (slacRun is p).ctx := accumulated_slacRun hevse is
  have hcount := hacc.count (Or.inr (by rw [hs]; rfl))
  have hpos := hacc.range.collected (by rw [hs]; rfl)
  have hle := hacc.range.le
  rw [hcount] at hpos hle
  refine ⟨hpos, hle, hacc.bounds, ?_⟩
  intro env recv frame hf
  rcases attenChar_sent ((slacRun_isEv is p).trans hevse) hs hf with ⟨htype, haag⟩
  refine ⟨htype, ?_⟩
  intro g
  have hvalue : (attenCharAag frame g).toNat = groupSum ms g % 256 / ms.length := by
    have hsome : 0 < (slacRun is p).ctx.soundCount := by
      rw [UInt8.lt_iff_toNat_lt, hcount]
      exact hpos
    rw [haag, averageAag, if_pos hsome, UInt8.toNat_div, hacc.sums, hcount]
  have hiff := @mod_div_eq_div_iff (groupSum ms g) 256 ms.length hpos
    (hle.trans (by decide))
  rw [hvalue]
  constructor
  · rintro ⟨heq, -⟩
    exact Nat.lt_succ_iff.mp (hiff.mp heq)
  · intro hsum
    have heq := hiff.mpr (Nat.lt_succ_iff.mpr hsum)
    rw [heq]
    exact ⟨rfl, groupSum_div_bounds hpos hacc.bounds g⟩

/-- Every measurement is 39 dB. -/
def loudAt (millis : UInt64) : SlacEnv := ⟨millis, fun _ => 19, fun _ => true⟩

def loudRun (sounds : ℕ) : List (SlacEnv × Option (List Byte)) :=
  let ev : Mac := fun _ => 2
  let runId : Octets 8 := fun i => UInt8.ofNat i
  [(loudAt 0, some (cmSlacParmReq ev runId)), (loudAt 0, none),
    (loudAt 10, some (cmStartAttenInd ev runId))] ++
    List.replicate sounds (loudAt 20, some (cmMnbcSoundInd ev runId 0))

/-- Six sounds and the timeout: all averages are right. -/
theorem attenChar_average_iff_loudRun :
    (slacMeasured (loudRun 6 ++ [(loudAt 700, none)])
      ⟨slacInit (fun _ => 4) false, .zero⟩).length = 6 ∧
    ∀ frame ∈ (slacStep (loudAt 700) none (slacRun (loudRun 6 ++ [(loudAt 700, none)])
      ⟨slacInit (fun _ => 4) false, .zero⟩)).sent, ∀ g, (attenCharAag frame g).toNat = 39 := by
  have hlen : (slacMeasured (loudRun 6 ++ [(loudAt 700, none)])
      ⟨slacInit (fun _ => 4) false, .zero⟩).length = 6 := by decide +kernel
  have hsum : ∀ g, groupSum (slacMeasured (loudRun 6 ++ [(loudAt 700, none)])
      ⟨slacInit (fun _ => 4) false, .zero⟩) g = 234 := by decide +kernel
  have h := @attenChar_average_iff ⟨slacInit (fun _ => 4) false, .zero⟩ rfl
    (loudRun 6 ++ [(loudAt 700, none)]) (by decide +kernel)
  refine ⟨hlen, ?_⟩
  intro frame hf g
  have hg := (((h.2.2.2 (loudAt 700) none frame hf).2 g).mpr (by rw [hsum]; decide)).1
  rw [hsum, hlen] at hg
  exact hg

/-- Ten sounds: the sum is 390 and the average 39, and 13 is sent. -/
theorem attenChar_average_wraps :
    (slacRun (loudRun 10) ⟨slacInit (fun _ => 4) false, .zero⟩).ctx.state = .evseSendAttenChar ∧
    slacMeasured (loudRun 10) ⟨slacInit (fun _ => 4) false, .zero⟩ =
      List.replicate 10 (fun _ => 39) ∧
    (∀ g, groupSum (slacMeasured (loudRun 10) ⟨slacInit (fun _ => 4) false, .zero⟩) g / 10 = 39) ∧
    (slacStep (loudAt 30) none
      (slacRun (loudRun 10) ⟨slacInit (fun _ => 4) false, .zero⟩)).sent.map attenCharAag =
      [fun _ => 13] := by
  refine ⟨?_, ?_, ?_, ?_⟩ <;> decide +kernel

end EvseIso15118
