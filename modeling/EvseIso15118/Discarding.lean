import EvseIso15118.Chunking
import EvseIso15118.FrameBounds

namespace EvseIso15118

open Reassembly

section room
variable {ω : Type} {L : MessageLayer ω} {fuel : ℕ}

/-- Each read, on top of what is left of the reads before it, fits the receive buffer. -/
def ReadsFit (pending : List Byte) (cs : List (List Byte)) : Prop :=
  ∀ pre c post, cs = pre ++ c :: post →
    (v2gtpFormat.residue (pending ++ pre.flatten)).length + c.length ≤ 2048

theorem ReadsFit.tail {pending c : List Byte} {cs : List (List Byte)}
    (h : ReadsFit pending (c :: cs)) : ReadsFit (v2gtpFormat.residue (pending ++ c)) cs := by
  intro pre d post hcs
  have := h (c :: pre) d post (by rw [hcs, List.cons_append])
  rwa [(Format.split_flatten_cons _ _ _).2] at this

theorem sessionCalls_noOverflow (hfuel : 2048 < fuel) {cs : List (List Byte)} {ctx : SeccContext}
    {world : ω} (hcs : ∀ c ∈ cs, c ≠ []) (hfirst : v2gtpFormat.firstFrame ctx.recv.pending = none)
    (hfits : StreamFits ctx.recv.pending cs.flatten) (hreads : ReadsFit ctx.recv.pending cs) :
    ∀ r ∈ sessionCalls L fuel cs ctx world, r.exit ≠ .overflow := by
  induction cs generalizing ctx world with
  | nil => simp [sessionCalls]
  | cons c cs ih =>
    rw [List.flatten_cons] at hfits
    have hl := hreads [] c cs rfl
    rw [List.flatten_nil, List.append_nil, Format.residue_of_none hfirst,
      RecvBuffer.pending_length] at hl
    obtain ⟨hexit, hpend⟩ :=
      v2gProcessMessage_exit (L := L) world hfuel (hcs c (by simp)) hl hfits.head
    intro r hr
    rw [sessionCalls] at hr
    rcases List.mem_cons.mp hr with rfl | hr
    · exact hexit
    · split_ifs at hr with hdone
      · have hpend := hpend hdone
        exact ih (fun d hd => hcs d (by simp [hd]))
          (by rw [hpend]; exact Format.firstFrame_residue _) (by rw [hpend]; exact hfits.tail)
          (by rw [hpend]; exact hreads.tail) r hr
      · cases hr

end room

theorem readsFit_of_noOverflow {fuel : ℕ} (hfuel : 2048 < fuel) {cs : List (List Byte)}
    {ctx : SeccContext} (hcs : ∀ c ∈ cs, c ≠ [])
    (hfirst : v2gtpFormat.firstFrame ctx.recv.pending = none)
    (hfits : StreamFits ctx.recv.pending cs.flatten)
    (h : ∀ r ∈ sessionCalls answeringLayer fuel cs ctx (), r.exit ≠ .overflow) :
    ReadsFit ctx.recv.pending cs := by
  induction cs generalizing ctx with
  | nil =>
    intro pre c post hcs
    simp at hcs
  | cons c cs ih =>
    rw [List.flatten_cons] at hfits
    have hne := hcs c (by simp)
    have ho := h (v2gProcessMessage answeringLayer fuel c ctx ()) (by simp [sessionCalls])
    have hl := v2gProcessMessage_overflow hne ho
    have hans := v2gProcessMessage_refines (L := answeringLayer) () hne hl hfits.head
      hfuel
    obtain ⟨q, hq⟩ := serveAll_answering (ctx.toSeccHead, ())
      (exiPayloads (v2gtpFormat.frames (ctx.recv.pending ++ c)))
    unfold Answers at hans
    rw [hq] at hans
    obtain ⟨hdone, hpend, -⟩ := hans
    have hfit := @ih (v2gProcessMessage answeringLayer fuel c ctx ()).ctx
      (fun d hd => hcs d (by simp [hd])) (by rw [hpend]; exact Format.firstFrame_residue _)
      (by rw [hpend]; exact hfits.tail)
      (fun r hr => h r (by rw [sessionCalls, if_pos hdone]; exact List.mem_cons_of_mem _ hr))
    rw [hpend] at hfit
    intro pre d post hsplit
    cases pre with
    | nil =>
      obtain ⟨rfl, -⟩ := List.cons_eq_cons.mp hsplit
      rw [List.flatten_nil, List.append_nil, Format.residue_of_none hfirst,
        RecvBuffer.pending_length]
      exact hl
    | cons c' pre =>
      obtain ⟨rfl, hrest⟩ := List.cons_eq_cons.mp hsplit
      rw [(Format.split_flatten_cons _ _ _).2]
      exact hfit pre d post hrest

/-- In lengths alone: after the bytes before it, each chunk still fits. -/
def ChunksFit (sizes : List ℕ) (cs : List (List Byte)) : Prop :=
  ∀ pre c post, cs = pre ++ c :: post →
    Format.leftover sizes pre.flatten.length + c.length ≤ 2048

theorem length_residue_eq_leftover {fs : List V2gtpFrame} {cs pre post : List (List Byte)}
    {c : List Byte} (hflat : cs.flatten = streamOf fs) (hcs : cs = pre ++ c :: post) :
    (v2gtpFormat.residue ([] ++ pre.flatten)).length =
      Format.leftover (fs.map fun f => f.toBytes.length) pre.flatten.length := by
  have hp : pre.flatten ++ (c :: post).flatten = streamOf fs := by
    rw [← List.flatten_append, ← hcs, hflat]
  obtain ⟨-, -, -, -, -, h⟩ := exists_frames_of_prefix hp
  exact h

theorem readsFit_iff_chunksFit {fs : List V2gtpFrame} {cs : List (List Byte)}
    (hflat : cs.flatten = streamOf fs) :
    ReadsFit [] cs ↔ ChunksFit (fs.map fun f => f.toBytes.length) cs := by
  constructor
  · intro h pre c post hcs
    rw [← length_residue_eq_leftover hflat hcs]
    exact h pre c post hcs
  · intro h pre c post hcs
    rw [length_residue_eq_leftover hflat hcs]
    exact h pre c post hcs

theorem firstFrame_and_fits {fs : List V2gtpFrame} {cs : List (List Byte)} (ctx : SeccContext)
    (hempty : ctx.recv.len = 0) (hflat : cs.flatten = streamOf fs) :
    v2gtpFormat.firstFrame ctx.recv.pending = none ∧ StreamFits ctx.recv.pending cs.flatten := by
  rw [pending_eq_nil hempty]
  exact ⟨Format.firstFrame_nil, streamFits_streamOf hflat⟩

section failures
variable {ω : Type} (L : MessageLayer ω)

/-- The messages up to the first request that gets no response, that one with them; none if every
request gets one. -/
def untilFailure : SeccHead × ω → List (List Byte) → Option (List (List Byte))
  | _, [] => none
  | st, f :: fs =>
    match exiPayload f with
    | none => (untilFailure st fs).map fun hs => f :: hs
    | some p =>
      match serve L st p with
      | none => some [f]
      | some q => (untilFailure q.2 fs).map fun hs => f :: hs

variable {L}

theorem untilFailure_skip {st : SeccHead × ω} {f : List Byte} (h : exiPayload f = none)
    (fs : List (List Byte)) :
    untilFailure L st (f :: fs) = (untilFailure L st fs).map fun hs => f :: hs := by
  rw [untilFailure, h]

theorem untilFailure_fail {st : SeccHead × ω} {f p : List Byte} (h : exiPayload f = some p)
    (hserve : serve L st p = none) (fs : List (List Byte)) :
    untilFailure L st (f :: fs) = some [f] := by
  simp only [untilFailure, h, hserve]

theorem untilFailure_serve {st : SeccHead × ω} {f p : List Byte}
    {q : List Byte × (SeccHead × ω)} (h : exiPayload f = some p) (hserve : serve L st p = some q)
    (fs : List (List Byte)) :
    untilFailure L st (f :: fs) = (untilFailure L q.2 fs).map fun hs => f :: hs := by
  simp only [untilFailure, h, hserve]

theorem untilFailure_begins {st : SeccHead × ω} {fs hs : List (List Byte)}
    (h : untilFailure L st fs = some hs) : hs ≠ [] ∧ hs <+: fs := by
  induction fs generalizing st hs with
  | nil => cases h
  | cons f fs ih =>
    have hcons : ∀ st', (untilFailure L st' fs).map (fun hs => f :: hs) = some hs →
        hs ≠ [] ∧ hs <+: f :: fs := by
      intro st' h'
      obtain ⟨gs, hgs, rfl⟩ := Option.map_eq_some_iff.mp h'
      exact ⟨List.cons_ne_nil f gs, List.cons_prefix_cons.mpr ⟨rfl, (ih hgs).2⟩⟩
    cases hp : exiPayload f with
    | none => exact hcons st (by rwa [untilFailure_skip hp] at h)
    | some p =>
      cases hq : serve L st p with
      | none =>
        rw [untilFailure_fail hp hq, Option.some_inj] at h
        rw [← h]
        exact ⟨List.cons_ne_nil f [], List.cons_prefix_cons.mpr ⟨rfl, List.nil_prefix⟩⟩
      | some q => exact hcons q.2 (by rwa [untilFailure_serve hp hq] at h)

theorem untilFailure_append {st : SeccHead × ω} {fs : List (List Byte)}
    {q : List (List Byte) × (SeccHead × ω)} (h : serveAll L st (exiPayloads fs) = some q)
    (gs : List (List Byte)) :
    untilFailure L st (fs ++ gs) = (untilFailure L q.2 gs).map fun hs => fs ++ hs := by
  induction fs generalizing st q with
  | nil =>
    cases h
    simp
  | cons f fs ih =>
    rw [List.cons_append]
    cases hp : exiPayload f with
    | none =>
      rw [exiPayloads, List.filterMap_cons_none hp] at h
      rw [untilFailure_skip hp, ih h, Option.map_map]
      rfl
    | some p =>
      rw [exiPayloads, List.filterMap_cons_some hp, serveAll] at h
      obtain ⟨q', hq', hrest⟩ := Option.bind_eq_some_iff.mp h
      obtain ⟨q'', hq'', rfl⟩ := Option.map_eq_some_iff.mp hrest
      rw [untilFailure_serve hp hq', ih hq'', Option.map_map]
      rfl

theorem untilFailure_append_some {st : SeccHead × ω} {fs hs : List (List Byte)}
    (h : untilFailure L st fs = some hs) (gs : List (List Byte)) :
    untilFailure L st (fs ++ gs) = some hs := by
  induction fs generalizing st hs with
  | nil => cases h
  | cons f fs ih =>
    rw [List.cons_append]
    cases hp : exiPayload f with
    | none =>
      rw [untilFailure_skip hp] at h ⊢
      obtain ⟨ts, hts, rfl⟩ := Option.map_eq_some_iff.mp h
      rw [ih hts]
      rfl
    | some p =>
      cases hq : serve L st p with
      | none =>
        rw [untilFailure_fail hp hq] at h ⊢
        exact h
      | some q =>
        rw [untilFailure_serve hp hq] at h ⊢
        obtain ⟨ts, hts, rfl⟩ := Option.map_eq_some_iff.mp h
        rw [ih hts]
        rfl

theorem untilFailure_eq_none_iff {st : SeccHead × ω} {fs : List (List Byte)} :
    untilFailure L st fs = none ↔ serveAll L st (exiPayloads fs) ≠ none := by
  induction fs generalizing st with
  | nil => simp [untilFailure, exiPayloads, serveAll]
  | cons f fs ih =>
    cases hp : exiPayload f with
    | none =>
      rw [untilFailure_skip hp, Option.map_eq_none_iff, ih, exiPayloads, exiPayloads,
        List.filterMap_cons_none hp]
    | some p =>
      rw [exiPayloads, List.filterMap_cons_some hp, serveAll]
      cases hq : serve L st p with
      | none => simp [untilFailure_fail hp hq]
      | some q =>
        rw [untilFailure_serve hp hq, Option.map_eq_none_iff, ih, Option.bind_some, ne_eq, ne_eq,
          Option.map_eq_none_iff]
        rfl

end failures

section discarding
variable {ω : Type} {L : MessageLayer ω}

/-- Nothing of the bytes is lost: behind whole messages, each looked at and each EXI message
decoded, the rest is pending. -/
def LosesNothing (bytes : List Byte) (r : CallResult ω) : Prop :=
  ∃ hs, hs <+: v2gtpFormat.frames bytes ∧ bytes = hs.flatten ++ r.ctx.recv.pending ∧
    hs.length ≤ rounds r.events ∧ decodedPayloads r.events = exiPayloads hs

/-- How the loop ends, with the messages it has looked at. -/
def EndsWith (s : FrameLoop ω) (frames : List (List Byte)) (r : CallResult ω) :
    Option (List (List Byte)) → Prop
  | some hs => (r.exit = .writeFailed ∨ r.exit = .buildFailed) ∧ r.ctx.recv.pending = [] ∧
      rounds r.events = rounds s.events + hs.length ∧
      decodedPayloads r.events = decodedPayloads s.events ++ exiPayloads hs
  | none => rounds s.events + frames.length ≤ rounds r.events

theorem rounds_le_eventsAfter (s : FrameLoop ω) :
    rounds s.events ≤ rounds (eventsAfter (frameStep L s)) := by
  by_cases ho : s.offset + 8 ≤ s.ctx.recv.len
  · rw [rounds_frameStep ho]
    exact Nat.le_succ _
  · rw [frameStep_of_end (by omega), eventsAfter_inr, FrameLoop.finish_events]

theorem frameStep_failed {s : FrameLoop ω} (hn : 0 ≤ s.offset) {f rest p : List Byte}
    (h : v2gtpFormat.firstFrame (s.ctx.recv.pending.drop s.offset.toNat) = some (f, rest))
    (hp : exiPayload f = some p) (hserve : serve L (s.ctx.toSeccHead, s.world) p = none) :
    ∃ r, frameStep L s = .inr r ∧ EndsWith s [f] r (some [f]) := by
  obtain ⟨-, hlen, hle, -, -⟩ := header_of_firstFrame hn h
  obtain ⟨t, hstep, -, -, -, -, hevents⟩ := frameStep_respond (L := L) hn h hp
  have hserved := frameStep_served (L := L) hn h hp
  rw [hserve] at hserved
  obtain ⟨r, hr, -⟩ := hserved
  have hresp := hstep.symm.trans hr
  have hrounds := rounds_frameStep (L := L) (s := s) (by omega)
  rw [hr, eventsAfter_inr] at hrounds
  obtain ⟨hexit, hrecv⟩ := respond_leaves hresp
  refine ⟨r, hr, hexit, by rw [hrecv, RecvBuffer.pending_clear], hrounds, ?_⟩
  have hsingle : exiPayloads [f] = [p] := by rw [exiPayloads, List.filterMap_cons_some hp]; rfl
  have hdecoded : decodedPayloads t.events = decodedPayloads s.events ++ [p] := by
    rw [hevents, decodedPayloads_append]
    rfl
  rw [hsingle, ← hdecoded]
  rcases (respond_eq_inr hresp).2 with he | ⟨-, ret, he⟩
  · rw [he]
  · rw [he, decodedPayloads_append]
    exact List.append_nil _

theorem EndsWith.cons {s t : FrameLoop ω} {r : CallResult ω} {f : List Byte}
    {frames : List (List Byte)} {failed : Option (List (List Byte))}
    (hrounds : rounds t.events = rounds s.events + 1)
    (hdecoded : decodedPayloads t.events = decodedPayloads s.events ++ exiPayloads [f])
    (h : EndsWith t frames r failed) :
    EndsWith s (f :: frames) r (failed.map fun hs => f :: hs) := by
  cases failed with
  | none =>
    have hle : rounds t.events + frames.length ≤ rounds r.events := h
    change rounds s.events + (frames.length + 1) ≤ rounds r.events
    omega
  | some hs =>
    obtain ⟨hexit, hpend, hlen, hdec⟩ := h
    refine ⟨hexit, hpend, ?_, ?_⟩
    · rw [hlen, hrounds, List.length_cons]
      omega
    · rw [hdec, hdecoded, List.append_assoc, ← exiPayloads_append]
      rfl

/-- The loop looks at every message, up to the first request that gets no response. -/
theorem run_messages (stream : List Byte) (htail : TailFits (v2gtpFormat.residue stream))
    {fuel : ℕ} (hfuel : (v2gtpFormat.frames stream).length < fuel) {s : FrameLoop ω}
    (hn : 0 ≤ s.offset) (hs : s.ctx.recv.pending.drop s.offset.toNat = stream) :
    ∃ r, Loop.run (frameStep L) fuel s = .inr r ∧ EndsWith s (v2gtpFormat.frames stream) r
      (untilFailure L (s.ctx.toSeccHead, s.world) (v2gtpFormat.frames stream)) := by
  induction stream using v2gtpFormat.induction_frames generalizing fuel s with
  | incomplete stream h =>
    rw [Format.residue_of_none h] at htail
    subst hs
    obtain ⟨es, hstep, -, -⟩ := frameStep_incomplete (L := L) hn h htail
    obtain ⟨fuel, rfl⟩ := Nat.exists_eq_succ_of_ne_zero (by omega : fuel ≠ 0)
    have hrounds := rounds_le_eventsAfter (L := L) s
    rw [hstep, eventsAfter_inr] at hrounds
    rw [Format.frames_of_none h]
    exact ⟨_, Loop.run_succ_inr hstep fuel, hrounds⟩
  | complete stream f rest h ih =>
    subst hs
    rw [Format.residue_of_some h] at htail
    rw [Format.frames_of_some h, List.length_cons] at hfuel
    rw [Format.frames_of_some h]
    obtain ⟨fuel, rfl⟩ := Nat.exists_eq_succ_of_ne_zero (by omega : fuel ≠ 0)
    obtain ⟨-, hlen, hle, hrest, -⟩ := header_of_firstFrame hn h
    -- a round that goes on has looked at one message more
    have hnext : ∀ {t : FrameLoop ω}, frameStep L s = .inl t →
        rounds t.events = rounds s.events + 1 := by
      intro t ht
      have hrounds := rounds_frameStep (L := L) (s := s) (by omega)
      rwa [ht, eventsAfter_inl] at hrounds
    cases hp : exiPayload f with
    | none =>
      obtain ⟨t, hstep, hto, htc, htw, htd, -⟩ := frameStep_skipped (L := L) hn h hp
      obtain ⟨r, hrun, hr⟩ := @ih htail fuel (by omega) t (by omega) (by rw [htc, hto, hrest])
      refine ⟨r, by rw [Loop.run_succ_inl hstep, hrun], ?_⟩
      rw [untilFailure_skip hp]
      rw [htc, htw] at hr
      refine hr.cons (hnext hstep) ?_
      rw [htd, exiPayloads, List.filterMap_cons_none hp, List.filterMap_nil, List.append_nil]
    | some p =>
      cases hq : serve L (s.ctx.toSeccHead, s.world) p with
      | none =>
        obtain ⟨r, hstep, hr⟩ := frameStep_failed hn h hp hq
        refine ⟨r, Loop.run_succ_inr hstep fuel, ?_⟩
        rw [untilFailure_fail hp hq]
        exact hr
      | some q =>
        have hserved := frameStep_served (L := L) hn h hp
        rw [hq] at hserved
        obtain ⟨t, hstep, hto, htc, hts, htd, -⟩ := hserved
        obtain ⟨r, hrun, hr⟩ := @ih htail fuel (by omega) t (by omega) (by rw [htc, hto, hrest])
        refine ⟨r, by rw [Loop.run_succ_inl hstep, hrun], ?_⟩
        rw [untilFailure_serve hp hq]
        rw [hts] at hr
        refine hr.cons (hnext hstep) ?_
        rw [htd, exiPayloads, List.filterMap_cons_some hp, List.filterMap_nil]

section call
variable {read : List Byte} {ctx : SeccContext} (world : ω) {fuel : ℕ}

theorem v2gProcessMessage_messages (hfuel : 2048 < fuel) (hr : read ≠ [])
    (hl : ctx.recv.len + read.length ≤ 2048)
    (htail : TailFits (v2gtpFormat.residue (ctx.recv.pending ++ read))) :
    EndsWith (loopStart read ctx world hl) (v2gtpFormat.frames (ctx.recv.pending ++ read))
      (v2gProcessMessage L fuel read ctx world)
      (untilFailure L (ctx.toSeccHead, world)
        (v2gtpFormat.frames (ctx.recv.pending ++ read))) := by
  have hcount := Format.length_frames_le (F := v2gtpFormat) (ctx.recv.pending ++ read)
  rw [List.length_append, RecvBuffer.pending_length] at hcount
  obtain ⟨r, hrun, hends⟩ := run_messages (L := L) _ htail
    (lt_of_le_of_lt (hcount.trans hl) hfuel) (s := loopStart read ctx world hl) (le_refl 0)
    (by simp [loopStart])
  rw [v2gProcessMessage, if_neg hr, dif_pos hl, hrun]
  exact hends

theorem losesNothing_of_answered (hfuel : 2048 < fuel) (hr : read ≠ [])
    (hl : ctx.recv.len + read.length ≤ 2048)
    (htail : TailFits (v2gtpFormat.residue (ctx.recv.pending ++ read)))
    {q : List (List Byte) × (SeccHead × ω)}
    (hq : serveAll L (ctx.toSeccHead, world)
      (exiPayloads (v2gtpFormat.frames (ctx.recv.pending ++ read))) = some q) :
    let r := v2gProcessMessage L fuel read ctx world
    r.exit = .done ∧ r.ctx.recv.pending = v2gtpFormat.residue (ctx.recv.pending ++ read) ∧
      (r.ctx.toSeccHead, r.world) = q.2 ∧ LosesNothing (ctx.recv.pending ++ read) r := by
  intro r
  have hans := v2gProcessMessage_refines (L := L) world hr hl htail hfuel
  have hends := v2gProcessMessage_messages (L := L) world hfuel hr hl htail
  rw [untilFailure_eq_none_iff.mpr (by rw [hq]; exact Option.some_ne_none q)] at hends
  unfold Answers at hans
  rw [hq] at hans
  obtain ⟨hexit, hpend, hend, hdec, -⟩ := hans
  refine ⟨hexit, hpend, hend, _, List.prefix_refl _, ?_, ?_, hdec⟩
  · rw [hpend]
    exact (Format.flatten_frames_append_residue _).symm
  · exact (Nat.zero_add _).symm.trans_le hends

/-- With a request that gets no response a call loses nothing only if this request came last. -/
theorem losesNothing_iff_of_failed (hfuel : 2048 < fuel) (hr : read ≠ [])
    (hl : ctx.recv.len + read.length ≤ 2048)
    (htail : TailFits (v2gtpFormat.residue (ctx.recv.pending ++ read))) {hs : List (List Byte)}
    (hfail : untilFailure L (ctx.toSeccHead, world)
      (v2gtpFormat.frames (ctx.recv.pending ++ read)) = some hs) :
    let r := v2gProcessMessage L fuel read ctx world
    (r.exit = .writeFailed ∨ r.exit = .buildFailed) ∧
      (LosesNothing (ctx.recv.pending ++ read) r ↔
        hs.flatten.length = (ctx.recv.pending ++ read).length) := by
  intro r
  have hends := v2gProcessMessage_messages (L := L) world hfuel hr hl htail
  rw [hfail] at hends
  obtain ⟨hexit, hpend, hrounds, hdec⟩ := hends
  have hrounds : rounds r.events = hs.length := hrounds.trans (Nat.zero_add _)
  obtain ⟨ts, hts⟩ := (untilFailure_begins hfail).2
  have hall := Format.flatten_frames_append_residue (F := v2gtpFormat) (ctx.recv.pending ++ read)
  rw [← hts, List.flatten_append, List.append_assoc] at hall
  refine ⟨hexit, ?_, ?_⟩
  · rintro ⟨gs, hgs, hflat, hlen, -⟩
    rw [show r.ctx.recv.pending = [] from hpend, List.append_nil] at hflat
    rw [hrounds] at hlen
    -- no more messages than were looked at make up all the bytes
    obtain ⟨us, rfl⟩ := List.prefix_of_prefix_length_le hgs ⟨ts, hts⟩ hlen
    have hle := congrArg List.length hall
    have heq := congrArg List.length hflat
    rw [List.flatten_append] at hle ⊢
    simp only [List.length_append] at hle heq ⊢
    omega
  · intro hlen
    refine ⟨hs, ⟨ts, hts⟩, ?_, hrounds.ge, hdec⟩
    have hrest := congrArg List.length hall
    rw [List.length_append, hlen] at hrest
    rw [show r.ctx.recv.pending = [] from hpend, List.append_nil]
    nth_rewrite 1 [← hall]
    rw [List.eq_nil_of_length_eq_zero (by omega :
      (ts.flatten ++ v2gtpFormat.residue (ctx.recv.pending ++ read)).length = 0),
      List.append_nil]

end call

end discarding

section session
variable {ω : Type} (L : MessageLayer ω) (fuel : ℕ)

/-- No call of a session takes the overflow exit, and none loses a byte of what it was given. -/
def NothingDiscarded : List (List Byte) → SeccContext → ω → Prop
  | [], _, _ => True
  | c :: cs, ctx, world =>
    let r := v2gProcessMessage L fuel c ctx world
    r.exit ≠ .overflow ∧ LosesNothing (ctx.recv.pending ++ c) r ∧
      (r.exit = .done → NothingDiscarded cs r.ctx r.world)

/-- Each read up to the first request without a response fits behind what is left of the reads
before it, and brings nothing that comes after that request. -/
def ReadsServed (st : SeccHead × ω) (pending : List Byte) (cs : List (List Byte)) : Prop :=
  ∀ pre c post, cs = pre ++ c :: post →
    (∀ hs ∈ untilFailure L st (v2gtpFormat.frames (pending ++ cs.flatten)),
      (pending ++ pre.flatten).length < hs.flatten.length) →
      (v2gtpFormat.residue (pending ++ pre.flatten)).length + c.length ≤ 2048 ∧
        ∀ hs ∈ untilFailure L st (v2gtpFormat.frames (pending ++ cs.flatten)),
          (pending ++ pre.flatten).length + c.length ≤ hs.flatten.length

/-- The same in lengths, for a stream of frames from an empty buffer. -/
def ChunksServed (st : SeccHead × ω) (fs : List V2gtpFrame) (cs : List (List Byte)) : Prop :=
  ∀ pre c post, cs = pre ++ c :: post →
    (∀ hs ∈ untilFailure L st (fs.map V2gtpFrame.toBytes),
      pre.flatten.length < hs.flatten.length) →
      Format.leftover (fs.map fun f => f.toBytes.length) pre.flatten.length + c.length ≤ 2048 ∧
        ∀ hs ∈ untilFailure L st (fs.map V2gtpFrame.toBytes),
          pre.flatten.length + c.length ≤ hs.flatten.length

variable {L fuel}

theorem length_lt_of_firstFrame_append {p x f r : List Byte}
    (hp : v2gtpFormat.firstFrame p = none) (h : v2gtpFormat.firstFrame (p ++ x) = some (f, r)) :
    p.length < f.length := by
  by_contra hle
  obtain ⟨hk, -⟩ := Format.firstFrame_eq_some h
  change frameTotal (p ++ x) = some f.length at hk
  have h8 : 8 ≤ p.length := by
    unfold frameTotal at hk
    split_ifs at hk
    rw [Option.some_inj] at hk
    omega
  have htotal : v2gtpFormat.total p = some f.length := by
    rw [← hk]
    change frameTotal p = _
    rw [frameTotal, frameTotal, if_pos h8, if_pos (by rw [List.length_append]; omega),
      headerOf_append h8]
  rw [Format.firstFrame, htotal] at hp
  simp only [if_pos (not_lt.mp hle)] at hp
  cases hp

theorem pending_lt_of_untilFailure {st : SeccHead × ω} {p x : List Byte}
    {hs : List (List Byte)} (hp : v2gtpFormat.firstFrame p = none)
    (h : untilFailure L st (v2gtpFormat.frames (p ++ x)) = some hs) :
    p.length < hs.flatten.length := by
  obtain ⟨hne, hpre⟩ := untilFailure_begins h
  cases hf : v2gtpFormat.firstFrame (p ++ x) with
  | none =>
    rw [Format.frames_of_none hf] at hpre
    exact absurd (List.prefix_nil.mp hpre) hne
  | some fr =>
    have hlt := length_lt_of_firstFrame_append (f := fr.1) (r := fr.2) hp hf
    rw [Format.frames_of_some (f := fr.1) (r := fr.2) hf] at hpre
    obtain ⟨g, gs, rfl⟩ := List.exists_cons_of_ne_nil hne
    obtain ⟨rfl, -⟩ := List.cons_prefix_cons.mp hpre
    rw [List.flatten_cons, List.length_append]
    omega

theorem readsServed_cons_iff {st : SeccHead × ω} {pending c : List Byte} {cs : List (List Byte)}
    {q : List (List Byte) × (SeccHead × ω)} (hfirst : v2gtpFormat.firstFrame pending = none)
    (hroom : pending.length + c.length ≤ 2048)
    (hq : serveAll L st (exiPayloads (v2gtpFormat.frames (pending ++ c))) = some q) :
    ReadsServed L st pending (c :: cs) ↔
      ReadsServed L q.2 (v2gtpFormat.residue (pending ++ c)) cs := by
  set fs := v2gtpFormat.frames (pending ++ c) with hfs
  set rest := v2gtpFormat.residue (pending ++ c) with hrest
  have hbytes := congrArg List.length (Format.flatten_frames_append_residue (F := v2gtpFormat)
    (pending ++ c))
  rw [List.length_append, List.length_append, ← hfs, ← hrest] at hbytes
  have hall : untilFailure L st (v2gtpFormat.frames (pending ++ (c :: cs).flatten)) =
      (untilFailure L q.2 (v2gtpFormat.frames (rest ++ cs.flatten))).map fun hs => fs ++ hs := by
    rw [(Format.split_flatten_cons _ _ _).1, untilFailure_append hq]
  -- lengths count from the end of the messages in the first read
  have hlens : ∀ (pre : List (List Byte)) (hs : List (List Byte)),
      (pending ++ (c :: pre).flatten).length = fs.flatten.length + (rest ++ pre.flatten).length ∧
        (fs ++ hs).flatten.length = fs.flatten.length + hs.flatten.length := by
    intro pre hs
    rw [List.flatten_cons, List.flatten_append, List.length_append, List.length_append,
      List.length_append, List.length_append]
    exact ⟨by omega, rfl⟩
  constructor
  · intro h pre d post hsplit hbefore
    obtain ⟨hfit, hend⟩ := h (c :: pre) d post (by rw [hsplit, List.cons_append]) fun hs hhs => by
      rw [hall] at hhs
      obtain ⟨gs, hgs, rfl⟩ := Option.map_eq_some_iff.mp hhs
      rw [(hlens pre gs).1, (hlens pre gs).2]
      exact Nat.add_lt_add_left (hbefore gs hgs) _
    rw [(Format.split_flatten_cons _ _ _).2] at hfit
    refine ⟨hfit, fun hs hhs => ?_⟩
    have := hend (fs ++ hs) (by rw [hall, hhs]; rfl)
    rw [(hlens pre hs).1, (hlens pre hs).2] at this
    omega
  · intro h pre d post hsplit hbefore
    rcases pre with _ | ⟨c', pre⟩
    · obtain ⟨rfl, rfl⟩ := List.cons_eq_cons.mp hsplit
      rw [List.flatten_nil, List.append_nil, Format.residue_of_none hfirst]
      refine ⟨hroom, fun hs hhs => ?_⟩
      rw [hall] at hhs
      obtain ⟨gs, hgs, rfl⟩ := Option.map_eq_some_iff.mp hhs
      have hlt : rest.length < gs.flatten.length :=
        pending_lt_of_untilFailure (Format.firstFrame_residue _) hgs
      rw [(hlens [] gs).2]
      omega
    · obtain ⟨rfl, hcs⟩ := List.cons_eq_cons.mp hsplit
      obtain ⟨hfit, hend⟩ := h pre d post hcs fun gs hgs => by
        have := hbefore (fs ++ gs) (by rw [hall, hgs]; rfl)
        rw [(hlens pre gs).1, (hlens pre gs).2] at this
        exact Nat.lt_of_add_lt_add_left this
      rw [(Format.split_flatten_cons _ _ _).2]
      refine ⟨hfit, fun hs hhs => ?_⟩
      rw [hall] at hhs
      obtain ⟨gs, hgs, rfl⟩ := Option.map_eq_some_iff.mp hhs
      have := hend gs hgs
      rw [(hlens pre gs).1, (hlens pre gs).2]
      omega

/-- In a read with a request that gets no response nothing may come after it. -/
theorem readsServed_failed_iff {st : SeccHead × ω} {pending c : List Byte}
    {cs hs : List (List Byte)} (hfirst : v2gtpFormat.firstFrame pending = none)
    (hroom : pending.length + c.length ≤ 2048)
    (hfail : untilFailure L st (v2gtpFormat.frames (pending ++ c)) = some hs) :
    ReadsServed L st pending (c :: cs) ↔ hs.flatten.length = (pending ++ c).length := by
  have hall : untilFailure L st (v2gtpFormat.frames (pending ++ (c :: cs).flatten)) = some hs := by
    rw [(Format.split_flatten_cons _ _ _).1, untilFailure_append_some hfail]
  have hle : hs.flatten.length ≤ (pending ++ c).length := by
    obtain ⟨ts, hts⟩ := (untilFailure_begins hfail).2
    have hbytes := congrArg List.length (Format.flatten_frames_append_residue (F := v2gtpFormat)
      (pending ++ c))
    rw [← hts, List.flatten_append, List.length_append, List.length_append] at hbytes
    omega
  rw [List.length_append] at hle ⊢
  constructor
  · intro h
    have hend := (h [] c cs rfl fun gs hgs => by
      rw [List.flatten_nil, List.append_nil]
      exact pending_lt_of_untilFailure hfirst hgs).2 hs hall
    rw [List.flatten_nil, List.append_nil] at hend
    omega
  · intro heq pre d post hsplit hbefore
    rcases pre with _ | ⟨c', pre⟩
    · obtain ⟨rfl, rfl⟩ := List.cons_eq_cons.mp hsplit
      rw [List.flatten_nil, List.append_nil, Format.residue_of_none hfirst]
      refine ⟨hroom, fun gs hgs => ?_⟩
      rw [hall] at hgs
      cases hgs
      omega
    · obtain ⟨rfl, -⟩ := List.cons_eq_cons.mp hsplit
      have := hbefore hs hall
      rw [List.flatten_cons, List.length_append, List.length_append] at this
      omega

theorem nothingDiscarded_iff (hfuel : 2048 < fuel) {cs : List (List Byte)} {ctx : SeccContext}
    {world : ω} (hcs : ∀ c ∈ cs, c ≠ []) (hfirst : v2gtpFormat.firstFrame ctx.recv.pending = none)
    (hfits : StreamFits ctx.recv.pending cs.flatten) :
    NothingDiscarded L fuel cs ctx world ↔
      ReadsServed L (ctx.toSeccHead, world) ctx.recv.pending cs := by
  induction cs generalizing ctx world with
  | nil =>
    refine iff_of_true trivial ?_
    intro pre c post hsplit
    simp at hsplit
  | cons c cs ih =>
    obtain ⟨hc, hcs⟩ := List.forall_mem_cons.mp hcs
    rw [List.flatten_cons] at hfits
    by_cases hl : ctx.recv.len + c.length ≤ 2048
    · have hroom : ctx.recv.pending.length + c.length ≤ 2048 := by
        rwa [RecvBuffer.pending_length]
      cases hq : serveAll L (ctx.toSeccHead, world)
          (exiPayloads (v2gtpFormat.frames (ctx.recv.pending ++ c))) with
      | some q =>
        obtain ⟨hdone, hpend, hend, hkept⟩ :=
          losesNothing_of_answered (L := L) world hfuel hc hl hfits.head hq
        rw [readsServed_cons_iff hfirst hroom hq, ← hpend, ← hend, ← ih hcs]
        · exact ⟨fun h => h.2.2 hdone, fun h => ⟨by rw [hdone]; decide, hkept, fun _ => h⟩⟩
        · rw [hpend]
          exact Format.firstFrame_residue _
        · rw [hpend]
          exact hfits.tail
      | none =>
        obtain ⟨hs, hhs⟩ := Option.ne_none_iff_exists'.mp
          (mt untilFailure_eq_none_iff.mp (not_not.mpr hq))
        obtain ⟨hexit, hkept⟩ :=
          losesNothing_iff_of_failed (L := L) world hfuel hc hl hfits.head hhs
        rw [readsServed_failed_iff hfirst hroom hhs, ← hkept]
        constructor
        · exact fun h => h.2.1
        · intro h
          refine ⟨?_, h, fun hdone => ?_⟩
          · rcases hexit with he | he <;> rw [he] <;> decide
          · rcases hexit with he | he <;> rw [he] at hdone <;> cases hdone
    · refine iff_of_false (fun h => h.1 ?_) fun h => hl ?_
      · rw [v2gProcessMessage, if_neg hc, dif_neg hl]
      · have hfit := (h [] c cs rfl fun hs hhs => by
          rw [List.flatten_nil, List.append_nil]
          exact pending_lt_of_untilFailure hfirst hhs).1
        rwa [List.flatten_nil, List.append_nil, Format.residue_of_none hfirst,
          RecvBuffer.pending_length] at hfit

theorem readsServed_iff_chunksServed {fs : List V2gtpFrame} {cs : List (List Byte)}
    {st : SeccHead × ω} (hflat : cs.flatten = streamOf fs) :
    ReadsServed L st [] cs ↔ ChunksServed L st fs cs := by
  have hframes : v2gtpFormat.frames ([] ++ cs.flatten) = fs.map V2gtpFrame.toBytes := by
    rw [List.nil_append, hflat, frames_streamOf]
  unfold ReadsServed ChunksServed
  rw [hframes]
  refine forall_congr' fun pre => forall_congr' fun c => forall_congr' fun post =>
    forall_congr' fun hcs => ?_
  rw [length_residue_eq_leftover hflat hcs, List.nil_append]

theorem NothingDiscarded.noOverflow {cs : List (List Byte)} {ctx : SeccContext} {world : ω}
    (h : NothingDiscarded L fuel cs ctx world) :
    ∀ r ∈ sessionCalls L fuel cs ctx world, r.exit ≠ .overflow := by
  induction cs generalizing ctx world with
  | nil => simp [sessionCalls]
  | cons c cs ih =>
    rw [sessionCalls]
    split_ifs with hdone
    · exact List.forall_mem_cons.mpr ⟨h.1, ih (h.2.2 hdone)⟩
    · exact List.forall_mem_cons.mpr ⟨h.1, List.forall_mem_nil _⟩

theorem chunksServed_iff_of_answered {fs : List V2gtpFrame} {cs : List (List Byte)}
    {st : SeccHead × ω} (h : serveAll L st (payloadsOf fs) ≠ none) :
    ChunksServed L st fs cs ↔ ChunksFit (fs.map fun f => f.toBytes.length) cs := by
  rw [← exiPayloads_map_toBytes] at h
  unfold ChunksServed ChunksFit
  simp only [untilFailure_eq_none_iff.mpr h, Option.mem_def, reduceCtorEq, false_imp_iff,
    implies_true, true_imp_iff, and_true]

end session

/-- Whatever decoder and builders do, a session discards nothing if and only if every chunk up to
the first request without a response fits behind what is left of the frame it cuts and brings
nothing after that request; and no call overflows, for all of them, if and only if every chunk
fits. -/
theorem noOverflow_iff {fs : List V2gtpFrame} {cs : List (List Byte)} {fuel : ℕ}
    (hfuel : 2048 < fuel) (hcs : ∀ c ∈ cs, c ≠ []) (hflat : cs.flatten = streamOf fs) :
    (∀ (ω : Type) (L : MessageLayer ω) (ctx : SeccContext) (world : ω), ctx.recv.len = 0 →
      (NothingDiscarded L fuel cs ctx world ↔ ChunksServed L (ctx.toSeccHead, world) fs cs)) ∧
    ((∀ (ω : Type) (L : MessageLayer ω) (ctx : SeccContext) (world : ω), ctx.recv.len = 0 →
      ∀ r ∈ sessionCalls L fuel cs ctx world, r.exit ≠ .overflow) ↔
        ChunksFit (fs.map fun f => f.toBytes.length) cs) := by
  constructor
  · intro ω L ctx world hempty
    obtain ⟨hfirst, hfits⟩ := firstFrame_and_fits ctx hempty hflat
    rw [nothingDiscarded_iff hfuel hcs hfirst hfits, pending_eq_nil hempty,
      readsServed_iff_chunksServed hflat]
  · rw [← readsFit_iff_chunksFit hflat]
    constructor
    · intro h
      obtain ⟨hfirst, hfits⟩ := firstFrame_and_fits .initial rfl hflat
      exact readsFit_of_noOverflow hfuel hcs hfirst hfits (h Unit answeringLayer .initial () rfl)
    · intro h ω L ctx world hempty
      obtain ⟨hfirst, hfits⟩ := firstFrame_and_fits ctx hempty hflat
      exact sessionCalls_noOverflow hfuel hcs hfirst hfits (by rw [pending_eq_nil hempty]; exact h)

theorem leftover_le (sizes : List ℕ) (m : ℕ) : Format.leftover sizes m ≤ m := by
  induction sizes generalizing m with
  | nil => exact le_refl m
  | cons k ks ih =>
    rw [Format.leftover]
    split_ifs
    · exact (ih _).trans (Nat.sub_le m k)
    · exact le_refl m

theorem chunksFit_of_length {cs : List (List Byte)} (sizes : List ℕ)
    (h : cs.flatten.length ≤ 2048) : ChunksFit sizes cs := by
  intro pre c post hcs
  have hle := leftover_le sizes pre.flatten.length
  rw [hcs, List.flatten_append, List.flatten_cons, List.length_append, List.length_append] at h
  omega

def threeFramesCut : List (List Byte) :=
  [(streamOf threeFrames).take 5, ((streamOf threeFrames).drop 5).take 13,
    (streamOf threeFrames).drop 18]

theorem noOverflow_iff_threeFrames :
    NothingDiscarded answeringLayer 2049 threeFramesCut .initial () := by
  refine ((noOverflow_iff (by decide) (by decide)
    (by decide : threeFramesCut.flatten = streamOf threeFrames)).1 Unit answeringLayer .initial ()
    rfl).mpr ?_
  obtain ⟨q, hq⟩ := serveAll_answering (SeccContext.initial.toSeccHead, ())
    (payloadsOf threeFrames)
  rw [chunksServed_iff_of_answered (by rw [hq]; exact Option.some_ne_none q)]
  exact chunksFit_of_length _ (by decide)

def frame1500 : V2gtpFrame := ⟨0x8001, List.replicate 1492 0, by rw [List.length_replicate]; decide⟩

theorem frame1500_length : frame1500.toBytes.length = 1500 := by
  rw [V2gtpFrame.toBytes_length, frame1500, List.length_replicate]

/-- Two of them, read as 1000 bytes and then 2000. -/
def cut1000 : List (List Byte) :=
  [(streamOf [frame1500, frame1500]).take 1000, (streamOf [frame1500, frame1500]).drop 1000]

theorem overflow_cut1000 :
    cut1000.flatten = streamOf [frame1500, frame1500] ∧
      cut1000.map List.length = [1000, 2000] ∧
      (∃ r ∈ sessionCalls answeringLayer 2049 cut1000 .initial (), r.exit = .overflow) ∧
      ¬ NothingDiscarded answeringLayer 2049 cut1000 .initial () := by
  have hlen : (streamOf [frame1500, frame1500]).length = 3000 := by
    simp only [streamOf, List.map_cons, List.map_nil, List.flatten_cons, List.flatten_nil,
      List.length_append, frame1500_length, List.length_nil]
  have hflat : cut1000.flatten = streamOf [frame1500, frame1500] := by
    simp only [cut1000, List.flatten_cons, List.flatten_nil, List.append_nil,
      List.take_append_drop]
  have hlens : cut1000.map List.length = [1000, 2000] := by
    simp only [cut1000, List.map_cons, List.map_nil, List.length_take, List.length_drop, hlen]
    rfl
  have hcs : ∀ c ∈ cut1000, c ≠ [] := by
    intro c hc hnil
    have hmem := List.mem_map_of_mem (f := List.length) hc
    rw [hlens, hnil] at hmem
    simp at hmem
  suffices hover : ∃ r ∈ sessionCalls answeringLayer 2049 cut1000 .initial (),
      r.exit = .overflow by
    refine ⟨hflat, hlens, hover, fun h => ?_⟩
    obtain ⟨r, hr, hexit⟩ := hover
    exact h.noOverflow r hr hexit
  by_contra hno
  push Not at hno
  obtain ⟨hfirst, hfits⟩ := firstFrame_and_fits .initial rfl hflat
  have hreads := readsFit_of_noOverflow (by decide) hcs hfirst hfits hno
  have hroom := (readsFit_iff_chunksFit hflat).mp hreads
    [(streamOf [frame1500, frame1500]).take 1000] _ [] rfl
  simp only [List.flatten_cons, List.flatten_nil, List.append_nil, List.map_cons, List.map_nil,
    List.length_take, List.length_drop, hlen, frame1500_length] at hroom
  revert hroom
  decide

end EvseIso15118
