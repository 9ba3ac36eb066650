import EvseIso15118.FrameStream

namespace EvseIso15118

open Reassembly

def payloadsOf (fs : List V2gtpFrame) : List (List Byte) :=
  (fs.filter fun f => f.payloadType = 0x8001).map V2gtpFrame.payload

theorem exiPayloads_map_toBytes (fs : List V2gtpFrame) :
    exiPayloads (fs.map V2gtpFrame.toBytes) = payloadsOf fs := by
  induction fs with
  | nil => rfl
  | cons f fs ih =>
    unfold exiPayloads payloadsOf at ih ⊢
    have hf : exiPayload f.toBytes =
        if f.payloadType = 0x8001 then some f.payload else none := by
      rw [exiPayload, V2gtpFrame.headerOf_toBytes, V2gtpFrame.drop_toBytes]
    rw [List.map_cons, List.filterMap_cons, hf, ih]
    by_cases ht : f.payloadType = 0x8001 <;> simp [ht]

theorem frames_streamOf (fs : List V2gtpFrame) :
    v2gtpFormat.frames (streamOf fs) = fs.map V2gtpFrame.toBytes :=
  (Format.frames_flatten fun _ => isFrame_of_mem).1

theorem exists_frames_of_prefix {fs : List V2gtpFrame} {p q : List Byte}
    (h : p ++ q = streamOf fs) :
    ∃ hs ts, fs = hs ++ ts ∧ p = streamOf hs ++ v2gtpFormat.residue p ∧
      v2gtpFormat.residue p ++ q = streamOf ts ∧
      (v2gtpFormat.residue p).length =
        Format.leftover (fs.map fun f => f.toBytes.length) p.length := by
  obtain ⟨ts, hfs, hr, hlen⟩ := Format.frames_of_prefix (fun _ => isFrame_of_mem) h
  obtain ⟨hs', ts', rfl, hh, rfl⟩ := List.map_eq_append_iff.mp hfs
  refine ⟨hs', ts', rfl, ?_, hr, ?_⟩
  · rw [streamOf, hh]
    exact (Format.flatten_frames_append_residue p).symm
  · rw [hlen, List.map_map]
    rfl

theorem total_streamOf {fs : List V2gtpFrame} {k : ℕ}
    (hk : v2gtpFormat.total (streamOf fs) = some k) : k ≤ 2048 := by
  cases fs with
  | nil => cases hk
  | cons f fs =>
    have hf := v2gtpFormat.total_append f.isFrame_toBytes (streamOf fs)
    have hcons : streamOf (f :: fs) = f.toBytes ++ streamOf fs := by simp [streamOf]
    rw [hcons, hf, Option.some_inj, V2gtpFrame.toBytes_length] at hk
    have := f.fits
    omega

theorem streamFits_streamOf {fs : List V2gtpFrame} {rest : List Byte} (h : rest = streamOf fs) :
    StreamFits [] rest := by
  rintro x ⟨q, hq⟩ k hk
  rw [List.nil_append] at hk
  obtain ⟨-, ts, -, -, hts, -⟩ := exists_frames_of_prefix (hq.trans h)
  exact total_streamOf (hts ▸ v2gtpFormat.total_append hk q)

def answeringLayer : MessageLayer Unit where
  exiDecodeMessage world _ _ := (.sessionStop, world)
  seccBuildResponse _ _ _ out := (0, out)
  tlsWrite world _ := (0, world)

theorem serveAll_answering (st : SeccHead × Unit) (ps : List (List Byte)) :
    ∃ q, serveAll answeringLayer st ps = some q := by
  induction ps generalizing st with
  | nil => exact ⟨_, rfl⟩
  | cons p ps ih =>
    obtain ⟨q, hq⟩ := ih (requestHead st.1 .sessionStop, ())
    have hs : serve answeringLayer st p = some ([], (requestHead st.1 .sessionStop, ())) := rfl
    rw [serveAll, hs, Option.bind_some, hq]
    exact ⟨_, rfl⟩

/-- Two requests with a frame of another type between them. -/
def threeFrames : List V2gtpFrame :=
  [⟨0x8001, [0x80, 0x9A], by decide⟩, ⟨0x9000, [0x00], by decide⟩, ⟨0x8001, [0x80], by decide⟩]

section chunking
variable {ω : Type} (L : MessageLayer ω) (fuel : ℕ)

/-- A session that serves the frames in order, the buffer holding after each call what has
come of the next frame. -/
structure ServedInOrder (fs : List V2gtpFrame) (cs : List (List Byte)) (ctx : SeccContext)
    (world : ω) : Prop where
  length : (sessionCalls L fuel cs ctx world).length = cs.length
  done : ∀ r ∈ sessionCalls L fuel cs ctx world, r.exit = .done
  decoded : decodedPayloads (sessionEvents (sessionCalls L fuel cs ctx world)) = payloadsOf fs
  buffered : ∀ i r, (sessionCalls L fuel cs ctx world)[i]? = some r →
    v2gtpFormat.firstFrame r.ctx.recv.pending = none ∧
      ∃ hs ts, fs = hs ++ ts ∧ (cs.take (i + 1)).flatten = streamOf hs ++ r.ctx.recv.pending

/-- The calls respond to every request, and no read is too large for the buffer. -/
def AllAnswered (cs : List (List Byte)) (ctx : SeccContext) (world : ω) : Prop :=
  ∀ r ∈ sessionCalls L fuel cs ctx world,
    r.exit ≠ .overflow ∧ r.exit ≠ .buildFailed ∧ r.exit ≠ .writeFailed

instance (cs : List (List Byte)) (ctx : SeccContext) (world : ω) :
    Decidable (AllAnswered L fuel cs ctx world) :=
  inferInstanceAs (Decidable (∀ r ∈ sessionCalls L fuel cs ctx world, _))

variable {L fuel}

theorem pending_eq_nil {ctx : SeccContext} (h : ctx.recv.len = 0) : ctx.recv.pending = [] :=
  List.eq_nil_of_length_eq_zero (by rw [RecvBuffer.pending_length, h])

theorem session_serves {fs : List V2gtpFrame} {cs : List (List Byte)} {ctx : SeccContext}
    {world : ω} (hfuel : 2048 < fuel) (hempty : ctx.recv.len = 0) (hcs : ∀ c ∈ cs, c ≠ [])
    (hflat : cs.flatten = streamOf fs) (hok : AllAnswered L fuel cs ctx world) :
    ServedInOrder L fuel fs cs ctx world ∧
      serveAll L (ctx.toSeccHead, world) (payloadsOf fs) =
        some (writtenResponses (sessionEvents (sessionCalls L fuel cs ctx world)),
          sessionEnd (ctx.toSeccHead, world) (sessionCalls L fuel cs ctx world)) := by
  have hnil := pending_eq_nil hempty
  obtain ⟨q, hq, hlen, hdone, hdec, hwri, hend, hbuf⟩ := sessionCalls_refines hfuel hcs
    (by rw [hnil]; exact Format.firstFrame_nil)
    (by rw [hnil]; exact streamFits_streamOf hflat) hok
  simp only [hnil, List.nil_append] at hq hdec hbuf
  rw [hflat, frames_streamOf, exiPayloads_map_toBytes] at hq hdec
  refine ⟨⟨hlen, hdone, hdec, fun i r hr => ?_⟩, ?_⟩
  · rw [hbuf i r hr]
    have hpre : (cs.take (i + 1)).flatten ++ (cs.drop (i + 1)).flatten = streamOf fs := by
      rw [← List.flatten_append, List.take_append_drop, hflat]
    obtain ⟨hs, ts, hfs, hp, -, -⟩ := exists_frames_of_prefix hpre
    exact ⟨Format.firstFrame_residue _, hs, ts, hfs, hp⟩
  · rw [hq, hwri, hend]

/-- The same frames in two cuts: the same payloads decoded, the same responses written, the
same state in the end. -/
theorem chunking_independence {fs : List V2gtpFrame} {cs cs' : List (List Byte)}
    {ctx : SeccContext} {world : ω} (hfuel : 2048 < fuel) (hempty : ctx.recv.len = 0)
    (hcs : ∀ c ∈ cs, c ≠ []) (hcs' : ∀ c ∈ cs', c ≠ [])
    (hflat : cs.flatten = streamOf fs) (hflat' : cs'.flatten = streamOf fs)
    (hok : AllAnswered L fuel cs ctx world) (hok' : AllAnswered L fuel cs' ctx world) :
    ServedInOrder L fuel fs cs ctx world ∧ ServedInOrder L fuel fs cs' ctx world ∧
      writtenResponses (sessionEvents (sessionCalls L fuel cs ctx world)) =
        writtenResponses (sessionEvents (sessionCalls L fuel cs' ctx world)) ∧
      sessionEnd (ctx.toSeccHead, world) (sessionCalls L fuel cs ctx world) =
        sessionEnd (ctx.toSeccHead, world) (sessionCalls L fuel cs' ctx world) := by
  obtain ⟨hserved, hall⟩ := session_serves hfuel hempty hcs hflat hok
  obtain ⟨hserved', hall'⟩ := session_serves hfuel hempty hcs' hflat' hok'
  rw [hall, Option.some_inj, Prod.mk.injEq] at hall'
  exact ⟨hserved, hserved', hall'.1, hall'.2⟩

/-- The three frames in one read, and cut inside the first header and the second payload. -/
theorem chunking_independence_threeFrames :
    writtenResponses (sessionEvents (sessionCalls answeringLayer 2049
        [streamOf threeFrames] .initial ())) =
      writtenResponses (sessionEvents (sessionCalls answeringLayer 2049
        [(streamOf threeFrames).take 5, ((streamOf threeFrames).drop 5).take 13,
          (streamOf threeFrames).drop 18] .initial ())) :=
  (chunking_independence (by decide) rfl (by decide) (by decide)
    (by decide : [streamOf threeFrames].flatten = streamOf threeFrames) (by decide)
    (by decide +kernel) (by decide +kernel)).2.2.1

end chunking

section room
variable {ω : Type} {L : MessageLayer ω} {fuel : ℕ}

theorem v2gProcessMessage_overflow {read : List Byte} {ctx : SeccContext} {world : ω}
    (hr : read ≠ []) (h : (v2gProcessMessage L fuel read ctx world).exit ≠ .overflow) :
    ctx.recv.len + read.length ≤ 2048 := by
  by_contra hl
  rw [v2gProcessMessage, if_neg hr, dif_neg hl] at h
  exact h rfl

theorem v2gProcessMessage_exit {read : List Byte} {ctx : SeccContext} (world : ω)
    (hfuel : 2048 < fuel) (hr : read ≠ []) (hl : ctx.recv.len + read.length ≤ 2048)
    (htail : TailFits (v2gtpFormat.residue (ctx.recv.pending ++ read))) :
    (v2gProcessMessage L fuel read ctx world).exit ≠ .overflow ∧
      ((v2gProcessMessage L fuel read ctx world).exit = .done →
        (v2gProcessMessage L fuel read ctx world).ctx.recv.pending =
          v2gtpFormat.residue (ctx.recv.pending ++ read)) := by
  have hans := v2gProcessMessage_refines (L := L) world hr hl htail hfuel
  unfold Answers at hans
  split at hans
  · exact ⟨by rw [hans.1]; simp, fun _ => hans.2.1⟩
  · rcases hans with h | h <;> rw [h] <;> simp

end room

end EvseIso15118
