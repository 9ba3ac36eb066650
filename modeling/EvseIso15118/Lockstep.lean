import EvseIso15118.Transition
import EvseIso15118.TcpReading

namespace EvseIso15118

open Reassembly

/-- The payload of an EXI frame that fits the receive buffer. -/
structure Request where
  payload : List Byte
  fits : 8 + payload.length ≤ 2048

def Request.frame (q : Request) : V2gtpFrame := ⟨0x8001, q.payload, q.fits⟩

/-- The peer, the connection and the SECC. -/
structure Exchange (ω : Type) where
  /-- The payloads of the requests sent. -/
  asked : List (List Byte)
  /-- The bytes sent and not yet read. -/
  wire : List Byte
  ctx : SeccContext
  world : ω
  /-- The responses written. -/
  answers : List (List Byte)
  /-- How the last call of `v2g_process_message` ended. -/
  exit : Exit

inductive ExchangeAction
  /-- The peer sends a request. -/
  | ask (q : Request)
  /-- The SECC reads with `mbedtls_ssl_read`, which finds this many bytes. -/
  | read (n : ℕ)
  /-- The SECC reads with `recv`, which finds these segments one after the other. -/
  | recv (segs : List (List Byte))

section act
variable {ω : Type} (L : MessageLayer ω) (fuel : ℕ)

def exchangeStart (ctx : SeccContext) (world : ω) : Exchange ω := ⟨[], [], ctx, world, [], .done⟩

/-- A call of `v2g_process_message` that reads these bytes and leaves `rest` on the way. -/
def Exchange.call (s : Exchange ω) (read rest : List Byte) : Exchange ω :=
  let r := v2gProcessMessage L fuel read s.ctx s.world
  { s with
    wire := rest
    ctx := r.ctx
    world := r.world
    answers := s.answers ++ writtenResponses r.events
    exit := r.exit }

/-- `secc_session_run` makes no more calls after one that failed. -/
def exchangeAct (s : Exchange ω) : ExchangeAction → Option (Exchange ω)
  | .ask q =>
    if s.exit = .done ∧ s.asked.length = s.answers.length then
      some { s with asked := s.asked ++ [q.payload], wire := s.wire ++ q.frame.toBytes }
    else none
  | .read n =>
    if s.exit = .done ∧ 0 < n ∧ n ≤ 2048 ∧ n ≤ s.wire.length then
      some (s.call L fuel (s.wire.take n) (s.wire.drop n))
    else none
  | .recv segs =>
    if s.exit = .done ∧ s.wire ≠ [] ∧ segs.flatten = s.wire ∧ [] ∉ segs then
      some (s.call L fuel (tcpRead 2048 segs).2.1 (tcpRead 2048 segs).2.2.flatten)
    else none

end act

section recv
variable {segs : List (List Byte)}

theorem recvUntil_ne_nil {target len : ℕ} (htarget : 0 < target) (hlen : 0 < len) (hne : segs ≠ [])
    (hsegs : [] ∉ segs) : (recvUntil target len [] segs).1 ≠ [] := by
  cases segs with
  | nil => exact absurd rfl hne
  | cons seg segs =>
    have hseg : seg ≠ [] := fun h => hsegs (h ▸ List.mem_cons_self)
    have hstop : ¬(target ≤ ([] : List Byte).length ∨ len ≤ ([] : List Byte).length) := by
      rw [List.length_nil]
      omega
    have hgrown := recvUntil_cons_length segs hstop hseg
    have hpos := List.length_pos_of_ne_nil hseg
    rw [← List.length_pos_iff]
    rw [List.length_nil] at hgrown
    omega

theorem recvUntil_all {target len : ℕ} (hlen : target ≤ len) {buf : List Byte}
    (htotal : (buf ++ segs.flatten).length = target) (hsegs : [] ∉ segs) :
    recvUntil target len buf segs = (buf ++ segs.flatten, []) := by
  induction segs generalizing buf with
  | nil => rw [recvUntil, List.flatten_nil, List.append_nil]
  | cons seg segs ih =>
    rw [List.mem_cons, not_or] at hsegs
    have hpos := List.length_pos_of_ne_nil (Ne.symm hsegs.1)
    have hsum := htotal
    simp only [List.flatten_cons, List.length_append] at hsum
    rw [recvUntil, if_neg (by omega), if_neg (Ne.symm hsegs.1), if_pos (by omega),
      List.flatten_cons, ← List.append_assoc]
    apply ih
    · rw [← htotal, List.flatten_cons, List.append_assoc]
    · exact hsegs.2

theorem tcpRead_recvUntil (segs : List (List Byte)) :
    (tcpRead 2048 segs).2 = recvUntil (announced segs.flatten) 2048 [] segs := by
  have hroom := (recvUntil_length (announced segs.flatten) [] segs (Nat.zero_le 2048)).2
  rw [tcpRead_snd]
  rcases tcpReceive_cases (show 2048 < 4294967296 by decide) segs with hagree | ⟨_, hbig⟩
  · rw [hagree]
    rfl
  · omega

theorem announced_frame (f : V2gtpFrame) : announced f.toBytes = f.toBytes.length := by
  have hfits := f.fits
  have hlen := f.toBytes_length
  have htotal : tcpTotal f.toBytes = f.toBytes.length := by
    rw [tcpTotal, UInt32.toNat_add, f.payloadLength_toNat, hlen]
    exact Nat.mod_eq_of_lt (lt_of_le_of_lt hfits (by decide))
  rw [announced, if_neg (by omega), htotal]
  omega

/-- A frame is read whole, and `recv` is not called with all of it there. -/
theorem tcpRead_frame {f : V2gtpFrame} (hflat : segs.flatten = f.toBytes) (hsegs : [] ∉ segs) :
    tcpRead 2048 segs = ((f.toBytes.length : ℤ), f.toBytes, []) ∧
      ∀ b ∈ tcpRecvs 2048 segs, b.length < f.toBytes.length := by
  have hfits := f.fits
  have hlen := f.toBytes_length
  have hread : (tcpRead 2048 segs).2 = (f.toBytes, []) := by
    rw [tcpRead_recvUntil, hflat, announced_frame, ← hflat]
    apply recvUntil_all
    · rw [hflat]
      omega
    · rfl
    · exact hsegs
  constructor
  · refine Prod.ext ?_ hread
    have hbuf : (tcpReceive 2048 segs).buf = f.toBytes := by
      rw [tcpRead_snd] at hread
      exact congrArg Prod.fst hread
    have hne : f.toBytes ≠ [] := by
      rw [← List.length_pos_iff]
      omega
    rw [tcpRead, hbuf, if_neg (fun h => hne h.1)]
    exact toInt32_of_small (by omega) (by omega)
  · intro b hb
    rw [tcpRecvs_eq, mem_recvCalls, hflat, announced_frame] at hb
    rcases hb with ⟨_, _, _, hshort, _⟩
    exact hshort

end recv

section agree
variable {ω : Type} (L : MessageLayer ω) (st : SeccHead × ω) (s : Exchange ω)

/-- The answers are those of the server to these payloads. -/
def Exchange.Served (ps : List (List Byte)) : Prop :=
  serveAll L st ps = some (s.answers, (s.ctx.toSeccHead, s.world))

/-- All requests are answered and nothing is on the way. -/
structure Exchange.Idle : Prop where
  exit : s.exit = .done
  served : s.Served L st s.asked
  wire : s.wire = []
  pending : s.ctx.recv.pending = []

/-- The last request is not answered, and some of it not yet read. -/
structure Exchange.Outstanding (ps : List (List Byte)) (q : Request) : Prop where
  exit : s.exit = .done
  served : s.Served L st ps
  asked : s.asked = ps ++ [q.payload]
  bytes : s.ctx.recv.pending ++ s.wire = q.frame.toBytes
  wire : s.wire ≠ []

/-- The last request could not be answered. -/
structure Exchange.Failed : Prop where
  exit : s.exit = .buildFailed ∨ s.exit = .writeFailed
  last : ∃ ps p, s.asked = ps ++ [p] ∧ (serveAll L st ps).isSome
  unserved : serveAll L st s.asked = none

def Exchange.Agree : Prop :=
  s.Idle L st ∨ (∃ ps q, s.Outstanding L st ps q) ∨ s.Failed L st

end agree

section lemmas
variable {ω : Type} {L : MessageLayer ω} {st : SeccHead × ω} {s : Exchange ω}

theorem serveAll_length {ps : List (List Byte)} {q : List (List Byte) × (SeccHead × ω)}
    (h : serveAll L st ps = some q) : q.1.length = ps.length := by
  induction ps generalizing st q with
  | nil =>
    cases h
    rfl
  | cons p ps ih =>
    rw [serveAll] at h
    rcases Option.bind_eq_some_iff.mp h with ⟨a, _, hrest⟩
    rcases Option.map_eq_some_iff.mp hrest with ⟨b, hb, rfl⟩
    rw [List.length_cons, List.length_cons, ih hb]

theorem Request.frames_toBytes (q : Request) :
    v2gtpFormat.frames q.frame.toBytes = [q.frame.toBytes] ∧
      v2gtpFormat.residue q.frame.toBytes = [] := by
  have hone : ∀ f ∈ [q.frame.toBytes], v2gtpFormat.IsFrame f := by
    intro f hf
    rw [List.mem_singleton.mp hf]
    exact q.frame.isFrame_toBytes
  have h := Format.frames_flatten hone
  rwa [List.flatten_singleton] at h

theorem Request.exiPayloads_toBytes (q : Request) :
    exiPayloads [q.frame.toBytes] = [q.payload] := by
  have h := exiPayloads_map_toBytes [q.frame]
  exact h

theorem Request.tailFits {q : Request} {x y : List Byte} (h : x ++ y = q.frame.toBytes) :
    TailFits (v2gtpFormat.residue x) := by
  have hone : q.frame.toBytes = streamOf [q.frame] := (List.flatten_singleton).symm
  exact streamFits_streamOf hone x ⟨y, h⟩

theorem Exchange.Outstanding.answers {fuel : ℕ} (hfuel : 2048 < fuel) {ps : List (List Byte)}
    {q : Request} (h : s.Outstanding L st ps q) {read rest : List Byte}
    (hsplit : s.wire = read ++ rest) (hread : read ≠ []) :
    Answers L (s.ctx.toSeccHead, s.world) []
      (exiPayloads (v2gtpFormat.frames (s.ctx.recv.pending ++ read)))
      (v2gtpFormat.residue (s.ctx.recv.pending ++ read))
      (v2gProcessMessage L fuel read s.ctx s.world) := by
  have hbytes := h.bytes
  rw [hsplit, ← List.append_assoc] at hbytes
  have hroom : s.ctx.recv.len + read.length ≤ 2048 := by
    have hlen := congrArg List.length hbytes
    have hfits := q.fits
    simp only [List.length_append, RecvBuffer.pending_length, V2gtpFrame.toBytes_length] at hlen
    change _ = 8 + q.payload.length at hlen
    omega
  exact v2gProcessMessage_refines s.world hread hroom (Request.tailFits hbytes) hfuel

theorem Exchange.Outstanding.call_part {fuel : ℕ} (hfuel : 2048 < fuel) {ps : List (List Byte)}
    {q : Request} (h : s.Outstanding L st ps q) {read rest : List Byte}
    (hsplit : s.wire = read ++ rest) (hread : read ≠ []) (hrest : rest ≠ []) :
    (s.call L fuel read rest).Outstanding L st ps q := by
  have hans := h.answers hfuel hsplit hread
  have hbytes := h.bytes
  rw [hsplit, ← List.append_assoc] at hbytes
  have hframe := q.frame.isFrame_toBytes
  rw [← hbytes] at hframe
  have hfirst := hframe.firstFrame_prefix hrest
  rw [Format.frames_of_none hfirst, Format.residue_of_none hfirst] at hans
  rcases hans with ⟨hexit, hpend, hst, _, hwritten⟩
  constructor
  · exact hexit
  · have hserved := h.served
    unfold Exchange.Served Exchange.call at *
    dsimp only
    rw [hwritten, hst]
    simpa [writtenResponses] using hserved
  · exact h.asked
  · change (v2gProcessMessage L fuel read s.ctx s.world).ctx.recv.pending ++ rest = _
    rw [hpend]
    exact hbytes
  · exact hrest

theorem Exchange.Outstanding.call_whole {fuel : ℕ} (hfuel : 2048 < fuel) {ps : List (List Byte)}
    {q : Request} (h : s.Outstanding L st ps q) :
    (s.call L fuel s.wire []).Idle L st ∨ (s.call L fuel s.wire []).Failed L st := by
  have hans := h.answers hfuel (List.append_nil s.wire).symm h.wire
  have hserved := h.served
  unfold Exchange.Served at hserved
  have happend := serveAll_append L st ps [q.payload]
  rw [hserved, Option.bind_some] at happend
  rw [h.bytes, q.frames_toBytes.1, q.frames_toBytes.2, q.exiPayloads_toBytes] at hans
  unfold Answers at hans
  cases hq : serveAll L (s.ctx.toSeccHead, s.world) [q.payload] with
  | none =>
    right
    rw [hq] at hans happend
    constructor
    · exact hans
    · exact ⟨ps, q.payload, h.asked, by rw [hserved]; rfl⟩
    · change serveAll L st s.asked = none
      rw [h.asked, happend]
      rfl
  | some a =>
    left
    rw [hq] at hans happend
    rcases hans with ⟨hexit, hpend, hst, _, hwritten⟩
    constructor
    · exact hexit
    · change serveAll L st s.asked = some (s.answers ++ _, (_, _))
      rw [h.asked, happend, hwritten]
      exact congrArg some (Prod.ext rfl hst.symm)
    · rfl
    · exact hpend

theorem Exchange.Outstanding.call {fuel : ℕ} (hfuel : 2048 < fuel) {ps : List (List Byte)}
    {q : Request} (h : s.Outstanding L st ps q) {read rest : List Byte}
    (hsplit : s.wire = read ++ rest) (hread : read ≠ []) :
    (s.call L fuel read rest).Agree L st := by
  cases rest with
  | nil =>
    rw [List.append_nil] at hsplit
    subst hsplit
    rcases h.call_whole hfuel with hidle | hfailed
    · exact Or.inl hidle
    · exact Or.inr (Or.inr hfailed)
  | cons b bs =>
    right; left
    exact ⟨ps, q, h.call_part hfuel hsplit hread (List.cons_ne_nil b bs)⟩

theorem exchangeAct_cases {fuel : ℕ} {t : Exchange ω} {a : ExchangeAction}
    (h : exchangeAct L fuel s a = some t) :
    s.exit = .done ∧
      ((∃ q : Request, s.asked.length = s.answers.length ∧ t =
          { s with asked := s.asked ++ [q.payload], wire := s.wire ++ q.frame.toBytes }) ∨
        ∃ read rest, s.wire = read ++ rest ∧ read ≠ [] ∧ t = s.call L fuel read rest) := by
  cases a with
  | ask q =>
    rw [exchangeAct] at h
    split_ifs at h with hall
    cases h
    exact ⟨hall.1, Or.inl ⟨q, hall.2, rfl⟩⟩
  | read n =>
    rw [exchangeAct] at h
    split_ifs at h with hn
    cases h
    refine ⟨hn.1, Or.inr ⟨_, _, (List.take_append_drop n s.wire).symm, ?_, rfl⟩⟩
    rw [← List.length_pos_iff, List.length_take]
    omega
  | recv segs =>
    rw [exchangeAct] at h
    split_ifs at h with hs
    cases h
    rcases hs with ⟨hexit, hwire, hflat, hsegs⟩
    refine ⟨hexit, Or.inr ⟨_, _, ?_, ?_, rfl⟩⟩
    · rw [tcpRead_flatten 2048 segs (by decide), hflat]
    · rw [tcpRead_recvUntil]
      apply recvUntil_ne_nil
      · exact Nat.lt_of_lt_of_le (by decide) (eight_le_announced _)
      · decide
      · rintro rfl
        exact hwire hflat.symm
      · exact hsegs

theorem Exchange.Outstanding.waits {ps : List (List Byte)} {q : Request}
    (h : s.Outstanding L st ps q) : s.asked.length = s.answers.length + 1 := by
  have hlen := serveAll_length h.served
  dsimp only at hlen
  rw [h.asked, List.length_append, List.length_singleton, hlen]

theorem Exchange.Failed.exit_ne (h : s.Failed L st) : s.exit ≠ .done := by
  rcases h.exit with he | he <;> rw [he] <;> decide

theorem Exchange.Agree.act {fuel : ℕ} (hfuel : 2048 < fuel) {t : Exchange ω} {a : ExchangeAction}
    (h : s.Agree L st) (hact : exchangeAct L fuel s a = some t) : t.Agree L st := by
  rcases exchangeAct_cases hact with ⟨hexit, ⟨q, hlen, rfl⟩ | ⟨read, rest, hsplit, hread, rfl⟩⟩
  · rcases h with hidle | ⟨ps, p, hout⟩ | hfailed
    · right; left
      refine ⟨s.asked, q, hidle.exit, hidle.served, rfl, ?_, ?_⟩
      · rw [hidle.wire, hidle.pending]
        rfl
      · rw [hidle.wire, List.nil_append, ← List.length_pos_iff, V2gtpFrame.toBytes_length]
        omega
    · have hwaits := hout.waits
      omega
    · exact absurd hexit hfailed.exit_ne
  · rcases h with hidle | ⟨ps, q, hout⟩ | hfailed
    · rw [hidle.wire, eq_comm, List.append_eq_nil_iff] at hsplit
      exact absurd hsplit.1 hread
    · exact hout.call hfuel hsplit hread
    · exact absurd hexit hfailed.exit_ne

theorem Exchange.Agree.served (h : s.Agree L st) (hexit : s.exit = .done) :
    s.Served L st (s.asked.take s.answers.length) ∧ s.asked.length ≤ s.answers.length + 1 ∧
      (s.wire = [] ↔ s.asked.length = s.answers.length) := by
  rcases h with hidle | ⟨ps, q, hout⟩ | hfailed
  · have hlen := serveAll_length hidle.served
    dsimp only at hlen
    rw [hlen, List.take_length]
    exact ⟨hidle.served, by omega, iff_of_true hidle.wire rfl⟩
  · have hwaits := hout.waits
    have hlen := serveAll_length hout.served
    dsimp only at hlen
    refine ⟨?_, by omega, iff_of_false hout.wire (by omega)⟩
    rw [hout.asked, hlen, List.take_left]
    exact hout.served
  · exact absurd hexit hfailed.exit_ne

theorem exchangeStart_idle {ctx : SeccContext} (hempty : ctx.recv.len = 0) (world : ω) :
    (exchangeStart ctx world).Idle L (ctx.toSeccHead, world) :=
  ⟨rfl, rfl, rfl, pending_eq_nil hempty⟩

end lemmas

section run
variable {ω : Type} {L : MessageLayer ω} {fuel : ℕ} {ctx : SeccContext} {world : ω}
  {s : Exchange ω} {as : List ExchangeAction}

/-- With a peer that waits, and requests that fit the buffer, no call overflows: what was asked is
answered in its turn, but for the last request as long as part of it is still to be read, or the
last request is the one that could not be answered. -/
theorem lockstep_answers (hfuel : 2048 < fuel) (hempty : ctx.recv.len = 0)
    (hrun : Transition.run (exchangeAct L fuel) (exchangeStart ctx world) as = some s) :
    (s.exit = .done ∧
      serveAll L (ctx.toSeccHead, world) (s.asked.take s.answers.length) =
        some (s.answers, (s.ctx.toSeccHead, s.world)) ∧
      s.asked.length ≤ s.answers.length + 1 ∧
      (s.wire = [] ↔ s.asked.length = s.answers.length)) ∨
    ((s.exit = .buildFailed ∨ s.exit = .writeFailed) ∧
      (∃ ps p, s.asked = ps ++ [p] ∧ (serveAll L (ctx.toSeccHead, world) ps).isSome) ∧
      serveAll L (ctx.toSeccHead, world) s.asked = none) := by
  have hagree : s.Agree L (ctx.toSeccHead, world) :=
    Transition.invariant (fun _ _ _ h hact => h.act hfuel hact)
      (Or.inl (exchangeStart_idle hempty world)) hrun
  by_cases hexit : s.exit = .done
  · left
    exact ⟨hexit, hagree.served hexit⟩
  · right
    rcases hagree with hidle | ⟨ps, q, hout⟩ | hfailed
    · exact absurd hidle.exit hexit
    · exact absurd hout.exit hexit
    · exact ⟨hfailed.exit, hfailed.last, hfailed.unserved⟩

end run

def smallRequest : Request := ⟨[0x80, 0x9A], Nat.le_of_ble_eq_true rfl⟩

def twoRequests : List ExchangeAction :=
  [.ask smallRequest, .read 9, .read 1, .ask smallRequest, .read 10]

theorem lockstep_answers_twoRequests :
    ∃ s, Transition.run (exchangeAct answeringLayer 2049) (exchangeStart .initial ()) twoRequests =
        some s ∧ s.answers.length = 2 ∧ s.exit = .done ∧
      serveAll answeringLayer (SeccContext.initial.toSeccHead, ())
          (s.asked.take s.answers.length) = some (s.answers, (s.ctx.toSeccHead, s.world)) := by
  have hrun : ∃ s ∈ Transition.run (exchangeAct answeringLayer 2049) (exchangeStart .initial ())
      twoRequests, s.answers.length = 2 ∧ s.exit = .done := by decide +kernel
  rcases hrun with ⟨s, hs, hlen, hexit⟩
  rcases lockstep_answers (by decide) rfl hs with h | h
  · exact ⟨s, hs, hlen, hexit, h.2.1⟩
  · rw [hexit] at h
    rcases h.1 with he | he <;> cases he

section run
variable {ω : Type} {L : MessageLayer ω} {fuel : ℕ} {ctx : SeccContext} {world : ω}
  {s : Exchange ω} {as : List ExchangeAction}

/-- All reading is done with `recv`. -/
def PlainTcp (_ : Exchange ω) : ExchangeAction → Prop
  | .read _ => False
  | _ => True

instance (s : Exchange ω) (a : ExchangeAction) : Decidable (PlainTcp s a) := by
  cases a <;> unfold PlainTcp <;> infer_instance

/-- What is read is one request, whole, and `recv` is not called with all of it there. -/
def ReadsRequest (s : Exchange ω) : ExchangeAction → Prop
  | .recv segs => ∃ q : Request, s.asked.getLast? = some q.payload ∧
      tcpRead 2048 segs = ((q.frame.toBytes.length : ℤ), q.frame.toBytes, []) ∧
      ∀ b ∈ tcpRecvs 2048 segs, b.length < q.frame.toBytes.length
  | _ => True

/-- In plain TCP each call of `v2g_process_message` reads the one request that is not answered,
however it is cut, without waiting for more, and nothing stays in the receive buffer. -/
theorem lockstep_reads_requests (hfuel : 2048 < fuel) (hempty : ctx.recv.len = 0)
    (hrun : Transition.run (exchangeAct L fuel) (exchangeStart ctx world) as = some s)
    (hplain : Transition.Along (exchangeAct L fuel) PlainTcp (exchangeStart ctx world) as) :
    Transition.Along (exchangeAct L fuel) ReadsRequest (exchangeStart ctx world) as ∧
      (s.exit = .done → s.ctx.recv.pending = []) := by
  -- nothing is in the buffer between two calls
  have hall := Transition.along_of_invariant (C := ReadsRequest)
    (I := fun u : Exchange ω => u.Agree L (ctx.toSeccHead, world) ∧
      (u.exit = .done → u.ctx.recv.pending = [])) ?_
    ⟨Or.inl (exchangeStart_idle hempty world), fun _ => pending_eq_nil hempty⟩ hrun hplain
  · exact ⟨hall.1, hall.2.2⟩
  · rintro u a t ⟨hagree, hpend⟩ hp hact
    have hnext := hagree.act hfuel hact
    cases a with
    | read n => cases hp
    | ask q =>
      rw [exchangeAct] at hact
      split_ifs at hact
      cases hact
      exact ⟨trivial, hnext, hpend⟩
    | recv segs =>
      rw [exchangeAct] at hact
      split_ifs at hact with hs
      rcases hs with ⟨hexit, hwire, hflat, hsegs⟩
      rcases hagree with hidle | ⟨ps, q, hout⟩ | hfailed
      · exact absurd hidle.wire hwire
      · have hbytes := hout.bytes
        rw [hpend hexit, List.nil_append] at hbytes
        rcases tcpRead_frame (hflat.trans hbytes) hsegs with ⟨hread, hprompt⟩
        refine ⟨⟨q, by rw [hout.asked, List.getLast?_concat], hread, hprompt⟩, hnext, ?_⟩
        rw [hread, ← hbytes] at hact
        cases hact
        intro hdone
        rcases hout.call_whole hfuel with hidle | hfailed
        · exact hidle.pending
        · rcases hfailed.exit with he | he <;>
            exact absurd (hdone.symm.trans he) (by decide)
      · rcases hfailed.exit with he | he <;> rw [he] at hexit <;> cases hexit

end run

def requestInThree : List ExchangeAction :=
  [.ask smallRequest, .recv [[0x01, 0xFE, 0x80], [0x01, 0x00, 0x00, 0x00, 0x02, 0x80], [0x9A]]]

theorem lockstep_reads_requests_three :
    ∃ s, Transition.run (exchangeAct answeringLayer 2049) (exchangeStart .initial ())
        requestInThree = some s ∧ s.answers.length = 1 ∧
      Transition.Along (exchangeAct answeringLayer 2049) ReadsRequest (exchangeStart .initial ())
        requestInThree := by
  have hrun : ∃ s ∈ Transition.run (exchangeAct answeringLayer 2049) (exchangeStart .initial ())
      requestInThree, s.answers.length = 1 := by decide +kernel
  have hplain : Transition.Along (exchangeAct answeringLayer 2049) PlainTcp
      (exchangeStart .initial ()) requestInThree := by decide +kernel
  rcases hrun with ⟨s, hs, hlen⟩
  exact ⟨s, hs, hlen, (lockstep_reads_requests (by decide) rfl hs hplain).1⟩

end EvseIso15118
