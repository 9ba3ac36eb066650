import EvseIso15118.FrameBounds
import EvseIso15118.FrameStream

namespace EvseIso15118

open Relation

section walks
variable (bytes : List Byte)

/-- The message with its header at `off` is there whole, by the wrapped sum of the code. -/
def Whole (off : ℤ) : Prop :=
  0 ≤ off ∧ off + 8 ≤ bytes.length ∧ toInt32 (frameEnd bytes off) ≤ bytes.length

instance (off : ℤ) : Decidable (Whole bytes off) := by
  unfold Whole
  infer_instance

/-- The loop can go from the message at `off` on to `off'`. -/
def Passes (off off' : ℤ) : Prop :=
  Whole bytes off ∧ Passable bytes off ∧ off' = toInt32 (frameEnd bytes off)

/-- It does so without a call of the decoder. -/
def Skips (off off' : ℤ) : Prop :=
  Whole bytes off ∧ (headerAt bytes off).payloadType ≠ 0x8001 ∧
    off' = toInt32 (frameEnd bytes off)

instance (off off' : ℤ) : Decidable (Skips bytes off off') := by
  unfold Skips
  infer_instance

theorem passes_rightUnique : Relator.RightUnique (Passes bytes) := by
  rintro a b c ⟨-, -, rfl⟩ ⟨-, -, rfl⟩
  rfl

theorem skips_rightUnique : Relator.RightUnique (Skips bytes) := by
  rintro a b c ⟨-, -, rfl⟩ ⟨-, -, rfl⟩
  rfl

end walks

/-- Reads after which the receive buffer is as it was: too long for an empty buffer, or what
stands behind the pending bytes, and after it the loop leaves the same bytes pending. -/
inductive Echoes (recv : RecvBuffer) : List Byte → Prop
  | empty : Echoes recv []
  | dropped {c : List Byte} (hlen : recv.len = 0) (hlong : 2048 < c.length) : Echoes recv c
  | consumed {c : List Byte} {off : ℤ} (hlen : recv.len = 0)
      (hsame : (recv.bytes.drop recv.len).take c.length = c)
      (hwalk : ReflTransGen (Passes c) 0 off)
      (hend : off = c.length ∨ Whole c off ∧ ¬ Passable c off) : Echoes recv c
  | shifted {c : List Byte} (hlen : 0 < recv.len)
      (hsame : (recv.bytes.drop recv.len).take c.length = c)
      (hwalk : ReflTransGen (Skips (recv.pending ++ c)) 0 c.length)
      (hend : ¬ Whole (recv.pending ++ c) c.length)
      (hrest : (recv.pending ++ c).drop c.length = recv.pending) : Echoes recv c

/-- One byte is enough for a read that leaves its trace. -/
theorem exists_not_echoes (recv : RecvBuffer) : ∃ c, ¬ Echoes recv c := by
  obtain ⟨b, hb⟩ : ∃ b : Byte, (recv.bytes.drop recv.len).take 1 ≠ [b] := by
    by_cases hzero : (recv.bytes.drop recv.len).take 1 = [0]
    · exact ⟨1, by rw [hzero]; decide⟩
    · exact ⟨0, hzero⟩
  refine ⟨[b], fun h => ?_⟩
  cases h with
  | dropped hlen hlong => exact absurd hlong (by simp)
  | consumed hlen hsame hwalk hend => exact hb hsame
  | shifted hlen hsame hwalk hend hrest => exact hb hsame

section leaves
variable {ω : Type} {L : MessageLayer ω} {s t : FrameLoop ω} {r : CallResult ω}
  {bytes : List Byte}

theorem FrameLoop.finish_recv (s : FrameLoop ω) : s.finish.ctx.recv =
    if 0 < s.offset ∧ s.offset < s.ctx.recv.len then s.ctx.recv.shift s.offset.toNat
    else if s.ctx.recv.len ≤ s.offset then s.ctx.recv.clear
    else s.ctx.recv := by
  unfold FrameLoop.finish
  split_ifs <;> rfl

theorem whole_of_inl (hs : s.ctx.recv.pending = bytes) (h : frameStep L s = .inl t) :
    Whole bytes s.offset ∧ t.offset = toInt32 (frameEnd bytes s.offset) := by
  obtain ⟨hn, ho, hw, hto⟩ := frameStep_frameEnd hs h
  exact ⟨⟨hn, ho, hw⟩, hto⟩

/-- A round leaves the loop where no message is whole, or at a request that has no response, or
in front of the buffer. -/
theorem frameStep_leaves (hs : s.ctx.recv.pending = bytes) (h : frameStep L s = .inr r) :
    (¬ Whole bytes s.offset ∧ r.exit = .done ∧ r.ctx.recv = s.finish.ctx.recv) ∨
      (Whole bytes s.offset ∧ (headerAt bytes s.offset).payloadType = 0x8001 ∧
        (r.exit = .writeFailed ∨ r.exit = .buildFailed) ∧ r.ctx.recv = s.ctx.recv.clear) ∨
      (s.offset < 0 ∧ r.exit = .undefined ∧ r.ctx.recv = s.ctx.recv) := by
  have hlen : s.ctx.recv.len = bytes.length := by rw [← hs, RecvBuffer.pending_length]
  by_cases ho : s.offset + 8 ≤ s.ctx.recv.len
  · by_cases hn : s.offset < 0
    · rw [frameStep_of_neg ho hn] at h
      cases h
      exact .inr (.inr ⟨hn, rfl, rfl⟩)
    · rw [frameStep_of_header ho (by omega), processFrame, processExi, toInt32_add_messageLen] at h
      have hh := header_eq_headerAt hs ho (by omega)
      have hend : frameEnd bytes s.offset = s.offset + 8 + s.header.payloadLength.toNat := by
        rw [hh]
        rfl
      split_ifs at h with hshort htype
      · cases h
        rw [FrameLoop.log_ctx, FrameLoop.log_offset, ← hend, hlen] at hshort
        rw [FrameLoop.finish_log]
        exact .inl ⟨fun hw => absurd hw.2.2 (not_le.mpr hshort), FrameLoop.finish_exit s, rfl⟩
      · rw [FrameLoop.log_ctx, FrameLoop.log_offset, ← hend, hlen] at hshort
        obtain ⟨hexit, hrecv⟩ := respond_leaves h
        rw [decodeExi_recv] at hrecv
        exact .inr (.inl ⟨⟨by omega, by omega, not_lt.mp hshort⟩, hh ▸ not_not.mp htype, hexit,
          hrecv⟩)
  · rw [frameStep_of_end (by omega)] at h
    cases h
    exact .inl ⟨fun hw => ho (hlen ▸ hw.2.1), FrameLoop.finish_exit s, rfl⟩

theorem exists_leaves_of_walk {read : List Byte} {ctx : SeccContext} (world : ω) {fuel : ℕ}
    {next : ℤ → ℤ → Prop} {off : ℤ} (hfuel : 2048 < fuel) (hr : read ≠ [])
    (hl : ctx.recv.len + read.length ≤ 2048) (hdet : Relator.RightUnique next)
    (hwhole : ∀ o o', next o o' → Whole (ctx.recv.pending ++ read) o)
    (hwalk : ReflTransGen next 0 off) (hend : ∀ o, ¬ next off o)
    (hfollow : ∀ u v, u.ctx.recv.pending = ctx.recv.pending ++ read →
      ReflTransGen next u.offset off → frameStep L u = .inl v → next u.offset v.offset) :
    ∃ s, InLoop L read ctx world s ∧ ReflTransGen next s.offset off ∧
      frameStep L s = .inr (v2gProcessMessage L fuel read ctx world) := by
  have hlen : (ctx.recv.pending ++ read).length = ctx.recv.len + read.length := by simp
  have hsources : ∀ o, Loop.ahead next o ⊆ Set.Icc (0 : ℤ) 2040 := by
    rintro o x ⟨-, y, hy⟩
    obtain ⟨hn, ho, -⟩ := hwhole x y hy
    exact ⟨hn, by omega⟩
  have hfinite : ∀ o, (Loop.ahead next o).Finite := fun o =>
    (Set.finite_Icc (0 : ℤ) 2040).subset (hsources o)
  have hsteps : ∀ u v, InLoop L read ctx world u ∧ ReflTransGen next u.offset off →
      frameStep L u = .inl v → (InLoop L read ctx world v ∧ ReflTransGen next v.offset off) ∧
        (Loop.ahead next v.offset).ncard < (Loop.ahead next u.offset).ncard := by
    rintro u v ⟨hu, hto⟩ huv
    have hnext := hfollow u v hu.recv.1 hto huv
    have hrest : ReflTransGen next v.offset off := by
      rcases hto.cases_head with heq | ⟨o, ho, hrest⟩
      · exact absurd (heq ▸ hnext) (hend _)
      · rwa [hdet hnext ho]
    exact ⟨⟨hu.tail huv, hrest⟩, Loop.ncard_ahead_lt hdet hend (hfinite _) hnext hrest⟩
  have hstart : InLoop L read ctx world (loopStart read ctx world hl) := ⟨hr, hl, .refl _⟩
  have hrank : (Loop.ahead next (loopStart read ctx world hl).offset).ncard < fuel := by
    have hle := Set.ncard_le_ncard (hsources (loopStart read ctx world hl).offset)
      (Set.finite_Icc (0 : ℤ) 2040)
    rw [← Finset.coe_Icc, Set.ncard_coe_finset, Int.card_Icc] at hle
    change _ ≤ 2041 at hle
    omega
  obtain ⟨r, hrun⟩ := Loop.exists_run_eq_inr ⟨hstart, hwalk⟩ hsteps hrank
  obtain ⟨s, hv, hs⟩ := Loop.exists_visited_of_run_inr hrun
  have hinv := hv.invariant (I := fun u => InLoop L read ctx world u ∧
    ReflTransGen next u.offset off) ⟨hstart, hwalk⟩ fun u v hu huv => (hsteps u v hu huv).1
  refine ⟨s, hinv.1, hinv.2, ?_⟩
  rw [v2gProcessMessage, if_neg hr, dif_pos hl, hrun]
  exact hs

end leaves

section echoes
variable {recv : RecvBuffer} {c : List Byte}

theorem push_bytes_of_same (hl : recv.len + c.length ≤ 2048)
    (hsame : (recv.bytes.drop recv.len).take c.length = c) :
    (recv.push c hl).bytes = recv.bytes :=
  (overwrite_eq_self_iff (by rw [recv.bytes_length]; exact recv.len_le)).mpr hsame

theorem fits_of_same (hsame : (recv.bytes.drop recv.len).take c.length = c) :
    recv.len + c.length ≤ 2048 := by
  have hlen := congrArg List.length hsame
  have hle := recv.len_le
  rw [List.length_take, List.length_drop, recv.bytes_length] at hlen
  omega

section calls
variable {τ : Type} {codec : Codec} {tlsWrite : τ → List Byte → ℤ × τ} {fuel : ℕ}
  {ctx : SeccContext}

/-- With an empty buffer the read is consumed to its end, or dropped with a request that has no
response. -/
theorem recv_eq_of_consumed (hfuel : 2048 < fuel) (world : SeccWorld τ) (hc : c ≠ [])
    (hlen : ctx.recv.len = 0) (hsame : (ctx.recv.bytes.drop ctx.recv.len).take c.length = c)
    {off : ℤ} (hwalk : ReflTransGen (Passes c) 0 off)
    (hend : off = c.length ∨ Whole c off ∧ ¬ Passable c off) :
    (v2gProcessMessage (seccMessageLayer codec tlsWrite) fuel c ctx world).ctx.recv =
      ctx.recv := by
  have hl := fits_of_same hsame
  have hnil : ctx.recv.pending ++ c = c := by
    rw [List.eq_nil_of_length_eq_zero (by rw [RecvBuffer.pending_length, hlen] :
      ctx.recv.pending.length = 0), List.nil_append]
  have hstuck : ∀ o, ¬ Passes c off o := by
    rintro o ⟨hw, hpass, -⟩
    rcases hend with rfl | ⟨-, hno⟩
    · exact absurd hw.2.1 (by omega)
    · exact hno hpass
  obtain ⟨s, hs, hto, hleave⟩ := exists_leaves_of_walk (L := seccMessageLayer codec tlsWrite)
    world hfuel hc hl (passes_rightUnique c) (fun o o' h => hnil.symm ▸ h.1) hwalk hstuck
    fun u v hu _ huv => by
      rw [hnil] at hu
      obtain ⟨hw, hoff⟩ := whole_of_inl hu huv
      exact ⟨hw, frameStep_passable hu huv, hoff⟩
  have hpend := hs.recv.1.trans hnil
  obtain ⟨_, hrecv⟩ := hs.recv_eq
  -- either way nothing is pending afterwards
  have hclear : s.ctx.recv.clear = ctx.recv := by
    rw [hrecv]
    exact RecvBuffer.ext (push_bytes_of_same hl hsame) hlen.symm
  rw [← hclear]
  rcases frameStep_leaves hpend hleave with ⟨hno, -, hr⟩ | ⟨-, -, -, hr⟩ | ⟨hneg, -, -⟩
  · rcases hto.cases_head with rfl | ⟨o, ho, -⟩
    · have hoff := hend.resolve_right fun h => hno h.1
      rw [hr, FrameLoop.finish_recv, if_neg, if_pos]
      · rw [hs.recv.2, hoff]
        omega
      · rw [hs.recv.2, hoff]
        omega
    · exact absurd ho.1 hno
  · exact hr
  · rcases hto.cases_head with rfl | ⟨o, ho, -⟩
    · rcases hend with hoff | ⟨hw, -⟩
      · omega
      · exact absurd hw.1 (by omega)
    · exact absurd ho.1.1 (by omega)

theorem recv_eq_of_shifted (hfuel : 2048 < fuel) (world : SeccWorld τ) (hc : c ≠ [])
    (hlen : 0 < ctx.recv.len) (hsame : (ctx.recv.bytes.drop ctx.recv.len).take c.length = c)
    (hwalk : ReflTransGen (Skips (ctx.recv.pending ++ c)) 0 c.length)
    (hend : ¬ Whole (ctx.recv.pending ++ c) c.length)
    (hrest : (ctx.recv.pending ++ c).drop c.length = ctx.recv.pending) :
    (v2gProcessMessage (seccMessageLayer codec tlsWrite) fuel c ctx world).ctx.recv =
      ctx.recv := by
  have hl := fits_of_same hsame
  have hpos : 0 < c.length := List.length_pos_of_ne_nil hc
  have hstuck : ∀ o, ¬ Skips (ctx.recv.pending ++ c) c.length o := fun o h => hend h.1
  obtain ⟨s, hs, hto, hleave⟩ := exists_leaves_of_walk (L := seccMessageLayer codec tlsWrite)
    world hfuel hc hl (skips_rightUnique _) (fun o o' h => h.1) hwalk hstuck
    fun u v hu huto huv => by
      obtain ⟨hw, hoff⟩ := whole_of_inl hu huv
      rcases huto.cases_head with heq | ⟨o, ho, -⟩
      · exact absurd (heq ▸ hw) hend
      · exact ⟨hw, ho.2.1, hoff⟩
  obtain ⟨_, hrecv⟩ := hs.recv_eq
  rcases frameStep_leaves hs.recv.1 hleave with ⟨hno, -, hr⟩ | ⟨hw, htype, -⟩ | ⟨hneg, -⟩
  · rcases hto.cases_head with hoff | ⟨o, ho, -⟩
    · rw [hr, FrameLoop.finish_recv, if_pos (by rw [hs.recv.2, hoff]; omega), hoff, hrecv,
        Int.toNat_natCast]
      have hshift : (ctx.recv.push c hl).pending.drop c.length = ctx.recv.pending := by
        rw [RecvBuffer.pending_push]
        exact hrest
      apply RecvBuffer.ext
      · -- the bytes that move to the front stand there already
        rw [RecvBuffer.shift_bytes, hshift, push_bytes_of_same hl hsame,
          overwrite_eq_self_iff (Nat.zero_le _), RecvBuffer.pending_length]
        rfl
      · change ctx.recv.len + c.length - c.length = ctx.recv.len
        omega
    · exact absurd ho.1 hno
  · rcases hto.cases_head with hoff | ⟨o, ho, -⟩
    · exact absurd (hoff ▸ hw) hend
    · exact absurd htype ho.2.1
  · rcases hto.cases_head with hoff | ⟨o, ho, -⟩
    · omega
    · exact absurd ho.1.1 (by omega)

/-- A read that echoes the buffer leaves it as it was, whatever codec and connection do. -/
theorem recv_eq_of_echoes (hfuel : 2048 < fuel) (world : SeccWorld τ) (h : Echoes ctx.recv c) :
    (v2gProcessMessage (seccMessageLayer codec tlsWrite) fuel c ctx world).ctx.recv =
      ctx.recv := by
  by_cases hc : c = []
  · rw [v2gProcessMessage, if_pos hc]
  · cases h with
    | empty => exact absurd rfl hc
    | dropped hlen hlong =>
      rw [v2gProcessMessage, if_neg hc, dif_neg (by omega)]
      exact RecvBuffer.ext rfl hlen.symm
    | consumed hlen hsame hwalk hend =>
      exact recv_eq_of_consumed hfuel world hc hlen hsame hwalk hend
    | shifted hlen hsame hwalk hend hrest =>
      exact recv_eq_of_shifted hfuel world hc hlen hsame hwalk hend hrest

end calls

end echoes

section keeps
variable {c : List Byte} {ctx : SeccContext}

theorem InLoop.offset_le {ω : Type} {L : MessageLayer ω} {world : ω} {s : FrameLoop ω}
    (h : InLoop L c ctx world s) : s.offset ≤ (ctx.recv.len + c.length : ℕ) := by
  have hinv := h.invariant (I := fun u => u.ctx.recv.pending = ctx.recv.pending ++ c ∧
    u.offset ≤ (ctx.recv.pending ++ c).length)
    (fun hl => ⟨RecvBuffer.pending_push _ _ hl, Int.natCast_nonneg _⟩) fun u v hu huv => by
      obtain ⟨hw, hoff⟩ := whole_of_inl hu.1 huv
      exact ⟨by rw [frameStep_recv huv, hu.1], hoff ▸ hw.2.2⟩
  simpa using hinv.2

theorem InLoop.walk {ω : Type} {L : MessageLayer ω} {world : ω} {s : FrameLoop ω}
    {next : ℤ → ℤ → Prop} (h : InLoop L c ctx world s)
    (hfollow : ∀ u v, u.ctx.recv.pending = ctx.recv.pending ++ c → frameStep L u = .inl v →
      next u.offset v.offset) : ReflTransGen next 0 s.offset :=
  (h.invariant (I := fun u => u.ctx.recv.pending = ctx.recv.pending ++ c ∧
    ReflTransGen next 0 u.offset) (fun hl => ⟨RecvBuffer.pending_push _ _ hl, .refl⟩)
    fun u v hu huv => ⟨by rw [frameStep_recv huv, hu.1], hu.2.tail (hfollow u v hu.1 huv)⟩).2

theorem RecvBuffer.take_drop_push (recv : RecvBuffer) (hl : recv.len + c.length ≤ 2048) :
    ((recv.push c hl).bytes.drop recv.len).take c.length = c :=
  take_drop_overwrite c (by rw [recv.bytes_length]; exact recv.len_le)

theorem RecvBuffer.push_ne {recv : RecvBuffer} (hc : c ≠ []) (hl : recv.len + c.length ≤ 2048) :
    recv.push c hl ≠ recv := by
  intro h
  have hpos : 0 < c.length := List.length_pos_of_ne_nil hc
  have hlen := congrArg RecvBuffer.len h
  rw [RecvBuffer.push_len] at hlen
  omega

theorem RecvBuffer.same_of_clear {recv : RecvBuffer} {hl : recv.len + c.length ≤ 2048}
    (h : (recv.push c hl).clear = recv) :
    recv.len = 0 ∧ (recv.bytes.drop recv.len).take c.length = c := by
  have hbytes := congrArg RecvBuffer.bytes h
  rw [RecvBuffer.clear_bytes] at hbytes
  have hcopy := RecvBuffer.take_drop_push recv hl
  rw [hbytes] at hcopy
  exact ⟨(congrArg RecvBuffer.len h).symm, hcopy⟩

/-- The bytes behind the read have moved to the front, and are those that stood there. -/
theorem RecvBuffer.same_of_shift {recv : RecvBuffer} {hl : recv.len + c.length ≤ 2048}
    (h : (recv.push c hl).shift c.length = recv) :
    (recv.pending ++ c).drop c.length = recv.pending ∧
      (recv.bytes.drop recv.len).take c.length = c := by
  have hpend := congrArg RecvBuffer.pending h
  rw [RecvBuffer.pending_shift, RecvBuffer.pending_push] at hpend
  have hbytes := congrArg RecvBuffer.bytes h
  rw [RecvBuffer.shift_bytes, RecvBuffer.pending_push, hpend] at hbytes
  have hbehind : recv.bytes.drop recv.len = (recv.push c hl).bytes.drop recv.len := by
    conv_lhs => rw [← hbytes]
    rw [overwrite, List.take_zero, List.nil_append, RecvBuffer.pending_length, Nat.zero_add,
      List.drop_left' (RecvBuffer.pending_length _)]
  exact ⟨hpend, by rw [hbehind, RecvBuffer.take_drop_push]⟩

/-- A call that leaves the buffer as it was: the read stands there already, and the loop left
behind it or, with nothing pending, at a request that has no response. -/
theorem keeps_cases {ω : Type} {L : MessageLayer ω} {world : ω} {fuel : ℕ} (hc : c ≠ [])
    (hl : ctx.recv.len + c.length ≤ 2048)
    (h : (v2gProcessMessage L fuel c ctx world).ctx.recv = ctx.recv) :
    (ctx.recv.bytes.drop ctx.recv.len).take c.length = c ∧ ∃ s, InLoop L c ctx world s ∧
      frameStep L s = .inr (v2gProcessMessage L fuel c ctx world) ∧
      (¬ Whole (ctx.recv.pending ++ c) s.offset ∧ s.offset = c.length ∧
          (ctx.recv.pending ++ c).drop c.length = ctx.recv.pending ∨
        Whole (ctx.recv.pending ++ c) s.offset ∧
          (headerAt (ctx.recv.pending ++ c) s.offset).payloadType = 0x8001 ∧
          ctx.recv.len = 0) := by
  rcases v2gProcessMessage_cases (L := L) fuel c ctx world with
    ⟨hnil, -⟩ | ⟨hfull, -⟩ | ⟨s, hs, hr | hr⟩
  · exact absurd hnil hc
  · omega
  · obtain ⟨_, hrecv⟩ := hs.recv_eq
    rw [hr] at h
    exact absurd (hrecv.symm.trans h) (RecvBuffer.push_ne hc hl)
  · obtain ⟨_, hrecv⟩ := hs.recv_eq
    rcases frameStep_leaves hs.recv.1 hr with
      ⟨hno, -, hfin⟩ | ⟨hw, htype, -, hclear⟩ | ⟨-, -, hstay⟩
    · rw [hfin, FrameLoop.finish_recv] at h
      split_ifs at h with hmove hend
      · have hlen := congrArg RecvBuffer.len h
        change s.ctx.recv.len - s.offset.toNat = ctx.recv.len at hlen
        rw [hs.recv.2] at hlen hmove
        have hoff : s.offset = c.length := by omega
        rw [hrecv, hoff, Int.toNat_natCast] at h
        obtain ⟨hrest, hcopy⟩ := RecvBuffer.same_of_shift h
        exact ⟨hcopy, s, hs, hr, .inl ⟨hno, hoff, hrest⟩⟩
      · rw [hrecv] at h
        obtain ⟨hlen, hcopy⟩ := RecvBuffer.same_of_clear h
        have hle := hs.offset_le
        rw [hs.recv.2] at hend
        refine ⟨hcopy, s, hs, hr, .inl ⟨hno, by omega, ?_⟩⟩
        have hnil : ctx.recv.pending = [] := List.eq_nil_of_length_eq_zero (by simp [hlen])
        rw [hnil, List.nil_append, List.drop_length]
      · exact absurd (hrecv.symm.trans h) (RecvBuffer.push_ne hc hl)
    · rw [hclear, hrecv] at h
      obtain ⟨hlen, hcopy⟩ := RecvBuffer.same_of_clear h
      exact ⟨hcopy, s, hs, hr, .inr ⟨hw, htype, hlen⟩⟩
    · exact absurd (hrecv.symm.trans (hstay.symm.trans h)) (RecvBuffer.push_ne hc hl)

theorem ret_of_keeps {ω : Type} {L : MessageLayer ω} {world : ω} {fuel : ℕ}
    (h : (v2gProcessMessage L fuel c ctx world).ctx.recv = ctx.recv) :
    (v2gProcessMessage L fuel c ctx world).exit.ret ≠ none := by
  have hpushed : ∀ {s : FrameLoop ω}, InLoop L c ctx world s → s.ctx.recv ≠ ctx.recv := by
    intro s hs hsame
    obtain ⟨hl, hrecv⟩ := hs.recv_eq
    exact RecvBuffer.push_ne hs.1 hl (hrecv.symm.trans hsame)
  rcases v2gProcessMessage_cases (L := L) fuel c ctx world with
    ⟨-, hr⟩ | ⟨-, hr⟩ | ⟨s, hs, hr | hr⟩
  · rw [hr]
    exact Option.some_ne_none _
  · rw [hr]
    exact Option.some_ne_none _
  · rw [hr] at h
    exact absurd h (hpushed hs)
  · rcases frameStep_leaves hs.recv.1 hr with ⟨-, he, -⟩ | ⟨-, -, he | he, -⟩ | ⟨-, -, hstay⟩
    · rw [he]
      exact Option.some_ne_none _
    · rw [he]
      exact Option.some_ne_none _
    · rw [he]
      exact Option.some_ne_none _
    · exact absurd (hstay.symm.trans h) (hpushed hs)

/-- A codec that decodes nothing. -/
def refusingCodec : Codec := { obligingCodec with decodeIso1ExiDocument := fun _ => (-1, {}) }

def refusingLayer : MessageLayer (SeccWorld Unit) :=
  seccMessageLayer refusingCodec fun net _ => (0, net)

theorem exiDecodeMessage_refuse (st : ExiStatics) (data : List Byte) (len : ℤ) :
    (exiDecodeMessage refusingCodec st data len).1 = .unknown := by
  by_cases hlen : len ≤ 0
  · rw [exiDecodeMessage_of_nonpos _ _ _ hlen]
  · rw [exiDecodeMessage, if_neg hlen]
    rfl

theorem frameStep_refuse {s t : FrameLoop (SeccWorld Unit)} {bytes : List Byte}
    (hs : s.ctx.recv.pending = bytes) (h : frameStep refusingLayer s = .inl t) :
    Skips bytes s.offset t.offset := by
  obtain ⟨hw, hoff⟩ := whole_of_inl hs h
  refine ⟨hw, ?_, hoff⟩
  obtain ⟨hn, ho, -, ⟨htype, -⟩ | ⟨-, hp⟩⟩ := frameStep_eq_inl h
  · rwa [header_eq_headerAt hs ho hn] at htype
  · have hb := (respond_eq_inl hp).1
    have hunknown : (decodeExi refusingLayer (s.log (.header s.offset)) s.header).1 = .unknown :=
      exiDecodeMessage_refuse _ _ _
    rw [hunknown] at hb
    cases hb

theorem echoes_of_overflow {ω : Type} {L : MessageLayer ω} {world : ω} {fuel : ℕ} (hc : c ≠ [])
    (hl : ¬ ctx.recv.len + c.length ≤ 2048)
    (h : (v2gProcessMessage L fuel c ctx world).ctx.recv = ctx.recv) :
    ctx.recv.len = 0 ∧ Echoes ctx.recv c := by
  rw [v2gProcessMessage, if_neg hc, dif_neg hl] at h
  have hlen : ctx.recv.len = 0 := (congrArg RecvBuffer.len h).symm
  exact ⟨hlen, .dropped hlen (by omega)⟩

theorem echoes_of_obliging {fuel : ℕ} {world : SeccWorld Unit} (hlen : ctx.recv.len = 0)
    (h : (v2gProcessMessage obligingLayer fuel c ctx world).ctx.recv = ctx.recv) :
    Echoes ctx.recv c := by
  by_cases hc : c = []
  · rw [hc]
    exact .empty
  by_cases hl : ctx.recv.len + c.length ≤ 2048
  · obtain ⟨hsame, s, hs, hr, hcases⟩ := keeps_cases hc hl h
    have hnil : ctx.recv.pending ++ c = c := by
      rw [List.eq_nil_of_length_eq_zero (by rw [RecvBuffer.pending_length, hlen] :
        ctx.recv.pending.length = 0), List.nil_append]
    have hwalk : ReflTransGen (Passes c) 0 s.offset := hs.walk fun u v hu huv => by
      rw [hnil] at hu
      obtain ⟨hw, hoff⟩ := whole_of_inl hu huv
      exact ⟨hw, frameStep_passable hu huv, hoff⟩
    have hpend := hs.recv.1
    rw [hnil] at hcases hpend
    refine .consumed hlen hsame hwalk ?_
    rcases hcases with ⟨-, hoff, -⟩ | ⟨hw, -, -⟩
    · exact .inl hoff
    · refine .inr ⟨hw, fun hpass => ?_⟩
      obtain ⟨t, ht, -⟩ := exists_frameStep_of_pass hpend hw.1 hw.2.1 hpass hw.2.2
      rw [ht] at hr
      cases hr
  · exact (echoes_of_overflow hc hl h).2

theorem echoes_of_refusing {fuel : ℕ} {world : SeccWorld Unit} (hlen : 0 < ctx.recv.len)
    (h : (v2gProcessMessage refusingLayer fuel c ctx world).ctx.recv = ctx.recv) :
    Echoes ctx.recv c := by
  by_cases hc : c = []
  · rw [hc]
    exact .empty
  by_cases hl : ctx.recv.len + c.length ≤ 2048
  · obtain ⟨hsame, s, hs, -, ⟨hno, hoff, hrest⟩ | ⟨-, -, hzero⟩⟩ := keeps_cases hc hl h
    · have hwalk := hs.walk fun u v hu huv => frameStep_refuse hu huv
      rw [hoff] at hwalk hno
      exact .shifted hlen hsame hwalk hno hrest
    · omega
  · exact (echoes_of_overflow hc hl h).2

end keeps

end EvseIso15118
