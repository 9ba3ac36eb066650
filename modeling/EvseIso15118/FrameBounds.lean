import EvseIso15118.V2gtpHandler

namespace EvseIso15118

section positions
variable (bytes : List Byte)

def headerAt (offset : ℤ) : V2gtpHeader := headerOf (bytes.drop offset.toNat)

/-- The end of the message with its header at `offset`, over the integers. -/
def frameEnd (offset : ℤ) : ℤ := offset + 8 + (headerAt bytes offset).payloadLength.toNat

/-- The loop can go on behind the message: it is skipped, or it has a payload to decode. -/
def Passable (offset : ℤ) : Prop :=
  (headerAt bytes offset).payloadType = 0x8001 →
    0 < toInt32 (headerAt bytes offset).payloadLength.toNat

instance (offset : ℤ) : Decidable (Passable bytes offset) := by
  unfold Passable
  infer_instance

/-- The offsets of the headers that lengths lead to, a wrapped length also to one in front of
the buffer. -/
inductive HeaderAt : ℤ → Prop
  | first (h : 8 ≤ bytes.length) : HeaderAt 0
  | next {offset : ℤ} (h : HeaderAt offset) (nonneg : 0 ≤ offset) (pass : Passable bytes offset)
      (more : toInt32 (frameEnd bytes offset) + 8 ≤ bytes.length) :
      HeaderAt (toInt32 (frameEnd bytes offset))

/-- The message ends below 2^31, or it is skipped and its end comes back positive from a
full turn of 2^32. -/
def HeaderFits (offset : ℤ) : Prop :=
  frameEnd bytes offset < 2147483648 ∨
    (headerAt bytes offset).payloadType ≠ 0x8001 ∧ 4294967296 ≤ frameEnd bytes offset

instance (offset : ℤ) : Decidable (HeaderFits bytes offset) := by
  unfold HeaderFits
  infer_instance

theorem frameEnd_ge (offset : ℤ) : offset + 8 ≤ frameEnd bytes offset := by
  unfold frameEnd
  omega

theorem frameEnd_lt (offset : ℤ) : frameEnd bytes offset < offset + 8 + 4294967296 := by
  have := (headerAt bytes offset).payloadLength.toNat_lt
  unfold frameEnd
  omega

theorem headerAt_finite : {offset | HeaderAt bytes offset}.Finite := by
  apply (Set.finite_Icc (-2147483648 : ℤ) bytes.length).subset
  intro offset h
  cases h with
  | first h => exact ⟨by omega, by omega⟩
  | next h nonneg pass more =>
    refine ⟨?_, by omega⟩
    rw [toInt32_eq]
    split_ifs <;> omega

end positions

/-- A read of the receive buffer inside its first `n` bytes. -/
def Event.InBounds (n : ℤ) : Event → Prop
  | .header offset => 0 ≤ offset ∧ offset + 8 ≤ n
  | .decode start len _ => 0 ≤ len ∧ 8 ≤ start ∧ start + len ≤ n
  | .write _ _ _ => True

def Event.isHeader : Event → Bool
  | .header _ => true
  | _ => false

/-- How often the loop condition was found true. -/
def rounds (events : List Event) : ℕ := events.countP Event.isHeader

section contracts
variable {ω : Type} (L : MessageLayer ω) (read : List Byte) (ctx : SeccContext) (world : ω)

structure FramingInBounds : Prop where
  offset : ∀ s, InLoop L read ctx world s →
    0 ≤ s.offset ∧ s.offset ≤ (ctx.recv.len + read.length : ℕ)
  accesses : ∀ fuel, ∀ e ∈ (v2gProcessMessage L fuel read ctx world).events,
    e.InBounds (ctx.recv.len + read.length : ℕ)

structure FrameLoopProgress : Prop where
  advances : ∀ s t, InLoop L read ctx world s → frameStep L s = .inl t → s.offset < t.offset
  rounds_le : ∀ fuel, rounds (v2gProcessMessage L fuel read ctx world).events ≤
    (ctx.recv.len + read.length) / 8
  returns : ∀ fuel, (ctx.recv.len + read.length) / 8 < fuel →
    (v2gProcessMessage L fuel read ctx world).exit ≠ .running

end contracts

/-- Every header that lengths lead to in the bytes of a call fits. -/
def HeadersFit (ctx : SeccContext) (read : List Byte) : Prop :=
  read ≠ [] → ctx.recv.len + read.length ≤ 2048 →
    ∀ offset, HeaderAt (ctx.recv.pending ++ read) offset →
      HeaderFits (ctx.recv.pending ++ read) offset

/-- Every header of a message that the loop can pass announces an end below 2^31. -/
def PassesFit (ctx : SeccContext) (read : List Byte) : Prop :=
  read ≠ [] → ctx.recv.len + read.length ≤ 2048 →
    ∀ offset, HeaderAt (ctx.recv.pending ++ read) offset →
      Passable (ctx.recv.pending ++ read) offset →
        frameEnd (ctx.recv.pending ++ read) offset < 2147483648

/-- As `PassesFit`, but a length that wraps to between 1 and 7 is let through. -/
def PassesAdvance (ctx : SeccContext) (read : List Byte) : Prop :=
  read ≠ [] → ctx.recv.len + read.length ≤ 2048 →
    ∀ offset, HeaderAt (ctx.recv.pending ++ read) offset →
      Passable (ctx.recv.pending ++ read) offset →
        frameEnd (ctx.recv.pending ++ read) offset < 2147483648 ∨
          4294967296 < 8 + (headerAt (ctx.recv.pending ++ read) offset).payloadLength.toNat

/-- The lengths lead to at most one header for every eight bytes. -/
def FewHeaders (ctx : SeccContext) (read : List Byte) : Prop :=
  read ≠ [] → ctx.recv.len + read.length ≤ 2048 →
    {offset | HeaderAt (ctx.recv.pending ++ read) offset}.ncard ≤
      (ctx.recv.len + read.length) / 8

section step
variable {ω : Type} {L : MessageLayer ω} {s t : FrameLoop ω} {bytes : List Byte}

theorem header_eq_headerAt (hs : s.ctx.recv.pending = bytes)
    (h : s.offset + 8 ≤ s.ctx.recv.len) (hn : 0 ≤ s.offset) :
    s.header = headerAt bytes s.offset := by
  rw [FrameLoop.header_eq h hn, hs]
  rfl

theorem frameStep_frameEnd (hs : s.ctx.recv.pending = bytes) (h : frameStep L s = .inl t) :
    0 ≤ s.offset ∧ s.offset + 8 ≤ bytes.length ∧ toInt32 (frameEnd bytes s.offset) ≤ bytes.length ∧
      t.offset = toInt32 (frameEnd bytes s.offset) := by
  obtain ⟨hn, ho, hw, -⟩ := frameStep_eq_inl h
  have hlen : s.ctx.recv.len = bytes.length := by rw [← hs, RecvBuffer.pending_length]
  have hh := header_eq_headerAt hs ho hn
  rw [hh, hlen] at hw
  refine ⟨hn, hlen ▸ ho, hw, ?_⟩
  rw [frameStep_offset h, hh]
  rfl

end step

section tracking
variable {τ : Type} {codec : Codec} {tlsWrite : τ → List Byte → ℤ × τ}
  {read : List Byte} {ctx : SeccContext} {world : SeccWorld τ}

/-- The decoder finds no request without a payload, so the loop only passes what it can. -/
theorem frameStep_passable {s t : FrameLoop (SeccWorld τ)} {bytes : List Byte}
    (hs : s.ctx.recv.pending = bytes)
    (h : frameStep (seccMessageLayer codec tlsWrite) s = .inl t) : Passable bytes s.offset := by
  intro hexi
  obtain ⟨hn, ho, -, htype⟩ := frameStep_eq_inl h
  have hh := header_eq_headerAt hs ho hn
  rcases htype with ⟨hne, -⟩ | ⟨-, hp⟩
  · exact absurd (hh ▸ hexi) hne
  · rw [← hh]
    by_contra hle
    exact processExi_of_nonpos (not_lt.mp hle) hp

theorem headerAt_step {s t : FrameLoop (SeccWorld τ)} {bytes : List Byte}
    (hs : s.ctx.recv.pending = bytes) (hat : HeaderAt bytes s.offset)
    (h : frameStep (seccMessageLayer codec tlsWrite) s = .inl t)
    (hmore : t.offset + 8 ≤ bytes.length) : HeaderAt bytes t.offset := by
  obtain ⟨hn, -, -, hto⟩ := frameStep_frameEnd hs h
  rw [hto] at hmore ⊢
  exact hat.next hn (frameStep_passable hs h) hmore

/-- The loop reads no header that the lengths do not lead to. -/
theorem InLoop.headerAt {s : FrameLoop (SeccWorld τ)}
    (h : InLoop (seccMessageLayer codec tlsWrite) read ctx world s) :
    s.offset + 8 ≤ ((ctx.recv.len + read.length : ℕ) : ℤ) →
      HeaderAt (ctx.recv.pending ++ read) s.offset := by
  obtain ⟨hr, hl, hv⟩ := h
  have hlen : (ctx.recv.pending ++ read).length = ctx.recv.len + read.length := by simp
  refine (hv.invariant (I := fun u => u.ctx.recv.pending = ctx.recv.pending ++ read ∧
    (u.offset + 8 ≤ ((ctx.recv.len + read.length : ℕ) : ℤ) →
      HeaderAt (ctx.recv.pending ++ read) u.offset)) ⟨by simp [loopStart], ?_⟩ ?_).2
  · intro h0
    simp only [loopStart, zero_add] at h0 ⊢
    exact .first (by omega)
  · intro u v ⟨hu, hat⟩ huv
    obtain ⟨-, ho, -, -⟩ := frameStep_frameEnd hu huv
    refine ⟨by rw [frameStep_recv huv, hu], fun hmore => ?_⟩
    exact headerAt_step hu (hat (by omega)) huv (by omega)

end tracking

theorem HeaderFits.next {bytes : List Byte} {offset : ℤ} (h : HeaderFits bytes offset)
    (hn : 0 ≤ offset) (ho : offset + 8 ≤ bytes.length) (hb : bytes.length ≤ 2048) :
    0 ≤ toInt32 (frameEnd bytes offset) := by
  have hge := frameEnd_ge bytes offset
  have hlt := frameEnd_lt bytes offset
  rcases h with h | ⟨-, h⟩
  · rw [toInt32_of_small (by omega) h]
    omega
  · rw [toInt32_of_large (by omega) (by omega)]
    omega

section bounds
variable {τ : Type} {codec : Codec} {tlsWrite : τ → List Byte → ℤ × τ}
  {read : List Byte} {ctx : SeccContext} {world : SeccWorld τ}

theorem frameStep_inBounds {ω : Type} {L : MessageLayer ω} {s : FrameLoop ω} {bytes : List Byte}
    (hs : s.ctx.recv.pending = bytes) (hn : 0 ≤ s.offset)
    (hfit : s.offset + 8 ≤ bytes.length → HeaderFits bytes s.offset)
    (hb : ∀ e ∈ s.events, e.InBounds bytes.length) :
    ∀ e ∈ eventsAfter (frameStep L s),
      e.InBounds bytes.length := by
  have hlen : s.ctx.recv.len = bytes.length := by rw [← hs, RecvBuffer.pending_length]
  apply frameStep_forall_events hb
  · exact fun ho => ⟨hn, by omega⟩
  · intro ho _ hwhole hexi
    have hh := header_eq_headerAt hs ho hn
    have hend : frameEnd bytes s.offset < 2147483648 :=
      (hfit (by omega)).resolve_right fun h => h.1 (hh ▸ hexi)
    have hge := frameEnd_ge bytes s.offset
    unfold frameEnd at hend hge
    rw [hh, toInt32_of_small (by omega) hend] at hwhole
    rw [decodeCall, Event.InBounds, hh, toInt32_of_small (by omega) (by omega)]
    omega
  · exact fun _ _ _ => trivial

theorem InLoop.inBounds (hfit : HeadersFit ctx read) {s : FrameLoop (SeccWorld τ)}
    (h : InLoop (seccMessageLayer codec tlsWrite) read ctx world s) :
    0 ≤ s.offset ∧ s.offset ≤ (ctx.recv.pending ++ read).length ∧
      ∀ e ∈ s.events, e.InBounds (ctx.recv.pending ++ read).length := by
  obtain ⟨hr, hl, hv⟩ := h
  have hlen : (ctx.recv.pending ++ read).length = ctx.recv.len + read.length := by simp
  refine (hv.invariant (I := fun u =>
    InLoop (seccMessageLayer codec tlsWrite) read ctx world u ∧ 0 ≤ u.offset ∧
      u.offset ≤ (ctx.recv.pending ++ read).length ∧
      ∀ e ∈ u.events, e.InBounds (ctx.recv.pending ++ read).length)
    ⟨⟨hr, hl, .refl _⟩, le_refl 0, Int.natCast_nonneg _, by simp [loopStart]⟩ ?_).2
  rintro u v ⟨hu, hn, -, hb⟩ huv
  obtain ⟨-, ho, hw, hto⟩ := frameStep_frameEnd hu.recv.1 huv
  have hfits := hfit hr hl u.offset (hu.headerAt (by omega))
  refine ⟨hu.tail huv, ?_, hto ▸ hw, ?_⟩
  · rw [hto]
    exact hfits.next hn ho (by omega)
  · have := frameStep_inBounds (L := seccMessageLayer codec tlsWrite) hu.recv.1 hn
      (fun _ => hfits) hb
    rwa [huv] at this

theorem framingInBounds_of_headersFit (hfit : HeadersFit ctx read) :
    FramingInBounds (seccMessageLayer codec tlsWrite) read ctx world := by
  have hlen : (ctx.recv.pending ++ read).length = ctx.recv.len + read.length := by simp
  constructor
  · intro s hs
    rw [← hlen]
    exact ⟨(hs.inBounds hfit).1, (hs.inBounds hfit).2.1⟩
  · intro fuel e he
    rw [← hlen]
    rcases v2gProcessMessage_events (L := seccMessageLayer codec tlsWrite) fuel read ctx world with
      h | ⟨s, hs, h | h⟩
    · rw [h] at he
      cases he
    · exact (hs.inBounds hfit).2.2 e (h ▸ he)
    · obtain ⟨hn, -, hb⟩ := hs.inBounds hfit
      refine frameStep_inBounds hs.recv.1 hn (fun ho => ?_) hb e (h ▸ he)
      exact hfit hs.1 hs.2.1 s.offset (hs.headerAt (by omega))

end bounds

section termination
variable {τ : Type} {codec : Codec} {tlsWrite : τ → List Byte → ℤ × τ}
  {read : List Byte} {ctx : SeccContext} {world : SeccWorld τ}

theorem rounds_frameStep {ω : Type} {L : MessageLayer ω} {s : FrameLoop ω}
    (ho : s.offset + 8 ≤ s.ctx.recv.len) :
    rounds (eventsAfter (frameStep L s)) =
      rounds s.events + 1 := by
  obtain ⟨ds, ws, he, hds, hws⟩ := frameStep_events (L := L) ho
  have hd : rounds ds = 0 := by
    rcases hds with rfl | ⟨-, -, -, rfl⟩ <;> rfl
  have hw : rounds ws = 0 := by
    refine List.countP_eq_zero.mpr fun e hmem => ?_
    obtain ⟨msgType, response, ret, rfl⟩ := hws e hmem
    simp [Event.isHeader]
  unfold rounds at hd hw ⊢
  rw [he, List.countP_append, List.countP_cons, List.countP_append, hd, hw]
  rfl

theorem frameStep_advances (hfit : PassesFit ctx read) {s t : FrameLoop (SeccWorld τ)}
    (hs : InLoop (seccMessageLayer codec tlsWrite) read ctx world s)
    (h : frameStep (seccMessageLayer codec tlsWrite) s = .inl t) :
    s.offset + 8 ≤ t.offset ∧ t.offset ≤ (ctx.recv.len + read.length : ℕ) := by
  have hlen : (ctx.recv.pending ++ read).length = ctx.recv.len + read.length := by simp
  obtain ⟨hn, ho, hw, hto⟩ := frameStep_frameEnd hs.recv.1 h
  have hend : frameEnd (ctx.recv.pending ++ read) s.offset < 2147483648 :=
    hfit hs.1 hs.2.1 s.offset (hs.headerAt (by omega)) (frameStep_passable hs.recv.1 h)
  have hge := frameEnd_ge (ctx.recv.pending ++ read) s.offset
  rw [hto, ← hlen]
  refine ⟨?_, hw⟩
  rw [toInt32_of_small (by omega) hend]
  exact hge

theorem InLoop.rounds_le (hfit : PassesFit ctx read) {s : FrameLoop (SeccWorld τ)}
    (h : InLoop (seccMessageLayer codec tlsWrite) read ctx world s) :
    8 * (rounds s.events : ℤ) ≤ s.offset ∧ s.offset ≤ (ctx.recv.len + read.length : ℕ) := by
  obtain ⟨hr, hl, hv⟩ := h
  refine (hv.invariant (I := fun u =>
    InLoop (seccMessageLayer codec tlsWrite) read ctx world u ∧
      8 * (rounds u.events : ℤ) ≤ u.offset ∧ u.offset ≤ ((ctx.recv.len + read.length : ℕ) : ℤ))
    ⟨⟨hr, hl, .refl _⟩, le_refl 0, Int.natCast_nonneg _⟩ ?_).2
  rintro u v ⟨hu, hle, -⟩ huv
  obtain ⟨-, ho, -, -⟩ := frameStep_eq_inl huv
  obtain ⟨hadv, htop⟩ := frameStep_advances hfit hu huv
  have hrounds := rounds_frameStep (L := seccMessageLayer codec tlsWrite) ho
  rw [huv, eventsAfter_inl] at hrounds
  refine ⟨hu.tail huv, ?_, htop⟩
  rw [hrounds]
  push_cast
  omega

/-- The state after `n` rounds has read `n` headers. -/
theorem rounds_run {ω : Type} {L : MessageLayer ω} {n : ℕ} {s t : FrameLoop ω}
    (h : Loop.run (frameStep L) n s = .inl t) : rounds t.events = rounds s.events + n := by
  induction n generalizing s with
  | zero =>
    cases h
    rfl
  | succ n ih =>
    cases hs : frameStep L s with
    | inl u =>
      rw [Loop.run_succ_inl hs] at h
      have hrounds := rounds_frameStep (L := L) (frameStep_eq_inl hs).2.1
      rw [hs, eventsAfter_inl] at hrounds
      rw [ih h, hrounds]
      omega
    | inr r =>
      rw [Loop.run_succ_inr hs] at h
      cases h

theorem rounds_le_of_inLoop {ω : Type} {L : MessageLayer ω} {world : ω} {n : ℕ}
    (h : ∀ s, InLoop L read ctx world s → rounds s.events ≤ n ∧
      (s.offset + 8 ≤ ((ctx.recv.len + read.length : ℕ) : ℤ) → rounds s.events + 1 ≤ n))
    (fuel : ℕ) : rounds (v2gProcessMessage L fuel read ctx world).events ≤ n := by
  rcases v2gProcessMessage_events (L := L) fuel read ctx world with he | ⟨s, hs, he | he⟩
  · rw [he]
    exact Nat.zero_le n
  · rw [he]
    exact (h s hs).1
  · rw [he]
    by_cases ho : s.offset + 8 ≤ s.ctx.recv.len
    · rw [rounds_frameStep ho]
      rw [hs.recv.2] at ho
      exact (h s hs).2 ho
    · rw [frameStep_of_end (by omega), eventsAfter_inr, FrameLoop.finish_events]
      exact (h s hs).1

theorem returns_of_rounds_le {ω : Type} {L : MessageLayer ω} {world : ω} {fuel n : ℕ}
    (h : rounds (v2gProcessMessage L fuel read ctx world).events ≤ n) (hfuel : n < fuel) :
    (v2gProcessMessage L fuel read ctx world).exit ≠ .running := by
  unfold v2gProcessMessage at h ⊢
  split_ifs with hr hl
  · simp
  · rw [if_neg hr, dif_pos hl] at h
    cases hrun : Loop.run (frameStep L) fuel (loopStart read ctx world hl) with
    | inl s =>
      -- a loop that goes on has read a header in each of its rounds
      rw [hrun] at h
      have hs : rounds s.events = fuel := (rounds_run hrun).trans (Nat.zero_add fuel)
      change rounds s.events ≤ n at h
      omega
    | inr r =>
      obtain ⟨s, -, hs⟩ := Loop.exists_visited_of_run_inr hrun
      exact frameStep_exit hs
  · simp

theorem frameLoopProgress_of_passesFit (hfit : PassesFit ctx read) :
    FrameLoopProgress (seccMessageLayer codec tlsWrite) read ctx world := by
  have hrounds := @rounds_le_of_inLoop read ctx _ (seccMessageLayer codec tlsWrite) world
    ((ctx.recv.len + read.length) / 8) fun s hs => by
      have := hs.rounds_le hfit
      omega
  refine ⟨?_, hrounds, fun fuel => returns_of_rounds_le (hrounds fuel)⟩
  intro s t hs h
  have := (frameStep_advances hfit hs h).1
  omega

theorem frameStep_increases (hadv : PassesAdvance ctx read) {s t : FrameLoop (SeccWorld τ)}
    (hs : InLoop (seccMessageLayer codec tlsWrite) read ctx world s)
    (h : frameStep (seccMessageLayer codec tlsWrite) s = .inl t) : s.offset < t.offset := by
  have hlen : (ctx.recv.pending ++ read).length = ctx.recv.len + read.length := by simp
  have hmax := hs.2.1
  obtain ⟨hn, ho, -, hto⟩ := frameStep_frameEnd hs.recv.1 h
  have hge := frameEnd_ge (ctx.recv.pending ++ read) s.offset
  have hlt := frameEnd_lt (ctx.recv.pending ++ read) s.offset
  have hend := hadv hs.1 hs.2.1 s.offset (hs.headerAt (by omega)) (frameStep_passable hs.recv.1 h)
  rw [hto]
  rcases hend with hsmall | hwrap
  · rw [toInt32_of_small (by omega) hsmall]
    omega
  · have hbig : 4294967296 + s.offset < frameEnd (ctx.recv.pending ++ read) s.offset := by
      unfold frameEnd
      omega
    rw [toInt32_of_large (by omega) (by omega)]
    omega

def headersBefore (bytes : List Byte) (offset : ℤ) : Set ℤ :=
  {o | HeaderAt bytes o ∧ o < offset}

theorem headersBefore_finite (bytes : List Byte) (offset : ℤ) :
    (headersBefore bytes offset).Finite :=
  (headerAt_finite bytes).subset fun _ h => h.1

theorem ncard_headersBefore_lt {bytes : List Byte} {offset offset' : ℤ}
    (h : HeaderAt bytes offset) (hlt : offset < offset') :
    (headersBefore bytes offset).ncard < (headersBefore bytes offset').ncard := by
  apply Set.ncard_lt_ncard _ (headersBefore_finite bytes offset')
  refine ⟨fun o ho => ⟨ho.1, ho.2.trans hlt⟩, fun hsub => ?_⟩
  exact lt_irrefl offset (hsub ⟨h, hlt⟩).2

theorem InLoop.rounds_le_headersBefore (hadv : PassesAdvance ctx read)
    {s : FrameLoop (SeccWorld τ)} (h : InLoop (seccMessageLayer codec tlsWrite) read ctx world s) :
    rounds s.events ≤ (headersBefore (ctx.recv.pending ++ read) s.offset).ncard := by
  obtain ⟨hr, hl, hv⟩ := h
  refine (hv.invariant (I := fun u =>
    InLoop (seccMessageLayer codec tlsWrite) read ctx world u ∧
      rounds u.events ≤ (headersBefore (ctx.recv.pending ++ read) u.offset).ncard)
    ⟨⟨hr, hl, .refl _⟩, Nat.zero_le _⟩ ?_).2
  rintro u v ⟨hu, hle⟩ huv
  obtain ⟨-, ho, -, -⟩ := frameStep_eq_inl huv
  have hrounds := rounds_frameStep (L := seccMessageLayer codec tlsWrite) ho
  rw [huv, eventsAfter_inl] at hrounds
  rw [hu.recv.2] at ho
  have hlt := ncard_headersBefore_lt (hu.headerAt ho) (frameStep_increases hadv hu huv)
  refine ⟨hu.tail huv, ?_⟩
  omega

theorem frameLoopProgress_of_fewHeaders (hadv : PassesAdvance ctx read)
    (hfew : FewHeaders ctx read) :
    FrameLoopProgress (seccMessageLayer codec tlsWrite) read ctx world := by
  have hrounds := @rounds_le_of_inLoop read ctx _ (seccMessageLayer codec tlsWrite) world
    ((ctx.recv.len + read.length) / 8) fun s hs => by
      have hle := hs.rounds_le_headersBefore hadv
      have hall : ∀ offset, (headersBefore (ctx.recv.pending ++ read) offset).ncard ≤
          (ctx.recv.len + read.length) / 8 := fun offset =>
        (Set.ncard_le_ncard (fun _ ho => ho.1) (headerAt_finite _)).trans (hfew hs.1 hs.2.1)
      refine ⟨hle.trans (hall _), fun ho => ?_⟩
      -- the header at the offset itself is one more
      have hlt := ncard_headersBefore_lt (hs.headerAt ho) (lt_add_one s.offset)
      have := hall (s.offset + 1)
      omega
  exact ⟨fun s t hs h => frameStep_increases hadv hs h, hrounds,
    fun fuel => returns_of_rounds_le (hrounds fuel)⟩

theorem v2gProcessMessage_diverges {ω : Type} {L : MessageLayer ω} {world : ω} {s : FrameLoop ω}
    (hs : InLoop L read ctx world s) (hn : 0 ≤ s.offset) (ho : s.offset + 8 ≤ s.ctx.recv.len)
    (htype : s.header.payloadType ≠ 0x8001)
    (hlength : s.header.payloadLength.toNat = 4294967288) (fuel : ℕ) :
    (v2gProcessMessage L fuel read ctx world).exit = .running := by
  have hstuck : ∀ n, ∃ u, Loop.run (frameStep L) n s = .inl u := by
    refine Loop.run_eq_inl_of_invariant (I := fun u => u.offset = s.offset ∧ u.ctx = s.ctx)
      ⟨rfl, rfl⟩ ?_
    intro u ⟨huo, huc⟩
    have hmax := s.ctx.recv.len_le
    have hh : u.header = s.header := by rw [FrameLoop.header, huo, huc]; rfl
    have hto : toInt32 (u.offset + 8 + u.header.payloadLength.toNat) = u.offset := by
      rw [hh, hlength, toInt32_of_large (by omega) (by omega)]
      omega
    -- the same header again, at the same offset
    refine ⟨(u.log (.header u.offset)).advance u.header, ?_, ?_, huc⟩
    · rw [frameStep_of_header (by rw [huo, huc]; exact ho) (by omega), processFrame,
        toInt32_add_messageLen, FrameLoop.log_offset, FrameLoop.log_ctx, hto,
        if_neg (by rw [huo, huc]; omega), if_pos (hh ▸ htype)]
    · rw [FrameLoop.advance_offset, FrameLoop.log_offset, hto, huo]
  obtain ⟨hr, hl, hv⟩ := hs
  obtain ⟨u, hu⟩ := hv.run_eq_inl hstuck fuel
  rw [v2gProcessMessage, if_neg hr, dif_pos hl, hu]
  rfl

end termination

/-- Every payload is a SessionStopReq, every response is empty. -/
def obligingCodec : Codec where
  decodeAppHandExiDocument _ := (-1, {})
  decodeIso1ExiDocument _ := (0, { v2gMessageIsUsed := true, body := { sessionStopReq := true } })
  encodeAppHandExiDocument stream _ := (0, stream)
  encodeIso1ExiDocument stream _ := (0, stream)
  flush stream := (0, stream)

def obligingLayer : MessageLayer (SeccWorld Unit) :=
  seccMessageLayer obligingCodec fun net _ => (0, net)

def obligingWorld : SeccWorld Unit := ⟨{}, ()⟩

section obliging
variable {read : List Byte} {ctx : SeccContext}

theorem exiDecodeMessage_oblige (st : ExiStatics) (data : List Byte) {len : ℤ} (h : 0 < len) :
    (exiDecodeMessage obligingCodec st data len).1 = .sessionStop := by
  rw [exiDecodeMessage, if_neg (by omega)]
  rfl

theorem respond_oblige (s : FrameLoop (SeccWorld Unit)) (hdr : V2gtpHeader) :
    ∃ t, respond obligingLayer s hdr .sessionStop = .inl t := by
  have hb : (obligingLayer.seccBuildResponse s.world s.ctx.toSeccHead .sessionStop
      responseScratch).1 = 0 := by
    rfl
  simp only [respond]
  rw [if_pos hb, if_neg (by simp [obligingLayer, seccMessageLayer])]
  exact ⟨_, rfl⟩

theorem frameStep_oblige {s : FrameLoop (SeccWorld Unit)} (hn : 0 ≤ s.offset)
    (ho : s.offset + 8 ≤ s.ctx.recv.len)
    (hw : toInt32 (s.offset + 8 + s.header.payloadLength.toNat) ≤ s.ctx.recv.len)
    (hexi : s.header.payloadType = 0x8001 → 0 < toInt32 s.header.payloadLength.toNat) :
    ∃ t, frameStep obligingLayer s = .inl t := by
  rw [frameStep_of_header ho hn, processFrame, toInt32_add_messageLen]
  split_ifs with hinc htype
  · exact absurd hw (not_le.mpr hinc)
  · exact ⟨_, rfl⟩
  · have hpos := hexi (not_not.mp htype)
    have ht : (decodeExi obligingLayer (s.log (.header s.offset)) s.header).1 = .sessionStop := by
      simp only [decodeExi, obligingLayer, seccMessageLayer, exiDecodeMessage_oblige _ _ hpos]
    rw [processExi, ht]
    exact respond_oblige _ _

theorem exists_frameStep_of_pass {s : FrameLoop (SeccWorld Unit)} {bytes : List Byte}
    (hs : s.ctx.recv.pending = bytes) (hn : 0 ≤ s.offset) (ho : s.offset + 8 ≤ bytes.length)
    (hpass : Passable bytes s.offset) (hw : toInt32 (frameEnd bytes s.offset) ≤ bytes.length) :
    ∃ t, frameStep obligingLayer s = .inl t ∧ t.offset = toInt32 (frameEnd bytes s.offset) := by
  have hlen : bytes.length = s.ctx.recv.len := by rw [← hs, RecvBuffer.pending_length]
  have hh := header_eq_headerAt hs (by omega) hn
  obtain ⟨t, ht⟩ := frameStep_oblige hn (by omega) (by rw [hh, ← hlen]; exact hw)
    (by rw [hh]; exact hpass)
  exact ⟨t, ht, (frameStep_frameEnd hs ht).2.2.2⟩

/-- The loop comes to every header, also to one in front of the buffer. -/
theorem exists_inLoop_of_headerAt (hr : read ≠ []) (hl : ctx.recv.len + read.length ≤ 2048)
    {offset : ℤ} (h : HeaderAt (ctx.recv.pending ++ read) offset) :
    offset + 8 ≤ (ctx.recv.pending ++ read).length ∧
      ∃ s, InLoop obligingLayer read ctx obligingWorld s ∧ s.offset = offset := by
  induction h with
  | first h => exact ⟨by omega, _, ⟨hr, hl, .refl _⟩, rfl⟩
  | next hat nonneg pass more ih =>
    obtain ⟨ho, s, hs, rfl⟩ := ih
    obtain ⟨t, ht, hto⟩ := exists_frameStep_of_pass hs.recv.1 nonneg ho pass (by omega)
    exact ⟨more, t, hs.tail ht, hto⟩

theorem decode_outOfBounds {bytes : List Byte} {offset : ℤ}
    (hmax : bytes.length ≤ 2048) (hbig : 2147483648 ≤ frameEnd bytes offset) (data : List Byte) :
    ¬ (Event.decode (offset + 8) (toInt32 (headerAt bytes offset).payloadLength.toNat)
      data).InBounds bytes.length := by
  intro hb
  rw [Event.InBounds] at hb
  have hpl := (headerAt bytes offset).payloadLength.toNat_lt
  by_cases hsmall : ((headerAt bytes offset).payloadLength.toNat : ℤ) < 2147483648
  · rw [toInt32_of_small (by omega) hsmall] at hb
    unfold frameEnd at hbig
    omega
  · rw [toInt32_of_large (by omega) (by omega)] at hb
    omega

theorem headersFit_of_framingInBounds
    (h : FramingInBounds obligingLayer read ctx obligingWorld) : HeadersFit ctx read := by
  intro hr hl offset hat
  obtain ⟨ho, s, hs, rfl⟩ :=
    exists_inLoop_of_headerAt hr hl hat
  have hlen : (ctx.recv.pending ++ read).length = ctx.recv.len + read.length := by simp
  have hn := (h.offset s hs).1
  have hh := header_eq_headerAt hs.recv.1 (by rw [hs.recv.2]; omega) hn
  have hge := frameEnd_ge (ctx.recv.pending ++ read) s.offset
  have hlt := frameEnd_lt (ctx.recv.pending ++ read) s.offset
  by_contra hfit
  unfold HeaderFits at hfit
  push Not at hfit
  obtain ⟨hbig, hskip⟩ := hfit
  have hw : toInt32 (frameEnd (ctx.recv.pending ++ read) s.offset) ≤
      (ctx.recv.pending ++ read).length := by
    rw [toInt32_of_large hbig (by omega)]
    omega
  by_cases htype : (headerAt (ctx.recv.pending ++ read) s.offset).payloadType = 0x8001
  · -- the message is handed to the decoder
    have hcall : decodeCall s s.header ∈
        eventsAfter (frameStep obligingLayer s) := by
      rw [frameStep_of_header (by rw [hs.recv.2]; omega) hn, processFrame,
        toInt32_add_messageLen, if_neg, if_neg (by rw [hh, htype]; decide)]
      · obtain ⟨ws, he, -⟩ := processExi_events (L := obligingLayer)
          (s.log (.header s.offset)) s.header
        rw [he]
        simp [decodeCall]
      · rw [hh, FrameLoop.log_ctx, FrameLoop.log_offset, hs.recv.2]
        unfold frameEnd at hw
        omega
    obtain ⟨fuel, he⟩ := hs.exists_events
    have hb := h.accesses fuel _ (he ▸ hcall)
    rw [decodeCall, hh, ← hlen] at hb
    exact decode_outOfBounds (by omega) hbig _ hb
  · -- the offset turns negative
    obtain ⟨t, ht, hto⟩ := exists_frameStep_of_pass hs.recv.1 hn (by omega)
      (fun hexi => absurd hexi htype) hw
    have := (h.offset t (hs.tail ht)).1
    rw [hto, toInt32_of_large hbig (by omega)] at this
    have := hskip htype
    omega

theorem offset_nonneg_of_frameLoopProgress
    (h : FrameLoopProgress obligingLayer read ctx obligingWorld)
    {s : FrameLoop (SeccWorld Unit)} (hs : InLoop obligingLayer read ctx obligingWorld s) :
    0 ≤ s.offset := by
  obtain ⟨hr, hl, hv⟩ := hs
  refine (hv.invariant (I := fun u =>
    InLoop obligingLayer read ctx obligingWorld u ∧ 0 ≤ u.offset)
    ⟨⟨hr, hl, .refl _⟩, le_refl 0⟩ fun u v hu huv => ?_).2
  have := h.advances u v hu.1 huv
  exact ⟨hu.1.tail huv, by omega⟩

theorem passesAdvance_of_frameLoopProgress
    (h : FrameLoopProgress obligingLayer read ctx obligingWorld) : PassesAdvance ctx read := by
  intro hr hl offset hat hpass
  obtain ⟨ho, s, hs, rfl⟩ := exists_inLoop_of_headerAt hr hl hat
  have hn := offset_nonneg_of_frameLoopProgress h hs
  by_contra hbig
  push Not at hbig
  have hlen : (ctx.recv.pending ++ read).length = ctx.recv.len + read.length := by simp
  have hlt := frameEnd_lt (ctx.recv.pending ++ read) s.offset
  have hw : toInt32 (frameEnd (ctx.recv.pending ++ read) s.offset) ≤
      (ctx.recv.pending ++ read).length := by
    rw [toInt32_of_large hbig.1 (by omega)]
    omega
  obtain ⟨t, ht, hto⟩ := exists_frameStep_of_pass hs.recv.1 hn ho hpass hw
  have := h.advances s t hs ht
  rw [hto, toInt32_of_large hbig.1 (by omega)] at this
  unfold frameEnd at this
  omega

theorem fewHeaders_of_frameLoopProgress
    (h : FrameLoopProgress obligingLayer read ctx obligingWorld) : FewHeaders ctx read := by
  intro hr hl
  have hlen : (ctx.recv.pending ++ read).length = ctx.recv.len + read.length := by simp
  let offsetAt : ℕ → ℤ := fun i => Sum.elim FrameLoop.offset (fun _ => 0)
    (Loop.run (frameStep obligingLayer) i (loopStart read ctx obligingWorld hl))
  have hround : ∀ offset, HeaderAt (ctx.recv.pending ++ read) offset →
      ∃ i < (ctx.recv.len + read.length) / 8, offsetAt i = offset := by
    intro offset hat
    obtain ⟨ho, s, hs, rfl⟩ := exists_inLoop_of_headerAt hr hl hat
    obtain ⟨fuel, he⟩ := hs.exists_events
    obtain ⟨_, _, i, hi⟩ := id hs
    have hle := h.rounds_le fuel
    have hrun := rounds_run hi
    rw [he, rounds_frameStep (by rw [hs.recv.2]; omega), hrun] at hle
    refine ⟨i, ?_, ?_⟩
    · change 0 + i + 1 ≤ _ at hle
      omega
    · change Sum.elim FrameLoop.offset (fun _ => 0) (Loop.run _ i _) = _
      rw [hi]
      rfl
  have hsub : {offset | HeaderAt (ctx.recv.pending ++ read) offset} ⊆
      ((Finset.range ((ctx.recv.len + read.length) / 8)).image offsetAt : Finset ℤ) := by
    intro offset hat
    obtain ⟨i, hi, ho⟩ := hround offset hat
    exact Finset.mem_coe.mpr (Finset.mem_image.mpr ⟨i, Finset.mem_range.mpr hi, ho⟩)
  calc {offset | HeaderAt (ctx.recv.pending ++ read) offset}.ncard
      ≤ ((Finset.range ((ctx.recv.len + read.length) / 8)).image offsetAt).card := by
        rw [← Set.ncard_coe_finset]
        exact Set.ncard_le_ncard hsub (Finset.finite_toSet _)
    _ ≤ (Finset.range ((ctx.recv.len + read.length) / 8)).card := Finset.card_image_le
    _ = (ctx.recv.len + read.length) / 8 := Finset.card_range _

end obliging

/-- Framing stays inside the buffer, whatever the codec and the connection do, if and only if
every header that lengths lead to fits. -/
theorem framing_inBounds_iff (ctx : SeccContext) (read : List Byte) :
    (∀ (τ : Type) (codec : Codec) (tlsWrite : τ → List Byte → ℤ × τ) (world : SeccWorld τ),
      FramingInBounds (seccMessageLayer codec tlsWrite) read ctx world) ↔ HeadersFit ctx read :=
  ⟨fun h => headersFit_of_framingInBounds (h _ _ _ _),
    fun h _ _ _ _ => framingInBounds_of_headersFit h⟩

/-- An EXI header with the payload length 2^31 - 8. -/
def hugeExiHeader : List Byte := [0x01, 0xFE, 0x80, 0x01, 0x7F, 0xFF, 0xFF, 0xF8]

theorem framing_outOfBounds_hugeExiHeader :
    ¬ FramingInBounds obligingLayer hugeExiHeader SeccContext.initial obligingWorld := by
  intro h
  have hfit := headersFit_of_framingInBounds h (by decide) (by decide) 0 (.first (by decide))
  revert hfit
  decide

/-- The loop makes progress, whatever the codec and the connection do, if and only if messages
that can be passed end below 2^31, or some wrap to a length between 1 and 7 and the headers are
few. -/
theorem frameLoop_progress_iff (ctx : SeccContext) (read : List Byte) :
    (∀ (τ : Type) (codec : Codec) (tlsWrite : τ → List Byte → ℤ × τ) (world : SeccWorld τ),
      FrameLoopProgress (seccMessageLayer codec tlsWrite) read ctx world) ↔
        PassesFit ctx read ∨ PassesAdvance ctx read ∧ FewHeaders ctx read := by
  constructor
  · intro h
    have hob : FrameLoopProgress obligingLayer read ctx obligingWorld := h _ _ _ _
    exact .inr ⟨passesAdvance_of_frameLoopProgress hob, fewHeaders_of_frameLoopProgress hob⟩
  · rintro (hfit | ⟨hadv, hfew⟩) τ codec tlsWrite world
    · exact frameLoopProgress_of_passesFit hfit
    · exact frameLoopProgress_of_fewHeaders hadv hfew

/-- A header of another payload type with the payload length 2^32 - 8. -/
def zeroAdvanceHeader : List Byte := [0x01, 0xFE, 0x90, 0x00, 0xFF, 0xFF, 0xFF, 0xF8]

theorem frameLoop_stuck_zeroAdvanceHeader :
    ¬ FrameLoopProgress obligingLayer zeroAdvanceHeader SeccContext.initial obligingWorld ∧
      ∀ fuel, (v2gProcessMessage obligingLayer fuel zeroAdvanceHeader SeccContext.initial
        obligingWorld).exit = .running := by
  constructor
  · intro h
    have hadv := passesAdvance_of_frameLoopProgress h (by decide) (by decide) 0 (.first (by decide))
    revert hadv
    decide
  · have hs : InLoop obligingLayer zeroAdvanceHeader SeccContext.initial obligingWorld
        (loopStart zeroAdvanceHeader SeccContext.initial obligingWorld (by decide)) :=
      ⟨by decide, by decide, .refl _⟩
    exact v2gProcessMessage_diverges hs (by decide) (by decide) (by decide) (by decide)

end EvseIso15118
