import EvseIso15118.BufferEchoes
import EvseIso15118.SessionLayout

namespace EvseIso15118

open StructLayout

def appendedBytes (read : List Byte) (ctx : SeccContext) : List Byte :=
  if read ≠ [] ∧ ctx.recv.len + read.length ≤ 2048 then
    overwrite ctx.recv.bytes ctx.recv.len read
  else ctx.recv.bytes

section call
variable {ω : Type} {L : MessageLayer ω}

/-- The call moves bytes to the front. -/
def Moves (read : List Byte) (ctx : SeccContext) (r : CallResult ω) : Prop :=
  r.exit = .done ∧ 0 < r.ctx.recv.len ∧ r.ctx.recv.len < ctx.recv.len + read.length

instance (read : List Byte) (ctx : SeccContext) (r : CallResult ω) :
    Decidable (Moves read ctx r) := by
  unfold Moves
  infer_instance

theorem FrameLoop.finish_bytes (s : FrameLoop ω) :
    s.finish.ctx.recv.bytes =
      if 0 < s.finish.ctx.recv.len ∧ s.finish.ctx.recv.len < s.ctx.recv.len then
        overwrite s.ctx.recv.bytes 0 s.finish.ctx.recv.pending
      else s.ctx.recv.bytes := by
  by_cases hmove : 0 < s.offset ∧ s.offset < s.ctx.recv.len
  · have hlen : (s.ctx.recv.shift s.offset.toNat).len = s.ctx.recv.len - s.offset.toNat := rfl
    rw [FrameLoop.finish, if_pos hmove]
    dsimp only
    rw [if_pos (by omega), RecvBuffer.pending_shift, RecvBuffer.pending, List.drop_take]
    rfl
  · by_cases hend : s.ctx.recv.len ≤ s.offset
    · rw [FrameLoop.finish, if_neg hmove, if_pos hend]
      exact (if_neg fun h => absurd h.1 (lt_irrefl 0)).symm
    · rw [FrameLoop.finish, if_neg hmove, if_neg hend]
      exact (if_neg fun h => absurd h.2 (lt_irrefl _)).symm

/-- The array after a call: appended to and, in a call that moves, its front overwritten. -/
theorem v2gProcessMessage_bytes (fuel : ℕ) (read : List Byte) (ctx : SeccContext) (world : ω) :
    let r := v2gProcessMessage L fuel read ctx world
    r.ctx.recv.bytes =
      if Moves read ctx r then overwrite (appendedBytes read ctx) 0 r.ctx.recv.pending
      else appendedBytes read ctx := by
  intro r
  -- without a move the array is the one appended to
  have hstay : r.exit ≠ .done → r.ctx.recv.bytes = appendedBytes read ctx →
      r.ctx.recv.bytes =
        if Moves read ctx r then overwrite (appendedBytes read ctx) 0 r.ctx.recv.pending
        else appendedBytes read ctx := by
    intro hexit hbytes
    rw [if_neg fun hmoves => hexit hmoves.1, hbytes]
  rcases v2gProcessMessage_cases (L := L) fuel read ctx world with
    ⟨hnil, hr⟩ | ⟨hfull, hr⟩ | ⟨s, hs, hr⟩
  · apply hstay
    · rw [show r = _ from hr]
      exact (by decide : Exit.readFailed ≠ .done)
    · rw [show r = _ from hr, appendedBytes, if_neg fun h => h.1 hnil]
  · apply hstay
    · rw [show r = _ from hr]
      exact (by decide : Exit.overflow ≠ .done)
    · rw [show r = _ from hr, appendedBytes, if_neg fun h => absurd h.2 (not_le.mpr hfull)]
      rfl
  · rcases hs.recv_eq with ⟨hl, hrecv⟩
    have happended : appendedBytes read ctx = s.ctx.recv.bytes := by
      rw [hrecv]
      exact if_pos ⟨hs.1, hl⟩
    rcases hr with hr | hr
    · apply hstay
      · rw [show r = _ from hr]
        exact (by decide : Exit.running ≠ .done)
      · rw [show r = _ from hr, happended]
        rfl
    · rcases frameStep_leaves rfl hr with
        ⟨-, hexit, hfinish⟩ | ⟨-, -, hexit, hclear⟩ | ⟨-, hexit, hsame⟩
      · -- the call returns 0: what `finish` leaves is the move, if there is one
        have hfin := s.finish_bytes
        rw [← hfinish, ← happended, hrecv, RecvBuffer.push_len] at hfin
        rw [show r.ctx.recv.bytes = _ from hfin]
        unfold Moves
        simp only [show r.exit = .done from hexit, true_and]
        rfl
      · apply hstay
        · rcases hexit with he | he <;> rw [show r.exit = _ from he] <;> decide
        · rw [happended, show r.ctx.recv = _ from hclear, RecvBuffer.clear_bytes]
      · apply hstay
        · rw [show r.exit = _ from hexit]
          exact (by decide : Exit.undefined ≠ .done)
        · rw [happended, show r.ctx.recv = _ from hsame]

end call

/-- How an `int` is stored, different values in different bytes. -/
structure IntLayout where
  bytes : ℤ → Octets 4
  injective : Set.InjOn bytes (Set.Icc (-2147483648) 2147483647)

instance : CoeFun IntLayout fun _ => ℤ → Octets 4 := ⟨IntLayout.bytes⟩

section writes
variable {ω : Type} (repr : IntLayout)

/-- The assignment of a four-byte member of `secc_context_t`. -/
def intWrite (field : SessionField) (n : ℤ) : Write Byte :=
  ⟨contextOffset field, List.ofFn (repr n)⟩

/-- The `memcpy` of the bytes read. -/
def appendWrites (read : List Byte) (ctx : SeccContext) : List (Write Byte) :=
  if read ≠ [] ∧ ctx.recv.len + read.length ≤ 2048 then
    [⟨contextOffset .recvBuffer + ctx.recv.len, read⟩]
  else []

/-- The `memmove` of the bytes that remain. -/
def moveWrites (read : List Byte) (ctx : SeccContext) (r : CallResult ω) : List (Write Byte) :=
  if Moves read ctx r then [⟨contextOffset .recvBuffer, r.ctx.recv.pending⟩] else []

/-- The writes of a call, `state` and `recv_buffer_len` with their last values. -/
def contextWrites (read : List Byte) (ctx : SeccContext) (r : CallResult ω) : List (Write Byte) :=
  appendWrites read ctx ++
    ([intWrite repr .state r.ctx.state.ctorIdx, intWrite repr .recvBufferLen r.ctx.recv.len] ++
      moveWrites read ctx r)

/-- What the context view of the memory holds. -/
structure ContextView (image : ℕ → Byte) (ctx : SeccContext) : Prop where
  buffer : ∀ i < 2048, image (contextOffset .recvBuffer + i) = byteAt ctx.recv.bytes i
  len : ∀ i : Fin 4, image (contextOffset .recvBufferLen + i) = repr ctx.recv.len i
  state : ∀ i : Fin 4, image (contextOffset .state + i) = repr ctx.state.ctorIdx i

variable {repr}

theorem contextOffset_recvBuffer : contextOffset .recvBuffer = 28 := rfl

theorem contextOffset_recvBufferLen : contextOffset .recvBufferLen = 2076 := rfl

theorem contextOffset_state : contextOffset .state = 4 := rfl

theorem buffer_apply {image : ℕ → Byte} {bs c : List Byte} {off : ℕ} (hbs : bs.length = 2048)
    (hfit : off + c.length ≤ 2048) (h : ∀ i < 2048, image (28 + i) = byteAt bs i) :
    ∀ i < 2048, (⟨28 + off, c⟩ : Write Byte).apply image (28 + i) =
      byteAt (overwrite bs off c) i := by
  intro i hi
  rw [byteAt_overwrite (by omega)]
  split_ifs with hin
  · obtain ⟨k, rfl⟩ := Nat.exists_eq_add_of_le hin.1
    have hk : k < c.length := by omega
    have hw := (⟨28 + off, c⟩ : Write Byte).apply_inside image hk
    rw [← Nat.add_assoc, hw, Nat.add_sub_cancel_left, byteAt_of_lt hk]
  · rw [Write.apply_outside _ _ (show 28 + i < 28 + off ∨ 28 + off + c.length ≤ 28 + i by omega),
      h i hi]

theorem apply_intWrite {image : ℕ → Byte} {field : SessionField} {n : ℤ} {i : ℕ}
    (h : i < contextOffset field ∨ contextOffset field + 4 ≤ i) :
    (intWrite repr field n).apply image i = image i :=
  Write.apply_outside _ _ (by simpa [intWrite] using h)

theorem apply_intWrite_self (image : ℕ → Byte) (field : SessionField) (n : ℤ) (i : Fin 4) :
    (intWrite repr field n).apply image (contextOffset field + i) = repr n i := by
  have hi : i.val < (intWrite repr field n).bytes.length := by simp [intWrite]
  have hw := (intWrite repr field n).apply_inside image hi
  rw [show (intWrite repr field n).address = contextOffset field from rfl] at hw
  rw [hw]
  exact List.getElem_ofFn _

section view
variable {image : ℕ → Byte} {ctx : SeccContext}

theorem appendWrites_buffer (read : List Byte) (h : ContextView repr image ctx) :
    ∀ i < 2048, Write.applyAll (appendWrites read ctx) image (28 + i) =
      byteAt (appendedBytes read ctx) i := by
  unfold appendWrites appendedBytes
  split_ifs with hfit
  · exact buffer_apply ctx.recv.bytes_length hfit.2 h.buffer
  · exact h.buffer

theorem rewrites_buffer_iff {bs src : List Byte} {off : ℕ} (hfit : off + src.length ≤ 2048)
    (h : ∀ i < 2048, image (28 + i) = byteAt bs i) :
    (⟨28 + off, src⟩ : Write Byte).Rewrites 32 79 image ↔
      ∀ i < src.length, 4 ≤ off + i → off + i < 51 → byteAt src i = byteAt bs (off + i) := by
  have hat : ∀ i (hi : i < src.length), src[i] = image (28 + off + i) ↔
      byteAt src i = byteAt bs (off + i) := by
    intro i hi
    rw [byteAt_of_lt hi, Nat.add_assoc, h (off + i) (by omega)]
  constructor
  · intro hw i hi h4 h51
    exact (hat i hi).mp (hw i hi (show 32 ≤ 28 + off + i by omega)
      (show 28 + off + i < 79 by omega))
  · intro hsrc i hi h32 h79
    have h32 : 32 ≤ 28 + off + i := h32
    have h79 : 28 + off + i < 79 := h79
    exact (hat i hi).mpr (hsrc i hi (by omega) (by omega))

def SparesAll : (ℕ → Byte) → List (Write Byte) → Prop
  | _, [] => True
  | image, w :: ws => SparesSlac image w ∧ SparesAll (w.apply image) ws

theorem sparesAll_append (image : ℕ → Byte) (ws vs : List (Write Byte)) :
    SparesAll image (ws ++ vs) ↔
      SparesAll image ws ∧ SparesAll (Write.applyAll ws image) vs := by
  induction ws generalizing image with
  | nil => exact (and_iff_right trivial).symm
  | cons w ws ih =>
    rw [List.cons_append, SparesAll, SparesAll, ih, Write.applyAll_cons, and_assoc]

theorem sparesSlac_intWrite (image : ℕ → Byte) {field : SessionField} (n : ℤ)
    (h : contextOffset field + 4 ≤ 32 ∨ 79 ≤ contextOffset field) :
    SparesSlac image (intWrite repr field n) := by
  rw [sparesSlac_iff]
  intro i hi h32 h79
  have hi : i < 4 := by simpa [intWrite] using hi
  have h32 : 32 ≤ contextOffset field + i := h32
  have h79 : contextOffset field + i < 79 := h79
  omega

variable (L : MessageLayer ω) (fuel : ℕ) (read : List Byte) (world : ω)

/-- `state` and `recv_buffer_len` are outside the receive buffer. -/
theorem intWrites_buffer (image : ℕ → Byte) (n m : ℤ) {i : ℕ} (hi : i < 2048) :
    Write.applyAll [intWrite repr .state n, intWrite repr .recvBufferLen m] image (28 + i) =
      image (28 + i) := by
  rw [Write.applyAll_cons, Write.applyAll_cons]
  change (intWrite repr .recvBufferLen m).apply _ _ = _
  rw [apply_intWrite (by rw [contextOffset_recvBufferLen]; omega),
    apply_intWrite (by rw [contextOffset_state]; omega)]

theorem assigned_buffer (h : ContextView repr image ctx) (n m : ℤ) :
    ∀ i < 2048, Write.applyAll [intWrite repr .state n, intWrite repr .recvBufferLen m]
        (Write.applyAll (appendWrites read ctx) image) (28 + i) =
      byteAt (appendedBytes read ctx) i := by
  intro i hi
  rw [intWrites_buffer _ n m hi]
  exact appendWrites_buffer read h i hi

theorem appendedBytes_length (ctx : SeccContext) : (appendedBytes read ctx).length = 2048 := by
  unfold appendedBytes
  split_ifs with hfit
  · rw [overwrite_length (by rw [ctx.recv.bytes_length]; exact hfit.2), ctx.recv.bytes_length]
  · exact ctx.recv.bytes_length

theorem pending_fits (r : CallResult ω) : 0 + r.ctx.recv.pending.length ≤ 2048 := by
  rw [Nat.zero_add, RecvBuffer.pending_length]
  exact r.ctx.recv.len_le

theorem contextView_contextWrites (h : ContextView repr image ctx) :
    let r := v2gProcessMessage L fuel read ctx world
    ContextView repr (Write.applyAll (contextWrites repr read ctx r) image) r.ctx := by
  intro r
  have hbytes : r.ctx.recv.bytes = _ := v2gProcessMessage_bytes (L := L) fuel read ctx world
  have hbuffer := assigned_buffer read h r.ctx.state.ctorIdx r.ctx.recv.len
  rw [contextWrites, Write.applyAll_append, Write.applyAll_append]
  set image' := Write.applyAll [intWrite repr .state r.ctx.state.ctorIdx,
    intWrite repr .recvBufferLen r.ctx.recv.len]
    (Write.applyAll (appendWrites read ctx) image) with himage
  -- a move stays inside the array, and the array ends in front of the length
  have houtside : ∀ i, i < 28 ∨ 2076 ≤ i →
      Write.applyAll (moveWrites read ctx r) image' i = image' i := by
    intro i hi
    have hlen := pending_fits r
    unfold moveWrites
    split_ifs
    · exact Write.apply_outside _ _ (show i < 28 ∨ 28 + r.ctx.recv.pending.length ≤ i by omega)
    · rfl
  refine ⟨?_, ?_, ?_⟩
  · rw [hbytes]
    unfold moveWrites
    split_ifs
    · exact buffer_apply (appendedBytes_length read ctx) (pending_fits r) hbuffer
    · exact hbuffer
  · intro i
    rw [houtside _ (by rw [contextOffset_recvBufferLen]; omega), himage]
    exact apply_intWrite_self _ _ _ i
  · intro i
    rw [houtside _ (by rw [contextOffset_state]; omega), himage, Write.applyAll_cons,
      Write.applyAll_cons]
    change (intWrite repr .recvBufferLen r.ctx.recv.len).apply _ _ = _
    rw [apply_intWrite (by rw [contextOffset_state, contextOffset_recvBufferLen]; omega)]
    exact apply_intWrite_self _ _ _ i

theorem contextWrites_above (r : CallResult ω) {i : ℕ} (hi : 2080 ≤ i) :
    Write.applyAll (contextWrites repr read ctx r) image i = image i := by
  have hmove := pending_fits r
  have hassign : ∀ m : ℕ → Byte, Write.applyAll [intWrite repr .state r.ctx.state.ctorIdx,
      intWrite repr .recvBufferLen r.ctx.recv.len] m i = m i := by
    intro m
    rw [Write.applyAll_cons, Write.applyAll_cons]
    change (intWrite repr .recvBufferLen r.ctx.recv.len).apply _ _ = _
    rw [apply_intWrite (by rw [contextOffset_recvBufferLen]; omega),
      apply_intWrite (by rw [contextOffset_state]; omega)]
  rw [contextWrites, Write.applyAll_append, Write.applyAll_append]
  have happend : Write.applyAll (appendWrites read ctx) image i = image i := by
    unfold appendWrites
    split_ifs with hfit
    · exact Write.apply_outside _ _ (.inr (show 28 + ctx.recv.len + read.length ≤ i by omega))
    · rfl
  unfold moveWrites
  split_ifs
  · rw [Write.applyAll_cons]
    change Write.apply _ _ _ = _
    rw [Write.apply_outside _ _ (.inr (show 28 + r.ctx.recv.pending.length ≤ i by omega)), hassign,
      happend]
  · exact (hassign _).trans happend

theorem appendedBytes_of_keeps
    (hkeep : (v2gProcessMessage L fuel read ctx world).ctx.recv = ctx.recv) :
    appendedBytes read ctx = ctx.recv.bytes := by
  by_cases hfit : read ≠ [] ∧ ctx.recv.len + read.length ≤ 2048
  · rw [appendedBytes, if_pos hfit,
      overwrite_eq_self_iff (by rw [ctx.recv.bytes_length]; exact ctx.recv.len_le)]
    exact (keeps_cases hfit.1 hfit.2 hkeep).1
  · exact if_neg hfit

theorem sparesAll_of_keeps (h : ContextView repr image ctx)
    (hkeep : (v2gProcessMessage L fuel read ctx world).ctx.recv = ctx.recv) :
    SparesAll image
      (contextWrites repr read ctx (v2gProcessMessage L fuel read ctx world)) := by
  set r := v2gProcessMessage L fuel read ctx world
  have happended := appendedBytes_of_keeps L fuel read world hkeep
  have hbuffer := assigned_buffer read h r.ctx.state.ctorIdx r.ctx.recv.len
  rw [happended] at hbuffer
  rw [contextWrites, sparesAll_append, sparesAll_append]
  refine ⟨?_, ⟨?_, ?_, trivial⟩, ?_⟩
  · unfold appendWrites
    split_ifs with hfit
    · have hsame := (keeps_cases hfit.1 hfit.2 hkeep).1
      refine ⟨?_, trivial⟩
      rw [sparesSlac_iff]
      refine (rewrites_buffer_iff hfit.2 h.buffer).mpr fun i hi _ _ => ?_
      conv_lhs => rw [← hsame]
      rw [byteAt_take hi, byteAt_drop]
    · trivial
  · exact sparesSlac_intWrite _ _ (.inl (by decide))
  · exact sparesSlac_intWrite _ _ (.inr (by decide))
  · unfold moveWrites
    split_ifs
    · refine ⟨?_, trivial⟩
      rw [sparesSlac_iff]
      refine (rewrites_buffer_iff (pending_fits r) hbuffer).mpr fun i hi _ _ => ?_
      rw [RecvBuffer.pending_length] at hi
      rw [Nat.zero_add, RecvBuffer.pending, byteAt_take hi, hkeep]
    · trivial

theorem image_eq_of_recv_eq {image' : ℕ → Byte} {ctx' : SeccContext}
    (h : ContextView repr image ctx) (h' : ContextView repr image' ctx')
    (habove : ∀ i, 2080 ≤ i → image' i = image i) (hrecv : ctx'.recv = ctx.recv) :
    ∀ i, 28 ≤ i → image' i = image i := by
  intro i hi
  by_cases hbuf : i < 2076
  · have hbyte := h'.buffer (i - 28) (by omega)
    rw [hrecv, ← h.buffer (i - 28) (by omega)] at hbyte
    change image' (28 + (i - 28)) = image (28 + (i - 28)) at hbyte
    rwa [Nat.add_sub_cancel' hi] at hbyte
  by_cases hlen : i < 2080
  · have hbyte := h'.len ⟨i - 2076, by omega⟩
    rw [hrecv, ← h.len ⟨i - 2076, by omega⟩] at hbyte
    change image' (2076 + (i - 2076)) = image (2076 + (i - 2076)) at hbyte
    rwa [Nat.add_sub_cancel' (by omega)] at hbyte
  · exact habove i (by omega)

theorem recv_eq_of_repeats {image' : ℕ → Byte} {ctx' : SeccContext}
    (h : ContextView repr image ctx) (h' : ContextView repr image' ctx')
    (habove : ∀ i, 2080 ≤ i → image' i = image i) (hrepeats : Repeats image)
    (hrepeats' : Repeats image') : ctx'.recv = ctx.recv := by
  -- the session's copy of the length is out of reach, so the length is the same
  have hlen : ∀ i : Fin 4, image' (2076 + i) = image (2076 + i) := by
    intro i
    rw [← hrepeats.2 i i.isLt, ← hrepeats'.2 i i.isLt, habove _ (by omega)]
  have hbounds := ctx'.recv.len_le
  have hbounds' := ctx.recv.len_le
  have hlen' : ctx'.recv.len = ctx.recv.len := by
    have hrepr : repr ctx'.recv.len = repr ctx.recv.len := by
      funext i
      rw [← h'.len i, ← h.len i]
      exact hlen i
    have := repr.injective ⟨by omega, by omega⟩ ⟨by omega, by omega⟩ hrepr
    omega
  -- and the bytes repeat up to where nothing is written
  have hsame := hrepeats.eq_of_end hrepeats' fun i hi _ => by
    by_cases hi' : i < 2080
    · have := hlen ⟨i - 2076, by omega⟩
      rwa [show 2076 + (i - 2076) = i by omega] at this
    · exact habove i (by omega)
  apply RecvBuffer.ext _ hlen'
  apply List.ext_getElem (by rw [ctx'.recv.bytes_length, ctx.recv.bytes_length])
  intro i hi hi'
  have hi28 : i < 2048 := by rwa [ctx'.recv.bytes_length] at hi
  rw [← byteAt_of_lt hi, ← byteAt_of_lt hi', ← h'.buffer i hi28, ← h.buffer i hi28]
  exact hsame _ (Nat.le_add_right _ _) (show 28 + i < 2127 by omega)

/-- Both views agree before and after a call exactly if it leaves the receive buffer as it was. -/
theorem call_agrees_iff (h : ContextView repr image ctx) (hfields : FieldsAgree image) :
    SparesAll image
        (contextWrites repr read ctx (v2gProcessMessage L fuel read ctx world)) ∧
      FieldsAgree (Write.applyAll
        (contextWrites repr read ctx (v2gProcessMessage L fuel read ctx world)) image) ↔
      (v2gProcessMessage L fuel read ctx world).ctx.recv = ctx.recv := by
  have hview := contextView_contextWrites L fuel read world h
  set r := v2gProcessMessage L fuel read ctx world
  set image' := Write.applyAll (contextWrites repr read ctx r) image
  have habove : ∀ i, 2080 ≤ i → image' i = image i := fun i hi => contextWrites_above read r hi
  rw [fieldsAgree_iff] at hfields ⊢
  constructor
  · rintro ⟨-, hfields'⟩
    exact recv_eq_of_repeats h hview habove hfields hfields'
  · intro hkeep
    have hsame : ∀ i, 28 ≤ i → image' i = image i := image_eq_of_recv_eq h hview habove hkeep
    refine ⟨sparesAll_of_keeps L fuel read world h hkeep, fun i hi => ?_, fun i hi => ?_⟩
    · rw [hsame _ (by omega), hsame _ (by omega), hfields.1 i hi]
    · rw [hsame _ (by omega), hsame _ (by omega), hfields.2 i hi]

end view

section run
variable (repr) (L : MessageLayer ω) (fuel : ℕ)

/-- Before and after every call of a run both views agree, and its writes leave the members of
SLAC as they are; the run goes on, also after failed calls, as long as they return. -/
def RunAgrees : (ℕ → Byte) → List (List Byte) → SeccContext → ω → Prop
  | image, [], _, _ => FieldsAgree image
  | image, c :: cs, ctx, world =>
    let r := v2gProcessMessage L fuel c ctx world
    let writes := contextWrites repr c ctx r
    FieldsAgree image ∧ (SparesAll image writes ∧ FieldsAgree (Write.applyAll writes image)) ∧
      (r.exit.ret ≠ none → RunAgrees (Write.applyAll writes image) cs r.ctx r.world)

variable {repr L fuel}

theorem RunAgrees.fieldsAgree {image : ℕ → Byte} {reads : List (List Byte)} {ctx : SeccContext}
    {world : ω} (h : RunAgrees repr L fuel image reads ctx world) : FieldsAgree image := by
  cases reads with
  | nil => exact h
  | cons c cs => exact h.1

theorem runAgrees_of_keeps {P : RecvBuffer → List Byte → Prop}
    (hcall : ∀ c (ctx : SeccContext) world, P ctx.recv c →
      (v2gProcessMessage L fuel c ctx world).ctx.recv = ctx.recv)
    {image : ℕ → Byte} {reads : List (List Byte)} {ctx : SeccContext} {world : ω}
    (hview : ContextView repr image ctx) (hfields : FieldsAgree image)
    (hreads : ∀ c ∈ reads, P ctx.recv c) : RunAgrees repr L fuel image reads ctx world := by
  induction reads generalizing image ctx world with
  | nil => exact hfields
  | cons c cs ih =>
    obtain ⟨hc, hcs⟩ := List.forall_mem_cons.mp hreads
    have hkeep := hcall c ctx world hc
    have hagree := (call_agrees_iff L fuel c world hview hfields).mpr hkeep
    refine ⟨hfields, hagree, fun _ => ?_⟩
    exact ih (contextView_contextWrites L fuel c world hview) hagree.2 (by rw [hkeep]; exact hcs)

theorem RunAgrees.forall_reads {P : RecvBuffer → List Byte → Prop}
    (hcall : ∀ c (ctx : SeccContext) world,
      (v2gProcessMessage L fuel c ctx world).ctx.recv = ctx.recv → P ctx.recv c)
    {image : ℕ → Byte} {reads : List (List Byte)} {ctx : SeccContext} {world : ω}
    (hview : ContextView repr image ctx) (h : RunAgrees repr L fuel image reads ctx world) :
    ∀ c ∈ reads, P ctx.recv c := by
  induction reads generalizing image ctx world with
  | nil => exact List.forall_mem_nil _
  | cons c cs ih =>
    obtain ⟨hfields, hagree, hrest⟩ := h
    have hkeep := (call_agrees_iff L fuel c world hview hfields).mp hagree
    have hcs := ih (contextView_contextWrites L fuel c world hview) (hrest (ret_of_keeps hkeep))
    rw [hkeep] at hcs
    exact List.forall_mem_cons.mpr ⟨hcall c ctx world hkeep, hcs⟩

end run

/-- Whatever codec and connection do, both views agree throughout a run and the members of SLAC
stay as they are exactly if the image repeats itself and every read echoes the buffer. -/
theorem layouts_agree_iff {image : ℕ → Byte} {reads : List (List Byte)} {ctx : SeccContext}
    {fuel : ℕ} (hfuel : 2048 < fuel) (h : ContextView repr image ctx) :
    (∀ (τ : Type) (codec : Codec) (tlsWrite : τ → List Byte → ℤ × τ) (world : SeccWorld τ),
      RunAgrees repr (seccMessageLayer codec tlsWrite) fuel image reads ctx world) ↔
        Repeats image ∧ ∀ c ∈ reads, Echoes ctx.recv c := by
  constructor
  · intro hrun
    have hobliging : RunAgrees repr obligingLayer fuel image reads ctx obligingWorld :=
      hrun Unit _ _ _
    have hrefusing : RunAgrees repr refusingLayer fuel image reads ctx obligingWorld :=
      hrun Unit _ _ _
    refine ⟨(fieldsAgree_iff image).mp hobliging.fieldsAgree, fun c hc => ?_⟩
    rcases Nat.eq_zero_or_pos ctx.recv.len with hlen | hlen
    · exact hobliging.forall_reads (P := fun recv c => recv.len = 0 → Echoes recv c)
        (fun _ _ _ hkeep hlen => echoes_of_obliging hlen hkeep) h c hc hlen
    · exact hrefusing.forall_reads (P := fun recv c => 0 < recv.len → Echoes recv c)
        (fun _ _ _ hkeep hlen => echoes_of_refusing hlen hkeep) h c hc hlen
  · rintro ⟨hrepeats, hreads⟩ τ codec tlsWrite world
    exact runAgrees_of_keeps (P := Echoes)
      (fun _ _ world hecho => recv_eq_of_echoes hfuel world hecho)
      h ((fieldsAgree_iff image).mpr hrepeats) hreads

end writes

def littleEndianBytes (n : ℤ) : Octets 4 := fun i => UInt8.ofNat (n / 256 ^ i.val % 256).toNat

theorem littleEndianBytes_injOn :
    Set.InjOn littleEndianBytes (Set.Icc (-2147483648) 2147483647) := by
  rintro n ⟨hn, hn'⟩ m ⟨hm, hm'⟩ h
  have hbyte : ∀ i : Fin 4, n / 256 ^ i.val % 256 = m / 256 ^ i.val % 256 := by
    intro i
    have hi : (UInt8.ofNat (n / 256 ^ i.val % 256).toNat).toNat =
        (UInt8.ofNat (m / 256 ^ i.val % 256).toNat).toNat := congrArg UInt8.toNat (congrFun h i)
    rw [UInt8.toNat_ofNat', UInt8.toNat_ofNat'] at hi
    omega
  have h0 : n / 1 % 256 = m / 1 % 256 := hbyte 0
  have h1 : n / 256 % 256 = m / 256 % 256 := hbyte 1
  have h2 : n / 65536 % 256 = m / 65536 % 256 := hbyte 2
  have h3 : n / 16777216 % 256 = m / 16777216 % 256 := hbyte 3
  omega

def littleEndian : IntLayout := ⟨littleEndianBytes, littleEndianBytes_injOn⟩

/-- A frame of 51 bytes with a payload type that is skipped. Behind its header stand the bytes of
the length 20, then those from 1 to 39. -/
def echoFrame : List Byte :=
  [0x01, 0xFE, 0x90, 0x00, 0x00, 0x00, 0x00, 0x2B, 0x14, 0x00, 0x00, 0x00] ++
    (List.range 39).map fun i => UInt8.ofNat (i + 1)

def echoBuffer : List Byte := (List.range 2048).map fun i => byteAt echoFrame (i % 51)

theorem echoBuffer_length : echoBuffer.length = 2048 := by
  rw [echoBuffer, List.length_map, List.length_range]

theorem byteAt_echoBuffer {i : ℕ} (h : i < 2048) :
    byteAt echoBuffer i = byteAt echoFrame (i % 51) := by
  rw [byteAt_of_lt (by rw [echoBuffer_length]; exact h)]
  simp [echoBuffer]

/-- In session setup, with 20 bytes of the frame pending. -/
def echoContext : SeccContext :=
  { SeccContext.initial with
    state := .sessionSetup
    recv := ⟨echoBuffer, 20, echoBuffer_length, Nat.le_of_ble_eq_true rfl⟩ }

theorem echoContext_bytes : echoContext.recv.bytes = echoBuffer := by
  rw [echoContext]

/-- The frame over and over, and the state and the two lengths. -/
def echoImage (i : ℕ) : Byte :=
  if i < 28 then if i = 4 then 6 else 0
  else if i < 2127 then byteAt echoFrame ((i - 28) % 51)
  else byteAt echoFrame (i - 2120)

theorem contextView_echoImage : ContextView littleEndian echoImage echoContext := by
  constructor
  · intro i hi
    rw [contextOffset_recvBuffer, echoImage, if_neg (by omega), if_pos (by omega),
      Nat.add_sub_cancel_left, echoContext_bytes, byteAt_echoBuffer hi]
  · decide +kernel
  · decide +kernel

theorem repeats_echoImage : Repeats echoImage := by
  constructor
  · intro i hi
    rw [echoImage, echoImage, if_neg (by omega), if_pos (by omega), if_neg (by omega),
      if_pos (by omega), show (79 + i - 28) % 51 = (28 + i - 28) % 51 by omega]
  · decide +kernel

/-- The rest of the frame and its beginning again, at first once, then with a frame between. -/
def echoReads : List (List Byte) :=
  [echoFrame.drop 20 ++ echoFrame.take 20, echoFrame.drop 20 ++ echoFrame ++ echoFrame.take 20]

theorem echoes_echoReads : ∀ c ∈ echoReads, Echoes echoContext.recv c := by
  rw [echoReads, List.forall_mem_cons, List.forall_mem_singleton]
  refine ⟨.shifted (by decide) (by decide +kernel) (.single ?_) ?_ ?_,
    .shifted (by decide) (by decide +kernel) (.tail (b := 51) (.single ?_) ?_) ?_ ?_⟩
  all_goals decide +kernel

theorem layouts_agree_iff_echoReads :
    RunAgrees littleEndian obligingLayer 2049 echoImage echoReads echoContext obligingWorld :=
  (layouts_agree_iff (by decide) contextView_echoImage).mpr
    ⟨repeats_echoImage, echoes_echoReads⟩ Unit obligingCodec (fun net _ => (0, net)) obligingWorld

/-- A request of ten bytes; bytes 4 to 9 of it come to lie on `slac_ctx`. -/
def tenBytes : List Byte := [0x01, 0xFE, 0x80, 0x01, 0x00, 0x00, 0x00, 0x02, 0x80, 0x9A]

def zeroImage : ℕ → Byte := fun _ => 0

theorem contextView_zeroImage : ContextView littleEndian zeroImage .initial := by
  refine ⟨fun i hi => ?_, by decide, by decide⟩
  have hlen : i < (List.replicate 2048 (0 : Byte)).length := by
    rw [List.length_replicate]
    exact hi
  exact ((byteAt_of_lt hlen).trans (List.getElem_replicate hlen)).symm

theorem slacCtx_overwritten_tenBytes :
    let writes := contextWrites littleEndian tenBytes .initial
      (v2gProcessMessage obligingLayer 2049 tenBytes .initial obligingWorld)
    ContextView littleEndian zeroImage .initial ∧ ¬ SparesAll zeroImage writes ∧
      ¬ FieldsAgree (Write.applyAll writes zeroImage) ∧
      ¬ RunAgrees littleEndian obligingLayer 2049 zeroImage [tenBytes] .initial obligingWorld := by
  intro writes
  have hspares : ¬ SparesAll zeroImage writes := by
    intro h
    have hfirst : SparesSlac zeroImage ⟨28, tenBytes⟩ := h.1
    rw [sparesSlac_iff] at hfirst
    exact absurd (hfirst 7 (by decide) (by decide) (by decide)) (by decide)
  refine ⟨contextView_zeroImage, hspares, ?_, fun h => hspares h.2.1.1⟩
  rw [fieldsAgree_iff]
  rintro ⟨hrepeat, -⟩
  have hzero := hrepeat 0 (by decide)
  revert hzero
  decide +kernel

end EvseIso15118
