import EvseIso15118.FrameBounds

namespace EvseIso15118

/-- At `offset` stand protocol version and inverse version, `01 FE`. -/
def BeginsV2gtp (bytes : List Byte) (offset : ℤ) : Prop :=
  0 ≤ offset ∧ (bytes.drop offset.toNat).take 2 = [0x01, 0xFE]

instance (bytes : List Byte) (offset : ℤ) : Decidable (BeginsV2gtp bytes offset) := by
  unfold BeginsV2gtp
  infer_instance

/-- A payload handed to the decoder stands behind a header `01 FE 80 01` in the received bytes. -/
def Event.Headed (bytes : List Byte) : Event → Prop
  | .decode start _ _ =>
    8 ≤ start ∧ (bytes.drop (start - 8).toNat).take 4 = [0x01, 0xFE, 0x80, 0x01]
  | _ => True

section contract
variable {ω : Type} (L : MessageLayer ω) (read : List Byte) (ctx : SeccContext) (world : ω)

/-- Payloads are decoded behind valid headers only, and wherever the loop finds no `01 FE` for a
header the call fails there and empties the buffer. -/
structure OnlyValidHeaders : Prop where
  dispatched : ∀ fuel, ∀ e ∈ (v2gProcessMessage L fuel read ctx world).events,
    e.Headed (ctx.recv.pending ++ read)
  refused : ∀ s, InLoop L read ctx world s → s.offset + 8 ≤ (ctx.recv.pending ++ read).length →
    ¬BeginsV2gtp (ctx.recv.pending ++ read) s.offset →
      ∃ r, frameStep L s = .inr r ∧ r.exit = .headerParseFailed ∧ r.ctx.recv.len = 0 ∧
        r.events = s.events ++ [.header s.offset]

/-- Every header that the loop comes to begins with `01 FE`. -/
def LoopHeadersBegin : Prop :=
  ∀ s, InLoop L read ctx world s → s.offset + 8 ≤ (ctx.recv.pending ++ read).length →
    BeginsV2gtp (ctx.recv.pending ++ read) s.offset

end contract

/-- Every header that lengths lead to in the received bytes begins with `01 FE`, and none of them
lies in front of the buffer. -/
def HeadersBegin (ctx : SeccContext) (read : List Byte) : Prop :=
  read ≠ [] → ctx.recv.len + read.length ≤ 2048 →
    ∀ offset, HeaderAt (ctx.recv.pending ++ read) offset →
      BeginsV2gtp (ctx.recv.pending ++ read) offset

section call
variable {ω : Type} {L : MessageLayer ω} {read : List Byte} {ctx : SeccContext} {world : ω}

theorem be16_eq_exi {hi lo : Byte} (h : be16 hi lo = 0x8001) : hi = 0x80 ∧ lo = 0x01 := by
  have hnat : 2 ^ 8 * hi.toNat + lo.toNat = 32769 := by
    rw [← be16_toNat, h]
    rfl
  have hlo := lo.toNat_lt
  have hhi : hi.toNat = 128 := by omega
  have hlo' : lo.toNat = 1 := by omega
  exact ⟨UInt8.toNat_inj.mp hhi, UInt8.toNat_inj.mp hlo'⟩

theorem header_bytes {bytes : List Byte} {offset : ℤ} (h : BeginsV2gtp bytes offset)
    (ho : offset + 8 ≤ bytes.length) (htype : (headerAt bytes offset).payloadType = 0x8001) :
    (bytes.drop offset.toNat).take 4 = [0x01, 0xFE, 0x80, 0x01] := by
  obtain ⟨hn, hbegin⟩ := h
  have hlen : 8 ≤ (bytes.drop offset.toNat).length := by
    rw [List.length_drop]
    omega
  unfold headerAt at htype
  match bytes.drop offset.toNat, hlen, hbegin, htype with
  | a :: b :: c :: d :: _, _, hbegin, htype =>
    obtain ⟨rfl, rfl⟩ := be16_eq_exi htype
    change [a, b] = [0x01, 0xFE] at hbegin
    cases hbegin
    rfl

/-- Behind a header that begins with `01 FE` a round decodes a headed payload or none. -/
theorem frameStep_headed {s : FrameLoop ω} {bytes : List Byte} (hs : s.ctx.recv.pending = bytes)
    (hbegin : s.offset + 8 ≤ bytes.length → BeginsV2gtp bytes s.offset)
    (hold : ∀ e ∈ s.events, e.Headed bytes) :
    ∀ e ∈ eventsAfter (frameStep L s), e.Headed bytes := by
  have hlen : s.ctx.recv.len = bytes.length := by rw [← hs, RecvBuffer.pending_length]
  apply frameStep_forall_events hold
  · exact fun _ => trivial
  · intro ho hn _ htype
    have hb := hbegin (by omega)
    rw [header_eq_headerAt hs ho hn] at htype
    refine ⟨by omega, ?_⟩
    rw [show s.offset + 8 - 8 = s.offset by omega]
    exact header_bytes hb (by omega) htype
  · exact fun _ _ _ => trivial

theorem InLoop.headed (hbegin : LoopHeadersBegin L read ctx world) {s : FrameLoop ω}
    (h : InLoop L read ctx world s) : ∀ e ∈ s.events, e.Headed (ctx.recv.pending ++ read) := by
  obtain ⟨hr, hl, hv⟩ := h
  refine (hv.invariant (I := fun u => InLoop L read ctx world u ∧
    ∀ e ∈ u.events, e.Headed (ctx.recv.pending ++ read)) ⟨⟨hr, hl, .refl _⟩, by simp [loopStart]⟩
    ?_).2
  rintro u v ⟨hu, hold⟩ huv
  have hnext := frameStep_headed (L := L) hu.recv.1 (hbegin u hu) hold
  rw [huv] at hnext
  exact ⟨hu.tail huv, hnext⟩

theorem onlyValidHeaders_iff :
    OnlyValidHeaders L read ctx world ↔ LoopHeadersBegin L read ctx world := by
  constructor
  · intro h s hs ho
    by_contra hbad
    obtain ⟨r, hr, hexit, -⟩ := h.refused s hs ho hbad
    rcases frameStep_exit_cases hr with he | he | he | he <;> rw [he] at hexit <;> cases hexit
  · intro hbegin
    constructor
    · intro fuel e he
      rcases v2gProcessMessage_events (L := L) fuel read ctx world with h | ⟨s, hs, h | h⟩
      · rw [h] at he
        cases he
      · exact hs.headed hbegin e (h ▸ he)
      · exact frameStep_headed hs.recv.1 (hbegin s hs) (hs.headed hbegin) e (h ▸ he)
    · intro s hs ho hbad
      exact absurd (hbegin s hs ho) hbad

end call

section bytes
variable {read : List Byte} {ctx : SeccContext}

theorem headersBegin_of_obliging
    (h : LoopHeadersBegin obligingLayer read ctx obligingWorld) : HeadersBegin ctx read := by
  intro hr hl offset hat
  obtain ⟨ho, s, hs, rfl⟩ := exists_inLoop_of_headerAt hr hl hat
  exact h s hs ho

theorem HeadersBegin.onlyValidHeaders {τ : Type} (h : HeadersBegin ctx read) (codec : Codec)
    (tlsWrite : τ → List Byte → ℤ × τ) (world : SeccWorld τ) :
    OnlyValidHeaders (seccMessageLayer codec tlsWrite) read ctx world := by
  refine onlyValidHeaders_iff.mpr ?_
  intro s hs ho
  exact h hs.1 hs.2.1 s.offset (hs.headerAt (by simpa using ho))

/-- Whatever the codec and the connection do, a call honours valid headers only if and only if
every header that lengths lead to begins with `01 FE`. -/
theorem onlyValidHeaders_forall_iff (ctx : SeccContext) (read : List Byte) :
    (∀ (τ : Type) (codec : Codec) (tlsWrite : τ → List Byte → ℤ × τ) (world : SeccWorld τ),
      OnlyValidHeaders (seccMessageLayer codec tlsWrite) read ctx world) ↔
        HeadersBegin ctx read := by
  constructor
  · intro h
    exact headersBegin_of_obliging (onlyValidHeaders_iff.mp (h _ _ _ _))
  · intro h τ codec tlsWrite world
    exact h.onlyValidHeaders codec tlsWrite world

end bytes

section run
variable {ω : Type} (L : MessageLayer ω) (fuel : ℕ) (P : List Byte → SeccContext → ω → Prop)

/-- `P` of every call, one after the other and also after failed ones, as long as they return. -/
def EachCall : List (List Byte) → SeccContext → ω → Prop
  | [], _, _ => True
  | c :: cs, ctx, world =>
    let r := v2gProcessMessage L fuel c ctx world
    P c ctx world ∧ (r.exit.ret ≠ none → EachCall cs r.ctx r.world)

variable {L fuel P}

theorem EachCall.mono {Q : List Byte → SeccContext → ω → Prop}
    (h : ∀ c ctx world, P c ctx world → Q c ctx world) {reads : List (List Byte)}
    {ctx : SeccContext} {world : ω} (hrun : EachCall L fuel P reads ctx world) :
    EachCall L fuel Q reads ctx world := by
  induction reads generalizing ctx world with
  | nil => trivial
  | cons c cs ih => exact ⟨h c ctx world hrun.1, fun hret => ih (hrun.2 hret)⟩

end run

/-- If in every call of a run each header that lengths lead to begins with `01 FE`, no other
header is honoured. For one call nothing less will do, as codec and connection may behave. -/
theorem headers_honoured_iff {τ : Type} (codec : Codec) (tlsWrite : τ → List Byte → ℤ × τ)
    (fuel : ℕ) (reads : List (List Byte)) (ctx : SeccContext) (world : SeccWorld τ) :
    (EachCall (seccMessageLayer codec tlsWrite) fuel (fun read ctx _ => HeadersBegin ctx read)
        reads ctx world →
      EachCall (seccMessageLayer codec tlsWrite) fuel
        (OnlyValidHeaders (seccMessageLayer codec tlsWrite)) reads ctx world) ∧
    ∀ read, (∀ (τ' : Type) (codec' : Codec) (tlsWrite' : τ' → List Byte → ℤ × τ')
        (world' : SeccWorld τ'),
        OnlyValidHeaders (seccMessageLayer codec' tlsWrite') read ctx world') ↔
      HeadersBegin ctx read := by
  constructor
  · intro hrun
    exact hrun.mono fun _ _ world h => h.onlyValidHeaders codec tlsWrite world
  · exact onlyValidHeaders_forall_iff ctx

/-- Offsets that lengths do not lead out of are all there are. -/
theorem HeaderAt.mem_of_closed {bytes : List Byte} {offsets : List ℤ} {offset : ℤ}
    (h : HeaderAt bytes offset) (hzero : 0 ∈ offsets)
    (hnext : ∀ o ∈ offsets, toInt32 (frameEnd bytes o) + 8 ≤ bytes.length →
      toInt32 (frameEnd bytes o) ∈ offsets) : offset ∈ offsets := by
  induction h with
  | first _ => exact hzero
  | next _ _ _ more ih => exact hnext _ ih more

theorem headersBegin_of_offsets {ctx : SeccContext} {read : List Byte} (bytes : List Byte)
    (offsets : List ℤ) (hbytes : ctx.recv.pending ++ read = bytes) (hzero : 0 ∈ offsets)
    (hnext : ∀ o ∈ offsets, toInt32 (frameEnd bytes o) + 8 ≤ bytes.length →
      toInt32 (frameEnd bytes o) ∈ offsets)
    (hbegin : ∀ o ∈ offsets, BeginsV2gtp bytes o) : HeadersBegin ctx read := by
  intro _ _ offset hat
  rw [hbytes] at hat ⊢
  exact hbegin offset (hat.mem_of_closed hzero hnext)

/-- A request, a frame of another type cut in its header, and two requests in one read. -/
def fourFrameReads : List (List Byte) :=
  [[0x01, 0xFE, 0x80, 0x01, 0x00, 0x00, 0x00, 0x01, 0x42, 0x01, 0xFE, 0x90],
    [0x00, 0x00, 0x00, 0x00, 0x02, 0xFF, 0xFF],
    [0x01, 0xFE, 0x80, 0x01, 0x00, 0x00, 0x00, 0x02, 0x80, 0x9A,
      0x01, 0xFE, 0x80, 0x01, 0x00, 0x00, 0x00, 0x01, 0x43]]

theorem headers_honoured_iff_fourFrameReads :
    EachCall obligingLayer 2049 (OnlyValidHeaders obligingLayer) fourFrameReads .initial
      obligingWorld := by
  refine (headers_honoured_iff obligingCodec (fun net _ => (0, net)) 2049 fourFrameReads .initial
    obligingWorld).1 ⟨?_, fun _ => ⟨?_, fun _ => ⟨?_, fun _ => trivial⟩⟩⟩
  · exact headersBegin_of_offsets _ [0] rfl (by decide) (by decide) (by decide)
  · apply headersBegin_of_offsets [0x01, 0xFE, 0x90, 0x00, 0x00, 0x00, 0x00, 0x02, 0xFF, 0xFF] [0]
    · decide +kernel
    · decide
    · decide
    · decide
  · apply headersBegin_of_offsets [0x01, 0xFE, 0x80, 0x01, 0x00, 0x00, 0x00, 0x02, 0x80, 0x9A,
      0x01, 0xFE, 0x80, 0x01, 0x00, 0x00, 0x00, 0x01, 0x43] [0, 10]
    · decide +kernel
    · decide
    · decide
    · decide

/-- A frame with the right payload type and `00 00` for the versions. -/
def noVersionRead : List Byte := [0x00, 0x00, 0x80, 0x01, 0x00, 0x00, 0x00, 0x01, 0x42]

/-- The payload behind a header without version bytes is decoded and answered. -/
theorem noVersion_dispatched :
    (v2gProcessMessage obligingLayer 2049 noVersionRead .initial obligingWorld).events =
      [.header 0, .decode 8 1 [0x42],
        .write .sessionStop [0x01, 0xFE, 0x80, 0x01, 0x00, 0x00, 0x00, 0x00] 0] ∧
    (v2gProcessMessage obligingLayer 2049 noVersionRead .initial obligingWorld).exit = .done ∧
    ¬EachCall obligingLayer 2049 (OnlyValidHeaders obligingLayer) [noVersionRead] .initial
      obligingWorld := by
  have hevents : (v2gProcessMessage obligingLayer 2049 noVersionRead .initial
      obligingWorld).events = [.header 0, .decode 8 1 [0x42],
        .write .sessionStop [0x01, 0xFE, 0x80, 0x01, 0x00, 0x00, 0x00, 0x00] 0] := by
    decide +kernel
  refine ⟨hevents, by decide +kernel, fun h => ?_⟩
  have hheaded := h.1.dispatched 2049 (.decode 8 1 [0x42]) (by rw [hevents]; simp)
  have hbytes : ((SeccContext.initial.recv.pending ++ noVersionRead).drop 0).take 4 =
      [0x01, 0xFE, 0x80, 0x01] := hheaded.2
  exact absurd hbytes (by decide)

end EvseIso15118
