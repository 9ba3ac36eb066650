import EvseIso15118.TcpReading

namespace EvseIso15118

theorem zero_mem_cuts (segs : List (List Byte)) : 0 ∈ cuts segs := by
  cases segs <;> exact List.mem_cons_self

section count
variable (target len : ℕ) (buf : List Byte) (segs : List (List Byte))

theorem recvUntil_lt_iff_cut {bound : ℕ} (hbound : bound ≤ len) :
    (target ≤ (recvUntil target len buf segs).1.length ∧
        (recvUntil target len buf segs).1.length < bound) ↔
      ∃ m ∈ cuts segs, target ≤ buf.length + m ∧ buf.length + m < bound := by
  induction segs generalizing buf with
  | nil =>
    rw [recvUntil]
    simp [cuts]
  | cons seg segs ih =>
    rw [recvUntil]
    split_ifs with hstop hs hl
    · constructor
      · intro h
        exact ⟨0, List.mem_cons_self, h⟩
      · rintro ⟨m, -, ht, hb⟩
        change target ≤ buf.length ∧ buf.length < bound
        omega
    · simp only [cuts, if_pos hs, List.mem_singleton, exists_eq_left, Nat.add_zero]
    · rw [ih, List.length_append]
      simp only [cuts, if_neg hs, List.mem_cons, List.mem_map, exists_eq_or_imp,
        exists_exists_and_eq_and, ← Nat.add_assoc]
      constructor
      · exact .inr
      · rintro (h | h)
        · omega
        · exact h
    · rw [List.length_append, List.length_take]
      simp only [cuts, if_neg hs, List.mem_cons, List.mem_map, exists_eq_or_imp,
        exists_exists_and_eq_and]
      constructor
      · omega
      · rintro (h | ⟨m, -, ht, hb⟩)
        · omega
        · omega

theorem exists_cut_ge : ∃ m ∈ cuts segs,
    (recvUntil target len buf segs).1.length ≤ buf.length + m := by
  induction segs generalizing buf with
  | nil => exact ⟨0, List.mem_cons_self, le_rfl⟩
  | cons seg segs ih =>
    rw [recvUntil]
    split_ifs with hstop hs hl
    · exact ⟨0, List.mem_cons_self, le_rfl⟩
    · exact ⟨0, List.mem_cons_self, le_rfl⟩
    · obtain ⟨m, hm, hle⟩ := ih (buf ++ seg)
      rw [List.length_append] at hle
      refine ⟨seg.length + m, ?_, by omega⟩
      rw [cuts, if_neg hs]
      exact List.mem_cons_of_mem _ (List.mem_map.mpr ⟨m, hm, rfl⟩)
    · refine ⟨seg.length + 0, ?_, ?_⟩
      · rw [cuts, if_neg hs]
        exact List.mem_cons_of_mem _ (List.mem_map.mpr ⟨0, zero_mem_cuts segs, rfl⟩)
      · rw [List.length_append, List.length_take]
        omega

theorem cut_le_of_short (hshort : (recvUntil target len buf segs).1.length < target)
    (hroom : (recvUntil target len buf segs).1.length < len) {m : ℕ} (hm : m ∈ cuts segs) :
    buf.length + m ≤ (recvUntil target len buf segs).1.length := by
  induction segs generalizing buf m with
  | nil =>
    rw [List.mem_singleton.mp hm]
    exact le_rfl
  | cons seg segs ih =>
    rw [recvUntil] at hshort hroom ⊢
    split_ifs at hshort hroom ⊢ with hstop hs hl
    · change buf.length < target at hshort
      change buf.length < len at hroom
      omega
    · rw [cuts, if_pos hs, List.mem_singleton] at hm
      rw [hm]
      exact le_rfl
    · have hgrown := fun m => ih (buf ++ seg) hshort hroom (m := m)
      rw [cuts, if_neg hs, List.mem_cons, List.mem_map] at hm
      rcases hm with rfl | ⟨m', hm', rfl⟩
      · have hle := hgrown 0 (zero_mem_cuts segs)
        rw [List.length_append] at hle
        omega
      · have hle := hgrown m' hm'
        rw [List.length_append] at hle
        omega
    · rw [List.length_append, List.length_take] at hroom
      omega

theorem recvUntil_lt_iff (hbuf : buf.length ≤ len) (bound : ℕ) :
    (recvUntil target len buf segs).1.length < bound ↔
      len < bound ∨ (∀ m ∈ cuts segs, buf.length + m < bound) ∨
        ∃ m ∈ cuts segs, target ≤ buf.length + m ∧ buf.length + m < bound := by
  have hlen := (recvUntil_length target buf segs hbuf).2
  constructor
  · intro h
    by_cases hsmall : len < bound
    · exact .inl hsmall
    · by_cases ht : target ≤ (recvUntil target len buf segs).1.length
      · exact .inr (.inr ((recvUntil_lt_iff_cut target len buf segs (by omega)).mp ⟨ht, h⟩))
      · refine .inr (.inl fun m hm => ?_)
        have := cut_le_of_short target len buf segs (by omega) (by omega) hm
        omega
  · rintro (hsmall | hall | hcut)
    · omega
    · obtain ⟨m, hm, hle⟩ := exists_cut_ge target len buf segs
      have := hall m hm
      omega
    · by_cases hb : bound ≤ len
      · exact ((recvUntil_lt_iff_cut target len buf segs hb).mpr hcut).2
      · omega

end count

/-- A read of the stream in `segs` with this much room: the bytes in `buf` are the next ones, as
many as the header in front of them announces unless `recv` reported the end or an error; -1 is
returned where that came first. -/
structure Reassembles (len : ℕ) (segs : List (List Byte)) (ended : Bool)
    (read : ℤ × List Byte × List (List Byte)) : Prop where
  stream : read.2.1 ++ read.2.2.flatten = segs.flatten
  room : read.2.1.length ≤ len
  count : (read.2.1 = [] ∧ ended = true ∧ read.1 = -1) ∨
    (read.2.1 ≠ [] ∧ read.1 = read.2.1.length)
  complete : ended = false →
    min len (8 + (headerOf read.2.1).payloadLength.toNat) ≤ read.2.1.length

/-- The announced total does not wrap, or no `recv` ends between the header and a full buffer; and
what is received can be counted in an `int`. -/
def ReadFits (len : ℕ) (segs : List (List Byte)) : Prop :=
  (8 + (headerOf segs.flatten).payloadLength.toNat < 4294967296 ∨
    ∀ m ∈ cuts segs, 8 ≤ m → len ≤ m) ∧
  (len < 2147483648 ∨ (∀ m ∈ cuts segs, m < 2147483648) ∨
    ∃ m ∈ cuts segs, announced segs.flatten ≤ m ∧ m < 2147483648)

section read
variable {len : ℕ} {segs : List (List Byte)}

theorem tcpTotal_of_small {stream : List Byte}
    (h : 8 + (headerOf stream).payloadLength.toNat < 4294967296) :
    tcpTotal stream = 8 + (headerOf stream).payloadLength.toNat := by
  rw [tcpTotal, UInt32.toNat_add]
  exact Nat.mod_eq_of_lt h

theorem tcpTotal_of_wrapped {stream : List Byte}
    (h : 4294967296 ≤ 8 + (headerOf stream).payloadLength.toNat) : tcpTotal stream < 8 := by
  have hlt := (headerOf stream).payloadLength.toNat_lt
  rw [tcpTotal, UInt32.toNat_add]
  change (8 + (headerOf stream).payloadLength.toNat) % 4294967296 < 8
  omega

theorem headerOf_read (target : ℕ)
    (h : 8 ≤ (recvUntil target len [] segs).1.length) :
    headerOf (recvUntil target len [] segs).1 = headerOf segs.flatten := by
  have hflat := recvUntil_flatten target len [] segs
  rw [List.nil_append] at hflat
  rw [← hflat, headerOf_append h]

/-- As long as the count is an `int` the read is that of one loop to the announced total. -/
theorem tcpReceive_of_lt (hlen : len < 4294967296)
    (h : (recvUntil (announced segs.flatten) len [] segs).1.length < 2147483648) :
    tcpReceive len segs = recvEnded (announced segs.flatten) len
      (recvUntil (announced segs.flatten) len [] segs) := by
  refine (tcpReceive_cases hlen segs).resolve_right ?_
  rintro ⟨-, hbig⟩
  omega

theorem tcpRead_eq (len : ℕ) (segs : List (List Byte)) (hpos : 0 < len) :
    tcpRead len segs =
      (if (tcpReceive len segs).buf = [] then -1 else toInt32 (tcpReceive len segs).buf.length,
        (tcpReceive len segs).buf, (tcpReceive len segs).rest) := by
  simp only [tcpRead, hpos, and_true]
  split_ifs <;> rfl

/-- More bytes than an `int` counts are lost, or returned as a negative number. -/
theorem Reassembles.lt (h : Reassembles len segs (tcpReceive len segs).ended (tcpRead len segs))
    (hpos : 0 < len) (hlen : len < 4294967296) :
    (recvUntil (announced segs.flatten) len [] segs).1.length < 2147483648 := by
  by_contra hbig
  have hroom := (recvUntil_length (announced segs.flatten) [] segs (Nat.zero_le len)).2
  have hstream := congrArg List.length h.stream
  have hcount := h.count
  rw [tcpRead_eq len segs hpos] at hstream hcount
  rcases tcpReceive_cases hlen segs with hagree | ⟨hlost, -⟩
  · have hbuf : (tcpReceive len segs).buf =
        (recvUntil (announced segs.flatten) len [] segs).1 := by rw [hagree]; rfl
    rw [hbuf] at hcount
    rcases hcount with ⟨hnil, -⟩ | ⟨hne, heq⟩
    · change (recvUntil (announced segs.flatten) len [] segs).1 = [] at hnil
      rw [hnil] at hbig
      simp at hbig
    · change (if _ then (-1 : ℤ) else _) = _ at heq
      rw [if_neg hne, toInt32_of_large (by omega) (by omega)] at heq
      change _ = ((recvUntil (announced segs.flatten) len [] segs).1.length : ℤ) at heq
      omega
  · rw [List.length_append] at hstream
    change (tcpReceive len segs).buf.length + (tcpReceive len segs).rest.flatten.length = _
      at hstream
    omega

theorem Reassembles.readFits
    (h : Reassembles len segs (tcpReceive len segs).ended (tcpRead len segs))
    (h8 : 8 ≤ len) (hlen : len < 4294967296) : ReadFits len segs := by
  have hlt := h.lt (by omega) hlen
  have hcounted := (recvUntil_lt_iff (announced segs.flatten) len [] segs (Nat.zero_le len)
    2147483648).mp hlt
  simp only [List.length_nil, Nat.zero_add] at hcounted
  refine ⟨?_, hcounted⟩
  by_contra hboth
  push Not at hboth
  obtain ⟨hwrap, m, hm, h8m, hml⟩ := hboth
  -- the total has wrapped: the read goes for the header alone and stops at a cut behind it
  have hann : announced segs.flatten = 8 := by
    have htotal := tcpTotal_of_wrapped hwrap
    have hle := le_of_mem_cuts hm
    rw [announced, if_neg (by omega)]
    omega
  have hstop := (recvUntil_lt_iff_cut 8 len [] segs (le_refl len)).mpr
    ⟨m, hm, by simpa using h8m, by simpa using hml⟩
  have hagree := tcpReceive_of_lt hlen hlt
  rw [hann] at hagree
  have hended : (tcpReceive len segs).ended = false := by
    rw [hagree, recvEnded]
    simp
    omega
  have hcomplete := h.complete hended
  rw [tcpRead_eq len segs (by omega)] at hcomplete
  change min len (8 + (headerOf (tcpReceive len segs).buf).payloadLength.toNat) ≤
    (tcpReceive len segs).buf.length at hcomplete
  have hbuf : (tcpReceive len segs).buf = (recvUntil 8 len [] segs).1 := by rw [hagree]; rfl
  rw [hbuf, headerOf_read 8 hstop.1] at hcomplete
  omega

theorem ReadFits.reassembles (h : ReadFits len segs) (h8 : 8 ≤ len) (hlen : len < 4294967296) :
    Reassembles len segs (tcpReceive len segs).ended (tcpRead len segs) := by
  obtain ⟨htotal, hcounted⟩ := h
  have hlt := (recvUntil_lt_iff (announced segs.flatten) len [] segs (Nat.zero_le len)
    2147483648).mpr (by simpa using hcounted)
  have hroom := (recvUntil_length (announced segs.flatten) [] segs (Nat.zero_le len)).2
  have hflat := recvUntil_flatten (announced segs.flatten) len [] segs
  rw [tcpRead_eq len segs (by omega), tcpReceive_of_lt hlen hlt]
  set u := recvUntil (announced segs.flatten) len [] segs with hu
  have h8ann := eight_le_announced segs.flatten
  refine ⟨hflat, hroom, ?_, ?_⟩
  · by_cases hnil : u.1 = []
    · refine .inl ⟨hnil, ?_, if_pos hnil⟩
      simp [recvEnded, hnil]
      omega
    · refine .inr ⟨hnil, ?_⟩
      change (if u.1 = [] then (-1 : ℤ) else toInt32 u.1.length) = u.1.length
      rw [if_neg hnil, toInt32_of_small (by omega) (by omega)]
  · intro hended
    change min len (8 + (headerOf u.1).payloadLength.toNat) ≤ u.1.length
    by_cases hfull : len ≤ u.1.length
    · omega
    · have hreached : announced segs.flatten ≤ u.1.length := by
        by_contra hshort
        simp [recvEnded] at hended
        omega
      have hheader : headerOf u.1 = headerOf segs.flatten :=
        headerOf_read (announced segs.flatten) (show 8 ≤ u.1.length by omega)
      rw [hheader]
      rcases htotal with hsmall | hclear
      · have hlong : 8 ≤ segs.flatten.length := by
          rw [List.nil_append] at hflat
          rw [← hflat, List.length_append]
          omega
        rw [announced, if_neg (by omega), tcpTotal_of_small hsmall] at hreached
        omega
      · -- the read has stopped at a cut behind the header, short of the room
        obtain ⟨m, hm, hm8, hml⟩ := (recvUntil_lt_iff_cut (announced segs.flatten) len [] segs
          (le_refl len)).mp ⟨hreached, show u.1.length < len by omega⟩
        rw [List.length_nil, Nat.zero_add] at hm8 hml
        have := hclear m hm (by omega)
        omega

/-- A read reassembles its message if and only if it fits. -/
theorem reassembles_iff (h8 : 8 ≤ len) (hlen : len < 4294967296) :
    Reassembles len segs (tcpReceive len segs).ended (tcpRead len segs) ↔ ReadFits len segs :=
  ⟨fun h => h.readFits h8 hlen, fun h => h.reassembles h8 hlen⟩

end read

section reads
variable (st : TransportStatics) (sslRead : ℤ × List Byte)

/-- `P` of the room of each call of `tls_read` and of what the socket holds before it. -/
def EachRead (P : ℕ → List (List Byte) → Prop) : List ℕ → List (List Byte) → Prop
  | [], _ => True
  | len :: lens, segs => P len segs ∧ EachRead P lens (tlsRead st sslRead len segs).2.2

/-- The bytes that the calls put into their buffers, and what the socket holds after them. -/
def tlsReads : List ℕ → List (List Byte) → List Byte × List (List Byte)
  | [], segs => ([], segs)
  | len :: lens, segs =>
    let read := tlsRead st sslRead len segs
    let later := tlsReads lens read.2.2
    (read.2.1 ++ later.1, later.2)

variable {st sslRead}

theorem tlsRead_tcp (h : st.useTls = 0) (len : ℕ) (segs : List (List Byte)) :
    tlsRead st sslRead len segs = tcpRead len segs := by
  simp [tlsRead, TransportStatics.channel, h]

theorem EachRead.stream {lens : List ℕ} {segs : List (List Byte)}
    (h : EachRead st sslRead (fun len segs => Reassembles len segs (tcpReceive len segs).ended
      (tlsRead st sslRead len segs)) lens segs) :
    (tlsReads st sslRead lens segs).1 ++ (tlsReads st sslRead lens segs).2.flatten =
      segs.flatten := by
  induction lens generalizing segs with
  | nil => rfl
  | cons len lens ih =>
    obtain ⟨hread, hlater⟩ := h
    have hrest := ih hlater
    set read := tlsRead st sslRead len segs with hset
    change (read.2.1 ++ (tlsReads st sslRead lens read.2.2).1) ++
      (tlsReads st sslRead lens read.2.2).2.flatten = segs.flatten
    rw [List.append_assoc, hrest, hread.stream]

variable (st sslRead) in
/-- Without TLS every read of a run reassembles its message, and together they give the stream, if
and only if every read fits. -/
theorem tlsReads_reassemble_iff (hst : st.useTls = 0) (lens : List ℕ) (segs : List (List Byte))
    (hlens : ∀ len ∈ lens, 8 ≤ len ∧ len < 4294967296) :
    (EachRead st sslRead (fun len segs => Reassembles len segs (tcpReceive len segs).ended
        (tlsRead st sslRead len segs)) lens segs ∧
      (tlsReads st sslRead lens segs).1 ++ (tlsReads st sslRead lens segs).2.flatten =
        segs.flatten) ↔
      EachRead st sslRead ReadFits lens segs := by
  have hiff : EachRead st sslRead (fun len segs => Reassembles len segs
      (tcpReceive len segs).ended (tlsRead st sslRead len segs)) lens segs ↔
      EachRead st sslRead ReadFits lens segs := by
    induction lens generalizing segs with
    | nil => exact Iff.rfl
    | cons len lens ih =>
      obtain ⟨h8, hlen⟩ := hlens len List.mem_cons_self
      rw [EachRead, EachRead, ih _ fun l hl => hlens l (List.mem_cons_of_mem _ hl),
        tlsRead_tcp hst, reassembles_iff h8 hlen]
  rw [← hiff]
  exact and_iff_left_of_imp EachRead.stream

end reads

def plainTcp : TransportStatics := { useTls := 0 }

/-- A header that announces 2^32 - 1 bytes, and eight of them. -/
def wrappedSegs : List (List Byte) :=
  [[0x01, 0xFE, 0x80, 0x01, 0xFF, 0xFF, 0xFF, 0xFF], [1, 2, 3, 4, 5, 6, 7, 8]]

theorem tlsReads_reassemble_iff_wrapped :
    (EachRead plainTcp (0, []) (fun len segs => Reassembles len segs (tcpReceive len segs).ended
        (tlsRead plainTcp (0, []) len segs)) [8, 2048] wrappedSegs ∧
      (tlsReads plainTcp (0, []) [8, 2048] wrappedSegs).1 ++
        (tlsReads plainTcp (0, []) [8, 2048] wrappedSegs).2.flatten = wrappedSegs.flatten) ↔
      EachRead plainTcp (0, []) ReadFits [8, 2048] wrappedSegs :=
  tlsReads_reassemble_iff plainTcp (0, []) rfl [8, 2048] wrappedSegs (by decide)

/-- The read returns with the header alone, although neither end nor error was reported. -/
theorem read_short_wrapped :
    tlsRead plainTcp (0, []) 2048 wrappedSegs =
      (8, [0x01, 0xFE, 0x80, 0x01, 0xFF, 0xFF, 0xFF, 0xFF], [[1, 2, 3, 4, 5, 6, 7, 8]]) ∧
    (tcpReceive 2048 wrappedSegs).ended = false ∧
    ¬Reassembles 2048 wrappedSegs (tcpReceive 2048 wrappedSegs).ended
      (tlsRead plainTcp (0, []) 2048 wrappedSegs) := by
  have hread : tlsRead plainTcp (0, []) 2048 wrappedSegs =
      (8, [0x01, 0xFE, 0x80, 0x01, 0xFF, 0xFF, 0xFF, 0xFF], [[1, 2, 3, 4, 5, 6, 7, 8]]) := by
    decide
  have hended : (tcpReceive 2048 wrappedSegs).ended = false := by decide
  refine ⟨hread, hended, fun h => ?_⟩
  have hcomplete := h.complete hended
  rw [hread] at hcomplete
  exact absurd hcomplete (by decide)

end EvseIso15118
