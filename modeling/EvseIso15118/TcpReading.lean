import EvseIso15118.Chunking
import EvseIso15118.TlsTransport

namespace EvseIso15118

open Reassembly

/-- What is in `buf` at each `recv` of `recvUntil`; one that finds no segment is made too. -/
def recvCalls (target len : ℕ) : List Byte → List (List Byte) → List (List Byte)
  | buf, [] => if target ≤ buf.length ∨ len ≤ buf.length then [] else [buf]
  | buf, seg :: segs =>
    if target ≤ buf.length ∨ len ≤ buf.length then []
    else buf ::
      if seg = [] then []
      else if seg.length ≤ len - buf.length then recvCalls target len (buf ++ seg) segs
      else []

/-- `total_message_len` of `tls_read`. -/
def tcpTotal (buf : List Byte) : ℕ := (8 + (headerOf buf).payloadLength).toNat

/-- What is in `buf` at each `recv` of `tcpRead`. -/
def tcpRecvs (len : ℕ) (segs : List (List Byte)) : List (List Byte) :=
  let header := recvUntil 8 len [] segs
  recvCalls 8 len [] segs ++
    if header.1.length < 8 then [] else recvCalls (tcpTotal header.1) len header.1 header.2

/-- How many bytes of the stream have come after each `recv`. -/
def cuts : List (List Byte) → List ℕ
  | [] => [0]
  | seg :: segs => 0 :: if seg = [] then [] else (cuts segs).map (seg.length + ·)

theorem le_of_mem_cuts {segs : List (List Byte)} {m : ℕ} (h : m ∈ cuts segs) :
    m ≤ segs.flatten.length := by
  induction segs generalizing m with
  | nil => simpa [cuts] using h
  | cons seg segs ih =>
    rw [List.flatten_cons, List.length_append]
    rcases List.mem_cons.mp h with rfl | h
    · exact Nat.zero_le _
    · split_ifs at h
      · cases h
      · obtain ⟨m', hm', rfl⟩ := List.mem_map.mp h
        have := ih hm'
        omega

theorem eq_and_short_iff {target len : ℕ} {buf b : List Byte}
    (h : ¬ (target ≤ buf.length ∨ len ≤ buf.length)) :
    b = buf ↔ b = buf ∧ b.length < target ∧ b.length < len := by
  constructor
  · rintro rfl
    exact ⟨rfl, by omega, by omega⟩
  · intro hb
    exact hb.1

/-- `recv` is called exactly at the cuts short of the target and of the buffer. -/
theorem mem_recvCalls {target len : ℕ} {buf b : List Byte} {segs : List (List Byte)} :
    b ∈ recvCalls target len buf segs ↔
      ∃ m ∈ cuts segs, b = buf ++ segs.flatten.take m ∧ b.length < target ∧ b.length < len := by
  induction segs generalizing buf with
  | nil =>
    simp only [recvCalls, cuts, List.mem_singleton, exists_eq_left, List.take_zero,
      List.append_nil]
    split_ifs with h
    · simp only [List.not_mem_nil, false_iff]
      rintro ⟨rfl, ht, hl⟩
      omega
    · rw [List.mem_singleton]
      exact eq_and_short_iff h
  | cons seg segs ih =>
    rw [recvCalls]
    split_ifs with h hs hl
    · simp only [List.not_mem_nil, false_iff]
      rintro ⟨m, -, rfl, ht, hlen⟩
      rw [List.length_append] at ht hlen
      omega
    · simp only [cuts, if_pos hs, List.mem_singleton, exists_eq_left, List.take_zero,
        List.append_nil]
      exact eq_and_short_iff h
    · simp only [cuts, if_neg hs, List.mem_cons, List.mem_map, ih, exists_eq_or_imp,
        List.take_zero, List.append_nil, List.flatten_cons, exists_exists_and_eq_and,
        List.take_length_add_append, ← List.append_assoc]
      apply or_congr_left
      exact eq_and_short_iff h
    · simp only [cuts, if_neg hs, List.mem_cons, List.mem_map, exists_eq_or_imp, List.take_zero,
        List.append_nil, List.flatten_cons, exists_exists_and_eq_and,
        List.take_length_add_append, List.not_mem_nil]
      apply or_congr
      · exact eq_and_short_iff h
      · -- the segment fills the buffer
        simp only [false_iff]
        rintro ⟨m, -, rfl, -, hlen⟩
        simp only [List.length_append] at hlen
        omega

theorem recvUntil_flatten (target len : ℕ) (buf : List Byte) (segs : List (List Byte)) :
    (recvUntil target len buf segs).1 ++ (recvUntil target len buf segs).2.flatten =
      buf ++ segs.flatten := by
  induction segs generalizing buf with
  | nil => rfl
  | cons seg segs ih =>
    rw [recvUntil]
    split_ifs with h hs hl
    · rfl
    · simp [hs]
    · rw [ih, List.flatten_cons, List.append_assoc]
    · rw [List.flatten_cons, List.flatten_cons, List.append_assoc,
        ← List.append_assoc (List.take _ _), List.take_append_drop]

theorem recvUntil_length (target : ℕ) {len : ℕ} (buf : List Byte) (segs : List (List Byte))
    (h : buf.length ≤ len) :
    buf.length ≤ (recvUntil target len buf segs).1.length ∧
      (recvUntil target len buf segs).1.length ≤ len := by
  induction segs generalizing buf with
  | nil => exact ⟨le_rfl, h⟩
  | cons seg segs ih =>
    rw [recvUntil]
    split_ifs with hstop hs hl
    · exact ⟨le_rfl, h⟩
    · exact ⟨le_rfl, h⟩
    · have hgrown := ih (buf ++ seg) (by rw [List.length_append]; omega)
      rw [List.length_append] at hgrown
      omega
    · rw [List.length_append, List.length_take]
      omega

def recvEnded (target len : ℕ) (r : List Byte × List (List Byte)) : RecvResult :=
  ⟨r.1, r.2, r.1.length < target && r.1.length < len⟩

theorem recvEnded_congr {t t' len : ℕ} {r : List Byte × List (List Byte)}
    (h : r.1.length < t ↔ r.1.length < t') : recvEnded t len r = recvEnded t' len r := by
  simp only [recvEnded, h]

theorem toInt32_count {n : ℕ} (hpos : 0 < n) (hn : n < 4294967296) :
    toInt32 n ≤ 0 ↔ 2147483648 ≤ n := by
  by_cases h : n < 2147483648
  · rw [toInt32_of_small (by omega) (by omega)]
    omega
  · rw [toInt32_of_large (by omega) (by omega)]
    omega

section cons
variable {target len : ℕ} {buf seg : List Byte}

theorem recvUntil_cons_length (segs : List (List Byte))
    (hstop : ¬(target ≤ buf.length ∨ len ≤ buf.length)) (hs : seg ≠ []) :
    buf.length + min seg.length (len - buf.length) ≤
      (recvUntil target len buf (seg :: segs)).1.length := by
  rw [recvUntil, if_neg hstop, if_neg hs]
  split_ifs with hl
  · have hroom : (buf ++ seg).length ≤ len := by
      rw [List.length_append]
      omega
    have hgrown := (recvUntil_length target (buf ++ seg) segs hroom).1
    rw [List.length_append] at hgrown
    omega
  · rw [List.length_append, List.length_take]
    omega

theorem rest_flatten_length (room : ℕ) (seg : List Byte) (segs : List (List Byte)) :
    (if seg.length ≤ room then segs else seg.drop room :: segs).flatten.length =
      seg.length - room + segs.flatten.length := by
  split_ifs with hl
  · omega
  · rw [List.flatten_cons, List.length_append, List.length_drop]

/-- Too many bytes for an `int`: they are gone. -/
theorem recvLoop_cons_lost (segs : List (List Byte))
    (hstop : ¬(target ≤ buf.length ∨ len ≤ buf.length)) (hs : seg ≠ [])
    (hret : toInt32 (min seg.length (len - buf.length) : ℕ) ≤ 0) :
    (recvLoop target len buf (seg :: segs)).buf.length < target ∧
      (recvLoop target len buf (seg :: segs)).buf.length +
          (recvLoop target len buf (seg :: segs)).rest.flatten.length <
        buf.length + (seg :: segs).flatten.length := by
  have hpos := List.length_pos_of_ne_nil hs
  rw [recvLoop, if_neg hstop, if_neg hs, if_pos hret]
  dsimp only
  rw [rest_flatten_length, List.flatten_cons, List.length_append]
  omega

end cons

/-- `int ret` makes no difference, or the loop has lost the bytes of a call. -/
theorem recvLoop_cases (target : ℕ) {len : ℕ} (hlen : len < 4294967296) (buf : List Byte)
    (segs : List (List Byte)) (hbuf : buf.length ≤ len) :
    recvLoop target len buf segs = recvEnded target len (recvUntil target len buf segs) ∨
      (recvLoop target len buf segs).buf.length < target ∧
      (recvLoop target len buf segs).buf.length +
          (recvLoop target len buf segs).rest.flatten.length < buf.length + segs.flatten.length ∧
        2147483648 ≤ (recvUntil target len buf segs).1.length := by
  induction segs generalizing buf with
  | nil => exact .inl rfl
  | cons seg segs ih =>
    by_cases hstop : target ≤ buf.length ∨ len ≤ buf.length
    · rw [recvLoop, recvUntil, if_pos hstop, if_pos hstop, recvEnded]
      refine .inl ?_
      simp
      omega
    by_cases hs : seg = []
    · rw [recvLoop, recvUntil, if_neg hstop, if_neg hstop, if_pos hs, if_pos hs, recvEnded]
      refine .inl ?_
      simp
      omega
    have hpos := List.length_pos_of_ne_nil hs
    by_cases hret : toInt32 (min seg.length (len - buf.length) : ℕ) ≤ 0
    · have hbig := (toInt32_count (by omega) (by omega)).mp hret
      have hideal := recvUntil_cons_length segs hstop hs
      rcases recvLoop_cons_lost segs hstop hs hret with ⟨hshort, hlost⟩
      exact .inr ⟨hshort, hlost, by omega⟩
    · rw [recvLoop, recvUntil, if_neg hstop, if_neg hstop, if_neg hs, if_neg hs, if_neg hret]
      by_cases hl : seg.length ≤ len - buf.length
      · have hnext := ih (buf ++ seg) (by rw [List.length_append]; omega)
        rw [List.length_append, Nat.add_assoc] at hnext
        rwa [if_pos hl, if_pos hl, List.flatten_cons, List.length_append]
      · rw [if_neg hl, if_neg hl, if_neg hl, recvEnded]
        refine .inl ?_
        simp
        omega

theorem recvUntil_stop {t len : ℕ} {buf : List Byte} (h : t ≤ buf.length ∨ len ≤ buf.length)
    (segs : List (List Byte)) : recvUntil t len buf segs = (buf, segs) := by
  cases segs with
  | nil => rfl
  | cons seg segs => rw [recvUntil, if_pos h]

theorem recvCalls_stop {t len : ℕ} {buf : List Byte} (h : t ≤ buf.length ∨ len ≤ buf.length)
    (segs : List (List Byte)) : recvCalls t len buf segs = [] := by
  cases segs with
  | nil => rw [recvCalls, if_pos h]
  | cons seg segs => rw [recvCalls, if_pos h]

theorem recvCalls_max {n target len : ℕ} {buf : List Byte} (h : n ≤ buf.length)
    (segs : List (List Byte)) :
    recvCalls (max n target) len buf segs = recvCalls target len buf segs := by
  induction segs generalizing buf with
  | nil => simp [recvCalls, h]
  | cons seg segs ih =>
    have hseg : n ≤ (buf ++ seg).length := by
      rw [List.length_append]
      omega
    simp only [recvCalls, ih hseg, max_le_iff, h, true_and]

theorem recvCalls_append {t t' len : ℕ} (ht : t ≤ t') (buf : List Byte)
    (segs : List (List Byte)) :
    recvCalls t len buf segs ++
        (if (recvUntil t len buf segs).1.length < t then []
          else recvCalls t' len (recvUntil t len buf segs).1 (recvUntil t len buf segs).2) =
      recvCalls t' len buf segs := by
  -- the first loop has stopped: the second one starts from the same buffer or stops too
  have hstopped : ∀ b ss, t ≤ b.length ∨ len ≤ b.length →
      recvCalls t len b ss ++
          (if (recvUntil t len b ss).1.length < t then []
            else recvCalls t' len (recvUntil t len b ss).1 (recvUntil t len b ss).2) =
        recvCalls t' len b ss := by
    intro b ss hstop
    rw [recvCalls_stop hstop, recvUntil_stop hstop, List.nil_append]
    by_cases hshort : b.length < t
    · rw [if_pos hshort, recvCalls_stop (.inr (hstop.resolve_left (by omega)))]
    · rw [if_neg hshort]
  induction segs generalizing buf with
  | nil =>
    by_cases hstop : t ≤ buf.length ∨ len ≤ buf.length
    · exact hstopped buf [] hstop
    · have hgo : ¬ (t' ≤ buf.length ∨ len ≤ buf.length) := by omega
      simp only [recvCalls, recvUntil, if_neg hstop, if_neg hgo]
      rw [if_pos (by omega), List.append_nil]
  | cons seg segs ih =>
    by_cases hstop : t ≤ buf.length ∨ len ≤ buf.length
    · exact hstopped buf (seg :: segs) hstop
    · have hgo : ¬ (t' ≤ buf.length ∨ len ≤ buf.length) := by omega
      simp only [recvCalls, recvUntil, if_neg hstop, if_neg hgo, List.cons_append]
      apply congrArg (buf :: ·)
      by_cases hs : seg = []
      · simp only [if_pos hs, List.nil_append]
        rw [if_pos (by omega)]
      · by_cases hl : seg.length ≤ len - buf.length
        · simp only [if_neg hs, if_pos hl]
          exact ih (buf ++ seg)
        · simp only [if_neg hs, if_neg hl, List.nil_append]
          split_ifs with hshort
          · rfl
          · -- the segment fills the buffer
            apply recvCalls_stop
            right
            rw [List.length_append, List.length_take]
            omega

theorem recvUntil_max {n target len : ℕ} {buf : List Byte} (h : n ≤ buf.length)
    (segs : List (List Byte)) :
    recvUntil (max n target) len buf segs = recvUntil target len buf segs := by
  induction segs generalizing buf with
  | nil => rfl
  | cons seg segs ih =>
    have hseg : n ≤ (buf ++ seg).length := by
      rw [List.length_append]
      omega
    simp only [recvUntil, ih hseg, max_le_iff, h, true_and]

/-- Going on to a larger target is one loop to that target. -/
theorem recvUntil_trans {t t' : ℕ} (ht : t ≤ t') (len : ℕ) (buf : List Byte)
    (segs : List (List Byte)) :
    recvUntil t' len buf segs =
      if (recvUntil t len buf segs).1.length < t then recvUntil t len buf segs
      else recvUntil t' len (recvUntil t len buf segs).1 (recvUntil t len buf segs).2 := by
  have hstopped : ∀ b ss, t ≤ b.length ∨ len ≤ b.length →
      recvUntil t' len b ss = if (recvUntil t len b ss).1.length < t then recvUntil t len b ss
        else recvUntil t' len (recvUntil t len b ss).1 (recvUntil t len b ss).2 := by
    intro b ss hstop
    rw [recvUntil_stop hstop]
    by_cases hshort : b.length < t
    · rw [if_pos hshort, recvUntil_stop (.inr (hstop.resolve_left (by omega)))]
    · rw [if_neg hshort]
  induction segs generalizing buf with
  | nil =>
    rw [recvUntil, recvUntil]
    split_ifs <;> rfl
  | cons seg segs ih =>
    by_cases hstop : t ≤ buf.length ∨ len ≤ buf.length
    · exact hstopped buf (seg :: segs) hstop
    · have hgo : ¬ (t' ≤ buf.length ∨ len ≤ buf.length) := by omega
      simp only [recvUntil, if_neg hstop, if_neg hgo]
      by_cases hs : seg = []
      · simp only [if_pos hs]
        rw [if_pos (by omega)]
      · by_cases hl : seg.length ≤ len - buf.length
        · simp only [if_neg hs, if_pos hl]
          exact ih (buf ++ seg)
        · simp only [if_neg hs, if_neg hl]
          split_ifs with hshort
          · rfl
          · -- the segment fills the buffer
            refine (recvUntil_stop (.inr ?_) _).symm
            rw [List.length_append, List.length_take]
            omega

/-- The total a read goes for, when the stream begins with these bytes. -/
def announced (stream : List Byte) : ℕ :=
  if stream.length < 8 then 8 else max 8 (tcpTotal stream)

theorem eight_le_announced (stream : List Byte) : 8 ≤ announced stream := by
  unfold announced
  split_ifs <;> omega

theorem announced_eq {header : List Byte} (h : 8 ≤ header.length) (rest : List Byte) :
    announced (header ++ rest) = max 8 (tcpTotal header) := by
  rw [announced, if_neg (by rw [List.length_append]; omega), tcpTotal, tcpTotal,
    headerOf_append h]

theorem tcpRecvs_eq (len : ℕ) (segs : List (List Byte)) :
    tcpRecvs len segs = recvCalls (announced segs.flatten) len [] segs := by
  have hflat := recvUntil_flatten 8 len [] segs
  rw [List.nil_append] at hflat
  rw [tcpRecvs, ← recvCalls_append (eight_le_announced segs.flatten) [] segs]
  by_cases hshort : (recvUntil 8 len [] segs).1.length < 8
  · rw [if_pos hshort, if_pos hshort]
  · have hheader : 8 ≤ (recvUntil 8 len [] segs).1.length := Nat.le_of_not_lt hshort
    have htotal : announced segs.flatten = max 8 (tcpTotal (recvUntil 8 len [] segs).1) := by
      rw [← hflat]
      exact announced_eq hheader _
    rw [if_neg hshort, if_neg hshort, htotal, recvCalls_max hheader]

/-- `tls_read` receives as one loop to the announced total does, or it has lost bytes. -/
theorem tcpReceive_cases {len : ℕ} (hlen : len < 4294967296) (segs : List (List Byte)) :
    tcpReceive len segs = recvEnded (announced segs.flatten) len
        (recvUntil (announced segs.flatten) len [] segs) ∨
      (tcpReceive len segs).buf.length + (tcpReceive len segs).rest.flatten.length <
          segs.flatten.length ∧
        2147483648 ≤ (recvUntil (announced segs.flatten) len [] segs).1.length := by
  have h8 := eight_le_announced segs.flatten
  have hflat := recvUntil_flatten 8 len [] segs
  have hroom := (recvUntil_length 8 [] segs (Nat.zero_le len)).2
  have htrans := recvUntil_trans h8 len [] segs
  have hloop := recvLoop_cases 8 hlen [] segs (Nat.zero_le len)
  rw [List.nil_append] at hflat
  set header := recvUntil 8 len [] segs with hheader
  rcases hloop with hagree | ⟨hshort, hlost, hbig⟩
  · by_cases hshort : header.1.length < 8
    · rw [if_pos hshort] at htrans
      refine .inl ?_
      have hflag : recvEnded (announced segs.flatten) len header = recvEnded 8 len header :=
        recvEnded_congr (iff_of_true (by omega) hshort)
      rw [tcpReceive, hagree, htrans, hflag]
      exact if_pos hshort
    · have hann : announced segs.flatten = max 8 (tcpTotal header.1) := by
        rw [← hflat]
        exact announced_eq (Nat.le_of_not_lt hshort) _
      have hrec : tcpReceive len segs =
          recvLoop (tcpTotal header.1) len header.1 header.2 := by
        rw [tcpReceive, hagree]
        exact if_neg hshort
      rw [if_neg hshort, hann, recvUntil_max (Nat.le_of_not_lt hshort)] at htrans
      rw [hrec, hann, htrans]
      have hgrown := (recvUntil_length (tcpTotal header.1) header.1 header.2 hroom).1
      rcases recvLoop_cases (tcpTotal header.1) hlen header.1 header.2 hroom with
        hagree' | ⟨-, hlost, hbig⟩
      · refine .inl ?_
        rw [hagree']
        exact recvEnded_congr (by rw [lt_max_iff]; omega)
      · refine .inr ⟨?_, hbig⟩
        rw [← hflat, List.length_append]
        exact hlost
  · rw [List.length_nil, Nat.zero_add] at hlost
    simp only [tcpReceive, if_pos hshort]
    refine .inr ⟨hlost, ?_⟩
    -- the first loop alone has that many bytes
    rw [htrans]
    split_ifs
    · exact hbig
    · exact hbig.trans (recvUntil_length _ header.1 header.2 hroom).1

theorem tcpRead_snd (len : ℕ) (segs : List (List Byte)) :
    (tcpRead len segs).2 = ((tcpReceive len segs).buf, (tcpReceive len segs).rest) := by
  simp only [tcpRead]
  split_ifs <;> rfl

/-- With less room than an `int` counts nothing is lost. -/
theorem tcpRead_flatten (len : ℕ) (segs : List (List Byte)) (hlen : len < 2147483648) :
    (tcpRead len segs).2.1 ++ (tcpRead len segs).2.2.flatten = segs.flatten := by
  rw [tcpRead_snd]
  rcases tcpReceive_cases (show len < 4294967296 by omega) segs with hagree | ⟨-, hbig⟩
  · rw [hagree]
    exact recvUntil_flatten _ _ [] segs
  · have := (recvUntil_length (announced segs.flatten) [] segs (Nat.zero_le len)).2
    omega

theorem firstFrame_eq_none_iff {p q : List Byte} :
    v2gtpFormat.firstFrame p = none ↔ ∀ k ∈ frameTotal (p ++ q), p.length < k := by
  constructor
  · intro h k hk
    by_contra hle
    have h8 : 8 ≤ p.length := by
      unfold frameTotal at hk
      split_ifs at hk
      · cases hk
        omega
      · cases hk
    have hp : frameTotal p = some (8 + (headerOf p).payloadLength.toNat) := if_pos h8
    have hpq := v2gtpFormat.total_append hp q
    rw [show v2gtpFormat.total (p ++ q) = some k from hk, Option.some_inj] at hpq
    have hsome : v2gtpFormat.firstFrame p = some (p.take k, p.drop k) := by
      rw [Format.firstFrame, show v2gtpFormat.total p = some k from hpq ▸ hp]
      exact if_pos (Nat.le_of_not_lt hle)
    rw [h] at hsome
    cases hsome
  · intro h
    cases hf : v2gtpFormat.firstFrame p with
    | none => rfl
    | some x =>
      rcases Format.firstFrame_eq_some (f := x.1) (r := x.2) hf with ⟨hk, hp⟩
      have hlt := h x.1.length (v2gtpFormat.total_append hk q)
      have hlen := congrArg List.length hp
      rw [List.length_append] at hlen
      omega

/-- No `recv` of the read ends at or after the end of the first frame and short of what the
read goes for. -/
def CutsClear (residue : List Byte) (segs : List (List Byte)) : Prop :=
  ∀ k ∈ frameTotal (residue ++ segs.flatten), ∀ m ∈ cuts segs,
    k ≤ residue.length + m → min (announced segs.flatten) 2048 ≤ m

instance (residue : List Byte) (segs : List (List Byte)) : Decidable (CutsClear residue segs) :=
  inferInstanceAs (Decidable (∀ k ∈ frameTotal _, ∀ m ∈ cuts segs, _ → _))

/-- `recv` is called only without a complete frame in what is there. -/
def ReadsPromptly (residue : List Byte) (segs : List (List Byte)) : Prop :=
  ∀ b ∈ tcpRecvs 2048 segs, v2gtpFormat.firstFrame (residue ++ b) = none

instance (residue : List Byte) (segs : List (List Byte)) :
    Decidable (ReadsPromptly residue segs) :=
  inferInstanceAs (Decidable (∀ b ∈ tcpRecvs 2048 segs, _))

theorem firstFrame_at_cut {residue : List Byte} {segs : List (List Byte)} {m : ℕ}
    (hm : m ∈ cuts segs) :
    v2gtpFormat.firstFrame (residue ++ segs.flatten.take m) = none ↔
      ∀ k ∈ frameTotal (residue ++ segs.flatten), residue.length + m < k := by
  have hle := le_of_mem_cuts hm
  rw [firstFrame_eq_none_iff (q := segs.flatten.drop m), List.append_assoc,
    List.take_append_drop, List.length_append, List.length_take, Nat.min_eq_left hle]

theorem readsPromptly_iff {residue : List Byte} {segs : List (List Byte)} :
    ReadsPromptly residue segs ↔ CutsClear residue segs := by
  unfold ReadsPromptly CutsClear
  constructor
  · intro h k hk m hm hkm
    by_contra hlt
    have hle := le_of_mem_cuts hm
    have hmem : segs.flatten.take m ∈ tcpRecvs 2048 segs := by
      rw [tcpRecvs_eq, mem_recvCalls]
      refine ⟨m, hm, rfl, ?_, ?_⟩
      · rw [List.length_take]
        omega
      · rw [List.length_take]
        omega
    have := (firstFrame_at_cut hm).mp (h _ hmem) k hk
    omega
  · intro h b hb
    rw [tcpRecvs_eq, mem_recvCalls] at hb
    rcases hb with ⟨m, hm, rfl, ht, hl⟩
    have hle := le_of_mem_cuts hm
    rw [List.nil_append, List.length_take, Nat.min_eq_left hle] at ht hl
    rw [List.nil_append, firstFrame_at_cut hm]
    intro k hk
    by_contra hkm
    have := h k hk m hm (Nat.le_of_not_lt hkm)
    omega

theorem cutsClear_nil {segs : List (List Byte)} {fs : List V2gtpFrame}
    (h : segs.flatten <+: streamOf fs) : CutsClear [] segs := by
  -- the announced length is that of the first frame: the read goes for its end
  rcases h with ⟨q, hq⟩
  intro k hk m hm hkm
  rw [List.nil_append] at hk
  have hmax : k ≤ 2048 := total_streamOf (hq ▸ v2gtpFormat.total_append hk q)
  have hk' := hk
  unfold frameTotal at hk'
  split_ifs at hk' with h8
  · cases hk'
    have hn : tcpTotal segs.flatten = 8 + (headerOf segs.flatten).payloadLength.toNat := by
      rw [tcpTotal, UInt32.toNat_add]
      exact Nat.mod_eq_of_lt (lt_of_le_of_lt hmax (by decide))
    rw [announced, if_neg (by omega), hn]
    rw [List.length_nil] at hkm
    omega
  · cases hk'

/-- A call of `v2g_process_message`: the context before it and what the socket holds. -/
structure TcpCall where
  ctx : SeccContext
  segs : List (List Byte)

section run
variable {ω : Type} (L : MessageLayer ω) (fuel : ℕ)

/-- At most `n` calls, each reading with `tcpRead`, up to the first that fails. -/
def tcpCalls : ℕ → List (List Byte) → SeccContext → ω → List TcpCall
  | 0, _, _, _ => []
  | n + 1, segs, ctx, world =>
    let read := tcpRead 2048 segs
    let r := v2gProcessMessage L fuel read.2.1 ctx world
    ⟨ctx, segs⟩ :: if r.exit = .done then tcpCalls n read.2.2 r.ctx r.world else []

variable {L fuel}

/-- Between two calls, what is in the buffer and what is still to be read begin together at a
frame. -/
theorem tcpCalls_invariant (hfuel : 2048 < fuel) (n : ℕ) {segs : List (List Byte)}
    {ctx : SeccContext} {world : ω} {fs : List V2gtpFrame}
    (h : ctx.recv.pending ++ segs.flatten <+: streamOf fs) :
    ∀ c ∈ tcpCalls L fuel n segs ctx world,
      ∃ gs, c.ctx.recv.pending ++ c.segs.flatten <+: streamOf gs := by
  induction n generalizing segs ctx world fs with
  | zero => simp [tcpCalls]
  | succ n ih =>
    rw [tcpCalls]
    refine List.forall_mem_cons.mpr ⟨⟨fs, h⟩, ?_⟩
    split_ifs with hdone
    · set read := tcpRead 2048 segs with hread
      have hne : read.2.1 ≠ [] := by
        intro hnil
        rw [v2gProcessMessage, if_pos hnil] at hdone
        cases hdone
      have hroom := v2gProcessMessage_overflow hne
        (show (v2gProcessMessage L fuel read.2.1 ctx world).exit ≠ .overflow by rw [hdone]; decide)
      rcases h with ⟨q, hq⟩
      rw [← tcpRead_flatten 2048 segs (by decide), ← hread, ← List.append_assoc,
        List.append_assoc] at hq
      have htail : TailFits (v2gtpFormat.residue (ctx.recv.pending ++ read.2.1)) := by
        have hfits := streamFits_streamOf (rfl : streamOf fs = streamOf fs)
          (ctx.recv.pending ++ read.2.1) ⟨_, hq⟩
        rwa [List.nil_append] at hfits
      have hpend := (v2gProcessMessage_exit world hfuel hne hroom htail).2 hdone
      -- what a call leaves in the buffer begins at a frame again
      rcases exists_frames_of_prefix hq with ⟨-, ts, -, -, hts, -⟩
      have hnext : (v2gProcessMessage L fuel read.2.1 ctx world).ctx.recv.pending ++
          read.2.2.flatten <+: streamOf ts := by
        refine ⟨q, ?_⟩
        rw [hpend, List.append_assoc]
        exact hts
      exact ih hnext
    · simp

/-- Every read of every call is prompt if and only if no `recv` of a call that begins inside
a frame ends past that frame and short of the total the read takes from its own bytes. -/
theorem reads_prompt_iff (hfuel : 2048 < fuel) (n : ℕ) {segs : List (List Byte)}
    {ctx : SeccContext} {world : ω} {fs : List V2gtpFrame} (hempty : ctx.recv.len = 0)
    (hflat : segs.flatten <+: streamOf fs) :
    (∀ c ∈ tcpCalls L fuel n segs ctx world, ReadsPromptly c.ctx.recv.pending c.segs) ↔
      ∀ c ∈ tcpCalls L fuel n segs ctx world,
        c.ctx.recv.pending ≠ [] → CutsClear c.ctx.recv.pending c.segs := by
  have hinv : ∀ c ∈ tcpCalls L fuel n segs ctx world,
      ∃ gs, c.ctx.recv.pending ++ c.segs.flatten <+: streamOf gs := by
    apply tcpCalls_invariant hfuel n
    rw [pending_eq_nil hempty]
    exact hflat
  constructor
  · intro h c hc _
    exact readsPromptly_iff.mp (h c hc)
  · intro h c hc
    apply readsPromptly_iff.mpr
    by_cases hnil : c.ctx.recv.pending = []
    · rcases hinv c hc with ⟨gs, hgs⟩
      rw [hnil] at hgs ⊢
      exact cutsClear_nil hgs
    · exact h c hc hnil

end run

/-- Twelve zeros between two requests. -/
def zerosBetween : List V2gtpFrame :=
  threeFrames.take 1 ++ [⟨0x8001, List.replicate 12 0, by decide⟩] ++ threeFrames.drop 2

def zerosBetweenSegs : List (List Byte) :=
  [(streamOf zerosBetween).take 18, ((streamOf zerosBetween).drop 18).take 12,
    (streamOf zerosBetween).drop 30]

theorem reads_prompt_iff_zerosBetween :
    (tcpCalls answeringLayer 2049 3 zerosBetweenSegs .initial ()).map
        (fun c => c.ctx.recv.pending.length) = [0, 8, 0] ∧
      ∀ c ∈ tcpCalls answeringLayer 2049 3 zerosBetweenSegs .initial (),
        ReadsPromptly c.ctx.recv.pending c.segs := by
  refine ⟨by decide +kernel, ?_⟩
  exact (reads_prompt_iff (by decide) 3 rfl
    (show _ <+: streamOf zerosBetween from ⟨[], by decide⟩)).mpr (by decide +kernel)

/-- The first of `threeFrames`, twice. -/
def twoFrames : List V2gtpFrame := threeFrames.take 1 ++ threeFrames.take 1

/-- The first `recv` finds half of the second frame too, the next one the other half: the
second call asks for more, with both halves there. -/
theorem read_waits_twoFrames :
    [(streamOf twoFrames).take 15, (streamOf twoFrames).drop 15].flatten = streamOf twoFrames ∧
      ∃ c ∈ tcpCalls answeringLayer 2049 2
          [(streamOf twoFrames).take 15, (streamOf twoFrames).drop 15] .initial (),
        ¬ ReadsPromptly c.ctx.recv.pending c.segs := by
  decide +kernel

end EvseIso15118
