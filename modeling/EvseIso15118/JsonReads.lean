import EvseIso15118.Json

namespace EvseIso15118.Json

/-- `%u`: no leading zero. -/
def decimal (n : ℕ) : List UInt8 :=
  if n = 0 then [0x30] else ((Nat.digits 10 n).map fun d => UInt8.ofNat (0x30 + d)).reverse

theorem toNat_digit {d : ℕ} (hd : d < 10) : (UInt8.ofNat (0x30 + d)).toNat = 0x30 + d := by
  rw [UInt8.toNat_ofNat']
  omega

theorem isDigit_iff {b : UInt8} : isDigit b = true ↔ 0x30 ≤ b.toNat ∧ b.toNat ≤ 0x39 := by
  rw [isDigit, Bool.and_eq_true, decide_eq_true_eq, decide_eq_true_eq, UInt8.le_iff_toNat_le,
    UInt8.le_iff_toNat_le]
  rfl

theorem isDigit_of_mem_decimal {n : ℕ} {b : UInt8} (h : b ∈ decimal n) : isDigit b = true := by
  rw [decimal] at h
  split_ifs at h
  · rw [List.mem_singleton.mp h]
    rfl
  · rw [List.mem_reverse, List.mem_map] at h
    obtain ⟨d, hd, rfl⟩ := h
    have hlt : d < 10 := Nat.digits_lt_base (by decide) hd
    rw [isDigit_iff, toNat_digit hlt]
    omega

theorem digitsValue_decimal (n : ℕ) : digitsValue (decimal n) = n := by
  rw [decimal, digitsValue]
  split_ifs with hn
  · rw [hn]
    rfl
  · rw [List.reverse_reverse, List.map_map]
    have hdigits : ∀ d ∈ Nat.digits 10 n,
        ((fun b : UInt8 => b.toNat - 0x30) ∘ fun d => UInt8.ofNat (0x30 + d)) d = id d := by
      intro d hd
      rw [Function.comp_apply, toNat_digit (Nat.digits_lt_base (by decide) hd),
        Nat.add_sub_cancel_left, id]
    rw [List.map_congr_left hdigits, List.map_id, Nat.ofDigits_digits]

theorem exists_decimal_eq_cons (n : ℕ) :
    ∃ b ds, decimal n = b :: ds ∧ (b = 0x30 → n = 0 ∧ ds = []) := by
  rw [decimal]
  split_ifs with hn
  · exact ⟨0x30, [], rfl, fun _ => ⟨hn, rfl⟩⟩
  · have hne : Nat.digits 10 n ≠ [] := Nat.digits_ne_nil_iff_ne_zero.mpr hn
    have hne' : (Nat.digits 10 n).reverse ≠ [] := List.reverse_ne_nil_iff.mpr hne
    refine ⟨_, _, by rw [← List.map_reverse, ← List.cons_head_tail hne', List.map_cons],
      fun hzero => ?_⟩
    have hlast : (Nat.digits 10 n).getLast hne ≠ 0 := Nat.getLast_digit_ne_zero 10 hn
    have hlt : (Nat.digits 10 n).getLast hne < 10 :=
      Nat.digits_lt_base (by decide) (List.getLast_mem hne)
    rw [List.head_reverse] at hzero
    have htoNat := congrArg UInt8.toNat hzero
    rw [toNat_digit hlt] at htoNat
    exact absurd (Nat.add_eq_left.mp htoNat) hlast

theorem skipSpace_decimal (n : ℕ) (rest : List UInt8) :
    skipSpace (decimal n ++ rest) = decimal n ++ rest := by
  obtain ⟨b, ds, hcons, -⟩ := exists_decimal_eq_cons n
  have hb : isDigit b = true := isDigit_of_mem_decimal (n := n) (hcons ▸ List.mem_cons_self)
  have hspace : ¬ isSpace b = true := by
    intro h
    simp only [isSpace, Bool.or_eq_true, beq_iff_eq] at h
    obtain ((rfl | rfl) | rfl) | rfl := h <;> exact absurd hb (by decide)
  rw [hcons, List.cons_append, skipSpace, List.dropWhile_cons_of_neg hspace]

/-- A byte with which no number goes on. -/
def EndsNumber (b : UInt8) : Prop := isDigit b = false ∧ b ≠ 0x2E ∧ b ≠ 0x65 ∧ b ≠ 0x45

instance : DecidablePred EndsNumber := fun b =>
  inferInstanceAs (Decidable (isDigit b = false ∧ b ≠ 0x2E ∧ b ≠ 0x65 ∧ b ≠ 0x45))

theorem parseWhole_decimal (n : ℕ) {b : UInt8} (hb : EndsNumber b) (rest : List UInt8) :
    parseWhole (decimal n ++ b :: rest) = some (decimal n, b :: rest) := by
  obtain ⟨d, ds, hcons, hzero⟩ := exists_decimal_eq_cons n
  rw [parseWhole, hcons, List.cons_append, List.head?_cons, List.tail_cons]
  by_cases hd : d = 0x30
  · rw [if_pos (congrArg some hd), (hzero hd).2, hd, List.nil_append]
  · have hall : ∀ c ∈ d :: ds, isDigit c = true := fun c hc =>
      isDigit_of_mem_decimal (hcons ▸ hc)
    have hstop : ¬ isDigit b = true := by rw [hb.1]; decide
    rw [if_neg (fun h => hd (Option.some.inj h)), parseDigits, ← List.cons_append,
      List.takeWhile_append_of_pos hall, List.dropWhile_append_of_pos hall,
      List.takeWhile_cons_of_neg hstop, List.dropWhile_cons_of_neg hstop, List.append_nil,
      if_neg (List.cons_ne_nil d ds)]

theorem parseNumber_decimal (n : ℕ) {b : UInt8} (hb : EndsNumber b) (rest : List UInt8) :
    parseNumber (decimal n ++ b :: rest) = some (.number n 0, b :: rest) := by
  have hminus : (decimal n ++ b :: rest).head? ≠ some 0x2D := by
    obtain ⟨d, ds, hcons, -⟩ := exists_decimal_eq_cons n
    have hd : isDigit d = true := isDigit_of_mem_decimal (n := n) (hcons ▸ List.mem_cons_self)
    rw [hcons, List.cons_append, List.head?_cons]
    intro h
    rw [Option.some.inj h] at hd
    exact absurd hd (by decide)
  have hfraction : parseFraction (b :: rest) = some ([], b :: rest) :=
    if_neg fun h => hb.2.1 (Option.some.inj h)
  have hexponent : parseExponent (b :: rest) = some (0, b :: rest) :=
    if_neg fun h => h.elim (fun h => hb.2.2.1 (Option.some.inj h))
      fun h => hb.2.2.2 (Option.some.inj h)
  rw [parseNumber, if_neg hminus, parseUnsigned, parseWhole_decimal n hb]
  simp [hfraction, hexponent, digitsValue_decimal]

section
variable {β γ : Type}

/-- `read` gets `x` from `bs` if and only if `P` holds, and leaves `rest`. -/
def Reads (read : List UInt8 → Option (β × List UInt8)) (bs : List UInt8) (x : β) (P : Prop)
    (rest : List UInt8) : Prop :=
  ∀ left, read bs = some (x, left) ↔ P ∧ left = rest

variable {read : List UInt8 → Option (β × List UInt8)} {bs bs' rest rest' : List UInt8} {x : β}
  {P Q : Prop}

theorem Reads.of_eq (h : read bs = some (x, rest)) : Reads read bs x True rest := by
  intro left
  rw [h, Option.some.injEq, Prod.mk.injEq, eq_comm (a := rest)]
  simp

theorem Reads.congr (h : Reads read bs x P rest) (hPQ : P ↔ Q) : Reads read bs x Q rest := by
  intro left
  rw [h left, hPQ]

theorem Reads.map {f : β → γ} (hf : Function.Injective f)
    {read' : List UInt8 → Option (γ × List UInt8)}
    (hread : read' bs' = (read bs).map fun r => (f r.1, r.2)) (h : Reads read bs x P rest) :
    Reads read' bs' (f x) P rest := by
  intro left
  rw [hread, ← h left, Option.map_eq_some_iff]
  constructor
  · rintro ⟨⟨y, l⟩, hy, heq⟩
    obtain ⟨hfy, rfl⟩ := Prod.mk.inj heq
    exact hy.trans (congrArg (fun z => some (z, l)) (hf hfy))
  · intro hx
    exact ⟨_, hx, rfl⟩

variable {item : List UInt8 → Option (β × List UInt8)} {close : UInt8}

theorem parseItems_ne_nil {n : ℕ} : parseItems item close n bs ≠ some ([], rest) := by
  cases n with
  | zero => simp [parseItems]
  | succ n =>
    rw [parseItems]
    intro h
    obtain ⟨⟨y, mid⟩, -, h⟩ := Option.bind_eq_some_iff.mp h
    dsimp only at h
    split at h
    · simp at h
    · obtain ⟨mid', -, h⟩ := Option.bind_eq_some_iff.mp h
      obtain ⟨r, -, h⟩ := Option.bind_eq_some_iff.mp h
      simp at h

theorem Reads.last (h : Reads item bs x P rest) (hclose : expect close rest = some rest') (n : ℕ) :
    Reads (parseItems item close (n + 1)) bs [x] P rest' := by
  intro left
  rw [parseItems]
  constructor
  · intro hitems
    obtain ⟨⟨y, mid⟩, hy, hitems⟩ := Option.bind_eq_some_iff.mp hitems
    dsimp only at hitems
    split at hitems
    · rename_i left' hleft
      simp only [Option.some.injEq, Prod.mk.injEq, List.cons.injEq, and_true] at hitems
      obtain ⟨rfl, rfl⟩ := hitems
      obtain ⟨hP, rfl⟩ := (h mid).mp hy
      exact ⟨hP, Option.some.inj (hleft.symm.trans hclose)⟩
    · obtain ⟨mid', -, hitems⟩ := Option.bind_eq_some_iff.mp hitems
      obtain ⟨⟨ys, left'⟩, hys, hitems⟩ := Option.bind_eq_some_iff.mp hitems
      simp only [Option.some.injEq, Prod.mk.injEq, List.cons.injEq] at hitems
      exact absurd (hitems.1.2 ▸ hys) parseItems_ne_nil
  · rintro ⟨hP, rfl⟩
    rw [(h rest).mpr ⟨hP, rfl⟩]
    simp [hclose]

theorem Reads.cons {n : ℕ} {xs : List β} (h : Reads item bs x P rest)
    (hclose : expect close rest = none) (hcomma : expect comma rest = some bs')
    (hrest : Reads (parseItems item close n) bs' xs Q rest') (hxs : xs ≠ []) :
    Reads (parseItems item close (n + 1)) bs (x :: xs) (P ∧ Q) rest' := by
  intro left
  rw [parseItems]
  constructor
  · intro hitems
    obtain ⟨⟨y, mid⟩, hy, hitems⟩ := Option.bind_eq_some_iff.mp hitems
    dsimp only at hitems
    split at hitems
    · simp only [Option.some.injEq, Prod.mk.injEq, List.cons.injEq] at hitems
      exact absurd hitems.1.2.symm hxs
    · obtain ⟨mid', hmid', hitems⟩ := Option.bind_eq_some_iff.mp hitems
      obtain ⟨⟨ys, left'⟩, hys, hitems⟩ := Option.bind_eq_some_iff.mp hitems
      simp only [Option.some.injEq, Prod.mk.injEq, List.cons.injEq] at hitems
      obtain ⟨⟨rfl, rfl⟩, rfl⟩ := hitems
      obtain ⟨hP, rfl⟩ := (h mid).mp hy
      obtain rfl := Option.some.inj (hmid'.symm.trans hcomma)
      obtain ⟨hQ, rfl⟩ := (hrest left').mp hys
      exact ⟨⟨hP, hQ⟩, rfl⟩
  · rintro ⟨⟨hP, hQ⟩, rfl⟩
    rw [(h rest).mpr ⟨hP, rfl⟩]
    simp [hclose, hcomma, (hrest left).mpr ⟨hQ, rfl⟩]

theorem length_le_length_intercalate {α : Type*} {text : α → List UInt8}
    (htext : ∀ a, text a ≠ []) (as : List α) :
    as.length ≤ ([comma].intercalate (as.map text)).length := by
  induction as with
  | nil => exact Nat.zero_le _
  | cons a as ih =>
    have hpos := List.length_pos_of_ne_nil (htext a)
    cases as with
    | nil =>
      rw [List.map_singleton, List.intercalate_singleton]
      exact hpos
    | cons b as =>
      rw [List.map_cons, List.intercalate_cons_of_ne_nil (by simp), List.length_append,
        List.length_append, List.length_cons, List.length_singleton]
      omega

/-- Items of one kind, with commas between them: all of them are read or none. -/
theorem Reads.intercalate {α : Type*} {text : α → List UInt8} {value : α → β} {C : α → Prop}
    (hitem : ∀ a after, Reads item (text a ++ after) (value a) (C a) after)
    (hcomma : close ≠ comma) (hclose : expect close rest = some rest') {as : List α}
    (has : as ≠ []) {n : ℕ} (hn : as.length ≤ n) :
    Reads (parseItems item close n) ([comma].intercalate (as.map text) ++ rest) (as.map value)
      (∀ a ∈ as, C a) rest' := by
  induction as generalizing n with
  | nil => exact absurd rfl has
  | cons a as ih =>
    obtain ⟨n, rfl⟩ : ∃ m, n = m + 1 := ⟨n - 1, by simp at hn; omega⟩
    cases as with
    | nil =>
      rw [List.map_singleton, List.map_singleton, List.intercalate_singleton]
      simpa using (hitem a rest).last hclose n
    | cons b as =>
      have hrest := ih (List.cons_ne_nil b as) (Nat.le_of_succ_le_succ hn)
      have hnone : ∀ after, expect close (comma :: after) = none := fun after => by
        rw [expect, skipSpace, List.dropWhile_cons_of_neg (by decide)]
        exact if_neg hcomma.symm
      rw [List.map_cons, List.map_cons, List.intercalate_cons_of_ne_nil (by simp),
        List.append_assoc, List.append_assoc, List.forall_mem_cons]
      exact (hitem a _).cons (hnone _) rfl hrest (by simp)

theorem Reads.empty (h : expect close bs = some rest) :
    Reads (parseList item close) bs [] True rest := by
  apply Reads.of_eq
  rw [parseList, h]

/-- A list of `k` items, which the length of the text leaves room for. -/
theorem Reads.list {k : ℕ} (hk : k ≤ bs.length) (hclose : expect close bs = none)
    {xs : List β} (h : ∀ n, Reads (parseItems item close (n + k)) bs xs P rest) :
    Reads (parseList item close) bs xs P rest := by
  intro left
  rw [parseList, hclose, ← Nat.sub_add_cancel hk]
  exact h _ left

end

section
variable {bs bs' bs'' rest : List UInt8} {P : Prop} {v : Value} {d : ℕ}

theorem Reads.member {value : List UInt8 → Option (Value × List UInt8)} {key : List UInt8}
    (hkey : Plain key) (hquote : expect quote bs = some (key ++ quote :: bs'))
    (hcolon : expect colon bs' = some bs'') (h : Reads value bs'' v P rest) :
    Reads (parseMember value) bs (key, v) P rest := by
  apply h.map (Prod.mk_right_injective key)
  rw [parseMember, hquote]
  simp only [Option.bind_eq_bind, Option.bind_some, parseString_plain hkey, hcolon]
  cases value bs'' <;> rfl

theorem reads_string {s : List UInt8} (hquote : skipSpace bs = quote :: (s ++ quote :: rest))
    (hrest : ∀ n, parseChars n rest = none) :
    Reads (parseValue (d + 1)) bs (.string s) (Plain s) rest := by
  refine Reads.map (fun a b => Value.string.inj) ?_ fun left => parseString_eq_some_iff hrest
  rw [parseValue, hquote]
  rfl

theorem reads_decimal {n : ℕ} {b : UInt8} (hb : EndsNumber b)
    (hspace : skipSpace bs = decimal n ++ b :: rest) :
    Reads (parseValue (d + 1)) bs (.number n 0) True (b :: rest) := by
  apply Reads.of_eq
  rw [parseValue, hspace, ← parseNumber_decimal n hb]
  obtain ⟨c, ds, hcons, -⟩ := exists_decimal_eq_cons n
  have hc : isDigit c = true := isDigit_of_mem_decimal (n := n) (hcons ▸ List.mem_cons_self)
  have hne : ∀ x : UInt8, isDigit x = false → c ≠ x := fun x hx h => by
    rw [h, hx] at hc
    cases hc
  rw [hcons, List.cons_append]
  dsimp only
  rw [if_neg (hne 0x7B rfl), if_neg (hne 0x5B rfl), if_neg (hne quote rfl), if_pos (.inr hc)]

theorem Reads.object {ms : List (List UInt8 × Value)} (hopen : skipSpace bs = 0x7B :: bs')
    (h : Reads (parseList (parseMember (parseValue d)) 0x7D) bs' ms P rest) :
    Reads (parseValue (d + 1)) bs (.object ms) P rest := by
  apply h.map (fun a b => Value.object.inj)
  rw [parseValue, hopen]
  rfl

theorem Reads.array {vs : List Value} (hopen : skipSpace bs = 0x5B :: bs')
    (h : Reads (parseList (parseValue d) 0x5D) bs' vs P rest) :
    Reads (parseValue (d + 1)) bs (.array vs) P rest := by
  apply h.map (fun a b => Value.array.inj)
  rw [parseValue, hopen]
  rfl

theorem Reads.arrayOf {α : Type*} {text : α → List UInt8} {value : α → Value} {C : α → Prop}
    {as : List α} {rest' : List UInt8}
    (hitem : ∀ a after, Reads (parseValue d) (text a ++ after) (value a) (C a) after)
    (htext : ∀ a, text a ≠ []) (has : as ≠ [])
    (hfirst : expect 0x5D ([comma].intercalate (as.map text) ++ rest) = none)
    (hclose : expect 0x5D rest = some rest') :
    Reads (parseValue (d + 1)) (0x5B :: ([comma].intercalate (as.map text) ++ rest))
      (.array (as.map value)) (∀ a ∈ as, C a) rest' := by
  have hlength : as.length ≤ ([comma].intercalate (as.map text) ++ rest).length := by
    rw [List.length_append]
    exact (length_le_length_intercalate htext as).trans (Nat.le_add_right _ _)
  exact Reads.array rfl (Reads.list hlength hfirst fun n =>
    Reads.intercalate hitem (by decide) hclose has (Nat.le_add_left _ n))

end

end EvseIso15118.Json
