import EvseIso15118.JsonBounds

namespace EvseIso15118.Json

/-- `%d` -/
def integer (n : ℤ) : List UInt8 := if n < 0 then 0x2D :: decimal n.natAbs else decimal n.natAbs

theorem integer_natCast (n : ℕ) : integer n = decimal n :=
  if_neg (not_lt.mpr (Int.natCast_nonneg n))

theorem parseUnsigned_decimal (sign : ℤ) (n : ℕ) {b : UInt8} (hb : EndsNumber b)
    (rest : List UInt8) :
    parseUnsigned sign (decimal n ++ b :: rest) = some (.number (sign * n) 0, b :: rest) := by
  have hfraction : parseFraction (b :: rest) = some ([], b :: rest) :=
    if_neg fun h => hb.2.1 (Option.some.inj h)
  have hexponent : parseExponent (b :: rest) = some (0, b :: rest) :=
    if_neg fun h => h.elim (fun h => hb.2.2.1 (Option.some.inj h))
      fun h => hb.2.2.2 (Option.some.inj h)
  rw [parseUnsigned, parseWhole_decimal n hb]
  simp [hfraction, hexponent, digitsValue_decimal]

section
variable {bs rest : List UInt8} {d : ℕ}

theorem reads_integer (n : ℤ) {b : UInt8} (hb : EndsNumber b)
    (hspace : skipSpace bs = integer n ++ b :: rest) :
    Reads (parseValue (d + 1)) bs (.number n 0) True (b :: rest) := by
  unfold integer at hspace
  split_ifs at hspace with hn
  · apply Reads.of_eq
    have hneg : (-1 : ℤ) * n.natAbs = n := by omega
    have hread := parseUnsigned_decimal (-1) n.natAbs hb rest
    rw [hneg] at hread
    rw [parseValue, hspace, ← hread]
    rfl
  · have hread := reads_decimal (d := d) hb hspace
    rwa [Int.natAbs_of_nonneg (not_lt.mp hn)] at hread

end

inductive Field
  | number (n : ℤ)
  /-- Pasted between quotes as it is. -/
  | text (s : List UInt8)

namespace Field

def print : Field → List UInt8
  | number n => integer n
  | text s => quote :: (s ++ [quote])

def value : Field → Value
  | number n => .number n 0
  | text s => .string s

def IsPlain : Field → Prop
  | number _ => True
  | text s => Plain s

end Field

def memberLine (m : List UInt8 × Field) : List UInt8 :=
  0x0A :: 0x20 :: 0x20 :: quote :: (m.1 ++ quote :: colon :: 0x20 :: m.2.print)

theorem memberLine_number_append (key : List UInt8) (n : ℤ) (rest : List UInt8) :
    memberLine (key, .number n) ++ rest =
      0x0A :: 0x20 :: 0x20 :: quote :: (key ++ quote :: colon :: 0x20 :: (integer n ++ rest)) := by
  simp only [memberLine, Field.print, List.cons_append, List.append_assoc]

theorem memberLine_text_append (key s rest : List UInt8) :
    memberLine (key, .text s) ++ rest = 0x0A :: 0x20 :: 0x20 :: quote ::
      (key ++ quote :: colon :: 0x20 :: quote :: (s ++ quote :: rest)) := by
  simp only [memberLine, Field.print, List.cons_append, List.append_assoc, List.nil_append]

def recordText (ms : List (List UInt8 × Field)) : List UInt8 :=
  0x7B :: ([comma].intercalate (ms.map memberLine) ++ [0x0A, 0x7D, 0x0A])

def record (ms : List (List UInt8 × Field)) : Value := .object (ms.map fun m => (m.1, m.2.value))

/-- With this text neither a number nor a string goes on. -/
def EndsField (rest : List UInt8) : Prop :=
  (∃ b bs, rest = b :: bs ∧ EndsNumber b) ∧ ∀ n, parseChars n rest = none

theorem endsField_newline (rest : List UInt8) : EndsField (0x0A :: rest) :=
  ⟨⟨_, _, rfl, by decide⟩, parseChars_control (s := []) (List.forall_mem_nil _) (by decide) rest⟩

theorem endsField_comma (rest : List UInt8) : EndsField (comma :: 0x0A :: rest) :=
  ⟨⟨_, _, rfl, by decide⟩,
    parseChars_control (s := [comma]) (List.forall_mem_singleton.mpr (by decide)) (by decide) rest⟩

section
variable {d : ℕ} {rest : List UInt8}

theorem reads_field (f : Field) (hrest : EndsField rest) :
    Reads (parseValue (d + 1)) (0x20 :: (f.print ++ rest)) f.value f.IsPlain rest := by
  rcases hrest with ⟨⟨b, bs, rfl, hb⟩, hstop⟩
  cases f with
  | number n =>
    apply reads_integer n hb
    have hdigits := skipSpace_decimal n.natAbs (b :: bs)
    change skipSpace (integer n ++ b :: bs) = integer n ++ b :: bs
    unfold integer
    split_ifs
    · rfl
    · exact hdigits
  | text s =>
    apply reads_string ?_ hstop
    change skipSpace (quote :: (s ++ [quote] ++ b :: bs)) = _
    rw [List.append_assoc]
    rfl

theorem reads_memberLine {m : List UInt8 × Field} (hkey : Plain m.1) (hrest : EndsField rest) :
    Reads (parseMember (parseValue (d + 1))) (memberLine m ++ rest) (m.1, m.2.value) m.2.IsPlain
      rest := by
  have hquote : expect quote (memberLine m ++ rest) =
      some (m.1 ++ quote :: colon :: 0x20 :: (m.2.print ++ rest)) := by
    simp only [memberLine, List.cons_append, List.append_assoc]
    rfl
  exact Reads.member hkey hquote rfl (reads_field m.2 hrest)

theorem intercalate_memberLine (m : List UInt8 × Field) (ms : List (List UInt8 × Field)) :
    ∃ bs, [comma].intercalate (memberLine m :: ms.map memberLine) =
      0x0A :: 0x20 :: 0x20 :: quote :: bs := by
  cases ms with
  | nil => exact ⟨_, List.intercalate_singleton⟩
  | cons m' ms => exact ⟨_, List.intercalate_cons_of_ne_nil (by simp)⟩

theorem reads_memberLines {ms : List (List UInt8 × Field)} (hne : ms ≠ [])
    (hkeys : ∀ m ∈ ms, Plain m.1) {n : ℕ} (hn : ms.length ≤ n) :
    Reads (parseItems (parseMember (parseValue (d + 1))) 0x7D n)
      ([comma].intercalate (ms.map memberLine) ++ 0x0A :: 0x7D :: rest)
      (ms.map fun m => (m.1, m.2.value)) (∀ m ∈ ms, m.2.IsPlain) rest := by
  induction ms generalizing n with
  | nil => exact absurd rfl hne
  | cons m ms ih =>
    obtain ⟨n, rfl⟩ : ∃ k, n = k + 1 := ⟨n - 1, by simp at hn; omega⟩
    rw [List.forall_mem_cons] at hkeys
    cases ms with
    | nil =>
      rw [List.map_singleton, List.map_singleton, List.intercalate_singleton]
      have hclose : expect 0x7D (0x0A :: 0x7D :: rest) = some rest := rfl
      have hlast := (reads_memberLine (d := d) hkeys.1 (endsField_newline _)).last hclose n
      exact hlast.congr (by simp)
    | cons m' ms =>
      have hrest := ih (List.cons_ne_nil m' ms) hkeys.2 (Nat.le_of_succ_le_succ hn)
      rcases intercalate_memberLine m' ms with ⟨bs, hbs⟩
      rw [List.map_cons, List.map_cons, List.intercalate_cons_of_ne_nil (by simp),
        List.append_assoc, List.append_assoc, List.forall_mem_cons]
      rw [List.map_cons (f := memberLine), hbs] at hrest
      rw [hbs]
      exact (reads_memberLine hkeys.1 (endsField_comma _)).cons rfl rfl hrest (by simp)

end

/-- A record is read as it is meant if and only if no text in it needs an escape. -/
theorem parse_record_iff {ms : List (List UInt8 × Field)} (hne : ms ≠ [])
    (hkeys : ∀ m ∈ ms, Plain m.1) :
    parse (recordText ms) = some (record ms) ↔ ∀ m ∈ ms, m.2.IsPlain := by
  have hlength : ms.length ≤
      ([comma].intercalate (ms.map memberLine) ++ [0x0A, 0x7D, 0x0A]).length := by
    rw [List.length_append]
    exact (length_le_length_intercalate (fun m => List.cons_ne_nil _ _) ms).trans
      (Nat.le_add_right _ _)
  have hfirst : expect 0x7D ([comma].intercalate (ms.map memberLine) ++ [0x0A, 0x7D, 0x0A]) =
      none := by
    obtain ⟨m, ms, rfl⟩ := List.exists_cons_of_ne_nil hne
    rcases intercalate_memberLine m ms with ⟨bs, hbs⟩
    rw [List.map_cons, hbs]
    rfl
  have hvalue : ∀ d, Reads (parseValue (d + 2)) (recordText ms) (record ms)
      (∀ m ∈ ms, m.2.IsPlain) [0x0A] := fun d =>
    Reads.object rfl (Reads.list hlength hfirst fun n =>
      reads_memberLines hne hkeys (Nat.le_add_left _ n))
  exact (hvalue _).parse_iff (Nat.lt_add_of_pos_right two_pos) rfl

end EvseIso15118.Json
