import Mathlib

namespace EvseIso15118.Json

/-- A number keeps its decimal digits, an object its members in the order of the text, also where a
key comes twice. -/
inductive Value where
  | null
  | bool (b : Bool)
  /-- `mantissa * 10 ^ exponent` -/
  | number (mantissa exponent : ℤ)
  | string (s : List UInt8)
  | array (items : List Value)
  | object (members : List (List UInt8 × Value))

abbrev quote : UInt8 := 0x22
abbrev backslash : UInt8 := 0x5C
abbrev comma : UInt8 := 0x2C
abbrev colon : UInt8 := 0x3A

def isSpace (b : UInt8) : Bool := b == 0x20 || b == 0x09 || b == 0x0A || b == 0x0D

def skipSpace (bs : List UInt8) : List UInt8 := bs.dropWhile isSpace

/-- Skips white space and the byte `c` after it. -/
def expect (c : UInt8) (bs : List UInt8) : Option (List UInt8) :=
  match skipSpace bs with
  | [] => none
  | b :: rest => if b = c then some rest else none

def hexDigit (b : UInt8) : Option ℕ :=
  if 0x30 ≤ b ∧ b ≤ 0x39 then some (b.toNat - 0x30)
  else if 0x41 ≤ b ∧ b ≤ 0x46 then some (b.toNat - 0x37)
  else if 0x61 ≤ b ∧ b ≤ 0x66 then some (b.toNat - 0x57)
  else none

def hex4 : List UInt8 → Option (ℕ × List UInt8)
  | a :: b :: c :: d :: rest => do
    let a ← hexDigit a
    let b ← hexDigit b
    let c ← hexDigit c
    let d ← hexDigit d
    some (((a * 16 + b) * 16 + c) * 16 + d, rest)
  | _ => none

/-- A second `\u` escape. -/
def nextUnicode : List UInt8 → Option (ℕ × List UInt8)
  | a :: b :: rest => if a = backslash ∧ b = 0x75 then hex4 rest else none
  | _ => none

/-- The code point of a `\u` escape, of two of them for a surrogate pair. -/
def unicodeEscape (bs : List UInt8) : Option (ℕ × List UInt8) := do
  let (hi, rest) ← hex4 bs
  if hi < 0xD800 ∨ 0xE000 ≤ hi then some (hi, rest)
  else do
    let (lo, rest) ← nextUnicode rest
    if hi < 0xDC00 ∧ 0xDC00 ≤ lo ∧ lo < 0xE000 then
      some (0x10000 + (hi - 0xD800) * 0x400 + (lo - 0xDC00), rest)
    else none

def utf8 (n : ℕ) : List UInt8 :=
  if n < 0x80 then [.ofNat n]
  else if n < 0x800 then [.ofNat (0xC0 + n / 0x40), .ofNat (0x80 + n % 0x40)]
  else if n < 0x10000 then
    [.ofNat (0xE0 + n / 0x1000), .ofNat (0x80 + n / 0x40 % 0x40), .ofNat (0x80 + n % 0x40)]
  else [.ofNat (0xF0 + n / 0x40000), .ofNat (0x80 + n / 0x1000 % 0x40),
    .ofNat (0x80 + n / 0x40 % 0x40), .ofNat (0x80 + n % 0x40)]

def simpleEscape (b : UInt8) : Option UInt8 :=
  if b = quote ∨ b = backslash ∨ b = 0x2F then some b
  else if b = 0x62 then some 0x08
  else if b = 0x66 then some 0x0C
  else if b = 0x6E then some 0x0A
  else if b = 0x72 then some 0x0D
  else if b = 0x74 then some 0x09
  else none

def escape : List UInt8 → Option (List UInt8 × List UInt8)
  | [] => none
  | b :: rest =>
    if b = 0x75 then (unicodeEscape rest).map fun r => (utf8 r.1, r.2)
    else (simpleEscape b).map fun c => ([c], rest)

/-- The characters of a string and its closing quote, at most `n` of both. -/
def parseChars : ℕ → List UInt8 → Option (List UInt8 × List UInt8)
  | 0, _ => none
  | _ + 1, [] => none
  | n + 1, b :: bs =>
    if b = quote then some ([], bs)
    else if b = backslash then do
      let (c, bs) ← escape bs
      let (s, rest) ← parseChars n bs
      some (c ++ s, rest)
    else if b < 0x20 then none
    else do
      let (s, rest) ← parseChars n bs
      some (b :: s, rest)

def parseString (bs : List UInt8) : Option (List UInt8 × List UInt8) := parseChars bs.length bs

def isDigit (b : UInt8) : Bool := 0x30 ≤ b && b ≤ 0x39

def digitsValue (ds : List UInt8) : ℕ := Nat.ofDigits 10 (ds.reverse.map fun b => b.toNat - 0x30)

def parseDigits (bs : List UInt8) : Option (List UInt8 × List UInt8) :=
  if bs.takeWhile isDigit = [] then none
  else some (bs.takeWhile isDigit, bs.dropWhile isDigit)

def parseWhole (bs : List UInt8) : Option (List UInt8 × List UInt8) :=
  if bs.head? = some 0x30 then some ([0x30], bs.tail) else parseDigits bs

def parseFraction (bs : List UInt8) : Option (List UInt8 × List UInt8) :=
  if bs.head? = some 0x2E then parseDigits bs.tail else some ([], bs)

def parseExponent (bs : List UInt8) : Option (ℤ × List UInt8) :=
  if bs.head? = some 0x65 ∨ bs.head? = some 0x45 then
    if bs.tail.head? = some 0x2D then
      (parseDigits bs.tail.tail).map fun r => (-digitsValue r.1, r.2)
    else if bs.tail.head? = some 0x2B then
      (parseDigits bs.tail.tail).map fun r => ((digitsValue r.1 : ℤ), r.2)
    else (parseDigits bs.tail).map fun r => ((digitsValue r.1 : ℤ), r.2)
  else some (0, bs)

def parseUnsigned (sign : ℤ) (bs : List UInt8) : Option (Value × List UInt8) := do
  let (whole, bs) ← parseWhole bs
  let (frac, bs) ← parseFraction bs
  let (exponent, bs) ← parseExponent bs
  some (.number (sign * digitsValue (whole ++ frac)) (exponent - frac.length), bs)

def parseNumber (bs : List UInt8) : Option (Value × List UInt8) :=
  if bs.head? = some 0x2D then parseUnsigned (-1) bs.tail else parseUnsigned 1 bs

/-- `true`, `false` and `null`. -/
def parseLiteral (bs : List UInt8) : Option (Value × List UInt8) :=
  match List.isPrefixOf? [0x74, 0x72, 0x75, 0x65] bs with
  | some rest => some (.bool true, rest)
  | none =>
    match List.isPrefixOf? [0x66, 0x61, 0x6C, 0x73, 0x65] bs with
    | some rest => some (.bool false, rest)
    | none => (List.isPrefixOf? [0x6E, 0x75, 0x6C, 0x6C] bs).map fun rest => (.null, rest)

section
variable {β : Type} (item : List UInt8 → Option (β × List UInt8)) (close : UInt8)

/-- Items with commas between them up to the closing byte, at most `n`. -/
def parseItems : ℕ → List UInt8 → Option (List β × List UInt8)
  | 0, _ => none
  | n + 1, bs => do
    let (x, bs) ← item bs
    match expect close bs with
    | some rest => some ([x], rest)
    | none => do
      let bs ← expect comma bs
      let (xs, rest) ← parseItems n bs
      some (x :: xs, rest)

def parseList (bs : List UInt8) : Option (List β × List UInt8) :=
  match expect close bs with
  | some rest => some ([], rest)
  | none => parseItems item close bs.length bs

end

def parseMember (value : List UInt8 → Option (Value × List UInt8)) (bs : List UInt8) :
    Option ((List UInt8 × Value) × List UInt8) := do
  let bs ← expect quote bs
  let (key, bs) ← parseString bs
  let bs ← expect colon bs
  let (v, bs) ← value bs
  some ((key, v), bs)

/-- A value nested at most `d` deep. -/
def parseValue : ℕ → List UInt8 → Option (Value × List UInt8)
  | 0, _ => none
  | d + 1, bs =>
    match skipSpace bs with
    | [] => none
    | b :: rest =>
      if b = 0x7B then
        (parseList (parseMember (parseValue d)) 0x7D rest).map fun r => (.object r.1, r.2)
      else if b = 0x5B then
        (parseList (parseValue d) 0x5D rest).map fun r => (.array r.1, r.2)
      else if b = quote then (parseString rest).map fun r => (.string r.1, r.2)
      else if b = 0x2D ∨ isDigit b then parseNumber (b :: rest)
      else parseLiteral (b :: rest)

def parse (bs : List UInt8) : Option Value :=
  match parseValue (bs.length + 1) bs with
  | some (v, rest) => if skipSpace rest = [] then some v else none
  | none => none

-- `[1,]`
example : parse [0x5B, 0x31, comma, 0x5D] = none := rfl

/-- A byte that stands for itself in a string. -/
def IsPlain (b : UInt8) : Prop := b ≠ quote ∧ b ≠ backslash ∧ 0x20 ≤ b

/-- Nothing in the text needs an escape. -/
def Plain (s : List UInt8) : Prop := ∀ b ∈ s, IsPlain b

instance : DecidablePred IsPlain := fun b =>
  inferInstanceAs (Decidable (b ≠ quote ∧ b ≠ backslash ∧ 0x20 ≤ b))

instance : DecidablePred Plain := fun s => inferInstanceAs (Decidable (∀ b ∈ s, IsPlain b))

theorem plain_cons {b : UInt8} {s : List UInt8} : Plain (b :: s) ↔ IsPlain b ∧ Plain s :=
  List.forall_mem_cons

theorem parseChars_cons_of_isPlain {b : UInt8} (hb : IsPlain b) (n : ℕ) (bs : List UInt8) :
    parseChars (n + 1) (b :: bs) = (parseChars n bs).map fun r => (b :: r.1, r.2) := by
  rw [parseChars, if_neg hb.1, if_neg hb.2.1, if_neg (UInt8.not_lt.mpr hb.2.2)]
  cases parseChars n bs <;> rfl

theorem parseChars_plain {s : List UInt8} (hs : Plain s) (rest : List UInt8) {n : ℕ}
    (hn : s.length < n) : parseChars n (s ++ quote :: rest) = some (s, rest) := by
  induction s generalizing n with
  | nil =>
    obtain ⟨n, rfl⟩ : ∃ m, n = m + 1 := ⟨n - 1, by omega⟩
    rfl
  | cons b s ih =>
    obtain ⟨n, rfl⟩ : ∃ m, n = m + 1 := ⟨n - 1, by omega⟩
    rw [plain_cons] at hs
    rw [List.cons_append, parseChars_cons_of_isPlain hs.1,
      ih hs.2 (by simpa using hn), Option.map_some]

theorem parseChars_control {s : List UInt8} (hs : Plain s) {b : UInt8} (hb : b < 0x20)
    (rest : List UInt8) (n : ℕ) : parseChars n (s ++ b :: rest) = none := by
  induction n generalizing s with
  | zero => rfl
  | succ n ih =>
    cases s with
    | nil =>
      have hquote : b ≠ quote := fun h => absurd hb (by rw [h]; decide)
      have hbackslash : b ≠ backslash := fun h => absurd hb (by rw [h]; decide)
      rw [List.nil_append, parseChars, if_neg hquote, if_neg hbackslash, if_pos hb]
    | cons c s =>
      rw [plain_cons] at hs
      rw [List.cons_append, parseChars_cons_of_isPlain hs.1, ih hs.2, Option.map_none]

theorem utf8_length_le (n : ℕ) : (utf8 n).length ≤ 4 := by
  unfold utf8
  split_ifs <;> simp

theorem hex4_pasted {t rest x : List UInt8} {n : ℕ} (h : hex4 (t ++ quote :: rest) = some (n, x)) :
    ∃ u v, t = u ++ v ∧ u.length = 4 ∧ x = v ++ quote :: rest := by
  have hquote : hexDigit quote = none := by decide
  match t with
  | [] | [_] | [_, _] | [_, _, _] =>
    unfold hex4 at h
    split at h <;> simp_all [Option.bind_eq_some_iff]
  | a :: b :: c :: d :: t =>
    simp only [List.cons_append, hex4, Option.bind_eq_bind, Option.bind_eq_some_iff,
      Option.some.injEq, Prod.mk.injEq] at h
    obtain ⟨_, _, _, _, _, _, _, _, _, rfl⟩ := h
    exact ⟨[a, b, c, d], t, rfl, rfl, rfl⟩

theorem nextUnicode_pasted {t rest x : List UInt8} {n : ℕ}
    (h : nextUnicode (t ++ quote :: rest) = some (n, x)) :
    ∃ u v, t = u ++ v ∧ x = v ++ quote :: rest := by
  match t with
  | [] =>
    unfold nextUnicode at h
    split at h <;> simp_all [backslash, quote]
  | [a] =>
    have hquote : ¬ (a = backslash ∧ quote = 0x75) := fun h => absurd h.2 (by decide)
    rw [List.cons_append, List.nil_append, nextUnicode, if_neg hquote] at h
    cases h
  | a :: b :: t =>
    rw [List.cons_append, List.cons_append, nextUnicode] at h
    split_ifs at h
    obtain ⟨u, v, rfl, -, rfl⟩ := hex4_pasted h
    exact ⟨a :: b :: u, v, rfl, rfl⟩

theorem unicodeEscape_pasted {t rest x : List UInt8} {n : ℕ}
    (h : unicodeEscape (t ++ quote :: rest) = some (n, x)) :
    ∃ u v, t = u ++ v ∧ 4 ≤ u.length ∧ x = v ++ quote :: rest := by
  obtain ⟨⟨hi, y⟩, hhi, h⟩ := Option.bind_eq_some_iff.mp h
  obtain ⟨u, v, rfl, hu, rfl⟩ := hex4_pasted hhi
  dsimp only at h
  split_ifs at h
  · rw [Option.some.injEq, Prod.mk.injEq] at h
    exact ⟨u, v, rfl, hu.ge, h.2.symm⟩
  · obtain ⟨⟨lo, z⟩, hlo, h⟩ := Option.bind_eq_some_iff.mp h
    obtain ⟨u', v', rfl, rfl⟩ := nextUnicode_pasted hlo
    dsimp only at h
    split_ifs at h
    rw [Option.some.injEq, Prod.mk.injEq] at h
    refine ⟨u ++ u', v', (List.append_assoc _ _ _).symm, ?_, h.2.symm⟩
    rw [List.length_append]
    omega

theorem escape_pasted {t rest c x : List UInt8} (h : escape (t ++ quote :: rest) = some (c, x)) :
    x = rest ∨ ∃ u v, t = u ++ v ∧ c.length ≤ u.length ∧ x = v ++ quote :: rest := by
  cases t with
  | nil =>
    have hescape : escape (quote :: rest) = some ([quote], rest) := rfl
    rw [List.nil_append, hescape, Option.some.injEq, Prod.mk.injEq] at h
    exact .inl h.2.symm
  | cons b t =>
    right
    rw [List.cons_append, escape] at h
    split_ifs at h
    · rw [Option.map_eq_some_iff] at h
      obtain ⟨⟨n, y⟩, hunicode, h⟩ := h
      obtain ⟨u, v, rfl, hu, rfl⟩ := unicodeEscape_pasted hunicode
      rw [Prod.mk.injEq] at h
      refine ⟨b :: u, v, rfl, ?_, h.2.symm⟩
      rw [← h.1]
      exact (utf8_length_le n).trans (hu.trans (Nat.le_succ _))
    · rw [Option.map_eq_some_iff] at h
      obtain ⟨e, _, h⟩ := h
      rw [Prod.mk.injEq] at h
      exact ⟨[b], t, rfl, by rw [← h.1]; rfl, h.2.symm⟩

theorem parseChars_pasted {rest : List UInt8} (hrest : ∀ n, parseChars n rest = none) {n : ℕ}
    {s d x : List UInt8} (h : parseChars n (s ++ quote :: rest) = some (d, x)) :
    d.length ≤ s.length ∧ (d.length = s.length → Plain s ∧ x = rest) := by
  induction n generalizing s d x with
  | zero => cases h
  | succ n ih =>
    cases s with
    | nil =>
      rw [List.nil_append, parseChars, if_pos rfl, Option.some.injEq, Prod.mk.injEq] at h
      obtain ⟨rfl, rfl⟩ := h
      exact ⟨le_rfl, fun _ => ⟨List.forall_mem_nil _, rfl⟩⟩
    | cons b s =>
      rw [List.cons_append, parseChars] at h
      split_ifs at h with hquote hbackslash hcontrol
      · -- the string ends early
        rw [Option.some.injEq, Prod.mk.injEq] at h
        obtain ⟨rfl, -⟩ := h
        exact ⟨Nat.zero_le _, fun hlen => absurd hlen (by simp)⟩
      · obtain ⟨⟨c, y⟩, hescape, h⟩ := Option.bind_eq_some_iff.mp h
        obtain ⟨⟨d', z⟩, hd', h⟩ := Option.bind_eq_some_iff.mp h
        rw [Option.some.injEq, Prod.mk.injEq] at h
        obtain ⟨rfl, -⟩ := h
        obtain rfl | ⟨u, v, rfl, hc, rfl⟩ := escape_pasted hescape
        · -- the escape has eaten the closing quote
          rw [hrest] at hd'
          cases hd'
        · have hle := (ih hd').1
          have hshort : (c ++ d').length < (b :: (u ++ v)).length := by
            simp only [List.length_append, List.length_cons] at hle ⊢
            omega
          exact ⟨hshort.le, fun hlen => absurd hlen hshort.ne⟩
      · obtain ⟨⟨d', z⟩, hd', h⟩ := Option.bind_eq_some_iff.mp h
        rw [Option.some.injEq, Prod.mk.injEq] at h
        obtain ⟨rfl, rfl⟩ := h
        obtain ⟨hle, heq⟩ := ih hd'
        refine ⟨Nat.succ_le_succ hle, fun hlen => ?_⟩
        obtain ⟨hs, hx⟩ := heq (Nat.succ.inj hlen)
        exact ⟨plain_cons.mpr ⟨⟨hquote, hbackslash, UInt8.not_lt.mp hcontrol⟩, hs⟩, hx⟩

theorem parseString_plain {s : List UInt8} (hs : Plain s) (rest : List UInt8) :
    parseString (s ++ quote :: rest) = some (s, rest) :=
  parseChars_plain hs rest (by simp)

/-- Pasted text is read back as it is only if it is plain. -/
theorem parseString_eq_some_iff {rest : List UInt8} (hrest : ∀ n, parseChars n rest = none)
    {s x : List UInt8} : parseString (s ++ quote :: rest) = some (s, x) ↔ Plain s ∧ x = rest := by
  constructor
  · intro h
    exact (parseChars_pasted hrest h).2 rfl
  · rintro ⟨hs, rfl⟩
    exact parseString_plain hs x

end EvseIso15118.Json
