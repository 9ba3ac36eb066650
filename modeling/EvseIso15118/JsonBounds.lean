import EvseIso15118.JsonReads

namespace EvseIso15118.Json

/-- What is read is not empty. -/
def Consumes {β : Type} (read : List UInt8 → Option (β × List UInt8)) : Prop :=
  ∀ bs x rest, read bs = some (x, rest) → rest.length < bs.length

theorem length_expect {c : UInt8} {bs rest : List UInt8} (h : expect c bs = some rest) :
    rest.length < bs.length := by
  have hskip : (skipSpace bs).length ≤ bs.length := (List.dropWhile_suffix _).length_le
  unfold expect at h
  split at h
  · cases h
  · rename_i b left heq
    split_ifs at h
    obtain rfl := Option.some.inj h
    rw [heq, List.length_cons] at hskip
    omega

theorem exists_of_map_eq_some {β γ : Type} {o : Option (β × List UInt8)}
    {f : β × List UInt8 → γ} {y : γ} {rest : List UInt8}
    (h : (o.map fun r => (f r, r.2)) = some (y, rest)) : ∃ x, o = some (x, rest) := by
  obtain ⟨r, hr, heq⟩ := Option.map_eq_some_iff.mp h
  obtain ⟨-, rfl⟩ := Prod.mk.inj heq
  exact ⟨r.1, hr⟩

theorem consumes_hex4 : Consumes hex4 := by
  intro bs n rest h
  unfold hex4 at h
  split at h
  · simp only [Option.bind_eq_bind, Option.bind_eq_some_iff, Option.some.injEq,
      Prod.mk.injEq] at h
    obtain ⟨_, _, _, _, _, _, _, _, _, rfl⟩ := h
    simp only [List.length_cons]
    omega
  · cases h

theorem consumes_nextUnicode : Consumes nextUnicode := by
  intro bs n rest h
  unfold nextUnicode at h
  split at h
  · split_ifs at h
    have hlt := consumes_hex4 _ _ _ h
    simp only [List.length_cons]
    omega
  · cases h

theorem consumes_unicodeEscape : Consumes unicodeEscape := by
  intro bs n rest h
  obtain ⟨⟨hi, mid⟩, hhi, h⟩ := Option.bind_eq_some_iff.mp h
  have hmid := consumes_hex4 _ _ _ hhi
  dsimp only at h
  split_ifs at h
  · rw [Option.some.injEq, Prod.mk.injEq] at h
    rw [← h.2]
    exact hmid
  · obtain ⟨⟨lo, mid'⟩, hlo, h⟩ := Option.bind_eq_some_iff.mp h
    have hmid' := consumes_nextUnicode _ _ _ hlo
    dsimp only at h
    split_ifs at h
    rw [Option.some.injEq, Prod.mk.injEq] at h
    rw [← h.2]
    exact hmid'.trans hmid

theorem consumes_escape : Consumes escape := by
  intro bs c rest h
  cases bs with
  | nil => cases h
  | cons b bs =>
    rw [escape] at h
    split_ifs at h
    · obtain ⟨n, hn⟩ := exists_of_map_eq_some h
      exact (consumes_unicodeEscape _ _ _ hn).trans (Nat.lt_succ_self _)
    · obtain ⟨e, _, h⟩ := Option.map_eq_some_iff.mp h
      rw [Prod.mk.injEq] at h
      rw [← h.2]
      exact Nat.lt_succ_self _

theorem consumes_parseChars (n : ℕ) : Consumes (parseChars n) := by
  induction n with
  | zero =>
    intro bs s rest h
    cases h
  | succ n ih =>
    intro bs s rest h
    cases bs with
    | nil => cases h
    | cons b bs =>
      rw [List.length_cons]
      rw [parseChars] at h
      split_ifs at h
      · rw [Option.some.injEq, Prod.mk.injEq] at h
        rw [← h.2]
        exact Nat.lt_succ_self _
      · obtain ⟨⟨c, mid⟩, hescape, h⟩ := Option.bind_eq_some_iff.mp h
        obtain ⟨⟨s', left⟩, hs', h⟩ := Option.bind_eq_some_iff.mp h
        have hmid := consumes_escape _ _ _ hescape
        have hleft := ih _ _ _ hs'
        rw [Option.some.injEq, Prod.mk.injEq] at h
        rw [← h.2]
        omega
      · obtain ⟨⟨s', left⟩, hs', h⟩ := Option.bind_eq_some_iff.mp h
        have hleft := ih _ _ _ hs'
        rw [Option.some.injEq, Prod.mk.injEq] at h
        rw [← h.2]
        omega

theorem consumes_parseDigits : Consumes parseDigits := by
  intro bs ds rest h
  rw [parseDigits] at h
  split_ifs at h with hnone
  rw [Option.some.injEq, Prod.mk.injEq] at h
  have hpos := List.length_pos_of_ne_nil hnone
  have hsplit := congrArg List.length (List.takeWhile_append_dropWhile (p := isDigit) (l := bs))
  rw [List.length_append] at hsplit
  rw [← h.2]
  omega

theorem consumes_parseWhole : Consumes parseWhole := by
  intro bs ds rest h
  rw [parseWhole] at h
  split_ifs at h with hzero
  · rw [Option.some.injEq, Prod.mk.injEq] at h
    cases bs with
    | nil => cases hzero
    | cons b bs =>
      rw [← h.2]
      exact Nat.lt_succ_self _
  · exact consumes_parseDigits _ _ _ h

theorem length_parseFraction {bs ds rest : List UInt8} (h : parseFraction bs = some (ds, rest)) :
    rest.length ≤ bs.length := by
  rw [parseFraction] at h
  split_ifs at h
  · have hlt := consumes_parseDigits _ _ _ h
    rw [List.length_tail] at hlt
    omega
  · rw [Option.some.injEq, Prod.mk.injEq] at h
    rw [h.2]

theorem length_parseExponent {bs rest : List UInt8} {e : ℤ}
    (h : parseExponent bs = some (e, rest)) : rest.length ≤ bs.length := by
  rw [parseExponent] at h
  split_ifs at h
  iterate 3
    · obtain ⟨ds, hds⟩ := exists_of_map_eq_some h
      have hlt := consumes_parseDigits _ _ _ hds
      simp only [List.length_tail] at hlt
      omega
  · rw [Option.some.injEq, Prod.mk.injEq] at h
    rw [h.2]

theorem consumes_parseUnsigned (sign : ℤ) : Consumes (parseUnsigned sign) := by
  intro bs v rest h
  obtain ⟨⟨whole, left⟩, hwhole, h⟩ := Option.bind_eq_some_iff.mp h
  obtain ⟨⟨frac, left'⟩, hfrac, h⟩ := Option.bind_eq_some_iff.mp h
  obtain ⟨⟨e, left''⟩, hexponent, h⟩ := Option.bind_eq_some_iff.mp h
  rw [Option.some.injEq, Prod.mk.injEq] at h
  rw [← h.2]
  exact ((length_parseExponent hexponent).trans (length_parseFraction hfrac)).trans_lt
    (consumes_parseWhole _ _ _ hwhole)

theorem consumes_parseNumber : Consumes parseNumber := by
  intro bs v rest h
  rw [parseNumber] at h
  split_ifs at h
  · have hlt := consumes_parseUnsigned _ _ _ _ h
    rw [List.length_tail] at hlt
    omega
  · exact consumes_parseUnsigned _ _ _ _ h

theorem length_isPrefixOf? {a bs rest : List UInt8} (h : a.isPrefixOf? bs = some rest) :
    rest.length + a.length = bs.length := by
  induction a generalizing bs with
  | nil =>
    rw [List.isPrefixOf?, Option.some.injEq] at h
    rw [h, List.length_nil, Nat.add_zero]
  | cons b a ih =>
    cases bs with
    | nil => cases h
    | cons c bs =>
      rw [List.isPrefixOf?] at h
      split_ifs at h
      rw [List.length_cons, List.length_cons, ← ih h]
      omega

theorem consumes_parseLiteral : Consumes parseLiteral := by
  intro bs v rest h
  have hlt : ∀ {b a left}, List.isPrefixOf? (b :: a) bs = some left → left.length < bs.length := by
    intro b a left hleft
    rw [← length_isPrefixOf? hleft]
    exact Nat.lt_add_of_pos_right (Nat.succ_pos _)
  rw [parseLiteral] at h
  split at h
  · rename_i left hleft
    obtain ⟨-, rfl⟩ := Prod.mk.inj (Option.some.inj h)
    exact hlt hleft
  · split at h
    · rename_i left hleft
      obtain ⟨-, rfl⟩ := Prod.mk.inj (Option.some.inj h)
      exact hlt hleft
    · obtain ⟨left, hleft, h⟩ := Option.map_eq_some_iff.mp h
      obtain ⟨-, rfl⟩ := Prod.mk.inj h
      exact hlt hleft

section
variable {β : Type} {item : List UInt8 → Option (β × List UInt8)} {close : UInt8}

theorem consumes_parseItems (hitem : Consumes item) (n : ℕ) :
    Consumes (parseItems item close n) := by
  induction n with
  | zero =>
    intro bs xs rest h
    cases h
  | succ n ih =>
    intro bs xs rest h
    rw [parseItems] at h
    obtain ⟨⟨x, mid⟩, hx, h⟩ := Option.bind_eq_some_iff.mp h
    have hmid := hitem _ _ _ hx
    dsimp only at h
    split at h
    · rename_i left hleft
      have hlt := length_expect hleft
      rw [Option.some.injEq, Prod.mk.injEq] at h
      rw [← h.2]
      omega
    · obtain ⟨mid', hmid', h⟩ := Option.bind_eq_some_iff.mp h
      obtain ⟨⟨ys, left⟩, hys, h⟩ := Option.bind_eq_some_iff.mp h
      have hlt := length_expect hmid'
      have hleft := ih _ _ _ hys
      rw [Option.some.injEq, Prod.mk.injEq] at h
      rw [← h.2]
      exact hleft.trans (hlt.trans hmid)

theorem consumes_parseList (hitem : Consumes item) : Consumes (parseList item close) := by
  intro bs xs rest h
  rw [parseList] at h
  split at h
  · rename_i left hleft
    rw [Option.some.injEq, Prod.mk.injEq] at h
    rw [← h.2]
    exact length_expect hleft
  · exact consumes_parseItems hitem _ _ _ _ h

variable {item' : List UInt8 → Option (β × List UInt8)}

theorem Consumes.nil (hitem : Consumes item) : item [] = none := by
  cases h : item [] with
  | none => rfl
  | some r => exact absurd (hitem [] r.1 r.2 h) (Nat.not_lt_zero _)

theorem parseItems_nil (hitem : item [] = none) (n : ℕ) : parseItems item close n [] = none := by
  cases n with
  | zero => rfl
  | succ n =>
    rw [parseItems, hitem]
    rfl

/-- The count of the items does not matter, and of the reading of an item only what it does to
texts that are not longer. -/
theorem parseItems_bound (hitem : Consumes item) {n m : ℕ} {bs : List UInt8}
    (hsame : ∀ bs', bs'.length ≤ bs.length → item bs' = item' bs')
    (hn : bs.length ≤ n) (hm : bs.length ≤ m) :
    parseItems item close n bs = parseItems item' close m bs := by
  induction n generalizing m bs with
  | zero =>
    obtain rfl := List.length_eq_zero_iff.mp (Nat.le_zero.mp hn)
    have hitem' : item' [] = none := (hsame [] le_rfl).symm.trans hitem.nil
    rw [parseItems_nil hitem.nil, parseItems_nil hitem']
  | succ n ih =>
    cases m with
    | zero =>
      obtain rfl := List.length_eq_zero_iff.mp (Nat.le_zero.mp hm)
      rw [parseItems_nil hitem.nil]
      rfl
    | succ m =>
      rw [parseItems, parseItems, ← hsame bs le_rfl]
      apply Option.bind_congr
      intro r hr
      have hshort : r.2.length < bs.length := hitem _ _ _ hr
      dsimp only
      cases expect close r.2 with
      | some left => rfl
      | none =>
        apply Option.bind_congr
        intro left hleft
        have hlt := length_expect hleft
        rw [@ih m left (fun bs' h => hsame bs' (by omega)) (by omega) (by omega)]

theorem parseList_congr (hitem : Consumes item) {bs : List UInt8}
    (hsame : ∀ bs', bs'.length ≤ bs.length → item bs' = item' bs') :
    parseList item close bs = parseList item' close bs := by
  rw [parseList, parseList, parseItems_bound hitem hsame le_rfl le_rfl]

end

section
variable {value value' : List UInt8 → Option (Value × List UInt8)}

theorem consumes_parseMember (hvalue : Consumes value) : Consumes (parseMember value) := by
  intro bs x rest h
  obtain ⟨left, hquote, h⟩ := Option.bind_eq_some_iff.mp h
  obtain ⟨⟨key, left⟩, hkey, h⟩ := Option.bind_eq_some_iff.mp h
  obtain ⟨left, hcolon, h⟩ := Option.bind_eq_some_iff.mp h
  obtain ⟨⟨v, left⟩, hv, h⟩ := Option.bind_eq_some_iff.mp h
  have hkey := (consumes_parseChars _ _ _ _ hkey).trans (length_expect hquote)
  have hv := (hvalue _ _ _ hv).trans (length_expect hcolon)
  rw [Option.some.injEq, Prod.mk.injEq] at h
  rw [← h.2]
  exact hv.trans hkey

theorem parseMember_congr {bs : List UInt8}
    (hsame : ∀ bs', bs'.length ≤ bs.length → value bs' = value' bs') :
    parseMember value bs = parseMember value' bs := by
  refine Option.bind_congr fun left hleft => Option.bind_congr fun r hr =>
    Option.bind_congr fun left' hleft' => ?_
  have hquote := length_expect hleft
  have hkey : r.2.length < left.length := consumes_parseChars _ _ _ _ hr
  have hcolon := length_expect hleft'
  rw [hsame left' (by omega)]

end

theorem consumes_parseValue (d : ℕ) : Consumes (parseValue d) := by
  induction d with
  | zero =>
    intro bs v rest h
    cases h
  | succ d ih =>
    intro bs v rest h
    have hskip : (skipSpace bs).length ≤ bs.length := (List.dropWhile_suffix _).length_le
    rw [parseValue] at h
    split at h
    · cases h
    · rename_i b left heq
      rw [heq] at hskip
      have hshort : left.length < bs.length := (Nat.lt_succ_self _).trans_le hskip
      split_ifs at h
      · obtain ⟨ms, hms⟩ := exists_of_map_eq_some h
        exact (consumes_parseList (consumes_parseMember ih) _ _ _ hms).trans hshort
      · obtain ⟨vs, hvs⟩ := exists_of_map_eq_some h
        exact (consumes_parseList ih _ _ _ hvs).trans hshort
      · obtain ⟨s, hs⟩ := exists_of_map_eq_some h
        exact (consumes_parseChars _ _ _ _ hs).trans hshort
      · exact (consumes_parseNumber _ _ _ h).trans_le hskip
      · exact (consumes_parseLiteral _ _ _ h).trans_le hskip

theorem parseValue_bound {d e : ℕ} {bs : List UInt8} (hd : bs.length < d) (he : bs.length < e) :
    parseValue d bs = parseValue e bs := by
  induction d generalizing e bs with
  | zero => exact absurd hd (Nat.not_lt_zero _)
  | succ d ih =>
    obtain ⟨e, rfl⟩ : ∃ k, e = k + 1 := ⟨e - 1, by omega⟩
    have hskip : (skipSpace bs).length ≤ bs.length := (List.dropWhile_suffix _).length_le
    rw [parseValue, parseValue]
    cases hbs : skipSpace bs with
    | nil => rfl
    | cons b rest =>
      rw [hbs, List.length_cons] at hskip
      have hvalue : ∀ bs', bs'.length ≤ rest.length → parseValue d bs' = parseValue e bs' :=
        fun bs' h => ih (by omega) (by omega)
      have hmember : ∀ bs', bs'.length ≤ rest.length →
          parseMember (parseValue d) bs' = parseMember (parseValue e) bs' :=
        fun bs' h => parseMember_congr fun bs'' h' => hvalue bs'' (h'.trans h)
      dsimp only
      rw [parseList_congr (consumes_parseMember (consumes_parseValue d)) hmember,
        parseList_congr (consumes_parseValue d) hvalue]

theorem Reads.parse_iff {bs rest : List UInt8} {v : Value} {P : Prop} {d : ℕ} (hd : bs.length < d)
    (h : Reads (parseValue d) bs v P rest) (hrest : skipSpace rest = []) :
    parse bs = some v ↔ P := by
  rw [parse, parseValue_bound (Nat.lt_succ_self _) hd]
  constructor
  · intro hparse
    split at hparse
    · rename_i w left hvalue
      split_ifs at hparse
      obtain rfl := Option.some.inj hparse
      exact ((h left).mp hvalue).1
    · cases hparse
  · intro hP
    rw [(h rest).mpr ⟨hP, rfl⟩]
    exact if_pos hrest

end EvseIso15118.Json
