import Mathlib

namespace EvseIso15118.Progress

open Filter

variable {σ β : Type*} {x : ℕ → σ} {P Q : σ → Prop}

def LeadsTo (x : ℕ → σ) (P Q : σ → Prop) : Prop := ∀ n, P (x n) → ∃ m, n ≤ m ∧ Q (x m)

namespace LeadsTo

/-- `P` is only left for `Q`, and again and again a step leaves it. -/
theorem of_until (hkeep : ∀ n, P (x n) → P (x (n + 1)) ∨ Q (x (n + 1)))
    (hleave : ∃ᶠ n in atTop, P (x n) → Q (x (n + 1))) : LeadsTo x P Q := by
  intro n hn
  rcases frequently_atTop.mp hleave n with ⟨k, hk, hlast⟩
  -- up to step `k` either `Q` came or `P` is still there
  have huntil : ∀ m, n ≤ m → (∃ j, n ≤ j ∧ Q (x j)) ∨ P (x m) := by
    intro m hm
    induction m, hm using Nat.le_induction with
    | base => exact Or.inr hn
    | succ m hm ih =>
      rcases ih with hq | hp
      · exact Or.inl hq
      · rcases hkeep m hp with hp' | hq'
        · exact Or.inr hp'
        · exact Or.inl ⟨m + 1, hm.trans m.le_succ, hq'⟩
  rcases huntil k hk with hq | hp
  · exact hq
  · exact ⟨k + 1, hk.trans k.le_succ, hlast hp⟩

/-- `P` ends if its rank falls as long as it holds. -/
theorem of_rank [Preorder β] [WellFoundedLT β] (rank : σ → β)
    (hfall : ∀ b, LeadsTo x (fun s => P s ∧ rank s = b) fun s => Q s ∨ P s ∧ rank s < b) :
    LeadsTo x P Q := by
  intro n hn
  induction hb : rank (x n) using WellFoundedLT.induction generalizing n with
  | ind b ih =>
    rcases hfall b n ⟨hn, hb⟩ with ⟨m, hnm, hq | ⟨hp, hlt⟩⟩
    · exact ⟨m, hnm, hq⟩
    · rcases ih _ hlt m hp rfl with ⟨k, hmk, hk⟩
      exact ⟨k, hnm.trans hmk, hk⟩

/-- The rank depends on a part of the state only, which a step leaves alone or brings down, and
again and again a step does not leave it alone. -/
theorem of_waits {κ : Type*} [Preorder β] [WellFoundedLT β] (key : σ → κ) (rank : κ → β)
    (hstep : ∀ n, P (x n) → (P (x (n + 1)) ∧ key (x (n + 1)) = key (x n)) ∨
      (Q (x (n + 1)) ∨ P (x (n + 1)) ∧ rank (key (x (n + 1))) < rank (key (x n))))
    (hleave : ∀ n, P (x n) → ∃ᶠ m in atTop, P (x m) → key (x m) = key (x n) →
      Q (x (m + 1)) ∨ P (x (m + 1)) ∧ rank (key (x (m + 1))) < rank (key (x n))) :
    LeadsTo x P Q := by
  refine of_rank (fun s => rank (key s)) ?_
  intro b n hn
  -- while the rank is `b`, that part of the state is what it is now
  refine of_until (P := fun s => P s ∧ key s = key (x n))
    (Q := fun s => Q s ∨ P s ∧ rank (key s) < b) ?_ ?_ n ⟨hn.1, rfl⟩
  · intro m hm
    rcases hstep m hm.1 with hsame | hdown
    · exact Or.inl ⟨hsame.1, hsame.2.trans hm.2⟩
    · rw [hm.2, hn.2] at hdown
      exact Or.inr hdown
  · refine (hleave n hn.1).mono ?_
    intro m hm hp
    have hdown := hm hp.1 hp.2
    rwa [hn.2] at hdown

end LeadsTo

/-- Since every reading more than the limit passes, again and again: the time that passed is
the difference in 64 bits. -/
def Passes (limit : UInt64) (reading : ℕ → UInt64) : Prop :=
  ∀ n, ∃ᶠ m in atTop, limit < reading m - reading n

/-- A clock that never goes back and exceeds every bound passes each limit, though the readings
are 64 bits of it, if none of its jumps is nearly 2^64. -/
theorem passes_of_monotone {limit : UInt64} {clock : ℕ → ℕ} (hmono : Monotone clock)
    (hunbounded : ∀ bound, ∃ n, bound < clock n)
    (hjump : ∀ n, clock (n + 1) + limit.toNat < clock n + 2 ^ 64) :
    Passes limit fun n => UInt64.ofNat (clock n) := by
  intro n
  rw [frequently_atTop]
  intro a
  -- the first reading past the limit, after enough turns of the 64 bits
  let bound := clock n + 2 ^ 64 * clock (max a n) + limit.toNat
  have hfirst := hunbounded bound
  let m := Nat.find hfirst
  have hm : bound < clock m := Nat.find_spec hfirst
  have hlate : max a n < m := by
    by_contra hle
    have hle' := hmono (not_lt.mp hle)
    have hbound : clock (max a n) ≤ bound := by
      dsimp only [bound]
      omega
    exact absurd (hm.trans_le hle') (not_lt.mpr hbound)
  have hprev : clock (m - 1) ≤ bound :=
    not_lt.mp (Nat.find_min hfirst (Nat.sub_lt (by omega) Nat.one_pos))
  have hstep := hjump (m - 1)
  rw [Nat.sub_add_cancel (by omega)] at hstep
  have hle : clock n ≤ clock m := hmono (by omega)
  refine ⟨m, by omega, ?_⟩
  rw [← UInt64.ofNat_sub hle, UInt64.lt_iff_toNat_lt, UInt64.toNat_ofNat']
  dsimp only [bound] at hm hprev
  have hmod : (clock m - clock n) % 2 ^ 64 =
      clock m - clock n - 2 ^ 64 * clock (max a n) := by
    rw [Nat.mod_eq_iff]
    refine Or.inr ⟨by omega, clock (max a n), by omega⟩
  rw [hmod]
  omega

end EvseIso15118.Progress
