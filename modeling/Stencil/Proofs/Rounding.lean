import Stencil.Double.Decimal

set_option autoImplicit false

/-! # Rounding integers

What an integer becomes as a double. Its first 53 binary digits are kept, rounded to the nearest and
in the middle to the even one (`nearestNat`); so it stays the same exactly if its further digits are
zeros (`isExact_iff`), and no double is nearer to it (`distance_nearestNat_le`). From halfway
between the greatest double and the next power of two on it becomes infinite
(`le_nearestNat_iff`). -/

namespace Stencil.Double

-- A power is the one of the numbers themselves, whatever other structure they are given.
attribute [local instance (2000)] instPowNat

/-! ## The nearest multiple -/

/-- A quotient is rounded down from less than a half and up from more. -/
theorem roundHalfEven_cases (num den : Nat) :
    (roundHalfEven num den = num / den ∧ 2 * (num % den) ≤ den) ∨
      (roundHalfEven num den = num / den + 1 ∧ den ≤ 2 * (num % den)) := by
  simp only [roundHalfEven]
  split
  · omega
  · split
    · omega
    · rcases Nat.mod_two_eq_zero_or_one (num / den) with h | h
      · left; omega
      · right; omega

/-- How far two natural numbers are apart. -/
def distance (m n : Nat) : Nat := (m - n) + (n - m)

/-- Rounding a quotient gives a nearest multiple of the divisor. -/
theorem distance_roundHalfEven_le {den : Nat} (hden : 0 < den) (num k : Nat) :
    distance num (roundHalfEven num den * den) ≤ distance num (k * den) := by
  have hnum : num / den * den + num % den = num := Nat.div_add_mod' num den
  have hrest : num % den < den := Nat.mod_lt num hden
  have hside : k * den ≤ num / den * den ∨ num / den * den + den ≤ k * den := by
    rcases Nat.lt_or_ge (num / den) k with h | h
    · right
      have := Nat.mul_le_mul_right den h
      rwa [Nat.succ_mul] at this
    · left
      exact Nat.mul_le_mul_right den h
  unfold distance
  rcases roundHalfEven_cases num den with ⟨h, hhalf⟩ | ⟨h, hhalf⟩
  · rw [h]
    omega
  · rw [h, Nat.succ_mul]
    omega

/-! ## Natural numbers as doubles -/

/-- The distance of the doubles around a natural number, where they are all integers. -/
def unitOf (n : Nat) : Nat := 2 ^ (n.log2 - 52)

/-- The natural number that `n` becomes as a double. -/
def nearestNat (n : Nat) : Nat := roundHalfEven n (unitOf n) * unitOf n

/-- Whether a natural number is a double: one of at most 53 binary digits, with zeros after them. -/
def IsExact (n : Nat) : Prop := ∃ m e : Nat, m < 2 ^ (53 : Nat) ∧ e ≤ 971 ∧ n = m * 2 ^ e

theorem unitOf_pos (n : Nat) : 0 < unitOf n := Nat.two_pow_pos _

/-- A natural number has 53 binary digits before its unit. -/
theorem lt_unitOf (n : Nat) : n < 2 ^ (53 : Nat) * unitOf n := by
  rw [unitOf, ← Nat.pow_add]
  exact Nat.lt_of_lt_of_le Nat.lt_log2_self (Nat.pow_le_pow_right (by decide) (by omega))

theorem unitOf_le {n : Nat} (h : 52 ≤ n.log2) : 2 ^ (52 : Nat) * unitOf n ≤ n := by
  have hn : n ≠ 0 := by
    rintro rfl
    simp at h
  rw [unitOf, ← Nat.pow_add, Nat.add_sub_cancel' h]
  exact Nat.log2_self_le hn

theorem unitOf_eq_one {n : Nat} (h : n.log2 ≤ 52) : unitOf n = 1 := by
  rw [unitOf, Nat.sub_eq_zero_of_le h, Nat.pow_zero]

theorem nearestNat_eq_self {n : Nat} (h : n.log2 ≤ 52) : nearestNat n = n := by
  rw [nearestNat, unitOf_eq_one h, roundHalfEven_one, Nat.mul_one]

/-- Rounding to 53 binary digits gives at most one more than these can hold. -/
theorem roundHalfEven_unitOf_le (n : Nat) : roundHalfEven n (unitOf n) ≤ 2 ^ (53 : Nat) := by
  have hlt : n / unitOf n < 2 ^ (53 : Nat) :=
    (Nat.div_lt_iff_lt_mul (unitOf_pos n)).2 (lt_unitOf n)
  have hle := (roundHalfEven_bounds n (unitOf n)).2
  omega

theorem le_roundHalfEven_unitOf {n : Nat} (h : 52 ≤ n.log2) :
    2 ^ (52 : Nat) ≤ roundHalfEven n (unitOf n) := by
  have hle : 2 ^ (52 : Nat) ≤ n / unitOf n :=
    (Nat.le_div_iff_mul_le (unitOf_pos n)).2 (unitOf_le h)
  exact Nat.le_trans hle (roundHalfEven_bounds n (unitOf n)).1

/-- No double is nearer to a natural number than the one that it becomes. -/
theorem distance_nearestNat_le {k : Nat} (hk : IsExact k) (n : Nat) :
    distance n (nearestNat n) ≤ distance n k := by
  obtain ⟨m, e, hm, -, rfl⟩ := hk
  have hmultiple := distance_roundHalfEven_le (unitOf_pos n) n
  rcases Nat.lt_or_ge e (n.log2 - 52) with he | he
  · -- A double with a smaller unit lies below the doubles around `n`.
    have hbelow : m * 2 ^ e ≤ 2 ^ (52 : Nat) * unitOf n := by
      have hpow : 2 ^ (53 : Nat) * 2 ^ e ≤ 2 ^ (52 : Nat) * unitOf n := by
        rw [unitOf, ← Nat.pow_add, ← Nat.pow_add]
        exact Nat.pow_le_pow_right (by decide) (by omega)
      exact Nat.le_trans (Nat.mul_le_mul_right _ (Nat.le_of_lt hm)) hpow
    have hle : 2 ^ (52 : Nat) * unitOf n ≤ n := unitOf_le (by omega)
    refine Nat.le_trans (hmultiple (2 ^ (52 : Nat))) ?_
    unfold distance
    omega
  · have hunit : m * 2 ^ e = m * 2 ^ (e - (n.log2 - 52)) * unitOf n := by
      rw [unitOf, Nat.mul_assoc, ← Nat.pow_add, Nat.sub_add_cancel he]
    rw [hunit]
    exact hmultiple _

theorem lt_of_isExact {n : Nat} (h : IsExact n) : n < 2 ^ (1024 : Nat) := by
  obtain ⟨m, e, hm, he, rfl⟩ := h
  have hlt : m * 2 ^ e < 2 ^ (53 : Nat) * 2 ^ e :=
    Nat.mul_lt_mul_of_pos_right hm (Nat.two_pow_pos e)
  have hle := Nat.pow_le_pow_right Nat.two_pos (show 53 + e ≤ 1024 by omega)
  rw [Nat.pow_add] at hle
  exact Nat.lt_of_lt_of_le hlt hle

/-- What a natural number becomes is a double unless it is too large. -/
theorem isExact_nearestNat {n : Nat} (h : nearestNat n < 2 ^ (1024 : Nat)) :
    IsExact (nearestNat n) := by
  have hle := roundHalfEven_unitOf_le n
  rcases Nat.lt_or_ge n.log2 52 with hlog | hlog
  · rw [nearestNat_eq_self (Nat.le_of_lt hlog)]
    refine ⟨n, 0, ?_, by decide, by simp⟩
    have hlt := lt_unitOf n
    rwa [unitOf_eq_one (Nat.le_of_lt hlog), Nat.mul_one] at hlt
  · have hexponent : n.log2 - 52 < 972 := by
      have hpow : (2 : Nat) ^ (52 + (n.log2 - 52)) < 2 ^ (1024 : Nat) := by
        rw [Nat.pow_add]
        exact Nat.lt_of_le_of_lt (Nat.mul_le_mul_right _ (le_roundHalfEven_unitOf hlog)) h
      have := (Nat.pow_lt_pow_iff_right (by decide)).1 hpow
      omega
    by_cases htop : roundHalfEven n (unitOf n) = 2 ^ (53 : Nat)
    · have hnearest : nearestNat n = 2 ^ (53 + (n.log2 - 52)) := by
        rw [nearestNat, htop, unitOf, ← Nat.pow_add]
      rw [hnearest] at h ⊢
      have hlt := (Nat.pow_lt_pow_iff_right (by decide)).1 h
      refine ⟨2 ^ (52 : Nat), n.log2 - 52 + 1, by decide, by omega, ?_⟩
      rw [← Nat.pow_add]
      congr 1
      omega
    · exact ⟨_, n.log2 - 52, by omega, by omega, rfl⟩

/-- The natural numbers that are doubles are those that stay the same. -/
theorem isExact_iff {n : Nat} : IsExact n ↔ nearestNat n = n ∧ n < 2 ^ (1024 : Nat) := by
  constructor
  · intro h
    have hle := distance_nearestNat_le h n
    unfold distance at hle
    exact ⟨by omega, lt_of_isExact h⟩
  · rintro ⟨heq, hlt⟩
    rw [← heq] at hlt ⊢
    exact isExact_nearestNat hlt

instance (n : Nat) : Decidable (IsExact n) := decidable_of_iff _ isExact_iff.symm

/-- Natural numbers of at most 53 binary digits are doubles, and so is the next one. -/
theorem isExact_of_le {n : Nat} (h : n ≤ 2 ^ (53 : Nat)) : IsExact n := by
  rcases Nat.lt_or_eq_of_le h with hlt | rfl
  · exact ⟨n, 0, hlt, by decide, by simp⟩
  · exact ⟨2 ^ (52 : Nat), 1, by decide, by decide, by decide⟩

/-- Below an even multiple of the divisor, rounding goes up to it from the middle on. -/
theorem le_roundHalfEven_iff {num den top : Nat} (htop : top % 2 = 0) (h : num < top * den) :
    top ≤ roundHalfEven num den ↔ top * den ≤ num + den / 2 := by
  have hden : 0 < den := Nat.pos_of_ne_zero fun h0 => by simp [h0] at h
  have hnum : num / den * den + num % den = num := Nat.div_add_mod' num den
  have hrest : num % den < den := Nat.mod_lt num hden
  have hle : num / den < top := (Nat.div_lt_iff_lt_mul hden).2 h
  obtain ⟨odd, rfl⟩ : ∃ odd, top = odd + 1 := Nat.exists_eq_add_one.2 (Nat.zero_lt_of_lt hle)
  rw [Nat.succ_mul] at h ⊢
  -- Rounding can get to `odd + 1` from the quotient `odd` only, and from its middle it goes up.
  rcases Nat.lt_or_ge num (odd * den) with hlt | hge
  · have hquotient : num / den < odd := (Nat.div_lt_iff_lt_mul hden).2 hlt
    have hround := (roundHalfEven_bounds num den).2
    omega
  · have hquotient : num / den = odd := by
      have hge : odd ≤ num / den := (Nat.le_div_iff_mul_le hden).2 hge
      omega
    rw [hquotient] at hnum
    simp only [roundHalfEven, hquotient]
    split
    · omega
    · split <;> omega

/-- Rounding gets to a power of two from halfway between it and the numbers of 53 binary digits
    below it on. -/
theorem le_nearestNat_iff (n : Nat) {half top : Nat} (h : half + 54 = top) :
    2 ^ top ≤ nearestNat n ↔ 2 ^ top - 2 ^ half ≤ n := by
  have htop : (2 : Nat) ^ top = 2 ^ (54 : Nat) * 2 ^ half := by rw [← h, Nat.pow_add, Nat.mul_comm]
  have hunit := lt_unitOf n
  have hround := Nat.mul_le_mul_right (unitOf n) (roundHalfEven_unitOf_le n)
  have hpos : 0 < (2 : Nat) ^ half := Nat.two_pow_pos half
  rw [htop]
  -- Numbers with as many digits as `2 ^ top - 2 ^ half` are rounded to multiples of `2 * 2 ^ half`.
  rcases Nat.lt_trichotomy n.log2 (half + 53) with hlog | hlog | hlog
  · have hsmall : unitOf n ≤ 2 ^ half := Nat.pow_le_pow_right (by decide) (by omega)
    rw [← nearestNat] at hround
    omega
  · have hlast : unitOf n = 2 * 2 ^ half := by
      rw [unitOf, hlog, ← Nat.pow_succ']
      rfl
    have hfactor : 2 ^ (54 : Nat) * 2 ^ half = 2 ^ (53 : Nat) * unitOf n := by
      rw [hlast]
      omega
    have heven : 2 ^ (53 : Nat) % 2 = 0 := by decide
    rw [hfactor, nearestNat, Nat.mul_le_mul_right_iff (unitOf_pos n),
      le_roundHalfEven_iff heven hunit, hlast]
    omega
  · have hlarge : 4 * 2 ^ half ≤ unitOf n := by
      rw [unitOf, ← Nat.pow_add 2 2 half]
      exact Nat.pow_le_pow_right (by decide) (by omega)
    have hbelow := unitOf_le (n := n) (by omega)
    have hnearest := Nat.mul_le_mul_right (unitOf n) (le_roundHalfEven_unitOf (n := n) (by omega))
    rw [← nearestNat] at hnearest
    omega

/-! ## Doubles of integers -/

/-- The double of a natural number has its unit. -/
theorem exponentOf_one {n : Nat} (h : n ≠ 0) : exponentOf n 1 = (n.log2 : Int) - 52 := by
  have hlog : Nat.log2 1 = 0 := by decide
  have hle : 2 ^ n.log2 ≤ n := Nat.log2_self_le h
  simp only [exponentOf, hlog]
  split
  · rename_i hpos
    have hexponent : 53 + ((n.log2 : Int) - (0 : Nat) - 53).toNat = n.log2 := by omega
    rw [hexponent, Nat.one_mul, if_pos hle]
    omega
  · rename_i hneg
    generalize hk : (-((n.log2 : Int) - (0 : Nat) - 53)).toNat = k
    have hexponent : 53 = n.log2 + k := by omega
    have hwide : 1 * 2 ^ (53 : Nat) ≤ n * 2 ^ k := by
      rw [Nat.one_mul, hexponent, Nat.pow_add]
      exact Nat.mul_le_mul_right _ hle
    rw [if_pos hwide]
    omega

/-- A natural number with a sign. -/
def signed (negative : Bool) (n : Nat) : Int := if negative then -n else n

theorem toInt?_finite_natCast (negative : Bool) (m e : Nat) :
    (finite negative m e).toInt? = some (signed negative (m * 2 ^ e)) := by
  simp [toInt?, truncate?, signed]

theorem toInt?_finite_neg (negative : Bool) (n k : Nat) :
    (finite negative (n * 2 ^ k) (-(k : Int))).toInt? = some (signed negative n) := by
  have hpos : 0 < (2 : Nat) ^ k := Nat.two_pow_pos k
  cases k with
  | zero => simpa using toInt?_finite_natCast negative n 0
  | succ k =>
    have hneg : ¬ (0 : Int) ≤ -((k + 1 : Nat) : Int) := by omega
    simp only [toInt?, truncate?, if_neg hneg, Int.neg_neg, Int.toNat_natCast,
      Nat.mul_div_cancel _ hpos, Nat.mul_mod_left]
    simp [signed]

/-- What a natural number with a sign becomes as a double: the integer nearest to it among the
    doubles, or an infinity if it is too large. -/
def IsNearest (x : Double) (negative : Bool) (n : Nat) : Prop :=
  x.toInt? = some (signed negative (nearestNat n)) ∧ nearestNat n < 2 ^ (1024 : Nat) ∨
    x = .infinite negative ∧ 2 ^ (1024 : Nat) ≤ nearestNat n

/-- A double with a whole exponent and all its digits is infinite from `2 ^ 1024` on only. -/
theorem isNearest_full {n m e : Nat} (hlow : 2 ^ (52 : Nat) ≤ m) (hhigh : m < 2 ^ (53 : Nat))
    (h : nearestNat n = m * 2 ^ e) (negative : Bool) :
    IsNearest (if 971 < (e : Int) then .infinite negative else .finite negative m e)
      negative n := by
  unfold IsNearest
  rw [h]
  by_cases he : 971 < (e : Int)
  · right
    rw [if_pos he]
    refine ⟨rfl, ?_⟩
    have hle := Nat.pow_le_pow_right Nat.two_pos (show 1024 ≤ 52 + e by omega)
    rw [Nat.pow_add] at hle
    exact Nat.le_trans hle (Nat.mul_le_mul_right _ hlow)
  · left
    rw [if_neg he]
    exact ⟨toInt?_finite_natCast negative m e, lt_of_isExact ⟨m, e, hhigh, by omega, rfl⟩⟩

/-- A natural number of at most 52 binary digits fills its double up with zeros. -/
theorem isNearest_of_lt {n : Nat} (hzero : n ≠ 0) (h : n.log2 < 52) (negative : Bool) :
    IsNearest (ofRatio negative n 1) negative n := by
  obtain ⟨k, hk⟩ : ∃ k : Nat, 52 = n.log2 + k := ⟨52 - n.log2, by omega⟩
  have hexponent : exponentOf n 1 = -(k : Int) := by
    rw [exponentOf_one hzero]
    omega
  have hneg : ¬ (0 : Int) ≤ -(k : Int) := by omega
  have hself : n < 2 ^ (n.log2 + 1) := Nat.lt_log2_self
  have hlt : n * 2 ^ k < 2 ^ (53 : Nat) := by
    have hpow : (2 : Nat) ^ (n.log2 + 1) * 2 ^ k = 2 ^ (53 : Nat) := by
      rw [← Nat.pow_add]
      congr 1
      omega
    rw [← hpow]
    exact Nat.mul_lt_mul_of_pos_right hself (Nat.two_pow_pos k)
  have hdouble : ofRatio negative n 1 = .finite negative (n * 2 ^ k) (-(k : Int)) := by
    simp only [ofRatio, if_neg hzero, hexponent, if_neg hneg, Int.neg_neg, Int.toNat_natCast,
      roundHalfEven_one, normalize, if_neg (Nat.ne_of_lt hlt)]
    rw [if_neg (by omega)]
  left
  rw [hdouble, toInt?_finite_neg, nearestNat_eq_self (Nat.le_of_lt h)]
  have hle := Nat.pow_le_pow_right Nat.two_pos (show n.log2 + 1 ≤ 1024 by omega)
  exact ⟨rfl, Nat.lt_of_lt_of_le hself hle⟩

/-- A natural number of more binary digits is rounded to 53 of them. -/
theorem isNearest_of_le {n : Nat} (h : 52 ≤ n.log2) (negative : Bool) :
    IsNearest (ofRatio negative n 1) negative n := by
  have hzero : n ≠ 0 := by
    rintro rfl
    simp at h
  obtain ⟨k, hk⟩ : ∃ k : Nat, n.log2 - 52 = k := ⟨_, rfl⟩
  have hexponent : exponentOf n 1 = (k : Int) := by
    rw [exponentOf_one hzero]
    omega
  have hpos : (0 : Int) ≤ (k : Int) := by omega
  have hunit : unitOf n = 2 ^ k := by rw [unitOf, hk]
  have hlow := le_roundHalfEven_unitOf h
  have hhigh := roundHalfEven_unitOf_le n
  have hnearest : nearestNat n = roundHalfEven n (2 ^ k) * 2 ^ k := by rw [nearestNat, hunit]
  simp only [ofRatio, if_neg hzero, hexponent, if_pos hpos, Int.toNat_natCast, Nat.one_mul]
  rw [hunit] at hlow hhigh
  generalize roundHalfEven n (2 ^ k) = m at *
  by_cases htop : m = 2 ^ (53 : Nat)
  · -- Rounding has carried into a digit more.
    subst htop
    have hshift : nearestNat n = 2 ^ (52 : Nat) * 2 ^ (k + 1) := by
      rw [hnearest, ← Nat.pow_add, ← Nat.pow_add]
      congr 1
      omega
    exact isNearest_full (by decide) (by decide) hshift negative
  · have hlt : m < 2 ^ (53 : Nat) := by omega
    simp only [normalize, if_neg htop]
    exact isNearest_full hlow hlt hnearest negative

/-- The double of a natural number with a sign is the nearest one. -/
theorem isNearest_ofRatio (negative : Bool) (n : Nat) :
    IsNearest (ofRatio negative n 1) negative n := by
  by_cases hzero : n = 0
  · subst hzero
    left
    cases negative <;> decide +kernel
  · rcases Nat.lt_or_ge n.log2 52 with h | h
    · exact isNearest_of_lt hzero h negative
    · exact isNearest_of_le h negative

/-- A natural number of more than four hundred digits is too large for a double. -/
theorem le_nearestNat_of_decimalLength {n : Nat} (h : 400 < decimalLength n) :
    2 ^ (1024 : Nat) ≤ nearestNat n := by
  have hlength : 10 ^ (400 : Nat) ≤ n := by
    refine Nat.le_of_not_lt fun hlt => ?_
    have hle := (Nat.length_toDigits_le_iff (b := 10) (by decide) (by decide)).2 hlt
    unfold decimalLength at h
    split at h <;> omega
  have hlarge : (2 : Nat) ^ (1024 : Nat) ≤ 10 ^ (400 : Nat) := by decide +kernel
  rw [le_nearestNat_iff n (show 970 + 54 = 1024 from rfl)]
  have hless := Nat.sub_le (2 ^ (1024 : Nat)) (2 ^ (970 : Nat))
  exact Nat.le_trans hless (Nat.le_trans hlarge hlength)

/-- The double of the digits of a natural number is the nearest one. -/
theorem isNearest_ofDecimal (negative : Bool) (n : Nat) :
    IsNearest (ofDecimal negative n 0) negative n := by
  have hexact := isNearest_ofRatio negative n
  by_cases hzero : n = 0
  · subst hzero
    simpa [ofDecimal, ofRatio] using hexact
  · by_cases hlong : 400 < decimalLength n
    · right
      refine ⟨?_, le_nearestNat_of_decimalLength hlong⟩
      simp only [ofDecimal]
      rw [if_neg, if_pos (by omega)]
      simp [hzero]
    · have hdouble : ofDecimal negative n 0 = ofRatio negative n 1 := by
        simp only [ofDecimal]
        rw [if_neg, if_neg (by omega)]
        · simp
        · simp [hzero]
      rwa [hdouble]

end Stencil.Double
