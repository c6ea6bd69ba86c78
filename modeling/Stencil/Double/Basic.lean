set_option autoImplicit false

/-! # Double-precision numbers

A double-precision number is kept as what it denotes: a dyadic rational with a sign, an infinity
or not a number. Every operation computes its exact result on integers and rounds once, to the
nearest double and to the even one of two equally near, so its meaning needs no bit patterns.

* `Double.ofRatio` rounds a quotient of integers; all arithmetic goes through it.
* `Double.Place.compare?` orders doubles and exact integers by the number they denote.
-/

namespace Stencil

-- A power is the one of the numbers themselves, whatever other structure they are given.
attribute [local instance (2000)] instPowNat

/-- A double-precision number; `finite n m e` is `m * 2 ^ e`, negated when `n`.

    The rounding functions only build finite numbers with `m < 2 ^ 53`, `-1074 ≤ e ≤ 971`, and
    `2 ^ 52 ≤ m` unless `e` is `-1074`. -/
inductive Double where
  | nan
  | infinite (negative : Bool)
  | finite (negative : Bool) (mantissa : Nat) (exponent : Int)
  deriving DecidableEq, Repr, Inhabited

namespace Double

/-! ## Rounding -/

/-- The integer nearest to `num / den`, the even one of two equally near. -/
def roundHalfEven (num den : Nat) : Nat :=
  let q := num / den
  let r := num % den
  if 2 * r < den then q else if den < 2 * r then q + 1 else q + q % 2

/-- The exponent of the doubles around `num / den`: the quotient scaled by it has 53 binary digits,
    unless the quotient is too small for that. -/
def exponentOf (num den : Nat) : Int :=
  let e : Int := (num.log2 : Int) - den.log2 - 53
  let wide :=
    if 0 ≤ e then den * 2 ^ (53 + e.toNat) ≤ num
    else den * 2 ^ (53 : Nat) ≤ num * 2 ^ (-e).toNat
  max (if wide then e + 1 else e) (-1074)

/-- The double with the given mantissa and exponent, where the mantissa may have been rounded up to
    a power of two and the exponent may be too large. -/
def normalize (negative : Bool) (mantissa : Nat) (exponent : Int) : Double :=
  let (m, e) :=
    if mantissa = 2 ^ (53 : Nat) then (2 ^ (52 : Nat), exponent + 1) else (mantissa, exponent)
  if 971 < e then .infinite negative else .finite negative m e

/-- The double nearest to `num / den`, negated when `negative`; `den` is positive. -/
def ofRatio (negative : Bool) (num den : Nat) : Double :=
  if num = 0 then .finite negative 0 (-1074)
  else
    let e := exponentOf num den
    let m :=
      if 0 ≤ e then roundHalfEven num (den * 2 ^ e.toNat)
      else roundHalfEven (num * 2 ^ (-e).toNat) den
    normalize negative m e

/-- The double nearest to `m * 2 ^ e`, negated when `negative`. -/
def ofScaled (negative : Bool) (m : Nat) (e : Int) : Double :=
  if 0 ≤ e then ofRatio negative (m * 2 ^ e.toNat) 1 else ofRatio negative m (2 ^ (-e).toNat)

/-- The double nearest to an integer, infinite when the integer is too large. -/
def ofInt (n : Int) : Double :=
  ofRatio (n < 0) n.natAbs 1

/-- Zero. -/
def zero : Double := .finite false 0 (-1074)

/-- One. -/
def one : Double := .finite false (2 ^ (52 : Nat)) (-52)

/-! ## What a double denotes -/

/-- Whether the sign is negative; not a number has no sign. -/
def isNegative : Double → Bool
  | .nan => false
  | .infinite n => n
  | .finite n _ _ => n

/-- Whether the number is a zero of either sign. -/
def isZero : Double → Bool
  | .finite _ m _ => m == 0
  | _ => false

/-- Whether the number is not a number. -/
def isNaN : Double → Bool
  | .nan => true
  | _ => false

/-- The integer part, cut toward zero; infinities and not a number have none. -/
def truncate? : Double → Option Int
  | .finite n m e =>
    let k : Nat := if 0 ≤ e then m * 2 ^ e.toNat else m / 2 ^ (-e).toNat
    some (if n then -(k : Int) else k)
  | _ => none

/-- The integer a double denotes, if it denotes one. -/
def toInt? : Double → Option Int
  | .finite n m e =>
    let whole := 0 ≤ e || m % 2 ^ (-e).toNat == 0
    if whole then truncate? (.finite n m e) else none
  | _ => none

/-- Where a number stands among the extended rationals. -/
inductive Place where
  | nowhere
  | below
  | above
  | ratio (num : Int) (den : Nat)

/-- The place of a double. -/
def place : Double → Place
  | .nan => .nowhere
  | .infinite n => if n then .below else .above
  | .finite n m e =>
    let s : Int := if n then -(m : Int) else m
    if 0 ≤ e then .ratio (s * 2 ^ e.toNat) 1 else .ratio s (2 ^ (-e).toNat)

/-- The order of two places; nowhere is ordered against nothing. -/
def Place.compare? : Place → Place → Option Ordering
  | .nowhere, _ => none
  | _, .nowhere => none
  | .below, .below => some .eq
  | .below, _ => some .lt
  | _, .below => some .gt
  | .above, .above => some .eq
  | .above, _ => some .gt
  | _, .above => some .lt
  | .ratio a b, .ratio c d => some (compare (a * d) (c * b))

/-! ## Arithmetic -/

/-- The number with the other sign. -/
def neg : Double → Double
  | .nan => .nan
  | .infinite n => .infinite !n
  | .finite n m e => .finite (!n) m e

/-- The sum. A sum that cancels is positive zero; two negative zeros add up to a negative one. -/
def add : Double → Double → Double
  | .nan, _ => .nan
  | _, .nan => .nan
  | .infinite a, .infinite b => if a = b then .infinite a else .nan
  | .infinite a, .finite _ _ _ => .infinite a
  | .finite _ _ _, .infinite b => .infinite b
  | .finite a m e, .finite b k f =>
    let g := min e f
    let left : Int := m * 2 ^ (e - g).toNat
    let right : Int := k * 2 ^ (f - g).toNat
    let total := (if a then -left else left) + (if b then -right else right)
    if total = 0 then ofScaled (a && b) 0 g else ofScaled (total < 0) total.natAbs g

/-- The difference. -/
def sub (x y : Double) : Double :=
  x.add y.neg

/-- The product. -/
def mul : Double → Double → Double
  | .nan, _ => .nan
  | _, .nan => .nan
  | .infinite a, .infinite b => .infinite (a != b)
  | .infinite a, .finite b m _ => if m = 0 then .nan else .infinite (a != b)
  | .finite a m _, .infinite b => if m = 0 then .nan else .infinite (a != b)
  | .finite a m e, .finite b k f => ofScaled (a != b) (m * k) (e + f)

/-- The quotient; division by zero is left to the caller and gives not a number here. -/
def div : Double → Double → Double
  | .nan, _ => .nan
  | _, .nan => .nan
  | .infinite _, .infinite _ => .nan
  | .infinite a, .finite b _ _ => .infinite (a != b)
  | .finite a _ _, .infinite b => .finite (a != b) 0 (-1074)
  | .finite a m e, .finite b k f =>
    if k = 0 then .nan
    else
      let g := e - f
      if 0 ≤ g then ofRatio (a != b) (m * 2 ^ g.toNat) k
      else ofRatio (a != b) m (k * 2 ^ (-g).toNat)

/-- An integral quotient is not changed by rounding it. -/
theorem roundHalfEven_one (n : Nat) : roundHalfEven n 1 = n := by
  simp [roundHalfEven, Nat.mod_one]

/-- A quotient is rounded to one of its two neighbours. -/
theorem roundHalfEven_bounds (num den : Nat) :
    num / den ≤ roundHalfEven num den ∧ roundHalfEven num den ≤ num / den + 1 := by
  simp only [roundHalfEven]
  have h : num / den % 2 < 2 := Nat.mod_lt _ (by decide)
  split
  · omega
  · split <;> omega

example : (ofRatio false 1 10).add (ofRatio false 2 10) ≠ ofRatio false 3 10 := by decide +kernel

example : ofInt (2 ^ 53 + 1) = ofInt (2 ^ 53) ∧ ofInt (2 ^ 1024) = .infinite false := by
  decide +kernel

end Double

end Stencil
