/-!
# Numbers in double precision

When a decimal number is too large for double precision, in exact integer arithmetic. A positive
number rounds to infinity when it reaches `overflowBound`, half a unit above the largest finite
double; below that bound it has a finite nearest double.

* `roundToDouble_of_lt`: integers of at most 53 bits are exact.
-/

namespace PlaylistCurator.Decimal

/-- The least positive number that rounds to infinity. -/
def overflowBound : Nat := Nat.pow 2 1024 - Nat.pow 2 970

/-- The nearest number of 53 significant bits; of two, the one whose last bit is zero. -/
def roundToDouble (n : Nat) : Nat :=
  let unit := Nat.pow 2 (n.log2 + 1 - 53)
  let whole := n / unit
  let twice := 2 * (n % unit)
  if unit < twice || (twice == unit && whole % 2 == 1) then (whole + 1) * unit else whole * unit

/-- Whether `significand * 10 ^ exponent`, each factor rounded to double precision before the
product is, stays finite. Negative exponents only make the number smaller. -/
def productIsFinite (significand : Nat) (exponent : Int) : Bool :=
  significand == 0 || exponent < 0 ||
    (exponent ≤ 308 &&
      roundToDouble significand * roundToDouble (Nat.pow 10 exponent.toNat) < overflowBound)

/-- Whether `significand * 10 ^ exponent`, rounded once, stays finite. A significand of `d` digits
reaches the bound from `d + exponent = 311` on and stays below it up to `d + exponent = 308`. -/
def isFinite (significand : Nat) (exponent : Int) : Bool :=
  let digits : Int := (Nat.toDigits 10 significand).length
  significand == 0 || digits + exponent ≤ 308 ||
    (digits + exponent ≤ 310 &&
      (if 0 ≤ exponent then significand * Nat.pow 10 exponent.toNat < overflowBound
        else significand < overflowBound * Nat.pow 10 (-exponent).toNat))

/-- Integers of at most 53 bits are exact. -/
theorem roundToDouble_of_lt {n : Nat} (h : n < Nat.pow 2 53) : roundToDouble n = n := by
  have hlog : n.log2 + 1 - 53 = 0 := by
    rcases Nat.eq_zero_or_pos n with rfl | hpos
    · decide
    · have := (Nat.log2_lt (by omega)).2 h
      omega
  simp [roundToDouble, hlog, Nat.mod_one]

example : productIsFinite 17976931348623157 292 = true := by decide +kernel
example : productIsFinite 18 307 = false := by decide +kernel
example : isFinite 17976931348623158 292 = true ∧ isFinite 1 400 = false := by decide +kernel

end PlaylistCurator.Decimal
