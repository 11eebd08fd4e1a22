/-!
# Binary64 magnitudes

Every finite double is a whole multiple of `2^-1074`, so a non-negative double is represented by
that multiple: a natural number of *units*.  Arithmetic on doubles is then exact arithmetic on
naturals followed by one rounding.

* `nearest num den` rounds the rational `num / den` to the nearest double, a tie to the even
  neighbour.  The exponent range is not bounded above; a caller that can leave the range
  compares with `overflow`.
* `add`, `mul` and `div` are the correctly rounded operations.
-/

namespace LanguageBridge

/-- The rational `num / den` rounded to the nearest whole number, a half to the even neighbour. -/
def divNearestEven (num den : Nat) : Nat :=
  let floor := num / den
  let rest := num % den
  if 2 * rest < den then floor
  else if den < 2 * rest then floor + 1
  else if floor % 2 = 0 then floor
  else floor + 1

namespace Binary64

/-- The number of units in 1. -/
def one : Nat := Nat.pow 2 1074

/-- The least number of units that is beyond the finite doubles: `2^1024`. -/
def overflow : Nat := Nat.pow 2 1024 * one

/-- Distance between doubles in the binade of `units`, as a power of two. -/
def spacing (units : Nat) : Nat := Nat.pow 2 (units.log2 - 52)

/-- The double nearest to `num / den`. -/
def nearest (num den : Nat) : Nat :=
  let step := spacing (num * one / den)
  divNearestEven (num * one) (den * step) * step

/-- The double nearest to a whole number. -/
def ofNat (n : Nat) : Nat := nearest n 1

/-- The rounded sum. -/
def add (x y : Nat) : Nat := nearest (x + y) one

/-- The rounded product. -/
def mul (x y : Nat) : Nat := nearest (x * y) (one * one)

/-- The rounded quotient. -/
def div (x y : Nat) : Nat := nearest x y

end Binary64
end LanguageBridge
