import LanguageBridge.Binary64
import LanguageBridge.Digits

/-!
# The shortest decimal of a double

A double is written with the fewest digits that still read back as it; of the candidates with so
few digits the nearest one is taken, and of two equally near ones the even one.  All decimals in
the interval of numbers that round to the double read back, its ends included exactly when the
significand is even.

The digits are placed positionally while the decimal point stands at most five places in front of
them or sixteen places behind the first, and `.0` marks a whole number; beyond that an exponent is
written.
-/

namespace LanguageBridge

/-- A finite double: a sign and a magnitude in units of `2^-1074`. -/
structure Double where
  negative : Bool
  units : Nat
  deriving DecidableEq, Repr, Inhabited

namespace Binary64

/-- The interval of magnitudes that round to a double, in quarter units.  The gap below a power of
two is half the gap above it. -/
structure Basin where
  low : Nat
  high : Nat
  closed : Bool

/-- The magnitudes that round to `units`. -/
def basin (units : Nat) : Basin :=
  let step := spacing units
  let below := if units = Nat.pow 2 units.log2 && 1 < step then step else 2 * step
  ⟨4 * units - below, 4 * units + 2 * step, units / step % 2 = 0⟩

/-- Whether the decimal `digits * 10 ^ power` lies in a basin. -/
def Basin.holds (b : Basin) (digits : Nat) (power : Int) : Bool :=
  let num := 4 * digits * one * Nat.pow 10 power.toNat
  let den := Nat.pow 10 (-power).toNat
  if b.closed then decide (b.low * den ≤ num) && decide (num ≤ b.high * den)
  else decide (b.low * den < num) && decide (num < b.high * den)

/-- The decimal with the digits `m` that is nearest to `units` on the grid `10 ^ power`, if it
reads back. -/
def onGrid? (units : Nat) (power : Int) : Option Nat :=
  let num := units * Nat.pow 10 (-power).toNat
  let den := one * Nat.pow 10 power.toNat
  let down := num / den
  let rest := num % den
  let b := basin units
  let downHolds := b.holds down power
  let upHolds := b.holds (down + 1) power
  if downHolds && upHolds then
    if 2 * rest < den then some down
    else if den < 2 * rest then some (down + 1)
    else if down % 2 = 0 then some down else some (down + 1)
  else if downHolds then some down
  else if upHolds then some (down + 1)
  else none

/-- The power of ten of the first digit of a positive magnitude: the greatest `p` with
`10 ^ p ≤ units / 2 ^ 1074`, looked for downwards from `from`. -/
def leadingPower (units : Nat) : Nat → Int → Int
  | 0, p => p
  | fuel + 1, p =>
    if one * Nat.pow 10 p.toNat ≤ units * Nat.pow 10 (-p).toNat then p
    else leadingPower units fuel (p - 1)

/-- The digits and the power of their last place, trying ever finer grids. -/
def shortestFrom (units : Nat) (lead : Int) : Nat → Nat → Nat × Int
  | 0, _ => (0, 0)
  | fuel + 1, places =>
    let power := lead - places
    match onGrid? units power with
    | some m => (m, power)
    | none => shortestFrom units lead fuel (places + 1)

/-- Trailing zeros moved from the digits into the power. -/
def strip : Nat → Nat → Int → Nat × Int
  | 0, m, p => (m, p)
  | fuel + 1, m, p => if m % 10 = 0 && m != 0 then strip fuel (m / 10) (p + 1) else (m, p)

/-- The shortest digits of a positive magnitude and the power of ten of the last one. -/
def shortest (units : Nat) : Nat × Int :=
  let lead := leadingPower units 700 309
  let (m, p) := shortestFrom units lead 20 0
  strip 20 m p

end Binary64

namespace Double

/-- Digits with a decimal point, or with an exponent when they lie far from it. -/
def place (m : Nat) (power : Int) : List Char :=
  let ds := Digits.digits m
  let point : Int := ds.length + power
  if 0 ≤ power ∧ point ≤ 16 then ds ++ List.replicate power.toNat '0' ++ ['.', '0']
  else if 0 < point ∧ point ≤ 16 then
    ds.take point.toNat ++ '.' :: ds.drop point.toNat
  else if -5 < point ∧ point ≤ 0 then
    ['0', '.'] ++ List.replicate (-point).toNat '0' ++ ds
  else
    let tail := if ds.length = 1 then [] else '.' :: ds.drop 1
    let exponent := point - 1
    let sign := if exponent < 0 then ['-'] else []
    ds.take 1 ++ tail ++ 'e' :: sign ++ Digits.digits exponent.natAbs

/-- The shortest text of a double. -/
def print (d : Double) : List Char :=
  let body :=
    if d.units = 0 then ['0', '.', '0']
    else
      let (m, p) := Binary64.shortest d.units
      place m p
  if d.negative then '-' :: body else body

end Double
end LanguageBridge
