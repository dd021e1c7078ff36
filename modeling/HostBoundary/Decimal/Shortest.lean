-- The text of a floating-point number: the fewest digits that read back as
-- the same number, and of those the nearest. A number is `m * 2 ^ q`, and
-- the reals that round to it form an interval around it, whose ends belong
-- to it when `m` is even. All tests are exact, on natural numbers.
import HostBoundary.Decimal.Signed

namespace HostBoundary.Decimal

/-- A positive number and the interval that rounds to it, over one denominator. -/
structure Interval where
  low : Nat
  mid : Nat
  high : Nat
  den : Nat
  closed : Bool

/-- The interval of the number with significand `m` and exponent `q`. Below a
power of two the numbers lie twice as dense, so the lower half is shorter. -/
def Interval.ofParts (m : Nat) (q : Int) (power : Bool) : Interval :=
  let scale := Nat.pow 2 (q - 2).toNat
  { low := (if power then 4 * m - 1 else 4 * m - 2) * scale
    mid := 4 * m * scale
    high := (4 * m + 2) * scale
    den := Nat.pow 2 (2 - q).toNat
    closed := m % 2 = 0 }

/-- Whether the point `a / b` rounds to the number. -/
def Interval.has (i : Interval) (a b : Nat) : Bool :=
  let x := a * i.den
  if i.closed then decide (i.low * b ≤ x ∧ x ≤ i.high * b)
  else decide (i.low * b < x ∧ x < i.high * b)

/-- The point `n * 10 ^ k` as a fraction. -/
def gridPoint (n : Nat) (k : Int) : Nat × Nat := (n * Nat.pow 10 k.toNat, Nat.pow 10 (-k).toNat)

/-- The nearest of the two grid points around the number that lie in the
interval, on the grid of step `10 ^ k`. Of two points equally near, the even one. -/
def Interval.onGrid (i : Interval) (k : Int) : Option Nat :=
  let up := i.mid * Nat.pow 10 (-k).toNat
  let step := i.den * Nat.pow 10 k.toNat
  let below := up / step
  let hits (n : Nat) : Bool := let p := gridPoint n k; i.has p.1 p.2
  match hits below, hits (below + 1) with
  | true, true =>
    let rest := 2 * (up % step)
    if rest < step ∨ (rest = step ∧ below % 2 = 0) then some below else some (below + 1)
  | true, false => some below
  | false, true => some (below + 1)
  | false, false => none

/-- The least `e` with `mid / den < 10 ^ e`, for a number of a double's size. -/
def Interval.decimalExponent (i : Interval) : Int :=
  let fits (e : Int) : Bool := decide (i.mid * Nat.pow 10 (-e).toNat < i.den * Nat.pow 10 e.toNat)
  match (List.range 640).find? fun j : Nat => fits ((j : Int) - 325) with
  | some j => (j : Int) - 325
  | none => 315

/-- The digits and the exponent of their step, for a positive number. Seventeen
digits always suffice. -/
def Interval.shortest (i : Interval) : Nat × Int :=
  let e := i.decimalExponent
  let grids := (List.range 17).map fun n : Nat => e - 1 - (n : Int)
  match grids.findSome? fun k => (i.onGrid k).map fun n => (n, k) with
  | some r => r
  | none => (0, 0)

/-- Digits without trailing zeros, and the exponent that makes up for them. -/
def dropZeros : Nat → Nat → Int → Nat × Int
  | 0, n, k => (n, k)
  | fuel + 1, n, k => if n % 10 = 0 ∧ n ≠ 0 then dropZeros fuel (n / 10) (k + 1) else (n, k)

/-! ## Layout -/

/-- A number is written positionally from 0.00001 to just below 10 to the 16th,
with a digit after the point. Else it has one digit before the point and a
signed exponent. -/
def layout (n : Nat) (k : Int) : List Char :=
  let ds := ofNat n
  let point : Int := ds.length + k
  if -5 < point ∧ point ≤ 16 then
    if 0 ≤ k then ds ++ List.replicate k.toNat '0' ++ ['.', '0']
    else if 0 < point then ds.take point.toNat ++ ['.'] ++ ds.drop point.toNat
    else ['0', '.'] ++ List.replicate (-point).toNat '0' ++ ds
  else
    let tail := ds.drop 1
    let e := point - 1
    ds.take 1 ++ (if tail.isEmpty then [] else '.' :: tail) ++ ['e']
      ++ (if e < 0 then '-' :: ofNat e.natAbs else '+' :: ofNat e.natAbs)

/-- The text of a finite number. -/
def ofFloat (x : Float) : String :=
  let bits := x.toBits.toNat
  let sign := if 0x8000000000000000 ≤ bits then ['-'] else []
  let field := bits / 0x10000000000000 % 0x800
  let fraction := bits % 0x10000000000000
  if field = 0 ∧ fraction = 0 then String.ofList (sign ++ ['0', '.', '0'])
  else
    let m := if field = 0 then fraction else fraction + 0x10000000000000
    let q : Int := if field = 0 then -1074 else Int.ofNat field - 1075
    let r := (Interval.ofParts m q (fraction = 0 ∧ 1 < field)).shortest
    let d := dropZeros 17 r.1 r.2
    String.ofList (sign ++ layout d.1 d.2)

end HostBoundary.Decimal
