import SqlGrader.Number.Binary64
import SqlGrader.Number.Decimal
/-!
# The fewest digits that read back

A finite float is written with the fewest decimal digits that lie nearer to it than to any other
float; of two such decimals the nearer one is taken. The reals that round to `m · 2 ^ q` form an
interval around it, which holds its ends if `m` is even. Digit counts are tried in order: on the
grid of decimals of one length, only the two neighbours of the number can lie in the interval.

`positional` and `scientific` write such digits without an exponent and with one.
-/

namespace SqlGrader.Shortest

/-- The digits `digits · 10 ^ exponent`. -/
structure Digits where
  digits : Nat
  exponent : Int
  deriving Repr, DecidableEq

/-- `a · 10 ^ e` as a fraction. -/
def scaled (a : Nat) (e : Int) : Nat × Nat :=
  match e with
  | .ofNat n => (a * Nat.pow 10 n, 1)
  | .negSucc n => (a, Nat.pow 10 (n + 1))

/-- The least `n` below `fuel` with `den ≤ num · 10 ^ n`. -/
def leastScale (num den : Nat) : (fuel : Nat) → Nat
  | 0 => 0
  | fuel + 1 => if den ≤ num then 0 else leastScale (num * 10) den fuel + 1

/-- The exponent `e` with `10 ^ e ≤ num / den < 10 ^ (e + 1)`, for a positive number. -/
def magnitude (num den : Nat) : Int :=
  if den ≤ num then ((Decimal.natText (num / den)).length : Int) - 1
  else -(leastScale num den (Decimal.natText den).length : Int)

/-- The interval of reals that round to a float: four times the least and greatest of them in units
of `2 ^ exponent`, and whether they belong to it. -/
structure Interval where
  low : Nat
  high : Nat
  closed : Bool

/-- The numbers around `mantissa` that round to it. Below the least mantissa of an exponent the next
float is only half as far away, except where the exponent is the least one. -/
def interval (mantissa : Nat) (exponent : Int) : Interval where
  low := if mantissa = Nat.pow 2 52 ∧ exponent ≠ -1074 then 4 * mantissa - 1 else 4 * mantissa - 2
  high := 4 * mantissa + 2
  closed := mantissa % 2 == 0

/-- Whether `num / den`, in units of a quarter of `2 ^ exponent`, lies in the interval. -/
def Interval.holds (i : Interval) (num den : Nat) : Bool :=
  if i.closed then i.low * den ≤ num && num ≤ i.high * den
  else i.low * den < num && num < i.high * den

/-- `d · 10 ^ k` in quarters of `2 ^ exponent`, as a fraction. -/
def inQuarters (d : Nat) (k : Int) (exponent : Int) : Nat × Nat :=
  let (num, den) := scaled (4 * d) k
  match exponent with
  | .ofNat n => (num, den * Nat.pow 2 n)
  | .negSucc n => (num * Nat.pow 2 (n + 1), den)

/-- The nearest of the two neighbours on the grid of multiples of `10 ^ k` that lies in the
interval. From the middle between both the even one is taken. -/
def onGrid? (mantissa : Nat) (exponent : Int) (k : Int) : Option Nat :=
  let (num, den) := Binary64.fraction mantissa exponent
  let (gridNum, gridDen) := scaled 1 k
  let d := num * gridDen / (den * gridNum)
  let i := interval mantissa exponent
  let fits (d : Nat) : Bool := let (n, m) := inQuarters d k exponent; i.holds n m
  let nearest := Decimal.roundDiv (num * gridDen) (den * gridNum)
  if fits nearest then some nearest
  else if fits d then some d
  else if fits (d + 1) then some (d + 1) else none

/-- Tries the grids of `count`, `count + 1`, ... digits, up to seventeen. -/
def search (mantissa : Nat) (exponent magnitude : Int) (count : Nat) : (fuel : Nat) → Digits
  | 0 => ⟨0, 0⟩
  | fuel + 1 =>
    let k := magnitude + 1 - count
    match onGrid? mantissa exponent k with
    | some d => ⟨d, k⟩
    | none => search mantissa exponent magnitude (count + 1) fuel

/-- Drops zeros at the end of the digits. -/
def stripZeros (digits : Nat) (exponent : Int) : (fuel : Nat) → Digits
  | 0 => ⟨digits, exponent⟩
  | fuel + 1 =>
    if digits % 10 = 0 then stripZeros (digits / 10) (exponent + 1) fuel else ⟨digits, exponent⟩

/-- The fewest digits of `mantissa · 2 ^ exponent`; zero is `0 · 10 ^ 0`. -/
def digits (mantissa : Nat) (exponent : Int) : Digits :=
  if mantissa = 0 then ⟨0, 0⟩
  else
    let (num, den) := Binary64.fraction mantissa exponent
    let found := search mantissa exponent (magnitude num den) 1 17
    stripZeros found.digits found.exponent 20

/-- The digits without an exponent and without needless zeros. -/
def positional (d : Digits) : Text :=
  match d.exponent with
  | .ofNat n => Decimal.positional (d.digits * Nat.pow 10 n) 0
  | .negSucc n => Decimal.positional d.digits (n + 1)

/-- The exponent of the first digit. -/
def Digits.leading (d : Digits) : Int := d.exponent + (Decimal.natText d.digits).length - 1

/-- One digit, a point and the other digits if there are any, and after an `e` the exponent with its
sign. -/
def scientific (d : Digits) : Text :=
  let mantissa := match Decimal.natText d.digits with
    | [] => []
    | [c] => [c]
    | c :: cs => c :: '.' :: cs
  mantissa ++ 'e' :: (if 0 ≤ d.leading then ['+'] else []) ++ Decimal.intText d.leading

end SqlGrader.Shortest
