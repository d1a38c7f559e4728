/-!
# Numbers that scores are computed in

A score is computed by a few operations on natural numbers: sums, products and quotients. The rules
of this library do so in any scale that has them. Results are reported in floating point; in the
rationals the same rules give exact scores.
-/

namespace SqlGrader

/-- The operations that scores are computed with. -/
class Scale (α : Type) extends Add α, Mul α, Div α where
  ofNat : Nat → α
  /-- Whether the first number reaches the second. -/
  reaches : α → α → Bool

instance : Scale Float where
  ofNat := Float.ofNat
  reaches x y := y ≤ x

instance : Scale Rat where
  ofNat n := (n : Rat)
  reaches x y := decide (y ≤ x)

namespace Scale

variable {α : Type} [Scale α]

/-- A quotient of natural numbers. -/
def ratio (num den : Nat) : α := ofNat num / ofNat den

/-- The sum from left to right, starting from zero. -/
def sum (xs : List α) : α := xs.foldl (· + ·) (ofNat 0)

end Scale

end SqlGrader
