import BookIndex.Value.Decimal

namespace BookIndex

/-- The number `significand * 2 ^ exponent`. -/
structure Binary where
  significand : Nat
  exponent : Int
  deriving DecidableEq, Repr

namespace Binary

def limit : Nat := Nat.pow 2 53

def leastExponent : Int := -1074

def power (base : Nat) (e : Int) : Nat × Nat := (Nat.pow base e.toNat, Nat.pow base (-e).toNat)

def divNearest (a b : Nat) : Nat :=
  let quotient := a / b
  match compare (2 * (a % b)) b with
  | .lt => quotient
  | .eq => quotient + quotient % 2
  | .gt => quotient + 1

/-- The nearest binary number to `a / b`. Its significand has 53 digits, or fewer if its exponent is
the least one. -/
def ofRatio (a b : Nat) : Binary :=
  let scaled (e : Int) : Nat × Nat := (a * (power 2 e).2, b * (power 2 e).1)
  let low : Int := max ((a.log2 : Int) - b.log2 - 53) leastExponent
  let e := if (scaled low).1 / (scaled low).2 < limit then low else low + 1
  let s := divNearest (scaled e).1 (scaled e).2
  if s = limit then ⟨limit / 2, e + 1⟩ else ⟨s, e⟩

def ofScaled (c : Nat) (e : Int) : Binary := ofRatio (c * (power 10 e).1) (power 10 e).2

/-- The factor with which `10 ^ e` stands for a number, of several ones the nearest. The multiples
around the number are tried; if neither stands for it, none does. -/
def onGrid? (x : Binary) (e : Int) : Option Nat :=
  let a := x.significand * (power 2 x.exponent).1 * (power 10 e).2
  let b := (power 2 x.exponent).2 * (power 10 e).1
  [divNearest a b, a / b, a / b + 1].find? fun c ↦ ofScaled c e == x

end Binary

namespace Decimal

/-- The shortest decimal fraction that stands for the same binary number, of several ones the
nearest to it. It is not longer than the given one, which is on the last grid that is tried. What is
far below the least binary number is zero, and what is far above the usual ones stays as it is. -/
def shortest (d : Decimal) : Decimal :=
  let size := (Text.ofNat d.mantissa.natAbs).length
  let point := d.exponent + size
  if point < -330 then ⟨0, 0⟩
  else if point > 310 then d
  else
    let x := Binary.ofScaled d.mantissa.natAbs d.exponent
    let onGrid? (e : Int) : Option Decimal :=
      (x.onGrid? e).map fun (c : Nat) ↦ ⟨d.mantissa.sign * c, e⟩
    ((List.range (size + 1)).findSome? fun (i : Nat) ↦ onGrid? (point - i)).getD d

end Decimal
end BookIndex
