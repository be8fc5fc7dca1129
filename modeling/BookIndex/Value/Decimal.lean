import BookIndex.Text.Basic

namespace BookIndex

/-- The number `mantissa * 10 ^ exponent`. -/
structure Decimal where
  mantissa : Int
  exponent : Int
  deriving DecidableEq, Repr

namespace Decimal

def isZero (d : Decimal) : Bool := d.mantissa == 0

/-- The digits of a fraction `0.digits` without zeros at its ends, and the power of ten that it is
multiplied with. -/
def normalize (d : Decimal) : Text × Int :=
  let digits := Text.ofNat d.mantissa.natAbs
  let point := d.exponent + digits.length
  let significant := (digits.reverse.dropWhile (· == '0')).reverse
  if significant.isEmpty then (['0'], 1) else (significant, point)

def positional (digits : Text) (point : Int) : Text :=
  if point ≤ 0 then "0.".toList ++ List.replicate (-point).toNat '0' ++ digits
  else
    let whole := digits.take point.toNat
    let fraction := digits.drop point.toNat
    whole ++ List.replicate (point.toNat - whole.length) '0' ++ '.' ::
      if fraction.isEmpty then ['0'] else fraction

def scientific (digits : Text) (exponent : Int) : Text :=
  let fraction := digits.drop 1
  let size := Text.ofNat exponent.natAbs
  digits.take 1 ++ (if fraction.isEmpty then [] else '.' :: fraction) ++ 'e' ::
    (if exponent < 0 then '-' else '+') :: List.replicate (2 - size.length) '0' ++ size

def text (d : Decimal) : Text :=
  let (digits, point) := d.normalize
  let unsigned := if -4 < point && point ≤ 16 then positional digits point
    else scientific digits (point - 1)
  if d.mantissa < 0 then '-' :: unsigned else unsigned

end Decimal
end BookIndex
