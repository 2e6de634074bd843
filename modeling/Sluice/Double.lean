/-!
Binary floating-point numbers of 64 bits, as the exact values they stand for.
-/
namespace Sluice

/-- A finite number is `±mantissa · 2^exponent`, with a mantissa of 53 bits, or of fewer at the
least exponent -1074. Zero has a sign. -/
inductive Double where
  | nan
  | infinite (negative : Bool)
  | finite (negative : Bool) (mantissa : Nat) (exponent : Int)
  deriving DecidableEq, Repr, Inhabited

namespace Double

def leastExponent : Int := -1074
def greatestExponent : Int := 971

def neg : Double → Double
  | .nan => .nan
  | .infinite s => .infinite !s
  | .finite s m q => .finite (!s) m q

def isZero : Double → Bool
  | .finite _ m _ => m == 0
  | _ => false

/-- The nearest whole number to `num / den`, of two equally near ones the even. -/
def roundEven (num den : Nat) : Nat :=
  let q := num / den
  let r := num % den
  if 2 * r < den || (2 * r == den && q % 2 == 0) then q else q + 1

/-- `num / den` in units of `2^q`, rounded to a whole number. -/
def inUnits (num den : Nat) (q : Int) : Nat :=
  if 0 ≤ q then roundEven num (den * Nat.pow 2 q.toNat)
  else roundEven (num * Nat.pow 2 (-q).toNat) den

/-- The number nearest to `±num / den`. The unit is chosen so that 53 bits remain before rounding;
rounding up to `2^53` moves to the next unit. -/
def ofRatio (negative : Bool) (num den : Nat) : Double :=
  if num = 0 then .finite negative 0 leastExponent
  else
    let size : Int := (Nat.log2 num : Int) - Nat.log2 den
    let short := num * Nat.pow 2 (-size).toNat < den * Nat.pow 2 size.toNat
    let high := if short then size - 1 else size
    let q := max leastExponent (high - 52)
    let m := inUnits num den q
    let (m, q) := if m = Nat.pow 2 53 then (Nat.pow 2 52, q + 1) else (m, q)
    if greatestExponent < q then .infinite negative else .finite negative m q

end Double

end Sluice
