import Sluice.Value.Basic

/-!
What truth values, whole numbers and floating-point numbers have in common: a number, compared
exactly.
-/
namespace Sluice

/-- Every finite floating-point number is a whole number or a fraction in lowest terms whose
denominator is a power of two. In this form equal numbers are written alike. -/
inductive Number where
  | nan
  | infinite (negative : Bool)
  | whole (n : Int)
  /-- `odd / 2^halvings`, with at least one halving. -/
  | fraction (odd : Int) (halvings : Nat)
  deriving DecidableEq, Repr

namespace Number

/-- `n / 2^halvings` in lowest terms. -/
def reduce (n : Int) : Nat → Number
  | 0 => .whole n
  | k + 1 => if n % 2 = 0 then reduce (n / 2) k else .fraction n (k + 1)

def ofDouble : Double → Number
  | .nan => .nan
  | .infinite negative => .infinite negative
  | .finite negative m q =>
    let n : Int := if negative then -(m : Int) else m
    if 0 ≤ q then .whole (n * Nat.pow 2 q.toNat) else reduce n (-q).toNat

/-- Not a number equals nothing, itself included. -/
def equals : Number → Number → Bool
  | .nan, _ => false
  | a, b => a == b

end Number

def Value.number? : Value → Option Number
  | .bool b => some (.whole (if b then 1 else 0))
  | .int n => some (.whole n)
  | .float _ x => some (.ofDouble x)
  | _ => none

end Sluice
