import Sluice.Double
import Sluice.Text.Numeral

/-!
Floating-point numbers in decimal: the shortest digits that stand for a number and no other, the
layout they are written in, and a reader for the same and looser spellings.
-/
namespace Sluice.Double

/-- A number and the ends of the interval of reals that round to it, all as multiples of a unit that
is a quarter of the number's own. -/
structure Interval where
  low : Nat
  value : Nat
  high : Nat
  /-- The ends round to the number exactly when its mantissa is even. -/
  closed : Bool
  unitNum : Nat
  unitDen : Nat

/-- Below a power of two the neighbours are half as far apart. -/
def interval (m : Nat) (q : Int) : Interval where
  low := if m = Nat.pow 2 52 && leastExponent < q then 4 * m - 1 else 4 * m - 2
  value := 4 * m
  high := 4 * m + 2
  closed := m % 2 == 0
  unitNum := Nat.pow 2 (q - 2).toNat
  unitDen := Nat.pow 2 (2 - q).toNat

/-- Decimal digits, read as a whole number, times a power of ten. -/
structure Decimal where
  digits : Nat
  scale : Int
  deriving DecidableEq, Repr

/-- Whether `digits · 10^scale` rounds to the number of the interval. -/
def Interval.holds (i : Interval) (d : Decimal) : Bool :=
  let num := d.digits * Nat.pow 10 d.scale.toNat * i.unitDen
  let den := Nat.pow 10 (-d.scale).toNat * i.unitNum
  if i.closed then i.low * den ≤ num && num ≤ i.high * den
  else i.low * den < num && num < i.high * den

/-- The nearer of the two neighbours on the grid `10^scale` that lie in the interval. -/
def Interval.onGrid? (i : Interval) (scale : Int) : Option Decimal :=
  let num := i.value * i.unitNum * Nat.pow 10 (-scale).toNat
  let den := i.unitDen * Nat.pow 10 scale.toNat
  let below : Decimal := ⟨num / den, scale⟩
  let above : Decimal := ⟨num / den + 1, scale⟩
  let nearest := if roundEven num den = below.digits then [below, above] else [above, below]
  nearest.find? i.holds

/-- The power of ten at or below `num / den`, tried from a first guess. -/
def magnitude (num den : Nat) : Int :=
  let guess : Int := ((Nat.toDigits 10 num).length : Int) - (Nat.toDigits 10 den).length
  if num * Nat.pow 10 (-guess).toNat < den * Nat.pow 10 guess.toNat then guess - 1 else guess

/-- Seventeen digits always suffice, so the search ends with an answer. -/
def shortest (m : Nat) (q : Int) : Decimal :=
  let i := interval m q
  let top := magnitude (i.value * i.unitNum) i.unitDen
  let grids := (List.range 17).map fun (k : Nat) => top - k
  (grids.findSome? i.onGrid?).getD ⟨m, q⟩

/-- How a number is laid out: from which power of ten on it is written out in full, and how wide its
exponent is otherwise. -/
structure Layout where
  leastPower : Int
  greatestPower : Int
  exponentWidth : Nat

/-- A number is written out from `0.0001` up to sixteen digits before the point. -/
def layout : Layout := ⟨-4, 15, 2⟩

def pad (width : Nat) (s : String) : String :=
  String.ofList (List.replicate (width - s.length) '0') ++ s

/-- Digits with a point after the first `whole` of them, with zeros to fill and at least one digit
on either side. -/
def pointed (digits : List Char) (whole : Int) : String :=
  let filled := digits ++ List.replicate (whole.toNat - digits.length) '0'
  let front := if whole ≤ 0 then ['0'] else filled.take whole.toNat
  let back := List.replicate (-whole).toNat '0' ++ digits.drop whole.toNat
  String.ofList (front ++ '.' :: if back.isEmpty then ['0'] else back)

def scientific (digits : List Char) (power : Int) : String :=
  let tail := digits.drop 1
  let mantissa := digits.take 1 ++ if tail.isEmpty then [] else '.' :: tail
  let sign := if power < 0 then "-" else "+"
  String.ofList mantissa ++ "e" ++ sign ++ pad layout.exponentWidth (toString power.natAbs)

/-- Digits that end in zeros say the same without them. -/
def trimmed (digits : List Char) : List Char :=
  (digits.reverse.dropWhile (· = '0')).reverse

def text : Double → String
  | .nan => "nan"
  | .infinite negative => if negative then "-inf" else "inf"
  | .finite negative m q =>
    let sign := if negative then "-" else ""
    if m = 0 then sign ++ "0.0"
    else
      let d := shortest m q
      let all := Nat.toDigits 10 d.digits
      let power := d.scale + all.length - 1
      let shown := trimmed all
      let inFull := layout.leastPower ≤ power && power ≤ layout.greatestPower
      sign ++ if inFull then pointed shown (power + 1) else scientific shown power

/-- Splits off a run of digits. -/
def digitRun (cs : List Char) : List Char × List Char :=
  cs.span Text.isDigit

/-- A power of ten: `e`, an optional sign and digits, up to the end of the text. -/
def readPower? : List Char → Option Int
  | [] => some 0
  | e :: rest =>
    if e.toLower ≠ 'e' then none
    else
      (Text.readNumeral rest).toOption

/-- Powers beyond these give zero or infinity whatever the digits. -/
def ofDecimal (negative : Bool) (d : Decimal) : Double :=
  let power := d.scale + (Nat.toDigits 10 d.digits).length
  if d.digits = 0 || power < -400 then .finite negative 0 leastExponent
  else if 400 < power then .infinite negative
  else ofRatio negative (d.digits * Nat.pow 10 d.scale.toNat) (Nat.pow 10 (-d.scale).toNat)

def readUnsigned? (negative : Bool) (cs : List Char) : Option Double :=
  let word := String.ofList (cs.map Char.toLower)
  if word = "nan" then some .nan
  else if word = "inf" || word = "infinity" then some (.infinite negative)
  else
    let (whole, rest) := digitRun cs
    let (fraction, rest) := match rest with
      | '.' :: rest => digitRun rest
      | rest => ([], rest)
    if whole.isEmpty && fraction.isEmpty then none
    else (readPower? rest).map fun power =>
      ofDecimal negative ⟨Text.positional (whole ++ fraction), power - fraction.length⟩

/-- Reads a number in any usual spelling. -/
def ofText? (s : String) : Option Double :=
  let (negative, rest) := Text.unsigned s.toList
  readUnsigned? negative rest

end Sluice.Double
