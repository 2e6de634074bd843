import Sluice.Text.Printable

/-!
Texts and byte strings written in quotes, on one line and in printable characters.
-/
namespace Sluice.Text

def hexDigit (n : Nat) : Char :=
  if n < 10 then Char.ofNat (n + 48) else Char.ofNat (n + 87)

/-- The last `width` hexadecimal digits of `n`. -/
def hex : Nat → Nat → List Char
  | 0, _ => []
  | width + 1, n => hex width (n / 16) ++ [hexDigit (n % 16)]

/-- The numbered form of a character that is not shown as itself, as short as its number allows. -/
def numbered (n : Nat) : List Char :=
  if n < 0x100 then '\\' :: 'x' :: hex 2 n
  else if n < 0x10000 then '\\' :: 'u' :: hex 4 n
  else '\\' :: 'U' :: hex 8 n

/-- The apostrophe delimits, unless it occurs and the double quote does not. -/
def delimiter (cs : List Char) : Char :=
  if cs.contains '\'' && !cs.contains '"' then '"' else '\''

def escapeWith (shown : Char → Bool) (delimiter c : Char) : List Char :=
  if c = delimiter || c = '\\' then ['\\', c]
  else if c = '\n' then ['\\', 'n']
  else if c = '\r' then ['\\', 'r']
  else if c = '\t' then ['\\', 't']
  else if shown c then [c]
  else numbered c.toNat

def quoteWith (shown : Char → Bool) (cs : List Char) : List Char :=
  let q := delimiter cs
  q :: cs.flatMap (escapeWith shown q) ++ [q]

def quote (s : String) : String :=
  String.ofList (quoteWith isPrintable s.toList)

/-- Bytes are written as the characters of the same numbers, those beyond ASCII in numbered form. -/
def quoteBytes (bytes : List UInt8) : String :=
  let shown (c : Char) := 0x20 ≤ c.toNat && c.toNat < 0x7f
  String.ofList ('b' :: quoteWith shown (bytes.map fun b => Char.ofNat b.toNat))

end Sluice.Text
