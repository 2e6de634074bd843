import Sluice.Double
import Sluice.Fault

/-!
The values that sources hold, parsers produce and filters compare, and the responses of parsers,
which are values too.
-/
namespace Sluice

/-- Which object a value is, where two that look alike can differ: `some n` is the object numbered
`n` by whoever made it, `none` an object made in passing, which no one else holds. -/
abbrev Identity := Option Nat

def Identity.same (a b : Identity) : Bool :=
  a.isSome && a == b

/-- The outcome of one parse attempt. A silent failure has nothing as its error. -/
inductive Response (α : Type) where
  | success (self : Identity) (data : α) (range : Option (Int × Int))
  | failure (self : Identity) (pos : Option Int) (error : α) (message : Option String)

inductive Key where
  | text (s : String)
  | number (n : Int)
  deriving DecidableEq, Repr

inductive Value where
  | nothing
  | bool (b : Bool)
  | int (n : Int)
  | float (self : Identity) (x : Double)
  | text (s : String)
  | bytes (bs : List UInt8)
  | list (items : List Value)
  | tuple (items : List Value)
  /-- Entries in the order of their insertion, each key once. -/
  | dict (entries : List (Key × Value))
  | exception (self : Nat) (kind : Kind) (text : String)
  /-- Raises an error whenever it is compared. -/
  | touchy (self : Nat) (text : String)
  /-- Answers every `==` with one value and every `!=` with another. -/
  | scripted (self : Nat) (onEq onNe : Value)
  | response (r : Response Value)
  deriving Inhabited

abbrev Reply := Response Value

namespace Response

def self : Response α → Identity
  | .success self _ _ => self
  | .failure self _ _ _ => self

/-- A response is true exactly when it is a success. -/
def truthy : Response α → Bool
  | .success .. => true
  | .failure .. => false

/-- Where a success began, or where a failure was noticed. -/
def start : Response α → Option Int
  | .success _ _ range => range.map Prod.fst
  | .failure _ pos _ _ => pos

end Response

namespace Value

def pair (range : Int × Int) : Value :=
  .tuple [.int range.1, .int range.2]

def ofOption (v : Option Value) : Value :=
  v.getD .nothing

def isNothing : Value → Bool
  | .nothing => true
  | _ => false

def truthy : Value → Bool
  | .nothing => false
  | .bool b => b
  | .int n => n != 0
  | .float _ x => !x.isZero
  | .text s => !s.isEmpty
  | .bytes bs => !bs.isEmpty
  | .list items => !items.isEmpty
  | .tuple items => !items.isEmpty
  | .dict entries => !entries.isEmpty
  | .exception .. => true
  | .touchy .. => true
  | .scripted .. => true
  | .response r => r.truthy

def typeName : Value → String
  | .nothing => "NoneType"
  | .bool _ => "bool"
  | .int _ => "int"
  | .float .. => "float"
  | .text _ => "str"
  | .bytes _ => "bytes"
  | .list _ => "list"
  | .tuple _ => "tuple"
  | .dict _ => "dict"
  | .exception _ kind _ => kind.name
  | .touchy .. => "Bomb"
  | .scripted .. => "Cmp"
  | .response (.success ..) => "Result"
  | .response (.failure ..) => "ParseFailure"

/-- How many items a value has, where it has items. -/
def size : Value → Except Fault Nat
  | .text s => .ok s.length
  | .bytes bs => .ok bs.length
  | .list items => .ok items.length
  | .tuple items => .ok items.length
  | .dict entries => .ok entries.length
  | v => .error (.unsized v.typeName)

/-- The values met when going through a value one by one. -/
def elements : Value → List Value
  | .text s => s.toList.map fun c => .text (String.singleton c)
  | .bytes bs => bs.map fun b => .int b.toNat
  | .list items => items
  | .tuple items => items
  | .dict entries => entries.map fun entry => match entry.1 with
    | .text s => .text s
    | .number n => .int n
  | _ => []

/-- A later entry for a key replaces the value and keeps the place. -/
def put (key : Key) (v : Value) : List (Key × Value) → List (Key × Value)
  | [] => [(key, v)]
  | entry :: rest => if entry.1 = key then (key, v) :: rest else entry :: put key v rest

def ofEntries (entries : List (Key × Value)) : Value :=
  .dict (entries.foldl (fun kept entry => put entry.1 entry.2 kept) [])

end Value

end Sluice
