import Sluice.Value.Basic
import Sluice.Double.Decimal

/-!
Values in writing: `shown` is the form that stands in notes and inside containers, `plain` the form
in which a text is itself.
-/
namespace Sluice

def Key.shown : Key → String
  | .text s => Text.quote s
  | .number n => toString n

namespace Value

def commaSeparated (parts : List String) : String :=
  String.intercalate ", " parts

/-- What a failure says after its opening: each part that it has, a blank before each. -/
def failureParts (pos : Option Int) (error : Option String) (message : Option String) : String :=
  (pos.map (" at " ++ toString ·)).getD "" ++ (error.map (" " ++ ·)).getD "" ++
    (message.map (" " ++ Text.quote ·)).getD ""

mutual

def shown : Value → String
  | .nothing => "None"
  | .bool b => if b then "True" else "False"
  | .int n => toString n
  | .float _ x => x.text
  | .text s => Text.quote s
  | .bytes bs => Text.quoteBytes bs
  | .list items => "[" ++ commaSeparated (shownItems items) ++ "]"
  | .tuple items => match items with
    | [item] => "(" ++ shown item ++ ",)"
    | items => "(" ++ commaSeparated (shownItems items) ++ ")"
  | .dict entries => "\x7b" ++ commaSeparated (shownEntries entries) ++ "\x7d"
  | .exception _ kind words => kind.name ++ "(" ++ Text.quote words ++ ")"
  | .touchy .. => "<bomb>"
  | .scripted .. => "<cmp>"
  | .response (.success _ data range) =>
    "<Result" ++ (range.map fun r => " " ++ toString r.1 ++ ".." ++ toString r.2).getD "" ++
      " \x7b" ++ shown data ++ "\x7d>"
  | .response (.failure _ pos error message) =>
    let said := if error.isNothing then none else some (shown error)
    "<ParseFailure" ++ failureParts pos said message ++ ">"

def shownItems : List Value → List String
  | [] => []
  | item :: rest => shown item :: shownItems rest

def shownEntries : List (Key × Value) → List String
  | [] => []
  | (key, v) :: rest => (key.shown ++ ": " ++ shown v) :: shownEntries rest

end

def plain : Value → String
  | .text s => s
  | .exception _ kind words => kind.wording words
  | v => shown v

end Value

def Response.shown (r : Reply) : String :=
  Value.shown (.response r)

end Sluice
