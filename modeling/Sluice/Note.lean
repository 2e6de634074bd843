import Sluice.Source
import Sluice.Text.Lines

/-!
Where an error happened, for a reader: the position, in a text also its line and column, and below
them an excerpt of the line with a caret under the position.
-/
namespace Sluice

/-- A piece of a line, and how far the caret below it is indented. -/
structure Excerpt where
  text : List Char
  indent : Int
  deriving DecidableEq, Repr

structure Place where
  line : Nat
  column : Int
  excerpt : Option Excerpt
  deriving DecidableEq, Repr

structure Note where
  message : Option String
  pos : Int
  /-- Only a text has lines. -/
  place : Option Place
  deriving DecidableEq, Repr

namespace Place

/-- Excerpts are up to forty characters wide, and the caret stands at most this far in. -/
def reach : Nat := 20

/-- A line that begins within reach is shown from its beginning, otherwise the position is in the
middle. There is none where the line is too short for the column. -/
def excerptOf (line : List Char) (column : Int) : Option Excerpt :=
  if column ≤ line.length then
    if column ≤ reach then some ⟨line.take (2 * reach), column - 1⟩
    else some ⟨slice line (column - reach) (column + reach), reach⟩
  else none

/-- Line and column count newlines only, while the excerpt is looked up among the lines that any
break ends. -/
def of (cs : List Char) (pos : Int) : Place :=
  let before := slice cs 0 pos
  let breaks := Text.newlines before
  let lastBreak : Int := (before.length : Int) - Text.afterNewline before - 1
  let column := pos - lastBreak
  ⟨breaks + 1, column, (Text.lines cs)[breaks]?.bind fun line => excerptOf line column⟩

end Place

namespace Excerpt

/-- An indent to the left of the line is none. One that no machine word holds is refused. -/
def write (e : Excerpt) : Except Fault String :=
  if fitsWord e.indent then
    .ok (String.ofList (e.text ++ '\n' :: List.replicate e.indent.toNat ' ' ++ ['^']))
  else .error .unindentable

end Excerpt

namespace Note

/-- A position past the end counts as the end. -/
def of (src : Option Source) (pos : Int) (message : Option String) : Note :=
  match src with
  | some (.text cs) =>
    let pos := min pos cs.length
    ⟨message, pos, some (.of cs pos)⟩
  | some src => ⟨message, min pos src.length, none⟩
  | none => ⟨message, pos, none⟩

def heading (note : Note) : String :=
  "At position " ++ toString note.pos ++ match note.place with
    | some place =>
      " (line " ++ toString place.line ++ ", column " ++ toString place.column ++ ")"
    | none => ""

def excerpt (note : Note) : Option Excerpt :=
  note.place.bind (·.excerpt)

/-- The parts of a note, a line each and two for an excerpt. -/
def write (note : Note) : Except Fault String := do
  let shown ← note.excerpt.toList.mapM Excerpt.write
  return String.intercalate "\n" (note.message.toList ++ note.heading :: shown)

end Note

namespace ParseError

def addNote (error : ParseError) (src : Option Source) (pos : Int) (message : Option String) :
    Except Fault ParseError := do
  let note ← (Note.of src pos message).write
  return { error with notes := error.notes ++ [note] }

/-- The note of a new error says where, and leaves saying why to the error itself. -/
def of (src : Option Source) (pos : Int) (message : Option String) : Except Fault ParseError :=
  addNote ⟨message, pos, [], src.isSome, none⟩ src pos none

end ParseError

end Sluice
