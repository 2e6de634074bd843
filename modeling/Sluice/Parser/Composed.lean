import Sluice.Parser.Bundled
import Sluice.Parser.Combinator

/-!
The parsers that are put together from the bundled ones by filters and sequences. They read the
stream through checkpoints only.
-/
namespace Sluice.Parser

inductive Composed : Parser → Prop where
  | item : Composed item
  | blanks : Composed blanks
  | integer : Composed integer
  | take {amount : Int} {p : Parser} (made : take amount = .ok p) : Composed p
  | literal {patterns : List Value} {p : Parser} (made : literal patterns = .ok p) : Composed p
  | filter {p : Parser} {layer : Layer} (inner : Composed p) : Composed (.filter p layer)
  | sequence {parts : List Part} (all : ∀ part ∈ parts, Composed part.parser) :
      Composed (sequence parts)

end Sluice.Parser
