import Sluice.Slice
import Sluice.Value.Basic

/-!
What is parsed: a text, a byte string, or a sequence of items of any kind. All of them are read by
position, and a slice of one is a value of the same kind.
-/
namespace Sluice

inductive Source where
  | text (cs : List Char)
  | bytes (bs : List UInt8)
  | list (items : List Value)
  | tuple (items : List Value)

namespace Source

def ofText (s : String) : Source :=
  .text s.toList

def ofValue? : Value → Option Source
  | .text s => some (.ofText s)
  | .bytes bs => some (.bytes bs)
  | .list items => some (.list items)
  | .tuple items => some (.tuple items)
  | _ => none

def shape : Source → Shape
  | .text _ => .text
  | .bytes _ => .bytes
  | .list _ => .list
  | .tuple _ => .tuple

def length : Source → Nat
  | .text cs => cs.length
  | .bytes bs => bs.length
  | .list items => items.length
  | .tuple items => items.length

def ofChar (c : Char) : Value :=
  .text (String.singleton c)

def ofByte (b : UInt8) : Value :=
  .int b.toNat

/-- The source as the sequence of its items. -/
def items : Source → List Value
  | .text cs => cs.map ofChar
  | .bytes bs => bs.map ofByte
  | .list items => items
  | .tuple items => items

theorem length_items (src : Source) : src.items.length = src.length := by
  cases src <;> simp [items, length]

/-- The item at a position, without the reasons for which there may be none. -/
def item? (src : Source) (i : Int) : Option Value :=
  match src with
  | .text cs => (itemAt? cs i).map ofChar
  | .bytes bs => (itemAt? bs i).map ofByte
  | .list items => itemAt? items i
  | .tuple items => itemAt? items i

theorem item?_eq (src : Source) (i : Int) : src.item? i = itemAt? src.items i := by
  cases src with
  | list | tuple => rfl
  | text | bytes =>
    simp only [item?, items, itemAt?, List.length_map, List.getElem?_map]
    split
    · rfl
    · split <;> rfl

theorem item?_eq_none_iff {src : Source} {i : Int} :
    src.item? i = none ↔ i < -src.length ∨ src.length ≤ i := by
  rw [item?_eq, itemAt?_eq_none_iff, length_items]

/-- Where there is no item, a position that no machine word holds is refused for that reason. -/
def item (src : Source) (i : Int) : Except Fault Value :=
  match src.item? i with
  | some v => .ok v
  | none => .error (if fitsWord i then .outOfRange src.shape else .unindexable)

/-- The source cut down to the items from `a` up to but excluding `b`. -/
def cut (src : Source) (a b : Int) : Source :=
  match src with
  | .text cs => .text (Sluice.slice cs a b)
  | .bytes bs => .bytes (Sluice.slice bs a b)
  | .list items => .list (Sluice.slice items a b)
  | .tuple items => .tuple (Sluice.slice items a b)

def toValue : Source → Value
  | .text cs => .text (String.ofList cs)
  | .bytes bs => .bytes bs
  | .list items => .list items
  | .tuple items => .tuple items

def slice (src : Source) (a b : Int) : Value :=
  (src.cut a b).toValue

def stride (src : Source) (a b step : Option Int) : Except Fault Value :=
  let step := step.getD 1
  let cut : Option Source := match src with
    | .text cs => (Sluice.stride cs a b step).map .text
    | .bytes bs => (Sluice.stride bs a b step).map .bytes
    | .list items => (Sluice.stride items a b step).map .list
    | .tuple items => (Sluice.stride items a b step).map .tuple
  match cut with
  | some src => .ok src.toValue
  | none => .error .stepZero

end Source

end Sluice
