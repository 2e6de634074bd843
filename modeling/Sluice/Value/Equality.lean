import Sluice.Value.Number

/-!
Equality of values. An answer is a value, since a scripted value may answer with anything, and
asking may raise an error. The value on the left is asked first; one that does not know the other's
type leaves the answer to it.
-/
namespace Sluice.Value

/-- What the value on the right of `==` says when the one on the left leaves the answer to it. -/
def answerEq (otherwise : Bool) : Value → Except Fault Value
  | .scripted _ onEq _ => .ok onEq
  | .touchy _ words => .error (.raised .runtime words)
  | _ => .ok (.bool otherwise)

/-- Two numbers inside a container: the same object is equal to itself, even where it is no number.
-/
def sameNaN (inside : Bool) : Value → Value → Bool
  | .float a .nan, .float b .nan => inside && a.same b
  | _, _ => false

def equalNumbers (inside : Bool) (a : Value) (m : Number) (b : Value) : Except Fault Value :=
  match b.number? with
  | some n => .ok (.bool (m.equals n || sameNaN inside a b))
  | none => b.answerEq false

mutual

/-- The answer to `a == b`. Inside a container (`inside`), an object that meets itself is equal to
itself without being asked, and so is everything in it. -/
def equalsIn (inside : Bool) : Value → Value → Except Fault Value
  | .nothing, b => match b with
    | .nothing => .ok (.bool true)
    | b => b.answerEq false
  | .bool x, b => equalNumbers inside (.bool x) (.whole (if x then 1 else 0)) b
  | .int x, b => equalNumbers inside (.int x) (.whole x) b
  | .float self x, b => equalNumbers inside (.float self x) (.ofDouble x) b
  | .text s, b => match b with
    | .text t => .ok (.bool (s == t))
    | b => b.answerEq false
  | .bytes xs, b => match b with
    | .bytes ys => .ok (.bool (xs == ys))
    | b => b.answerEq false
  | .list xs, b => match b with
    | .list ys =>
      if xs.length = ys.length then (equalItems xs ys).map .bool else .ok (.bool false)
    | b => b.answerEq false
  | .tuple xs, b => match b with
    | .tuple ys => (equalItems xs ys).map .bool
    | b => b.answerEq false
  | .dict xs, b => match b with
    | .dict ys =>
      if xs.length = ys.length then (equalEntries xs ys).map .bool else .ok (.bool false)
    | b => b.answerEq false
  | .exception self _ _, b => match b with
    | .exception other _ _ => .ok (.bool (self == other))
    | b => b.answerEq false
  | .touchy self words, b => match b with
    | .touchy other _ =>
      if inside && self == other then .ok (.bool true) else .error (.raised .runtime words)
    | _ => .error (.raised .runtime words)
  | .scripted self onEq _, b => match b with
    | .scripted other _ _ => .ok (if inside && self == other then .bool true else onEq)
    | _ => .ok onEq
  | .response (.success self data range), b => match b with
    | .response (.success other data' range') => do
      let answer ← equalsIn (inside && self.same other) data data'
      return if answer.truthy then .bool (range == range') else answer
    | b => b.answerEq false
  | .response (.failure self pos error message), b => match b with
    | .response (.failure other pos' error' message') =>
      if pos = pos' then do
        let answer ← equalsIn (inside && self.same other) error error'
        return if answer.truthy then .bool (message == message') else answer
      else .ok (.bool false)
    | b => b.answerEq false

/-- Items are compared in turn up to the first difference, and only then the lengths. -/
def equalItems : List Value → List Value → Except Fault Bool
  | x :: xs, y :: ys => do
    let answer ← equalsIn true x y
    if answer.truthy then equalItems xs ys else return false
  | [], [] => .ok true
  | _, _ => .ok false

/-- Entries are compared in the order of the left side; a key that the right side lacks settles it.
-/
def equalEntries : List (Key × Value) → List (Key × Value) → Except Fault Bool
  | [], _ => .ok true
  | (key, x) :: rest, ys => match ys.lookup key with
    | some y => do
      let answer ← equalsIn true x y
      if answer.truthy then equalEntries rest ys else return false
    | none => .ok false

end

/-- The answer to `a == b`. -/
def equals (a b : Value) : Except Fault Value :=
  equalsIn false a b

/-- The answer to `a != b`. Scripted values have one of their own; all others negate `==`. -/
def differs (a b : Value) : Except Fault Value :=
  match a, b with
  | .scripted _ _ onNe, _ => .ok onNe
  | .touchy _ words, _ => .error (.raised .runtime words)
  | _, .scripted _ _ onNe => .ok onNe
  | a, b => do
    let answer ← equals a b
    return .bool !answer.truthy

end Sluice.Value
