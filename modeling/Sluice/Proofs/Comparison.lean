import Sluice.Parser

/-!
What a comparison can raise. Only touchy values do not put up with being compared, and all of them
say so in the same way; so nothing a filter compares with can surface as a parse failure.
-/
namespace Sluice

namespace Value

/-- An answer, or else the error of a touchy value. -/
def Civil (answer : Except Fault α) : Prop :=
  ∀ fault, answer = .error fault → ∃ words, fault = .raised .runtime words

namespace Civil

theorem ok (a : α) : Civil (.ok a) :=
  nofun

theorem touchy (words : String) : Civil (.error (.raised .runtime words) : Except Fault α) := by
  rintro fault ⟨⟩
  exact ⟨words, rfl⟩

theorem bind {x : Except Fault α} {f : α → Except Fault β} (first : Civil x)
    (rest : ∀ a, Civil (f a)) : Civil (x >>= f) := by
  cases x with
  | ok a => exact rest a
  | error fault =>
    rintro _ ⟨⟩
    exact first fault rfl

theorem map {x : Except Fault α} (civil : Civil x) (f : α → β) : Civil (x.map f) := by
  cases x with
  | ok a => exact ok (f a)
  | error fault =>
    rintro _ ⟨⟩
    exact civil fault rfl

end Civil

theorem answerEq_civil (otherwise : Bool) (b : Value) : Civil (b.answerEq otherwise) := by
  cases b with
  | touchy self words => exact .touchy words
  | _ => exact .ok _

theorem equalNumbers_civil (inside : Bool) (a : Value) (m : Number) (b : Value) :
    Civil (equalNumbers inside a m b) := by
  unfold equalNumbers
  split
  · exact .ok _
  · exact answerEq_civil false b

mutual

theorem equalsIn_civil (inside : Bool) : (a b : Value) → Civil (equalsIn inside a b)
  | .nothing, b => by
    unfold equalsIn
    split
    · exact .ok _
    · exact answerEq_civil false b
  | .bool x, b => by
    unfold equalsIn
    exact equalNumbers_civil inside _ _ b
  | .int x, b => by
    unfold equalsIn
    exact equalNumbers_civil inside _ _ b
  | .float self x, b => by
    unfold equalsIn
    exact equalNumbers_civil inside _ _ b
  | .text s, b => by
    unfold equalsIn
    split
    · exact .ok _
    · exact answerEq_civil false b
  | .bytes xs, b => by
    unfold equalsIn
    split
    · exact .ok _
    · exact answerEq_civil false b
  | .list xs, b => by
    unfold equalsIn
    split
    · split
      · exact (equalItems_civil xs _).map _
      · exact .ok _
    · exact answerEq_civil false b
  | .tuple xs, b => by
    unfold equalsIn
    split
    · exact (equalItems_civil xs _).map _
    · exact answerEq_civil false b
  | .dict xs, b => by
    unfold equalsIn
    split
    · split
      · exact (equalEntries_civil xs _).map _
      · exact .ok _
    · exact answerEq_civil false b
  | .exception self kind words, b => by
    unfold equalsIn
    split
    · exact .ok _
    · exact answerEq_civil false b
  | .touchy self words, b => by
    unfold equalsIn
    split
    · split
      · exact .ok _
      · exact .touchy words
    · exact .touchy words
  | .scripted self onEq onNe, b => by
    unfold equalsIn
    split <;> exact .ok _
  | .response (.success self data range), b => by
    unfold equalsIn
    split
    · exact .bind (equalsIn_civil _ data _) fun answer => .ok _
    · exact answerEq_civil false b
  | .response (.failure self pos error message), b => by
    unfold equalsIn
    split
    · split
      · exact .bind (equalsIn_civil _ error _) fun answer => .ok _
      · exact .ok _
    · exact answerEq_civil false b

theorem equalItems_civil : (xs ys : List Value) → Civil (equalItems xs ys)
  | x :: xs, y :: ys => by
    unfold equalItems
    refine .bind (equalsIn_civil true x y) fun answer => ?_
    split
    · exact equalItems_civil xs ys
    · exact .ok _
  | [], [] => by
    unfold equalItems
    exact .ok _
  | [], _ :: _ => by
    unfold equalItems
    exact .ok _
  | _ :: _, [] => by
    unfold equalItems
    exact .ok _

theorem equalEntries_civil : (xs ys : List (Key × Value)) → Civil (equalEntries xs ys)
  | [], ys => by
    unfold equalEntries
    exact .ok _
  | (key, x) :: rest, ys => by
    unfold equalEntries
    split
    · refine .bind (equalsIn_civil true x _) fun answer => ?_
      split
      · exact equalEntries_civil rest ys
      · exact .ok _
    · exact .ok _

end

theorem equals_civil (a b : Value) : Civil (a.equals b) :=
  equalsIn_civil false a b

theorem differs_civil (a b : Value) : Civil (a.differs b) := by
  unfold differs
  split
  · exact .ok _
  · exact .touchy _
  · exact .ok _
  · exact .bind (equals_civil _ _) fun answer => .ok _

end Value

theorem Layer.holds_civil (layer : Layer) (v : Value) : Value.Civil (layer.holds v) := by
  unfold holds
  cases layer.direction with
  | eq => exact (Value.equals_civil v layer.value).map _
  | ne => exact (Value.differs_civil v layer.value).map _

end Sluice
