import Sluice.Parser.Builder
import Sluice.Parser.Bundled
import Sluice.Parser.Tower

/-!
An equality check and its negation. They ask two different operators, and which value answers
depends on the types of both; but unless one of them has answers of its own the two operators
disagree, so of two opposite filters one keeps exactly what the other rejects.
-/
namespace Sluice

/-- What a comparison answers about values that are equal or are not. -/
def Direction.answer : Direction → Bool → Value
  | .eq, equal => .bool equal
  | .ne, equal => .bool !equal

namespace Value

/-- Scripted and touchy values do not compare like others. -/
def comparesItself : Value → Bool
  | .scripted .. => true
  | .touchy .. => true
  | _ => false

/-! ## Which value answers -/

/-- What `==` means for responses. Its answer is that of the first parts that differ. -/
def responseEquals : Reply → Reply → Except Fault Value
  | .success _ data range, .success _ data' range' => do
    let answer ← equals data data'
    return if answer.truthy then .bool (range == range') else answer
  | .failure _ pos error message, .failure _ pos' error' message' =>
    if pos = pos' then do
      let answer ← equals error error'
      return if answer.truthy then .bool (message == message') else answer
    else .ok (.bool false)
  | _, _ => .ok (.bool false)

/-- Responses of one kind know each other. -/
def alike : Reply → Reply → Bool
  | .success .., .success .. => true
  | .failure .., .failure .. => true
  | _, _ => false

/-- What a type that only defines `==` makes of its answer. -/
def derive (answer : Except Fault Value) : Direction → Except Fault Value
  | .eq => answer
  | .ne => answer.map fun equal => .bool !equal.truthy

/-- What a value says of another, or nothing if it does not know the other's type. Both comparisons
of containers go by the `==` of their items. -/
def opinion (d : Direction) : Value → Value → Option (Except Fault Value)
  | .scripted _ onEq onNe, _ => some (.ok (match d with | .eq => onEq | .ne => onNe))
  | .touchy _ words, _ => some (.error (.raised .runtime words))
  | .text s, .text t => some (.ok (d.answer (s == t)))
  | .bytes xs, .bytes ys => some (.ok (d.answer (xs == ys)))
  | .list xs, .list ys => some <|
    if xs.length = ys.length then (equalItems xs ys).map d.answer else .ok (d.answer false)
  | .tuple xs, .tuple ys => some ((equalItems xs ys).map d.answer)
  | .dict xs, .dict ys => some <|
    if xs.length = ys.length then (equalEntries xs ys).map d.answer else .ok (d.answer false)
  | .response r, .response r' =>
    if alike r r' then some (derive (responseEquals r r') d) else none
  | a, b => match a.number?, b.number? with
    | some m, some n => some (.ok (d.answer (m.equals n)))
    | _, _ => none

/-- Whether two values are the same object. It matters only to values that know no others. -/
def same : Value → Value → Bool
  | .nothing, .nothing => true
  | .exception self _ _, .exception other _ _ => self == other
  | _, _ => false

/-- The answer to a comparison: of the left value, else of the right one, else whether they are the
same. -/
def ask (d : Direction) (a b : Value) : Except Fault Value :=
  match a.opinion d b with
  | some answer => answer
  | none => match b.opinion d a with
    | some answer => answer
    | none => .ok (d.answer (a.same b))

variable {a b : Value}

section
variable {m n : Number}

theorem ask_numbers (d : Direction) (left : a.number? = some m) (right : b.number? = some n) :
    ask d a b = .ok (d.answer (m.equals n)) := by
  cases a <;> cases left <;> cases b <;> cases right <;> rfl

theorem equals_numbers (left : a.number? = some m) (right : b.number? = some n) :
    a.equals b = .ok (.bool (m.equals n)) := by
  have outside : sameNaN false a b = false := by
    unfold sameNaN
    split <;> rfl
  have whole : a.equals b = equalNumbers false a m b := by
    cases a <;> cases left <;> unfold equals equalsIn <;> rfl
  simp only [whole, equalNumbers, right, outside, Bool.or_false]

end

theorem ask_eq (a b : Value) : ask .eq a b = a.equals b := by
  cases a with
  | bool | int | float =>
    cases b with
    | bool | int | float => exact (ask_numbers .eq rfl rfl).trans (equals_numbers rfl rfl).symm
    | _ => rfl
  | response r =>
    cases r with
    | success | failure =>
      cases b with
      | response r' => cases r' <;> rfl
      | _ => rfl
  | _ => cases b <;> rfl

/-! ## The two operators beside each other -/

theorem derive_answer (equal : Except Fault Bool) :
    derive (equal.map Direction.eq.answer) .ne = equal.map Direction.ne.answer := by
  cases equal <;> rfl

theorem truthy_derive (answer : Except Fault Value) :
    (derive answer .ne).map truthy = (answer.map truthy).map not := by
  cases answer <;> rfl

/-- The operators of a type disagree, where there are any. -/
theorem opinion_ne (ordinary : a.comparesItself = false) (b : Value) :
    a.opinion .ne b = (a.opinion .eq b).map (derive · .ne) := by
  cases a with
  | scripted | touchy => cases ordinary
  | tuple xs =>
    cases b with
    | tuple ys => exact congrArg some (derive_answer (equalItems xs ys)).symm
    | _ => rfl
  | list xs =>
    cases b with
    | list ys =>
      by_cases even : xs.length = ys.length
      · simp only [opinion, even, if_true, Option.map_some, derive_answer]
      · simp only [opinion, even, if_false]
        rfl
    | _ => rfl
  | dict xs =>
    cases b with
    | dict ys =>
      by_cases even : xs.length = ys.length
      · simp only [opinion, even, if_true, Option.map_some, derive_answer]
      · simp only [opinion, even, if_false]
        rfl
    | _ => rfl
  | response r =>
    cases b with
    | response r' =>
      by_cases known : alike r r' = true
      · simp only [opinion, known, if_true]
        rfl
      · simp only [opinion, known, Bool.false_eq_true, if_false]
        rfl
    | _ => rfl
  | _ => cases b <;> rfl

/-- So do those of the two values together, whichever of them answers. -/
theorem ask_ne (left : a.comparesItself = false) (right : b.comparesItself = false) :
    ask .ne a b = derive (ask .eq a b) .ne := by
  unfold ask
  rw [opinion_ne left, opinion_ne right]
  cases a.opinion .eq b with
  | some answer => rfl
  | none =>
    cases b.opinion .eq a with
    | some answer => rfl
    | none => rfl

theorem differs_eq (left : a.comparesItself = false) (right : b.comparesItself = false) :
    a.differs b = derive (a.equals b) .ne := by
  cases a with
  | scripted | touchy => cases left
  | _ =>
    cases b with
    | scripted | touchy => cases right
    | _ => rfl

/-- What filters ask is what the types of both values say. -/
theorem ask_differs (a b : Value) : ask .ne a b = a.differs b := by
  by_cases left : a.comparesItself = true
  · cases a with
    | scripted | touchy => rfl
    | _ => cases left
  · by_cases right : b.comparesItself = true
    · cases b with
      | scripted | touchy =>
        cases a with
        | scripted | touchy => exact (left rfl).elim
        | response r => cases r <;> rfl
        | _ => rfl
      | _ => cases right
    · rw [Bool.not_eq_true] at left right
      rw [ask_ne left right, ask_eq, differs_eq left right]

end Value

/-! ## Filters -/

namespace Layer

/-- The response itself is handed on, and no diagnostic is called. -/
def Keeps (layer : Layer) (r : Reply) : Prop :=
  ∀ s, layer.apply r s = .ok .kept s

/-- A failure at the start of the response is handed on instead. If there is a diagnostic, it is
called once, and what it answers is the error. -/
def Rejects (layer : Layer) (r : Reply) : Prop :=
  ∀ s, layer.apply r s = match layer.diagnostic with
    | none => .ok (.made (.failure none r.start .nothing none)) s
    | some d => match d.answer (Diagnostic.count s.calls d.number + 1) with
      | .ok error =>
        .ok (.made (.failure none r.start error none)) { s with calls := d.number :: s.calls }
      | .error fault => .error fault { s with calls := d.number :: s.calls }

/-- An error gets through, and no diagnostic is called. -/
def Raises (layer : Layer) (fault : Fault) (r : Reply) : Prop :=
  ∀ s, layer.apply r s = .error fault s

/-- One of two filters keeps a response and the other rejects it, or both raise the same error. -/
def Opposed (eq ne : Layer) (r : Reply) : Except Fault Bool → Prop
  | .ok true => eq.Keeps r ∧ ne.Rejects r
  | .ok false => eq.Rejects r ∧ ne.Keeps r
  | .error fault => eq.Raises fault r ∧ ne.Raises fault r

variable {layer : Layer} {self : Identity} {v w : Value} {range : Option (Int × Int)}

theorem keeps_of_holds (passes : layer.holds v = .ok true) :
    layer.Keeps (.success self v range) := by
  intro s
  rw [Parser.apply_run, passes]

theorem rejects_of_holds (fails : layer.holds v = .ok false) :
    layer.Rejects (.success self v range) := by
  intro s
  rw [Parser.apply_run, fails]
  dsimp only
  cases layer.diagnostic with
  | none => rfl
  | some d =>
    simp only [Diagnostic.call_run, Diagnostic.count, List.count_cons_self]
    cases d.answer (s.calls.count d.number + 1) <;> rfl

theorem raises_of_holds {fault : Fault} (raises : layer.holds v = .error fault) :
    layer.Raises fault (.success self v range) := by
  intro s
  rw [Parser.apply_run, raises]

theorem holds_eq_ask (layer : Layer) (v : Value) :
    layer.holds v = (Value.ask layer.direction v layer.value).map Value.truthy := by
  unfold holds
  cases layer.direction with
  | eq => rw [Value.ask_eq]
  | ne => rw [Value.ask_differs]

theorem opposed_of_ordinary (left : v.comparesItself = false) (right : w.comparesItself = false)
    (d : Option Diagnostic) :
    Opposed ⟨.eq, w, d⟩ ⟨.ne, w, d⟩ (.success self v range)
      ((Value.ask .eq v w).map Value.truthy) := by
  have eq := holds_eq_ask ⟨.eq, w, d⟩ v
  have ne := holds_eq_ask ⟨.ne, w, d⟩ v
  dsimp only at eq ne
  rw [Value.ask_ne left right, Value.truthy_derive] at ne
  generalize (Value.ask .eq v w).map Value.truthy = equal at eq ne ⊢
  cases equal with
  | error fault => exact ⟨raises_of_holds eq, raises_of_holds ne⟩
  | ok equal =>
    cases equal with
    | true => exact ⟨keeps_of_holds eq, rejects_of_holds ne⟩
    | false => exact ⟨rejects_of_holds eq, keeps_of_holds ne⟩

end Layer

namespace Parser

/-- An equality check of a parser and its negation, with and without a diagnostic, at a response of
the parser. -/
structure Complementary (p : Parser) (v w : Value) (r : Reply) : Prop where
  /-- A filter is applied to what the parser responds. -/
  run : ∀ layer src, (filter p layer).run src = do
    let r ← p.run src
    return (← Layer.apply layer r).reply r
  /-- It asks the operator of its direction, which the types of both values answer. -/
  asked : ∀ layer : Layer,
    layer.holds v = (Value.ask layer.direction v layer.value).map Value.truthy
  silent : ∃ eq ne, p.eq w = filter p eq ∧ p.ne w = filter p ne ∧
    (∀ form, (p.eq w).negate form = .ok (p.ne w)) ∧
    Layer.Opposed eq ne r ((Value.ask .eq v w).map Value.truthy)
  diagnosed : ∀ d, ∃ eq ne, (p.eq w).orElse d = .ok (filter p eq) ∧
    (p.ne w).orElse d = .ok (filter p ne) ∧
    (∀ form, (filter p eq).negate form = .ok (filter p ne)) ∧
    eq.diagnostic = some d ∧ ne.diagnostic = some d ∧
    Layer.Opposed eq ne r ((Value.ask .eq v w).map Value.truthy)

variable {v w : Value}

/-- **Opposite filters**: whatever a response holds that does not compare itself, one of them keeps
the response and the other rejects it, or the comparison raises one error in both. -/
theorem eq_ne_complementary (p : Parser) (left : v.comparesItself = false)
    (right : w.comparesItself = false) (self : Identity) (range : Option (Int × Int)) :
    Complementary p v w (.success self v range) where
  run layer src := by simp only [Parser.run, Layer.narrow_eq]
  asked layer := Layer.holds_eq_ask layer v
  silent := by
    refine ⟨⟨.eq, w, none⟩, ⟨.ne, w, none⟩, rfl, rfl, fun form => rfl, ?_⟩
    exact Layer.opposed_of_ordinary left right none
  diagnosed d := by
    refine ⟨⟨.eq, w, some d⟩, ⟨.ne, w, some d⟩, rfl, rfl, fun form => rfl, rfl, rfl, ?_⟩
    exact Layer.opposed_of_ordinary left right (some d)

/-- In a list the same thing that is no number is equal to itself, and a scripted item answers with
a number. -/
theorem eq_ne_complementary_nested :
    let v : Value := .list [.float (some 1) .nan, .scripted 0 (.int 2) (.bool true)]
    let w : Value := .list [.float (some 1) .nan, .int 5]
    v.comparesItself = false ∧ w.comparesItself = false ∧
    Value.ask .eq v w = .ok (.bool true) ∧ Value.ask .ne v w = .ok (.bool false) ∧
    Complementary item v w (.success none v none) :=
  ⟨rfl, rfl, rfl, rfl, eq_ne_complementary item rfl rfl none none⟩

end Parser

end Sluice
