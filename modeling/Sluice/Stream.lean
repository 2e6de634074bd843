import Sluice.Source
import Sluice.Value.Equality

/-!
Reading a source from a position on. Moving on is visible to whatever reads next; an operation that
does not get what it asks for leaves the position alone.
-/
namespace Sluice

/-- What a run changes: the position, and which diagnostics have been called, the latest first. -/
structure Progress where
  pos : Int
  calls : List Nat
  deriving DecidableEq, Repr

/-- A step of a run. One that fails has still got as far as it got. -/
abbrev Action := EStateM Fault Progress

/-- The state that a step ends in, also when it fails. -/
def ending : EStateM.Result ε σ α → σ
  | .ok _ s => s
  | .error _ s => s

namespace Action

def of : Except Fault α → Action α
  | .ok a => pure a
  | .error fault => throw fault

theorem pure_run (a : α) (s : σ) : (pure a : EStateM ε σ α) s = .ok a s :=
  rfl

theorem bind_run (x : EStateM ε σ α) (f : α → EStateM ε σ β) (s : σ) :
    (x >>= f) s = match x s with
      | .ok a t => f a t
      | .error fault t => .error fault t := by
  change EStateM.bind x f s = _
  simp only [EStateM.bind]
  cases x s <;> rfl

theorem bind_ok {x : EStateM ε σ α} {f : α → EStateM ε σ β} {s t : σ} {b : β}
    (run : (x >>= f) s = .ok b t) : ∃ a u, x s = .ok a u ∧ f a u = .ok b t := by
  rw [bind_run] at run
  cases first : x s with
  | ok a u =>
    rw [first] at run
    exact ⟨a, u, rfl, run⟩
  | error fault u =>
    rw [first] at run
    cases run

theorem of_run (x : Except Fault α) (s : Progress) :
    of x s = match x with
      | .ok a => .ok a s
      | .error fault => .error fault s := by
  cases x <;> rfl

/-- However it ends, the step goes from where it began only to where `allowed` lets it. -/
def Moves (allowed : Int → Int → Prop) (act : Action α) : Prop :=
  ∀ s, allowed s.pos (ending (act s)).pos

theorem Moves.bind {allowed : Int → Int → Prop}
    (trans : ∀ i j k, allowed i j → allowed j k → allowed i k) {x : Action α} {f : α → Action β}
    (first : Moves allowed x) (rest : ∀ a, Moves allowed (f a)) : Moves allowed (x >>= f) := by
  intro s
  have here := first s
  rw [bind_run]
  cases h : x s with
  | ok a t => rw [h] at here; exact trans _ _ _ here (rest a t)
  | error fault t => rw [h] at here; exact here

/-- A step that leaves the position alone, however it ends. -/
def Stays (act : Action α) : Prop :=
  Moves (fun i j => j = i) act

theorem Stays.pure (a : α) : Stays (pure a) :=
  fun _ => rfl

theorem Stays.of (x : Except Fault α) : Stays (of x) := by
  intro s
  cases x <;> rfl

theorem Stays.bind {x : Action α} {f : α → Action β} (first : Stays x)
    (rest : ∀ a, Stays (f a)) : Stays (x >>= f) :=
  Moves.bind (fun _ _ _ here there => there.trans here) first rest

theorem Stays.moves {allowed : Int → Int → Prop} (refl : ∀ i, allowed i i) {act : Action α}
    (stays : Stays act) : Moves allowed act := by
  intro s
  rw [stays s]
  exact refl s.pos

end Action

/-- Whether a value is one of some texts. -/
def Value.isOneOf (texts : List String) : Value → Bool
  | .text s => texts.contains s
  | _ => false

namespace Source

/-- Whether at least `amount` items are left at a position. -/
def hasItems (src : Source) (pos amount : Int) : Bool :=
  pos + amount ≤ src.length

def atEnd (src : Source) (pos : Int) : Bool :=
  src.length ≤ pos

def peek (src : Source) (pos amount : Int) : Option Value :=
  if src.hasItems pos amount then some (src.slice pos (pos + amount)) else none

/-- Whether the next item is one of `texts`. An item that is no text never is, and there is none at
the end. -/
def meets (src : Source) (texts : List String) (pos : Int) : Except Fault Bool :=
  if src.hasItems pos 1 then (src.item pos).map (·.isOneOf texts) else .ok false

end Source

namespace Stream

def position : Action Int :=
  return (← get).pos

def moveTo (pos : Int) : Action Unit :=
  modify fun s => { s with pos }

def advance (amount : Int) : Action Unit :=
  modify fun s => { s with pos := s.pos + amount }

/-- The next `amount` items, or none of them. -/
def take (src : Source) (amount : Int) : Action (Option Value) := do
  let start ← position
  if src.hasItems start amount then
    advance amount
    return some (src.slice start (← position))
  else
    return none

/-- The next item, or nothing at the end. The position moves on before the item is looked up,
so a position too far to the left is left behind. -/
def item (src : Source) : Action Value := do
  let pos ← position
  if src.hasItems pos 1 then
    moveTo (pos + 1)
    Action.of (src.item pos)
  else
    return .nothing

/-- Whether the next items equal `pattern`, and past them if so. -/
def literal (src : Source) (pattern : Value) : Action Bool := do
  let pos ← position
  let n ← Action.of pattern.size
  if src.hasItems pos n then
    let answer ← Action.of ((src.slice pos (pos + n)).equals pattern)
    if answer.truthy then
      moveTo (pos + n)
      return true
    else
      return false
  else
    return false

/-- The first of the patterns that the next items equal. -/
def oneOf (src : Source) : List Value → Action (Option Value)
  | [] => return none
  | pattern :: rest => do
    if ← literal src pattern then return some pattern else oneOf src rest

def meets (src : Source) (texts : List String) : Action Bool := do
  Action.of (src.meets texts (← position))

/-- Moves past the next item if it is one of `texts`. -/
def pass (src : Source) (texts : List String) : Action Unit := do
  if ← meets src texts then advance 1

/-- How many items lie between a position and the end. -/
def room (src : Source) (pos : Int) : Nat :=
  (src.length - pos).toNat

/-- Moves past at most `n` items of `texts`. -/
def skipUpTo (src : Source) (texts : List String) : Nat → Action Unit
  | 0 => pure ()
  | n + 1 => do
    if ← meets src texts then
      advance 1
      skipUpTo src texts n
    else
      pure ()

/-- Moves past all items of `texts` that follow. There are no more of them than there is room. -/
def skip (src : Source) (texts : List String) : Action Unit := do
  skipUpTo src texts (room src (← position))

theorem position_run (s : Progress) : position s = .ok s.pos s :=
  rfl

theorem moveTo_run (pos : Int) (s : Progress) : moveTo pos s = .ok () { s with pos } :=
  rfl

theorem advance_run (amount : Int) (s : Progress) :
    advance amount s = .ok () { s with pos := s.pos + amount } :=
  rfl

theorem take_run (src : Source) (amount : Int) (s : Progress) :
    take src amount s = match src.peek s.pos amount with
      | some items => .ok (some items) { s with pos := s.pos + amount }
      | none => .ok none s := by
  simp only [take, Action.bind_run, position_run, Source.peek]
  split <;> rfl

theorem item_run (src : Source) (s : Progress) :
    item src s = if src.hasItems s.pos 1 then
        match src.item s.pos with
        | .ok v => .ok v { s with pos := s.pos + 1 }
        | .error fault => .error fault { s with pos := s.pos + 1 }
      else .ok .nothing s := by
  simp only [item, Action.bind_run, position_run]
  split
  · simp only [Action.bind_run, moveTo_run]
    cases src.item s.pos <;> rfl
  · rfl

theorem literal_run (src : Source) (pattern : Value) (s : Progress) :
    literal src pattern s = match pattern.size with
      | .ok n => if src.hasItems s.pos n then
          match (src.slice s.pos (s.pos + n)).equals pattern with
          | .ok answer =>
            if answer.truthy then .ok true { s with pos := s.pos + n } else .ok false s
          | .error fault => .error fault s
        else .ok false s
      | .error fault => .error fault s := by
  simp only [literal, Action.bind_run, position_run, Action.of_run]
  cases pattern.size with
  | error fault => rfl
  | ok n =>
    simp only
    split
    · simp only [Action.bind_run, Action.of_run]
      cases (src.slice s.pos (s.pos + n)).equals pattern with
      | error fault => rfl
      | ok answer => simp only; split <;> rfl
    · rfl

/-- Either nothing is taken, or as many items as the pattern has and which equal it. -/
theorem literal_cases {src : Source} {pattern : Value} {s t : Progress} {matched : Bool}
    (run : literal src pattern s = .ok matched t) :
    (matched = false ∧ t = s) ∨
    (matched = true ∧ ∃ (n : Nat) (answer : Value), pattern.size = .ok n ∧
      src.hasItems s.pos n = true ∧ (src.slice s.pos (s.pos + n)).equals pattern = .ok answer ∧
      answer.truthy = true ∧ t = { s with pos := s.pos + n }) := by
  rw [literal_run] at run
  cases size : pattern.size with
  | error fault => rw [size] at run; cases run
  | ok n =>
    rw [size] at run
    dsimp only at run
    by_cases enough : src.hasItems s.pos n = true
    · rw [if_pos enough] at run
      cases equal : (src.slice s.pos (s.pos + n)).equals pattern with
      | error fault => rw [equal] at run; cases run
      | ok answer =>
        rw [equal] at run
        dsimp only at run
        by_cases yes : answer.truthy = true
        · rw [if_pos yes] at run
          cases run
          exact .inr ⟨rfl, n, answer, rfl, enough, equal, yes, rfl⟩
        · rw [if_neg yes] at run
          cases run
          exact .inl ⟨rfl, rfl⟩
    · rw [if_neg enough] at run
      cases run
      exact .inl ⟨rfl, rfl⟩

/-- Looking ahead moves nothing. -/
theorem meets_run (src : Source) (texts : List String) (s : Progress) :
    meets src texts s = match src.meets texts s.pos with
      | .ok b => .ok b s
      | .error fault => .error fault s := by
  simp only [meets, Action.bind_run, position_run]
  cases src.meets texts s.pos <;> rfl

theorem pass_run (src : Source) (texts : List String) (s : Progress) :
    pass src texts s = match src.meets texts s.pos with
      | .ok true => .ok () { s with pos := s.pos + 1 }
      | .ok false => .ok () s
      | .error fault => .error fault s := by
  rw [pass, Action.bind_run, meets_run]
  cases src.meets texts s.pos with
  | error fault => rfl
  | ok met => cases met <;> rfl

theorem skip_run (src : Source) (texts : List String) (s : Progress) :
    skip src texts s = skipUpTo src texts (room src s.pos) s :=
  rfl

/-- The bound on the number of items never shows: as long as an item meets `texts`, skipping goes on
behind it. -/
theorem skip_eq (src : Source) (texts : List String) :
    skip src texts = (do
      if ← meets src texts then
        advance 1
        skip src texts
      else pure ()) := by
  funext s
  simp only [skip_run, Action.bind_run, meets_run]
  cases hr : room src s.pos with
  | zero =>
    have none_left : src.hasItems s.pos 1 = false := by
      simp only [room] at hr
      simp only [Source.hasItems, decide_eq_false_iff_not]
      omega
    simp only [skipUpTo, Source.meets, none_left]
    rfl
  | succ n =>
    have next : room src (s.pos + 1) = n := by
      simp only [room] at hr ⊢
      omega
    simp only [skipUpTo, Action.bind_run, meets_run]
    cases src.meets texts s.pos with
    | error fault => rfl
    | ok met =>
      cases met with
      | false => rfl
      | true => simp only [if_true, Action.bind_run, advance_run, skip_run, next]

/-- Skipping passes the item that it meets. -/
theorem skip_of_meets {src : Source} {texts : List String} {s : Progress}
    (met : src.meets texts s.pos = .ok true) :
    skip src texts s = skip src texts { s with pos := s.pos + 1 } := by
  have once := congrFun (skip_eq src texts) s
  rw [once, Action.bind_run, meets_run, met]
  rfl

theorem skip_of_unmet {src : Source} {texts : List String} {s : Progress}
    (unmet : src.meets texts s.pos = .ok false) : skip src texts s = .ok () s := by
  have once := congrFun (skip_eq src texts) s
  rw [once, Action.bind_run, meets_run, unmet]
  rfl

end Stream

end Sluice
