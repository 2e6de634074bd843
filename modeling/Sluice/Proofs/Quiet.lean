import Sluice.Parser.Bundled

/-!
Reading calls nothing. What reads a stream by itself neither calls a diagnostic nor lets on which
ones were called before.
-/
namespace Sluice

namespace Action

/-- The same end of a run, with other calls before it. -/
def recalled (calls : List Nat) :
    EStateM.Result Fault Progress α → EStateM.Result Fault Progress α
  | .ok a t => .ok a { t with calls }
  | .error fault t => .error fault { t with calls }

/-- A step that neither looks at what was called before nor calls anything. -/
def Quiet (act : Action α) : Prop :=
  ∀ s calls, act { s with calls } = recalled calls (act s)

namespace Quiet

theorem pure (a : α) : Quiet (pure a) :=
  fun _ _ => rfl

theorem throw (fault : Fault) : Quiet (throw fault : Action α) :=
  fun _ _ => rfl

theorem of (x : Except Fault α) : Quiet (of x) := by
  intro s calls
  cases x <;> rfl

theorem bind {x : Action α} {f : α → Action β} (first : Quiet x) (rest : ∀ a, Quiet (f a)) :
    Quiet (x >>= f) := by
  intro s calls
  rw [bind_run, bind_run, first]
  cases x s with
  | error fault t => rfl
  | ok a t => exact rest a t calls

theorem block {body : Checkpoint → Action (Checkpoint × α)} (inner : ∀ c, Quiet (body c)) :
    Quiet (Checkpoint.block body) := by
  intro s calls
  simp only [Checkpoint.block, inner ⟨s.pos, false⟩ s calls]
  cases body ⟨s.pos, false⟩ s with
  | error fault t => rfl
  | ok made t =>
    rcases made with ⟨⟨pos, committed⟩, a⟩
    cases committed <;> rfl

theorem calls_eq {act : Action α} (quiet : Quiet act) (s : Progress) :
    (ending (act s)).calls = s.calls := by
  have same := quiet s s.calls
  rw [same]
  cases act s <;> rfl

end Quiet

end Action

open Sluice.Action (Quiet)

namespace Stream

theorem position_quiet : Quiet position :=
  fun _ _ => rfl

theorem moveTo_quiet (pos : Int) : Quiet (moveTo pos) :=
  fun _ _ => rfl

theorem advance_quiet (amount : Int) : Quiet (advance amount) :=
  fun _ _ => rfl

variable (src : Source)

theorem take_quiet (amount : Int) : Quiet (take src amount) := by
  apply position_quiet.bind
  intro start
  split
  · exact (advance_quiet amount).bind fun _ => position_quiet.bind fun _ => .pure _
  · exact .pure none

theorem item_quiet : Quiet (item src) := by
  apply position_quiet.bind
  intro pos
  by_cases left : src.hasItems pos 1 = true
  · simp only [left, if_true]
    exact (moveTo_quiet _).bind fun _ => .of _
  · simp only [left]
    exact .pure _

theorem literal_quiet (pattern : Value) : Quiet (literal src pattern) := by
  apply position_quiet.bind
  intro pos
  apply (Quiet.of pattern.size).bind
  intro n
  by_cases enough : src.hasItems pos n = true
  · simp only [enough, if_true]
    apply (Quiet.of _).bind
    intro answer
    by_cases yes : answer.truthy = true
    · simp only [yes, if_true]
      exact (moveTo_quiet _).bind fun _ => .pure _
    · simp only [yes]
      exact .pure _
  · simp only [enough]
    exact .pure _

theorem oneOf_quiet (patterns : List Value) : Quiet (oneOf src patterns) := by
  induction patterns with
  | nil => exact .pure none
  | cons pattern rest ih =>
    apply (literal_quiet src pattern).bind
    intro matched
    cases matched with
    | true => exact .pure _
    | false => exact ih

theorem meets_quiet (texts : List String) : Quiet (meets src texts) :=
  position_quiet.bind fun _ => .of _

theorem pass_quiet (texts : List String) : Quiet (pass src texts) := by
  apply (meets_quiet src texts).bind
  intro met
  cases met with
  | true => exact advance_quiet 1
  | false => exact .pure ()

theorem skipUpTo_quiet (texts : List String) (n : Nat) : Quiet (skipUpTo src texts n) := by
  induction n with
  | zero => exact .pure ()
  | succ n ih =>
    apply (meets_quiet src texts).bind
    intro met
    cases met with
    | true => exact (advance_quiet 1).bind fun _ => ih
    | false => exact .pure ()

theorem skip_quiet (texts : List String) : Quiet (skip src texts) :=
  position_quiet.bind fun pos => skipUpTo_quiet src texts (room src pos)

end Stream

namespace Checkpoint

theorem result_quiet (c : Checkpoint) (data : Value) : Quiet (c.result data) :=
  fun _ _ => rfl

theorem fail_quiet (c : Checkpoint) (message : Option String) : Quiet (c.fail message) :=
  fun _ _ => rfl

end Checkpoint

namespace Parser

/-- The parsers that come with the library. -/
inductive Bundled : Parser → Prop where
  | item : Bundled item
  | blanks : Bundled blanks
  | integer : Bundled integer
  | take {amount : Int} {p : Parser} (made : take amount = .ok p) : Bundled p
  | literal {patterns : List Value} {p : Parser} (made : literal patterns = .ok p) : Bundled p

theorem integerDigits_quiet (src : Source) (c : Checkpoint) : Quiet (integerDigits src c) := by
  apply (Stream.meets_quiet src (Text.letters Text.digits)).bind
  intro met
  cases met with
  | false => exact .pure _
  | true =>
    apply (Stream.skip_quiet src (Text.letters Text.digits)).bind
    intro _
    apply Stream.position_quiet.bind
    intro pos
    simp only
    cases Text.readNumeral (joined (src.cut c.pos pos).items) with
    | ok n => exact c.result_quiet _
    | error fault => exact .throw _

theorem Bundled.quiet {p : Parser} (bundled : p.Bundled) (src : Source) : Quiet (p.run src) := by
  cases bundled with
  | item =>
    rw [Parser.item, Parser.run]
    apply Quiet.block
    intro c
    apply Stream.position_quiet.bind
    intro pos
    by_cases left : src.hasItems pos 1 = true
    · simp only [left, if_true]
      exact (Stream.item_quiet src).bind fun v => c.result_quiet v
    · simp only [left]
      exact c.fail_quiet _
  | blanks =>
    rw [Parser.blanks, Parser.run]
    apply Quiet.block
    intro c
    exact (Stream.skip_quiet src (Text.letters Text.blanks)).bind fun _ => c.result_quiet _
  | integer =>
    rw [Parser.integer, Parser.run]
    apply Quiet.block
    intro c
    exact (Stream.pass_quiet src (Text.letters Text.signs)).bind fun _ => integerDigits_quiet src c
  | take made =>
    obtain ⟨_, rfl⟩ := take_eq_ok made
    rw [Parser.run, takeBody]
    apply Quiet.block
    intro c
    apply (Stream.take_quiet src _).bind
    intro taken
    cases taken with
    | some items => exact c.result_quiet items
    | none => exact c.fail_quiet _
  | literal made =>
    obtain ⟨_, rfl⟩ := literal_eq_ok made
    rw [Parser.run, literalBody]
    apply Quiet.block
    intro c
    apply (Stream.oneOf_quiet src _).bind
    intro found
    cases found with
    | some pattern => exact c.result_quiet pattern
    | none => exact c.fail_quiet _

end Parser

end Sluice
