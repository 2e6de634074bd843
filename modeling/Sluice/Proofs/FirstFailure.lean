import Sluice.Proofs.Atomicity
import Sluice.Proofs.Carets

/-!
Where a sequence reports its failure. What it makes of the first part to fail is read off where that
part has left the stream: where the part began if the parser under its filters failed, since that
one puts the stream back, and behind the value if one was read and a filter rejected it, since
filters put nothing back. The sequence itself puts everything back.
-/
namespace Sluice.Parser

variable {src : Source} {before rest : List Part} {part : Part} {r : Reply} {s t u : Progress}

/-- Parts that succeed one behind the other, from one state of the stream to another. -/
inductive Passed (src : Source) : List Part → Progress → Progress → Prop where
  | nil (s : Progress) : Passed src [] s s
  | cons {part : Part} {rest : List Part} {self : Identity} {data : Value}
      {range : Option (Int × Int)} {s t u : Progress}
      (run : part.parser.run src s = .ok (.success self data range) t)
      (others : Passed src rest t u) : Passed src (part :: rest) s u

theorem Composed.reaches {p : Parser} (composed : Composed p) (run : p.run src s = .ok r t) :
    src.Onward s.pos t.pos := by
  have onward := composed.onward src s
  rwa [run] at onward

theorem Passed.onward (passed : Passed src before s u)
    (composed : ∀ part ∈ before, Composed part.parser) : src.Onward s.pos u.pos := by
  induction passed with
  | nil s => exact .refl src s.pos
  | cons run others ih =>
    obtain ⟨first, later⟩ := List.forall_mem_cons.mp composed
    exact (first.reaches run).trans (ih later)

/-- Nothing behind the first failure is run. -/
theorem runAll_stopped (passed : Passed src before s u) (run : part.parser.run src u = .ok r t)
    (failure : r.truthy = false) (rest : List Part) :
    runAll src (before ++ part :: rest) s = .ok (.error (part, r)) t := by
  induction passed with
  | nil s =>
    rw [List.nil_append, runAll, Action.bind_run, run]
    cases r with
    | success => cases failure
    | failure => rfl
  | cons first others ih =>
    rw [List.cons_append, runAll, Action.bind_run, first]
    dsimp only
    rw [Action.bind_run, ih run]
    rfl

/-- What becomes of a sequence when the failure `r` of this part leaves the stream at `t`. -/
def Part.verdict (part : Part) (src : Source) (start : Int) (r : Reply) (t : Progress) :
    EStateM.Result Fault Progress Reply :=
  let back := { t with pos := start }
  match part.mode with
  | .fail => .ok (.failure none (some t.pos) .nothing part.message) back
  | .failStart => .ok (.failure none (some start) .nothing part.message) back
  | .propagate => .ok r back
  | .error => match ParseError.of (some src) t.pos part.message with
    | .ok e => .error (.surfaced e) back
    | .error fault => .error fault back

/-- However a part settles a failure, it leaves the checkpoint uncommitted, and the block goes back.
-/
theorem sequence_stopped (passed : Passed src before s u)
    (run : part.parser.run src u = .ok r t) (failure : r.truthy = false) (rest : List Part) :
    (sequence (before ++ part :: rest)).run src s = part.verdict src s.pos r t := by
  rw [sequence, Parser.run]
  simp only [Checkpoint.block, Action.bind_run, runAll_stopped passed run failure]
  rcases part with ⟨parser, mode, message⟩
  cases mode with
  | fail | failStart | propagate => rfl
  | error =>
    simp only [Part.settle, Part.verdict, Checkpoint.error, Action.bind_run, Stream.position_run,
      Action.of_run]
    cases ParseError.of (some src) t.pos message <;> rfl

/-- Of the filters on a value that comes to nothing, some reject it, and the innermost of these
decides. -/
theorem narrowAll_rejected {layers : List Layer} {self : Identity} {data : Value}
    {range : Option (Int × Int)}
    (run : narrowAll layers (.success self data range) s = .ok r t) (failure : r.truthy = false) :
    ∃ below layer above, layers = below ++ layer :: above ∧
      (∀ l ∈ below, l.holds data = .ok true) ∧ layer.holds data = .ok false := by
  induction layers with
  | nil =>
    cases run
    cases failure
  | cons layer above ih =>
    cases answer : layer.holds data with
    | error fault =>
      rw [narrowAll, Action.bind_run, narrow_run] at run
      simp only [answer] at run
      cases run
    | ok held =>
      cases held with
      | false => exact ⟨[], layer, above, rfl, List.forall_mem_nil _, answer⟩
      | true =>
        rw [narrowAll, Action.bind_run, narrow_of_holds answer] at run
        obtain ⟨below, outer, rest, rfl, passes, rejects⟩ := ih run
        exact ⟨layer :: below, outer, rest, rfl, List.forall_mem_cons.mpr ⟨answer, passes⟩, rejects⟩

/-- What made a parser fail with `r`, and where the stream stood then. -/
inductive FailsAt (p : Parser) (src : Source) (s : Progress) (r : Reply) : Int → Prop where
  /-- The parser under all filters failed, and all else handed that on. -/
  | base {t : Progress} (failure : r.truthy = false) (run : p.base.run src s = .ok r t) :
      FailsAt p src s r s.pos
  /-- It read a value that ends at `stop`, and a filter rejected that. -/
  | filter {self : Identity} {data : Value} {stop : Int} {t : Progress}
      {below above : List Layer} {layer : Layer}
      (run : p.base.run src s = .ok (.success self data (some (s.pos, stop))) t)
      (layers : p.layers = below ++ layer :: above) (passes : ∀ l ∈ below, l.holds data = .ok true)
      (rejects : layer.holds data = .ok false) : FailsAt p src s r stop

/-- A composed parser that fails leaves the stream where the failure came up. -/
theorem Composed.failsAt {p : Parser} (composed : Composed p) (run : p.run src s = .ok r t)
    (failure : r.truthy = false) : FailsAt p src s r t.pos := by
  have whole := composed.base_allOrNothing src s
  rw [← tower_base_layers p, run_tower] at run
  obtain ⟨r', u, based, narrowed⟩ := Action.bind_ok run
  cases r' with
  | failure self pos error message =>
    have back : u.pos = s.pos := whole.failed self pos error message u based
    rw [narrowAll_failure] at narrowed
    cases narrowed
    rw [back]
    exact .base failure based
  | success self data range =>
    have stays := narrowAll_stays p.layers (.success self data range) u
    rw [narrowed] at stays
    obtain ⟨rfl, -⟩ := whole.parsed self data range u based
    obtain ⟨below, layer, above, layers, passes, rejects⟩ := narrowAll_rejected narrowed failure
    rw [ending] at stays
    rw [stays]
    exact .filter based layers passes rejects

/-- How a sequence reports a failure of `part` that came up at `i`. In every case the stream is back
at the beginning. -/
structure Reports (src : Source) (before : List Part) (part : Part) (rest : List Part)
    (s u : Progress) (i : Int) (calls : List Nat) : Prop where
  fail : part.mode = .fail → (sequence (before ++ part :: rest)).run src s =
    .ok (.failure none (some i) .nothing part.message) ⟨s.pos, calls⟩
  failStart : part.mode = .failStart → (sequence (before ++ part :: rest)).run src s =
    .ok (.failure none (some s.pos) .nothing part.message) ⟨s.pos, calls⟩
  /-- A failure that is handed on is the very object that the part came to, whatever parser the part
  has. -/
  propagate : part.mode = .propagate → ∀ p r t, p.run src u = .ok r t → r.truthy = false →
    (sequence (before ++ { part with parser := p } :: rest)).run src s = .ok r ⟨s.pos, t.calls⟩
  error : part.mode = .error → ∃ e, (sequence (before ++ part :: rest)).run src s =
    .error (.surfaced e) ⟨s.pos, calls⟩ ∧ e.pos = i ∧ e.message = part.message

/-- **A sequence reports where its first failure came up**: at the start of the part or, if a filter
of the part rejected what was read, at the end of that. -/
theorem first_failure_reported (composed : ∀ p ∈ before ++ part :: rest, Composed p.parser)
    (start : 0 ≤ s.pos) (passed : Passed src before s u)
    (run : part.parser.run src u = .ok r t) (failure : r.truthy = false) :
    ∃ i, FailsAt part.parser src u r i ∧ Reports src before part rest s u i t.calls := by
  obtain ⟨earlier, others⟩ := List.forall_mem_append.mp composed
  have own : Composed part.parser := others part List.mem_cons_self
  refine ⟨t.pos, own.failsAt run failure, ?_⟩
  have behind : 0 ≤ t.pos := by
    have reached := (passed.onward earlier).trans (own.reaches run)
    exact Int.le_trans start reached.1
  have stopped := sequence_stopped passed run failure rest
  rcases part with ⟨parser, mode, message⟩
  constructor
  · rintro ⟨⟩
    exact stopped
  · rintro ⟨⟩
    exact stopped
  · rintro ⟨⟩ p r t run failure
    let handing : Part := ⟨p, .propagate, message⟩
    have run : handing.parser.run src u = .ok r t := run
    exact sequence_stopped passed run failure rest
  · rintro ⟨⟩
    obtain ⟨e, made, -, pos, words⟩ := ParseError.of_ok src behind message
    simp only [Part.verdict, made] at stopped
    exact ⟨e, stopped, pos, words⟩

/-- The pair is read up to its end, and rejected there; what its filter says of it begins sooner. -/
theorem first_failure_reported_rejected :
    let pair := sequence [⟨integer, .propagate, none⟩, ⟨item, .propagate, none⟩]
    let part : Part := ⟨pair.filter ⟨.eq, .nothing, none⟩, .fail, some "no pair"⟩
    let before : List Part := [⟨item, .fail, none⟩]
    let src := Source.ofText "a1b"
    let r : Reply := .failure none (some 1) .nothing none
    Passed src before ⟨0, []⟩ ⟨1, []⟩ ∧ part.parser.run src ⟨1, []⟩ = .ok r ⟨3, []⟩ ∧
    (∃ i, FailsAt part.parser src ⟨1, []⟩ r i ∧ Reports src before part [] ⟨0, []⟩ ⟨1, []⟩ i []) ∧
    (sequence (before ++ [part])).run src ⟨0, []⟩ =
      .ok (.failure none (some 3) .nothing (some "no pair")) ⟨0, []⟩ := by
  intro pair part before src r
  have run : part.parser.run src ⟨1, []⟩ = .ok r ⟨3, []⟩ := rfl
  have passed : Passed src before ⟨0, []⟩ ⟨1, []⟩ := .cons rfl (.nil _)
  have composed : ∀ p ∈ before ++ [part], Composed p.parser := by
    refine List.forall_mem_cons.mpr ⟨.item, List.forall_mem_singleton.mpr (.filter ?_)⟩
    exact .sequence (List.forall_mem_cons.mpr ⟨.integer, List.forall_mem_singleton.mpr .item⟩)
  exact ⟨passed, run, first_failure_reported composed (Int.le_refl 0) passed run rfl, rfl⟩

end Sluice.Parser
