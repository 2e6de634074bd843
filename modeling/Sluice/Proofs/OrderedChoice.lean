import Mathlib.Data.List.Induction
import Sluice.Proofs.Atomicity
import Sluice.Proofs.Quiet
import Sluice.Proofs.SideBySide

/-!
Ordered choice. A success has called no diagnostic and does not depend on which were called before,
so an alternative succeeds after others have failed just where it succeeds alone from the same
position. It may raise all the same: a diagnostic that it shares with those before it has been
called more often by then.
-/
namespace Sluice

namespace Action

/-- A step that only calls diagnostics of its own, and that has called nothing when it comes to a
good end: it would have come to the same end after any other calls. -/
structure Unprompted (own : Nat → Prop) (good : α → Prop) (act : Action α) : Prop where
  adds : ∀ s, ∃ made, (ending (act s)).calls = made ++ s.calls ∧ ∀ n ∈ made, own n
  free : ∀ {s t : Progress} {a : α}, act s = .ok a t → good a →
    t.calls = s.calls ∧ ∀ calls, act { s with calls } = .ok a { t with calls }

namespace Unprompted

variable {own : Nat → Prop} {good : α → Prop} {good' : β → Prop}

theorem of_quiet {act : Action α} (quiet : Quiet act) : Unprompted own good act where
  adds s := ⟨[], quiet.calls_eq s, nofun⟩
  free {s t a} run _ := by
    constructor
    · have same := quiet.calls_eq s
      rwa [run] at same
    · intro calls
      rw [quiet s calls, run]
      rfl

theorem pure (a : α) : Unprompted own good (pure a) :=
  .of_quiet (.pure a)

/-- A good end has to come of a good end of the first step. -/
theorem bind_of {x : Action α} {f : α → Action β} (first : Unprompted own good x)
    (rest : ∀ a, Unprompted own good' (f a))
    (bad : ∀ s a t, x s = .ok a t → ¬good a → ∀ s' b t', f a s' = .ok b t' → ¬good' b) :
    Unprompted own good' (x >>= f) where
  adds s := by
    obtain ⟨made, here, each⟩ := first.adds s
    rw [bind_run]
    cases ran : x s with
    | error fault u =>
      rw [ran] at here
      exact ⟨made, here, each⟩
    | ok a u =>
      rw [ran] at here
      obtain ⟨more, there, others⟩ := (rest a).adds u
      refine ⟨more ++ made, ?_, List.forall_mem_append.mpr ⟨others, each⟩⟩
      rw [List.append_assoc, ← here]
      exact there
  free {s t b} run fine := by
    obtain ⟨a, u, ran, run⟩ := bind_ok run
    by_cases good : good a
    · obtain ⟨calls, same⟩ := first.free ran good
      obtain ⟨calls', same'⟩ := (rest a).free run fine
      refine ⟨calls'.trans calls, fun others => ?_⟩
      rw [bind_run, same others]
      exact same' others
    · exact absurd fine (bad s a u ran good u b t run)

end Unprompted

end Action

open Sluice.Action (Unprompted Quiet)

/-- The steps of parsers whose successes are unprompted. -/
abbrev Parser.Unbidden (own : Nat → Prop) (act : Action Reply) : Prop :=
  Unprompted own (fun r => r.truthy = true) act

/-- The bodies of their blocks. -/
abbrev Checkpoint.Unbidden (own : Nat → Prop) (act : Action (Checkpoint × Reply)) : Prop :=
  Unprompted own (fun a => a.2.truthy = true) act

namespace Checkpoint

theorem block_unbidden {own : Nat → Prop} {body : Checkpoint → Action (Checkpoint × Reply)}
    (inner : ∀ c, Unbidden own (body c)) : Parser.Unbidden own (block body) where
  adds s := by
    obtain ⟨made, here, each⟩ := (inner ⟨s.pos, false⟩).adds s
    refine ⟨made, ?_, each⟩
    simp only [block]
    generalize body ⟨s.pos, false⟩ s = outcome at here ⊢
    cases outcome with
    | error fault t => exact here
    | ok a t =>
      rcases a with ⟨⟨pos, committed⟩, r⟩
      cases committed <;> exact here
  free {s t r} run good := by
    simp only [block] at run ⊢
    cases ran : body ⟨s.pos, false⟩ s with
    | error fault u => rw [ran] at run; cases run
    | ok a u =>
      rw [ran] at run
      rcases a with ⟨⟨pos, committed⟩, answer⟩
      have own : answer = r := by cases committed <;> cases run <;> rfl
      subst own
      obtain ⟨calls, same⟩ := (inner ⟨s.pos, false⟩).free ran good
      cases committed with
      | true | false =>
        cases run
        refine ⟨calls, fun others => ?_⟩
        rw [same others]
        rfl

theorem error_quiet (src : Source) (message : Option String) :
    Quiet (Checkpoint.error src message) :=
  Stream.position_quiet.bind fun _ => .of _

end Checkpoint

namespace Parser

variable {src : Source} {own : Nat → Prop}

theorem narrow_unbidden {layer : Layer} (each : ∀ d, layer.diagnostic = some d → own d.number)
    (r : Reply) : Unbidden own (layer.narrow r) where
  adds s := by
    rw [narrow_run]
    cases r with
    | failure => exact ⟨[], rfl, nofun⟩
    | success self data range =>
      dsimp only
      cases layer.holds data with
      | error fault => exact ⟨[], rfl, nofun⟩
      | ok held =>
        cases held with
        | true => exact ⟨[], rfl, nofun⟩
        | false =>
          cases attached : layer.diagnostic with
          | none => exact ⟨[], rfl, nofun⟩
          | some d =>
            refine ⟨[d.number], ?_, List.forall_mem_singleton.mpr (each d attached)⟩
            dsimp only
            rw [Diagnostic.call_run]
            cases d.answer (Diagnostic.count (d.number :: s.calls) d.number) <;> rfl
  free {s t r'} run good := by
    obtain ⟨same, still⟩ := narrow_of_truthy run good
    subst same still
    refine ⟨rfl, fun calls => ?_⟩
    rcases r' with ⟨self, data, range⟩ | ⟨self, pos, error, message⟩
    · exact narrow_of_holds (holds_of_truthy run good) _
    · cases good

theorem filter_unbidden {p : Parser} {layer : Layer} (inner : Unbidden own (p.run src))
    (each : ∀ d, layer.diagnostic = some d → own d.number) :
    Unbidden own ((p.filter layer).run src) := by
  refine inner.bind_of (narrow_unbidden each) ?_
  intro s r t _ bad s' r' t' run
  rw [narrow_of_failure (by simpa using bad) run]
  exact Bool.false_ne_true

theorem runAll_unbidden {parts : List Part}
    (each : ∀ part ∈ parts, Unbidden own (part.parser.run src)) :
    Unprompted own (fun all => all.isOk = true) (runAll src parts) := by
  induction parts with
  | nil => exact .pure _
  | cons part rest ih =>
    obtain ⟨first, others⟩ := List.forall_mem_cons.mp each
    refine first.bind_of (fun r => ?_) ?_
    · cases r with
      | failure => exact .pure _
      | success self data range =>
        refine (ih others).bind_of (fun all => .pure _) ?_
        rintro s all t _ bad s' _ t' ⟨⟩
        cases all with
        | ok values => exact absurd rfl bad
        | error stop => exact bad
    · intro s r t _ bad s' all t' run
      cases r with
      | success => exact absurd rfl bad
      | failure =>
        cases run
        exact Bool.false_ne_true

theorem Part.settle_quiet (part : Part) (c : Checkpoint) (r : Reply) :
    Quiet (part.settle src c r) := by
  rcases part with ⟨parser, mode, message⟩
  cases mode with
  | fail => exact c.fail_quiet message
  | failStart => exact .pure _
  | error => exact (Checkpoint.error_quiet src message).bind fun e => .throw _
  | propagate => exact .pure _

theorem sequence_unbidden {parts : List Part}
    (each : ∀ part ∈ parts, Unbidden own (part.parser.run src)) :
    Unbidden own ((sequence parts).run src) := by
  rw [sequence, run]
  apply Checkpoint.block_unbidden
  intro c
  refine (runAll_unbidden each).bind_of (fun all => ?_) ?_
  · rcases all with ⟨part, r⟩ | data
    · exact .of_quiet (part.settle_quiet c r)
    · exact .of_quiet (c.result_quiet _)
  · intro s all t ran bad s' a t' run
    rcases all with ⟨part, r⟩ | values
    · rw [Part.settle_of_failure (runAll_failure ran) run]
      exact Bool.false_ne_true
    · exact absurd rfl bad

/-- A success of a composed parser does not depend on what was called before, and no run of it calls
a diagnostic that is not in it. -/
theorem ComposedWith.unbidden {p : Parser} (composed : p.ComposedWith fun d => own d.number)
    (src : Source) : Unbidden own (p.run src) := by
  induction composed with
  | item => exact .of_quiet (Bundled.item.quiet src)
  | blanks => exact .of_quiet (Bundled.blanks.quiet src)
  | integer => exact .of_quiet (Bundled.integer.quiet src)
  | take made => exact .of_quiet ((Bundled.take made).quiet src)
  | literal made => exact .of_quiet ((Bundled.literal made).quiet src)
  | filter inner each ih => exact filter_unbidden ih each
  | sequence all ih => exact sequence_unbidden ih

theorem Composed.unbidden {p : Parser} (composed : Composed p) (src : Source) :
    Unbidden (fun _ => True) (p.run src) :=
  (composedWith_any_iff.mpr composed).unbidden src

theorem Unbidden.truthy_again {act : Action Reply} (unbidden : Unbidden own act)
    {s t t' : Progress} {r r' : Reply} {calls : List Nat} (run : act s = .ok r t)
    (again : act { s with calls } = .ok r' t') : r'.truthy = r.truthy := by
  by_cases good : r.truthy = true
  · rw [(unbidden.free run good).2 calls] at again
    cases again
    rfl
  · by_cases good' : r'.truthy = true
    · have back := (unbidden.free again good').2 s.calls
      rw [run] at back
      cases back
      exact absurd good' good
    · rw [Bool.not_eq_true] at good good'
      rw [good, good']

end Parser

/-! ## What may raise -/

namespace Diagnostic

/-- If it answers after some calls, it answers after others. -/
def AnswersAgain (calls calls' : List Nat) (d : Diagnostic) : Prop :=
  ∀ v, d.answer (count (d.number :: calls) d.number) = .ok v →
    ∃ w, d.answer (count (d.number :: calls') d.number) = .ok w

/-- A diagnostic that answers every call or none. -/
def Dependable (d : Diagnostic) : Prop :=
  ∀ n v, d.answer n = .ok v → ∀ m, ∃ w, d.answer m = .ok w

variable {d : Diagnostic} {calls calls' : List Nat}

theorem Dependable.answersAgain (dependable : d.Dependable) : d.AnswersAgain calls calls' :=
  fun v answered => dependable _ v answered _

/-- Only its own calls count for a diagnostic. -/
theorem answersAgain_of_count (same : count calls' d.number = count calls d.number) :
    d.AnswersAgain calls calls' := by
  intro v answered
  refine ⟨v, ?_⟩
  rw [← answered]
  simp only [count, List.count_cons_self] at same ⊢
  rw [same]

theorem AnswersAgain.call (again : d.AnswersAgain calls calls') {i : Int} {v : Value}
    {t : Progress} (called : d.call ⟨i, calls⟩ = .ok v t) :
    ∃ w t', d.call ⟨i, calls'⟩ = .ok w t' := by
  rw [call_run] at called ⊢
  cases answered : d.answer (count (d.number :: calls) d.number) with
  | error fault => rw [answered] at called; cases called
  | ok v =>
    obtain ⟨w, answered'⟩ := again v answered
    rw [answered']
    exact ⟨w, _, rfl⟩

end Diagnostic

theorem Checkpoint.block_ok_iff {body : Checkpoint → Action (Checkpoint × α)} {s : Progress} :
    (∃ a t, block body s = .ok a t) ↔ ∃ a t, body ⟨s.pos, false⟩ s = .ok a t := by
  simp only [block]
  cases body ⟨s.pos, false⟩ s with
  | error fault t =>
    constructor
    · rintro ⟨a, u, run⟩
      cases run
    · rintro ⟨a, u, run⟩
      cases run
  | ok made t =>
    rcases made with ⟨⟨pos, committed⟩, a⟩
    constructor
    · intro _
      exact ⟨_, _, rfl⟩
    · intro _
      cases committed <;> exact ⟨_, _, rfl⟩

namespace Parser

/-- A parser that, where it raises nothing after some calls, raises nothing after others. -/
def Steadfast (src : Source) (calls calls' : List Nat) (p : Parser) : Prop :=
  ∀ i r t, p.run src ⟨i, calls⟩ = .ok r t → ∃ r' t', p.run src ⟨i, calls'⟩ = .ok r' t'

section
variable {src : Source} {own : Nat → Prop} {calls calls' : List Nat} {i : Int} {r : Reply}
  {t : Progress}

theorem narrow_again {layer : Layer}
    (again : ∀ d, layer.diagnostic = some d → d.AnswersAgain calls calls') {r' : Reply}
    (run : layer.narrow r ⟨i, calls⟩ = .ok r' t) :
    ∃ r'' t', layer.narrow r ⟨i, calls'⟩ = .ok r'' t' := by
  rw [narrow_run] at run ⊢
  cases r with
  | failure => exact ⟨_, _, rfl⟩
  | success self data range =>
    dsimp only at run ⊢
    cases answer : layer.holds data with
    | error fault => rw [answer] at run; cases run
    | ok held =>
      cases held with
      | true => exact ⟨_, _, rfl⟩
      | false =>
        rw [answer] at run
        cases attached : layer.diagnostic with
        | none => exact ⟨_, _, rfl⟩
        | some d =>
          rw [attached] at run
          dsimp only at run ⊢
          cases called : d.call ⟨i, calls⟩ with
          | error fault u => rw [called] at run; cases run
          | ok error u =>
            obtain ⟨error', u', called'⟩ := (again d attached).call called
            rw [called']
            exact ⟨_, _, rfl⟩

/-- When the filter asks, nothing was called yet: what it is asked about is a success. -/
theorem filter_steadfast {p : Parser} {layer : Layer} (unbidden : Unbidden own (p.run src))
    (inner : Steadfast src calls calls' p)
    (again : ∀ d, layer.diagnostic = some d → d.AnswersAgain calls calls') :
    Steadfast src calls calls' (p.filter layer) := by
  intro i r' t run
  obtain ⟨r, ⟨j, made⟩, ran, narrowed⟩ := Action.bind_ok run
  rw [Parser.run, Action.bind_run]
  by_cases good : r.truthy = true
  · obtain ⟨rfl, free⟩ := unbidden.free ran good
    rw [free calls']
    exact narrow_again again narrowed
  · obtain ⟨r'', u', ran'⟩ := inner i r _ ran
    have bad := unbidden.truthy_again ran ran'
    rw [ran']
    rcases r'' with success | ⟨self, pos, error, message⟩
    · exact absurd bad.symm good
    · exact ⟨_, _, narrow_run layer _ _⟩

theorem runAll_again {parts : List Part}
    (unbidden : ∀ part ∈ parts, Unbidden own (part.parser.run src))
    (each : ∀ part ∈ parts, Steadfast src calls calls' part.parser) {part : Part}
    (run : runAll src parts ⟨i, calls⟩ = .ok (.error (part, r)) t) :
    ∃ r' t', runAll src parts ⟨i, calls'⟩ = .ok (.error (part, r')) t' := by
  induction parts generalizing i with
  | nil => cases run
  | cons first rest ih =>
    obtain ⟨free, unbidden⟩ := List.forall_mem_cons.mp unbidden
    obtain ⟨steadfast, each⟩ := List.forall_mem_cons.mp each
    obtain ⟨answer, ⟨j, made⟩, ran, onward⟩ := Action.bind_ok run
    rw [runAll, Action.bind_run]
    cases answer with
    | success self data range =>
      obtain ⟨rfl, again⟩ := free.free ran rfl
      rw [again calls']
      obtain ⟨all, v, others, ended⟩ := Action.bind_ok onward
      cases all with
      | ok values => cases ended
      | error stop =>
        cases ended
        obtain ⟨r', t', stopped⟩ := ih unbidden each others
        refine ⟨r', t', ?_⟩
        dsimp only
        rw [Action.bind_run, stopped]
        rfl
    | failure =>
      cases onward
      obtain ⟨r', u', again⟩ := steadfast _ _ _ ran
      have bad := free.truthy_again ran again
      rw [again]
      cases r' with
      | success => cases bad
      | failure => exact ⟨_, _, rfl⟩

theorem Part.settle_again {part : Part} {c : Checkpoint} {s : Progress} {a : Checkpoint × Reply}
    (run : part.settle src c r s = .ok a t) (r' : Reply) (s' : Progress) :
    ∃ a' t', part.settle src c r' s' = .ok a' t' := by
  rcases part with ⟨parser, mode, message⟩
  cases mode with
  | fail | failStart | propagate => exact ⟨_, _, rfl⟩
  | error =>
    obtain ⟨e, u, _, thrown⟩ := Action.bind_ok run
    cases thrown

theorem sequence_steadfast {parts : List Part}
    (unbidden : ∀ part ∈ parts, Unbidden own (part.parser.run src))
    (each : ∀ part ∈ parts, Steadfast src calls calls' part.parser) :
    Steadfast src calls calls' (sequence parts) := by
  intro i r t run
  rw [sequence, Parser.run] at run ⊢
  obtain ⟨a, u, body⟩ := Checkpoint.block_ok_iff.mp ⟨r, t, run⟩
  obtain ⟨all, v, ran, settled⟩ := Action.bind_ok body
  apply Checkpoint.block_ok_iff.mpr
  rw [Action.bind_run]
  rcases all with ⟨part, r⟩ | values
  · obtain ⟨r', v', again⟩ := runAll_again unbidden each ran
    rw [again]
    exact Part.settle_again settled r' v'
  · obtain ⟨_, free⟩ := (runAll_unbidden unbidden).free ran rfl
    have again : runAll src parts ⟨i, calls'⟩ = .ok (.ok values) { v with calls := calls' } :=
      free calls'
    rw [again]
    exact ⟨_, _, rfl⟩

theorem Bundled.steadfast {p : Parser} (bundled : p.Bundled) (src : Source)
    (calls calls' : List Nat) : Steadfast src calls calls' p := by
  intro i r t run
  have again := bundled.quiet src ⟨i, calls⟩ calls'
  rw [run] at again
  exact ⟨_, _, again⟩

theorem ComposedWith.steadfast {p : Parser}
    (composed : p.ComposedWith (Diagnostic.AnswersAgain calls calls')) (src : Source) :
    Steadfast src calls calls' p := by
  induction composed with
  | item => exact Bundled.item.steadfast src calls calls'
  | blanks => exact Bundled.blanks.steadfast src calls calls'
  | integer => exact Bundled.integer.steadfast src calls calls'
  | take made => exact (Bundled.take made).steadfast src calls calls'
  | literal made => exact (Bundled.literal made).steadfast src calls calls'
  | filter inner again ih => exact filter_steadfast (inner.composed.unbidden src) ih again
  | sequence all ih =>
    exact sequence_steadfast (fun part here => (all part here).composed.unbidden src) ih

end

/-! ## One alternative after another -/

/-- It fails when it is run alone. -/
def Fails (p : Parser) (src : Source) (s : Progress) : Prop :=
  ∃ r t, p.run src s = .ok r t ∧ r.truthy = false

/-- The diagnostics called once parsers were tried one after another from the same position. -/
def callsBehind (src : Source) (s : Progress) (tried : List Parser) : List Nat :=
  tried.foldl (fun calls p => (ending (p.run src { s with calls })).calls) s.calls

/-- What it takes for a choice to try its alternatives as if each were alone. -/
structure Untroubled (parts : List Parser) (src : Source) (s : Progress) : Prop where
  alone : ∀ p ∈ parts, ∃ r t, p.run src s = .ok r t
  /-- Nothing is raised at an alternative's turn either. A diagnostic that it shares with those
  before it was called by them, and may not answer again. -/
  inTurn : ∀ before p after, parts = before ++ p :: after → (∀ q ∈ before, q.Fails src s) →
    ∃ r t, p.run src { s with calls := callsBehind src s before } = .ok r t

variable {src : Source} {s t : Progress} {r : Reply} {p : Parser}
  {parts before after : List Parser} {message : Option String}

theorem callsBehind_concat (before : List Parser) (p : Parser) :
    callsBehind src s (before ++ [p]) =
      (ending (p.run src { s with calls := callsBehind src s before })).calls := by
  simp only [callsBehind, List.foldl_append, List.foldl_cons, List.foldl_nil]

/-- A diagnostic that the parsers tried do not have was not called by them. -/
theorem count_callsBehind {n : Nat} {tried : List Parser}
    (others : ∀ q ∈ tried, q.ComposedWith fun d => d.number ≠ n) :
    Diagnostic.count (callsBehind src s tried) n = Diagnostic.count s.calls n := by
  induction tried using List.reverseRecOn with
  | nil => rfl
  | append_singleton before q ih =>
    obtain ⟨earlier, last⟩ := List.forall_mem_append.mp others
    have unbidden : Unbidden (· ≠ n) (q.run src) :=
      ComposedWith.unbidden (List.forall_mem_singleton.mp last) src
    obtain ⟨made, adds, each⟩ := unbidden.adds { s with calls := callsBehind src s before }
    have uncalled : made.count n = 0 := List.count_eq_zero.mpr fun member => each n member rfl
    rw [callsBehind_concat, adds, ← ih earlier]
    simp only [Diagnostic.count, List.count_append, uncalled, Nat.zero_add]

/-- Single runs show that nothing is raised, unless an alternative shares with one before it a
diagnostic that answers some of its calls only. -/
theorem Untroubled.of_alone
    (composed : ∀ before p after, parts = before ++ p :: after → p.ComposedWith fun d =>
      d.Dependable ∨ ∀ q ∈ before, q.ComposedWith fun e => e.number ≠ d.number)
    (alone : ∀ p ∈ parts, ∃ r t, p.run src s = .ok r t) : Untroubled parts src s where
  alone := alone
  inTurn := by
    intro before p after split _
    have member : p ∈ parts := split ▸ List.mem_append_cons_self
    obtain ⟨r, t, run⟩ := alone p member
    refine ComposedWith.steadfast ?_ src s.pos r t run
    refine (composed before p after split).mono fun d own => ?_
    rcases own with dependable | unshared
    · exact dependable.answersAgain
    · exact Diagnostic.answersAgain_of_count (count_callsBehind unshared)

theorem attempt_of_success (run : p.run src s = .ok r t) (good : r.truthy = true)
    (rest : List Parser) : choice.attempt message src (p :: rest) s = .ok r t := by
  change (Savepoint.save >>= _) s = _
  rw [Action.bind_run]
  change (p.run src >>= _) s = _
  rw [Action.bind_run, run]
  simp only [good]
  rfl

/-- A failed alternative is taken back, wherever it left the stream. -/
theorem attempt_of_failure (run : p.run src s = .ok r t) (failure : r.truthy = false)
    (rest : List Parser) : choice.attempt message src (p :: rest) s =
      choice.attempt message src rest { t with pos := s.pos } := by
  change (Savepoint.save >>= _) s = _
  rw [Action.bind_run]
  change (p.run src >>= _) s = _
  rw [Action.bind_run, run]
  simp only [failure]
  rfl

/-- At its turn a parser that fails alone fails too. -/
theorem Untroubled.fails_inTurn (untroubled : Untroubled (before ++ p :: after) src s)
    (composed : Composed p) (fails : ∀ q ∈ before, q.Fails src s) (last : p.Fails src s) :
    ∃ r t, p.run src { s with calls := callsBehind src s before } = .ok r t ∧
      r.truthy = false := by
  obtain ⟨r, t, run, failure⟩ := last
  obtain ⟨r', t', turn⟩ := untroubled.inTurn before p after rfl fails
  refine ⟨r', t', turn, ?_⟩
  rw [(composed.unbidden src).truthy_again run turn, failure]

theorem attempt_append (untroubled : Untroubled (before ++ after) src s)
    (composed : ∀ q ∈ before, Composed q) (fails : ∀ q ∈ before, q.Fails src s) :
    choice.attempt message src (before ++ after) s =
      choice.attempt message src after { s with calls := callsBehind src s before } := by
  -- From the end of the list, as the calls behind all but the last are those at its turn.
  induction before using List.reverseRecOn generalizing after with
  | nil => rfl
  | append_singleton before q ih =>
    obtain ⟨composed, last⟩ := List.forall_mem_append.mp composed
    obtain ⟨fails, fails'⟩ := List.forall_mem_append.mp fails
    have failed : q.Fails src s := fails' q (List.mem_singleton_self q)
    rw [List.append_assoc, List.singleton_append] at untroubled ⊢
    obtain ⟨r, t, turn, failure⟩ := untroubled.fails_inTurn (List.forall_mem_singleton.mp last)
      fails failed
    rw [ih untroubled composed fails, attempt_of_failure turn failure, callsBehind_concat, turn]
    rfl

/-- Parsers that raise nothing alone have a first that succeeds alone, or all fail. -/
theorem exists_first_success (alone : ∀ p ∈ parts, ∃ r t, p.run src s = .ok r t) :
    (∀ p ∈ parts, p.Fails src s) ∨ ∃ before p after, parts = before ++ p :: after ∧
      (∀ q ∈ before, q.Fails src s) ∧
      ∃ self data range t, p.run src s = .ok (.success self data range) t := by
  induction parts with
  | nil => exact .inl nofun
  | cons p rest ih =>
    obtain ⟨⟨r, t, run⟩, others⟩ := List.forall_mem_cons.mp alone
    cases r with
    | success self data range =>
      exact .inr ⟨[], p, rest, rfl, nofun, self, data, range, t, run⟩
    | failure =>
      have first : p.Fails src s := ⟨_, t, run, rfl⟩
      rcases ih others with all | ⟨before, q, after, rfl, fails, succeeds⟩
      · exact .inl (List.forall_mem_cons.mpr ⟨first, all⟩)
      · exact .inr ⟨p :: before, q, after, rfl, List.forall_mem_cons.mpr ⟨first, fails⟩, succeeds⟩

/-- What becomes of a choice. -/
structure Ordered (parts : List Parser) (message : Option String) (src : Source) (s : Progress) :
    Prop where
  /-- All alternatives fail alone, or there is a first that succeeds alone. -/
  decided : (∀ p ∈ parts, p.Fails src s) ∨ ∃ before p after, parts = before ++ p :: after ∧
    (∀ q ∈ before, q.Fails src s) ∧
    ∃ self data range t, p.run src s = .ok (.success self data range) t
  /-- Behind alternatives that fail alone, the choice goes on as it would have begun. -/
  started : ∀ before after, parts = before ++ after → (∀ q ∈ before, q.Fails src s) →
    (choice parts message).run src s =
      (choice after message).run src { s with calls := callsBehind src s before }
  /-- The first to succeed alone gives its very response, whatever the data, and the position. -/
  chosen : ∀ before p after, parts = before ++ p :: after → (∀ q ∈ before, q.Fails src s) →
    ∀ self data range t, p.run src s = .ok (.success self data range) t →
    (choice parts message).run src s =
      .ok (.success self data range) ⟨t.pos, callsBehind src s before⟩
  failed : (∀ q ∈ parts, q.Fails src s) →
    (choice parts message).run src s =
      .ok (.failure none (some s.pos) .nothing message) ⟨s.pos, callsBehind src s parts⟩

/-- **Ordered choice** among composed parsers that raise nothing, neither alone nor at their turn:
every alternative is tried from the same position, also behind one that has read a value and
rejected it. -/
theorem choice_ordered (composed : ∀ p ∈ parts, Composed p)
    (untroubled : Untroubled parts src s) (message : Option String) :
    Ordered parts message src s := by
  have started : ∀ before after, parts = before ++ after → (∀ q ∈ before, q.Fails src s) →
      (choice parts message).run src s =
        (choice after message).run src { s with calls := callsBehind src s before } := by
    rintro before after rfl fails
    exact attempt_append untroubled (List.forall_mem_append.mp composed).1 fails
  constructor
  case decided => exact exists_first_success untroubled.alone
  case started => exact started
  case chosen =>
    intro before p after split fails self data range t run
    have member : p ∈ parts := split ▸ List.mem_append_cons_self
    obtain ⟨_, alone⟩ := ((composed p member).unbidden src).free run rfl
    rw [started before (p :: after) split fails]
    exact attempt_of_success (alone _) rfl after
  case failed =>
    intro fails
    rw [started parts [] (List.append_nil parts).symm fails]
    rfl

/-- A character that two filters have read and rejected is read again, with their diagnostic called
twice, and the empty text found there is no failure. -/
theorem choice_ordered_empty :
    let d : Diagnostic := ⟨0, (Diagnostic.Behaviour.nth).answer⟩
    let first := item.filter ⟨.eq, .text "b", some d⟩
    let second := item.filter ⟨.eq, .text "c", some d⟩
    let empty : Parser := .fn (.named "inner") (literalBody [.text ""])
    let parts := [first, second, empty]
    literal [.text ""] = .ok empty ∧ (∀ p ∈ parts, Composed p) ∧
    Untroubled parts (.ofText "a") ⟨0, []⟩ ∧ Ordered parts none (.ofText "a") ⟨0, []⟩ ∧
    first.run (.ofText "a") ⟨0, []⟩ = .ok (.failure none (some 0) (.int 1) none) ⟨1, [0]⟩ ∧
    (choice parts none).run (.ofText "a") ⟨0, []⟩ =
      .ok (.success none (.text "") (some (0, 0))) ⟨0, [0, 0]⟩ := by
  intro d first second empty parts
  have made : literal [.text ""] = .ok empty := rfl
  have dependable : d.Dependable := fun _ _ _ m => ⟨.int m, rfl⟩
  have rejecting (v : Value) : (item.filter ⟨.eq, v, some d⟩).ComposedWith Diagnostic.Dependable :=
    .filter .item fun _ own => by cases own; exact dependable
  have each : ∀ p ∈ parts, p.ComposedWith Diagnostic.Dependable :=
    List.forall_mem_cons.mpr ⟨rejecting _, List.forall_mem_cons.mpr
      ⟨rejecting _, List.forall_mem_singleton.mpr (.literal made)⟩⟩
  have composed : ∀ p ∈ parts, Composed p := fun p here => (each p here).composed
  have alone : ∀ p ∈ parts, ∃ r t, p.run (.ofText "a") ⟨0, []⟩ = .ok r t :=
    List.forall_mem_cons.mpr ⟨⟨_, _, rfl⟩, List.forall_mem_cons.mpr
      ⟨⟨_, _, rfl⟩, List.forall_mem_singleton.mpr ⟨_, _, rfl⟩⟩⟩
  have untroubled : Untroubled parts (.ofText "a") ⟨0, []⟩ := by
    refine .of_alone (fun before p after split => ?_) alone
    have member : p ∈ parts := split ▸ List.mem_append_cons_self
    exact (each p member).mono fun _ own => .inl own
  exact ⟨made, composed, untroubled, choice_ordered composed untroubled none, rfl, rfl⟩

/-- Raising nothing alone is not enough: a diagnostic that two filters share answers the first of
them and raises at the second, before the last alternative, which would succeed, is tried. -/
theorem choice_shared_raises :
    let d : Diagnostic :=
      ⟨0, fun n => if n = 1 then .ok .nothing else .error (.raised .runtime "called again")⟩
    let first := item.filter ⟨.eq, .text "b", some d⟩
    let second := item.filter ⟨.eq, .text "c", some d⟩
    let parts := [first, second, item]
    (∀ p ∈ parts, Composed p) ∧
    first.run (.ofText "a") ⟨0, []⟩ = .ok (.failure none (some 0) .nothing none) ⟨1, [0]⟩ ∧
    second.run (.ofText "a") ⟨0, []⟩ = .ok (.failure none (some 0) .nothing none) ⟨1, [0]⟩ ∧
    item.run (.ofText "a") ⟨0, []⟩ = .ok (.success none (.text "a") (some (0, 1))) ⟨1, []⟩ ∧
    (choice parts none).run (.ofText "a") ⟨0, []⟩ =
      .error (.raised .runtime "called again") ⟨1, [0, 0]⟩ := by
  intro d first second parts
  have composed : ∀ p ∈ parts, Composed p :=
    List.forall_mem_cons.mpr ⟨.filter .item, List.forall_mem_cons.mpr
      ⟨.filter .item, List.forall_mem_singleton.mpr .item⟩⟩
  exact ⟨composed, rfl, rfl, rfl, rfl⟩

end Parser

end Sluice
