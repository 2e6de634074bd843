import Sluice.Proofs.Consumption
import Sluice.Proofs.FirstFailure
import Sluice.Proofs.Truncation

/-!
Running a parser again and again until it fails. Where every success takes at least one item there
is room for so many rounds and no more, and the rounds lie end to end from where the first began to
where the stream is left.
-/
namespace Sluice

theorem Stream.oneOf_mem {src : Source} {s t : Progress} {patterns : List Value} {v : Value}
    (run : Stream.oneOf src patterns s = .ok (some v) t) : v ∈ patterns := by
  induction patterns generalizing s with
  | nil => cases run
  | cons pattern rest ih =>
    rw [Stream.oneOf] at run
    obtain ⟨matched, u, -, run⟩ := Action.bind_ok run
    cases matched with
    | true =>
      cases run
      exact List.mem_cons_self
    | false => exact List.mem_cons_of_mem pattern (ih run)

namespace Parser

variable {src : Source} {s t u : Progress} {r : Reply}

/-- The parsers that never succeed on nothing. In a sequence one such part is enough. -/
inductive Productive : Parser → Prop where
  | item : Productive item
  | integer : Productive integer
  | take {amount : Int} {p : Parser} (made : take amount = .ok p) (positive : 1 ≤ amount) :
      Productive p
  | literal {patterns : List Value} {p : Parser} (made : literal patterns = .ok p)
      (filled : ∀ v ∈ patterns, v.size ≠ .ok 0) : Productive p
  | filter {p : Parser} {layer : Layer} (inner : Productive p) : Productive (.filter p layer)
  | sequence {parts : List Part} {part : Part} (all : ∀ part ∈ parts, Composed part.parser)
      (member : part ∈ parts) (one : Productive part.parser) : Productive (sequence parts)

theorem Productive.composed {p : Parser} (productive : Productive p) : Composed p := by
  induction productive with
  | item => exact .item
  | integer => exact .integer
  | take made => exact .take made
  | literal made => exact .literal made
  | filter inner ih => exact .filter ih
  | sequence all => exact .sequence all

/-- Every success ends behind its start. -/
def Advances (src : Source) (p : Parser) : Prop :=
  ∀ s r t, p.run src s = .ok r t → r.truthy = true → s.pos < t.pos

theorem item_advances (src : Source) : Advances src item := by
  intro s r t run good
  rw [item_run] at run
  split at run
  · cases found : src.item s.pos with
    | error fault => rw [found] at run; cases run
    | ok v =>
      rw [found] at run
      cases run
      exact Int.lt_succ s.pos
  · cases run
    cases good

theorem take_advances {amount : Int} {p : Parser} (made : take amount = .ok p)
    (positive : 1 ≤ amount) (src : Source) : Advances src p := by
  obtain ⟨-, rfl⟩ := take_eq_ok made
  intro s r t run good
  rw [Parser.run, takeBody_run] at run
  cases taken : src.peek s.pos amount with
  | none =>
    rw [taken] at run
    cases run
    cases good
  | some items =>
    rw [taken] at run
    cases run
    dsimp only
    omega

theorem literal_advances {patterns : List Value} {p : Parser} (made : literal patterns = .ok p)
    (filled : ∀ v ∈ patterns, v.size ≠ .ok 0) (src : Source) : Advances src p := by
  obtain ⟨-, rfl⟩ := literal_eq_ok made
  intro s r t run good
  rw [Parser.run, literalBody] at run
  obtain ⟨c, u, body, left⟩ := Checkpoint.block_ok run
  obtain ⟨found, v, tried, body⟩ := Action.bind_ok body
  cases found with
  | none =>
    cases body
    cases good
  | some pattern =>
    cases body
    rw [left]
    obtain ⟨none_found, -⟩ | ⟨v, found, matched⟩ := Stream.oneOf_cases tried
    · cases none_found
    · cases found
      obtain ⟨no, -⟩ | ⟨-, n, answer, size, -, -, -, rfl⟩ := Stream.literal_cases matched
      · cases no
      · have occupied : n ≠ 0 := by
          rintro rfl
          exact filled pattern (Stream.oneOf_mem tried) size
        change s.pos < s.pos + n
        omega

theorem integer_advances (src : Source) : Advances src integer := by
  intro s r t run good
  rw [integer, Parser.run] at run
  obtain ⟨c, u, body, left⟩ := Checkpoint.block_ok run
  obtain ⟨_, v, passed, body⟩ := Action.bind_ok body
  have signed := Stream.pass_onward src (Text.letters Text.signs) s
  rw [passed] at signed
  rw [integerDigits_run] at body
  split at body
  · cases body
  · cases body
    cases good
  · rename_i met
    split at body
    · cases body
    · rename_i skipped
      split at body
      · cases body
        rw [left]
        exact Int.lt_of_le_of_lt signed.1 (Stream.skip_advances met skipped)
      · cases body

theorem Passed.advances {parts : List Part} {part : Part} (passed : Passed src parts s u)
    (composed : ∀ part ∈ parts, Composed part.parser) (member : part ∈ parts)
    (advances : Advances src part.parser) : s.pos < u.pos := by
  induction passed with
  | nil => cases member
  | cons run others ih =>
    obtain ⟨first, later⟩ := List.forall_mem_cons.mp composed
    obtain rfl | member := List.mem_cons.mp member
    · exact Int.lt_of_lt_of_le (advances _ _ _ run rfl) (others.onward later).1
    · exact Int.lt_of_le_of_lt (first.reaches run).1 (ih later member)

theorem runAll_passed {parts : List Part} {values : List Value}
    (run : runAll src parts s = .ok (.ok values) t) : Passed src parts s t := by
  induction parts generalizing s values with
  | nil =>
    cases run
    exact .nil _
  | cons part rest ih =>
    obtain ⟨answer, u, first, run⟩ := Action.bind_ok run
    cases answer with
    | failure => cases run
    | success self data range =>
      obtain ⟨all, v, others, run⟩ := Action.bind_ok run
      cases all with
      | error stop => cases run
      | ok values =>
        cases run
        exact .cons first (ih others)

theorem sequence_advances {parts : List Part} {part : Part}
    (composed : ∀ part ∈ parts, Composed part.parser) (member : part ∈ parts)
    (advances : Advances src part.parser) : Advances src (sequence parts) := by
  intro s r t run good
  rw [sequence, Parser.run] at run
  obtain ⟨c, u, body, left⟩ := Checkpoint.block_ok run
  obtain ⟨all, v, ran, body⟩ := Action.bind_ok body
  rcases all with ⟨stopped, r'⟩ | values
  · rw [Part.settle_of_failure (runAll_failure ran) body] at good
    cases good
  · cases body
    rw [left]
    exact (runAll_passed ran).advances composed member advances

theorem Productive.advances {p : Parser} (productive : Productive p) (src : Source) :
    Advances src p := by
  induction productive with
  | item => exact item_advances src
  | integer => exact integer_advances src
  | take made positive => exact take_advances made positive src
  | literal made filled => exact literal_advances made filled src
  | filter inner ih =>
    intro s r t run good
    obtain ⟨r', u, ran, narrowed⟩ := Action.bind_ok run
    obtain ⟨rfl, rfl⟩ := narrow_of_truthy narrowed good
    exact ih s _ _ ran good
  | sequence all member one ih => exact sequence_advances all member ih

/-! ## One round after the other -/

/-- Up to `n` rounds of a parser, each of them guarded: a response that is no success ends the loop
and is taken back. -/
def collect (src : Source) (p : Parser) : Nat → Action (List Reply)
  | 0 => throw .endless
  | n + 1 => do
    let save ← Savepoint.save
    let r ← p.run src
    save.guard r.truthy
    if r.truthy then return r :: (← collect src p n) else return []

theorem collect_run (src : Source) (p : Parser) (n : Nat) (s : Progress) :
    collect src p (n + 1) s = match p.run src s with
      | .error fault t => .error fault t
      | .ok r t => if r.truthy then
          match collect src p n t with
          | .ok rest u => .ok (r :: rest) u
          | .error fault u => .error fault u
        else .ok [] { t with pos := s.pos } := by
  change (p.run src >>= _) s = _
  rw [Action.bind_run]
  cases p.run src s with
  | error fault t => rfl
  | ok r t =>
    cases good : r.truthy with
    | true =>
      simp only [good, if_true]
      change (collect src p n >>= _) t = _
      rw [Action.bind_run]
      cases collect src p n t <;> rfl
    | false =>
      simp only [good]
      rfl

/-- Rounds that succeed, and where the last of them leaves the stream. -/
inductive Rounds (src : Source) (p : Parser) : Progress → List Reply → Progress → Prop where
  | nil (s : Progress) : Rounds src p s [] s
  | cons {r : Reply} {rest : List Reply} {s t u : Progress} (run : p.run src s = .ok r t)
      (good : r.truthy = true) (others : Rounds src p t rest u) : Rounds src p s (r :: rest) u

/-- Successes that lie end to end, each with something in it. -/
inductive EndToEnd : Int → List Reply → Int → Prop where
  | nil (i : Int) : EndToEnd i [] i
  | cons {i j k : Int} {self : Identity} {data : Value} {rest : List Reply} (forward : i < j)
      (others : EndToEnd j rest k) : EndToEnd i (.success self data (some (i, j)) :: rest) k

theorem EndToEnd.length_le {i k : Int} {found : List Reply} (laid : EndToEnd i found k) :
    (found.length : Int) ≤ k - i := by
  induction laid with
  | nil i => exact Int.le_of_eq (Int.sub_self i).symm
  | cons forward others ih =>
    rw [List.length_cons]
    omega

variable {p : Parser} {found : List Reply}

theorem Composed.success_spans (composed : Composed p) (run : p.run src s = .ok r t)
    (good : r.truthy = true) : ∃ self data, r = .success self data (some (s.pos, t.pos)) := by
  cases r with
  | failure => cases good
  | success self data range =>
    have whole := composed.base_allOrNothing src s
    obtain ⟨spans, -⟩ := whole.parsed self data range t (base_of_truthy run good)
    rw [spans]
    exact ⟨self, data, rfl⟩

namespace Productive

theorem room_lt (productive : Productive p) (run : p.run src s = .ok r t)
    (good : r.truthy = true) : Stream.room src t.pos < Stream.room src s.pos := by
  have forward := productive.advances src s r t run good
  have bound := (productive.composed.reaches run).2
  unfold Stream.room
  omega

theorem rounds_endToEnd (productive : Productive p) (rounds : Rounds src p s found t) :
    EndToEnd s.pos found t.pos ∧ src.Onward s.pos t.pos := by
  induction rounds with
  | nil s => exact ⟨.nil s.pos, .refl src s.pos⟩
  | cons run good others ih =>
    have forward := productive.advances src _ _ _ run good
    obtain ⟨self, data, rfl⟩ := productive.composed.success_spans run good
    obtain ⟨laid, onward⟩ := ih
    exact ⟨.cons forward laid, (productive.composed.reaches run).trans onward⟩

/-- The number of rounds that the loop may take never shows, if it is more than there is room for.
-/
theorem collect_ends (productive : Productive p) (src : Source) (s : Progress) :
    ∃ found last, Rounds src p s found last ∧ ∀ n, Stream.room src s.pos < n →
      match p.run src last with
      | .ok r t => r.truthy = false ∧ collect src p n s = .ok found ⟨last.pos, t.calls⟩
      | .error fault t => collect src p n s = .error fault t := by
  induction left : Stream.room src s.pos using Nat.strongRecOn generalizing s with
  | ind room ih =>
    subst left
    cases ran : p.run src s with
    | error fault t =>
      refine ⟨[], s, .nil s, fun n enough => ?_⟩
      obtain ⟨n, rfl⟩ := Nat.exists_eq_succ_of_ne_zero (Nat.ne_zero_of_lt enough)
      rw [collect_run, ran]
    | ok r t =>
      cases good : r.truthy with
      | false =>
        refine ⟨[], s, .nil s, fun n enough => ?_⟩
        obtain ⟨n, rfl⟩ := Nat.exists_eq_succ_of_ne_zero (Nat.ne_zero_of_lt enough)
        rw [collect_run, ran]
        simp only [good, Bool.false_eq_true, if_false, and_self]
      | true =>
        have less := productive.room_lt ran good
        obtain ⟨found, last, rounds, ends⟩ := ih _ less t rfl
        refine ⟨r :: found, last, .cons ran good rounds, fun n enough => ?_⟩
        obtain ⟨n, rfl⟩ := Nat.exists_eq_succ_of_ne_zero (Nat.ne_zero_of_lt enough)
        have behind := ends n (Nat.lt_of_lt_of_le less (Nat.le_of_lt_succ enough))
        rw [collect_run, ran]
        simp only [good, if_true]
        cases final : p.run src last with
        | ok r' u =>
          rw [final] at behind
          rw [behind.2]
          exact ⟨behind.1, rfl⟩
        | error fault u =>
          rw [final] at behind
          rw [behind]

end Productive

/-- What it is to run a parser again and again from some state of the stream. -/
structure Repeats (src : Source) (p : Parser) (s : Progress) : Prop where
  advances : ∀ r t, p.run src s = .ok r t → r.truthy = true → s.pos < t.pos
  /-- The loop takes no more rounds than there are items left, and stops with the stream where the
  last of them ended. Only an error of the parser can cut it short. -/
  ends : ∃ found last, Rounds src p s found last ∧ EndToEnd s.pos found last.pos ∧
    (found.length : Int) ≤ max 0 (src.length - s.pos) ∧
    ∀ n, Stream.room src s.pos < n → match p.run src last with
      | .ok r t => r.truthy = false ∧ collect src p n s = .ok found ⟨last.pos, t.calls⟩
      | .error fault t => collect src p n s = .error fault t

/-- **Repetition ends**, since a productive parser that succeeds has moved on. -/
theorem repetition_ends (productive : Productive p) (src : Source) (s : Progress) :
    Repeats src p s where
  advances := productive.advances src s
  ends := by
    obtain ⟨found, last, rounds, ends⟩ := productive.collect_ends src s
    obtain ⟨laid, onward⟩ := productive.rounds_endToEnd rounds
    refine ⟨found, last, rounds, laid, ?_, ends⟩
    have length := laid.length_le
    have bound := onward.2
    omega

/-- Blanks alone would go on for ever; with an item behind them they come to an end, here at one
that is read, rejected and put back. -/
theorem repetition_ends_rejected :
    let spaced := sequence [⟨blanks, .propagate, none⟩, ⟨item, .propagate, none⟩]
    let p := spaced.filter ⟨.ne, .list [.nothing, .text "!"], none⟩
    let src := Source.ofText "a b!c"
    Productive p ∧ Repeats src p ⟨0, []⟩ ∧
    collect src p 6 ⟨0, []⟩ = .ok [
      .success none (.list [.nothing, .text "a"]) (some (0, 1)),
      .success none (.list [.nothing, .text "b"]) (some (1, 3))] ⟨3, []⟩ := by
  intro spaced p src
  have composed : ∀ part ∈ [⟨blanks, .propagate, none⟩, (⟨item, .propagate, none⟩ : Part)],
      Composed part.parser :=
    List.forall_mem_cons.mpr ⟨.blanks, List.forall_mem_singleton.mpr .item⟩
  have productive : Productive p :=
    .filter (.sequence composed (List.mem_cons_of_mem _ List.mem_cons_self) .item)
  exact ⟨productive, repetition_ends productive src ⟨0, []⟩, rfl⟩

end Parser

end Sluice
