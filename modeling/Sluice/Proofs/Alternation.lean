import Sluice.Proofs.Consumption
import Sluice.Proofs.OrderedChoice

/-!
Alternatives of a literal. Patterns that do not come next leave the stream as it was, so an
alternation does what its first pattern not to fail does alone, and two alternations one behind the
other are one alternation.
-/
namespace Sluice

namespace Stream

variable {src : Source} {s t : Progress} {v : Value} {vs ws : List Value}

/-- Only the comparison with the next items can be what raises, where a pattern has a size. -/
theorem literal_error {fault : Fault} (run : literal src v s = .error fault t) :
    t = s ∧ ∀ n, v.size = .ok n → (src.slice s.pos (s.pos + n)).equals v = .error fault := by
  rw [literal_run] at run
  cases size : v.size with
  | error refused =>
    rw [size] at run
    cases run
    exact ⟨rfl, nofun⟩
  | ok n =>
    rw [size] at run
    dsimp only at run
    by_cases enough : src.hasItems s.pos n = true
    · rw [if_pos enough] at run
      cases compared : (src.slice s.pos (s.pos + n)).equals v with
      | error refused =>
        rw [compared] at run
        cases run
        refine ⟨rfl, fun m same => ?_⟩
        cases same
        exact compared
      | ok answer =>
        rw [compared] at run
        dsimp only at run
        split at run <;> cases run
    · rw [if_neg enough] at run
      cases run

theorem oneOf_error {fault : Fault} (run : oneOf src vs s = .error fault t) : t = s := by
  induction vs with
  | nil => cases run
  | cons v rest ih =>
    rw [oneOf, Action.bind_run] at run
    cases tried : literal src v s with
    | error refused u =>
      rw [tried] at run
      cases run
      exact (literal_error tried).1
    | ok matched u =>
      rw [tried] at run
      cases matched with
      | true => cases run
      | false =>
        obtain ⟨_, rfl⟩ | ⟨yes, _⟩ := literal_cases tried
        · exact ih run
        · cases yes

theorem oneOf_missed (run : oneOf src vs s = .ok none t) : t = s := by
  obtain ⟨_, back⟩ | ⟨v, found, _⟩ := oneOf_cases run
  · exact back
  · cases found

/-- The second list is searched where the first has nothing. -/
theorem oneOf_append (vs ws : List Value) (s : Progress) :
    oneOf src (vs ++ ws) s = match oneOf src vs s with
      | .ok none t => oneOf src ws t
      | outcome => outcome := by
  induction vs generalizing s with
  | nil => rfl
  | cons v rest ih =>
    rw [List.cons_append, oneOf, oneOf, Action.bind_run, Action.bind_run]
    cases literal src v s with
    | error fault t => rfl
    | ok matched t =>
      cases matched with
      | true => rfl
      | false => exact ih t

theorem oneOf_append_of_missed (missed : oneOf src vs s = .ok none s) (ws : List Value) :
    oneOf src (vs ++ ws) s = oneOf src ws s := by
  rw [oneOf_append, missed]

theorem oneOf_append_of_found (found : oneOf src vs s ≠ .ok none s) (ws : List Value) :
    oneOf src (vs ++ ws) s = oneOf src vs s := by
  rw [oneOf_append]
  cases tried : oneOf src vs s with
  | error fault t => rfl
  | ok pattern t =>
    cases pattern with
    | some v => rfl
    | none =>
      obtain rfl := oneOf_missed tried
      exact absurd tried found

theorem oneOf_singleton (src : Source) (v : Value) (s : Progress) :
    oneOf src [v] s = match literal src v s with
      | .ok true t => .ok (some v) t
      | .ok false t => .ok none t
      | .error fault t => .error fault t := by
  rw [oneOf, Action.bind_run]
  cases literal src v s with
  | error fault t => rfl
  | ok matched t => cases matched <;> rfl

theorem oneOf_missed_iff :
    oneOf src vs s = .ok none s ↔ ∀ v ∈ vs, oneOf src [v] s = .ok none s := by
  induction vs with
  | nil => simp [oneOf, Action.pure_run]
  | cons v rest ih =>
    rw [List.forall_mem_cons, ← ih, ← List.singleton_append]
    by_cases first : oneOf src [v] s = .ok none s
    · rw [oneOf_append_of_missed first, and_iff_right first]
    · rw [oneOf_append_of_found first]
      simp [first]

end Stream

namespace Parser

/-- A single pattern needs no search, and whether it came next is a truth value. -/
def loneBody (pattern : Value) (src : Source) : Action Reply :=
  Checkpoint.block fun c => do
    if ← Stream.literal src pattern then c.result pattern
    else c.fail (some ("Expected " ++ pattern.shown ++ "."))

/-- The parser of a single pattern. -/
def lone (pattern : Value) : Parser :=
  .fn (.named "inner") (loneBody pattern)

variable {src : Source} {s t : Progress} {v : Value} {vs ws patterns : List Value}

theorem loneBody_eq (v : Value) : loneBody v = literalBody [v] := by
  funext src s
  simp only [loneBody, literalBody, Checkpoint.block, Action.bind_run, Stream.oneOf_singleton]
  cases Stream.literal src v s with
  | error fault t => rfl
  | ok matched t => cases matched <;> rfl

theorem literal_lone (v : Value) : literal [v] = .ok (lone v) := by
  rw [lone, loneBody_eq]
  rfl

/-- What is made of what was found. -/
def concluded (found : EStateM.Result Fault Progress (Option Value)) (s : Progress)
    (message : Option String) : EStateM.Result Fault Progress Reply :=
  match found with
  | .ok (some v) t => .ok (.success none v (some (s.pos, t.pos))) t
  | .ok none _ => .ok (.failure none (some s.pos) .nothing message) s
  | .error fault _ => .error fault s

theorem literalBody_run (vs : List Value) (src : Source) (s : Progress) :
    literalBody vs src s = concluded (Stream.oneOf src vs s) s (some (expected vs)) := by
  simp only [literalBody, Checkpoint.block, Action.bind_run]
  cases tried : Stream.oneOf src vs s with
  | error fault t =>
    obtain rfl := Stream.oneOf_error tried
    rfl
  | ok found t =>
    cases found with
    | some pattern => rfl
    | none =>
      obtain rfl := Stream.oneOf_missed tried
      rfl

theorem lone_run (v : Value) (src : Source) (s : Progress) :
    (lone v).run src s = concluded (Stream.oneOf src [v] s) s (some (expected [v])) := by
  rw [lone, run, loneBody_eq, literalBody_run]

theorem fails_iff_missed {p : Parser} {message : Option String}
    (run : p.run src s = concluded (Stream.oneOf src vs s) s message) :
    p.Fails src s ↔ Stream.oneOf src vs s = .ok none s := by
  constructor
  · rintro ⟨r, t, ran, failure⟩
    rw [run] at ran
    cases tried : Stream.oneOf src vs s with
    | error fault u => rw [tried] at ran; cases ran
    | ok found u =>
      rw [tried] at ran
      cases found with
      | some v => cases ran; cases failure
      | none =>
        obtain rfl := Stream.oneOf_missed tried
        rfl
  · intro missed
    rw [missed] at run
    exact ⟨_, _, run, rfl⟩

theorem lone_fails_iff : (lone v).Fails src s ↔ Stream.oneOf src [v] s = .ok none s :=
  fails_iff_missed (lone_run v src s)

/-- What was found does not depend on the words for finding nothing. -/
theorem concluded_of_found (found : Stream.oneOf src vs s ≠ .ok none s)
    (message message' : Option String) :
    concluded (Stream.oneOf src vs s) s message = concluded (Stream.oneOf src vs s) s message' := by
  cases tried : Stream.oneOf src vs s with
  | error fault t => rfl
  | ok pattern t =>
    cases pattern with
    | some v => rfl
    | none =>
      obtain rfl := Stream.oneOf_missed tried
      exact absurd tried found

theorem lone_matched {r : Reply} (run : (lone v).run src s = .ok r t) (good : r.truthy = true) :
    ∃ n : Nat, v.size = .ok n ∧ r = .success none v (some (s.pos, s.pos + n)) ∧
      t = { s with pos := s.pos + n } := by
  rw [lone_run, Stream.oneOf_singleton] at run
  cases tried : Stream.literal src v s with
  | error fault u => rw [tried] at run; cases run
  | ok matched u =>
    rw [tried] at run
    obtain ⟨rfl, rfl⟩ | ⟨rfl, n, answer, size, _, _, _, rfl⟩ := Stream.literal_cases tried
    · cases run
      cases good
    · cases run
      exact ⟨n, size, rfl, rfl⟩

theorem lone_failed {r : Reply} (run : (lone v).run src s = .ok r t) (failure : r.truthy = false) :
    r = .failure none (some s.pos) .nothing (some (expected [v])) ∧ t = s := by
  have missed := lone_fails_iff.mp ⟨r, t, run, failure⟩
  rw [lone_run, missed] at run
  cases run
  exact ⟨rfl, rfl⟩

theorem lone_raised {fault : Fault} (run : (lone v).run src s = .error fault t) :
    t = s ∧ ∀ n, v.size = .ok n → (src.slice s.pos (s.pos + n)).equals v = .error fault := by
  rw [lone_run, Stream.oneOf_singleton] at run
  cases tried : Stream.literal src v s with
  | ok matched u => rw [tried] at run; cases matched <;> cases run
  | error refused u =>
    rw [tried] at run
    cases run
    exact ⟨rfl, (Stream.literal_error tried).2⟩

/-! ## An ordered choice -/

theorem attempt_of_error {p : Parser} {fault : Fault} {message : Option String}
    (run : p.run src s = .error fault t) (rest : List Parser) :
    choice.attempt message src (p :: rest) s = .error fault t := by
  change (Savepoint.save >>= _) s = _
  rw [Action.bind_run]
  change (p.run src >>= _) s = _
  rw [Action.bind_run, run]

theorem attempt_lone (message : Option String) (vs : List Value) (s : Progress) :
    choice.attempt message src (vs.map lone) s =
      concluded (Stream.oneOf src vs s) s message := by
  induction vs with
  | nil => rfl
  | cons v rest ih =>
    have alone := lone_run v src s
    rw [List.map_cons, ← List.singleton_append (l := rest)]
    by_cases missed : Stream.oneOf src [v] s = .ok none s
    · rw [missed] at alone
      rw [attempt_of_failure alone rfl, Stream.oneOf_append_of_missed missed]
      exact ih
    · rw [Stream.oneOf_append_of_found missed]
      cases tried : Stream.oneOf src [v] s with
      | error fault t =>
        rw [tried] at alone
        exact attempt_of_error alone _
      | ok found t =>
        rw [tried] at alone
        cases found with
        | some pattern => exact attempt_of_success alone rfl _
        | none =>
          obtain rfl := Stream.oneOf_missed tried
          exact absurd tried missed

/-- What an alternation comes to, beside its patterns one by one. -/
structure FirstMatch (patterns : List Value) (p : Parser) (src : Source) (s : Progress) :
    Prop where
  /-- A single pattern takes a way of its own. -/
  alone : ∀ v, literal [v] = .ok (lone v)
  /-- One after another the patterns are tried from the same position, and the words of a failure
  name them all. -/
  chosen : p.run src s = (choice (patterns.map lone) (some (expected patterns))).run src s
  /-- The first not to fail gives its very response, or raises what it raises. -/
  decided : ∀ before v after, patterns = before ++ v :: after →
    (∀ u ∈ before, (lone u).Fails src s) → ¬(lone v).Fails src s →
    p.run src s = (lone v).run src s
  matched : ∀ v r t, (lone v).run src s = .ok r t → r.truthy = true →
    ∃ n : Nat, v.size = .ok n ∧ r = .success none v (some (s.pos, s.pos + n)) ∧
      t = { s with pos := s.pos + n }
  /-- It is the comparison that raises. -/
  raised : ∀ v fault t, (lone v).run src s = .error fault t →
    t = s ∧ ∀ n, v.size = .ok n → (src.slice s.pos (s.pos + n)).equals v = .error fault
  missed : ∀ v r t, (lone v).run src s = .ok r t → r.truthy = false →
    r = .failure none (some s.pos) .nothing (some (expected [v])) ∧ t = s
  failed : (∀ v ∈ patterns, (lone v).Fails src s) →
    p.run src s = .ok (.failure none (some s.pos) .nothing (some (expected patterns))) s
  /-- More patterns matter only where these fail. -/
  extended : ∀ more, more ≠ [] →
    ∃ q both, literal more = .ok q ∧ literal (patterns ++ more) = .ok both ∧
      (¬p.Fails src s → both.run src s = p.run src s) ∧
      (p.Fails src s → ¬q.Fails src s → both.run src s = q.run src s) ∧
      (p.Fails src s → q.Fails src s → both.Fails src s)

theorem literal_made (filled : patterns ≠ []) :
    literal patterns = .ok (.fn (.named "inner") (literalBody patterns)) := by
  rw [literal, if_neg (by rwa [List.isEmpty_iff])]

theorem literal_made_run {p : Parser} (made : literal patterns = .ok p) (src : Source)
    (s : Progress) :
    p.run src s = concluded (Stream.oneOf src patterns s) s (some (expected patterns)) := by
  obtain ⟨-, rfl⟩ := literal_eq_ok made
  rw [run, literalBody_run]

theorem literal_extended {p : Parser} (made : literal patterns = .ok p) {more : List Value}
    (filled : more ≠ []) (src : Source) (s : Progress) :
    ∃ q both, literal more = .ok q ∧ literal (patterns ++ more) = .ok both ∧
      (¬p.Fails src s → both.run src s = p.run src s) ∧
      (p.Fails src s → ¬q.Fails src s → both.run src s = q.run src s) ∧
      (p.Fails src s → q.Fails src s → both.Fails src s) := by
  have made' := literal_made filled
  have whole := literal_made (List.append_ne_nil_of_right_ne_nil patterns filled)
  refine ⟨_, _, made', whole, ?_⟩
  have first := literal_made_run made src s
  have second := literal_made_run made' src s
  have together := literal_made_run whole src s
  rw [fails_iff_missed first, fails_iff_missed second, fails_iff_missed together]
  refine ⟨fun found => ?_, fun missed found => ?_, fun missed missed' => ?_⟩
  · rw [first, together, Stream.oneOf_append_of_found found]
    exact concluded_of_found found _ _
  · rw [second, together, Stream.oneOf_append_of_missed missed]
    exact concluded_of_found found _ _
  · rw [Stream.oneOf_append_of_missed missed]
    exact missed'

/-- **The first pattern not to fail decides an alternation.** -/
theorem literal_first_match (filled : patterns ≠ []) :
    ∃ p, literal patterns = .ok p ∧ ∀ src s, FirstMatch patterns p src s := by
  have made := literal_made filled
  refine ⟨_, made, fun src s => ?_⟩
  constructor
  case alone => exact literal_lone
  case chosen =>
    rw [literal_made_run made, ← attempt_lone]
    rfl
  case decided =>
    rintro before v after rfl fails stands
    simp only [lone_fails_iff] at fails stands
    have missed := Stream.oneOf_missed_iff.mpr fails
    have found : Stream.oneOf src (before ++ v :: after) s = Stream.oneOf src [v] s := by
      rw [Stream.oneOf_append_of_missed missed, ← List.singleton_append,
        Stream.oneOf_append_of_found stands]
    rw [literal_made_run made, lone_run, found]
    exact concluded_of_found stands _ _
  case matched => exact fun v r t => lone_matched
  case raised => exact fun v fault t => lone_raised
  case missed => exact fun v r t => lone_failed
  case failed =>
    intro fails
    simp only [lone_fails_iff] at fails
    rw [literal_made_run made, Stream.oneOf_missed_iff.mpr fails]
    rfl
  case extended => exact fun more filled' => literal_extended made filled' src s

/-- A pattern that differs from the next item is passed over, one that cannot be compared with it is
not, and the one behind that would match is not tried. -/
theorem literal_first_match_touchy :
    let patterns : List Value := [.list [.int 2], .list [.touchy 0 "boom"], .list [.int 1]]
    let src := Source.list [.int 1]
    patterns ≠ [] ∧ ∃ p, literal patterns = .ok p ∧ FirstMatch patterns p src ⟨0, []⟩ ∧
      p.run src ⟨0, []⟩ = .error (.raised .runtime "boom") ⟨0, []⟩ ∧
      (lone (.list [.int 1])).run src ⟨0, []⟩ =
        .ok (.success none (.list [.int 1]) (some (0, 1))) ⟨1, []⟩ := by
  intro patterns src
  have filled : patterns ≠ [] := List.cons_ne_nil _ _
  obtain ⟨p, made, first⟩ := literal_first_match filled
  refine ⟨filled, p, made, first src ⟨0, []⟩, ?_, rfl⟩
  have passed : ∀ u ∈ [Value.list [.int 2]], (lone u).Fails src ⟨0, []⟩ := by
    simp only [List.mem_singleton, forall_eq]
    exact ⟨_, _, rfl, rfl⟩
  have raised : (lone (.list [.touchy 0 "boom"])).run src ⟨0, []⟩ =
      .error (.raised .runtime "boom") ⟨0, []⟩ := rfl
  rw [(first src ⟨0, []⟩).decided [.list [.int 2]] _ [.list [.int 1]] rfl passed, raised]
  rintro ⟨r, t, run, _⟩
  cases raised.symm.trans run

/-- The empty pattern comes next everywhere, also past the end and before a longer one. -/
example : literalBody [.text "b", .text "", .text "a"] (.ofText "a") ⟨1, []⟩ =
    .ok (.success none (.text "") (some (1, 1))) ⟨1, []⟩ :=
  rfl

end Parser

end Sluice
