import Sluice.Proofs.Quiet
import Sluice.Proofs.Spelling
import Sluice.Session

/-!
How often diagnostics are called. A run calls the diagnostic of the innermost filter that rejects
what was parsed, once, and no other. So in a whole session a diagnostic is called as often as some
filter that carries it was the one to reject, no matter which filters share it.
-/
namespace Sluice

open Sluice.Action (Quiet)

namespace Parser

theorem Bundled.base_eq {p : Parser} (bundled : p.Bundled) : p.base = p := by
  cases bundled with
  | item | blanks | integer => rfl
  | take made =>
    obtain ⟨_, rfl⟩ := take_eq_ok made
    rfl
  | literal made =>
    obtain ⟨_, rfl⟩ := literal_eq_ok made
    rfl

/-- Filters put on a bundled parser by any words. -/
def Worded (p : Parser) : Prop :=
  ∃ (b : Parser) (words : List Word), b.Bundled ∧ words.foldlM say b = .ok p

/-- Whatever is said about a parser, the parser under its filters stays. -/
theorem base_say {p q : Parser} {word : Word} (said : p.say word = .ok q) : q.base = p.base := by
  cases word with
  | eq value | ne value =>
    cases said
    rfl
  | orElse d =>
    rcases p with ⟨label, body⟩ | ⟨inner, direction, value, none | d'⟩ <;> cases said
    rfl
  | negate form =>
    rcases p with ⟨label, body⟩ | ⟨inner, ⟨⟩ | ⟨⟩, value, diagnostic⟩
    · cases form <;> cases said
    · cases said
      rfl
    · cases said

theorem base_sayAll {words : List Word} {p q : Parser} (said : words.foldlM say p = .ok q) :
    q.base = p.base := by
  induction words generalizing p with
  | nil =>
    cases said
    rfl
  | cons word rest ih =>
    rw [List.foldlM_cons] at said
    cases first : p.say word with
    | error fault => rw [first] at said; cases said
    | ok next =>
      rw [first] at said
      exact (ih said).trans (base_say first)

theorem Worded.base_bundled {p : Parser} (worded : p.Worded) : p.base.Bundled := by
  obtain ⟨b, words, bundled, said⟩ := worded
  rw [base_sayAll said, bundled.base_eq]
  exact bundled

end Parser

/-- Side by side with itself, a quiet step does the same after other calls. -/
theorem Beside.level_quiet {src : Source} {act : Action Reply} (calls others : List Nat)
    (quiet : Quiet act) :
    (level src src calls others).Runs (level src src calls others).Replies act act := by
  intro s t level
  obtain ⟨pos, made, rfl, rfl⟩ := level.split
  have kept := quiet.calls_eq ⟨pos, made ++ calls⟩
  have again := quiet ⟨pos, made ++ calls⟩ (made ++ others)
  rw [Beside.level, Int.add_zero]
  simp only at again kept ⊢
  rw [again]
  cases ran : act ⟨pos, made ++ calls⟩ with
  | ok r u =>
    rw [ran] at kept
    refine .ok (Response.shift_zero r).symm ⟨(Int.add_zero _).symm, trivial, made, kept, rfl⟩
  | error fault u =>
    rw [ran] at kept
    refine .error (.refl fault) ⟨(Int.add_zero _).symm, trivial, made, kept, rfl⟩

/-! ## What one run calls -/

/-- Whether a filter turns a value down. -/
def Layer.rejects (layer : Layer) (v : Value) : Bool :=
  match layer.holds v with
  | .ok held => !held
  | .error _ => false

namespace Parser

/-- The innermost filter to turn down what is parsed from a position. -/
def rejecting? (p : Parser) (src : Source) (start : Int) : Option Layer :=
  match p.base.run src ⟨start, []⟩ with
  | .ok (.success _ data _) _ => p.layers.find? (·.rejects data)
  | _ => none

def diagnosing? (p : Parser) (src : Source) (start : Int) : Option Diagnostic :=
  (p.rejecting? src start).bind (·.diagnostic)

/-- What comes of a diagnostic, if there is one to be called: it is called once more than before,
and the error is its answer. -/
structure Charged (d : Option Diagnostic) (before : List Nat) (r : Reply) (after : List Nat) :
    Prop where
  calls : after = (d.map (·.number)).toList ++ before
  error : ∀ e, d = some e → e.answer (Diagnostic.count before e.number + 1) = .ok r.error

theorem Charged.nothing (calls : List Nat) (r : Reply) : Charged none calls r calls :=
  ⟨rfl, nofun⟩

theorem narrowAll_charged {layers : List Layer} {self : Identity} {data : Value}
    {range : Option (Int × Int)} {s t : Progress} {r : Reply}
    (run : narrowAll layers (.success self data range) s = .ok r t) :
    Charged ((layers.find? (·.rejects data)).bind (·.diagnostic)) s.calls r t.calls := by
  induction layers with
  | nil =>
    cases run
    exact .nothing _ _
  | cons layer above ih =>
    rw [narrowAll, Action.bind_run, narrow_run] at run
    cases held : layer.holds data with
    | error fault => simp only [held] at run; cases run
    | ok holds =>
      simp only [held] at run
      cases holds with
      | true =>
        have passed : layer.rejects data = false := by
          simp only [Layer.rejects, held, Bool.not_true]
        rw [List.find?_cons, passed]
        exact ih run
      | false =>
        have rejected : layer.rejects data = true := by
          simp only [Layer.rejects, held, Bool.not_false]
        rw [List.find?_cons, rejected]
        change Charged layer.diagnostic s.calls r t.calls
        cases diagnosed : layer.diagnostic with
        | none =>
          simp only [diagnosed, narrowAll_failure] at run
          cases run
          exact .nothing _ _
        | some d =>
          simp only [diagnosed, Diagnostic.call_run] at run
          cases answered : d.answer (Diagnostic.count (d.number :: s.calls) d.number) with
          | error fault => simp only [answered] at run; cases run
          | ok error =>
            simp only [answered, narrowAll_failure] at run
            cases run
            rw [Diagnostic.count, List.count_cons_self] at answered
            refine ⟨rfl, ?_⟩
            rintro _ ⟨⟩
            exact answered

variable {p : Parser} {src : Source} {start : Int} {calls : List Nat} {r : Reply} {t : Progress}

/-- **A run calls one diagnostic at most, and that one once**: the diagnostic of the innermost
filter to reject. -/
theorem Worded.charged (worded : p.Worded) (run : p.run src ⟨start, calls⟩ = .ok r t) :
    Charged (p.diagnosing? src start) calls r t.calls := by
  have quiet := worded.base_bundled.quiet src ⟨start, []⟩ calls
  rw [← tower_base_layers p, run_tower, Action.bind_run, quiet] at run
  have kept := worded.base_bundled.quiet src |>.calls_eq ⟨start, []⟩
  cases ran : p.base.run src ⟨start, []⟩ with
  | error fault u => rw [ran] at run; cases run
  | ok inner u =>
    rw [ran] at run
    cases inner with
    | success self data range =>
      have charged := narrowAll_charged run
      simpa only [diagnosing?, rejecting?, ran] using charged
    | failure self pos error message =>
      simp only [Action.recalled, narrowAll_failure] at run
      cases run
      simp only [diagnosing?, rejecting?, ran]
      exact .nothing _ _

/-- Under diagnostics that always say the same, earlier calls make no difference. -/
theorem Worded.run_again (worded : p.Worded)
    (constant : ∀ layer ∈ p.layers, ∀ d, layer.diagnostic = some d → d.Constant)
    (run : p.run src ⟨start, calls⟩ = .ok r t) (others : List Nat) :
    ∃ u, p.run src ⟨start, others⟩ = .ok r u := by
  have alike : (Beside.level src src calls others).Alike := Beside.level_alike rfl
  have base : (Beside.level src src calls others).Runs (Beside.level src src calls others).Replies
      (p.base.run src) (p.base.run src) :=
    Beside.level_quiet calls others (worded.base_bundled.quiet src)
  have steady (layer : Layer) (member : layer ∈ p.layers) (d : Diagnostic)
      (own : layer.diagnostic = some d) : (Beside.level src src calls others).Steady d :=
    Beside.level_steady (constant layer member d own)
  have runs := Beside.tower_runs alike base steady
  rw [tower_base_layers] at runs
  have agrees := Beside.level_agrees start runs
  change Agrees calls others (p.run src ⟨start, calls⟩) (p.run src ⟨start, others⟩) at agrees
  rw [run] at agrees
  generalize p.run src ⟨start, others⟩ = again at agrees ⊢
  cases agrees with
  | ok a pos made => exact ⟨_, rfl⟩

end Parser

/-! ## What a session calls -/

/-- A run of a parser on the shelf, with the response to it. -/
structure Ran where
  parser : Nat
  src : Source
  start : Int
  reply : Reply

def Ran.step (ran : Ran) : Session.Step :=
  .parse ran.parser ran.src ran.start

def Ran.answer (ran : Ran) : Except Fault Session.Answer :=
  .ok (.value (.response ran.reply))

namespace Session

/-- All parsers on the shelf are filters put on bundled parsers by words. -/
def Worded (s : Session) : Prop :=
  ∀ made ∈ s.shelf, made.parser.Worded

/-- Whether a session answers the runs in order as they say, none of them raising. -/
def Answers (s : Session) (runs : List Ran) : Prop :=
  (s.run (runs.map Ran.step)).map (·.1.answer) = runs.map Ran.answer

/-- The session behind some runs. -/
def after (s : Session) (runs : List Ran) : Session :=
  runs.foldl (fun s ran => (s.step ran.step).2) s

/-- The diagnostic that a run is charged with: that of the innermost filter that rejects. -/
def diagnosing? (s : Session) (ran : Ran) : Option Diagnostic :=
  s.shelf[ran.parser]?.bind fun made => made.parser.diagnosing? ran.src ran.start

def charge (s : Session) (ran : Ran) : Option Nat :=
  (s.diagnosing? ran).map (·.number)

/-- Whether a run is charged to a diagnostic. -/
def charges (s : Session) (number : Nat) (ran : Ran) : Bool :=
  s.charge ran = some number

/-- A diagnostic of some filter on the shelf. -/
def Carries (s : Session) (d : Diagnostic) : Prop :=
  ∃ made ∈ s.shelf, ∃ layer ∈ made.parser.layers, layer.diagnostic = some d

/-- How often a diagnostic has been called. -/
def called (s : Session) (number : Nat) : Nat :=
  Diagnostic.count s.calls number

variable {s : Session} {ran : Ran} {runs rest : List Ran}

theorem step_ran (s : Session) (ran : Ran) :
    s.step ran.step = match s.shelf[ran.parser]? with
      | some made => match made.parser.run ran.src ⟨ran.start, s.calls⟩ with
        | .ok r t => (⟨.ok (.value (.response r)), []⟩, { s with calls := t.calls })
        | .error fault t => (⟨.error fault, []⟩, { s with calls := t.calls })
      | none => (⟨.error (.outOfRange .list), []⟩, s) := by
  simp only [step, Ran.step, parse, made, quietly]
  cases s.shelf[ran.parser]? with
  | none => rfl
  | some made =>
    simp only [Parser.parse]
    cases made.parser.run ran.src ⟨ran.start, s.calls⟩ <;> rfl

/-- A run is answered by the parser of its number. -/
theorem step_answered (answered : (s.step ran.step).1.answer = ran.answer) :
    ∃ made t, s.shelf[ran.parser]? = some made ∧
      made.parser.run ran.src ⟨ran.start, s.calls⟩ = .ok ran.reply t ∧
      (s.step ran.step).2 = { s with calls := t.calls } := by
  rw [step_ran] at answered ⊢
  cases found : s.shelf[ran.parser]? with
  | none => rw [found] at answered; cases answered
  | some made =>
    simp only [found] at answered ⊢
    cases run : made.parser.run ran.src ⟨ran.start, s.calls⟩ with
    | error fault t => rw [run] at answered; cases answered
    | ok r t =>
      rw [run] at answered
      injection answered with answered
      injection answered with answered
      injection answered with same
      rw [same] at run ⊢
      exact ⟨made, t, rfl, run, rfl⟩

theorem Worded.at (worded : s.Worded) {i : Nat} {made : Made} (found : s.shelf[i]? = some made) :
    made.parser.Worded :=
  worded made (List.mem_of_getElem? found)

theorem step_charged (worded : s.Worded) (answered : (s.step ran.step).1.answer = ran.answer) :
    (s.step ran.step).2 = { s with calls := (s.charge ran).toList ++ s.calls } ∧
    ∀ d, s.diagnosing? ran = some d → d.answer (s.called d.number + 1) = .ok ran.reply.error := by
  obtain ⟨made, t, found, run, next⟩ := step_answered answered
  have charged := (worded.at found).charged run
  have own : s.diagnosing? ran = made.parser.diagnosing? ran.src ran.start := by
    rw [diagnosing?, found, Option.bind_some]
  rw [← own] at charged
  rw [next, charged.calls]
  exact ⟨rfl, charged.error⟩

/-- Under diagnostics that always say the same, a run is answered at any time as at any other. -/
theorem step_again (worded : s.Worded) (constant : ∀ d, s.Carries d → d.Constant)
    (answered : (s.step ran.step).1.answer = ran.answer) (calls : List Nat) :
    (({ s with calls } : Session).step ran.step).1.answer = ran.answer := by
  obtain ⟨made, t, found, run, _⟩ := step_answered answered
  have own (layer : Layer) (member : layer ∈ made.parser.layers) (d : Diagnostic)
      (carried : layer.diagnostic = some d) : d.Constant :=
    constant d ⟨made, List.mem_of_getElem? found, layer, member, carried⟩
  obtain ⟨u, again⟩ := (worded.at found).run_again own run calls
  rw [step_ran]
  simp only [found, again]
  rfl

theorem carries_of_diagnosing {d : Diagnostic} (charged : s.diagnosing? ran = some d) :
    s.Carries d := by
  obtain ⟨made, found, rejected⟩ := Option.bind_eq_some_iff.mp charged
  obtain ⟨layer, first, carried⟩ := Option.bind_eq_some_iff.mp rejected
  refine ⟨made, List.mem_of_getElem? found, layer, ?_, carried⟩
  unfold Parser.rejecting? at first
  split at first
  · exact List.mem_of_find?_eq_some first
  · cases first

theorem called_charged {n : Nat} (charged : s.charge ran = some n) :
    ({ s with calls := (s.charge ran).toList ++ s.calls } : Session).called n = s.called n + 1 := by
  rw [charged]
  exact List.count_cons_self

theorem called_uncharged {n : Nat} (uncharged : s.charge ran ≠ some n) :
    ({ s with calls := (s.charge ran).toList ++ s.calls } : Session).called n = s.called n := by
  cases number : s.charge ran with
  | none => rfl
  | some m =>
    have other : m ≠ n := fun same => uncharged (number.trans (congrArg some same))
    exact List.count_cons_of_ne other

theorem answers_cons_iff : s.Answers (ran :: rest) ↔
    (s.step ran.step).1.answer = ran.answer ∧ (s.step ran.step).2.Answers rest := by
  simp only [Answers, List.map_cons, run, List.cons.injEq]

namespace Answers

theorem append {later : List Ran} (answers : s.Answers (runs ++ later)) :
    s.Answers runs ∧ (s.after runs).Answers later := by
  induction runs generalizing s with
  | nil => exact ⟨rfl, answers⟩
  | cons ran rest ih =>
    obtain ⟨first, others⟩ := answers_cons_iff.mp answers
    obtain ⟨here, there⟩ := ih others
    exact ⟨answers_cons_iff.mpr ⟨first, here⟩, there⟩

/-- Nothing but the calls changes, and those are the charges. -/
theorem after_eq (answers : s.Answers runs) (worded : s.Worded) :
    s.after runs = { s with calls := (runs.filterMap s.charge).reverse ++ s.calls } := by
  induction runs generalizing s with
  | nil => rfl
  | cons ran rest ih =>
    obtain ⟨first, others⟩ := answers_cons_iff.mp answers
    have later : s.after (ran :: rest) = (s.step ran.step).2.after rest := rfl
    rw [(step_charged worded first).1] at others later
    have charges : (({ s with calls := (s.charge ran).toList ++ s.calls } : Session).charge) =
        s.charge := rfl
    rw [later, ih others worded, charges]
    cases charge : s.charge ran <;> simp [charge]

theorem called_after (answers : s.Answers runs) (worded : s.Worded) (n : Nat) :
    (s.after runs).called n = s.called n + runs.countP (s.charges n) := by
  have tally : (runs.filterMap s.charge).count n = runs.countP (s.charges n) := by
    rw [List.count, List.countP_filterMap]
    apply List.countP_congr
    intro ran _
    cases number : s.charge ran <;> simp [charges, number]
  rw [after_eq answers worded, called, Diagnostic.count, List.count_append, List.count_reverse,
    tally, Nat.add_comm]
  rfl

/-- The errors of a diagnostic that numbers its calls, from the next call on. -/
theorem numbered (answers : s.Answers runs) (worded : s.Worded) {n : Nat}
    (numbers : ∀ d, s.Carries d → d.number = n → ∀ k, d.answer k = .ok (.int k)) :
    (runs.filter (s.charges n)).map (·.reply.error) =
      (List.range' (s.called n + 1) (runs.countP (s.charges n))).map
        fun (k : Nat) => .int k := by
  induction runs generalizing s with
  | nil => rfl
  | cons ran rest ih =>
    obtain ⟨first, others⟩ := answers_cons_iff.mp answers
    obtain ⟨next, error⟩ := step_charged worded first
    rw [next] at others
    have further := ih others worded numbers
    let s' : Session := { s with calls := (s.charge ran).toList ++ s.calls }
    change (rest.filter (s.charges n)).map (·.reply.error) =
      (List.range' (s'.called n + 1) (rest.countP (s.charges n))).map _ at further
    by_cases charged : s.charge ran = some n
    · -- The diagnostic gives the next number, and the rest of the runs count on from there.
      obtain ⟨d, diagnosing, rfl⟩ := Option.map_eq_some_iff.mp charged
      have own := numbers d (carries_of_diagnosing diagnosing) rfl (s.called d.number + 1)
      have said := (error d diagnosing).symm.trans own
      injection said with said
      have here : s.charges d.number ran = true := decide_eq_true charged
      rw [called_charged charged] at further
      rw [List.filter_cons_of_pos here, List.countP_cons_of_pos here, List.range'_succ,
        List.map_cons, List.map_cons, further, said]
    · have here : ¬s.charges n ran = true := fun yes => charged (of_decide_eq_true yes)
      rw [called_uncharged charged] at further
      rw [List.filter_cons_of_neg here, List.countP_cons_of_neg here, further]

/-- Under diagnostics that always say the same, runs are answered one by one. -/
theorem iff_each (worded : s.Worded) (constant : ∀ d, s.Carries d → d.Constant) :
    s.Answers runs ↔ ∀ ran ∈ runs, (s.step ran.step).1.answer = ran.answer := by
  induction runs generalizing s with
  | nil => exact ⟨nofun, fun _ => rfl⟩
  | cons ran rest ih =>
    rw [answers_cons_iff, List.forall_mem_cons]
    apply and_congr_right
    intro first
    rw [(step_charged worded first).1]
    let s' : Session := { s with calls := (s.charge ran).toList ++ s.calls }
    have afterwards : s'.Answers rest ↔ _ := ih worded constant
    rw [afterwards]
    -- Neither of the two sessions has called anything that the other's answers depend on.
    constructor
    · intro each later member
      exact step_again (s := s') worded constant (each later member) s.calls
    · intro each later member
      exact step_again worded constant (each later member) s'.calls

end Answers

/-- What some runs of a session do to its diagnostics. -/
structure Tallied (s : Session) (runs : List Ran) : Prop where
  /-- Each run calls the diagnostic it is charged to once, and no other. -/
  once : ∀ before ran rest, runs = before ++ ran :: rest →
    (s.after (before ++ [ran])).calls = (s.charge ran).toList ++ (s.after before).calls
  total : ∀ n, (s.after runs).called n = s.called n + runs.countP (s.charges n)
  /-- A diagnostic that numbers its calls gives the runs charged to it numbers without gaps. -/
  numbered : ∀ n, (∀ d, s.Carries d → d.number = n → ∀ k, d.answer k = .ok (.int k)) →
    (runs.filter (s.charges n)).map (·.reply.error) =
      (List.range' (s.called n + 1) (runs.countP (s.charges n))).map fun (k : Nat) => .int k
  /-- Where all diagnostics always say the same, the order of the runs does not show. -/
  order : (∀ d, s.Carries d → d.Constant) → ∀ others, others.Perm runs →
    s.Answers others ∧ ∀ n, (s.after others).called n = (s.after runs).called n

/-- **Diagnostics are called as often as their filters reject**, over any runs that raise nothing of
towers on bundled parsers, whatever the towers share. -/
theorem calls_tallied (worded : s.Worded) (answers : s.Answers runs) : s.Tallied runs where
  once := by
    rintro before ran rest rfl
    have split : before ++ ran :: rest = before ++ [ran] ++ rest := by
      rw [List.append_assoc, List.singleton_append]
    have here := answers.append.1
    rw [split] at answers
    have next := answers.append.1
    rw [next.after_eq worded, here.after_eq worded]
    cases number : s.charge ran <;> simp [number]
  total n := answers.called_after worded n
  numbered n numbers := answers.numbered worded numbers
  order constant others perm := by
    have each := (Answers.iff_each worded constant).mp answers
    have answers' : s.Answers others := by
      apply (Answers.iff_each worded constant).mpr
      intro ran member
      exact each ran (perm.subset member)
    refine ⟨answers', fun n => ?_⟩
    rw [answers'.called_after worded, answers.called_after worded, perm.countP_eq]

/-- A filter and its negation share a diagnostic, and both count on. -/
theorem calls_tallied_shared :
    let first := Session.empty.step (.define (.orElse (.eq .item (.text "a")) .nth))
    let s := (first.2.step (.define (.negate .word (.ref 0)))).2
    let runs : List Ran := [
      ⟨0, .ofText "b", 0, .failure none (some 0) (.int 1) none⟩,
      ⟨1, .ofText "a", 0, .failure none (some 0) (.int 2) none⟩,
      ⟨1, .ofText "ab", 1, .success none (.text "b") (some (1, 2))⟩,
      ⟨0, .ofText "ab", 1, .failure none (some 1) (.int 3) none⟩]
    s.Worded ∧ s.Answers runs ∧ s.Tallied runs ∧ (s.after runs).called 0 = 3 := by
  intro first s runs
  let d : Diagnostic := ⟨0, Diagnostic.Behaviour.nth.answer⟩
  have worded : s.Worded := by
    intro made member
    obtain rfl | member := List.mem_cons.mp member
    · exact ⟨.item, [.eq (.text "a"), .orElse d], .item, rfl⟩
    · obtain rfl := List.mem_singleton.mp member
      exact ⟨.item, [.eq (.text "a"), .orElse d, .negate .word], .item, rfl⟩
  have answers : s.Answers runs := rfl
  exact ⟨worded, answers, calls_tallied worded answers, rfl⟩

end Session

end Sluice
