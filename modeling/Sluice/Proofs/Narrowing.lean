import Sluice.Pipeline

/-!
What a response sent through steps asks of the functions in them. Whatever those functions do, to
each other and to the rest of the world, a success asks the one function of each step about its
data, keeps its range, and is rejected at most once; from then on the rejection goes through all
steps untouched and asks nothing.
-/
namespace Sluice.Pipeline

/-- A step with functions of the caller's. They may share a world, and may change it. -/
inductive Stage (World : Type) where
  | filter (p : Value → EStateM Fault World Value)
  | filterOrElse (p : Value → EStateM Fault World Value) (diagnose : EStateM Fault World Value)
  | map (f : Value → EStateM Fault World Value)

/-- A call of one of these functions, with what came of it. -/
inductive Call where
  | predicate (argument : Value) (answer : Except Fault Value)
  | diagnostic (answer : Except Fault Value)
  | mapping (argument : Value) (answer : Except Fault Value)

namespace Call

/-- A call about the data of a response. -/
def asks : Call → Bool
  | .diagnostic _ => false
  | _ => true

/-- A diagnostic that returned. -/
def diagnoses : Call → Bool
  | .diagnostic (.ok _) => true
  | _ => false

end Call

structure Record (World : Type) where
  world : World
  calls : List Call

variable {World : Type}

/-- What came of a call, without the world behind it. -/
def answered : EStateM.Result Fault World α → Except Fault α
  | .ok a _ => .ok a
  | .error fault _ => .error fault

/-- Puts a call on record, whatever comes of it. -/
def recorded (call : Except Fault Value → Call) (act : EStateM Fault World Value) :
    EStateM Fault (Record World) Value := fun w =>
  match act w.world with
  | .ok v world => .ok v ⟨world, w.calls ++ [call (.ok v)]⟩
  | .error fault world => .error fault ⟨world, w.calls ++ [call (.error fault)]⟩

namespace Stage

def asked (p : Value → EStateM Fault World Value) (v : Value) : EStateM Fault (Record World) Bool :=
  return (← recorded (.predicate v) (p v)).truthy

def perform (r : Reply) : Stage World → EStateM Fault (Record World) Response.Next
  | .filter p => r.filter (asked p)
  | .filterOrElse p diagnose => r.filterOrElse (asked p) (recorded .diagnostic diagnose)
  | .map f => r.map fun v => recorded (.mapping v) (f v)

end Stage

/-- A step that was taken: the response and the world it was given, what it called and came to, and
the response after it. -/
structure Entry (World : Type) where
  stage : Stage World
  before : Reply
  world : World
  calls : List Call
  outcome : Except Fault Response.Next
  after : Reply

/-- A step that raises hands on what it was given. -/
def Stage.take (r : Reply) (world : World) (stage : Stage World) : Entry World × World :=
  match stage.perform r ⟨world, []⟩ with
  | .ok next w => (⟨stage, r, world, w.calls, .ok next, next.reply r⟩, w.world)
  | .error fault w => (⟨stage, r, world, w.calls, .error fault, r⟩, w.world)

def send (r : Reply) (world : World) : List (Stage World) → List (Entry World)
  | [] => []
  | stage :: rest =>
    let (entry, world) := stage.take r world
    entry :: send entry.after world rest

/-- What a step hands on. -/
def Entry.handed (e : Entry World) : Reply :=
  match e.outcome with
  | .ok next => next.reply e.before
  | .error _ => e.before

/-! ## One step -/

/-- What a step does to a success. A rejection is put at the start of the range. -/
def Stage.Does (data : Value) (range : Option (Int × Int)) (world : World) (calls : List Call)
    (outcome : Except Fault Response.Next) : Stage World → Prop
  | .filter p =>
    let answer := answered (p data world)
    calls = [.predicate data answer] ∧ outcome = answer.map fun a =>
      if a.truthy then .kept else .made (.failure none (range.map Prod.fst) .nothing none)
  | .filterOrElse p diagnose => match answered (p data world) with
    | .error fault => calls = [.predicate data (.error fault)] ∧ outcome = .error fault
    | .ok a =>
      if a.truthy then calls = [.predicate data (.ok a)] ∧ outcome = .ok .kept
      else
        let said := answered (diagnose (ending (p data world)))
        calls = [.predicate data (.ok a), .diagnostic said] ∧ outcome = said.map fun error =>
          .made (.failure none (range.map Prod.fst) error none)
  | .map f =>
    let answer := answered (f data world)
    calls = [.mapping data answer] ∧ outcome = answer.map fun v => .made (.success none v range)

theorem recorded_run (call : Except Fault Value → Call) (act : EStateM Fault World Value)
    (w : Record World) :
    recorded call act w = match act w.world with
      | .ok v world => .ok v ⟨world, w.calls ++ [call (.ok v)]⟩
      | .error fault world => .error fault ⟨world, w.calls ++ [call (.error fault)]⟩ :=
  rfl

/-- A success comes out as a success of the same range, or as a failure; only of a failure some
diagnostic can be the reason. -/
inductive Stage.Leaves (range : Option (Int × Int)) (calls : List Call) : Reply → Prop where
  | success (self : Identity) (data : Value) (none_said : calls.countP Call.diagnoses = 0) :
      Leaves range calls (.success self data range)
  | failure (self : Identity) (pos : Option Int) (error : Value) (message : Option String)
      (one_said : calls.countP Call.diagnoses ≤ 1) :
      Leaves range calls (.failure self pos error message)

section
variable (stage : Stage World) (world : World)

theorem take_entry (r : Reply) :
    let e := (stage.take r world).1
    e.stage = stage ∧ e.before = r ∧ e.world = world ∧ e.after = e.handed := by
  unfold Stage.take
  cases stage.perform r ⟨world, []⟩ <;> exact ⟨rfl, rfl, rfl, rfl⟩

theorem take_failure {r : Reply} (failure : r.truthy = false) :
    stage.take r world = (⟨stage, r, world, [], .ok .kept, r⟩, world) := by
  cases r with
  | success => cases failure
  | failure => cases stage <;> rfl

/-- The one case analysis: what a step asks, comes to and leaves. -/
theorem take_success (self : Identity) (data : Value) (range : Option (Int × Int)) :
    let e := (stage.take (.success self data range) world).1
    stage.Does data range world e.calls e.outcome ∧ e.calls.countP Call.asks = 1 ∧
      Stage.Leaves range e.calls e.after := by
  cases stage with
  | filter p =>
    simp only [Stage.take, Stage.perform, Response.filter, Stage.asked, Action.bind_run,
      recorded_run, Stage.Does]
    cases p data world with
    | error fault world => exact ⟨⟨rfl, rfl⟩, rfl, .success _ _ rfl⟩
    | ok a world =>
      simp only [Action.pure_run, answered, Except.map]
      cases a.truthy with
      | true => exact ⟨⟨rfl, rfl⟩, rfl, .success _ _ rfl⟩
      | false => exact ⟨⟨rfl, rfl⟩, rfl, .failure _ _ _ _ (Nat.zero_le 1)⟩
  | filterOrElse p diagnose =>
    simp only [Stage.take, Stage.perform, Response.filterOrElse, Stage.asked, Action.bind_run,
      recorded_run, Stage.Does]
    cases p data world with
    | error fault world => exact ⟨⟨rfl, rfl⟩, rfl, .success _ _ rfl⟩
    | ok a world =>
      simp only [Action.pure_run, answered, ending]
      cases a.truthy with
      | true => exact ⟨⟨rfl, rfl⟩, rfl, .success _ _ rfl⟩
      | false =>
        simp only [Bool.false_eq_true, if_false, Action.bind_run, recorded_run]
        cases diagnose world with
        | ok error world => exact ⟨⟨rfl, rfl⟩, rfl, .failure _ _ _ _ (Nat.le_refl 1)⟩
        | error fault world => exact ⟨⟨rfl, rfl⟩, rfl, .success _ _ rfl⟩
  | map f =>
    simp only [Stage.take, Stage.perform, Response.map, Action.bind_run, recorded_run, Stage.Does]
    cases f data world with
    | ok v world => exact ⟨⟨rfl, rfl⟩, rfl, .success _ _ rfl⟩
    | error fault world => exact ⟨⟨rfl, rfl⟩, rfl, .success _ _ rfl⟩

end

/-! ## All steps -/

theorem send_cons (r : Reply) (world : World) (stage : Stage World) (rest : List (Stage World)) :
    send r world (stage :: rest) =
      (stage.take r world).1 :: send (stage.take r world).1.after (stage.take r world).2 rest :=
  rfl

/-- Nothing happens to a failure. -/
theorem send_failure {r : Reply} (failure : r.truthy = false) (world : World)
    (stages : List (Stage World)) :
    send r world stages = stages.map fun stage => ⟨stage, r, world, [], .ok .kept, r⟩ := by
  induction stages with
  | nil => rfl
  | cons stage rest ih => rw [send_cons, take_failure stage world failure, ih, List.map_cons]

/-- Every step takes on what the one before it handed on. -/
inductive Linked : Reply → List (Entry World) → Prop where
  | nil (r : Reply) : Linked r []
  | cons {e : Entry World} {rest : List (Entry World)} (handed : e.after = e.handed)
      (others : Linked e.after rest) : Linked e.before (e :: rest)

variable (world : World) (stages : List (Stage World))

theorem send_stages (r : Reply) : (send r world stages).map (·.stage) = stages := by
  induction stages generalizing r world with
  | nil => rfl
  | cons stage rest ih =>
    rw [send_cons, List.map_cons, ih, (take_entry stage world r).1]

theorem send_linked (r : Reply) : Linked r (send r world stages) := by
  induction stages generalizing r world with
  | nil => exact .nil r
  | cons stage rest ih =>
    obtain ⟨-, before, -, after⟩ := take_entry stage world r
    rw [send_cons]
    generalize stage.take r world = taken at before after ⊢
    subst before
    exact .cons after (ih taken.2 taken.1.after)

/-- All successes on the way have the range of the first. -/
theorem send_successes {self₀ : Identity} {data₀ : Value} {range : Option (Int × Int)} :
    ∀ e ∈ send (.success self₀ data₀ range) world stages, ∀ self data range',
      e.before = .success self data range' →
        range' = range ∧ e.stage.Does data range e.world e.calls e.outcome := by
  induction stages generalizing self₀ data₀ world with
  | nil =>
    intro e member
    cases member
  | cons stage rest ih =>
    obtain ⟨own, before, here, -⟩ := take_entry stage world (.success self₀ data₀ range)
    obtain ⟨does, -, leaves⟩ := take_success stage world self₀ data₀ range
    rw [send_cons]
    generalize stage.take (.success self₀ data₀ range) world = taken at *
    rcases taken with ⟨e, world'⟩
    refine List.forall_mem_cons.mpr ⟨?_, ?_⟩
    · intro self data range' found
      rw [before] at found
      cases found
      rw [own, here]
      exact ⟨rfl, does⟩
    · generalize e.after = after at *
      cases leaves with
      | success => exact ih world'
      | failure =>
        rw [send_failure rfl]
        intro f member self data range' found
        obtain ⟨stage, -, rfl⟩ := List.mem_map.mp member
        cases found

/-- A step that asked nothing and handed on the very object that it was given. -/
def Entry.Skipped (e : Entry World) : Prop :=
  e.calls = [] ∧ e.outcome = .ok .kept ∧ e.after = e.before

theorem send_skipped {r : Reply} (failure : r.truthy = false) :
    ∀ e ∈ send r world stages, e.before = r ∧ e.Skipped := by
  rw [send_failure failure]
  intro e member
  obtain ⟨stage, -, rfl⟩ := List.mem_map.mp member
  exact ⟨rfl, rfl, rfl, rfl⟩

/-- From a failure on there is only that failure. -/
theorem send_failed {r : Reply} {earlier later : List (Entry World)} {e : Entry World}
    (split : send r world stages = earlier ++ e :: later) (failure : e.before.truthy = false) :
    ∀ f ∈ e :: later, f.before = e.before ∧ f.Skipped := by
  induction stages generalizing r world earlier with
  | nil => cases earlier <;> cases split
  | cons stage rest ih =>
    cases earlier with
    | nil =>
      have first : e.before = r := by
        obtain ⟨rfl, -⟩ := List.cons.inj split
        exact (take_entry stage world r).2.1
      rw [first] at failure ⊢
      rw [← List.nil_append (e :: later), ← split]
      exact send_skipped world (stage :: rest) failure
    | cons => exact ih _ (List.cons.inj split).2

/-- The steps that a success reaches come first, and each of them asks once. -/
theorem send_asked (r : Reply) :
    ∃ reached skipped, send r world stages = reached ++ skipped ∧
      (∀ e ∈ reached, e.before.truthy = true ∧ e.calls.countP Call.asks = 1) ∧
      ∀ e ∈ skipped, e.before.truthy = false ∧ e.Skipped := by
  induction stages generalizing r world with
  | nil => exact ⟨[], [], rfl, List.forall_mem_nil _, List.forall_mem_nil _⟩
  | cons stage rest ih =>
    cases r with
    | failure self pos error message =>
      refine ⟨[], _, rfl, List.forall_mem_nil _, fun e member => ?_⟩
      obtain ⟨before, skipped⟩ := send_skipped world (stage :: rest) rfl e member
      exact ⟨congrArg Response.truthy before, skipped⟩
    | success self data range =>
      obtain ⟨-, before, -, -⟩ := take_entry stage world (.success self data range)
      obtain ⟨-, asks, -⟩ := take_success stage world self data range
      rw [send_cons]
      generalize stage.take (.success self data range) world = taken at before asks ⊢
      obtain ⟨reached, skipped, split, each, others⟩ := ih taken.2 taken.1.after
      refine ⟨taken.1 :: reached, skipped, ?_, ?_, others⟩
      · rw [split, List.cons_append]
      · exact List.forall_mem_cons.mpr ⟨⟨congrArg Response.truthy before, asks⟩, each⟩

theorem send_diagnosed (r : Reply) :
    ((send r world stages).flatMap (·.calls)).countP Call.diagnoses ≤ 1 := by
  have silent {r : Reply} (failure : r.truthy = false) (world : World)
      (stages : List (Stage World)) : (send r world stages).flatMap (·.calls) = [] :=
    List.flatMap_eq_nil_iff.mpr fun e member => (send_skipped world stages failure e member).2.1
  induction stages generalizing r world with
  | nil => exact Nat.zero_le 1
  | cons stage rest ih =>
    cases r with
    | failure =>
      rw [silent rfl]
      exact Nat.zero_le 1
    | success self data range =>
      obtain ⟨-, -, leaves⟩ := take_success stage world self data range
      rw [send_cons, List.flatMap_cons, List.countP_append]
      generalize stage.take (.success self data range) world = taken at leaves ⊢
      rcases taken with ⟨e, world'⟩
      dsimp only at leaves ⊢
      generalize e.after = after at leaves ⊢
      cases leaves with
      | success self data none_said =>
        rw [none_said, Nat.zero_add]
        exact ih world' _
      | failure self pos error message one_said =>
        rw [silent rfl]
        exact one_said

/-! ## Steps that can be written down -/

/-- A function that always says the same. -/
def told (answer : Except Fault α) : EStateM Fault World α := fun world =>
  match answer with
  | .ok a => .ok a world
  | .error fault => .error fault world

/-- The steps that hand on a response. The diagnostic of a step is called once at most. -/
def Step.stage? : Step → Option (Stage Unit)
  | .filter p => some (.filter fun v => told (p.apply v))
  | .filterOrElse p answers =>
    some (.filterOrElse (fun v => told (p.apply v)) (told (answers.answer 1)))
  | .map f => some (.map fun v => told (f.apply v))
  | _ => none

def Call.tested : Call → Option Value
  | .predicate argument _ => some argument
  | _ => none

def Call.isDiagnostic : Call → Bool
  | .diagnostic _ => true
  | _ => false

/-- What is told of a step. -/
def Entry.told (e : Entry World) : Outcome :=
  ⟨e.outcome.map .next, ⟨e.calls.filterMap Call.tested, e.calls.countP Call.isDiagnostic⟩⟩

theorem ask_run (p : Predicate) (v : Value) (asked : Asked) :
    ask p v asked = match p.apply v with
      | .ok a => .ok a.truthy { asked with arguments := asked.arguments ++ [v] }
      | .error fault => .error fault { asked with arguments := asked.arguments ++ [v] } := by
  change (settle (p.apply v) >>= _) _ = _
  cases p.apply v <;> rfl

theorem consult_run (answers : Diagnostic.Behaviour) (asked : Asked) :
    consult answers asked = match answers.answer (asked.calls + 1) with
      | .ok v => .ok v { asked with calls := asked.calls + 1 }
      | .error fault => .error fault { asked with calls := asked.calls + 1 } := by
  change settle (answers.answer (asked.calls + 1)) _ = _
  cases answers.answer (asked.calls + 1) <;> rfl

theorem step_run {step : Step} {stage : Stage Unit} (staged : step.stage? = some stage)
    (r : Reply) : step.run r = ((stage.take r ()).1.told, (stage.take r ()).1.after) := by
  cases step with
  | filter p =>
    cases staged
    cases r with
    | failure => rfl
    | success self data range =>
      simp only [Step.run, Step.perform, Response.filter, Stage.take, Stage.perform, Stage.asked,
        Action.bind_run, ask_run, recorded_run, told]
      cases p.apply data with
      | error fault => rfl
      | ok a =>
        dsimp only [Action.pure_run]
        cases a.truthy <;> rfl
  | filterOrElse p answers =>
    cases staged
    cases r with
    | failure => rfl
    | success self data range =>
      simp only [Step.run, Step.perform, Response.filterOrElse, Stage.take, Stage.perform,
        Stage.asked, Action.bind_run, ask_run, recorded_run, told]
      cases p.apply data with
      | error fault => rfl
      | ok a =>
        dsimp only [Action.pure_run]
        cases a.truthy with
        | true => rfl
        | false =>
          simp only [Bool.false_eq_true, if_false, Action.bind_run, consult_run, recorded_run, told]
          cases answers.answer 1 <;> rfl
  | map f =>
    cases staged
    cases r with
    | failure => rfl
    | success self data range =>
      simp only [Step.run, Step.perform, Response.map, Stage.take, Stage.perform, Action.bind_run,
        recorded_run, told]
      cases f.apply data <;> rfl
  | _ => cases staged

/-- Pipelines that are written down run as their steps are taken. -/
theorem run_eq_send {steps : List Step} {stages : List (Stage Unit)}
    (staged : steps.map Step.stage? = stages.map some) (r : Reply) :
    run r steps = (send r () stages).map fun e => (e.told, e.after) := by
  induction steps generalizing r stages with
  | nil =>
    cases stages with
    | nil => rfl
    | cons => cases staged
  | cons step rest ih =>
    cases stages with
    | nil => cases staged
    | cons stage stages =>
      obtain ⟨first, others⟩ := List.cons.inj staged
      rw [send_cons, List.map_cons, ← ih others, run, step_run first]

/-- What becomes of a response on its way through some steps. -/
structure Sent (initial : Reply) (stages : List (Stage World)) (entries : List (Entry World)) :
    Prop where
  stages : entries.map (·.stage) = stages
  linked : Linked initial entries
  /-- A success still has the range that the way began with, so that is where a rejection is put. -/
  success : ∀ e ∈ entries, ∀ self data range, e.before = .success self data range →
    (∃ self₀ data₀, initial = .success self₀ data₀ range) ∧
      e.stage.Does data range e.world e.calls e.outcome
  failure : ∀ earlier e later, entries = earlier ++ e :: later → e.before.truthy = false →
    ∀ f ∈ e :: later, f.before = e.before ∧ f.Skipped
  /-- Up to the rejection every step asks its function once, and behind it none is asked. -/
  asked : ∃ reached skipped, entries = reached ++ skipped ∧
    (∀ e ∈ reached, e.before.truthy = true ∧ e.calls.countP Call.asks = 1) ∧
    ∀ e ∈ skipped, e.before.truthy = false ∧ e.Skipped
  diagnosed : (entries.flatMap (·.calls)).countP Call.diagnoses ≤ 1

/-- **Steps ask until one rejects**, whatever the functions are and whatever they do to their world;
the steps that can be written down are such steps. -/
theorem steps_ask_until_rejection (initial : Reply) :
    (∀ (World : Type) (world : World) (stages : List (Stage World)),
      Sent initial stages (send initial world stages)) ∧
    ∀ steps stages, steps.map Step.stage? = stages.map some →
      run initial steps = (send initial () stages).map fun e => (e.told, e.after) := by
  refine ⟨fun World world stages => ?_, fun steps stages staged => run_eq_send staged initial⟩
  constructor
  · exact send_stages world stages initial
  · exact send_linked world stages initial
  · intro e member self data range found
    cases initial with
    | success self₀ data₀ range₀ =>
      obtain ⟨rfl, does⟩ := send_successes world stages e member self data range found
      exact ⟨⟨self₀, data₀, rfl⟩, does⟩
    | failure =>
      obtain ⟨before, -⟩ := send_skipped world stages rfl e member
      rw [found] at before
      cases before
  · exact fun earlier e later split failure => send_failed world stages split failure
  · exact send_asked world stages initial
  · exact send_diagnosed world stages initial

/-- A diagnostic that raises leaves the way open for the next one. -/
theorem steps_ask_until_rejection_raised :
    let initial : Reply := .success (some 0) (.int 5) (some (2, 3))
    let steps : List Step := [.map .negate, .filterOrElse (.equals (.int 5)) (.raises .value "no"),
      .filterOrElse (.differs (.int (-5))) .nth, .map .wrap]
    let negated : Reply := .success none (.int (-5)) (some (2, 3))
    let rejected : Reply := .failure none (some 2) (.int 1) none
    let stages := steps.filterMap Step.stage?
    (run initial steps).map Prod.snd = [negated, negated, rejected, rejected] ∧
      steps.map Step.stage? = stages.map some ∧ Sent initial stages (send initial () stages) ∧
      run initial steps = (send initial () stages).map fun e => (e.told, e.after) := by
  intro initial steps negated rejected stages
  obtain ⟨sent, written⟩ := steps_ask_until_rejection initial
  exact ⟨rfl, rfl, sent Unit () stages, written steps stages rfl⟩

end Sluice.Pipeline
