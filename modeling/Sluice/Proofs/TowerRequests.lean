import Sluice.Parser.Bundled
import Sluice.Parser.Tower

/-!
What a tower of filters asks for when it runs: the parser below it once, then one comparison after
the other up to the first that does not come out true, and the diagnostic of that filter alone.
Filters are numbered from the innermost.
-/
namespace Sluice

namespace Layer

/-- What the comparison with parsed data answers, be it a yes, a no or anything else. -/
def comparison (layer : Layer) (v : Value) : Except Fault Value :=
  match layer.direction with
  | .eq => v.equals layer.value
  | .ne => v.differs layer.value

variable {layer : Layer} {v : Value}

theorem holds_eq_comparison (layer : Layer) (v : Value) :
    layer.holds v = (layer.comparison v).map Value.truthy := by
  unfold holds comparison
  cases layer.direction <;> rfl

/-- A filter takes the answer for what it is worth in a condition. -/
theorem holds_ok_iff {held : Bool} : layer.holds v = .ok held ↔
    ∃ answer, layer.comparison v = .ok answer ∧ answer.truthy = held := by
  rw [holds_eq_comparison]
  cases layer.comparison v <;> simp [Except.map]

theorem holds_error_iff {fault : Fault} :
    layer.holds v = .error fault ↔ layer.comparison v = .error fault := by
  rw [holds_eq_comparison]
  cases layer.comparison v <;> simp [Except.map]

end Layer

namespace Parser

inductive Request where
  | read
  | comparison (layer : Nat)
  | diagnosis (layer : Nat)
  deriving DecidableEq, Repr

/-- The progress of a run with everything asked for so far, in order. -/
structure Watched where
  progress : Progress
  requests : List Request

def Watched.asked (w : Watched) (what : List Request) : Watched :=
  { w with requests := w.requests ++ what }

theorem Watched.asked_append (w : Watched) (first rest : List Request) :
    (w.asked first).asked rest = w.asked (first ++ rest) := by
  simp only [asked, List.append_assoc]

/-- The comparisons of `count` filters, one after the other. -/
def comparisons (first count : Nat) : List Request :=
  (List.range' first count).map .comparison

abbrev Watch := EStateM Fault Watched

namespace Watch

/-- The end of a run without the record of what it asked for. -/
def unrecorded : EStateM.Result Fault Watched α → EStateM.Result Fault Progress α
  | .ok a w => .ok a w.progress
  | .error fault w => .error fault w.progress

/-- Puts on record what is asked for, whatever comes of it. -/
def request (what : Request) (act : Action α) : Watch α := fun w =>
  match act w.progress with
  | .ok a t => .ok a ⟨t, w.requests ++ [what]⟩
  | .error fault t => .error fault ⟨t, w.requests ++ [what]⟩

/-- A watched step does what the step does. -/
def Follows (watched : Watch α) (act : Action α) : Prop :=
  ∀ w, unrecorded (watched w) = act w.progress

theorem Follows.pure (a : α) : Follows (pure a) (pure a) :=
  fun _ => rfl

theorem Follows.bind {watched : Watch α} {act : Action α} {next : α → Watch β}
    {next' : α → Action β} (first : Follows watched act) (rest : ∀ a, Follows (next a) (next' a)) :
    Follows (watched >>= next) (act >>= next') := by
  intro w
  simp only [Action.bind_run, ← first w]
  cases watched w with
  | ok a w => exact rest a w
  | error fault w => rfl

theorem request_follows (what : Request) (act : Action α) : Follows (request what act) act := by
  intro w
  simp only [request]
  cases act w.progress <;> rfl

end Watch

/-- A filter's narrowing, with its comparison and its diagnostic asked for on record. -/
def watchLayer (n : Nat) (layer : Layer) (r : Reply) : Watch Reply := do
  let holds (v : Value) : Watch Bool := Watch.request (.comparison n) (Action.of (layer.holds v))
  let next ← match layer.diagnostic with
    | none => r.filter holds
    | some d => r.filterOrElse holds (Watch.request (.diagnosis n) d.call)
  return next.reply r

/-- A response handed up a tower whose first filter is numbered `n`. -/
def watchLayers (n : Nat) : List Layer → Reply → Watch Reply
  | [], r => pure r
  | layer :: above, r => do watchLayers (n + 1) above (← watchLayer n layer r)

def watch (p : Parser) (layers : List Layer) (src : Source) : Watch Reply := do
  watchLayers 0 layers (← Watch.request .read (p.run src))

section
variable {asked : Value → Watch Bool} {holds : Value → Action Bool}

theorem filter_follows (comparison : ∀ v, Watch.Follows (asked v) (holds v)) (r : Reply) :
    Watch.Follows (r.filter asked) (r.filter holds) := by
  cases r with
  | failure => exact .pure _
  | success self data range =>
    refine .bind (comparison data) fun held => ?_
    cases held <;> exact .pure _

theorem filterOrElse_follows {consulted : Watch Value} {diagnose : Action Value}
    (comparison : ∀ v, Watch.Follows (asked v) (holds v))
    (diagnosis : Watch.Follows consulted diagnose) (r : Reply) :
    Watch.Follows (r.filterOrElse asked consulted) (r.filterOrElse holds diagnose) := by
  cases r with
  | failure => exact .pure _
  | success self data range =>
    refine .bind (comparison data) fun held => ?_
    cases held with
    | true => exact .pure _
    | false => exact .bind diagnosis fun error => .pure _

end

theorem watchLayer_follows (n : Nat) (layer : Layer) (r : Reply) :
    Watch.Follows (watchLayer n layer r) (layer.narrow r) := by
  have comparison (v : Value) :=
    Watch.request_follows (.comparison n) (Action.of (layer.holds v))
  rcases layer with ⟨direction, value, none | d⟩
  · exact .bind (filter_follows comparison r) fun next => .pure _
  · exact .bind (filterOrElse_follows comparison (Watch.request_follows _ d.call) r)
      fun next => .pure _

theorem watchLayers_follows (n : Nat) (layers : List Layer) (r : Reply) :
    Watch.Follows (watchLayers n layers r) (narrowAll layers r) := by
  induction layers generalizing n r with
  | nil => exact .pure r
  | cons layer above ih => exact .bind (watchLayer_follows n layer r) fun r => ih (n + 1) r

/-- Watching a tower does not change what it does. -/
theorem watch_follows (p : Parser) (layers : List Layer) (src : Source) :
    Watch.Follows (watch p layers src) ((p.tower layers).run src) := by
  rw [run_tower]
  exact .bind (Watch.request_follows _ _) fun r => watchLayers_follows 0 layers r

theorem watchLayer_failure (n : Nat) (layer : Layer) (self : Identity) (pos : Option Int)
    (error : Value) (message : Option String) (w : Watched) :
    watchLayer n layer (.failure self pos error message) w =
      .ok (.failure self pos error message) w := by
  rcases layer with ⟨direction, value, none | d⟩ <;> rfl

section
variable {n : Nat} {layer : Layer} {v : Value}

theorem watchLayer_passed (passed : layer.holds v = .ok true) (self : Identity)
    (range : Option (Int × Int)) (w : Watched) :
    watchLayer n layer (.success self v range) w =
      .ok (.success self v range) (w.asked [.comparison n]) := by
  rcases layer with ⟨direction, value, none | d⟩ <;>
    simp only [watchLayer, Response.filter, Response.filterOrElse, Action.bind_run,
      Watch.request, Action.of_run, passed, Action.pure_run] <;> rfl

theorem watchLayer_raised {fault : Fault} (raised : layer.holds v = .error fault)
    (self : Identity) (range : Option (Int × Int)) (w : Watched) :
    watchLayer n layer (.success self v range) w = .error fault (w.asked [.comparison n]) := by
  rcases layer with ⟨direction, value, none | d⟩ <;>
    simp only [watchLayer, Response.filter, Response.filterOrElse, Action.bind_run,
      Watch.request, Action.of_run, raised] <;> rfl

theorem watchLayer_silent (refused : layer.holds v = .ok false) (silent : layer.diagnostic = none)
    (self : Identity) (range : Option (Int × Int)) (w : Watched) :
    watchLayer n layer (.success self v range) w =
      .ok (.failure none (range.map Prod.fst) .nothing none) (w.asked [.comparison n]) := by
  simp only [watchLayer, silent, Response.filter, Action.bind_run, Watch.request, Action.of_run,
    refused, Action.pure_run]
  rfl

/-- The call counts before the diagnostic answers, so it is on record also when it raises. -/
theorem watchLayer_diagnosed {d : Diagnostic} (refused : layer.holds v = .ok false)
    (diagnosed : layer.diagnostic = some d) (self : Identity) (range : Option (Int × Int))
    (w : Watched) :
    watchLayer n layer (.success self v range) w =
      let asked := w.asked [.comparison n]
      let called := { asked.progress with calls := d.number :: asked.progress.calls }
      match d.answer (Diagnostic.count called.calls d.number) with
      | .ok error => .ok (.failure none (range.map Prod.fst) error none)
          ⟨called, asked.requests ++ [.diagnosis n]⟩
      | .error fault => .error fault ⟨called, asked.requests ++ [.diagnosis n]⟩ := by
  simp only [watchLayer, diagnosed, Response.filterOrElse, Action.bind_run, Watch.request,
    Action.of_run, refused, Action.pure_run, Bool.false_eq_true, if_false, Diagnostic.call_run,
    Watched.asked]
  cases d.answer (Diagnostic.count (d.number :: w.progress.calls) d.number) <;> rfl

end

theorem comparisons_succ (first count : Nat) :
    comparisons first (count + 1) = comparisons first count ++ [.comparison (first + count)] := by
  simp only [comparisons, List.range'_1_concat, List.map_append, List.map_cons, List.map_nil]

theorem watchLayers_failure (n : Nat) (layers : List Layer) (self : Identity) (pos : Option Int)
    (error : Value) (message : Option String) (w : Watched) :
    watchLayers n layers (.failure self pos error message) w =
      .ok (.failure self pos error message) w := by
  induction layers generalizing n with
  | nil => rfl
  | cons layer above ih =>
    simp only [watchLayers, Action.bind_run, watchLayer_failure, ih]

section
variable {v : Value} {below : List Layer} (passed : ∀ l ∈ below, l.holds v = .ok true)
include passed

/-- Filters that pass the data hand it on as it is. -/
theorem watchLayers_passed (n : Nat) (above : List Layer) (self : Identity)
    (range : Option (Int × Int)) (w : Watched) :
    watchLayers n (below ++ above) (.success self v range) w =
      watchLayers (n + below.length) above (.success self v range)
        (w.asked (comparisons n below.length)) := by
  induction below generalizing n w with
  | nil => simp only [List.nil_append, List.length_nil, comparisons, List.range'_zero,
      List.map_nil, Watched.asked, List.append_nil, Nat.add_zero]
  | cons layer below ih =>
    have first := passed layer List.mem_cons_self
    have rest := ih (fun l hl => passed l (List.mem_cons_of_mem _ hl)) (n + 1)
      (w.asked [.comparison n])
    simp only [List.cons_append, watchLayers, Action.bind_run, watchLayer_passed first, rest,
      Watched.asked_append, List.length_cons]
    congr 1
    omega

/-- At the innermost filter that does not pass the data, all comparisons up to its own have been
asked for. -/
theorem watchLayers_reached (layer : Layer) (above : List Layer) (self : Identity)
    (range : Option (Int × Int)) (t : Progress) :
    ∃ w : Watched,
      w.asked [.comparison below.length] = ⟨t, .read :: comparisons 0 (below.length + 1)⟩ ∧
      watchLayers 0 (below ++ layer :: above) (.success self v range) ⟨t, [.read]⟩ =
        (watchLayer below.length layer (.success self v range) >>=
          watchLayers (below.length + 1) above) w := by
  refine ⟨Watched.asked ⟨t, [.read]⟩ (comparisons 0 below.length), ?_, ?_⟩
  · rw [comparisons_succ, Nat.zero_add, Watched.asked_append]
    rfl
  · rw [watchLayers_passed passed, Nat.zero_add, watchLayers]

end

theorem watch_run (p : Parser) (layers : List Layer) (src : Source) (s : Progress) :
    watch p layers src ⟨s, []⟩ = match p.run src s with
      | .ok r t => watchLayers 0 layers r ⟨t, [.read]⟩
      | .error fault t => .error fault ⟨t, [.read]⟩ := by
  simp only [watch, Action.bind_run, Watch.request]
  cases p.run src s <;> rfl

/-- **A tower reads once and asks in order.** Watched, a tower does what it does unwatched. It ends
where the parser below it ends, hands a failure on without asking anything, and asks no filter
outside the innermost one that does not pass the data. -/
theorem tower_asks_in_order (p : Parser) (layers : List Layer) (src : Source) (s : Progress) :
    (p.tower layers).run src s = Watch.unrecorded (watch p layers src ⟨s, []⟩) ∧
    (ending ((p.tower layers).run src s)).pos = (ending (p.run src s)).pos ∧
    match p.run src s with
    | .error fault t => watch p layers src ⟨s, []⟩ = .error fault ⟨t, [.read]⟩
    | .ok (.failure self pos error message) t =>
      watch p layers src ⟨s, []⟩ = .ok (.failure self pos error message) ⟨t, [.read]⟩
    | .ok (.success self v range) t =>
      ((∀ layer ∈ layers, layer.holds v = .ok true) →
        watch p layers src ⟨s, []⟩ =
          .ok (.success self v range) ⟨t, .read :: comparisons 0 layers.length⟩) ∧
      ∀ below layer above, layers = below ++ layer :: above →
        (∀ l ∈ below, l.holds v = .ok true) →
        let requests := .read :: comparisons 0 (below.length + 1)
        (∀ fault, layer.holds v = .error fault →
          watch p layers src ⟨s, []⟩ = .error fault ⟨t, requests⟩) ∧
        (layer.holds v = .ok false → layer.diagnostic = none →
          watch p layers src ⟨s, []⟩ =
            .ok (.failure none (range.map Prod.fst) .nothing none) ⟨t, requests⟩) ∧
        ∀ d, layer.holds v = .ok false → layer.diagnostic = some d →
          let called := { t with calls := d.number :: t.calls }
          watch p layers src ⟨s, []⟩ =
            match d.answer (Diagnostic.count called.calls d.number) with
            | .ok error => .ok (.failure none (range.map Prod.fst) error none)
                ⟨called, requests ++ [.diagnosis below.length]⟩
            | .error fault => .error fault ⟨called, requests ++ [.diagnosis below.length]⟩ := by
  refine ⟨(watch_follows p layers src ⟨s, []⟩).symm, run_tower_pos p layers src s, ?_⟩
  rw [watch_run]
  cases p.run src s with
  | error fault t => rfl
  | ok r t =>
    cases r with
    | failure self pos error message =>
      exact watchLayers_failure 0 layers self pos error message _
    | success self v range =>
      refine ⟨fun passed => ?_, ?_⟩
      · have all := watchLayers_passed passed 0 [] self range ⟨t, [.read]⟩
        rwa [List.append_nil] at all
      · rintro below layer above rfl passed
        obtain ⟨w, asked, reached⟩ := watchLayers_reached passed layer above self range t
        simp only [reached, Action.bind_run]
        refine ⟨fun fault raised => ?_, fun refused silent => ?_, fun d refused diagnosed => ?_⟩
        · rw [watchLayer_raised raised, asked]
        · rw [watchLayer_silent refused silent, asked]
          exact watchLayers_failure _ above _ _ _ _ _
        · rw [watchLayer_diagnosed refused diagnosed, asked]
          dsimp only
          cases d.answer (Diagnostic.count (d.number :: t.calls) d.number) with
          | ok error => exact watchLayers_failure _ above _ _ _ _ _
          | error fault => rfl

/-- The innermost filter passes the letter, the next rejects it and asks for its diagnostic, and the
outermost, which could not be asked without raising, is not asked. -/
example :
    let d : Diagnostic := ⟨0, (Diagnostic.Behaviour.nth).answer⟩
    let layers : List Layer :=
      [⟨.eq, .text "a", none⟩, ⟨.ne, .text "a", some d⟩, ⟨.eq, .touchy 0 "asked", none⟩]
    watch item layers (.ofText "ab") ⟨⟨0, []⟩, []⟩ = .ok (.failure none (some 0) (.int 1) none)
      ⟨⟨1, [0]⟩, [.read, .comparison 0, .comparison 1, .diagnosis 1]⟩ :=
  rfl

end Parser

end Sluice
