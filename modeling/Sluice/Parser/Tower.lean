import Sluice.Parser

/-!
Towers of filters: every parser is a base that is no filter with a list of filters on it. Running a
tower runs the base once and hands its response up from filter to filter.
-/
namespace Sluice.Parser

/-- The filters on a parser, from the innermost to the outermost. -/
def tower (base : Parser) (layers : List Layer) : Parser :=
  layers.foldl .filter base

def base : Parser → Parser
  | .fn label body => .fn label body
  | .filter inner _ => inner.base

def layers : Parser → List Layer
  | .fn .. => []
  | .filter inner layer => inner.layers ++ [layer]

theorem tower_append (p : Parser) (below above : List Layer) :
    p.tower (below ++ above) = (p.tower below).tower above :=
  List.foldl_append

theorem tower_base_layers (p : Parser) : p.base.tower p.layers = p := by
  induction p with
  | fn => rfl
  | filter inner layer ih => rw [base, layers, tower_append, ih]; rfl

theorem base_tower (p : Parser) (layers : List Layer) : (p.tower layers).base = p.base := by
  induction layers generalizing p with
  | nil => rfl
  | cons layer above ih => exact ih (p.filter layer)

/-- All that a filter can do to a success. -/
theorem apply_run (layer : Layer) (self : Identity) (data : Value) (range : Option (Int × Int))
    (s : Progress) :
    layer.apply (.success self data range) s = match layer.holds data with
      | .error fault => .error fault s
      | .ok true => .ok .kept s
      | .ok false => match layer.diagnostic with
        | none => .ok (.made (.failure none (range.map Prod.fst) .nothing none)) s
        | some d => match d.call s with
          | .ok error t => .ok (.made (.failure none (range.map Prod.fst) error none)) t
          | .error fault t => .error fault t := by
  unfold Layer.apply
  cases layer.diagnostic with
  | none =>
    simp only [Response.filter, Action.bind_run, Action.of_run]
    cases layer.holds data with
    | error fault => rfl
    | ok held => cases held <;> rfl
  | some d =>
    simp only [Response.filterOrElse, Action.bind_run, Action.of_run]
    cases layer.holds data with
    | error fault => rfl
    | ok held =>
      cases held with
      | true => rfl
      | false =>
        simp only [Bool.false_eq_true, if_false, Action.bind_run]
        cases d.call s <;> rfl

/-- All that a filter can do. -/
theorem narrow_run (layer : Layer) (r : Reply) (s : Progress) :
    layer.narrow r s = match r with
      | .failure .. => .ok r s
      | .success _ data range => match layer.holds data with
        | .error fault => .error fault s
        | .ok true => .ok r s
        | .ok false => match layer.diagnostic with
          | none => .ok (.failure none (range.map Prod.fst) .nothing none) s
          | some d => match d.call s with
            | .ok error t => .ok (.failure none (range.map Prod.fst) error none) t
            | .error fault t => .error fault t := by
  rw [Layer.narrow_eq, Action.bind_run]
  cases r with
  | failure =>
    unfold Layer.apply
    cases layer.diagnostic <;> rfl
  | success self data range =>
    rw [apply_run]
    dsimp only
    cases layer.holds data with
    | error fault => rfl
    | ok held =>
      cases held with
      | true => rfl
      | false =>
        cases layer.diagnostic with
        | none => rfl
        | some d =>
          dsimp only
          cases d.call s <;> rfl

section
variable {layer : Layer} {r r' : Reply} {self : Identity} {data : Value}
  {range : Option (Int × Int)} {s t : Progress}

theorem narrow_of_holds (passes : layer.holds data = .ok true) (s : Progress) :
    layer.narrow (.success self data range) s = .ok (.success self data range) s := by
  simp only [narrow_run, passes]

/-- A rejected value ends in a failure, with a diagnostic or without. -/
theorem holds_of_truthy (run : layer.narrow (.success self data range) s = .ok r t)
    (good : r.truthy = true) : layer.holds data = .ok true := by
  rw [narrow_run] at run
  dsimp only at run
  cases answer : layer.holds data with
  | error fault => rw [answer] at run; cases run
  | ok held =>
    rw [answer] at run
    cases held with
    | true => rfl
    | false =>
      dsimp only at run
      cases attached : layer.diagnostic with
      | none =>
        rw [attached] at run
        cases run
        cases good
      | some d =>
        rw [attached] at run
        dsimp only at run
        cases called : d.call s with
        | error fault u => rw [called] at run; cases run
        | ok error u =>
          rw [called] at run
          cases run
          cases good

/-- A filter that ends in a success was handed it, and has asked for no diagnostic. -/
theorem narrow_of_truthy (run : layer.narrow r s = .ok r' t) (good : r'.truthy = true) :
    r' = r ∧ t = s := by
  cases r with
  | failure =>
    rw [narrow_run] at run
    cases run
    exact ⟨rfl, rfl⟩
  | success self data range =>
    rw [narrow_of_holds (holds_of_truthy run good)] at run
    cases run
    exact ⟨rfl, rfl⟩

theorem narrow_of_failure (failure : r.truthy = false) (run : layer.narrow r s = .ok r' t) :
    r'.truthy = false := by
  rw [Bool.eq_false_iff]
  intro good
  obtain ⟨rfl, -⟩ := narrow_of_truthy run good
  rw [failure] at good
  cases good

end

/-- Filters do not read. -/
theorem narrow_stays (layer : Layer) (r : Reply) : Action.Stays (layer.narrow r) := by
  rcases layer with ⟨direction, value, none | d⟩ <;> refine .bind ?_ fun next => .pure _
  case none =>
    cases r with
    | failure => exact .pure _
    | success self data range =>
      refine .bind (.of _) fun held => ?_
      cases held <;> exact .pure _
  case some =>
    cases r with
    | failure => exact .pure _
    | success self data range =>
      refine .bind (.of _) fun held => ?_
      cases held with
      | true => exact .pure _
      | false => exact .bind d.call_stays fun error => .pure _

/-- A response handed up a tower. -/
def narrowAll : List Layer → Reply → Action Reply
  | [], r => pure r
  | layer :: above, r => do narrowAll above (← layer.narrow r)

/-- Filters pass a failure on as it is. -/
theorem narrowAll_failure (layers : List Layer) (self : Identity) (pos : Option Int)
    (error : Value) (message : Option String) (s : Progress) :
    narrowAll layers (.failure self pos error message) s =
      .ok (.failure self pos error message) s := by
  induction layers with
  | nil => rfl
  | cons layer above ih =>
    rw [narrowAll, Action.bind_run, narrow_run]
    exact ih

/-- The innermost filter that rejects decides. -/
theorem narrowAll_reached {below above : List Layer} {layer : Layer} {self : Identity}
    {data : Value} {range : Option (Int × Int)}
    (passed : ∀ inner ∈ below, inner.holds data = .ok true)
    (rejects : layer.holds data = .ok false) (s : Progress) :
    narrowAll (below ++ layer :: above) (.success self data range) s =
      layer.narrow (.success self data range) s := by
  induction below with
  | nil =>
    simp only [List.nil_append, narrowAll, Action.bind_run, narrow_run, rejects]
    cases layer.diagnostic with
    | none => exact narrowAll_failure _ _ _ _ _ _
    | some d =>
      dsimp only
      cases d.call s with
      | ok error t => exact narrowAll_failure _ _ _ _ _ _
      | error fault t => rfl
  | cons inner below ih =>
    obtain ⟨first, others⟩ := List.forall_mem_cons.mp passed
    simp only [List.cons_append, narrowAll, Action.bind_run, narrow_run, first]
    rw [ih others, narrow_run]

theorem run_tower (p : Parser) (layers : List Layer) (src : Source) :
    (p.tower layers).run src = (do narrowAll layers (← p.run src)) := by
  induction layers generalizing p with
  | nil => exact (bind_pure (p.run src)).symm
  | cons layer above ih =>
    change ((p.filter layer).tower above).run src = _
    rw [ih]
    simp only [run, narrowAll, bind_assoc]

theorem narrowAll_stays (layers : List Layer) (r : Reply) :
    Action.Stays (narrowAll layers r) := by
  induction layers generalizing r with
  | nil => exact .pure r
  | cons layer above ih => exact .bind (narrow_stays layer r) ih

theorem run_tower_pos (p : Parser) (layers : List Layer) (src : Source) (s : Progress) :
    (ending ((p.tower layers).run src s)).pos = (ending (p.run src s)).pos := by
  rw [run_tower, Action.bind_run]
  cases p.run src s with
  | ok r t => exact narrowAll_stays layers r t
  | error fault t => rfl

end Sluice.Parser
