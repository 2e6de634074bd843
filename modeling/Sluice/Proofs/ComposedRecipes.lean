import Sluice.Proofs.Inside
import Sluice.Recipe

/-!
What recipes make. A recipe of filters and sequences on bundled parsers makes a composed parser, or
is refused for a reason that has nothing to do with positions in a source.
-/
namespace Sluice

/-- Recipes for parsers put together from the bundled ones by filters and sequences. -/
inductive Recipe.Composed : Recipe → Prop where
  | item : Composed .item
  | blanks : Composed .blanks
  | integer : Composed .integer
  | take (amount : Int) : Composed (.take amount)
  | literal (patterns : List Value) : Composed (.literal patterns)
  | eq {inner : Recipe} (composed : Composed inner) (value : Value) : Composed (.eq inner value)
  | ne {inner : Recipe} (composed : Composed inner) (value : Value) : Composed (.ne inner value)
  | orElse {inner : Recipe} (composed : Composed inner) (answers : Diagnostic.Behaviour) :
      Composed (.orElse inner answers)
  | negate {inner : Recipe} (form : Parser.Negation) (composed : Composed inner) :
      Composed (.negate form inner)
  | filter {inner : Recipe} (direction : Direction) (composed : Composed inner) (value : Value)
      (answers : Option Diagnostic.Behaviour) : Composed (.filter direction inner value answers)
  | sequence {parts : List Recipe} (all : ∀ part ∈ parts, Composed part)
      (mode : Parser.OnFailure) (message : Option String) : Composed (.sequence parts mode message)

namespace Build

/-- A step of building that makes something good, or is refused for a reason that has nothing to do
with positions. -/
def Makes (good : α → Prop) (act : Build α) : Prop :=
  ∀ bench, match act bench with
    | .ok a _ => good a
    | .error fault _ => fault.indexes = false

namespace Makes

variable {good : α → Prop} {better : β → Prop}

theorem pure {a : α} (answer : good a) : Makes good (pure a) :=
  fun _ => answer

theorem throw {fault : Fault} (own : fault.indexes = false) :
    Makes good (throw fault : Build α) :=
  fun _ => own

theorem bind {x : Build α} {f : α → Build β} (first : Makes good x)
    (rest : ∀ a, good a → Makes better (f a)) : Makes better (x >>= f) := by
  intro bench
  have here := first bench
  rw [Action.bind_run]
  cases made : x bench with
  | ok a next =>
    rw [made] at here
    exact rest a here next
  | error fault next =>
    rw [made] at here
    exact here

theorem settle {x : Except Fault α} (answer : ∀ a, x = .ok a → good a)
    (own : ∀ fault, x = .error fault → fault.indexes = false) : Makes good (Build.settle x) := by
  intro bench
  cases x with
  | ok a => exact answer a rfl
  | error fault => exact own fault rfl

theorem mark : Makes Anything Build.mark :=
  fun _ => trivial

theorem register (answers : Diagnostic.Behaviour) :
    Makes Diagnostic.NoIndex (Build.register answers) := by
  intro bench n fault raised
  cases answers with
  | value v | nth => cases raised
  | raises kind text =>
    cases raised
    rfl

end Makes

/-- A composed parser that looks nothing up where there is no item. -/
def Steady (made : Made) : Prop :=
  made.parser.ComposedWith Diagnostic.NoIndex

theorem fresh_makes {p : Parser} (composed : p.ComposedWith Diagnostic.NoIndex) :
    Makes Steady (fresh p) :=
  Makes.mark.bind fun _ _ => .pure composed

theorem stack_makes {p : Parser} (inner : Made) (composed : p.ComposedWith Diagnostic.NoIndex) :
    Makes Steady (stack inner p) :=
  Makes.mark.bind fun _ _ => Makes.mark.bind fun _ _ => .pure composed

theorem vary_makes {x : Except Fault Parser} (filter : Made)
    (answer : ∀ p, x = .ok p → p.ComposedWith Diagnostic.NoIndex)
    (own : ∀ fault, x = .error fault → fault.indexes = false) : Makes Steady (vary filter x) :=
  (Makes.settle answer own).bind fun _ composed => Makes.mark.bind fun _ _ => .pure composed

end Build

namespace Parser

variable {kind : Diagnostic → Prop}

theorem ComposedWith.of_filter {p : Parser} {layer : Layer}
    (composed : (Parser.filter p layer).ComposedWith kind) :
    p.ComposedWith kind ∧ ∀ d, layer.diagnostic = some d → kind d := by
  generalize whole : Parser.filter p layer = q at composed
  cases composed with
  | item | blanks | integer | sequence => cases whole
  | take made =>
    obtain ⟨_, rfl⟩ := take_eq_ok made
    cases whole
  | literal made =>
    obtain ⟨_, rfl⟩ := literal_eq_ok made
    cases whole
  | filter inner own =>
    cases whole
    exact ⟨inner, own⟩

/-- A parser may have been put together from the bundled ones, and stays so whatever is said. -/
theorem ComposedWith.say {p q : Parser} (composed : p.ComposedWith kind) (word : Word)
    (own : ∀ d, word = .orElse d → kind d) (said : p.say word = .ok q) : q.ComposedWith kind := by
  cases word with
  | eq value | ne value =>
    cases said
    exact .filter composed nofun
  | orElse d =>
    rcases p with ⟨label, body⟩ | ⟨inner, direction, value, none | d'⟩ <;> cases said
    apply ComposedWith.filter composed.of_filter.1
    rintro _ ⟨⟩
    exact own d rfl
  | negate form =>
    rcases p with ⟨label, body⟩ | ⟨inner, ⟨⟩ | ⟨⟩, value, diagnostic⟩
    · cases form <;> cases said
    · cases said
      exact .filter composed.of_filter.1 composed.of_filter.2
    · cases said

/-- Words are refused for what the parser is. -/
theorem say_not_indexes {p : Parser} (word : Word) {fault : Fault}
    (refused : p.say word = .error fault) : fault.indexes = false := by
  cases word with
  | eq value | ne value => cases refused
  | orElse d =>
    rcases p with ⟨label, body⟩ | ⟨inner, direction, value, none | d'⟩ <;> cases refused <;> rfl
  | negate form =>
    rcases p with ⟨label, body⟩ | ⟨inner, ⟨⟩ | ⟨⟩, value, diagnostic⟩
    · cases form <;> cases refused <;> rfl
    · cases refused
    · cases refused
      rfl

theorem take_not_indexes {amount : Int} {fault : Fault} (refused : take amount = .error fault) :
    fault.indexes = false := by
  unfold take at refused
  split at refused
  · cases refused
    rfl
  · cases refused

theorem literal_not_indexes {patterns : List Value} {fault : Fault}
    (refused : literal patterns = .error fault) : fault.indexes = false := by
  unfold literal at refused
  split at refused
  · cases refused
    rfl
  · cases refused

end Parser

namespace Recipe

open Build (Makes Steady)

theorem diagnose_makes {filter : Made} (composed : Steady filter)
    (answers : Diagnostic.Behaviour) : Makes Steady (Build.diagnose filter answers) := by
  unfold Build.diagnose
  split
  · exact .throw rfl
  · apply (Makes.register answers).bind
    intro d own
    apply Build.vary_makes filter
    · intro p said
      apply Parser.ComposedWith.say composed (.orElse d) _ said
      rintro _ ⟨⟩
      exact own
    · intro fault refused
      exact Parser.say_not_indexes (.orElse d) refused

theorem registered_makes (answers : Option Diagnostic.Behaviour) :
    Makes (fun diagnostic => ∀ d, diagnostic = some d → d.NoIndex)
      (answers.mapM Build.register) := by
  cases answers with
  | none => exact .pure nofun
  | some answers =>
    change Makes _ (some <$> Build.register answers)
    rw [map_eq_pure_bind]
    apply (Makes.register answers).bind
    intro d own
    apply Makes.pure
    rintro _ ⟨⟩
    exact own

theorem buildAll_makes (shelf : List Made) {parts : List Recipe}
    (each : ∀ part ∈ parts, Makes Steady (part.build shelf)) :
    Makes (fun parsers => ∀ p ∈ parsers, Parser.ComposedWith Diagnostic.NoIndex p)
      (buildAll shelf parts) := by
  induction parts with
  | nil =>
    rw [buildAll]
    exact .pure nofun
  | cons part rest ih =>
    obtain ⟨first, others⟩ := List.forall_mem_cons.mp each
    rw [buildAll]
    apply first.bind
    intro made composed
    apply (ih others).bind
    intro parsers all
    exact .pure (List.forall_mem_cons.mpr ⟨composed, all⟩)

theorem Composed.makes {recipe : Recipe} (composed : recipe.Composed) (shelf : List Made) :
    Makes Steady (recipe.build shelf) := by
  induction composed with
  | item =>
    rw [build]
    exact .pure .item
  | blanks =>
    rw [build]
    exact .pure .blanks
  | integer =>
    rw [build]
    exact .pure .integer
  | take amount =>
    rw [build]
    apply (Makes.settle (fun _ made => made) fun _ => Parser.take_not_indexes).bind
    intro p made
    exact Build.fresh_makes (.take made)
  | literal patterns =>
    rw [build]
    apply (Makes.settle (fun _ made => made) fun _ => Parser.literal_not_indexes).bind
    intro p made
    exact Build.fresh_makes (.literal made)
  | eq inner value ih =>
    rw [build]
    apply ih.bind
    intro made composed
    exact Build.stack_makes made (.filter composed nofun)
  | ne inner value ih =>
    rw [build]
    apply ih.bind
    intro made composed
    exact Build.stack_makes made (.filter composed nofun)
  | orElse inner answers ih =>
    rw [build]
    apply ih.bind
    intro made composed
    exact diagnose_makes composed answers
  | negate form inner ih =>
    rw [build]
    apply ih.bind
    intro made composed
    apply Build.vary_makes made
    · intro p said
      exact composed.say (.negate form) nofun said
    · intro fault refused
      exact Parser.say_not_indexes (.negate form) refused
  | filter direction inner value answers ih =>
    rw [build]
    apply ih.bind
    intro made composed
    apply (registered_makes answers).bind
    intro diagnostic own
    exact Build.stack_makes made (.filter composed own)
  | sequence all mode message ih =>
    rw [build]
    apply (buildAll_makes shelf ih).bind
    intro parsers composed
    apply Build.fresh_makes
    apply Parser.ComposedWith.sequence
    intro part member
    obtain ⟨parser, there, rfl⟩ := List.mem_map.mp member
    exact composed parser there

end Recipe

end Sluice
