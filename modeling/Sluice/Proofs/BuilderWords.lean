import Mathlib.Data.List.Induction
import Mathlib.Data.List.Perm.Basic
import Sluice.Parser.Tower
import Sluice.Session

/-!
Which builder words go together. Words fall into stretches: one that puts a filter on, and the
remarks about that filter up to the next. A filter takes one diagnostic and, if it checks for
equality, one negation, in either order. Anything more is refused, and the first refusal ends the
building.
-/
namespace Sluice

namespace Build

/-- One word about a parser on the workbench. -/
def say (made : Made) : Parser.Word → Build Made
  | .eq value => stack made (made.parser.eq value)
  | .ne value => stack made (made.parser.ne value)
  | .orElse d => vary made (made.parser.orElse d)
  | .negate form => vary made (made.parser.negate form)

/-- Words one after another, each about what the one before it made. -/
def sayAll (made : Made) (words : List Parser.Word) : Build Made :=
  words.foldlM say made

variable {made : Made} {q : Parser}

theorem say_ok {word : Parser.Word} (said : made.parser.say word = .ok q) (bench : Workbench) :
    ∃ built marks, say made word bench = .ok built { bench with marks } ∧ built.parser = q := by
  cases word with
  | eq value =>
    cases said
    exact ⟨_, bench.marks + 1 + 1, rfl, rfl⟩
  | ne value =>
    cases said
    exact ⟨_, bench.marks + 1 + 1, rfl, rfl⟩
  | orElse d =>
    change made.parser.orElse d = .ok q at said
    simp only [say, said]
    exact ⟨_, bench.marks + 1, rfl, rfl⟩
  | negate form =>
    change made.parser.negate form = .ok q at said
    simp only [say, said]
    exact ⟨_, bench.marks + 1, rfl, rfl⟩

/-- A refused word marks nothing. -/
theorem say_error {word : Parser.Word} {fault : Fault} (said : made.parser.say word = .error fault)
    (bench : Workbench) :
    say made word bench = .error fault { bench with log := bench.log ++ fault.logged?.toList } := by
  cases word with
  | eq value => cases said
  | ne value => cases said
  | orElse d =>
    change made.parser.orElse d = .error fault at said
    simp only [say, said]
    rfl
  | negate form =>
    change made.parser.negate form = .error fault at said
    simp only [say, said]
    rfl

theorem sayAll_append (before after : List Parser.Word) :
    sayAll made (before ++ after) = (do sayAll (← sayAll made before) after) :=
  List.foldlM_append

theorem sayAll_ok {words : List Parser.Word} (said : words.foldlM Parser.say made.parser = .ok q)
    (bench : Workbench) :
    ∃ built marks, sayAll made words bench = .ok built { bench with marks } ∧
      built.parser = q := by
  induction words generalizing made bench with
  | nil =>
    cases said
    exact ⟨made, bench.marks, rfl, rfl⟩
  | cons word rest ih =>
    rw [List.foldlM_cons] at said
    cases first : made.parser.say word with
    | error fault => rw [first] at said; cases said
    | ok p =>
      rw [first] at said
      obtain ⟨next, marks, here, rfl⟩ := say_ok first bench
      obtain ⟨built, marks', there, parser⟩ := ih said { bench with marks }
      refine ⟨built, marks', ?_, parser⟩
      rw [sayAll, List.foldlM_cons, Action.bind_run, here]
      exact there

end Build

namespace Recipe

/-! The words of a recipe are said on the workbench one by one. -/

theorem build_eq (shelf : List Made) (inner : Recipe) (value : Value) :
    build shelf (.eq inner value) = (do Build.say (← build shelf inner) (.eq value)) := by
  rw [build]
  rfl

theorem build_ne (shelf : List Made) (inner : Recipe) (value : Value) :
    build shelf (.ne inner value) = (do Build.say (← build shelf inner) (.ne value)) := by
  rw [build]
  rfl

theorem build_negate (shelf : List Made) (form : Parser.Negation) (inner : Recipe) :
    build shelf (.negate form inner) = (do Build.say (← build shelf inner) (.negate form)) := by
  rw [build]
  rfl

/-- A diagnostic is registered for a filter only, and before the filter may refuse it. -/
theorem diagnose_run (made : Made) (answers : Diagnostic.Behaviour) (bench : Workbench) :
    Build.diagnose made answers bench =
      let d : Diagnostic := ⟨bench.diagnostics, answers.answer⟩
      match made.parser with
      | .fn .. => Build.say made (.orElse d) bench
      | .filter .. =>
        Build.say made (.orElse d) { bench with diagnostics := bench.diagnostics + 1 } := by
  rcases made with ⟨⟨label, body⟩ | ⟨inner, layer⟩, mark, innerMark, valueMark⟩
  · let made : Made := ⟨.fn label body, mark, innerMark, valueMark⟩
    let d : Diagnostic := ⟨bench.diagnostics, answers.answer⟩
    have said : made.parser.say (.orElse d) = .error .takesNoDiagnostic := rfl
    have refused := Build.say_error said bench
    have unlogged : bench.log ++ Fault.takesNoDiagnostic.logged?.toList = bench.log :=
      List.append_nil _
    rw [unlogged] at refused
    exact refused.symm
  · rfl

end Recipe

/-- How often a filter can be negated. -/
def Direction.negatable : Direction → Nat
  | .eq => 1
  | .ne => 0

namespace Parser

/-- What can be said about a filter once it is there. -/
inductive Remark where
  | orElse (d : Diagnostic)
  | negate (form : Negation)

/-- What a refused word raises, and what the log says before. -/
structure Refusal where
  fault : Fault
  records : List String

namespace Remark

def word : Remark → Word
  | .orElse d => .orElse d
  | .negate form => .negate form

def diagnostic? : Remark → Option Diagnostic
  | .orElse d => some d
  | .negate _ => none

def negates : Remark → Bool
  | .orElse _ => false
  | .negate _ => true

/-- How a remark is refused by a filter, or where there is none. Without a filter the log says
nothing. -/
def refusal : Remark → Option Variant → Refusal
  | .orElse _, none => ⟨.takesNoDiagnostic, []⟩
  | .negate .word, none => ⟨.hasNoNegation, []⟩
  | .negate .sign, none => ⟨.hasNoNegationSign, []⟩
  | .orElse _, some variant =>
    ⟨.alreadyDiagnosed variant, ["Rejected a second or_else() on " ++ variant.name]⟩
  | .negate _, some variant =>
    ⟨.alreadyNegated variant, ["Rejected not_() on " ++ variant.name]⟩

theorem refusal_logged (r : Remark) (variant : Option Variant) :
    (r.refusal variant).fault.logged?.toList = (r.refusal variant).records := by
  rcases r with d | _ | _ <;> rcases variant with _ | variant <;> rfl

theorem say_fn (label : Label) (body : Source → Action Reply) (r : Remark) :
    (Parser.fn label body).say r.word = .error (r.refusal none).fault := by
  rcases r with d | _ | _ <;> rfl

end Remark

/-- The word that puts a filter on, and the remarks about this filter. -/
structure Stretch where
  direction : Direction
  value : Value
  remarks : List Remark

namespace Stretch

def opening (s : Stretch) : Word :=
  match s.direction with
  | .eq => .eq s.value
  | .ne => .ne s.value

def words (s : Stretch) : List Word :=
  s.opening :: s.remarks.map Remark.word

def diagnostics (s : Stretch) : List Diagnostic :=
  s.remarks.filterMap Remark.diagnostic?

def negations (s : Stretch) : Nat :=
  s.remarks.countP Remark.negates

/-- At most one diagnostic, and at most one negation, of an equality check only. -/
structure Fits (s : Stretch) : Prop where
  diagnosed : s.diagnostics.length ≤ 1
  negated : s.negations ≤ s.direction.negatable

/-- The filter that comes of it. -/
def layer (s : Stretch) : Layer where
  direction := if s.negations = 0 then s.direction else .ne
  value := s.value
  diagnostic := s.diagnostics.head?

def add (s : Stretch) (r : Remark) : Stretch :=
  { s with remarks := s.remarks ++ [r] }

variable {s : Stretch} {p : Parser}

theorem words_add (s : Stretch) (r : Remark) : (s.add r).words = s.words ++ [r.word] := by
  simp only [words, add, opening, List.map_append, List.map_cons, List.map_nil, List.cons_append]

theorem diagnostics_add (s : Stretch) (r : Remark) :
    (s.add r).diagnostics = s.diagnostics ++ r.diagnostic?.toList := by
  cases r <;> simp [diagnostics, add, Remark.diagnostic?]

theorem negations_add (s : Stretch) (r : Remark) :
    (s.add r).negations = s.negations + r.negates.toNat := by
  cases r <;> simp [negations, add, Remark.negates]

theorem fits_add_iff (s : Stretch) (r : Remark) :
    (s.add r).Fits ↔ s.diagnostics.length + r.diagnostic?.toList.length ≤ 1 ∧
      s.negations + r.negates.toNat ≤ s.direction.negatable := by
  rw [← List.length_append, ← diagnostics_add, ← negations_add]
  exact ⟨fun fits => ⟨fits.diagnosed, fits.negated⟩, fun ⟨diagnosed, negated⟩ =>
    ⟨diagnosed, negated⟩⟩

/-- Only remarks can be too many. -/
theorem fits_bare (direction : Direction) (value : Value) : Fits ⟨direction, value, []⟩ :=
  ⟨Nat.zero_le _, Nat.zero_le _⟩

theorem Fits.of_add {r : Remark} (fits : (s.add r).Fits) : s.Fits := by
  obtain ⟨diagnosed, negated⟩ := (fits_add_iff s r).mp fits
  exact ⟨by omega, by omega⟩

theorem layer_add_orElse (d : Diagnostic) (undiagnosed : s.diagnostics = []) :
    (s.add (.orElse d)).layer = { s.layer with diagnostic := some d } := by
  simp only [layer, diagnostics_add, negations_add, undiagnosed]
  rfl

theorem layer_add_negate (form : Negation) :
    (s.add (.negate form)).layer = { s.layer with direction := .ne } := by
  simp only [layer, diagnostics_add, negations_add, Remark.diagnostic?, Option.toList_none,
    List.append_nil]
  rfl

/-- A remark that fits in is heard. -/
theorem say_add {r : Remark} (fits : (s.add r).Fits) :
    (p.filter s.layer).say r.word = .ok (p.filter (s.add r).layer) := by
  obtain ⟨diagnosed, negated⟩ := (fits_add_iff s r).mp fits
  cases r with
  | orElse d =>
    have undiagnosed : s.diagnostics = [] := by
      apply List.eq_nil_of_length_eq_zero
      simp only [Remark.diagnostic?, Option.toList_some, List.length_singleton] at diagnosed
      omega
    have free : s.layer.diagnostic = none := by simp only [layer, undiagnosed, List.head?_nil]
    rw [layer_add_orElse d undiagnosed]
    simp only [say, Remark.word, Parser.orElse, free]
  | negate form =>
    have unnegated : s.layer.direction = .eq := by
      simp only [Remark.negates, Bool.toNat_true] at negated
      cases direction : s.direction with
      | eq =>
        rw [direction, Direction.negatable] at negated
        have none_yet : s.negations = 0 := by omega
        simp only [layer, none_yet, direction, if_true]
      | ne =>
        rw [direction, Direction.negatable] at negated
        omega
    rw [layer_add_negate]
    simp only [say, Remark.word, Parser.negate, unnegated]

/-- A remark that does not fit in is refused. -/
theorem say_excess {r : Remark} (fits : s.Fits) (excess : ¬(s.add r).Fits) :
    (p.filter s.layer).say r.word = .error (r.refusal (some s.layer.variant)).fault := by
  obtain ⟨diagnosed, negated⟩ := fits
  rw [fits_add_iff] at excess
  cases r with
  | orElse d =>
    simp only [Remark.diagnostic?, Option.toList_some, List.length_singleton, Remark.negates,
      Bool.toNat_false] at excess
    obtain ⟨d', rest, already⟩ : ∃ d' rest, s.diagnostics = d' :: rest := by
      apply List.exists_cons_of_length_pos
      omega
    have taken : s.layer.diagnostic = some d' := by simp only [layer, already, List.head?_cons]
    simp only [say, Remark.word, Parser.orElse, taken, Remark.refusal]
  | negate form =>
    simp only [Remark.diagnostic?, Option.toList_none, List.length_nil, Remark.negates,
      Bool.toNat_true] at excess
    have turned : s.layer.direction = .ne := by
      cases direction : s.direction with
      | eq =>
        rw [direction, Direction.negatable] at excess
        have some_yet : s.negations ≠ 0 := by omega
        simp only [layer, some_yet, if_false]
      | ne =>
        simp only [layer, direction, ite_self]
    simp only [say, Remark.word, Parser.negate, turned, Remark.refusal]

/-- The words of a stretch that fits put one filter on. -/
theorem Fits.say_words (fits : s.Fits) (p : Parser) :
    s.words.foldlM say p = .ok (p.filter s.layer) := by
  rcases s with ⟨direction, value, remarks⟩
  induction remarks using List.reverseRecOn with
  | nil => cases direction <;> rfl
  | append_singleton remarks r ih =>
    change ((⟨direction, value, remarks⟩ : Stretch).add r).Fits at fits
    change ((⟨direction, value, remarks⟩ : Stretch).add r).words.foldlM say p =
      .ok (p.filter ((⟨direction, value, remarks⟩ : Stretch).add r).layer)
    rw [words_add, List.foldlM_append, ih fits.of_add]
    change [r.word].foldlM say (p.filter (Stretch.layer ⟨direction, value, remarks⟩)) = _
    rw [List.foldlM_cons, say_add fits]
    rfl

/-- The order of the remarks about a filter makes no difference. -/
theorem layer_perm {remarks : List Remark} (fits : s.Fits) (perm : remarks.Perm s.remarks) :
    Fits { s with remarks } ∧ layer { s with remarks } = s.layer := by
  have negations : negations { s with remarks } = s.negations := perm.countP_eq _
  have reordered : (diagnostics { s with remarks }).Perm s.diagnostics :=
    perm.filterMap Remark.diagnostic?
  have diagnostics : diagnostics { s with remarks } = s.diagnostics := by
    have one := fits.diagnosed
    cases held : s.diagnostics with
    | nil =>
      rw [held] at reordered
      exact reordered.eq_nil
    | cons d rest =>
      have alone : rest = [] := by
        rw [held, List.length_cons] at one
        exact List.eq_nil_of_length_eq_zero (by omega)
      rw [held, alone] at reordered
      rw [alone]
      exact List.perm_singleton.mp reordered
  refine ⟨⟨?_, ?_⟩, ?_⟩
  · rw [diagnostics]
    exact fits.diagnosed
  · rw [negations]
    exact fits.negated
  · simp only [layer, diagnostics, negations]

end Stretch

def spell (stretches : List Stretch) : List Word :=
  stretches.flatMap Stretch.words

/-- Words that fall into stretches which all fit. -/
def Accepted (words : List Word) : Prop :=
  ∃ stretches, words = spell stretches ∧ ∀ s ∈ stretches, s.Fits

theorem say_spell {stretches : List Stretch} (fit : ∀ s ∈ stretches, s.Fits) (p : Parser) :
    (spell stretches).foldlM say p = .ok (p.tower (stretches.map Stretch.layer)) := by
  induction stretches generalizing p with
  | nil => rfl
  | cons s rest ih =>
    obtain ⟨first, others⟩ := List.forall_mem_cons.mp fit
    rw [spell, List.flatMap_cons, List.foldlM_append, first.say_words]
    exact ih others (p.filter s.layer)

theorem spell_concat (stretches : List Stretch) (s : Stretch) :
    spell (stretches ++ [s]) = spell stretches ++ s.words := by
  simp only [spell, List.flatMap_append, List.flatMap_singleton]

theorem Accepted.opening {words : List Word} (accepted : Accepted words) (direction : Direction)
    (value : Value) : Accepted (words ++ [(Stretch.mk direction value []).opening]) := by
  obtain ⟨stretches, rfl, fit⟩ := accepted
  refine ⟨stretches ++ [⟨direction, value, []⟩], (spell_concat _ _).symm, ?_⟩
  intro s member
  rcases List.mem_append.mp member with earlier | last
  · exact fit s earlier
  · rw [List.mem_singleton.mp last]
    exact Stretch.fits_bare direction value

/-- Of words that are not accepted, there is a first one that goes wrong, and this is a remark. -/
theorem exists_first_excess {before rest : List Word} (accepted : Accepted before)
    (refused : ¬Accepted (before ++ rest)) :
    ∃ heard r after, rest = heard ++ Remark.word r :: after ∧ Accepted (before ++ heard) ∧
      ¬Accepted (before ++ heard ++ [r.word]) := by
  induction rest generalizing before with
  | nil =>
    rw [List.append_nil] at refused
    exact absurd accepted refused
  | cons word rest ih =>
    have go_on (next : Accepted (before ++ [word])) : ∃ heard r after,
        word :: rest = heard ++ Remark.word r :: after ∧ Accepted (before ++ heard) ∧
          ¬Accepted (before ++ heard ++ [r.word]) := by
      rw [List.append_cons] at refused
      obtain ⟨heard, r, after, rfl, ok, excess⟩ := ih next refused
      refine ⟨word :: heard, r, after, rfl, ?_, ?_⟩
      · rwa [List.append_cons]
      · rwa [List.append_cons before word heard]
    have stop (r : Remark) (same : word = r.word) : ∃ heard r after,
        word :: rest = heard ++ Remark.word r :: after ∧ Accepted (before ++ heard) ∧
          ¬Accepted (before ++ heard ++ [r.word]) := by
      by_cases next : Accepted (before ++ [word])
      · exact go_on next
      · subst same
        refine ⟨[], r, rest, rfl, ?_, ?_⟩
        · rwa [List.append_nil]
        · rwa [List.append_nil]
    cases word with
    | eq value => exact go_on (accepted.opening .eq value)
    | ne value => exact go_on (accepted.opening .ne value)
    | orElse d => exact stop (.orElse d) rfl
    | negate form => exact stop (.negate form) rfl

/-- What a remark makes of a filter shares with it the parser and the value, and the diagnostic
unless it is a new one. -/
theorem share_say {filter built : Made} {r : Remark} {before after : Workbench}
    (said : Build.say filter r.word before = .ok built after) (part : Session.Part)
    (kept : part = .diagnostic → r.negates = true) : Session.share filter built part = true := by
  rcases filter with ⟨⟨label, body⟩ | ⟨inner, layer⟩, mark, innerMark, valueMark⟩
  · rw [Build.say_error (r.say_fn label body)] at said
    cases said
  · rcases layer with ⟨direction, value, diagnostic⟩
    cases r with
    | orElse d =>
      cases diagnostic with
      | some d' => cases said
      | none =>
        cases said
        cases part with
        | parser => simp [Session.share]
        | value => simp [Session.share]
        | diagnostic => cases kept rfl
    | negate form =>
      cases direction with
      | ne => cases said
      | eq =>
        cases said
        cases part <;> simp [Session.share]

/-- What a filter is like, where a parser is one. -/
def variant? : Parser → Option Variant
  | .fn .. => none
  | .filter _ layer => some layer.variant

/-- The first remark too many is refused by what the words before it have made. -/
theorem say_first_excess {before : List Word} {r : Remark} (accepted : Accepted before)
    (excess : ¬Accepted (before ++ [r.word])) (label : Label) (body : Source → Action Reply) :
    ∃ q, before.foldlM say (.fn label body) = .ok q ∧
      q.say r.word = .error (r.refusal q.variant?).fault := by
  obtain ⟨stretches, rfl, fit⟩ := accepted
  refine ⟨_, say_spell fit _, ?_⟩
  rcases List.eq_nil_or_concat' stretches with rfl | ⟨earlier, s, rfl⟩
  · exact r.say_fn label body
  · have fits : s.Fits := fit s (List.mem_append_right _ (List.mem_singleton_self s))
    have exceeds : ¬(s.add r).Fits := by
      intro more
      apply excess
      refine ⟨earlier ++ [s.add r], ?_, ?_⟩
      · simp only [spell_concat, Stretch.words_add, List.append_assoc]
      · intro t member
        rcases List.mem_append.mp member with before | last
        · exact fit t (List.mem_append_left _ before)
        · rw [List.mem_singleton.mp last]
          exact more
    rw [List.map_append, tower_append]
    exact Stretch.say_excess fits exceeds

section
variable {made : Made} {label : Label} {body : Source → Action Reply}
  (plain : made.parser = .fn label body) {words : List Word} (bench : Workbench)
include plain

theorem sayAll_spell {stretches : List Stretch} (fit : ∀ s ∈ stretches, s.Fits)
    (spelled : words = spell stretches) :
    ∃ built marks, Build.sayAll made words bench = .ok built { bench with marks } ∧
      built.parser = tower (.fn label body) (stretches.map Stretch.layer) := by
  subst spelled
  apply Build.sayAll_ok
  rw [plain]
  exact say_spell fit (.fn label body)

/-- Everything before the first remark too many is heard, and nothing after it. -/
theorem sayAll_excess (excluded : ¬Accepted words) :
    ∃ before r after sofar marks, words = before ++ Remark.word r :: after ∧
      Accepted before ∧ ¬Accepted (before ++ [r.word]) ∧
      Build.sayAll made before bench = .ok sofar { bench with marks } ∧
      let refusal := r.refusal sofar.parser.variant?
      let stopped := { bench with marks, log := bench.log ++ refusal.records }
      Build.say sofar r.word { bench with marks } = .error refusal.fault stopped ∧
      Build.sayAll made words bench = .error refusal.fault stopped := by
  have start : Accepted [] := ⟨[], rfl, nofun⟩
  rw [← List.nil_append words] at excluded
  obtain ⟨before, r, after, rfl, accepted, excess⟩ := exists_first_excess start excluded
  rw [List.nil_append] at accepted excess
  obtain ⟨q, heard, refusal⟩ := say_first_excess accepted excess label body
  rw [← plain] at heard
  obtain ⟨sofar, marks, said, rfl⟩ := Build.sayAll_ok heard bench
  have stopped := Build.say_error refusal { bench with marks }
  rw [Remark.refusal_logged] at stopped
  refine ⟨before, r, after, sofar, marks, rfl, accepted, excess, said, stopped, ?_⟩
  rw [Build.sayAll_append, Action.bind_run, said]
  simp only [Build.sayAll, List.foldlM_cons, Action.bind_run, stopped]

end

/-- **Builder words make towers.** Of words about a parser that is no filter, exactly those that
fall into fitting stretches make a parser, and this is a tower of one filter for each stretch.
Otherwise the first remark too many is refused, and nothing else is written to the log. In which
order the remarks about a filter come is all one, and what they make of a filter shares with it the
parser, the value and, where no diagnostic was added, the diagnostic. -/
theorem builder_words_make_towers (label : Label) (body : Source → Action Reply)
    (mark innerMark valueMark : Nat) (words : List Word) (bench : Workbench) :
    let made : Made := ⟨.fn label body, mark, innerMark, valueMark⟩
    ((∃ built after, Build.sayAll made words bench = .ok built after) ↔ Accepted words) ∧
    (∀ stretches : List Stretch, (∀ s ∈ stretches, s.Fits) → words = spell stretches →
      ∃ built marks, Build.sayAll made words bench = .ok built { bench with marks } ∧
        built.parser = tower (.fn label body) (stretches.map Stretch.layer)) ∧
    (¬Accepted words → ∃ before r after sofar marks, words = before ++ Remark.word r :: after ∧
      Accepted before ∧ ¬Accepted (before ++ [r.word]) ∧
      Build.sayAll made before bench = .ok sofar { bench with marks } ∧
      let refusal := r.refusal sofar.parser.variant?
      let stopped := { bench with marks, log := bench.log ++ refusal.records }
      Build.say sofar r.word { bench with marks } = .error refusal.fault stopped ∧
      Build.sayAll made words bench = .error refusal.fault stopped) ∧
    (∀ (s : Stretch) (remarks : List Remark), s.Fits → remarks.Perm s.remarks →
      Stretch.Fits { s with remarks } ∧ Stretch.layer { s with remarks } = s.layer) ∧
    (∀ (filter built : Made) (r : Remark) (before after : Workbench),
      Build.say filter r.word before = .ok built after →
      ∀ part, (part = .diagnostic → r.negates = true) →
        Session.share filter built part = true) := by
  intro made
  have plain : made.parser = .fn label body := rfl
  refine ⟨⟨?_, ?_⟩, fun _ fit spelled => sayAll_spell plain bench fit spelled,
    sayAll_excess plain bench, fun s remarks => Stretch.layer_perm, ?_⟩
  · rintro ⟨q, after, heard⟩
    by_contra excluded
    obtain ⟨_, r, _, sofar, marks, _, _, _, _, _, stopped⟩ := sayAll_excess plain bench excluded
    rw [stopped] at heard
    cases heard
  · rintro ⟨stretches, spelled, fit⟩
    obtain ⟨q, marks, heard, _⟩ := sayAll_spell plain bench fit spelled
    exact ⟨q, _, heard⟩
  · intro filter built r before after said part
    exact share_say said part

end Parser

/-! ## Words in recipes -/

namespace Recipe

open Sluice.Parser (Accepted Remark Stretch spell tower)

/-- A word of a recipe. It says how a diagnostic answers; its number comes from the workbench. -/
inductive Word where
  | eq (value : Value)
  | ne (value : Value)
  | orElse (answers : Diagnostic.Behaviour)
  | negate (form : Parser.Negation)

namespace Word

/-- The recipe that a word makes of another. -/
def about (inner : Recipe) : Word → Recipe
  | .eq value => .eq inner value
  | .ne value => .ne inner value
  | .orElse answers => .orElse inner answers
  | .negate form => .negate form inner

/-- The word as it is said on a workbench with so many diagnostics. -/
def numbered (next : Nat) : Word → Parser.Word
  | .eq value => .eq value
  | .ne value => .ne value
  | .orElse answers => .orElse ⟨next, answers.answer⟩
  | .negate form => .negate form

/-- Whether a word registers a diagnostic when it is said about a parser. -/
def registered (p : Parser) : Word → Bool
  | .orElse _ => match p with
    | .fn .. => false
    | .filter .. => true
  | _ => false

/-- The same for a word that is heard. -/
def registers : Word → Bool
  | .orElse _ => true
  | _ => false

theorem registered_of_heard {word : Word} {p q : Parser} {n : Nat}
    (heard : p.say (word.numbered n) = .ok q) : word.registered p = word.registers := by
  cases word with
  | orElse answers =>
    cases p with
    | fn => cases heard
    | filter => rfl
  | eq | ne | negate => rfl

end Word

/-- A recipe with words about it, one after another. -/
def worded (inner : Recipe) (words : List Word) : Recipe :=
  words.foldl Word.about inner

/-- Words as they are said one after another, if each is heard. -/
def numbered : Nat → List Word → List Parser.Word
  | _, [] => []
  | next, word :: rest => word.numbered next :: numbered (next + word.registers.toNat) rest

variable {shelf : List Made} {inner : Recipe} {made : Made} {start bench : Workbench}

/-- Building a recipe with a word is building the recipe and saying the word. -/
theorem build_about (built : inner.build shelf start = .ok made bench) (word : Word) :
    (word.about inner).build shelf start =
      Build.say made (word.numbered bench.diagnostics)
        { bench with diagnostics := bench.diagnostics + (word.registered made.parser).toNat } := by
  cases word with
  | eq value => rw [Word.about, build_eq, Action.bind_run, built]; rfl
  | ne value => rw [Word.about, build_ne, Action.bind_run, built]; rfl
  | negate form => rw [Word.about, build_negate, Action.bind_run, built]; rfl
  | orElse answers =>
    rw [Word.about, build, Action.bind_run, built]
    dsimp only
    rw [diagnose_run]
    rcases made with ⟨parser, mark, innerMark, valueMark⟩
    cases parser <;> rfl

theorem build_about_stopped {fault : Fault} (stopped : inner.build shelf start = .error fault bench)
    (word : Word) : (word.about inner).build shelf start = .error fault bench := by
  cases word with
  | eq value => rw [Word.about, build_eq, Action.bind_run, stopped]
  | ne value => rw [Word.about, build_ne, Action.bind_run, stopped]
  | negate form => rw [Word.about, build_negate, Action.bind_run, stopped]
  | orElse answers => rw [Word.about, build, Action.bind_run, stopped]

theorem build_worded_stopped {fault : Fault}
    (stopped : inner.build shelf start = .error fault bench) (words : List Word) :
    (inner.worded words).build shelf start = .error fault bench := by
  induction words generalizing inner with
  | nil => exact stopped
  | cons word rest ih => exact ih (build_about_stopped stopped word)

/-- Words that are heard register their diagnostics one after another. -/
theorem build_worded {q : Parser} {words : List Word}
    (built : inner.build shelf start = .ok made bench)
    (heard : (numbered bench.diagnostics words).foldlM Parser.say made.parser = .ok q) :
    ∃ result marks, (inner.worded words).build shelf start = .ok result
        ⟨bench.diagnostics + words.countP Word.registers, marks, bench.log⟩ ∧
      result.parser = q := by
  induction words generalizing inner made bench with
  | nil =>
    cases heard
    exact ⟨made, bench.marks, built, rfl⟩
  | cons word rest ih =>
    rw [numbered, List.foldlM_cons] at heard
    cases first : made.parser.say (word.numbered bench.diagnostics) with
    | error fault => rw [first] at heard; cases heard
    | ok p =>
      rw [first] at heard
      have step := build_about built word
      rw [Word.registered_of_heard first] at step
      obtain ⟨next, marks, here, rfl⟩ := Build.say_ok first
        { bench with diagnostics := bench.diagnostics + word.registers.toNat }
      rw [here] at step
      obtain ⟨result, marks', there, parser⟩ := ih step heard
      have counted : (word :: rest).countP Word.registers =
          word.registers.toNat + rest.countP Word.registers := by
        rw [List.countP_cons, Nat.add_comm]
        cases word.registers <;> rfl
      refine ⟨result, marks', ?_, parser⟩
      rw [counted, ← Nat.add_assoc]
      exact there

theorem build_worded_refused {fault : Fault} {words : List Word}
    (built : inner.build shelf start = .ok made bench)
    (refused : (numbered bench.diagnostics words).foldlM Parser.say made.parser = .error fault) :
    ∃ diagnostics marks, (inner.worded words).build shelf start =
      .error fault ⟨diagnostics, marks, bench.log ++ fault.logged?.toList⟩ := by
  induction words generalizing inner made bench with
  | nil => cases refused
  | cons word rest ih =>
    rw [numbered, List.foldlM_cons] at refused
    have step := build_about built word
    cases first : made.parser.say (word.numbered bench.diagnostics) with
    | error own =>
      rw [first] at refused
      cases refused
      rw [Build.say_error first] at step
      exact ⟨_, _, build_worded_stopped step rest⟩
    | ok p =>
      rw [first] at refused
      rw [Word.registered_of_heard first] at step
      obtain ⟨next, marks, here, rfl⟩ := Build.say_ok first
        { bench with diagnostics := bench.diagnostics + word.registers.toNat }
      rw [here] at step
      obtain ⟨diagnostics, marks', stopped⟩ := ih step refused
      exact ⟨diagnostics, marks', stopped⟩

section
variable {label : Label} {body : Source → Action Reply} (plain : made.parser = .fn label body)
  (built : inner.build shelf start = .ok made bench) {words : List Word}
include plain built

theorem build_worded_spell {stretches : List Stretch} (fit : ∀ s ∈ stretches, s.Fits)
    (spelled : numbered bench.diagnostics words = spell stretches) :
    ∃ result marks, (inner.worded words).build shelf start = .ok result
        ⟨bench.diagnostics + words.countP Word.registers, marks, bench.log⟩ ∧
      result.parser = tower (.fn label body) (stretches.map Stretch.layer) := by
  apply build_worded built
  rw [spelled, plain]
  exact Parser.say_spell fit (.fn label body)

theorem build_worded_excess (excluded : ¬Accepted (numbered bench.diagnostics words)) :
    ∃ before r after sofar, numbered bench.diagnostics words = before ++ Remark.word r :: after ∧
      Accepted before ∧ ¬Accepted (before ++ [r.word]) ∧
      before.foldlM Parser.say made.parser = .ok sofar ∧
      ∃ diagnostics marks,
        let refusal := r.refusal sofar.variant?
        (inner.worded words).build shelf start =
          .error refusal.fault ⟨diagnostics, marks, bench.log ++ refusal.records⟩ := by
  have none_yet : Accepted [] := ⟨[], rfl, nofun⟩
  obtain ⟨before, r, after, split, accepted, excess⟩ :=
    Parser.exists_first_excess none_yet excluded
  rw [List.nil_append] at accepted excess
  obtain ⟨sofar, heard, refusal⟩ := Parser.say_first_excess accepted excess label body
  rw [← plain] at heard
  refine ⟨before, r, after, sofar, split, accepted, excess, heard, ?_⟩
  have stops : (numbered bench.diagnostics words).foldlM Parser.say made.parser =
      .error (r.refusal sofar.variant?).fault := by
    rw [split, List.foldlM_append, heard]
    change (r.word :: after).foldlM Parser.say sofar = _
    rw [List.foldlM_cons, refusal]
    rfl
  obtain ⟨diagnostics, marks, stopped⟩ := build_worded_refused built stops
  rw [Remark.refusal_logged] at stopped
  exact ⟨diagnostics, marks, stopped⟩

/-- **Recipes with words make towers** as the words do that are said on the workbench: a recipe for
a parser that is no filter can be built with exactly those words that fall into fitting stretches,
and the first remark too many is refused. -/
theorem worded_makes_towers :
    ((∃ result after, (inner.worded words).build shelf start = .ok result after) ↔
      Accepted (numbered bench.diagnostics words)) ∧
    (∀ stretches : List Stretch, (∀ s ∈ stretches, s.Fits) →
      numbered bench.diagnostics words = spell stretches →
      ∃ result marks, (inner.worded words).build shelf start = .ok result
          ⟨bench.diagnostics + words.countP Word.registers, marks, bench.log⟩ ∧
        result.parser = tower (.fn label body) (stretches.map Stretch.layer)) ∧
    (¬Accepted (numbered bench.diagnostics words) →
      ∃ before r after sofar, numbered bench.diagnostics words = before ++ Remark.word r :: after ∧
        Accepted before ∧ ¬Accepted (before ++ [r.word]) ∧
        before.foldlM Parser.say made.parser = .ok sofar ∧
        ∃ diagnostics marks,
          let refusal := r.refusal sofar.variant?
          (inner.worded words).build shelf start =
            .error refusal.fault ⟨diagnostics, marks, bench.log ++ refusal.records⟩) := by
  refine ⟨⟨?_, ?_⟩, fun _ fit spelled => build_worded_spell plain built fit spelled,
    build_worded_excess plain built⟩
  · rintro ⟨result, after, heard⟩
    by_contra excluded
    obtain ⟨_, _, _, _, _, _, _, _, _, _, stopped⟩ := build_worded_excess plain built excluded
    rw [stopped] at heard
    cases heard
  · rintro ⟨stretches, spelled, fit⟩
    obtain ⟨result, marks, heard, _⟩ := build_worded_spell plain built fit spelled
    exact ⟨result, _, heard⟩

end

/-- What a remark in a recipe makes of a filter shares with it what the word that is said does. -/
theorem share_worded {word : Word} {r : Remark} {built : Made} {after : Workbench}
    (before : inner.build shelf start = .ok made bench)
    (behind : (word.about inner).build shelf start = .ok built after)
    (remark : word.numbered bench.diagnostics = r.word) (part : Session.Part)
    (kept : part = .diagnostic → r.negates = true) : Session.share made built part = true := by
  rw [build_about before, remark] at behind
  exact Parser.share_say behind part kept

end Recipe

end Sluice
