import Sluice.Proofs.Atomicity
import Sluice.Proofs.Carets
import Sluice.Proofs.LineBreaks

/-!
Failures surfaced as errors. A parser that is asked to raise does what it does otherwise, and its
failure becomes an error that says why and where. Only a note that cannot be written keeps the error
back: far to the left of a text the caret would need a wider indent than there is.
-/
namespace Sluice

namespace Note

variable {note : Note}

/-- What a note is about stands before its heading, on lines of its own. -/
theorem write_eq (note : Note) : note.write = match note.excerpt with
    | none => .ok (note.message.elim "" (· ++ "\n") ++ note.heading)
    | some e => e.write.map fun shown =>
      note.message.elim "" (· ++ "\n") ++ note.heading ++ "\n" ++ shown := by
  rw [write]
  cases note.excerpt with
  | none =>
    cases note.message with
    | none => exact congrArg Except.ok String.empty_append.symm
    | some words => rfl
  | some e =>
    simp only [Option.toList_some, List.mapM_cons, List.mapM_nil]
    cases e.write with
    | error fault => rfl
    | ok shown =>
      cases note.message with
      | none =>
        simp only [Option.elim_none, String.empty_append]
        rfl
      | some words => rfl

theorem write_wordless (wordless : note.message = none) :
    note.write = match note.excerpt with
      | none => .ok note.heading
      | some e => e.write.map fun shown => note.heading ++ "\n" ++ shown := by
  simp only [write_eq, wordless, Option.elim_none, String.empty_append]

theorem write_illegible (wordless : note.message = none) (illegible : ¬note.Legible) :
    note.write = .error .unindentable := by
  obtain ⟨e, wide⟩ := Classical.not_forall.mp illegible
  obtain ⟨shown, wide⟩ := Classical.not_imp.mp wide
  rw [write_wordless wordless, shown]
  simp only [Excerpt.write, wide]
  rfl

/-- Starts with the position, and goes on with the line if there is more to say. -/
def Locates (pos : Int) (text : String) : Prop :=
  ∃ rest, text = "At position " ++ toString pos ++ rest ∧
    (rest = "" ∨ ∃ more, rest = " (line " ++ more)

theorem Locates.append {pos : Int} {text : String} {line : Nat} {more : String}
    (starts : text = "At position " ++ toString pos ++ (" (line " ++ toString line ++ more))
    (rest : String) : Locates pos (text ++ rest) := by
  refine ⟨_, ?_, .inr ⟨toString line ++ more ++ rest, rfl⟩⟩
  simp only [starts, String.append_assoc]

theorem write_locates {text : String} (wordless : note.message = none)
    (written : note.write = .ok text) : Locates note.pos text := by
  rw [write_wordless wordless] at written
  cases placed : note.place with
  | none =>
    have bare : note.excerpt = none := by rw [excerpt, placed, Option.bind_none]
    rw [bare] at written
    cases written
    refine ⟨"", ?_, .inl rfl⟩
    rw [heading, placed]
  | some place =>
    have starts : note.heading = "At position " ++ toString note.pos ++
        (" (line " ++ toString place.line ++ (", column " ++ toString place.column ++ ")")) := by
      simp only [heading, placed, String.append_assoc]
    cases shown : note.excerpt with
    | none =>
      rw [shown] at written
      cases written
      have whole := Locates.append starts ""
      rwa [String.append_empty] at whole
    | some e =>
      simp only [shown] at written
      cases drawn : e.write with
      | error fault => rw [drawn] at written; cases written
      | ok picture =>
        rw [drawn] at written
        cases written
        have whole := Locates.append starts ("\n" ++ picture)
        rwa [← String.append_assoc] at whole

end Note

/-! ## Which notes can be written -/

namespace Text

theorem afterNewline_le (cs : List Char) : afterNewline cs ≤ cs.length := by
  have inside := (List.takeWhile_prefix (l := cs.reverse) (· ≠ '\n')).length_le
  rwa [List.length_reverse] at inside

end Text

namespace Place

variable {cs : List Char} {pos : Int}

/-- To the left of the text a position counts from the end, and from where that leads to nothing it
counts alone. -/
theorem of_column_before (cs : List Char) (before : pos < 0) :
    (Place.of cs pos).column ≤ 0 ∧
    (pos + 1 ≤ (Place.of cs pos).column ∨ 1 - cs.length ≤ (Place.of cs pos).column) := by
  have length : (slice cs 0 pos).length = (pos + cs.length).toNat := by
    simp only [slice, List.length_take, List.length_drop]
    unfold clamp
    omega
  have inside := Text.afterNewline_le (slice cs 0 pos)
  simp only [Place.of, length] at inside ⊢
  omega

theorem excerptOf_before {line : List Char} {column : Int} (before : column ≤ 0) :
    excerptOf line column = some ⟨line.take (2 * reach), column - 1⟩ := by
  have short : column ≤ line.length := by omega
  have near : column ≤ reach := Int.le_trans before (Int.natCast_nonneg reach)
  rw [excerptOf, if_pos short, if_pos near]

/-- Left of everything the caret is indented by the position itself. -/
theorem of_left (filled : cs ≠ []) (left : pos + cs.length ≤ 0) :
    ∃ e, (Place.of cs pos).excerpt = some e ∧ e.indent = pos := by
  have nothing : slice cs 0 pos = [] := by
    apply List.eq_nil_of_length_eq_zero
    simp only [slice, List.length_take, List.length_drop]
    unfold clamp
    omega
  obtain ⟨line, rest, lines⟩ := List.exists_cons_of_ne_nil (Text.lines_ne_nil filled)
  have length : 0 < cs.length := List.length_pos_iff.mpr filled
  have column : pos - (0 - 0 - 1) = pos + 1 := by omega
  have shown : (Place.of cs pos).excerpt = excerptOf line (pos + 1) := by
    simp only [Place.of, nothing, lines, ← column]
    rfl
  rw [shown, excerptOf_before (by omega)]
  exact ⟨_, rfl, Int.add_sub_cancel pos 1⟩

end Place

/-- Whether a note about a position of a source can be written. -/
def Source.Notable (src : Source) (pos : Int) : Prop :=
  (Note.of (some src) pos none).Legible

namespace Source

variable {cs : List Char} {pos : Int}

theorem notable_text_iff : (Source.text cs).Notable pos ↔
    ∀ e, (Place.of cs (min pos cs.length)).excerpt = some e → fitsWord e.indent = true :=
  Iff.rfl

theorem notable_of_near (bounded : fitsWord (-cs.length) = true) (near : fitsWord pos = true) :
    (Source.text cs).Notable pos := by
  by_cases lo : 0 ≤ pos
  · exact Note.legible_of (.text cs) lo none
  · have clamped : min pos cs.length = pos := by omega
    rw [notable_text_iff, clamped]
    intro e shown
    obtain ⟨left, right⟩ := Place.of_column_before cs (Int.not_le.mp lo)
    obtain ⟨line, _, shown⟩ := Option.bind_eq_some_iff.mp shown
    change Place.excerptOf line (Place.of cs pos).column = some e at shown
    rw [Place.excerptOf_before left] at shown
    cases shown
    rw [fitsWord_iff] at bounded near ⊢
    dsimp only
    omega

theorem not_notable_of_far (filled : cs ≠ []) (bounded : fitsWord (-cs.length) = true)
    (before : pos < 0) (far : ¬fitsWord pos = true) : ¬(Source.text cs).Notable pos := by
  rw [fitsWord_iff] at bounded
  have left : pos + cs.length ≤ 0 := by
    rw [fitsWord_iff] at far
    omega
  have clamped : min pos cs.length = pos := by omega
  rw [notable_text_iff, clamped]
  intro notable
  obtain ⟨e, shown, indent⟩ := Place.of_left filled left
  have fits := notable e shown
  rw [indent] at fits
  exact far fits

/-- Only to the left of a text there are positions that no note can be written about, and there it
is those that no machine word holds. -/
theorem notable_iff {src : Source} (bounded : fitsWord (-src.length) = true) (pos : Int) :
    src.Notable pos ↔ ∀ cs, src = .text cs → cs = [] ∨ 0 ≤ pos ∨ fitsWord pos = true := by
  cases src with
  | bytes | list | tuple => exact ⟨fun _ => nofun, fun _ _ => nofun⟩
  | text cs =>
    constructor
    · rintro notable _ ⟨⟩
      by_cases filled : cs = []
      · exact .inl filled
      · by_cases lo : 0 ≤ pos
        · exact .inr (.inl lo)
        · by_cases near : fitsWord pos = true
          · exact .inr (.inr near)
          · have before : pos < 0 := Int.not_le.mp lo
            exact (not_notable_of_far filled bounded before near notable).elim
    · intro near
      rcases near cs rfl with rfl | lo | near
      · intro e shown
        cases shown
      · exact Note.legible_of (.text cs) lo none
      · exact notable_of_near bounded near

end Source

/-! ## Errors -/

namespace ParseError

/-- What an error says that a failure at a position surfaces as. -/
structure Tells (src : Source) (i : Int) (error : Value) (words : Option String)
    (e : ParseError) : Prop where
  /-- The failure's own words go before those of its diagnostic. -/
  message : e.message = match words with
    | some text => some text
    | none => if error.isNothing then none else some error.plain
  pos : e.pos = i
  hasSource : e.hasSource = true
  /-- The only note reports a position past the end as the end. -/
  note : ∃ text, e.notes = [text] ∧ Note.Locates (min i src.length) text
  cause : e.cause = match error with
    | .exception _ kind text => some (kind, text)
    | _ => none

variable {src : Source} {pos : Int}

theorem of_notable (notable : src.Notable pos) (message : Option String) :
    ∃ text, ParseError.of (some src) pos message = .ok ⟨message, pos, [text], true, none⟩ ∧
      Note.Locates (min pos src.length) text := by
  obtain ⟨text, written⟩ := Note.write_ok notable
  have wordless : (Note.of (some src) pos none).message = none := by cases src <;> rfl
  have place : (Note.of (some src) pos none).pos = min pos src.length := by cases src <;> rfl
  have located := Note.write_locates wordless written
  rw [place] at located
  refine ⟨text, ?_, located⟩
  simp only [ParseError.of, addNote, written]
  rfl

theorem of_not_notable (hidden : ¬src.Notable pos) (message : Option String) :
    ParseError.of (some src) pos message = .error .unindentable := by
  have wordless : (Note.of (some src) pos none).message = none := by cases src <;> rfl
  have refused := Note.write_illegible wordless hidden
  simp only [ParseError.of, addNote, refused]
  rfl

end ParseError

namespace Response

variable {src : Source} {self : Identity} {pos : Option Int} {error : Value}
  {message : Option String}

theorem unwrap_notable (notable : src.Notable (pos.getD 0)) :
    ∃ e, unwrap (some src) (.failure self pos error message) = .error (.surfaced e) ∧
      e.Tells src (pos.getD 0) error message := by
  obtain ⟨text, made, located⟩ := ParseError.of_notable notable (complaint error message)
  refine ⟨⟨complaint error message, pos.getD 0, [text], true, cause error⟩, ?_, ?_, rfl, rfl,
    ⟨text, rfl, located⟩, ?_⟩
  · simp only [unwrap, toError, made]
    rfl
  · cases message <;> rfl
  · cases error <;> rfl

theorem unwrap_not_notable (hidden : ¬src.Notable (pos.getD 0)) :
    unwrap (some src) (.failure self pos error message) = .error .unindentable := by
  have refused := ParseError.of_not_notable hidden (complaint error message)
  simp only [unwrap, toError, refused]
  rfl

/-- A failure has no value to return. -/
theorem unwrap_failure_ne_ok (v : Value) :
    unwrap (some src) (.failure self pos error message) ≠ .ok v := by
  by_cases notable : src.Notable (pos.getD 0)
  · obtain ⟨e, surfaced, _⟩ := unwrap_notable notable
    rw [surfaced]
    exact nofun
  · rw [unwrap_not_notable notable]
    exact nofun

end Response

namespace Parser

/-- What becomes of a run that is asked to raise. -/
structure Surfaces (p : Parser) (src : Source) (start : Int) (calls : List Nat) : Prop where
  /-- The run itself is the same, and calls the same diagnostics. -/
  run : (p.parseOrRaise src start calls).2 = (p.parse src start calls).2
  value : ∀ v, (p.parseOrRaise src start calls).1 = .ok v ↔
    ∃ self range, (p.parse src start calls).1 = .ok (.success self v range)
  raised : ∀ fault, (p.parse src start calls).1 = .error fault →
    (p.parseOrRaise src start calls).1 = .error fault
  /-- A failure becomes an error, if there is a note to it, and a complaint about the caret if not.
  -/
  failed : ∀ self pos error message,
    (p.parse src start calls).1 = .ok (.failure self pos error message) →
    (src.Notable (pos.getD 0) → ∃ e, (p.parseOrRaise src start calls).1 = .error (.surfaced e) ∧
      e.Tells src (pos.getD 0) error message) ∧
    (¬src.Notable (pos.getD 0) → (p.parseOrRaise src start calls).1 = .error .unindentable)
  /-- A rejected value is reported where it starts, in the words of the diagnostic of the innermost
  filter to reject it, while the stream stands behind it. -/
  rejected : ∀ self data range t below layer above d error,
    p.base.run src ⟨start, calls⟩ = .ok (.success self data range) t →
    p.layers = below ++ layer :: above → (∀ inner ∈ below, inner.holds data = .ok true) →
    layer.holds data = .ok false → layer.diagnostic = some d →
    d.answer (Diagnostic.count t.calls d.number + 1) = .ok error → src.Notable start →
    ∃ e, p.parseOrRaise src start calls =
        (.error (.surfaced e), { t with calls := d.number :: t.calls }) ∧
      e.Tells src start error none
  /-- There is no note for a position too far to the left of a text. -/
  notes : fitsWord (-src.length) = true → ∀ pos,
    src.Notable pos ↔ ∀ cs, src = .text cs → cs = [] ∨ 0 ≤ pos ∨ fitsWord pos = true

variable {p : Parser} {src : Source} {start : Int} {calls : List Nat}

theorem parse_rejected (composed : Composed p) {self : Identity} {data error : Value}
    {range : Option (Int × Int)} {t : Progress} {below above : List Layer} {layer : Layer}
    {d : Diagnostic} (ran : p.base.run src ⟨start, calls⟩ = .ok (.success self data range) t)
    (stacked : p.layers = below ++ layer :: above)
    (passed : ∀ inner ∈ below, inner.holds data = .ok true)
    (rejects : layer.holds data = .ok false) (diagnosed : layer.diagnostic = some d)
    (answered : d.answer (Diagnostic.count t.calls d.number + 1) = .ok error) :
    p.parse src start calls =
      (.ok (.failure none (some start) error none), { t with calls := d.number :: t.calls }) := by
  have whole := composed.base_allOrNothing src ⟨start, calls⟩
  obtain ⟨rfl, _⟩ := whole.parsed self data range t ran
  have called : d.call t = .ok error { t with calls := d.number :: t.calls } := by
    rw [Diagnostic.call_run, Diagnostic.count, List.count_cons_self]
    rw [Diagnostic.count] at answered
    rw [answered]
  have run : p.run src ⟨start, calls⟩ =
      .ok (.failure none (some start) error none) { t with calls := d.number :: t.calls } := by
    rw [← tower_base_layers p, run_tower, Action.bind_run, ran, stacked]
    dsimp only
    rw [narrowAll_reached passed rejects, narrow_run]
    simp only [rejects, diagnosed, called]
    rfl
  simp only [parse, run]

/-- **Failures surface**, and nothing else about a run changes. -/
theorem failures_surface (composed : Composed p) (src : Source) (start : Int)
    (calls : List Nat) : Surfaces p src start calls where
  run := rfl
  value v := by
    change (p.parse src start calls).1.bind (·.unwrap (some src)) = .ok v ↔ _
    cases (p.parse src start calls).1 with
    | error fault => exact ⟨nofun, nofun⟩
    | ok r =>
      cases r with
      | success self data range =>
        constructor
        · intro returned
          cases returned
          exact ⟨self, range, rfl⟩
        · rintro ⟨_, _, parsed⟩
          cases parsed
          rfl
      | failure self pos error message =>
        exact ⟨fun returned => (Response.unwrap_failure_ne_ok v returned).elim, nofun⟩
  raised fault raised := by
    change (p.parse src start calls).1.bind (·.unwrap (some src)) = .error fault
    rw [raised]
    rfl
  failed self pos error message failed := by
    change (_ → ∃ e, (p.parse src start calls).1.bind (·.unwrap (some src)) = _ ∧ _) ∧
      (_ → (p.parse src start calls).1.bind (·.unwrap (some src)) = _)
    rw [failed]
    exact ⟨Response.unwrap_notable, Response.unwrap_not_notable⟩
  rejected self data range t below layer above d error ran stacked passed rejects diagnosed
      answered notable := by
    have parsed := parse_rejected composed ran stacked passed rejects diagnosed answered
    obtain ⟨e, surfaced, tells⟩ :
        ∃ e, Response.unwrap (some src) (.failure none (some start) error none) =
          .error (.surfaced e) ∧ e.Tells src start error none := Response.unwrap_notable notable
    refine ⟨e, ?_, tells⟩
    simp only [parseOrRaise, parsed]
    exact Prod.ext surfaced rfl
  notes bounded pos := Source.notable_iff bounded pos

/-- A filter's diagnostic that is an exception is what the error is raised from, and the rejected
character is passed. -/
theorem failures_surface_rejected :
    let d : Diagnostic := ⟨0, (Diagnostic.Behaviour.value (.exception 0 .key "k")).answer⟩
    let p := item.filter ⟨.eq, .text "b", some d⟩
    Composed p ∧ Surfaces p (.ofText "a") 0 [] ∧
    ∃ e, p.parseOrRaise (.ofText "a") 0 [] = (.error (.surfaced e), ⟨1, [0]⟩) ∧
      e.message = some "'k'" ∧ e.pos = 0 ∧ e.cause = some (.key, "k") := by
  intro d p
  have composed : Composed p := .filter .item
  have surfaces := failures_surface composed (.ofText "a") 0 []
  refine ⟨composed, surfaces, ?_⟩
  have notable : (Source.ofText "a").Notable 0 := Note.legible_of _ (Int.le_refl 0) none
  obtain ⟨e, raised, tells⟩ := surfaces.rejected none (.text "a") (some (0, 1)) ⟨1, []⟩ []
    ⟨.eq, .text "b", some d⟩ [] d (.exception 0 .key "k") rfl rfl nofun rfl rfl rfl notable
  exact ⟨e, raised, tells.message, tells.pos, tells.cause⟩

/-- So far to the left of a text there is a failure, but no error to surface it as. -/
theorem failure_without_note :
    ∃ p, literal [.text "a"] = .ok p ∧ Composed p ∧
      (p.parse (.ofText "abc") (-9223372036854775809) []).1 =
        .ok (.failure none (some (-9223372036854775809)) .nothing (some "Expected 'a'.")) ∧
      ∀ e, (p.parseOrRaise (.ofText "abc") (-9223372036854775809) []).1 ≠ .error (.surfaced e) := by
  have made : literal [.text "a"] = .ok (.fn (.named "inner") (literalBody [.text "a"])) := rfl
  refine ⟨_, made, .literal made, rfl, ?_⟩
  intro e surfaced
  let p : Parser := .fn (.named "inner") (literalBody [.text "a"])
  have hidden : (p.parseOrRaise (.ofText "abc") (-9223372036854775809) []).1 =
      .error .unindentable := rfl
  cases hidden.symm.trans surfaced

end Parser

end Sluice
