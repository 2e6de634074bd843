import Sluice.Note

/-!
Where the caret of an excerpt stands. Columns of positions that are not negative are counted from
one, so the caret is never outside what can be written, and such a position always has its note.
-/
namespace Sluice

namespace Place

/-- The column is counted from behind the last newline. -/
theorem of_column {cs : List Char} {pos : Int} (lo : 0 ≤ pos) (hi : pos ≤ cs.length) :
    (Place.of cs pos).column = Text.afterNewline (slice cs 0 pos) + 1 := by
  have length : (slice cs 0 pos).length = pos.toNat := by
    rw [slice_of_le (Int.le_refl 0) lo hi]
    simp only [Int.toNat_zero, List.drop_zero, Int.sub_zero, List.length_take]
    omega
  simp only [Place.of, length]
  omega

theorem excerptOf_indent {line : List Char} {column : Int} {e : Excerpt} (lo : 1 ≤ column)
    (shown : excerptOf line column = some e) : 0 ≤ e.indent ∧ e.indent ≤ reach := by
  unfold excerptOf at shown
  split at shown
  · split at shown
    · cases shown
      constructor
      · dsimp only
        omega
      · dsimp only
        omega
    · cases shown
      exact ⟨Int.natCast_nonneg reach, Int.le_refl _⟩
  · cases shown

theorem of_indent {cs : List Char} {pos : Int} {e : Excerpt} (lo : 0 ≤ pos) (hi : pos ≤ cs.length)
    (shown : (Place.of cs pos).excerpt = some e) : 0 ≤ e.indent ∧ e.indent ≤ reach := by
  have column := of_column lo hi
  simp only [Place.of] at shown column
  obtain ⟨line, _, shown⟩ := Option.bind_eq_some_iff.mp shown
  rw [column] at shown
  exact excerptOf_indent (by omega) shown

end Place

theorem fitsWord_iff {i : Int} :
    fitsWord i = true ↔ -9223372036854775808 ≤ i ∧ i < 9223372036854775808 := by
  simp only [fitsWord, Bool.and_eq_true, decide_eq_true_eq]

/-- Carets within reach of the line's beginning can be written. -/
theorem Place.fitsWord_of_reach {i : Int} (lo : 0 ≤ i) (hi : i ≤ reach) : fitsWord i = true := by
  simp only [reach] at hi
  rw [fitsWord_iff]
  omega

theorem Excerpt.write_ok {e : Excerpt} (fits : fitsWord e.indent = true) :
    ∃ text, e.write = .ok text := by
  simp only [write, fits, if_true]
  exact ⟨_, rfl⟩

namespace Note

/-- A note whose caret, if it has one, can be put where it belongs. -/
def Legible (note : Note) : Prop :=
  ∀ e, note.excerpt = some e → fitsWord e.indent = true

theorem legible_of (src : Source) {pos : Int} (lo : 0 ≤ pos) (message : Option String) :
    (Note.of (some src) pos message).Legible := by
  intro e shown
  cases src with
  | text cs =>
    obtain ⟨left, right⟩ := Place.of_indent (by omega) (by omega) shown
    exact Place.fitsWord_of_reach left right
  | bytes | list | tuple => cases shown

theorem write_ok {note : Note} (legible : note.Legible) : ∃ text, note.write = .ok text := by
  unfold write
  cases shown : note.excerpt with
  | none => exact ⟨_, rfl⟩
  | some e =>
    obtain ⟨text, written⟩ := e.write_ok (legible e shown)
    simp only [Option.toList_some, List.mapM_cons, List.mapM_nil, written]
    exact ⟨_, rfl⟩

end Note

/-- An error that reports a position of a source, as it is first made. -/
def ParseError.IsMadeFor (src : Source) (error : ParseError) : Prop :=
  ParseError.of (some src) error.pos error.message = .ok error

/-- Only a position far to the left could be one that no note can be written for. -/
theorem ParseError.of_ok (src : Source) {pos : Int} (lo : 0 ≤ pos) (message : Option String) :
    ∃ error, ParseError.of (some src) pos message = .ok error ∧ error.IsMadeFor src ∧
      error.pos = pos ∧ error.message = message := by
  obtain ⟨text, written⟩ := Note.write_ok (Note.legible_of src lo none)
  have made : ParseError.of (some src) pos message = .ok ⟨message, pos, [text], true, none⟩ := by
    simp only [ParseError.of, ParseError.addNote, written]
    rfl
  exact ⟨_, made, made, rfl, rfl⟩

end Sluice
