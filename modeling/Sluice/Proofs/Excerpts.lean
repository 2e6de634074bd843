import Sluice.Proofs.LineBreaks
import Sluice.Proofs.Surfacing

/-!
What an excerpt shows. It is a piece of the line that a position is on, as long as the lines before
have no breaks but newlines, and otherwise a piece of some line before. As long as the line begins
within reach the caret stands under the character of the position, and further on it stands one
character behind.
-/
namespace Sluice

open Text (NewlinesOnly isBreak lineAt lineBegun lineShown lines linesBefore newlines)

namespace Place

/-- Forty characters of a line, from up to nineteen characters before a position on. -/
def window (line : List Char) (before : Nat) : List Char :=
  (line.drop (before - min before (reach - 1))).take (2 * reach)

theorem window_infix (line : List Char) (before : Nat) : window line before <:+: line :=
  (List.take_prefix _ _).isInfix.trans (List.drop_suffix _ _).isInfix

theorem getElem?_window (cs : List Char) (before : Nat) :
    (window cs before)[min before (reach - 1)]? = cs[before]? := by
  have near : min before (reach - 1) < 2 * reach := by
    simp only [reach]
    omega
  have place : before - min before (reach - 1) + min before (reach - 1) = before :=
    Nat.sub_add_cancel (Nat.min_le_left _ _)
  rw [window, List.getElem?_take_of_lt near, List.getElem?_drop, place]

/-- The caret goes up to one place further in than the position. -/
theorem excerptOf_natCast_succ (line : List Char) (before : Nat) :
    excerptOf line (before + 1) = if before < line.length then
        some ⟨window line before, (min before reach : Nat)⟩
      else none := by
  have fits : (before : Int) + 1 ≤ line.length ↔ before < line.length := by omega
  have near : (before : Int) + 1 ≤ reach ↔ before < reach := by omega
  simp only [excerptOf, fits, near]
  split
  · rename_i inside
    split
    · rename_i within
      have start : before - min before (reach - 1) = 0 := by omega
      have indent : (before : Int) + 1 - 1 = (min before reach : Nat) := by omega
      rw [window, start, indent, List.drop_zero]
    · rename_i beyond
      have first : clamp line.length (before + 1 - reach) = before - min before (reach - 1) := by
        simp only [reach] at beyond ⊢
        rw [clamp_of_le (by omega) (by omega)]
        omega
      have width : min (clamp line.length (before + 1 + reach) - (before - min before (reach - 1)))
            (line.drop (before - min before (reach - 1))).length =
          min (2 * reach) (line.drop (before - min before (reach - 1))).length := by
        simp only [reach, List.length_drop] at beyond ⊢
        unfold clamp
        omega
      have indent : min before reach = reach := by omega
      rw [slice, window, first, List.take_eq_take_iff.mpr width, indent]
  · rfl

/-- What a position inside a text gets, counted from the last newline before it. -/
theorem of_natCast {cs : List Char} {pos : Nat} (inside : pos ≤ cs.length) :
    Place.of cs pos = ⟨newlines (cs.take pos) + 1, (lineBegun cs pos).length + 1,
      (lines cs)[newlines (cs.take pos)]?.bind (excerptOf · ((lineBegun cs pos).length + 1))⟩ := by
  have before : slice cs 0 pos = cs.take pos := slice_from_zero inside
  have length : (cs.take pos).length = pos := List.length_take_of_le inside
  have column : (pos : Int) - (pos - (lineBegun cs pos).length - 1) =
      (lineBegun cs pos).length + 1 := by omega
  simp only [Place.of, before, length, ← Text.length_lineBegun, column]

theorem excerptOf_infix {line : List Char} {before : Nat} {e : Excerpt}
    (shown : excerptOf line (before + 1) = some e) : e.text <:+: line := by
  rw [excerptOf_natCast_succ] at shown
  split at shown
  · cases shown
    exact window_infix line before
  · cases shown

section
variable {cs : List Char} {pos : Nat} {c : Char} {e : Excerpt}

/-- A piece of one of the lines, the one that the newlines before the position lead to. -/
theorem excerpt_infix (inside : pos ≤ cs.length) (shown : (Place.of cs pos).excerpt = some e) :
    ∃ line, (lines cs)[newlines (cs.take pos)]? = some line ∧ e.text <:+: line := by
  rw [of_natCast inside] at shown
  obtain ⟨line, found, shown⟩ := Option.bind_eq_some_iff.mp shown
  exact ⟨line, found, excerptOf_infix shown⟩

theorem newline_notMem_excerpt (inside : pos ≤ cs.length)
    (shown : (Place.of cs pos).excerpt = some e) : '\n' ∉ e.text := by
  obtain ⟨line, found, piece⟩ := excerpt_infix inside shown
  intro member
  have unbroken := (Text.mem_lines (List.mem_of_getElem? found)).2
  cases unbroken '\n' (piece.subset member)

/-- An excerpt is what the line of the position shows of itself, and there is none where that line
stops before the position. -/
theorem excerpt_eq (own : NewlinesOnly (linesBefore cs pos)) (inside : pos ≤ cs.length) :
    (Place.of cs pos).excerpt = if (lineBegun cs pos).length < (lineShown cs pos).length then
        some ⟨window (lineShown cs pos) (lineBegun cs pos).length,
          (min (lineBegun cs pos).length reach : Nat)⟩
      else none := by
  rw [of_natCast inside]
  dsimp only
  rw [Text.getElem?_lines_own own, lineShown]
  by_cases filled : lineBegun cs pos ++ cs.drop pos = []
  · rw [filled]
    rfl
  · rw [Text.head?_lines filled, Option.bind_some, excerptOf_natCast_succ]

theorem excerpt_own (only : NewlinesOnly (linesBefore cs pos)) (inside : pos ≤ cs.length)
    (shown : (Place.of cs pos).excerpt = some e) : e.text <:+: lineAt cs pos := by
  rw [excerpt_eq only inside] at shown
  split at shown
  · cases shown
    have piece := window_infix (lineShown cs pos) (lineBegun cs pos).length
    exact piece.trans (Text.lineShown_prefix_lineAt cs pos).isInfix
  · cases shown

theorem excerpt_earlier (other : ¬NewlinesOnly (linesBefore cs pos)) (inside : pos ≤ cs.length)
    (shown : (Place.of cs pos).excerpt = some e) : e.text <:+: linesBefore cs pos := by
  obtain ⟨line, found, piece⟩ := excerpt_infix inside shown
  have earlier := Text.getElem?_lines_earlier other found
  exact piece.trans (Text.mem_lines earlier).1

/-! ## Where the caret stands -/

/-- An excerpt that starts some characters before a position, and reaches it. -/
structure Shows (cs : List Char) (pos i : Nat) (shown : List Char) : Prop where
  starts : i ≤ pos
  piece : shown <+: cs.drop (pos - i)
  character : ∃ c, cs[pos]? = some c ∧ shown[i]? = some c

/-- The excerpt starts nineteen characters before the position or where its line does, while the
caret is up to twenty characters in. -/
theorem excerpt_shows (only : NewlinesOnly cs) (character : cs[pos]? = some c)
    (letter : isBreak c = false) :
    ∃ shown, (Place.of cs pos).excerpt =
        some ⟨shown, (min (lineBegun cs pos).length reach : Nat)⟩ ∧
      Shows cs pos (min (lineBegun cs pos).length (reach - 1)) shown := by
  have inside : pos ≤ cs.length := Nat.le_of_lt (List.getElem?_eq_some_iff.mp character).1
  have short : (lineBegun cs pos).length ≤ pos := Text.length_lineBegun_le cs pos
  have starts := Text.lineShown_prefix_drop inside
  have there : (lineShown cs pos)[(lineBegun cs pos).length]? = some c := by
    rw [Text.lineShown_character only character letter, List.getElem?_append_right (Nat.le_refl _),
      Nat.sub_self, List.getElem?_cons_zero]
  have column := (List.getElem?_eq_some_iff.mp there).1
  have shown : (Place.of cs pos).excerpt = some ⟨window (lineShown cs pos)
      (lineBegun cs pos).length, (min (lineBegun cs pos).length reach : Nat)⟩ := by
    rw [excerpt_eq (Text.linesBefore_newlinesOnly only pos) inside, if_pos column]
  refine ⟨_, shown, ?_⟩
  generalize lineShown cs pos = line at starts there column
  generalize (lineBegun cs pos).length = begun at short starts there column
  have left : min begun (reach - 1) ≤ begun := Nat.min_le_left _ _
  constructor
  · exact Nat.le_trans left short
  · have start : pos - begun + (begun - min begun (reach - 1)) = pos - min begun (reach - 1) := by
      omega
    have within : begun - min begun (reach - 1) ≤ line.length :=
      Nat.le_trans (Nat.sub_le _ _) (Nat.le_of_lt column)
    obtain ⟨behind, whole⟩ := starts
    rw [← start, ← List.drop_drop, ← whole, List.drop_append_of_le_length within]
    exact (List.take_prefix _ _).trans (List.prefix_append _ _)
  · refine ⟨c, character, ?_⟩
    rw [getElem?_window, there]

end

end Place

/-! ## Notes -/

namespace Note

/-- A heading, a line of a source below it, and below that a caret. -/
def drawn (heading : String) (shown : List Char) (indent : Nat) : String :=
  heading ++ "\n" ++ String.ofList (shown ++ '\n' :: List.replicate indent ' ' ++ ['^'])

/-- A note without words is its heading alone or drawn. -/
theorem write_drawn {note : Note} (wordless : note.message = none) (legible : note.Legible) :
    note.write = .ok (match note.excerpt with
      | none => note.heading
      | some e => drawn note.heading e.text e.indent.toNat) := by
  rw [write_wordless wordless]
  cases shown : note.excerpt with
  | none => rfl
  | some e =>
    have fits := legible e shown
    simp only [Excerpt.write, fits, if_true]
    rfl

/-- What is drawn can be read off again. -/
theorem drawn_injective {heading : String} {shown shown' : List Char} {indent indent' : Nat}
    (unbroken : '\n' ∉ shown)
    (same : drawn heading shown indent = drawn heading shown' indent') :
    shown = shown' ∧ indent = indent' := by
  have chars := congrArg String.toList same
  simp only [drawn, String.toList_append, String.toList_ofList, List.append_assoc,
    List.cons_append, List.append_cancel_left_eq] at chars
  have caret : '\n' ∉ List.replicate indent ' ' ++ ['^'] := by
    simp only [List.mem_append, List.mem_replicate, List.mem_singleton, not_or]
    exact ⟨fun other => absurd other.2 (by decide), by decide⟩
  obtain ⟨left, _, right⟩ := (List.append_cons_inj_of_notMem unbroken caret).mp chars
  have width := congrArg List.length right
  simp only [List.length_append, List.length_replicate] at width
  exact ⟨left, Nat.add_right_cancel width⟩

end Note

namespace ParseError

variable {cs : List Char} {pos : Nat} {c : Char}

/-- The note of an error about a text. -/
def noteOf (cs : List Char) (pos : Nat) : Note :=
  Note.of (some (.text cs)) pos none

theorem excerpt_noteOf (inside : pos ≤ cs.length) :
    (noteOf cs pos).excerpt = (Place.of cs pos).excerpt := by
  have clamped : min (pos : Int) cs.length = pos := by omega
  simp only [noteOf, Note.of, clamped]
  rfl

theorem of_text (cs : List Char) (pos : Nat) (message : Option String) :
    ParseError.of (some (.text cs)) pos message = .ok ⟨message, pos,
      [match (noteOf cs pos).excerpt with
        | none => (noteOf cs pos).heading
        | some e => Note.drawn (noteOf cs pos).heading e.text e.indent.toNat], true, none⟩ := by
  have legible : (noteOf cs pos).Legible := Note.legible_of _ (Int.natCast_nonneg pos) none
  have written : (noteOf cs pos).write = .ok _ := Note.write_drawn rfl legible
  rw [noteOf] at written
  simp only [ParseError.of, addNote, written]
  rfl

/-- **The caret** marks the character of the position on a line that begins within reach. Further on
the excerpt starts one character too late for it. -/
theorem caret_marks (only : NewlinesOnly cs) (character : cs[pos]? = some c)
    (letter : isBreak c = false) (message : Option String) :
    ∃ shown indent, ParseError.of (some (.text cs)) pos message =
        .ok ⟨message, pos, [Note.drawn (noteOf cs pos).heading shown indent], true, none⟩ ∧
      '\n' ∉ shown ∧
      ((Place.of cs pos).column ≤ Place.reach → Place.Shows cs pos indent shown) ∧
      (Place.reach < (Place.of cs pos).column →
        indent = Place.reach ∧ Place.Shows cs pos (Place.reach - 1) shown) := by
  have inside : pos ≤ cs.length := Nat.le_of_lt (List.getElem?_eq_some_iff.mp character).1
  obtain ⟨shown, excerpt, shows⟩ := Place.excerpt_shows only character letter
  have unbroken := Place.newline_notMem_excerpt inside excerpt
  have column : (Place.of cs pos).column = (lineBegun cs pos).length + 1 := by
    rw [Place.of_natCast inside]
  refine ⟨shown, min (lineBegun cs pos).length Place.reach, ?_, unbroken, ?_, ?_⟩
  · rw [of_text, excerpt_noteOf inside, excerpt]
    rfl
  · intro near
    have same : min (lineBegun cs pos).length Place.reach =
        min (lineBegun cs pos).length (Place.reach - 1) := by omega
    rw [same]
    exact shows
  · intro far
    have beyond : Place.reach ≤ (lineBegun cs pos).length := by omega
    have start : min (lineBegun cs pos).length (Place.reach - 1) = Place.reach - 1 := by omega
    rw [start] at shows
    exact ⟨Nat.min_eq_right beyond, shows⟩

/-- The second of two lines ended by a carriage return and a newline. -/
theorem caret_marks_second_line :
    let cs := "ab\r\ncd".toList
    NewlinesOnly cs ∧ cs[5]? = some 'd' ∧ isBreak 'd' = false ∧
    ParseError.of (some (.text cs)) 5 none =
      .ok ⟨none, 5, ["At position 5 (line 2, column 2)\ncd\n ^"], true, none⟩ ∧
    ∃ shown indent, ParseError.of (some (.text cs)) 5 none =
        .ok ⟨none, 5, [Note.drawn (noteOf cs 5).heading shown indent], true, none⟩ ∧
      '\n' ∉ shown ∧
      ((Place.of cs 5).column ≤ Place.reach → Place.Shows cs 5 indent shown) ∧
      (Place.reach < (Place.of cs 5).column →
        indent = Place.reach ∧ Place.Shows cs 5 (Place.reach - 1) shown) := by
  intro cs
  have only : NewlinesOnly cs := by decide
  have note : ParseError.of (some (.text "ab\r\ncd".toList)) 5 none =
      .ok ⟨none, 5, ["At position 5 (line 2, column 2)\ncd\n ^"], true, none⟩ := by decide +kernel
  exact ⟨only, rfl, rfl, note, caret_marks only rfl rfl none⟩

/-- In the twenty-first column the caret is under the character behind. -/
theorem caret_behind :
    let cs := "abcdefghijklmnopqrstuvwxyz".toList
    NewlinesOnly cs ∧ cs[20]? = some 'u' ∧ isBreak 'u' = false ∧
    ¬∃ shown indent, ParseError.of (some (.text cs)) 20 none =
        .ok ⟨none, 20, [Note.drawn (noteOf cs 20).heading shown indent], true, none⟩ ∧
      '\n' ∉ shown ∧ Place.Shows cs 20 indent shown := by
  intro cs
  have only : NewlinesOnly cs := by decide
  have there : cs[20]? = some 'u' := by decide +kernel
  refine ⟨only, there, rfl, ?_⟩
  rintro ⟨shown, indent, made, unbroken, shows⟩
  have inside : 20 ≤ cs.length := by decide +kernel
  have excerpt : (Place.of cs (20 : Nat)).excerpt =
      some ⟨"bcdefghijklmnopqrstuvwxyz".toList, 20⟩ := by decide +kernel
  have written := of_text cs 20 none
  rw [excerpt_noteOf inside, excerpt] at written
  have same := made.symm.trans written
  injection same with same
  injection same with _ _ notes
  injection notes with note
  obtain ⟨rfl, rfl⟩ := Note.drawn_injective unbroken note
  obtain ⟨c, same, under⟩ := shows.character
  rw [there] at same
  cases same
  cases under

/-- **The excerpt** of a note is a piece of the line reported, if no other breaks come before that
line, and a piece of what comes before it if some do. -/
theorem excerpt_within (inside : pos ≤ cs.length) (message : Option String) :
    ∃ note, ParseError.of (some (.text cs)) pos message =
        .ok ⟨message, pos, [note], true, none⟩ ∧
      (note = (noteOf cs pos).heading ∨
        ∃ shown indent, note = Note.drawn (noteOf cs pos).heading shown indent ∧ '\n' ∉ shown ∧
          (NewlinesOnly (linesBefore cs pos) → shown <:+: lineAt cs pos) ∧
          (¬NewlinesOnly (linesBefore cs pos) → shown <:+: linesBefore cs pos)) := by
  refine ⟨_, of_text cs pos message, ?_⟩
  rw [excerpt_noteOf inside]
  cases shown : (Place.of cs pos).excerpt with
  | none => exact .inl rfl
  | some e =>
    right
    refine ⟨e.text, e.indent.toNat, rfl, Place.newline_notMem_excerpt inside shown, ?_, ?_⟩
    · intro only
      exact Place.excerpt_own only inside shown
    · intro other
      exact Place.excerpt_earlier other inside shown

theorem excerpt_within_second_line :
    let cs := "ab\ncd".toList
    4 ≤ cs.length ∧ ∃ note, ParseError.of (some (.text cs)) 4 none =
        .ok ⟨none, 4, [note], true, none⟩ ∧
      (note = (noteOf cs 4).heading ∨
        ∃ shown indent, note = Note.drawn (noteOf cs 4).heading shown indent ∧ '\n' ∉ shown ∧
          (NewlinesOnly (linesBefore cs 4) → shown <:+: lineAt cs 4) ∧
          (¬NewlinesOnly (linesBefore cs 4) → shown <:+: linesBefore cs 4)) := by
  intro cs
  have inside : 4 ≤ cs.length := by decide
  exact ⟨inside, excerpt_within inside none⟩

/-- A form feed ends a line that the line number does not count. -/
theorem excerpt_of_earlier_line :
    let cs := "a\x0cb\nc".toList
    4 ≤ cs.length ∧ lineAt cs 4 = ['c'] ∧
    ∃ shown indent, ParseError.of (some (.text cs)) 4 none =
        .ok ⟨none, 4, [Note.drawn (noteOf cs 4).heading shown indent], true, none⟩ ∧
      '\n' ∉ shown ∧ ¬shown <:+: lineAt cs 4 := by
  intro cs
  refine ⟨by decide, by decide, ['b'], 0, rfl, by decide, by decide⟩

end ParseError

end Sluice
