import Sluice.Proofs.Excerpts

/-!
Which notes have an excerpt. In a text with no breaks but newlines those about a character of a line
do, and the piece of the line that they show reaches that character. A line is looked up by its
number only if there is one of that number.
-/
namespace Sluice

open Text (Closed NewlinesOnly isBreak lineBegun lineShown linesBefore)

namespace Text

/-- A newline at a position, or the carriage return in front of one. -/
def BreakAt (cs : List Char) (pos : Nat) : Prop :=
  cs[pos]? = some '\n' ∨ cs[pos]? = some '\r' ∧ cs[pos + 1]? = some '\n'

/-- A line without its break, between what comes before it and what comes behind. -/
structure IsLine (before line behind : List Char) : Prop where
  starts : Closed before
  unbroken : ∀ c ∈ line, isBreak c = false
  ends : ∀ c, behind.head? = some c → isBreak c = true

variable {cs : List Char} {pos : Nat} {c : Char}

theorem isBreak_iff_breakAt (only : NewlinesOnly cs) (character : cs[pos]? = some c) :
    isBreak c = true ↔ BreakAt cs pos := by
  rw [BreakAt, character]
  constructor
  · intro breaks
    obtain ⟨inside, rfl⟩ := List.getElem?_eq_some_iff.mp character
    have split : cs = cs.take pos ++ cs[pos] :: cs.drop (pos + 1) := by
      rw [← List.drop_eq_getElem_cons inside, List.take_append_drop]
    rcases only _ _ _ split breaks with newline | ⟨pair, next⟩
    · exact .inl (congrArg some newline)
    · rw [List.head?_drop] at next
      exact .inr ⟨congrArg some pair, next⟩
  · rintro (newline | ⟨pair, _⟩)
    · cases newline
      rfl
    · cases pair
      rfl

/-- The line goes on over a position exactly if a character of it stands there. -/
theorem length_lineShown_iff (only : NewlinesOnly cs) :
    (lineBegun cs pos).length < (lineShown cs pos).length ↔ pos < cs.length ∧ ¬BreakAt cs pos := by
  constructor
  · intro reaches
    have letter := List.mem_takeWhile_imp (List.getElem_mem reaches)
    have character : cs[pos]? = some (lineShown cs pos)[(lineBegun cs pos).length] := by
      have there := List.prefix_iff_getElem?.mp (List.takeWhile_prefix (!isBreak ·)) _ reaches
      rwa [List.getElem?_append_right (Nat.le_refl _), Nat.sub_self, List.getElem?_drop] at there
    refine ⟨(List.getElem?_eq_some_iff.mp character).1, ?_⟩
    rw [← isBreak_iff_breakAt only character]
    simpa using letter
  · rintro ⟨inside, unbroken⟩
    have character : cs[pos]? = some cs[pos] := List.getElem?_eq_getElem inside
    have letter : isBreak cs[pos] = false := by
      rw [← Bool.not_eq_true, isBreak_iff_breakAt only character]
      exact unbroken
    rw [lineShown_character only character letter, List.length_append,
      List.length_cons]
    omega

theorem lineShown_isLine (cs : List Char) (pos : Nat) :
    ∃ behind, cs = linesBefore cs pos ++ lineShown cs pos ++ behind ∧
      IsLine (linesBefore cs pos) (lineShown cs pos) behind := by
  refine ⟨(lineBegun cs pos ++ cs.drop pos).dropWhile (!isBreak ·), ?_,
    linesBefore_closed cs pos, ?_, ?_⟩
  · rw [List.append_assoc, lineShown, List.takeWhile_append_dropWhile, linesBefore_append]
  · intro c member
    simpa using List.mem_takeWhile_imp member
  · intro c first
    have stops := List.head?_dropWhile_not (!isBreak ·) (lineBegun cs pos ++ cs.drop pos)
    simpa [first] using stops

end Text

open Text (BreakAt IsLine)

namespace Place

variable {cs : List Char} {pos : Nat}

/-- A piece of the line of a position, at most forty characters of it and over the position. -/
structure Covers (cs : List Char) (pos : Nat) (shown : List Char) : Prop where
  narrow : shown.length ≤ 40
  piece : ∃ before left right behind, cs = before ++ (left ++ shown ++ right) ++ behind ∧
    IsLine before (left ++ shown ++ right) behind ∧
    (before ++ left).length ≤ pos ∧ pos < (before ++ left ++ shown).length

theorem Covers.newline_notMem {shown : List Char} (covers : Covers cs pos shown) :
    '\n' ∉ shown := by
  obtain ⟨before, left, right, behind, _, line, _⟩ := covers.piece
  intro member
  cases line.unbroken '\n' (List.mem_append_left right (List.mem_append_right left member))

/-- The window starts less than its width before the position. -/
theorem window_covers (inside : pos ≤ cs.length)
    (reaches : (lineBegun cs pos).length < (lineShown cs pos).length) :
    Covers cs pos (window (lineShown cs pos) (lineBegun cs pos).length) := by
  obtain ⟨behind, whole, line⟩ := Text.lineShown_isLine cs pos
  have start := Text.length_linesBefore inside
  generalize lineShown cs pos = shown at reaches whole line ⊢
  generalize (lineBegun cs pos).length = begun at reaches start ⊢
  have near : begun < begun - min begun (reach - 1) + 2 * reach := by
    simp only [reach]
    omega
  have split : shown.take (begun - min begun (reach - 1)) ++ window shown begun ++
      (shown.drop (begun - min begun (reach - 1))).drop (2 * reach) = shown := by
    rw [window, List.append_assoc, List.take_append_drop, List.take_append_drop]
  constructor
  · exact List.length_take_le _ _
  · refine ⟨linesBefore cs pos, shown.take (begun - min begun (reach - 1)),
      (shown.drop (begun - min begun (reach - 1))).drop (2 * reach), behind, ?_, ?_, ?_, ?_⟩
    · rw [split]
      exact whole
    · rw [split]
      exact line
    · simp only [List.length_append, List.length_take]
      omega
    · simp only [window, List.length_append, List.length_take, List.length_drop]
      omega

/-- The excerpt, looked up by an index that is refused if it is out of range. -/
def lookUp (cs : List Char) (pos : Int) : Except Fault (Option Excerpt) :=
  let place := Place.of cs pos
  if (place.line : Int) - 1 < (Text.lines cs).length then
    match itemAt? (Text.lines cs) (place.line - 1) with
    | some line => .ok (excerptOf line place.column)
    | none => .error (.outOfRange .list)
  else .ok none

/-- The number of newlines is never out of range behind the check, and never negative. -/
theorem lookUp_eq (cs : List Char) (pos : Int) : lookUp cs pos = .ok (Place.of cs pos).excerpt := by
  have excerpt : (Place.of cs pos).excerpt = (Text.lines cs)[Text.newlines (slice cs 0 pos)]?.bind
      (excerptOf · (Place.of cs pos).column) := rfl
  have index : ((Place.of cs pos).line : Int) - 1 = Text.newlines (slice cs 0 pos) := by
    simp only [Place.of]
    omega
  have item : itemAt? (Text.lines cs) (Text.newlines (slice cs 0 pos) : Int) =
      (Text.lines cs)[Text.newlines (slice cs 0 pos)]? := by
    rw [itemAt?, if_pos (Int.natCast_nonneg _), Int.toNat_natCast]
  simp only [lookUp, index, item, excerpt]
  cases found : (Text.lines cs)[Text.newlines (slice cs 0 pos)]? with
  | none =>
    have short := List.getElem?_eq_none_iff.mp found
    rw [if_neg (by omega)]
    rfl
  | some line =>
    have there := (List.getElem?_eq_some_iff.mp found).1
    rw [if_pos (by omega)]
    rfl

end Place

/-! ## Notes -/

namespace Note

theorem heading_ne_drawn {heading : String} {shown : List Char} {indent : Nat} :
    heading ≠ drawn heading shown indent := by
  intro same
  have lengths := congrArg String.length same
  simp only [drawn, String.length_append] at lengths
  have below : "\n".length = 1 := rfl
  omega

theorem write_refused {note : Note} {fault : Fault} (refused : note.write = .error fault) :
    fault = .unindentable := by
  rw [write_eq] at refused
  cases shown : note.excerpt with
  | none =>
    rw [shown] at refused
    cases refused
  | some e =>
    simp only [shown, Excerpt.write] at refused
    split at refused
    · cases refused
    · cases refused
      rfl

end Note

namespace ParseError

variable {cs : List Char} {pos : Nat}

/-- Whatever a note is about, it is refused for the place of its caret only. -/
theorem addNote_refused {error : ParseError} {src : Option Source} {pos : Int}
    {words : Option String} {fault : Fault} (refused : error.addNote src pos words = .error fault) :
    fault = .unindentable ∧ pos < 0 := by
  cases written : (Note.of src pos words).write with
  | ok text =>
    rw [addNote, written] at refused
    cases refused
  | error other =>
    rw [addNote, written] at refused
    cases refused
    refine ⟨Note.write_refused written, ?_⟩
    by_contra inside
    have legible : (Note.of src pos words).Legible := by
      cases src with
      | none =>
        intro e shown
        cases shown
      | some src => exact Note.legible_of src (Int.not_lt.mp inside) words
    obtain ⟨text, drawn⟩ := Note.write_ok legible
    cases drawn.symm.trans written

/-- A position past the end counts as the end. -/
theorem noteOf_past (past : cs.length ≤ pos) : noteOf cs pos = noteOf cs cs.length := by
  have clamped : min (pos : Int) cs.length = min (cs.length : Int) cs.length := by omega
  simp only [noteOf, Note.of, clamped]

theorem excerpt_noteOf_character (only : NewlinesOnly cs) (inside : pos < cs.length)
    (character : ¬BreakAt cs pos) :
    ∃ shown indent, (noteOf cs pos).excerpt = some ⟨shown, indent⟩ ∧ Place.Covers cs pos shown := by
  have own := Text.linesBefore_newlinesOnly only pos
  have reaches := (Text.length_lineShown_iff only).mpr ⟨inside, character⟩
  refine ⟨Place.window (lineShown cs pos) (lineBegun cs pos).length,
    (min (lineBegun cs pos).length Place.reach : Nat), ?_,
    Place.window_covers (Nat.le_of_lt inside) reaches⟩
  rw [excerpt_noteOf (Nat.le_of_lt inside), Place.excerpt_eq own (Nat.le_of_lt inside),
    if_pos reaches]

theorem excerpt_noteOf_other (only : NewlinesOnly cs)
    (other : ¬(pos < cs.length ∧ ¬BreakAt cs pos)) : (noteOf cs pos).excerpt = none := by
  have none (p : Nat) (inside : p ≤ cs.length) (other : ¬(p < cs.length ∧ ¬BreakAt cs p)) :
      (noteOf cs p).excerpt = none := by
    rw [← Text.length_lineShown_iff only] at other
    rw [excerpt_noteOf inside, Place.excerpt_eq (Text.linesBefore_newlinesOnly only p) inside,
      if_neg other]
  by_cases past : cs.length ≤ pos
  · rw [noteOf_past past]
    exact none cs.length (Nat.le_refl _) fun there => Nat.lt_irrefl _ there.1
  · exact none pos (Nat.le_of_not_le past) other

/-- What a note of a position shows below its heading. -/
structure Excerpted (cs : List Char) (pos : Nat) (note : String) : Prop where
  /-- Only a character of a line gets an excerpt. -/
  excerpt_iff : (∃ shown indent, note = Note.drawn (noteOf cs pos).heading shown indent) ↔
    pos < cs.length ∧ ¬BreakAt cs pos
  covers : ∀ shown indent, note = Note.drawn (noteOf cs pos).heading shown indent →
    Place.Covers cs pos shown
  bare : (¬∃ shown indent, note = Note.drawn (noteOf cs pos).heading shown indent) →
    note = (noteOf cs pos).heading

theorem Excerpted.of_drawn {shown : List Char} {indent : Nat} (inside : pos < cs.length)
    (character : ¬BreakAt cs pos) (covers : Place.Covers cs pos shown) :
    Excerpted cs pos (Note.drawn (noteOf cs pos).heading shown indent) where
  excerpt_iff := iff_of_true ⟨shown, indent, rfl⟩ ⟨inside, character⟩
  covers other _ same := by
    obtain ⟨rfl, _⟩ := Note.drawn_injective covers.newline_notMem same
    exact covers
  bare undrawn := absurd ⟨shown, indent, rfl⟩ undrawn

theorem Excerpted.of_heading (other : ¬(pos < cs.length ∧ ¬BreakAt cs pos)) :
    Excerpted cs pos (noteOf cs pos).heading where
  excerpt_iff := iff_of_false (fun ⟨_, _, drawn⟩ => Note.heading_ne_drawn drawn) other
  covers _ _ drawn := absurd drawn Note.heading_ne_drawn
  bare _ := rfl

/-- **An excerpt** is shown for the characters of lines, and reaches them. Nothing is looked up that
is not there. -/
theorem excerpts_reach (only : NewlinesOnly cs) (pos : Nat) (message : Option String) :
    (∃ note, ParseError.of (some (.text cs)) pos message = .ok ⟨message, pos, [note], true, none⟩ ∧
      Excerpted cs pos note) ∧
    (∀ cs' pos', Place.lookUp cs' pos' = .ok (Place.of cs' pos').excerpt) ∧
    ∀ (error : ParseError) src (pos' : Int) words fault,
      error.addNote src pos' words = .error fault → fault = .unindentable ∧ pos' < 0 := by
  refine ⟨⟨_, of_text cs pos message, ?_⟩, Place.lookUp_eq, fun _ _ _ _ _ => addNote_refused⟩
  by_cases character : pos < cs.length ∧ ¬BreakAt cs pos
  · obtain ⟨inside, character⟩ := character
    obtain ⟨shown, indent, excerpt, covers⟩ := excerpt_noteOf_character only inside character
    rw [excerpt]
    exact .of_drawn inside character covers
  · rw [excerpt_noteOf_other only character]
    exact .of_heading character

/-- Of the break behind the first line nothing is shown. -/
theorem excerpts_reach_two_lines :
    let cs := "ab\r\ncd".toList
    NewlinesOnly cs ∧
    ParseError.of (some (.text cs)) 5 none =
      .ok ⟨none, 5, ["At position 5 (line 2, column 2)\ncd\n ^"], true, none⟩ ∧
    Excerpted cs 5 "At position 5 (line 2, column 2)\ncd\n ^" ∧
    ParseError.of (some (.text cs)) 2 none =
      .ok ⟨none, 2, ["At position 2 (line 1, column 3)"], true, none⟩ ∧
    Excerpted cs 2 "At position 2 (line 1, column 3)" := by
  intro cs
  have only : NewlinesOnly cs := by decide
  have letter : ParseError.of (some (.text "ab\r\ncd".toList)) 5 none =
      .ok ⟨none, 5, ["At position 5 (line 2, column 2)\ncd\n ^"], true, none⟩ := by decide +kernel
  have pair : ParseError.of (some (.text "ab\r\ncd".toList)) 2 none =
      .ok ⟨none, 2, ["At position 2 (line 1, column 3)"], true, none⟩ := by decide +kernel
  obtain ⟨⟨note, made, shown⟩, _⟩ := excerpts_reach only 5 none
  obtain ⟨⟨note', made', hidden⟩, _⟩ := excerpts_reach only 2 none
  cases letter.symm.trans made
  cases pair.symm.trans made'
  exact ⟨only, letter, shown, pair, hidden⟩

end ParseError

end Sluice
