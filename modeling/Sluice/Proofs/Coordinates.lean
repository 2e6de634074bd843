import Sluice.Proofs.Excerpts

/-!
Line and column as coordinates. The line of a note counts the newlines before a position and its
column what follows the last of them, so together they lead back to the position, and they ascend
with it.
-/
namespace Sluice

open Text (lineAt lineBegun linesBefore newlines)

namespace Text

/-- Where a line starts, in a text that is split at its newlines: behind all lines before it and
their newlines. -/
def lineStart (cs : List Char) (line : Nat) : Nat :=
  (((cs.splitOn '\n').take line).flatMap (· ++ ['\n'])).length

variable {cs before after : List Char} {pos : Nat}

theorem splitOn_cons (c : Char) (rest : List Char) :
    (c :: rest).splitOn '\n' = if c = '\n' then [] :: rest.splitOn '\n'
      else (rest.splitOn '\n').modifyHead (c :: ·) := by
  simp only [List.splitOn, List.splitOnP_cons_eq_if_modifyHead, beq_iff_eq]

theorem length_splitOn (cs : List Char) : (cs.splitOn '\n').length = newlines cs + 1 := by
  induction cs with
  | nil => rfl
  | cons c rest ih =>
    rw [splitOn_cons, newlines_cons]
    by_cases newline : c = '\n'
    · rw [if_pos newline, if_pos newline, List.length_cons, ih]
    · rw [if_neg newline, if_neg newline, List.length_modifyHead, ih, Nat.add_zero]

/-- Split into lines, a text is one newline short. -/
theorem flatMap_splitOn (cs : List Char) :
    (cs.splitOn '\n').flatMap (· ++ ['\n']) = cs ++ ['\n'] := by
  induction cs with
  | nil => rfl
  | cons c rest ih =>
    rw [splitOn_cons]
    by_cases newline : c = '\n'
    · rw [if_pos newline, List.flatMap_cons, ih, newline]
      rfl
    · rw [if_neg newline]
      cases split : rest.splitOn '\n' with
      | nil => exact absurd split (List.splitOn_ne_nil _ _)
      | cons line others =>
        rw [split] at ih
        exact congrArg (c :: ·) ih

theorem head?_splitOn (cs : List Char) :
    (cs.splitOn '\n').head? = some (cs.takeWhile (· ≠ '\n')) := by
  induction cs with
  | nil => rfl
  | cons c rest ih =>
    rw [splitOn_cons, List.takeWhile_cons]
    by_cases newline : c = '\n'
    · simp [newline]
    · simp [newline, ih]

/-- A text that ends with a newline is cut off, and the lines behind it are counted from there. -/
theorem splitOn_append (closed : Closed before) (after : List Char) :
    ∃ lines, (before ++ after).splitOn '\n' = lines ++ after.splitOn '\n' ∧
      lines.length = newlines before ∧ lines.flatMap (· ++ ['\n']) = before := by
  rcases List.eq_nil_or_concat' before with rfl | ⟨first, last, rfl⟩
  · exact ⟨[], rfl, rfl, rfl⟩
  · obtain rfl := closed last List.getLast?_concat
    refine ⟨first.splitOn '\n', ?_, ?_, flatMap_splitOn first⟩
    · rw [List.append_assoc]
      exact List.splitOn_append_cons_self first after
    · rw [length_splitOn, newlines, newlines, List.count_append]
      rfl

/-- The newlines before a position lead to the line that it is on and to where that starts. -/
theorem lineStart_newlines (cs : List Char) (pos : Nat) :
    lineStart cs (newlines (cs.take pos)) = (linesBefore cs pos).length ∧
    (cs.splitOn '\n')[newlines (cs.take pos)]? = some (lineAt cs pos) := by
  obtain ⟨lines, split, count, whole⟩ :=
    splitOn_append (linesBefore_closed cs pos) (lineBegun cs pos ++ cs.drop pos)
  rw [linesBefore_append] at split
  rw [newlines_take, lineStart, split, ← count]
  constructor
  · rw [List.take_left, whole]
  · rw [List.getElem?_append_right (Nat.le_refl _), Nat.sub_self, ← List.head?_eq_getElem?,
      head?_splitOn, lineAt_eq]

theorem newlines_take_mono {p q : Nat} (le : p ≤ q) (cs : List Char) :
    newlines (cs.take p) ≤ newlines (cs.take q) :=
  (List.take_prefix_take_left le).sublist.count_le _

end Text

namespace Place

variable {cs : List Char} {p q : Nat}

/-- A place leads to a position: its line is the one that starts behind so many newlines, and its
column goes that far into the line, or to the end of it. -/
structure LeadsTo (place : Place) (cs : List Char) (q : Nat) : Prop where
  line_pos : 1 ≤ place.line
  column_pos : 1 ≤ place.column
  counted : place.line - 1 = (cs.take q).count '\n'
  reached : ∃ line, (cs.splitOn '\n')[place.line - 1]? = some line ∧
    place.column - 1 ≤ line.length ∧
    (q : Int) = Text.lineStart cs (place.line - 1) + (place.column - 1)

theorem LeadsTo.unique {place place' : Place} (one : place.LeadsTo cs p)
    (other : place'.LeadsTo cs q) (line : place.line = place'.line)
    (column : place.column = place'.column) : p = q := by
  obtain ⟨_, _, _, here⟩ := one.reached
  obtain ⟨_, _, _, there⟩ := other.reached
  rw [line, column] at here
  omega

/-- Further on there are more newlines before, or the line is the same. -/
theorem LeadsTo.ascends {place place' : Place} (one : place.LeadsTo cs p)
    (other : place'.LeadsTo cs q) (lt : p < q) :
    place.line < place'.line ∨ place.line = place'.line ∧ place.column < place'.column := by
  have more := Text.newlines_take_mono (Nat.le_of_lt lt) cs
  have here := one.counted
  have there := other.counted
  have lo := one.line_pos
  have lo' := other.line_pos
  simp only [newlines] at more
  by_cases same : place.line = place'.line
  · obtain ⟨_, _, _, start⟩ := one.reached
    obtain ⟨_, _, _, start'⟩ := other.reached
    rw [same] at start
    exact .inr ⟨same, by omega⟩
  · exact .inl (by omega)

theorem of_leadsTo (inside : q ≤ cs.length) : (Place.of cs q).LeadsTo cs q := by
  obtain ⟨start, line⟩ := Text.lineStart_newlines cs q
  have whole := Text.length_linesBefore inside
  rw [of_natCast inside]
  constructor
  · exact Nat.le_add_left 1 _
  · dsimp only
    omega
  · rfl
  · refine ⟨lineAt cs q, line, ?_, ?_⟩
    · simp only [lineAt, List.length_append]
      omega
    · simp only [Nat.add_sub_cancel, start]
      omega

end Place

namespace Note

/-- A note up to its excerpt: the words it was given on a line of their own, then where it is. -/
def opening (words : Option String) (pos : Nat) (place : Place) : String :=
  words.elim "" (· ++ "\n") ++ ("At position " ++ toString pos ++ " (line " ++
    toString place.line ++ ", column " ++ toString place.column ++ ")")

theorem write_opening {note : Note} {text : String} {pos : Nat} {place : Place}
    (there : note.pos = pos) (placed : note.place = some place) (written : note.write = .ok text) :
    ∃ rest, text = opening note.message pos place ++ rest ∧
      (rest = "" ∨ ∃ shown, rest = "\n" ++ shown) := by
  have heading : note.message.elim "" (· ++ "\n") ++ note.heading =
      opening note.message pos place := by
    simp only [Note.heading, placed, there, opening, String.append_assoc]
    rfl
  rw [write_eq] at written
  cases excerpt : note.excerpt with
  | none =>
    rw [excerpt] at written
    cases written
    refine ⟨"", ?_, .inl rfl⟩
    rw [heading, String.append_empty]
  | some e =>
    rw [excerpt] at written
    dsimp only at written
    cases drawn : e.write with
    | error fault => rw [drawn] at written; cases written
    | ok shown =>
      rw [drawn] at written
      cases written
      refine ⟨"\n" ++ shown, ?_, .inr ⟨shown, rfl⟩⟩
      rw [heading]
      exact String.append_assoc

end Note

namespace ParseError

/-- The coordinates that notes about a text give. -/
structure Charted (cs : List Char) : Prop where
  /-- The note of a new error gives those of its position, or of the end for one behind it. -/
  noted : ∀ (pos : Nat) message, ∃ rest,
    ParseError.of (some (.text cs)) pos message = .ok ⟨message, pos,
      [Note.opening none (min pos cs.length) (.of cs (min pos cs.length : Nat)) ++ rest],
      true, none⟩ ∧ (rest = "" ∨ ∃ shown, rest = "\n" ++ shown)
  /-- So does a note that is added, behind its words. -/
  added : ∀ (error : ParseError) (pos : Nat) words, ∃ rest,
    error.addNote (some (.text cs)) pos words = .ok { error with notes := error.notes ++
      [Note.opening words (min pos cs.length) (.of cs (min pos cs.length : Nat)) ++ rest] } ∧
    (rest = "" ∨ ∃ shown, rest = "\n" ++ shown)
  located : ∀ q ≤ cs.length, (Place.of cs q).LeadsTo cs q
  determined : ∀ p ≤ cs.length, ∀ q ≤ cs.length,
    (Place.of cs p).line = (Place.of cs q).line →
    (Place.of cs p).column = (Place.of cs q).column → p = q
  ascending : ∀ p q, p < q → q ≤ cs.length →
    (Place.of cs p).line < (Place.of cs q).line ∨
    (Place.of cs p).line = (Place.of cs q).line ∧
      (Place.of cs p).column < (Place.of cs q).column

theorem addNote_opening (cs : List Char) (error : ParseError) (pos : Nat)
    (words : Option String) : ∃ rest,
    error.addNote (some (.text cs)) pos words = .ok { error with notes := error.notes ++
      [Note.opening words (min pos cs.length) (.of cs (min pos cs.length : Nat)) ++ rest] } ∧
    (rest = "" ∨ ∃ shown, rest = "\n" ++ shown) := by
  have legible := Note.legible_of (.text cs) (Int.natCast_nonneg pos) words
  obtain ⟨text, written⟩ := Note.write_ok legible
  have clamped : min (pos : Int) cs.length = (min pos cs.length : Nat) := by omega
  have note : Note.of (some (.text cs)) pos words =
      ⟨words, (min pos cs.length : Nat), some (.of cs (min pos cs.length : Nat))⟩ := by
    simp only [Note.of, clamped]
  rw [note] at written
  obtain ⟨rest, rfl, excerpt⟩ := Note.write_opening rfl rfl written
  refine ⟨rest, ?_, excerpt⟩
  rw [addNote, note, written]
  rfl

/-- **Line and column** of a note lead back to the position, and ascend with it. -/
theorem coordinates_charted (cs : List Char) : Charted cs where
  noted pos message := addNote_opening cs ⟨message, pos, [], true, none⟩ pos none
  added := addNote_opening cs
  located _ inside := Place.of_leadsTo inside
  determined _ inside _ inside' line column :=
    (Place.of_leadsTo inside).unique (Place.of_leadsTo inside') line column
  ascending _ _ lt inside :=
    (Place.of_leadsTo (Nat.le_trans (Nat.le_of_lt lt) inside)).ascends (Place.of_leadsTo inside) lt

/-- A newline is still on the line that it ends, and what follows it starts the next. -/
example :
    let cs := "a\n".toList
    ((Place.of cs 1).line, (Place.of cs 1).column) = (1, 2) ∧
    ((Place.of cs 2).line, (Place.of cs 2).column) = (2, 1) := by
  decide

end ParseError

end Sluice
