import Mathlib.Data.List.DropRight
import Mathlib.Data.List.TakeWhile
import Sluice.Text.Lines

/-!
The two notions of a line beside each other. A text that ends with a newline is cut off from what
follows by both. It has as many lines as newlines if it has no other breaks, and more if it has.
-/
namespace Sluice.Text

/-- A text that ends where a line ends, so that nothing behind it belongs to its last line. -/
def Closed (cs : List Char) : Prop :=
  ∀ c, cs.getLast? = some c → c = '\n'

/-- No line breaks but newlines, alone or behind a carriage return. -/
def NewlinesOnly (cs : List Char) : Prop :=
  ∀ before c after, cs = before ++ c :: after → isBreak c = true →
    c = '\n' ∨ c = '\r' ∧ after.head? = some '\n'

/-- A carriage return before a newline leaves it to the newline to end the line. -/
def endsLine (c : Char) (rest : List Char) : Bool :=
  isBreak c && !(c = '\r' && rest.head? = some '\n')

section
variable {c : Char} {cs rest before after line : List Char}

theorem Closed.tail (closed : Closed (c :: rest)) : Closed rest := by
  intro d last
  apply closed
  rw [List.getLast?_cons, last, Option.getD_some]

theorem Closed.eq_newline (closed : Closed [c]) : c = '\n' :=
  closed c rfl

theorem endsLine_newline (rest : List Char) : endsLine '\n' rest = true :=
  rfl

theorem endsLine_iff :
    endsLine c rest = true ↔ isBreak c = true ∧ ¬(c = '\r' ∧ rest.head? = some '\n') := by
  simp only [endsLine, Bool.and_eq_true, Bool.not_eq_true', Bool.and_eq_false_iff,
    decide_eq_false_iff_not, not_and_or]

theorem newlinesOnly_nil : NewlinesOnly [] := by
  intro before c after split
  cases before <;> cases split

theorem newlinesOnly_cons_iff :
    NewlinesOnly (c :: rest) ↔ (endsLine c rest = true → c = '\n') ∧ NewlinesOnly rest := by
  rw [endsLine_iff]
  constructor
  · intro only
    constructor
    · rintro ⟨breaks, alone⟩
      exact (only [] c rest rfl breaks).resolve_right alone
    · intro before d after split
      exact only (c :: before) d after (by rw [split, List.cons_append])
  · rintro ⟨first, others⟩ before d after split breaks
    cases before with
    | nil =>
      cases split
      by_cases pair : c = '\r' ∧ rest.head? = some '\n'
      · exact .inr pair
      · exact .inl (first ⟨breaks, pair⟩)
    | cons b before =>
      injection split with _ split
      exact others before d after split breaks

instance NewlinesOnly.decidable : (cs : List Char) → Decidable (NewlinesOnly cs)
  | [] => .isTrue newlinesOnly_nil
  | _ :: rest =>
    have := decidable rest
    decidable_of_iff _ newlinesOnly_cons_iff.symm

/-- A carriage return at the end would depend on what follows, but a closed text has none there. -/
theorem NewlinesOnly.of_append (only : NewlinesOnly (before ++ after)) (closed : Closed before) :
    NewlinesOnly before := by
  intro first c last split breaks
  have there := only first c (last ++ after) (by rw [split, List.append_assoc]; rfl) breaks
  cases last with
  | nil =>
    left
    apply closed
    rw [split, List.getLast?_concat]
  | cons d last => exact there

/-! ## Line by line -/

theorem lines_cons (c : Char) (rest : List Char) :
    lines (c :: rest) = if endsLine c rest then [] :: lines rest
      else if isBreak c then lines rest else extendFirst c (lines rest) := by
  by_cases pair : c = '\r' ∧ rest.head? = some '\n'
  · obtain ⟨rfl, next⟩ := pair
    obtain ⟨more, rfl⟩ := List.head?_eq_some_iff.mp next
    rfl
  · have alone : endsLine c rest = isBreak c := by
      rw [Bool.eq_iff_iff, endsLine_iff, and_iff_left pair]
    rw [alone]
    conv_lhs => unfold lines
    split
    · contradiction
    · rename_i more split
      cases split
      exact absurd ⟨rfl, rfl⟩ pair
    · rename_i split
      cases split
      split <;> rfl

theorem extendFirst_append {first more : List (List Char)} (filled : first ≠ []) :
    extendFirst c (first ++ more) = extendFirst c first ++ more := by
  cases first with
  | nil => exact (filled rfl).elim
  | cons line others => rfl

theorem length_extendFirst {first : List (List Char)} (filled : first ≠ []) :
    (extendFirst c first).length = first.length := by
  cases first with
  | nil => exact (filled rfl).elim
  | cons line others => rfl

/-- The first line goes on up to the first break. -/
theorem head?_lines (filled : cs ≠ []) :
    (lines cs).head? = some (cs.takeWhile (!isBreak ·)) := by
  induction cs with
  | nil => exact (filled rfl).elim
  | cons c rest ih =>
    rw [lines_cons, List.takeWhile_cons]
    by_cases breaks : isBreak c = true
    · have none : (!isBreak c) ≠ true := by simp [breaks]
      rw [if_neg none, if_pos breaks]
      by_cases ends : endsLine c rest = true
      · rw [if_pos ends]
        rfl
      · rw [if_neg ends]
        -- The carriage return is left out, and the newline behind it is the break.
        rw [endsLine_iff, not_and_not_right] at ends
        obtain ⟨more, rfl⟩ := List.head?_eq_some_iff.mp (ends breaks).2
        exact ih (List.cons_ne_nil _ _)
    · have ends : ¬endsLine c rest = true := fun ends => breaks (endsLine_iff.mp ends).1
      have letter : (!isBreak c) = true := by simpa using breaks
      rw [if_neg ends, if_neg breaks, if_pos letter]
      cases rest with
      | nil => rfl
      | cons d rest =>
        obtain ⟨others, first⟩ := List.head?_eq_some_iff.mp (ih (List.cons_ne_nil d rest))
        rw [first]
        rfl

theorem lines_ne_nil (filled : cs ≠ []) : lines cs ≠ [] := by
  intro empty
  have first := head?_lines filled
  rw [empty] at first
  cases first

theorem lines_append (closed : Closed before) (after : List Char) :
    lines (before ++ after) = lines before ++ lines after := by
  induction before with
  | nil => rfl
  | cons c rest ih =>
    rw [List.cons_append, lines_cons, lines_cons, ih closed.tail]
    cases rest with
    | nil =>
      obtain rfl := closed.eq_newline
      rfl
    | cons d rest =>
      have filled : lines (d :: rest) ≠ [] := lines_ne_nil (List.cons_ne_nil d rest)
      have ends : endsLine c (d :: rest ++ after) = endsLine c (d :: rest) := rfl
      rw [extendFirst_append filled, ends]
      split
      · rfl
      · split <;> rfl

theorem length_lines_cons (closed : Closed (c :: rest)) :
    (lines (c :: rest)).length = (lines rest).length + if endsLine c rest then 1 else 0 := by
  rw [lines_cons]
  split
  · exact List.length_cons
  · split
    · rfl
    · apply length_extendFirst
      apply lines_ne_nil
      rintro rfl
      obtain rfl := closed.eq_newline
      contradiction

theorem newlines_cons (c : Char) (rest : List Char) :
    newlines (c :: rest) = newlines rest + if c = '\n' then 1 else 0 := by
  simp only [newlines, List.count_cons, beq_iff_eq]

/-- Counted by newlines a text never has more lines. -/
theorem length_lines (closed : Closed cs) :
    (NewlinesOnly cs → (lines cs).length = newlines cs) ∧
    (¬NewlinesOnly cs → newlines cs < (lines cs).length) := by
  induction cs with
  | nil => exact ⟨fun _ => rfl, fun other => (other newlinesOnly_nil).elim⟩
  | cons c rest ih =>
    obtain ⟨same, more⟩ := ih closed.tail
    rw [newlinesOnly_cons_iff, length_lines_cons closed, newlines_cons]
    by_cases newline : c = '\n'
    · subst newline
      simp only [endsLine_newline, if_true, forall_const, true_and]
      constructor
      · intro only
        rw [same only]
      · intro other
        exact Nat.succ_lt_succ (more other)
    · rw [if_neg newline]
      by_cases ends : endsLine c rest = true
      · have atMost : newlines rest ≤ (lines rest).length := by
          by_cases only : NewlinesOnly rest
          · exact Nat.le_of_eq (same only).symm
          · exact Nat.le_of_lt (more only)
        rw [if_pos ends]
        constructor
        · rintro ⟨only, _⟩
          exact (newline (only ends)).elim
        · intro _
          exact Nat.lt_succ_of_le atMost
      · simp only [ends, Bool.false_eq_true, if_false, false_imp_iff, true_and, Nat.add_zero]
        exact ⟨same, more⟩

theorem mem_lines_of_mem_tail (member : line ∈ (lines (c :: rest)).tail) : line ∈ lines rest := by
  rw [lines_cons] at member
  split at member
  · exact member
  · split at member
    · exact List.mem_of_mem_tail member
    · cases split : lines rest with
      | nil =>
        rw [split] at member
        cases member
      | cons first others =>
        rw [split] at member
        exact List.mem_cons_of_mem first member

/-- A line is a piece of the text, without breaks. -/
theorem mem_lines (member : line ∈ lines cs) :
    line <:+: cs ∧ ∀ c ∈ line, isBreak c = false := by
  induction cs generalizing line with
  | nil => cases member
  | cons c rest ih =>
    obtain ⟨others, first⟩ := List.head?_eq_some_iff.mp (head?_lines (List.cons_ne_nil c rest))
    have later (there : line ∈ others) : line ∈ lines rest := by
      apply mem_lines_of_mem_tail
      rwa [first]
    rw [first, List.mem_cons] at member
    rcases member with rfl | there
    · constructor
      · exact (List.takeWhile_prefix _).isInfix
      · intro d within
        simpa using List.mem_takeWhile_imp within
    · obtain ⟨piece, unbroken⟩ := ih (later there)
      exact ⟨List.infix_cons piece, unbroken⟩

/-! ## The line of a position -/

/-- The lines that end before a position, with their newlines. -/
def linesBefore (cs : List Char) (pos : Nat) : List Char :=
  (cs.take pos).rdropWhile (· ≠ '\n')

/-- What stands between the last newline before a position and the position. -/
def lineBegun (cs : List Char) (pos : Nat) : List Char :=
  (cs.take pos).rtakeWhile (· ≠ '\n')

/-- From the last newline before a position to the next at it or behind it. -/
def lineAt (cs : List Char) (pos : Nat) : List Char :=
  lineBegun cs pos ++ (cs.drop pos).takeWhile (· ≠ '\n')

variable {pos : Nat}

theorem linesBefore_append (cs : List Char) (pos : Nat) :
    linesBefore cs pos ++ (lineBegun cs pos ++ cs.drop pos) = cs := by
  rw [← List.append_assoc, linesBefore, lineBegun, List.rdropWhile_append_rtakeWhile,
    List.take_append_drop]

theorem linesBefore_closed (cs : List Char) (pos : Nat) : Closed (linesBefore cs pos) := by
  intro c last
  have filled : linesBefore cs pos ≠ [] := by
    intro empty
    rw [empty] at last
    cases last
  rw [List.getLast?_eq_some_getLast filled, Option.some.injEq] at last
  have newline := List.rdropWhile_last_not (· ≠ '\n') (cs.take pos) filled
  rw [decide_eq_true_eq, not_not] at newline
  rw [← last]
  exact newline

theorem linesBefore_newlinesOnly (only : NewlinesOnly cs) (pos : Nat) :
    NewlinesOnly (linesBefore cs pos) := by
  rw [← linesBefore_append cs pos] at only
  exact only.of_append (linesBefore_closed cs pos)

theorem newline_notMem_lineBegun (cs : List Char) (pos : Nat) : '\n' ∉ lineBegun cs pos := by
  intro member
  have other := List.mem_rtakeWhile_imp member
  simp at other

theorem length_lineBegun (cs : List Char) (pos : Nat) :
    (lineBegun cs pos).length = afterNewline (cs.take pos) :=
  List.length_reverse

theorem length_lineBegun_le (cs : List Char) (pos : Nat) : (lineBegun cs pos).length ≤ pos := by
  have inside := (List.rtakeWhile_suffix (· ≠ '\n') (cs.take pos)).length_le
  exact Nat.le_trans inside (List.length_take_le pos cs)

theorem length_linesBefore {pos : Nat} (inside : pos ≤ cs.length) :
    (linesBefore cs pos).length + (lineBegun cs pos).length = pos := by
  have whole := congrArg List.length (linesBefore_append cs pos)
  simp only [List.length_append, List.length_drop] at whole
  omega

/-- What a line and all behind it starts with. -/
theorem drop_sub_length_lineBegun {pos : Nat} (inside : pos ≤ cs.length) :
    cs.drop (pos - (lineBegun cs pos).length) = lineBegun cs pos ++ cs.drop pos := by
  have start : pos - (lineBegun cs pos).length = (linesBefore cs pos).length := by
    have split := length_linesBefore inside
    omega
  calc cs.drop (pos - (lineBegun cs pos).length)
    _ = (linesBefore cs pos ++ (lineBegun cs pos ++ cs.drop pos)).drop
          (linesBefore cs pos).length := by
        rw [linesBefore_append, start]
    _ = lineBegun cs pos ++ cs.drop pos := List.drop_left

theorem newlines_take (cs : List Char) (pos : Nat) :
    newlines (cs.take pos) = newlines (linesBefore cs pos) := by
  have whole : linesBefore cs pos ++ lineBegun cs pos = cs.take pos :=
    List.rdropWhile_append_rtakeWhile
  have rest : (lineBegun cs pos).count '\n' = 0 :=
    List.count_eq_zero.mpr (newline_notMem_lineBegun cs pos)
  rw [← whole, newlines, newlines, List.count_append, rest, Nat.add_zero]

theorem lines_split (cs : List Char) (pos : Nat) :
    lines cs = lines (linesBefore cs pos) ++ lines (lineBegun cs pos ++ cs.drop pos) := by
  rw [← lines_append (linesBefore_closed cs pos), linesBefore_append]

/-- Where no other breaks come before, the newlines before a position lead to its own line. -/
theorem getElem?_lines_own (only : NewlinesOnly (linesBefore cs pos)) :
    (lines cs)[newlines (cs.take pos)]? = (lines (lineBegun cs pos ++ cs.drop pos)).head? := by
  have length := (length_lines (linesBefore_closed cs pos)).1 only
  rw [newlines_take, lines_split cs pos, ← length, List.getElem?_append_right (Nat.le_refl _),
    Nat.sub_self, List.head?_eq_getElem?]

/-- Where others do, they lead to an earlier one. -/
theorem getElem?_lines_earlier (other : ¬NewlinesOnly (linesBefore cs pos))
    (found : (lines cs)[newlines (cs.take pos)]? = some line) :
    line ∈ lines (linesBefore cs pos) := by
  have short := (length_lines (linesBefore_closed cs pos)).2 other
  rw [newlines_take, lines_split cs pos, List.getElem?_append_left short] at found
  exact List.mem_of_getElem? found

theorem lineAt_eq (cs : List Char) (pos : Nat) :
    lineAt cs pos = (lineBegun cs pos ++ cs.drop pos).takeWhile (· ≠ '\n') := by
  have begun (c : Char) (member : c ∈ lineBegun cs pos) : decide (c ≠ '\n') = true := by
    apply decide_eq_true
    rintro rfl
    exact newline_notMem_lineBegun cs pos member
  rw [List.takeWhile_append_of_pos begun, lineAt]

/-- The line of a position up to its first break of any kind. -/
def lineShown (cs : List Char) (pos : Nat) : List Char :=
  (lineBegun cs pos ++ cs.drop pos).takeWhile (!isBreak ·)

/-- A line ends at any break, the line of a position only at a newline. -/
theorem lineShown_prefix_lineAt (cs : List Char) (pos : Nat) :
    lineShown cs pos <+: lineAt cs pos := by
  have stricter : (fun c => !isBreak c) =
      fun c => decide ((!isBreak c) = true ∧ decide (c ≠ '\n') = true) := by
    funext c
    by_cases newline : c = '\n'
    · subst newline
      rfl
    · simp [newline]
  rw [lineAt_eq, lineShown, stricter, ← List.takeWhile_takeWhile]
  exact List.takeWhile_prefix _

theorem lineShown_prefix_drop (inside : pos ≤ cs.length) :
    lineShown cs pos <+: cs.drop (pos - (lineBegun cs pos).length) := by
  rw [drop_sub_length_lineBegun inside]
  exact List.takeWhile_prefix _

/-- Whatever breaks the line before a character would be followed by a newline. -/
theorem lineBegun_unbroken (only : NewlinesOnly cs) (character : cs[pos]? = some c)
    (letter : isBreak c = false) : ∀ d ∈ lineBegun cs pos, isBreak d = false := by
  obtain ⟨inside, rfl⟩ := List.getElem?_eq_some_iff.mp character
  have newline := newline_notMem_lineBegun cs pos
  intro d member
  rw [← Bool.not_eq_true]
  intro breaks
  obtain ⟨before, after, split⟩ := List.append_of_mem member
  have whole : cs = (linesBefore cs pos ++ before) ++ d :: (after ++ cs.drop pos) := by
    have parts := (linesBefore_append cs pos).symm
    rw [split] at parts
    simpa only [List.append_assoc, List.cons_append] using parts
  rcases only _ d _ whole breaks with rfl | ⟨_, next⟩
  · exact newline member
  · cases after with
    | nil =>
      rw [List.nil_append, List.drop_eq_getElem_cons inside, List.head?_cons,
        Option.some.injEq] at next
      rw [next] at letter
      cases letter
    | cons b after =>
      rw [List.cons_append, List.head?_cons, Option.some.injEq] at next
      subst next
      apply newline
      rw [split]
      exact List.mem_append_right before (List.mem_cons_of_mem d List.mem_cons_self)

/-- The line of a character is whole up to it and goes on behind it to the first break. -/
theorem lineShown_character (only : NewlinesOnly cs) (character : cs[pos]? = some c)
    (letter : isBreak c = false) :
    lineShown cs pos = lineBegun cs pos ++ c :: (cs.drop (pos + 1)).takeWhile (!isBreak ·) := by
  have begun (d : Char) (member : d ∈ lineBegun cs pos) : (!isBreak d) = true := by
    rw [lineBegun_unbroken only character letter d member, Bool.not_false]
  have on : (!isBreak c) = true := by rw [letter, Bool.not_false]
  obtain ⟨inside, rfl⟩ := List.getElem?_eq_some_iff.mp character
  rw [lineShown, List.takeWhile_append_of_pos begun, List.drop_eq_getElem_cons inside,
    List.takeWhile_cons, if_pos on]

end

end Sluice.Text
