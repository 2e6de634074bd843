import Sluice.Proofs.Numerals

/-!
The whole-number parser takes the longest numeral that lies at its position, and nothing where that
has no digits.
-/
namespace Sluice

namespace Numeral

/-- A numeral that a sequence of items begins with, none of them being longer. -/
structure IsLongest (m : Numeral) (items : List Value) : Prop where
  here : m.items <+: items
  longest : ∀ m' : Numeral, m'.items <+: items → m'.items.length ≤ m.items.length

theorem IsLongest.unique {m m' : Numeral} {items : List Value} (one : m.IsLongest items)
    (other : m'.IsLongest items) : m' = m := by
  have length : m'.items.length = m.items.length :=
    Nat.le_antisymm (one.longest m' other.here) (other.longest m one.here)
  have within := List.prefix_of_prefix_length_le other.here one.here length.le
  exact items_injective (within.eq_of_length length)

/-- Nothing behind a numeral could have been part of it. -/
structure Ends (m : Numeral) (rest : List Value) : Prop where
  digit : Value.Stops (Text.letters Text.digits) rest
  sign : m = ⟨none, []⟩ → Value.Stops (Text.letters Text.signs) rest

theorem Ends.isLongest {m : Numeral} {items rest : List Value} (left : items = m.items ++ rest)
    (ends : m.Ends rest) : m.IsLongest items := by
  subst left
  refine ⟨List.prefix_append _ _, fun m' here => Nat.le_of_not_lt fun longer => ?_⟩
  have within : m.items <+: m'.items :=
    List.prefix_of_prefix_length_le (List.prefix_append _ _) here (by omega)
  obtain ⟨more, split⟩ := within
  cases more with
  | nil =>
    rw [← split, List.append_nil] at longer
    exact Nat.lt_irrefl _ longer
  | cons v more =>
    obtain ⟨behind, whole⟩ := here
    rw [← split, List.append_assoc] at whole
    have next : rest = v :: (more ++ behind) := (List.append_cancel_left whole).symm
    rcases item_of_items split.symm with isDigit | ⟨nothing, isSign⟩
    · have none_here := ends.digit
      simp [Value.Stops, next, isDigit] at none_here
    · have none_here := ends.sign (items_eq_nil nothing)
      simp [Value.Stops, next, isSign] at none_here

theorem exists_digits (items : List Value) :
    ∃ (ds : List (Fin 10)) (rest : List Value),
      items = ds.map digit ++ rest ∧ Value.Stops (Text.letters Text.digits) rest := by
  induction items with
  | nil => exact ⟨[], [], rfl, rfl⟩
  | cons v items ih =>
    cases known : v.isOneOf (Text.letters Text.digits) with
    | true =>
      obtain ⟨d, rfl⟩ := isOneOf_digits.mp known
      obtain ⟨ds, rest, rfl, stops⟩ := ih
      exact ⟨d :: ds, rest, rfl, stops⟩
    | false => exact ⟨[], v :: items, rfl, known⟩

theorem exists_ends (items : List Value) :
    ∃ (m : Numeral) (rest : List Value), items = m.items ++ rest ∧ m.Ends rest := by
  cases known : items.head?.any (·.isOneOf (Text.letters Text.signs)) with
  | true =>
    cases items with
    | nil => cases known
    | cons v items =>
      obtain ⟨sign, rfl⟩ := isOneOf_signs.mp known
      obtain ⟨ds, rest, rfl, stops⟩ := exists_digits items
      refine ⟨⟨some sign, ds⟩, rest, ?_, stops, nofun⟩
      rw [items_signed, List.cons_append]
  | false =>
    obtain ⟨ds, rest, rfl, stops⟩ := exists_digits items
    refine ⟨⟨none, ds⟩, rest, by rw [items_unsigned], stops, ?_⟩
    rintro ⟨⟩
    exact known

end Numeral

namespace Parser

open Numeral (digit)

variable {src : Source} {p : Int} {rest : List Value}

theorem joined_items (m : Numeral) : joined m.items = m.chars := by
  rw [joined, Numeral.items, List.flatMap_map]
  simp only [Source.ofChar, String.toList_singleton, List.flatMap_singleton']

/-- Where no digit comes, the whole number failed at its start. -/
theorem integerDigits_none (lo : -src.length ≤ p)
    (stops : Value.Stops (Text.letters Text.digits) (src.ahead p)) (c : Checkpoint)
    (calls : List Nat) :
    integerDigits src c ⟨p, calls⟩ =
      .ok (c.uncommit, .failure none (some c.pos) .nothing (some "Expected a decimal digit."))
        ⟨p, calls⟩ := by
  rw [integerDigits_run, Source.meets_ahead _ lo, stops]
  rfl

theorem integerDigits_some {ds : List (Fin 10)} (digits : ds ≠ []) (lo : -src.length ≤ p)
    (left : src.ahead p = ds.map digit ++ rest)
    (stops : Value.Stops (Text.letters Text.digits) rest) (c : Checkpoint) (calls : List Nat) :
    integerDigits src c ⟨p, calls⟩ =
      match Text.readNumeral (joined (src.cut c.pos (p + ds.length)).items) with
      | .ok n => c.result (.int n) ⟨p + ds.length, calls⟩
      | .error fault => .error (.numeral fault) ⟨p + ds.length, calls⟩ := by
  have inside : ∀ v ∈ ds.map digit, v.isOneOf (Text.letters Text.digits) = true := by
    intro v member
    obtain ⟨d, _, rfl⟩ := List.mem_map.mp member
    exact Numeral.isOneOf_digits.mpr ⟨d, rfl⟩
  have met : (src.ahead p).head?.any (·.isOneOf (Text.letters Text.digits)) = true := by
    cases ds with
    | nil => cases digits rfl
    | cons d ds => rw [left]; exact inside (digit d) List.mem_cons_self
  have skipped := Stream.skip_over inside stops lo left calls
  rw [List.length_map] at skipped
  rw [integerDigits_run, Source.meets_ahead _ lo, met]
  cases read : Text.readNumeral (joined (src.cut c.pos (p + ds.length)).items) <;>
    simp only [skipped, read]

/-- A sign is passed if there is one. -/
theorem pass_sign {m : Numeral} (lo : -src.length ≤ p) (left : src.ahead p = m.items ++ rest)
    (ends : m.Ends rest) (calls : List Nat) :
    Stream.pass src (Text.letters Text.signs) ⟨p, calls⟩ =
      .ok () ⟨p + m.sign.toList.length, calls⟩ := by
  rw [Stream.pass_run, Source.meets_ahead _ lo, left]
  rcases m with ⟨_ | sign, ds⟩
  · have unmet : Value.Stops (Text.letters Text.signs) (ds.map digit ++ rest) := by
      cases ds with
      | nil => exact ends.sign rfl
      | cons d ds => exact Numeral.digit_not_sign d
    rw [Numeral.items_unsigned, unmet, Option.toList_none, List.length_nil, Int.natCast_zero,
      Int.add_zero]
  · rw [Numeral.items_signed, List.cons_append, List.head?_cons, Option.any_some,
      Numeral.isOneOf_signs.mpr ⟨sign, rfl⟩]
    rfl

theorem ahead_sign {m : Numeral} (lo : -src.length ≤ p) (left : src.ahead p = m.items ++ rest) :
    src.ahead (p + m.sign.toList.length) = m.digits.map digit ++ rest := by
  rcases m with ⟨_ | sign, ds⟩
  · rw [Numeral.items_unsigned] at left
    rw [Option.toList_none, List.length_nil, Int.natCast_zero, Int.add_zero, left]
  · rw [Numeral.items_signed] at left
    exact Source.ahead_cons lo left

/-- From any position that leads to items, the parser goes to the end of a numeral and reads what
is cut out there. -/
theorem integer_scan {m : Numeral} (lo : -src.length ≤ p) (left : src.ahead p = m.items ++ rest)
    (ends : m.Ends rest) (calls : List Nat) :
    integer.run src ⟨p, calls⟩ =
      if m.digits = [] then
        .ok (.failure none (some p) .nothing (some "Expected a decimal digit.")) ⟨p, calls⟩
      else match Text.readNumeral (joined (src.cut p (p + m.items.length)).items) with
        | .ok n => .ok (.success none (.int n) (some (p, p + m.items.length)))
            ⟨p + m.items.length, calls⟩
        | .error fault => .error (.numeral fault) ⟨p, calls⟩ := by
  have behind := ahead_sign lo left
  have lo' : -src.length ≤ p + m.sign.toList.length := by omega
  have body : (do Stream.pass src (Text.letters Text.signs); integerDigits src ⟨p, false⟩)
      ⟨p, calls⟩ = integerDigits src ⟨p, false⟩ ⟨p + m.sign.toList.length, calls⟩ := by
    rw [Action.bind_run, pass_sign lo left ends]
  rw [integer, run]
  by_cases digits : m.digits = []
  · rw [digits] at behind
    rw [integerDigits_none lo' (by rw [behind]; exact ends.digit)] at body
    rw [if_pos digits]
    exact Checkpoint.block_of_uncommitted (c := ⟨p, false⟩)
      (t := ⟨p + m.sign.toList.length, calls⟩) body rfl
  · rw [integerDigits_some digits lo' behind ends.digit, Int.add_assoc, ← Int.natCast_add,
      ← Numeral.length_items] at body
    rw [if_neg digits]
    cases read : Text.readNumeral (joined (src.cut p (p + m.items.length)).items) with
    | ok n =>
      rw [read] at body
      exact Checkpoint.block_of_committed body rfl
    | error fault =>
      rw [read] at body
      exact Checkpoint.block_of_error (t := ⟨p + m.items.length, calls⟩) body

end Parser

/-- What parsing a numeral from a position comes to. -/
def Numeral.outcome (m : Numeral) (s : Nat) (calls : List Nat) :
    EStateM.Result Fault Progress Reply :=
  if m.digits = [] then
    .ok (.failure none (some s) .nothing (some "Expected a decimal digit.")) ⟨s, calls⟩
  else if m.digits.length ≤ 4300 then
    .ok (.success none (.int m.value) (some (s, (s + m.items.length : Nat))))
      ⟨(s + m.items.length : Nat), calls⟩
  else .error (.numeral (.tooLong m.digits.length)) ⟨s, calls⟩

namespace Parser

variable {src : Source} {s : Nat} {rest : List Value}

theorem integer_run {m : Numeral} (left : src.items.drop s = m.items ++ rest)
    (ends : m.Ends rest) (calls : List Nat) :
    integer.run src ⟨s, calls⟩ = m.outcome s calls := by
  have ahead : src.ahead s = m.items ++ rest := by rw [Source.ahead_natCast, left]
  rw [integer_scan (by omega) ahead ends, Numeral.outcome, ← Int.natCast_add]
  by_cases digits : m.digits = []
  · rw [if_pos digits, if_pos digits]
  · rw [if_neg digits, if_neg digits, Source.items_cut_of_drop src left, joined_items,
      Numeral.readNumeral_chars digits]
    by_cases short : m.digits.length ≤ 4300
    · rw [if_pos short, if_pos short]
    · rw [if_neg short, if_neg short]

/-- **The whole-number parser takes the longest numeral**, which there is exactly one of, and stops
before an item that is no digit. -/
theorem integer_longest_match (src : Source) (s : Nat) (calls : List Nat) :
    ∃ m : Numeral, m.IsLongest (src.items.drop s) ∧
      (∀ m' : Numeral, m'.IsLongest (src.items.drop s) → m' = m) ∧
      (∀ d, src.items[s + m.items.length]? ≠ some (Numeral.digit d)) ∧
      integer.run src ⟨s, calls⟩ = m.outcome s calls := by
  obtain ⟨m, rest, left, ends⟩ := Numeral.exists_ends (src.items.drop s)
  have longest := Numeral.Ends.isLongest left ends
  refine ⟨m, longest, fun m' other => longest.unique other, fun d there => ?_,
    integer_run left ends calls⟩
  rw [← List.getElem?_drop, left, List.getElem?_append_right (Nat.le_refl _), Nat.sub_self,
    ← List.head?_eq_getElem?] at there
  have stops := ends.digit
  rw [Value.Stops, there, Option.any_some, Numeral.isOneOf_digits.mpr ⟨d, rfl⟩] at stops
  cases stops

end Parser

end Sluice
