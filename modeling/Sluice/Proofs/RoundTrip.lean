import Sluice.Parser.Builder
import Sluice.Proofs.LongestMatch
import Sluice.Proofs.Opposites
import Sluice.Proofs.Spelling

/-!
Whole numbers written and read back. Whatever is around it, a written number is the longest numeral
at its place, so reading it gives the number, and a filter behind the reading decides whether it is
the one that the filter was made for.
-/
namespace Sluice

/-- A whole number in writing, with zeros before its digits. A number that is not below zero may
have a sign, too. -/
def Text.written (plus : Bool) (zeros : Nat) (v : Int) : List Char :=
  (if v < 0 then ['-'] else if plus then ['+'] else []) ++
    (List.replicate zeros '0' ++ (toString v.natAbs).toList)

namespace Numeral

open Text (written)

/-- Without additions it is how values are written. -/
theorem written_plain (v : Int) : written false 0 v = (Value.int v).plain.toList := by
  cases v with
  | ofNat n => rfl
  | negSucc n =>
    have text : (Value.int (.negSucc n)).plain = "-" ++ toString (n + 1) := rfl
    rw [text, String.toList_append, written, if_pos (Int.negSucc_lt_zero n)]
    rfl

/-! ## The digits of a number -/

theorem exists_digitChar {c : Char} (digit : c.isDigit = true) : ∃ d, c = digitChar d := by
  have range : 48 ≤ c.toNat ∧ c.toNat ≤ 57 := by
    simpa [Char.isDigit, UInt32.le_iff_toNat_le] using digit
  have small : c.toNat - 48 < 10 := by omega
  refine ⟨⟨c.toNat - 48, small⟩, ?_⟩
  apply Char.toNat_inj.mp
  rw [digitChar, Nat.toNat_digitChar_of_lt_ten small]
  omega

theorem exists_map_digitChar {cs : List Char} (digits : ∀ c ∈ cs, c.isDigit = true) :
    ∃ ds : List (Fin 10), cs = ds.map digitChar := by
  induction cs with
  | nil => exact ⟨[], rfl⟩
  | cons c cs ih =>
    obtain ⟨first, others⟩ := List.forall_mem_cons.mp digits
    obtain ⟨d, rfl⟩ := exists_digitChar first
    obtain ⟨ds, rfl⟩ := ih others
    exact ⟨d :: ds, rfl⟩

theorem positional_toString (zeros n : Nat) :
    Text.positional (List.replicate zeros '0' ++ (toString n).toList) = n := by
  have same (cs : List Char) : Text.positional cs = Nat.ofDigitChars 10 cs 0 := rfl
  rw [same, Nat.ofDigitChars_append, Nat.ofDigitChars_replicate_zero, Nat.mul_zero,
    Nat.toString_eq_repr, Nat.toList_repr, Nat.ofDigitChars_ten_toDigits]

theorem isDigit_of_mem (zeros n : Nat) :
    ∀ c ∈ List.replicate zeros '0' ++ (toString n).toList, c.isDigit = true := by
  intro c member
  rw [List.mem_append, Nat.toString_eq_repr, Nat.toList_repr] at member
  rcases member with zero | digit
  · obtain rfl := List.eq_of_mem_replicate zero
    rfl
  · exact Nat.isDigit_of_mem_toDigits (by decide) (by decide) digit

theorem length_toString_pos (n : Nat) : 0 < (toString n).length := by
  rw [← String.length_toList, Nat.toString_eq_repr, Nat.toList_repr, List.length_pos_iff]
  exact Nat.toDigits_ne_nil

/-- A written number is the numeral of that value. -/
theorem exists_chars_written (plus : Bool) (zeros : Nat) (v : Int) :
    ∃ m : Numeral, m.chars = written plus zeros v ∧ m.value = v ∧
      m.digits.length = zeros + (toString v.natAbs).length := by
  obtain ⟨ds, spelled⟩ := exists_map_digitChar (isDigit_of_mem zeros v.natAbs)
  have magnitude (sign : Option Sign) : magnitude ⟨sign, ds⟩ = v.natAbs := by
    rw [Numeral.magnitude, ← positional_eq, ← spelled, positional_toString]
  have length : ds.length = zeros + (toString v.natAbs).length := by
    have lengths := congrArg List.length spelled
    simp only [List.length_append, List.length_replicate, String.length_toList,
      List.length_map] at lengths
    exact lengths.symm
  refine ⟨⟨if v < 0 then some .minus else if plus then some .plus else none, ds⟩, ?_, ?_, length⟩
  · rw [chars, written, ← spelled]
    split
    · rfl
    · split <;> rfl
  · simp only [value, magnitude]
    by_cases negative : v < 0
    · simp only [negative, if_true]
      omega
    · cases plus <;> simp only [negative, Bool.false_eq_true, if_false, if_true] <;> omega

/-! ## In its surroundings -/

variable {a b : List Char}

theorem stops_tokens (apart : ∀ c ∈ b.head?, c ∉ Text.digits) :
    Value.Stops (Text.letters Text.digits) (tokens b) := by
  cases b with
  | nil => rfl
  | cons c b =>
    have other : c ∉ Text.digits := apart c rfl
    rw [Value.Stops, tokens, List.map_cons, List.head?_cons, Option.any_some,
      ← Bool.not_eq_true, Value.isOneOf_letters]
    rintro ⟨d, member, same⟩
    rw [← ofChar_injective same] at member
    exact other member

theorem outcome_written {m : Numeral} {v : Int} (value : m.value = v)
    (short : m.digits.length ≤ 4300) (digits : m.digits ≠ []) (start : Nat) (calls : List Nat) :
    m.outcome start calls =
      .ok (.success none (.int v) (some (start, (start + m.chars.length : Nat))))
        ⟨(start + m.chars.length : Nat), calls⟩ := by
  have width : m.items.length = m.chars.length := List.length_map _
  rw [outcome, if_neg digits, if_pos short, value, width]

end Numeral

/-! ## Filters on whole numbers -/

theorem Layer.holds_int (direction : Direction) (d : Option Diagnostic) (v r : Int) :
    Layer.holds ⟨direction, .int r, d⟩ (.int v) =
      .ok (direction.answer (decide (v = r))).truthy := by
  have same : (Number.whole v).equals (.whole r) = decide (v = r) := by
    have asked : (Number.whole v).equals (.whole r) = (Number.whole v == .whole r) := rfl
    rw [asked, Bool.eq_iff_iff, beq_iff_eq, decide_eq_true_eq, Number.whole.injEq]
  rw [Layer.holds_eq_ask, Value.ask_numbers direction rfl rfl, same]
  rfl

namespace Parser

/-- What becomes of a written number from `start` to `stop`. -/
structure ReadsBack (src : Source) (start stop : Nat) (v : Int) : Prop where
  parsed : ∀ calls, integer.run src ⟨start, calls⟩ =
    .ok (.success none (.int v) (some (start, stop))) ⟨stop, calls⟩
  /-- Rejected or not, the number has been read. -/
  eq : ∀ r calls, (integer.eq (.int r)).run src ⟨start, calls⟩ =
    .ok (if v = r then .success none (.int v) (some (start, stop))
      else .failure none (some start) .nothing none) ⟨stop, calls⟩
  ne : ∀ r calls, (integer.ne (.int r)).run src ⟨start, calls⟩ =
    .ok (if v ≠ r then .success none (.int v) (some (start, stop))
      else .failure none (some start) .nothing none) ⟨stop, calls⟩
  negated : ∀ r form, ∃ p, (integer.eq (.int r)).negate form = .ok p ∧
    ∀ calls, p.run src ⟨start, calls⟩ =
      .ok (if v ≠ r then .success none (.int v) (some (start, stop))
        else .failure none (some start) .nothing none) ⟨stop, calls⟩

theorem filter_integer_run {src : Source} {start stop : Nat} {v : Int} {calls : List Nat}
    (parsed : integer.run src ⟨start, calls⟩ =
      .ok (.success none (.int v) (some (start, stop))) ⟨stop, calls⟩)
    (direction : Direction) (r : Int) :
    (integer.filter ⟨direction, .int r, none⟩).run src ⟨start, calls⟩ =
      .ok (if (direction.answer (decide (v = r))).truthy
        then .success none (.int v) (some (start, stop))
        else .failure none (some start) .nothing none) ⟨stop, calls⟩ := by
  rw [run, Action.bind_run, parsed]
  dsimp only
  rw [narrow_run]
  dsimp only
  rw [Layer.holds_int]
  cases (direction.answer (decide (v = r))).truthy <;> rfl

theorem ReadsBack.of_parsed {src : Source} {start stop : Nat} {v : Int}
    (parsed : ∀ calls, integer.run src ⟨start, calls⟩ =
      .ok (.success none (.int v) (some (start, stop))) ⟨stop, calls⟩) :
    ReadsBack src start stop v := by
  have equal (r : Int) (calls : List Nat) := filter_integer_run (parsed calls) .eq r
  have unequal (r : Int) (calls : List Nat) := filter_integer_run (parsed calls) .ne r
  simp only [Direction.answer, Value.truthy, decide_eq_true_eq, Bool.not_eq_true',
    decide_eq_false_iff_not] at equal unequal
  exact ⟨parsed, equal, unequal, fun r form => ⟨integer.ne (.int r), rfl, unequal r⟩⟩

/-- **A whole number is read back** from any surroundings that do not go on with a digit. -/
theorem decimal_reads_back (plus : Bool) {zeros : Nat} {v : Int}
    (short : zeros + (toString v.natAbs).length ≤ 4300) (a : List Char) {b : List Char}
    (apart : ∀ c ∈ b.head?, c ∉ Text.digits) :
    Text.written false 0 v = (Value.int v).plain.toList ∧
    ∀ src, src.Spells (a ++ (Text.written plus zeros v ++ b)) →
      ReadsBack src a.length (a.length + (Text.written plus zeros v).length) v := by
  refine ⟨Numeral.written_plain v, fun src spells => .of_parsed fun calls => ?_⟩
  obtain ⟨m, spelled, value, length⟩ := Numeral.exists_chars_written plus zeros v
  have digits : m.digits ≠ [] := by
    have some_digits := Numeral.length_toString_pos v.natAbs
    rw [← List.length_pos_iff]
    omega
  have left : src.items.drop a.length = m.items ++ tokens b := by
    rw [spells.items_eq, ← spelled]
    simp [tokens, Numeral.items]
  have ends : m.Ends (tokens b) :=
    ⟨Numeral.stops_tokens apart, fun nothing => absurd (congrArg Numeral.digits nothing) digits⟩
  rw [integer_run left ends, Numeral.outcome_written value (by omega) digits, spelled]

/-- Zeros behind the minus are part of the range, and what comes behind the digits is not. -/
theorem decimal_reads_back_zeros :
    let written := Text.written false 2 (-305)
    let src := Source.ofText "x=-00305;"
    let characters := Source.list (tokens "x=-00305;".toList)
    2 + (toString (-305 : Int).natAbs).length ≤ 4300 ∧ (∀ c ∈ [';'].head?, c ∉ Text.digits) ∧
    written = "-00305".toList ∧ ReadsBack src 2 8 (-305) ∧ ReadsBack characters 2 8 (-305) ∧
    (integer.eq (.int 305)).run characters ⟨2, []⟩ =
      .ok (.failure none (some 2) .nothing none) ⟨8, []⟩ := by
  intro written src characters
  have short : 2 + (toString (-305 : Int).natAbs).length ≤ 4300 := by decide
  have apart : ∀ c ∈ [';'].head?, c ∉ Text.digits := by
    rintro _ ⟨⟩
    decide
  have spelled : written = "-00305".toList := by decide +kernel
  have text : "x=-00305;".toList = ['x', '='] ++ (written ++ [';']) := by decide +kernel
  obtain ⟨-, back⟩ := decimal_reads_back false short ['x', '='] apart
  have width : 2 + written.length = 8 := by rw [spelled]; rfl
  have first : ReadsBack src 2 8 (-305) := by
    rw [← width]
    exact back src (by rw [← text]; exact .text)
  have second : ReadsBack characters 2 8 (-305) := by
    rw [← width]
    exact back characters (by rw [← text]; exact .list)
  exact ⟨short, apart, spelled, first, second, second.eq 305 []⟩

end Parser

end Sluice
