import Mathlib.Data.Nat.Digits.Defs
import Sluice.Proofs.Scanning
import Sluice.Parser.Bundled

/-!
Written whole numbers: at most one sign, then digits. As the items of a source a numeral is its
characters one by one, and reading its characters gives its signed positional value.
-/
namespace Sluice

inductive Sign where
  | plus
  | minus
  deriving DecidableEq, Repr

def Sign.char : Sign → Char
  | .plus => '+'
  | .minus => '-'

/-- A whole number as it is written, or the beginning of one: the digits may be missing. -/
structure Numeral where
  sign : Option Sign
  digits : List (Fin 10)
  deriving DecidableEq, Repr

namespace Numeral

def digitChar (d : Fin 10) : Char :=
  d.val.digitChar

def chars (m : Numeral) : List Char :=
  m.sign.toList.map Sign.char ++ m.digits.map digitChar

def items (m : Numeral) : List Value :=
  m.chars.map Source.ofChar

/-- The digits in base ten, the first one of the highest weight. -/
def magnitude (m : Numeral) : Nat :=
  Nat.ofDigits 10 (m.digits.map Fin.val).reverse

def value (m : Numeral) : Int :=
  match m.sign with
  | some .minus => -(m.magnitude : Int)
  | _ => m.magnitude

theorem digits_eq : Text.digits = (List.finRange 10).map digitChar := by
  decide

theorem mem_digits {c : Char} : c ∈ Text.digits ↔ ∃ d, c = digitChar d := by
  rw [digits_eq, List.mem_map]
  constructor
  · rintro ⟨d, _, rfl⟩
    exact ⟨d, rfl⟩
  · rintro ⟨d, rfl⟩
    exact ⟨d, List.mem_finRange d, rfl⟩

theorem mem_signs {c : Char} : c ∈ Text.signs ↔ ∃ sign : Sign, c = sign.char := by
  constructor
  · intro member
    simp only [Text.signs, List.mem_cons, List.not_mem_nil, or_false] at member
    rcases member with rfl | rfl
    · exact ⟨.plus, rfl⟩
    · exact ⟨.minus, rfl⟩
  · rintro ⟨sign, rfl⟩
    cases sign <;> decide

theorem digitChar_injective {d e : Fin 10} (same : digitChar d = digitChar e) : d = e := by
  revert d e
  decide

theorem digitChar_ne_sign (d : Fin 10) (sign : Sign) : digitChar d ≠ sign.char := by
  cases sign <;> (revert d; decide)

/-! ## Reading the characters -/

theorem positional_eq (ds : List (Fin 10)) :
    Text.positional (ds.map digitChar) = Nat.ofDigits 10 (ds.map Fin.val).reverse := by
  have each (n : Nat) (d : Fin 10) : 10 * n + Text.digitValue (digitChar d) = d + 10 * n := by
    have worth : Text.digitValue (digitChar d) = d := by revert d; decide
    omega
  rw [Nat.ofDigits_eq_foldr, List.foldr_reverse, Text.positional, List.foldl_map, List.foldl_map]
  simp only [each, Nat.cast_id]

theorem all_isDigit (ds : List (Fin 10)) : (ds.map digitChar).all Text.isDigit = true := by
  rw [List.all_map, List.all_eq_true]
  intro d _
  exact List.contains_iff_mem.mpr (mem_digits.mpr ⟨d, rfl⟩)

theorem unsigned_chars (m : Numeral) :
    Text.unsigned m.chars = (m.sign == some .minus, m.digits.map digitChar) := by
  rcases m with ⟨_ | sign, digits⟩
  · cases digits with
    | nil => rfl
    | cons d ds =>
      simp only [chars, Option.toList_none, List.map_nil, List.nil_append, List.map_cons]
      unfold Text.unsigned
      split
      · cases digitChar_ne_sign d .minus (List.cons.inj ‹_›).1
      · cases digitChar_ne_sign d .plus (List.cons.inj ‹_›).1
      · rfl
  · cases sign <;> rfl

/-- **Reading a numeral gives its value**, up to so many digits. -/
theorem readNumeral_chars {m : Numeral} (digits : m.digits ≠ []) :
    Text.readNumeral m.chars =
      if m.digits.length ≤ 4300 then .ok m.value else .error (.tooLong m.digits.length) := by
  have some_digits : (m.digits.map digitChar).isEmpty = false := by
    simpa using digits
  simp only [Text.readNumeral, unsigned_chars, some_digits, all_isDigit, positional_eq,
    List.length_map, Text.digitLimit, Bool.not_true, Bool.or_self, Bool.false_eq_true, if_false]
  by_cases short : m.digits.length ≤ 4300
  · rw [if_neg (by omega), if_pos short]
    rcases m with ⟨_ | _ | _, ds⟩ <;> rfl
  · rw [if_pos (by omega), if_neg short]

example : Text.readNumeral (chars ⟨some .minus, [0, 0, 7]⟩) = .ok (-7) :=
  rfl

/-! ## The characters as items -/

def digit (d : Fin 10) : Value :=
  Source.ofChar (digitChar d)

theorem ofChar_injective {a b : Char} (same : Source.ofChar a = Source.ofChar b) : a = b := by
  simpa [Source.ofChar] using same

theorem isOneOf_range {chars : List Char} {spell : α → Char}
    (spelled : ∀ {c}, c ∈ chars ↔ ∃ a, c = spell a) {v : Value} :
    v.isOneOf (Text.letters chars) = true ↔ ∃ a, v = Source.ofChar (spell a) := by
  rw [Value.isOneOf_letters]
  constructor
  · rintro ⟨c, member, rfl⟩
    obtain ⟨a, rfl⟩ := spelled.mp member
    exact ⟨a, rfl⟩
  · rintro ⟨a, rfl⟩
    exact ⟨spell a, spelled.mpr ⟨a, rfl⟩, rfl⟩

theorem isOneOf_digits {v : Value} :
    v.isOneOf (Text.letters Text.digits) = true ↔ ∃ d, v = digit d :=
  isOneOf_range mem_digits

theorem isOneOf_signs {v : Value} :
    v.isOneOf (Text.letters Text.signs) = true ↔ ∃ sign : Sign, v = Source.ofChar sign.char :=
  isOneOf_range mem_signs

theorem digit_not_sign (d : Fin 10) : (digit d).isOneOf (Text.letters Text.signs) = false := by
  rw [Bool.eq_false_iff]
  intro isSign
  obtain ⟨sign, same⟩ := isOneOf_signs.mp isSign
  exact digitChar_ne_sign d sign (ofChar_injective same)

theorem items_unsigned (ds : List (Fin 10)) : items ⟨none, ds⟩ = ds.map digit := by
  simp only [items, chars, Option.toList_none, List.map_nil, List.nil_append, List.map_map]
  rfl

theorem items_signed (sign : Sign) (ds : List (Fin 10)) :
    items ⟨some sign, ds⟩ = Source.ofChar sign.char :: ds.map digit := by
  simp only [items, chars, Option.toList_some, List.map_cons, List.map_nil, List.singleton_append,
    List.map_map]
  rfl

theorem length_items (m : Numeral) :
    m.items.length = m.sign.toList.length + m.digits.length := by
  simp only [items, chars, List.length_map, List.length_append]

theorem items_eq_nil {m : Numeral} (nothing : m.items = []) : m = ⟨none, []⟩ := by
  rcases m with ⟨_ | sign, ds⟩
  · rw [items_unsigned, List.map_eq_nil_iff] at nothing
    rw [nothing]
  · rw [items_signed] at nothing
    cases nothing

/-- What a numeral can go on with. -/
theorem item_of_items {m : Numeral} {before more : List Value} {v : Value}
    (split : m.items = before ++ v :: more) :
    v.isOneOf (Text.letters Text.digits) = true ∨
      before = [] ∧ v.isOneOf (Text.letters Text.signs) = true := by
  have digit_of {ds : List (Fin 10)} {before : List Value}
      (split : ds.map digit = before ++ v :: more) :
      v.isOneOf (Text.letters Text.digits) = true := by
    have member : v ∈ ds.map digit := by
      rw [split]
      exact List.mem_append_right before List.mem_cons_self
    obtain ⟨d, _, rfl⟩ := List.mem_map.mp member
    exact isOneOf_digits.mpr ⟨d, rfl⟩
  rcases m with ⟨_ | sign, ds⟩
  · rw [items_unsigned] at split
    exact .inl (digit_of split)
  · rw [items_signed] at split
    cases before with
    | nil =>
      obtain ⟨rfl, _⟩ := List.cons.inj split
      exact .inr ⟨rfl, isOneOf_signs.mpr ⟨sign, rfl⟩⟩
    | cons u before =>
      obtain ⟨_, behind⟩ := List.cons.inj split
      exact .inl (digit_of behind)

theorem items_injective {m m' : Numeral} (same : m.items = m'.items) : m = m' := by
  have digits_of {ds es : List (Fin 10)} (same : ds.map digit = es.map digit) : ds = es :=
    List.map_inj_right (fun _ _ h => digitChar_injective (ofChar_injective h)) |>.mp same
  have apart {sign : Sign} {ds es : List (Fin 10)} :
      Source.ofChar sign.char :: ds.map digit ≠ es.map digit := by
    intro same
    cases es with
    | nil => cases same
    | cons e es => exact digitChar_ne_sign e sign (ofChar_injective (List.cons.inj same).1).symm
  rcases m with ⟨_ | sign, ds⟩ <;> rcases m' with ⟨_ | sign', es⟩
  · rw [items_unsigned, items_unsigned] at same
    rw [digits_of same]
  · rw [items_unsigned, items_signed] at same
    cases apart same.symm
  · rw [items_unsigned, items_signed] at same
    cases apart same
  · rw [items_signed, items_signed] at same
    obtain ⟨signs, digits⟩ := List.cons.inj same
    have signs := ofChar_injective signs
    rw [digits_of digits]
    cases sign <;> cases sign' <;> first | rfl | cases signs

end Numeral

end Sluice
