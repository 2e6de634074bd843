import Mathlib.Data.Set.List
import Sluice.Proofs.LongestMatch
import Sluice.Proofs.Stopping

/-!
Whole numbers from below zero. The parser looks at one item after the other, and there the last one
is followed by the first. What it has passed it then cuts out of the source, and a cut never goes
around: it ends where the source does, or is empty. So a numeral that ends before the source does is
read as from the front, and one that goes around is no number, unless all items are digits.
-/
namespace Sluice

variable {src : Source} {s : Int} {rest : List Value}

/-! ## Cuts from below zero -/

theorem slice_of_neg {xs : List α} {a b : Int} (start : a < 0) (stop : b < 0) :
    slice xs a b = slice xs (a + xs.length).toNat (b + xs.length).toNat := by
  have from_a : clamp xs.length (a + xs.length).toNat = (a + xs.length).toNat := by
    unfold clamp
    omega
  have to_b : clamp xs.length (b + xs.length).toNat = (b + xs.length).toNat := by
    unfold clamp
    omega
  simp only [slice, clamp_of_neg start, clamp_of_neg stop, from_a, to_b]

theorem slice_of_neg_to_end {xs : List α} {a : Int} (start : a < 0) :
    slice xs a xs.length = xs.drop (a + xs.length).toNat := by
  have stop : clamp xs.length xs.length = xs.length := by
    unfold clamp
    omega
  rw [slice, clamp_of_neg start, stop]
  exact List.take_of_length_le (by rw [List.length_drop])

theorem slice_of_neg_eq_nil {xs : List α} {a b : Int} (start : a < 0) (lo : 0 ≤ b)
    (behind : b ≤ a + xs.length) : slice xs a b = [] := by
  have nothing : clamp xs.length b - clamp xs.length a = 0 := by
    unfold clamp
    omega
  rw [slice, nothing, List.take_zero]

/-- Counted from the front, a position below zero has the items left there ahead, and then all. -/
theorem Source.exists_ahead_of_neg (src : Source) (neg : s < 0) (lo : -src.length ≤ s) :
    ∃ k : Nat, src.length + s = k ∧ src.ahead s = src.items.drop k ++ src.items := by
  obtain ⟨k, start⟩ := Int.eq_ofNat_of_zero_le (show 0 ≤ src.length + s by omega)
  refine ⟨k, start, ?_⟩
  rw [ahead_of_neg src neg, start, Int.toNat_natCast]

namespace Numeral

/-- Only the first item of a numeral can be a sign. -/
theorem eq_digit_of_mem_tail {m : Numeral} {v : Value} (member : v ∈ m.items.tail) :
    ∃ d, v = digit d := by
  have among : v ∈ m.digits.map digit := by
    rcases m with ⟨_ | sign, ds⟩
    · rw [items_unsigned] at member
      exact List.mem_of_mem_tail member
    · rw [items_signed] at member
      exact member
  obtain ⟨d, _, rfl⟩ := List.mem_map.mp among
  exact ⟨d, rfl⟩

/-- A numeral that comes back to where it began has passed every item behind its first one. -/
theorem exists_digits_of_overlap {m : Numeral} {items front : List Value} {k : Nat}
    (whole : m.items = items.drop k ++ front) (split : items = front ++ rest)
    (overlap : k < front.length) : ∃ ds : List (Fin 10), items = ds.map digit := by
  have some_left : items.drop k ≠ [] := by
    rw [ne_eq, List.drop_eq_nil_iff, split, List.length_append]
    omega
  have passed : ∀ v ∈ items, v ∈ m.items.tail := by
    intro v member
    rw [whole, List.tail_append_of_ne_nil some_left, List.tail_drop]
    rw [split] at member
    rcases List.mem_append.mp member with here | there
    · exact List.mem_append_right _ here
    · apply List.mem_append_left
      rw [split, List.drop_append_of_le_length overlap]
      exact List.mem_append_right _ there
  have ranged : items ∈ Set.range (List.map digit) := by
    rw [Set.range_list_map]
    intro v member
    obtain ⟨d, same⟩ := eq_digit_of_mem_tail (passed v member)
    exact ⟨d, same.symm⟩
  obtain ⟨ds, same⟩ := ranged
  exact ⟨ds, same.symm⟩

theorem Ends.of_append {m : Numeral} {more others : List Value} (filled : more ≠ [])
    (ends : m.Ends (more ++ others)) : m.Ends more := by
  cases more with
  | nil => cases filled rfl
  | cons v more => exact ⟨ends.digit, ends.sign⟩

/-- What reading a numeral with digits comes to, from `start` to `stop`. -/
def read (m : Numeral) (start stop : Int) (calls : List Nat) :
    EStateM.Result Fault Progress Reply :=
  if m.digits.length ≤ 4300 then
    .ok (.success none (.int m.value) (some (start, stop))) ⟨stop, calls⟩
  else .error (.numeral (.tooLong m.digits.length)) ⟨start, calls⟩

end Numeral

namespace Parser

open Numeral (digit)

variable {m m' : Numeral} {calls : List Nat}

/-- The numeral that is read is the one that is cut out, which need not be the one that was passed.
-/
theorem integer_reads (digits : m.digits ≠ []) (lo : -src.length ≤ s)
    (left : src.ahead s = m.items ++ rest) (ends : m.Ends rest) (digits' : m'.digits ≠ [])
    (piece : (src.cut s (s + m.items.length)).items = m'.items) :
    integer.run src ⟨s, calls⟩ = m'.read s (s + m.items.length) calls := by
  rw [integer_scan lo left ends, if_neg digits, piece, joined_items,
    Numeral.readNumeral_chars digits', Numeral.read]
  by_cases short : m'.digits.length ≤ 4300
  · rw [if_pos short, if_pos short]
  · rw [if_neg short, if_neg short]

/-- A numeral that ends before the source does lies there just as well counted from the front. -/
theorem integer_before_end (neg : s < 0) (lo : -src.length ≤ s) (digits : m.digits ≠ [])
    (left : src.ahead s = m.items ++ rest) (ends : m.Ends rest)
    (before : s + m.items.length < 0) (calls : List Nat) :
    integer.run src ⟨s, calls⟩ = m.read s (s + m.items.length) calls ∧
    integer.run src ⟨src.length + s, calls⟩ =
      m.read (src.length + s) (src.length + s + m.items.length) calls := by
  obtain ⟨k, start, around⟩ := src.exists_ahead_of_neg neg lo
  rw [left] at around
  have room : m.items.length < (src.items.drop k).length := by
    rw [List.length_drop, Source.length_items]
    omega
  -- What is left of the source goes on behind the numeral, before the source comes again.
  have within : m.items <+: src.items.drop k :=
    List.prefix_of_prefix_length_le ⟨rest, around⟩ (List.prefix_append _ _) room.le
  obtain ⟨more, front⟩ := within
  have behind : rest = more ++ src.items := by
    rw [← front, List.append_assoc] at around
    exact List.append_cancel_left around
  have filled : more ≠ [] := by
    rintro rfl
    rw [← front, List.append_nil] at room
    exact Nat.lt_irrefl _ room
  have ends' : m.Ends more := .of_append filled (behind ▸ ends)
  have piece := Source.items_cut_of_drop src front.symm
  constructor
  · apply integer_reads digits lo left ends digits
    have from_k : (s + src.items.length).toNat = k := by
      rw [Source.length_items]
      omega
    have to_end : (s + m.items.length + src.items.length).toNat = k + m.items.length := by
      rw [Source.length_items]
      omega
    rw [Source.items_cut, slice_of_neg neg before, from_k, to_end, ← Source.items_cut, piece]
  · have left' : src.ahead k = m.items ++ more := by rw [Source.ahead_natCast, front]
    rw [start]
    exact integer_reads digits (by omega) left' ends' digits piece

/-- Where all items are digits, the whole source is passed after its end, and the end is read. -/
theorem integer_all_digits (neg : s < 0) (lo : -src.length ≤ s) {ds : List (Fin 10)}
    (all : src.items = ds.map digit) (left : src.ahead s = m.items ++ rest) (ends : m.Ends rest)
    (calls : List Nat) :
    s + m.items.length = src.length ∧
    integer.run src ⟨s, calls⟩ =
      Numeral.read ⟨none, ds.drop (src.length + s).toNat⟩ s src.length calls := by
  have length : ds.length = src.length := by
    rw [← Source.length_items, all, List.length_map]
  generalize tail : ds.drop (src.length + s).toNat = last
  have room : last.length = (-s).toNat := by
    rw [← tail, List.length_drop]
    omega
  have filled : last ≠ [] := by
    rw [← List.length_pos_iff, room]
    omega
  have ahead : src.ahead s = Numeral.items ⟨none, last ++ ds⟩ ++ [] := by
    rw [Source.ahead_of_neg src neg, all, Numeral.items_unsigned, List.append_nil,
      List.map_append, ← List.map_drop, tail]
  have ends' : Numeral.Ends ⟨none, last ++ ds⟩ [] := ⟨rfl, fun _ => rfl⟩
  obtain rfl : m = ⟨none, last ++ ds⟩ := by
    have longest := Numeral.Ends.isLongest left ends
    have longest' := Numeral.Ends.isLongest ahead ends'
    exact longest'.unique longest
  have width : s + (Numeral.items ⟨none, last ++ ds⟩).length = src.length := by
    rw [Numeral.items_unsigned, List.length_map, List.length_append, room]
    omega
  have piece : (src.cut s src.length).items = Numeral.items ⟨none, last⟩ := by
    rw [Source.items_cut, ← Source.length_items, slice_of_neg_to_end neg, Source.length_items,
      all, Numeral.items_unsigned, ← List.map_drop, Int.add_comm, tail]
  have digits : last ++ ds ≠ [] := List.append_ne_nil_of_left_ne_nil filled ds
  refine ⟨width, ?_⟩
  rw [← width] at piece ⊢
  exact integer_reads digits lo left ends filled piece

/-- A numeral that goes around without reading it all: what is cut out is empty. -/
theorem integer_around (neg : s < 0) (lo : -src.length ≤ s) (digits : m.digits ≠ [])
    (left : src.ahead s = m.items ++ rest) (ends : m.Ends rest)
    (around : 0 ≤ s + m.items.length)
    (other : ∀ ds : List (Fin 10), src.items ≠ ds.map digit) (calls : List Nat) :
    integer.run src ⟨s, calls⟩ = .error (.numeral (.malformed "")) ⟨s, calls⟩ := by
  obtain ⟨k, start, ahead⟩ := src.exists_ahead_of_neg neg lo
  rw [left] at ahead
  have room : (src.items.drop k).length ≤ m.items.length := by
    rw [List.length_drop, Source.length_items]
    omega
  have within : src.items.drop k <+: m.items :=
    List.prefix_of_prefix_length_le ⟨src.items, ahead.symm⟩ (List.prefix_append _ _) room
  obtain ⟨front, whole⟩ := within
  have split : src.items = front ++ rest := by
    rw [← whole, List.append_assoc] at ahead
    exact (List.append_cancel_left ahead).symm
  have short : front.length ≤ k := by
    by_contra overlap
    obtain ⟨ds, all⟩ := Numeral.exists_digits_of_overlap whole.symm split (by omega)
    exact other ds all
  have width := congrArg List.length whole
  rw [List.length_append, List.length_drop, Source.length_items] at width
  have nothing : (src.cut s (s + m.items.length)).items = [] := by
    rw [Source.items_cut]
    apply slice_of_neg_eq_nil neg around
    rw [Source.length_items]
    omega
  rw [integer_scan lo left ends, if_neg digits, nothing]
  rfl

theorem integer_of_left (past : s < -src.length) (calls : List Nat) :
    ∃ fault : Fault, fault.indexes = true ∧
      integer.run src ⟨s, calls⟩ = .error fault ⟨s, calls⟩ := by
  obtain ⟨fault, indexes, looked⟩ := Source.meets_of_left past
  refine ⟨fault, indexes, ?_⟩
  rw [integer, run]
  apply Checkpoint.block_of_error (t := ⟨s, calls⟩)
  rw [Action.bind_run, Stream.pass_run, looked]

/-- What a run from below zero comes to, where `m` lies ahead. -/
structure FromBelow (src : Source) (s : Int) (m : Numeral) (calls : List Nat) : Prop where
  /-- What lies ahead is found by position, one item after the other. -/
  ahead : ∀ k : Nat, (src.ahead s)[k]? = src.item? (s + k)
  longest : m.IsLongest (src.ahead s)
  unique : ∀ m' : Numeral, m'.IsLongest (src.ahead s) → m' = m
  digitless : m.digits = [] → integer.run src ⟨s, calls⟩ =
    .ok (.failure none (some s) .nothing (some "Expected a decimal digit.")) ⟨s, calls⟩
  /-- Before the end, the run from the same place counted from the front reads the same. -/
  before : m.digits ≠ [] → s + m.items.length < 0 →
    integer.run src ⟨s, calls⟩ = m.read s (s + m.items.length) calls ∧
    integer.run src ⟨src.length + s, calls⟩ =
      m.read (src.length + s) (src.length + s + m.items.length) calls
  /-- All items are passed, and the last ones once more; these are read. -/
  all : ∀ ds : List (Fin 10), src.items = ds.map digit →
    s + m.items.length = src.length ∧
    integer.run src ⟨s, calls⟩ =
      Numeral.read ⟨none, ds.drop (src.length + s).toNat⟩ s src.length calls
  around : m.digits ≠ [] → 0 ≤ s + m.items.length →
    (∀ ds : List (Fin 10), src.items ≠ ds.map digit) →
    integer.run src ⟨s, calls⟩ = .error (.numeral (.malformed "")) ⟨s, calls⟩

/-- **Whole numbers from below zero** are those that end before the source does, and those of a
source of nothing but digits. -/
theorem integer_from_below (src : Source) {s : Int} (neg : s < 0) (calls : List Nat) :
    (s < -src.length → ∃ fault : Fault, fault.indexes = true ∧
      integer.run src ⟨s, calls⟩ = .error fault ⟨s, calls⟩) ∧
    (-src.length ≤ s → ∃ m, FromBelow src s m calls) ∧
    AllOrNothing src s (integer.run src ⟨s, calls⟩) := by
  refine ⟨fun past => integer_of_left past calls, fun lo => ?_,
    integer_allOrNothing src ⟨s, calls⟩⟩
  obtain ⟨m, rest, left, ends⟩ := Numeral.exists_ends (src.ahead s)
  have longest := Numeral.Ends.isLongest left ends
  refine ⟨m, ?_⟩
  constructor
  case ahead => exact Source.getElem?_ahead lo
  case longest => exact longest
  case unique => exact fun m' other => longest.unique other
  case digitless =>
    intro digits
    rw [integer_scan lo left ends, if_pos digits]
  case before =>
    exact fun digits before => integer_before_end neg lo digits left ends before calls
  case all => exact fun ds all => integer_all_digits neg lo all left ends calls
  case around =>
    exact fun digits around other => integer_around neg lo digits left ends around other calls

/-- From the last digit but one of `123`, the digits passed are 2, 3, 1, 2 and 3, and the number
is 23. -/
theorem integer_from_below_all_digits :
    let src := Source.ofText "123"
    (-2 : Int) < 0 ∧ -src.length ≤ (-2 : Int) ∧ (∃ m, FromBelow src (-2) m []) ∧
    integer.run src ⟨-2, []⟩ = .ok (.success none (.int 23) (some (-2, 3))) ⟨3, []⟩ := by
  intro src
  have inside : -src.length ≤ (-2 : Int) := by decide
  obtain ⟨-, below, -⟩ := integer_from_below src (by decide : (-2 : Int) < 0) []
  obtain ⟨m, comes⟩ := below inside
  have read := (comes.all [1, 2, 3] rfl).2
  exact ⟨by decide, inside, ⟨m, comes⟩, read⟩

end Parser

end Sluice
