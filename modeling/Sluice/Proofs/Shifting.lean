import Sluice.Parser.Composed
import Sluice.Proofs.Carets
import Sluice.Proofs.Scanning
import Sluice.Proofs.SideBySide

/-!
Positions are counted, and nothing else is made of them. A composed parser that runs on a source
from some way in does what it does on the source without its beginning, with every position moved
on.
-/
namespace Sluice

theorem slice_drop {xs : List α} {k : Nat} {i j : Int} (inside : k ≤ xs.length) (hi : 0 ≤ i)
    (hj : 0 ≤ j) : slice (xs.drop k) i j = slice xs (i + k) (j + k) := by
  simp only [slice, List.drop_drop, List.length_drop]
  have start : k + clamp (xs.length - k) i = clamp xs.length (i + k) := by
    unfold clamp
    omega
  have stop : k + clamp (xs.length - k) j = clamp xs.length (j + k) := by
    unfold clamp
    omega
  rw [start, ← stop, ← start]
  congr 1
  omega

theorem slice_to_end {xs : List α} {k : Nat} (inside : k ≤ xs.length) :
    slice xs k xs.length = xs.drop k := by
  rw [slice_of_le (by omega) (by omega) (by omega), Int.toNat_natCast, List.take_of_length_le]
  rw [List.length_drop]
  omega

namespace Source

variable {src : Source} {k : Nat} (inside : k ≤ src.length)
include inside

theorem items_cut_to_end : (src.cut k src.length).items = src.items.drop k := by
  rw [items_cut, ← length_items]
  rw [← length_items] at inside
  exact slice_to_end inside

theorem length_cut_to_end : (src.cut k src.length).length = src.length - k := by
  rw [← length_items, items_cut_to_end inside, List.length_drop, length_items]

/-- A piece of what is left without the beginning is a piece of the whole. -/
theorem cut_cut_to_end {i j : Int} (hi : 0 ≤ i) (hj : 0 ≤ j) :
    (src.cut k src.length).cut i j = src.cut (i + k) (j + k) := by
  cases src <;> simp only [cut, length, slice_to_end inside, slice_drop inside hi hj]

theorem item_cut_to_end {i : Nat} (left : i + k < src.length) :
    ∃ v, (src.cut k src.length).item i = .ok v ∧ src.item (i + k : Nat) = .ok v := by
  have there : (src.cut k src.length).item? i = src.item? (i + k : Nat) := by
    rw [item?_natCast, item?_natCast, items_cut_to_end inside, List.drop_drop, Nat.add_comm]
  cases found : src.item? (i + k : Nat) with
  | none =>
    rw [item?_eq_none_iff] at found
    omega
  | some v =>
    rw [found] at there
    exact ⟨v, item_of_item? _ there, item_of_item? _ found⟩

end Source

/-- What a diagnostic raises by itself, if it raises anything. -/
def Diagnostic.RaisesOnly (own : Fault → Prop) (d : Diagnostic) : Prop :=
  ∀ n fault, d.answer n = .error fault → own fault

/-- The same error from further on. A parse failure that surfaces is made for the source that was
read and reports the position there, unless it is a diagnostic's `own`, which says what it says. -/
inductive Fault.Shifted (near far : Source) (k : Int) (own : Fault → Prop) :
    Fault → Fault → Prop where
  | same {fault : Fault} (unplaced : (∀ e, fault ≠ .surfaced e) ∨ own fault) :
      Shifted near far k own fault fault
  | moved {e e' : ParseError} (here : e.IsMadeFor near) (there : e'.IsMadeFor far)
      (pos : e'.pos = e.pos + k) (message : e'.message = e.message) :
      Shifted near far k own (.surfaced e) (.surfaced e')

def Progress.shift (k : Int) (s : Progress) : Progress :=
  { s with pos := s.pos + k }

/-- A source without its first `k` items, beside the whole. -/
def Beside.advanced (src : Source) (k : Nat) (calls : List Nat) (own : Fault → Prop) : Beside where
  near := src.cut k src.length
  far := src
  offset := k
  within i := 0 ≤ i
  nearCalls := calls
  farCalls := calls
  fault := Fault.Shifted (src.cut k src.length) src k own

namespace Beside

section
variable {src : Source} {k : Nat} {calls : List Nat} {own : Fault → Prop}
  (inside : k ≤ src.length)
include inside

theorem advanced_alike : (advanced src k calls own).Alike where
  length := by
    have length := Source.length_cut_to_end inside
    simp only [advanced, length]
    omega
  next within forward := Int.add_nonneg within forward
  item {i} within left := by
    obtain ⟨i, rfl⟩ := Int.eq_ofNat_of_zero_le within
    have length := Source.length_cut_to_end inside
    simp only [advanced, length] at left
    have behind : i + k < src.length := by omega
    obtain ⟨v, near, far⟩ := Source.item_cut_to_end inside behind
    simp only [advanced]
    rw [near, ← Int.natCast_add, far]
    exact .ok v
  items_cut hi hj := by
    simp only [advanced]
    rw [Source.cut_cut_to_end inside hi hj]
  fault unplaced := .same (.inl unplaced)

theorem advanced_matching : (advanced src k calls own).Matching where
  toAlike := advanced_alike inside
  slice hi hj := by
    simp only [advanced, Source.slice]
    rw [Source.cut_cut_to_end inside hi hj]
  error message within := by
    obtain ⟨e, near, here, pos, words⟩ := ParseError.of_ok (src.cut k src.length) within message
    obtain ⟨e', far, there, pos', words'⟩ :=
      ParseError.of_ok src (Int.add_nonneg within (Int.natCast_nonneg k)) message
    refine ⟨e, e', near, far, .moved here there ?_ ?_⟩
    · rw [pos, pos']
    · rw [words, words']

end

end Beside

namespace Parser

/-- **Composed parsers are independent of the position.** Away from the beginning of a source they
do what they do without the beginning, and every position is moved on by as much. -/
theorem composed_shifts {own : Fault → Prop} {p : Parser}
    (composed : p.ComposedWith (Diagnostic.RaisesOnly own)) {src : Source} {k : Nat}
    (inside : k ≤ src.length) (j : Nat) (calls : List Nat) :
    match p.run (src.cut k src.length) ⟨j, calls⟩ with
    | .ok r t => p.run src ⟨k + j, calls⟩ = .ok (r.shift k) (t.shift k)
    | .error fault t => ∃ fault', p.run src ⟨k + j, calls⟩ = .error fault' (t.shift k) ∧
        Fault.Shifted (src.cut k src.length) src k own fault fault' := by
  let b := Beside.advanced src k calls own
  have steady (d : Diagnostic) (raises : d.RaisesOnly own) : b.Steady d :=
    ⟨fun _ => rfl, fun said => .same (.inr (raises _ _ said))⟩
  have level : b.Level ⟨j, calls⟩ ⟨k + j, calls⟩ :=
    ⟨Int.add_comm _ _, Int.natCast_nonneg j, [], rfl, rfl⟩
  have matching : b.Matching := Beside.advanced_matching inside
  have ends : b.Ends b.Replies (p.run (src.cut k src.length) ⟨j, calls⟩)
      (p.run src ⟨k + j, calls⟩) := composed.runs matching steady level
  generalize p.run (src.cut k src.length) ⟨j, calls⟩ = near at ends ⊢
  generalize p.run src ⟨k + j, calls⟩ = far at ends ⊢
  have shifted {s t : Progress} (level : b.Level s t) : t = s.shift k := by
    obtain ⟨pos, made, rfl, rfl⟩ := level.split
    rfl
  cases ends with
  | ok replies level =>
    rw [replies, shifted level]
    rfl
  | error faults level =>
    rw [shifted level]
    exact ⟨_, rfl, faults⟩

/-- The failure after a rejected character, where one more character comes before. -/
theorem composed_shifts_rejected :
    let rejecting := item.filter ⟨.eq, .text "b", none⟩
    let p := sequence [⟨rejecting, .fail, some "no b"⟩]
    let src := Source.ofText "xa"
    let own (fault : Fault) : Prop := ∀ e, fault ≠ .surfaced e
    p.ComposedWith (Diagnostic.RaisesOnly own) ∧ 1 ≤ src.length ∧
      p.run (src.cut 1 src.length) ⟨0, []⟩ =
        .ok (.failure none (some 1) .nothing (some "no b")) ⟨0, []⟩ ∧
      p.run src ⟨1, []⟩ = .ok (.failure none (some 2) .nothing (some "no b")) ⟨1, []⟩ := by
  intro rejecting p src own
  have composed : p.ComposedWith (Diagnostic.RaisesOnly own) := by
    refine .sequence fun part member => ?_
    cases List.mem_singleton.mp member
    exact .filter .item nofun
  have inside : 1 ≤ src.length := by decide
  exact ⟨composed, inside, rfl, composed_shifts composed inside 0 []⟩

end Parser

end Sluice
