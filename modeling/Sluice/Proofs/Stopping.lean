import Mathlib.Order.Bounds.Defs
import Sluice.Proofs.Inside

/-!
Where scanning stops. From every position that leads to items, scanning for some texts stops at the
first position where there is no item or another one, and scanning on from there goes nowhere. From
a position too far to the left there is no first look.
-/
namespace Sluice

/-- There is nothing to pass at a position: no item is left, or it is none of the texts. -/
def Source.Unmet (src : Source) (texts : List String) (i : Int) : Prop :=
  src.length ≤ i ∨ ∀ t ∈ texts, src.item? i ≠ some (.text t)

theorem Value.exists_run (texts : List String) (items : List Value) :
    ∃ run rest, items = run ++ rest ∧ (∀ v ∈ run, v.isOneOf texts = true) ∧
      Stops texts rest := by
  refine ⟨items.takeWhile (·.isOneOf texts), items.dropWhile (·.isOneOf texts),
    List.takeWhile_append_dropWhile.symm, List.all_eq_true.mp List.all_takeWhile, ?_⟩
  have other := List.head?_dropWhile_not (·.isOneOf texts) items
  unfold Stops
  cases first : (items.dropWhile (·.isOneOf texts)).head? with
  | none => rfl
  | some v =>
    rw [first] at other
    exact other

variable {src : Source} {texts : List String} {p q : Int}

/-- Left of all items there is room, but no item to look at. -/
theorem Source.meets_of_left (left : p < -src.length) :
    ∃ fault : Fault, fault.indexes = true ∧ ∀ texts, src.meets texts p = .error fault := by
  have room : src.hasItems p 1 = true := by
    simp only [hasItems, decide_eq_true_eq]
    omega
  have missing := item?_eq_none_iff.mpr (.inl left)
  refine ⟨if fitsWord p then .outOfRange src.shape else .unindexable, ?_, fun texts => ?_⟩
  · split <;> rfl
  · rw [meets, if_pos room, item, missing]
    rfl

/-- The end of a run is the first position with nothing to pass. -/
theorem Source.isLeast_unmet {run rest : List Value}
    (inside : ∀ v ∈ run, v.isOneOf texts = true) (stops : Value.Stops texts rest)
    (lo : -src.length ≤ p) (left : src.ahead p = run ++ rest) :
    IsLeast {i | p ≤ i ∧ src.Unmet texts i} (p + run.length) := by
  constructor
  · refine ⟨by omega, .inr fun t member there => ?_⟩
    have next := getElem?_ahead lo run.length
    rw [left, List.getElem?_append_right (Nat.le_refl _), Nat.sub_self,
      ← List.head?_eq_getElem?, there] at next
    rw [Value.Stops, next, Option.any_some, Value.isOneOf_iff.mpr ⟨t, member, rfl⟩] at stops
    cases stops
  · rintro i ⟨behind, unmet⟩
    apply Int.not_lt.mp
    intro before
    obtain ⟨k, rfl⟩ := Int.le.dest behind
    have within : k < run.length := by omega
    have passed := getElem?_ahead lo k
    rw [left, List.getElem?_append_left within, List.getElem?_eq_getElem within] at passed
    obtain ⟨t, member, text⟩ := Value.isOneOf_iff.mp (inside _ (List.getElem_mem within))
    rcases unmet with past | other
    · rw [item?_eq_none_iff.mpr (.inr past)] at passed
      cases passed
    · exact other t member (by rw [← passed, text])

namespace Stream

/-- What scanning from `p` comes to: it stops at `q`. -/
structure Scans (src : Source) (texts : List String) (p q : Int) : Prop where
  least : IsLeast {i | p ≤ i ∧ src.Unmet texts i} q
  onward : src.Onward p q
  /-- A round passes one item, and there is no round behind `q`. -/
  rounds : ∀ (n : Nat) calls, skipUpTo src texts n ⟨p, calls⟩ = .ok () ⟨min (p + n) q, calls⟩
  stops : ∀ calls, skip src texts ⟨p, calls⟩ = .ok () ⟨q, calls⟩
  again : ∀ calls, skip src texts ⟨q, calls⟩ = .ok () ⟨q, calls⟩

theorem exists_scans (texts : List String) (lo : -src.length ≤ p) :
    ∃ q, Scans src texts p q := by
  obtain ⟨run, rest, left, inside, halt⟩ := Value.exists_run texts (src.ahead p)
  have stops := skip_over inside halt lo left
  refine ⟨p + run.length, Source.isLeast_unmet inside halt lo left, ?_, fun n calls => ?_, stops,
    fun calls => ?_⟩
  · have onward := skip_onward src texts ⟨p, []⟩
    rw [stops] at onward
    exact onward
  · have amount : min (p + n) (p + run.length) = p + (min n run.length : Nat) := by omega
    rw [skipUpTo_over inside halt lo left, amount]
  · have unmet : src.meets texts (p + run.length) = .ok false := by
      rw [Source.meets_ahead texts (by omega), Source.ahead_append lo left, halt]
    exact skip_of_unmet unmet

end Stream

namespace Parser

theorem blanks_of_skipped {calls : List Nat}
    (skipped : Stream.skip src (Text.letters Text.blanks) ⟨p, calls⟩ = .ok () ⟨q, calls⟩) :
    blanks.run src ⟨p, calls⟩ = .ok (.success none .nothing (some (p, q))) ⟨q, calls⟩ := by
  rw [blanks, run]
  apply Checkpoint.block_of_committed (c := ⟨p, true⟩) _ rfl
  rw [Action.bind_run, skipped]
  rfl

theorem blanks_of_refused {calls : List Nat} {fault : Fault}
    (refused : Stream.skip src (Text.letters Text.blanks) ⟨p, calls⟩ =
      .error fault ⟨p, calls⟩) :
    blanks.run src ⟨p, calls⟩ = .error fault ⟨p, calls⟩ := by
  rw [blanks, run]
  apply Checkpoint.block_of_error (t := ⟨p, calls⟩)
  rw [Action.bind_run, refused]

end Parser

namespace Stream

/-- What scanning for some texts comes to wherever it begins, and with it the parser of blanks. -/
structure Halts (src : Source) (texts : List String) (p : Int) : Prop where
  /-- Scanning is a loop that looks before each item. -/
  loop : skip src texts = (do
    if ← meets src texts then
      advance 1
      skip src texts
    else pure ())
  /-- Too far to the left, already the first look asks for an item that there is not. -/
  refused : p < -src.length → ∃ fault : Fault, fault.indexes = true ∧ ∀ calls,
    meets src texts ⟨p, calls⟩ = .error fault ⟨p, calls⟩ ∧
    skip src texts ⟨p, calls⟩ = .error fault ⟨p, calls⟩ ∧
    Parser.blanks.run src ⟨p, calls⟩ = .error fault ⟨p, calls⟩
  stopped : -src.length ≤ p → ∃ q, Scans src texts p q
  /-- Blanks are always parsed, and behind them there are none. -/
  blanks : -src.length ≤ p → ∃ q, Scans src (Text.letters Text.blanks) p q ∧ ∀ calls,
    Parser.blanks.run src ⟨p, calls⟩ =
      .ok (.success none .nothing (some (p, q))) ⟨q, calls⟩ ∧
    Parser.blanks.run src ⟨q, calls⟩ =
      .ok (.success none .nothing (some (q, q))) ⟨q, calls⟩

theorem skip_of_refused {fault : Fault} (refused : src.meets texts p = .error fault)
    (calls : List Nat) : skip src texts ⟨p, calls⟩ = .error fault ⟨p, calls⟩ := by
  rw [skip_eq, Action.bind_run, meets_run, refused]

/-- **Scanning ends everywhere.** -/
theorem scanning_halts (src : Source) (texts : List String) (p : Int) : Halts src texts p where
  loop := skip_eq src texts
  refused left := by
    obtain ⟨fault, indexes, looked⟩ := Source.meets_of_left left
    refine ⟨fault, indexes, fun calls => ⟨?_, skip_of_refused (looked texts) calls,
      Parser.blanks_of_refused (skip_of_refused (looked _) calls)⟩⟩
    rw [meets_run, looked]
  stopped lo := exists_scans texts lo
  blanks lo := by
    obtain ⟨q, scans⟩ := exists_scans (Text.letters Text.blanks) lo
    exact ⟨q, scans, fun calls => ⟨Parser.blanks_of_skipped (scans.stops calls),
      Parser.blanks_of_skipped (scans.again calls)⟩⟩

/-- Texts of any length count, and behind the last item comes the first. -/
example : skip (.list [.text "ab", .int 1, .text ""]) ["ab", ""] ⟨-1, []⟩ = .ok () ⟨1, []⟩ :=
  rfl

end Stream

end Sluice
