import Sluice.Proofs.Consumption

/-!
Consuming and peeking. What is taken is what could have been seen, a literal is found where the
slice to be seen equals it, and items can be taken together or in turn.
-/
namespace Sluice

/-- Two sequences of one kind, one behind the other. -/
def Value.concat : Value → Value → Option Value
  | .text a, .text b => some (.text (a ++ b))
  | .bytes a, .bytes b => some (.bytes (a ++ b))
  | .list a, .list b => some (.list (a ++ b))
  | .tuple a, .tuple b => some (.tuple (a ++ b))
  | _, _ => none

theorem Source.slice_concat (src : Source) {i j k : Int} (lo : 0 ≤ i) (first : i ≤ j)
    (rest : j ≤ k) (hi : k ≤ src.length) :
    (src.slice i j).concat (src.slice j k) = some (src.slice i k) := by
  cases src with
  | text cs =>
    have whole : Sluice.slice cs i j ++ Sluice.slice cs j k = Sluice.slice cs i k :=
      slice_append lo first rest hi
    simp only [slice, cut, toValue, Value.concat, ← String.ofList_append, whole]
  | bytes xs | list xs | tuple xs =>
    have whole : Sluice.slice xs i j ++ Sluice.slice xs j k = Sluice.slice xs i k :=
      slice_append lo first rest hi
    simp only [slice, cut, toValue, Value.concat, whole]

namespace Stream

variable {src : Source} {s t : Progress} {amount : Int} {w : Value}

theorem take_some_iff :
    take src amount s = .ok (some w) t ↔
      s.pos + amount ≤ src.length ∧ w = src.slice s.pos (s.pos + amount) ∧
      t = { s with pos := s.pos + amount } := by
  rw [take_run, Source.peek, Source.hasItems]
  by_cases enough : s.pos + amount ≤ src.length
  · simp [enough, eq_comm]
  · simp [enough]

theorem take_taken (src : Source) (amount : Int) (s : Progress) :
    take src amount s = .ok (src.peek s.pos amount)
      { s with pos := if (src.peek s.pos amount).isSome then s.pos + amount else s.pos } := by
  rw [take_run]
  cases src.peek s.pos amount <;> rfl

/-- A literal looks at what can be seen. -/
theorem literal_peek {v : Value} {n : Nat} (sized : v.size = .ok n) (src : Source)
    (s : Progress) :
    literal src v s = match src.peek s.pos n with
      | none => .ok false s
      | some items => match items.equals v with
        | .ok answer =>
          if answer.truthy then .ok true { s with pos := s.pos + n } else .ok false s
        | .error fault => .error fault s := by
  rw [literal_run, sized, Source.peek]
  dsimp only
  cases src.hasItems s.pos n <;> rfl

theorem literal_found {v : Value} {n : Nat} (sized : v.size = .ok n)
    (compared : ∀ items, src.peek s.pos n = some items → ∃ answer, items.equals v = .ok answer) :
    ∃ found t, literal src v s = .ok found t ∧
      (found = true ↔ ∃ items answer, src.peek s.pos n = some items ∧
        items.equals v = .ok answer ∧ answer.truthy = true) ∧
      (found = true → take src n s = .ok (src.peek s.pos n) t) ∧
      (found = false → t = s) := by
  have looked := literal_peek sized src s
  have took := take_taken src n s
  cases seen : src.peek s.pos n with
  | none =>
    rw [seen] at looked
    exact ⟨false, s, looked, by simp, nofun, fun _ => rfl⟩
  | some items =>
    obtain ⟨answer, equal⟩ := compared items seen
    rw [seen] at looked took
    simp only [equal] at looked
    have same : (∃ items' answer', some items = some items' ∧
        items'.equals v = .ok answer' ∧ answer'.truthy = true) ↔ answer.truthy = true := by
      constructor
      · rintro ⟨_, answer', ⟨⟩, equal', yes⟩
        rw [equal] at equal'
        cases equal'
        exact yes
      · intro yes
        exact ⟨items, answer, rfl, equal, yes⟩
    rw [same]
    cases yes : answer.truthy with
    | true =>
      rw [yes] at looked
      exact ⟨true, _, looked, by simp, fun _ => took, nofun⟩
    | false =>
      rw [yes] at looked
      exact ⟨false, s, looked, by simp, nofun, fun _ => rfl⟩

theorem literal_raised {v : Value} {n : Nat} {fault : Fault} (sized : v.size = .ok n)
    (run : literal src v s = .error fault t) :
    t = s ∧ ∃ items, src.peek s.pos n = some items ∧ items.equals v = .error fault := by
  rw [literal_peek sized] at run
  cases seen : src.peek s.pos n with
  | none => rw [seen] at run; cases run
  | some items =>
    rw [seen] at run
    dsimp only at run
    cases compared : items.equals v with
    | ok answer => rw [compared] at run; dsimp only at run; split at run <;> cases run
    | error refused =>
      rw [compared] at run
      cases run
      exact ⟨rfl, items, rfl, compared⟩

theorem take_together (m n : Nat) :
    (∃ w u, take src (m + n) s = .ok (some w) u) ↔
      ∃ v t w u, take src m s = .ok (some v) t ∧ take src n t = .ok (some w) u := by
  simp only [take_some_iff]
  constructor
  · rintro ⟨_, _, enough, _, _⟩
    exact ⟨_, _, _, _, ⟨by omega, rfl, rfl⟩, ⟨by dsimp only; omega, rfl, rfl⟩⟩
  · rintro ⟨_, _, _, _, ⟨_, _, rfl⟩, enough, _, _⟩
    dsimp only at enough
    exact ⟨_, _, by omega, rfl, rfl⟩

theorem take_concat (lo : 0 ≤ s.pos) {m n : Nat} {v : Value} {u : Progress}
    (first : take src m s = .ok (some v) t) (rest : take src n t = .ok (some w) u) :
    ∃ whole, v.concat w = some whole ∧ take src (m + n) s = .ok (some whole) u := by
  obtain ⟨_, rfl, rfl⟩ := take_some_iff.mp first
  obtain ⟨enough, rfl, rfl⟩ := take_some_iff.mp rest
  dsimp only at enough ⊢
  refine ⟨_, src.slice_concat lo (by omega) (by omega) enough, take_some_iff.mpr ?_⟩
  rw [← Int.add_assoc]
  exact ⟨enough, rfl, rfl⟩

theorem take_single (lo : 0 ≤ s.pos) (left : src.atEnd s.pos = false) :
    ∃ items v t, take src 1 s = .ok (some items) t ∧ items.elements = [v] ∧
      item src s = .ok v t := by
  have within : s.pos + 1 ≤ src.length := by
    simp only [Source.atEnd, decide_eq_false_iff_not] at left
    omega
  obtain ⟨v, there, alone⟩ := src.items_cut_one lo within
  refine ⟨_, v, _, take_some_iff.mpr ⟨within, rfl, rfl⟩, ?_, ?_⟩
  · rw [Source.slice, Source.elements_toValue, alone]
  · rw [item_run, Source.hasItems, if_pos (decide_eq_true within), there]

/-- How what a stream gives up agrees with what it shows, and with what it gives up in parts. -/
structure Consistent (src : Source) (s : Progress) : Prop where
  /-- What is taken could have been seen, and moves the stream by as much as was asked for. -/
  taken : ∀ amount, take src amount s = .ok (src.peek s.pos amount)
    { s with pos := if (src.peek s.pos amount).isSome then s.pos + amount else s.pos }
  /-- A literal is found where what can be seen equals it. -/
  found : ∀ (v : Value) (n : Nat), v.size = .ok n →
    (∀ items, src.peek s.pos n = some items → ∃ answer, items.equals v = .ok answer) →
    ∃ found t, literal src v s = .ok found t ∧
      (found = true ↔ ∃ items answer, src.peek s.pos n = some items ∧
        items.equals v = .ok answer ∧ answer.truthy = true) ∧
      (found = true → take src n s = .ok (src.peek s.pos n) t) ∧
      (found = false → t = s)
  /-- Only a comparison with what can be seen raises. -/
  raised : ∀ (v : Value) (n : Nat) fault t, v.size = .ok n → literal src v s = .error fault t →
    t = s ∧ ∃ items, src.peek s.pos n = some items ∧ items.equals v = .error fault
  /-- Items can be taken together just where they can be taken in turn. -/
  together : ∀ m n : Nat, (∃ w u, take src (m + n) s = .ok (some w) u) ↔
    ∃ v t w u, take src m s = .ok (some v) t ∧ take src n t = .ok (some w) u
  /-- Below zero this fails, since a slice that ends at zero is empty. -/
  concatenated : 0 ≤ s.pos → ∀ (m n : Nat) v t w u, take src m s = .ok (some v) t →
    take src n t = .ok (some w) u →
    ∃ whole, v.concat w = some whole ∧ take src (m + n) s = .ok (some whole) u
  single : 0 ≤ s.pos → src.atEnd s.pos = false → ∃ items v t,
    take src 1 s = .ok (some items) t ∧ items.elements = [v] ∧ item src s = .ok v t

/-- **Consuming agrees with peeking**, whatever is asked for and wherever the stream stands. -/
theorem consuming_agrees (src : Source) (s : Progress) : Consistent src s where
  taken amount := take_taken src amount s
  found _ _ sized compared := literal_found sized compared
  raised _ _ _ _ sized run := literal_raised sized run
  together m n := take_together m n
  concatenated lo _ _ _ _ _ _ first rest := take_concat lo first rest
  single lo left := take_single lo left

/-- A slice does not go around, so at the last item two more are none, and the stream moves on. -/
example : take (.ofText "ab") 2 ⟨-1, []⟩ = .ok (some (.text "")) ⟨1, []⟩ :=
  rfl

end Stream

end Sluice
