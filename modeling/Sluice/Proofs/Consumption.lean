import Mathlib.Data.List.Forall2
import Sluice.Checkpoint
import Sluice.Proofs.Onward
import Sluice.Proofs.Spelling

/-!
What is taken off a stream. Inside the source no item is lost and none is taken twice: what the
calls on a stream got, put together, is what lies between the place where they began and the place
where the stream stands.
-/
namespace Sluice

/-- A call that asks a stream for items. -/
inductive Call where
  | take (amount : Nat)
  | item
  | literal (pattern : Value)
  | oneOf (patterns : List Value)

/-- An item that a call read, or an item of the pattern that it found. -/
inductive Got where
  | read (v : Value)
  | found (v : Value)

namespace Value

/-- Equal as far as the comparison of sequences is concerned, item by item. -/
def Counts (x v : Value) : Prop :=
  ∃ answer, equalsIn true x v = .ok answer ∧ answer.truthy = true

end Value

/-- What was read is the item of the source itself; what was found counted as equal to it. -/
def Got.Accounts (x : Value) : Got → Prop
  | .read v => v = x
  | .found v => x.Counts v

/-- What a call got, or nothing if it did not succeed. An item at the end of the source and an item
that is nothing look the same, so there it is the position that tells. -/
def Call.perform (src : Source) : Call → Action (Option (List Got))
  | .take amount => do
    let taken ← Stream.take src amount
    return taken.map fun items => items.elements.map .read
  | .item => do
    let start ← Stream.position
    let v ← Stream.item src
    return if (← Stream.position) = start then none else some [.read v]
  | .literal pattern => do
    let matched ← Stream.literal src pattern
    return if matched then some (pattern.elements.map .found) else none
  | .oneOf patterns => do
    let pattern ← Stream.oneOf src patterns
    return pattern.map fun pattern => pattern.elements.map .found

/-- What all calls got, in order. -/
def performAll (src : Source) : List Call → Action (List Got)
  | [] => return []
  | call :: rest => do
    let got ← call.perform src
    return got.getD [] ++ (← performAll src rest)

theorem performAll_append (src : Source) (before rest : List Call) :
    performAll src (before ++ rest) =
      (do return (← performAll src before) ++ (← performAll src rest)) := by
  induction before with
  | nil => simp only [List.nil_append, performAll, pure_bind, bind_pure]
  | cons call before ih =>
    simp only [List.cons_append, performAll, ih, bind_assoc, pure_bind, List.append_assoc]

/-! ## Items of patterns -/

namespace Value

theorem counts_ofChar (c : Char) : (Source.ofChar c).Counts (Source.ofChar c) := by
  refine ⟨.bool (decide (c = c)), equalsIn_ofChar true c c, ?_⟩
  simp only [decide_true, truthy]

theorem counts_ofByte (b : UInt8) : (Source.ofByte b).Counts (Source.ofByte b) := by
  refine ⟨.bool true, ?_, rfl⟩
  simp [Source.ofByte, equalsIn, equalNumbers, number?, Number.equals]

/-- Sequences are equal only if their items count as equal one by one. -/
theorem equalItems_counts {xs ys : List Value} (equal : equalItems xs ys = .ok true) :
    List.Forall₂ Counts xs ys := by
  induction xs generalizing ys with
  | nil =>
    cases ys with
    | nil => exact .nil
    | cons y ys => unfold equalItems at equal; cases equal
  | cons x xs ih =>
    cases ys with
    | nil => unfold equalItems at equal; cases equal
    | cons y ys =>
      unfold equalItems at equal
      cases asked : equalsIn true x y with
      | error fault => rw [asked] at equal; cases equal
      | ok answer =>
        rw [asked] at equal
        change (if answer.truthy then equalItems xs ys else .ok false) = .ok true at equal
        by_cases yes : answer.truthy = true
        · rw [if_pos yes] at equal
          exact .cons ⟨answer, asked, yes⟩ (ih equal)
        · rw [if_neg yes] at equal
          cases equal

/-- What has a size has no answer of its own. -/
theorem answerEq_of_size {v : Value} {n : Nat} (sized : v.size = .ok n) (otherwise : Bool) :
    v.answerEq otherwise = .ok (.bool otherwise) := by
  cases v with
  | touchy | scripted => cases sized
  | _ => rfl

theorem not_truthy_of_answerEq {v answer : Value} {n : Nat} (sized : v.size = .ok n)
    (answered : v.answerEq false = .ok answer) : answer.truthy = false := by
  rw [answerEq_of_size sized] at answered
  cases answered
  rfl

theorem truthy_of_map_bool {x : Except Fault Bool} {answer : Value}
    (mapped : x.map .bool = .ok answer) (yes : answer.truthy = true) : x = .ok true := by
  cases x with
  | error fault => cases mapped
  | ok b =>
    cases mapped
    exact congrArg Except.ok yes

end Value

namespace Source

theorem elements_toValue (src : Source) : src.toValue.elements = src.items := by
  cases src with
  | text cs =>
    simp only [toValue, Value.elements, items, String.toList_ofList]
    rfl
  | bytes | list | tuple => rfl

/-- The items of a piece count as equal to those of a pattern that the piece equals. -/
theorem counts_of_equals (piece : Source) {pattern answer : Value} {n : Nat}
    (sized : pattern.size = .ok n) (equal : piece.toValue.equals pattern = .ok answer)
    (yes : answer.truthy = true) : List.Forall₂ Value.Counts piece.items pattern.elements := by
  have refused (unanswered : pattern.answerEq false = .ok answer) : False := by
    rw [Value.not_truthy_of_answerEq sized unanswered] at yes
    cases yes
  cases piece with
  | text cs =>
    unfold toValue Value.equals Value.equalsIn at equal
    split at equal
    · rename_i t
      cases equal
      have same : String.ofList cs = t := beq_iff_eq.mp yes
      subst same
      have elements := elements_toValue (.text cs)
      rw [toValue] at elements
      rw [elements]
      apply List.forall₂_same.mpr
      intro x member
      obtain ⟨c, _, rfl⟩ := List.mem_map.mp member
      exact Value.counts_ofChar c
    · exact (refused equal).elim
  | bytes bs =>
    unfold toValue Value.equals Value.equalsIn at equal
    split at equal
    · rename_i bs'
      cases equal
      have same : bs = bs' := beq_iff_eq.mp yes
      subst same
      apply List.forall₂_same.mpr
      intro x member
      obtain ⟨b, _, rfl⟩ := List.mem_map.mp member
      exact Value.counts_ofByte b
    · exact (refused equal).elim
  | list xs =>
    unfold toValue Value.equals Value.equalsIn at equal
    split at equal
    · split at equal
      · exact Value.equalItems_counts (Value.truthy_of_map_bool equal yes)
      · cases equal
        cases yes
    · exact (refused equal).elim
  | tuple xs =>
    unfold toValue Value.equals Value.equalsIn at equal
    split at equal
    · exact Value.equalItems_counts (Value.truthy_of_map_bool equal yes)
    · exact (refused equal).elim

/-! ## Pieces of the source -/

theorem items_cut_append (src : Source) {i j k : Int} (lo : 0 ≤ i) (first : i ≤ j) (rest : j ≤ k)
    (hi : k ≤ src.length) :
    (src.cut i j).items ++ (src.cut j k).items = (src.cut i k).items := by
  rw [← length_items] at hi
  simp only [items_cut]
  exact slice_append lo first rest hi

theorem items_cut_self (src : Source) (i : Int) : (src.cut i i).items = [] := by
  rw [items_cut]
  simp only [Sluice.slice, Nat.sub_self, List.take_zero]

/-- The item at a position is all that lies between it and the next. -/
theorem items_cut_one (src : Source) {i : Int} (lo : 0 ≤ i) (within : i + 1 ≤ src.length) :
    ∃ v, src.item i = .ok v ∧ (src.cut i (i + 1)).items = [v] := by
  obtain ⟨n, rfl⟩ := Int.eq_ofNat_of_zero_le lo
  have bound : n < src.items.length := by
    rw [length_items]
    omega
  have alone : src.items.drop n = [src.items[n]] ++ src.items.drop (n + 1) := by
    rw [List.drop_eq_getElem_cons bound]
    rfl
  have found : src.item? n = some src.items[n] := by
    rw [item?_natCast, alone]
    rfl
  have piece := items_cut_of_drop src alone
  rw [List.length_singleton, Int.natCast_add, Int.natCast_one] at piece
  exact ⟨src.items[n], item_of_item? src found, piece⟩

/-- What was got between two positions accounts for all that lies between them. -/
structure Accounted (src : Source) (i j : Int) (got : List Got) : Prop where
  forward : i ≤ j
  within : j ≤ src.length
  items : List.Forall₂ Got.Accounts (src.cut i j).items got

namespace Accounted

variable {src : Source} {i j k : Int} {got more : List Got}

theorem nothing (hi : i ≤ src.length) : src.Accounted i i [] := by
  refine ⟨Int.le_refl i, hi, ?_⟩
  rw [items_cut_self]
  exact .nil

theorem append (lo : 0 ≤ i) (first : src.Accounted i j got) (rest : src.Accounted j k more) :
    src.Accounted i k (got ++ more) := by
  refine ⟨Int.le_trans first.forward rest.forward, rest.within, ?_⟩
  rw [← items_cut_append src lo first.forward rest.forward rest.within]
  exact List.rel_append first.items rest.items

/-- A slice accounts for itself. -/
theorem slice (forward : i ≤ j) (within : j ≤ src.length) :
    src.Accounted i j ((src.slice i j).elements.map .read) := by
  refine ⟨forward, within, ?_⟩
  rw [Source.slice, elements_toValue]
  apply List.forall₂_map_right_iff.mpr
  apply List.forall₂_same.mpr
  intro x _
  rfl

theorem pattern {v answer : Value} {n : Nat} (within : i + n ≤ src.length)
    (sized : v.size = .ok n) (equal : (src.slice i (i + n)).equals v = .ok answer)
    (yes : answer.truthy = true) : src.Accounted i (i + n) (v.elements.map .found) := by
  refine ⟨by omega, within, ?_⟩
  apply List.forall₂_map_right_iff.mpr
  exact counts_of_equals (src.cut i (i + n)) sized equal yes

theorem item {v : Value} (lo : 0 ≤ i) (within : i + 1 ≤ src.length) (there : src.item i = .ok v) :
    src.Accounted i (i + 1) [.read v] := by
  refine ⟨by omega, within, ?_⟩
  obtain ⟨w, found, piece⟩ := items_cut_one src lo within
  rw [found] at there
  cases there
  rw [piece]
  exact .cons rfl .nil

end Accounted

end Source

/-! ## Calls -/

variable {src : Source} {s t : Progress}

/-- The first pattern that is found, and nothing moved where none is. -/
theorem Stream.oneOf_cases {patterns : List Value} {found : Option Value}
    (run : Stream.oneOf src patterns s = .ok found t) :
    (found = none ∧ t = s) ∨
    ∃ pattern, found = some pattern ∧ Stream.literal src pattern s = .ok true t := by
  induction patterns generalizing s with
  | nil =>
    cases run
    exact .inl ⟨rfl, rfl⟩
  | cons pattern rest ih =>
    rw [Stream.oneOf] at run
    obtain ⟨matched, u, first, others⟩ := Action.bind_ok run
    cases matched with
    | true =>
      cases others
      exact .inr ⟨pattern, rfl, first⟩
    | false =>
      obtain ⟨_, rfl⟩ | ⟨yes, _⟩ := Stream.literal_cases first
      · exact ih others
      · cases yes

theorem Stream.literal_accounted {pattern : Value}
    (run : Stream.literal src pattern s = .ok true t) :
    src.Accounted s.pos t.pos (pattern.elements.map .found) := by
  obtain ⟨no, _⟩ | ⟨_, n, answer, size, enough, equal, yes, rfl⟩ := Stream.literal_cases run
  · cases no
  · simp only [Source.hasItems, decide_eq_true_eq] at enough
    exact .pattern enough size equal yes

/-- **What a call gets is what it passes**, and without success it passes nothing. -/
theorem Call.perform_cases {call : Call} {got : Option (List Got)} (lo : 0 ≤ s.pos)
    (run : call.perform src s = .ok got t) :
    (got = none ∧ t = s) ∨ ∃ items, got = some items ∧ src.Accounted s.pos t.pos items := by
  cases call with
  | take amount =>
    obtain ⟨taken, u, took, run⟩ := Action.bind_ok run
    cases run
    rw [Stream.take_run, Source.peek] at took
    by_cases enough : src.hasItems s.pos amount = true
    · rw [if_pos enough] at took
      cases took
      simp only [Source.hasItems, decide_eq_true_eq] at enough
      have forward : s.pos ≤ s.pos + amount := by omega
      exact .inr ⟨_, rfl, .slice forward enough⟩
    · rw [if_neg enough] at took
      cases took
      exact .inl ⟨rfl, rfl⟩
  | item =>
    obtain ⟨start, u, here, run⟩ := Action.bind_ok run
    cases here
    obtain ⟨v, u, took, run⟩ := Action.bind_ok run
    cases run
    rw [Stream.item_run] at took
    by_cases left : src.hasItems s.pos 1 = true
    · rw [if_pos left] at took
      simp only [Source.hasItems, decide_eq_true_eq] at left
      cases there : src.item s.pos with
      | error fault => rw [there] at took; cases took
      | ok w =>
        rw [there] at took
        cases took
        have moved : s.pos + 1 ≠ s.pos := by omega
        rw [if_neg moved]
        exact .inr ⟨_, rfl, .item lo left there⟩
    · rw [if_neg left] at took
      cases took
      rw [if_pos rfl]
      exact .inl ⟨rfl, rfl⟩
  | literal pattern =>
    obtain ⟨matched, u, tried, run⟩ := Action.bind_ok run
    cases run
    cases matched with
    | true => exact .inr ⟨_, rfl, Stream.literal_accounted tried⟩
    | false =>
      obtain ⟨_, rfl⟩ | ⟨yes, _⟩ := Stream.literal_cases tried
      · exact .inl ⟨rfl, rfl⟩
      · cases yes
  | oneOf patterns =>
    obtain ⟨found, u, tried, run⟩ := Action.bind_ok run
    cases run
    obtain ⟨rfl, rfl⟩ | ⟨pattern, rfl, matched⟩ := Stream.oneOf_cases tried
    · exact .inl ⟨rfl, rfl⟩
    · exact .inr ⟨_, rfl, Stream.literal_accounted matched⟩

theorem Call.perform_accounted {call : Call} {got : Option (List Got)} (lo : 0 ≤ s.pos)
    (hi : s.pos ≤ src.length) (run : call.perform src s = .ok got t) :
    src.Accounted s.pos t.pos (got.getD []) := by
  obtain ⟨rfl, rfl⟩ | ⟨items, rfl, accounted⟩ := call.perform_cases lo run
  · exact .nothing hi
  · exact accounted

theorem performAll_accounted {calls : List Call} {got : List Got} (lo : 0 ≤ s.pos)
    (hi : s.pos ≤ src.length) (run : performAll src calls s = .ok got t) :
    src.Accounted s.pos t.pos got := by
  induction calls generalizing s got with
  | nil =>
    cases run
    exact .nothing hi
  | cons call rest ih =>
    obtain ⟨first, u, here, run⟩ := Action.bind_ok run
    obtain ⟨others, v, there, run⟩ := Action.bind_ok run
    cases run
    have passed := call.perform_accounted lo hi here
    have further := ih (Int.le_trans lo passed.forward) passed.within there
    exact passed.append lo further

/-- A run that came to its end had come to every moment before. -/
theorem performAll_split {before rest : List Call} {got : List Got}
    (run : performAll src (before ++ rest) s = .ok got t) :
    ∃ earlier u later, performAll src before s = .ok earlier u ∧
      performAll src rest u = .ok later t ∧ got = earlier ++ later := by
  rw [performAll_append] at run
  obtain ⟨earlier, u, first, run⟩ := Action.bind_ok run
  obtain ⟨later, v, others, run⟩ := Action.bind_ok run
  cases run
  exact ⟨earlier, u, later, first, others, rfl⟩

/-- How calls from a state account for the source. -/
structure Conserved (src : Source) (start : Progress) (calls : List Call) : Prop where
  /-- At every moment, what was got so far accounts for all that lies behind the stream. -/
  moments : ∀ before after, calls = before ++ after → ∃ got s,
    performAll src before start = .ok got s ∧ src.Accounted start.pos s.pos got
  /-- A call that does not succeed leaves the stream where it is. -/
  failures : ∀ before call after, calls = before ++ call :: after → ∃ earlier s got t,
    performAll src before start = .ok earlier s ∧ call.perform src s = .ok got t ∧
    (got = none → t = s)
  /-- The slice of a checkpoint made at some moment, at some later moment. -/
  slices : ∀ before since after, calls = before ++ since ++ after → ∃ earlier s c later t v,
    performAll src before start = .ok earlier s ∧ Checkpoint.new s = .ok c s ∧
    performAll src since s = .ok later t ∧ c.slice src t = .ok v t ∧
    List.Forall₂ Got.Accounts v.elements later

/-- **No item is lost or taken twice** by calls that begin inside the source and raise nothing. -/
theorem calls_conserve_items {start : Progress} (lo : 0 ≤ start.pos)
    (hi : start.pos ≤ src.length) {calls : List Call} {got : List Got}
    (run : performAll src calls start = .ok got t) : Conserved src start calls where
  moments before after split := by
    subst split
    obtain ⟨earlier, s, later, first, _, _⟩ := performAll_split run
    exact ⟨earlier, s, first, performAll_accounted lo hi first⟩
  failures before call after split := by
    subst split
    obtain ⟨earlier, s, later, first, others, _⟩ := performAll_split run
    obtain ⟨got, u, here, _⟩ := Action.bind_ok others
    have passed := performAll_accounted lo hi first
    have inside : 0 ≤ s.pos := Int.le_trans lo passed.forward
    refine ⟨earlier, s, got, u, first, here, fun unsuccessful => ?_⟩
    obtain ⟨_, still⟩ | ⟨items, successful, _⟩ := call.perform_cases inside here
    · exact still
    · rw [successful] at unsuccessful
      cases unsuccessful
  slices before since after split := by
    subst split
    obtain ⟨_, t, _, run, _, _⟩ := performAll_split run
    obtain ⟨earlier, s, later, first, others, _⟩ := performAll_split run
    have passed := performAll_accounted lo hi first
    have inside : 0 ≤ s.pos := Int.le_trans lo passed.forward
    have since_then := performAll_accounted inside passed.within others
    refine ⟨earlier, s, ⟨s.pos, false⟩, later, t, src.slice s.pos t.pos, first, rfl, others, rfl,
      ?_⟩
    rw [Source.slice, Source.elements_toValue]
    exact since_then.items

/-- The pattern's one counts as the source's truth value, and the item that is nothing is read. -/
theorem calls_conserve_items_list :
    let src := Source.list [.bool true, .nothing, .text "b"]
    let calls := [Call.literal (.list [.int 1]), .item, .take 0, .literal (.list [.text "c"]),
      .oneOf [.list [.nothing], .list [.text "b"]], .item]
    performAll src calls ⟨0, []⟩ =
      .ok [.found (.int 1), .read .nothing, .found (.text "b")] ⟨3, []⟩ ∧
    Conserved src ⟨0, []⟩ calls := by
  intro src calls
  have run : performAll src calls ⟨0, []⟩ =
      .ok [.found (.int 1), .read .nothing, .found (.text "b")] ⟨3, []⟩ := rfl
  exact ⟨run, calls_conserve_items (by decide) (by decide) run⟩

end Sluice
