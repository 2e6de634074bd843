import Sluice.Stream

/-!
Scanning. A position leads to a sequence of items: those that are left, and from a position below
zero, all the others behind them once more. Looking ahead sees the first of these items, and
skipping passes exactly the ones that are among some texts and come before the first other one.
-/
namespace Sluice

theorem Value.isOneOf_iff {texts : List String} {v : Value} :
    v.isOneOf texts = true ↔ ∃ t ∈ texts, v = .text t := by
  cases v with
  | text s => simp [isOneOf]
  | _ => simp [isOneOf]

theorem Value.isOneOf_letters {alphabet : List Char} {v : Value} :
    v.isOneOf (Text.letters alphabet) = true ↔ ∃ c ∈ alphabet, v = Source.ofChar c := by
  simp only [isOneOf_iff, Text.letters, List.mem_map]
  constructor
  · rintro ⟨_, ⟨c, member, rfl⟩, rfl⟩
    exact ⟨c, member, rfl⟩
  · rintro ⟨c, member, rfl⟩
    exact ⟨_, ⟨c, member, rfl⟩, rfl⟩

/-- None of the texts comes first. -/
def Value.Stops (texts : List String) (rest : List Value) : Prop :=
  rest.head?.any (·.isOneOf texts) = false

namespace Source

variable (src : Source)

theorem item?_natCast (s : Nat) : src.item? s = (src.items.drop s).head? := by
  rw [item?_eq, itemAt?, if_pos (Int.natCast_nonneg s), Int.toNat_natCast, List.head?_drop]

theorem item_of_item? {i : Int} {v : Value} (there : src.item? i = some v) :
    src.item i = .ok v := by
  simp only [item, there]

/-! ## The items ahead -/

/-- The items from a position on, in the order in which reading meets them. Below zero, what is left
of the source is followed by the whole of it, since positions go on from -1 to 0. -/
def ahead (p : Int) : List Value :=
  if 0 ≤ p then src.items.drop p.toNat else src.items.drop (src.length + p).toNat ++ src.items

theorem ahead_natCast (s : Nat) : src.ahead s = src.items.drop s := by
  rw [ahead, if_pos (Int.natCast_nonneg s), Int.toNat_natCast]

theorem ahead_of_neg {p : Int} (neg : p < 0) :
    src.ahead p = src.items.drop (src.length + p).toNat ++ src.items := by
  rw [ahead, if_neg (by omega)]

variable {src} {p : Int}

theorem length_ahead (lo : -src.length ≤ p) : (src.ahead p).length = (src.length - p).toNat := by
  rw [ahead]
  split
  · rw [List.length_drop, length_items]
    omega
  · rw [List.length_append, List.length_drop, length_items]
    omega

/-- Looking up the items ahead is indexing the source. -/
theorem getElem?_ahead (lo : -src.length ≤ p) (k : Nat) :
    (src.ahead p)[k]? = src.item? (p + k) := by
  rw [item?_eq, itemAt?, ahead, length_items]
  by_cases start : 0 ≤ p
  · rw [if_pos start, if_pos (by omega), List.getElem?_drop]
    congr 1
    omega
  · rw [if_neg start, List.getElem?_append, List.length_drop, length_items, List.getElem?_drop]
    by_cases below : p + k < 0
    · rw [if_pos (by omega), if_neg (by omega), if_pos (by omega)]
      congr 1
      omega
    · rw [if_neg (by omega), if_pos (by omega)]
      congr 1
      omega

theorem ahead_append {read rest : List Value} (lo : -src.length ≤ p)
    (left : src.ahead p = read ++ rest) : src.ahead (p + read.length) = rest := by
  apply List.ext_getElem?
  intro k
  have shifted := getElem?_ahead lo (read.length + k)
  rw [left, List.getElem?_append_right (Nat.le_add_right _ _), Nat.add_sub_cancel_left] at shifted
  rw [getElem?_ahead (by omega), shifted, Int.natCast_add, Int.add_assoc]

theorem ahead_cons {v : Value} {rest : List Value} (lo : -src.length ≤ p)
    (left : src.ahead p = v :: rest) : src.ahead (p + 1) = rest := by
  have split : src.ahead p = [v] ++ rest := left
  exact ahead_append lo split

theorem meets_ahead (texts : List String) (lo : -src.length ≤ p) :
    src.meets texts p = .ok ((src.ahead p).head?.any (·.isOneOf texts)) := by
  have first := getElem?_ahead lo 0
  rw [Int.natCast_zero, Int.add_zero, ← List.head?_eq_getElem?] at first
  rw [meets, first]
  cases there : src.item? p with
  | none =>
    rw [item?_eq_none_iff] at there
    have none_left : ¬src.hasItems p 1 = true := by
      simp only [hasItems, decide_eq_true_eq]
      omega
    rw [if_neg none_left]
    rfl
  | some v =>
    have inside : ¬(p < -src.length ∨ src.length ≤ p) := by
      rw [← item?_eq_none_iff, there]
      exact Option.some_ne_none v
    have one_left : src.hasItems p 1 = true := by
      simp only [hasItems, decide_eq_true_eq]
      omega
    rw [if_pos one_left, item_of_item? src there]
    rfl

variable (src) in
theorem meets_natCast (texts : List String) (s : Nat) :
    src.meets texts s = .ok ((src.items.drop s).head?.any (·.isOneOf texts)) := by
  rw [meets_ahead texts (by omega), ahead_natCast]

/-! ## What was read -/

variable (src)

theorem items_cut (a b : Int) : (src.cut a b).items = Sluice.slice src.items a b := by
  cases src with
  | list | tuple => rfl
  | text | bytes =>
    simp only [cut, items, Sluice.slice, List.map_take, List.map_drop, List.length_map]

/-- What was read is what was left before, up to where reading stopped. -/
theorem items_cut_of_drop {s : Nat} {read rest : List Value}
    (left : src.items.drop s = read ++ rest) :
    (src.cut s (s + read.length : Nat)).items = read := by
  have counted := congrArg List.length left
  simp only [List.length_drop, List.length_append] at counted
  rw [items_cut]
  by_cases inside : s ≤ src.items.length
  · rw [slice_of_le (by omega) (by omega) (by omega), Int.toNat_natCast, left]
    have amount : ((s + read.length : Nat) - (s : Int)).toNat = read.length := by omega
    rw [amount, List.take_left]
  · have nothing : read = [] := List.eq_nil_of_length_eq_zero (by omega)
    subst nothing
    simp only [Sluice.slice, List.length_nil, Nat.add_zero, Nat.sub_self, List.take_zero]

end Source

namespace Stream

variable {src : Source} {texts : List String} {run rest : List Value} {p : Int}

/-- So many rounds pass so many items, but none behind the run. -/
theorem skipUpTo_over (inside : ∀ v ∈ run, v.isOneOf texts = true)
    (stops : Value.Stops texts rest) (lo : -src.length ≤ p) (left : src.ahead p = run ++ rest)
    (n : Nat) (calls : List Nat) :
    skipUpTo src texts n ⟨p, calls⟩ = .ok () ⟨p + min n run.length, calls⟩ := by
  induction n generalizing p run with
  | zero =>
    rw [Nat.zero_min, Int.natCast_zero, Int.add_zero]
    rfl
  | succ n ih =>
    have looked := Source.meets_ahead texts lo
    rw [left] at looked
    rw [skipUpTo, Action.bind_run, meets_run]
    cases run with
    | nil =>
      rw [List.nil_append, stops] at looked
      rw [looked, List.length_nil, Nat.min_zero, Int.natCast_zero, Int.add_zero]
      rfl
    | cons v run =>
      obtain ⟨first, others⟩ := List.forall_mem_cons.mp inside
      rw [List.cons_append, List.head?_cons, Option.any_some, first] at looked
      have behind := Source.ahead_cons lo left
      rw [looked]
      simp only [if_true, Action.bind_run, advance_run]
      rw [ih others (by omega) behind, List.length_cons, Nat.add_min_add_right, Int.natCast_add,
        Int.natCast_one, Int.add_assoc, Int.add_comm 1]

/-- **Skipping passes exactly the run of some texts.** -/
theorem skip_over (inside : ∀ v ∈ run, v.isOneOf texts = true) (stops : Value.Stops texts rest)
    (lo : -src.length ≤ p) (left : src.ahead p = run ++ rest) (calls : List Nat) :
    skip src texts ⟨p, calls⟩ = .ok () ⟨p + run.length, calls⟩ := by
  have enough : run.length ≤ room src p := by
    rw [room, ← Source.length_ahead lo, left, List.length_append]
    exact Nat.le_add_right _ _
  rw [skip_run, skipUpTo_over inside stops lo left, Nat.min_eq_right enough]

end Stream

end Sluice
