import Mathlib.Data.List.Perm.Subperm
import Sluice.Proofs.Opposites

/-!
Equality of responses. Without a value that differs from itself and without values that compare in
their own way, `==` says whether two values are built alike: it goes by what atoms stand for, by
items in order, and by the entries of a dict in any order. That is an equivalence, and filters
cannot tell equal responses apart.
-/
namespace Sluice

namespace Value

/-- Values that compare like others, and are equal to themselves, all the way down. A dict has each
key once. -/
inductive Ordinary : Value → Prop where
  | nothing : Ordinary .nothing
  | bool (b : Bool) : Ordinary (.bool b)
  | int (n : Int) : Ordinary (.int n)
  | float (self : Identity) {x : Double} (proper : x ≠ .nan) : Ordinary (.float self x)
  | text (s : String) : Ordinary (.text s)
  | bytes (bs : List UInt8) : Ordinary (.bytes bs)
  | list {items : List Value} (all : ∀ v ∈ items, Ordinary v) : Ordinary (.list items)
  | tuple {items : List Value} (all : ∀ v ∈ items, Ordinary v) : Ordinary (.tuple items)
  | dict {entries : List (Key × Value)} (keys : (entries.map Prod.fst).Nodup)
      (all : ∀ entry ∈ entries, Ordinary entry.2) : Ordinary (.dict entries)
  | exception (self : Nat) (kind : Kind) (text : String) : Ordinary (.exception self kind text)
  | success (self : Identity) {data : Value} (range : Option (Int × Int)) (inner : Ordinary data) :
      Ordinary (.response (.success self data range))
  | failure (self : Identity) (pos : Option Int) {error : Value} (message : Option String)
      (inner : Ordinary error) : Ordinary (.response (.failure self pos error message))

/-- What a value without parts stands for. -/
inductive Atom where
  | nothing
  | number (n : Number)
  | text (s : String)
  | bytes (bs : List UInt8)
  | exception (self : Nat)
  deriving DecidableEq

def atom? : Value → Option Atom
  | .nothing => some .nothing
  | .text s => some (.text s)
  | .bytes bs => some (.bytes bs)
  | .exception self _ _ => some (.exception self)
  | v => v.number?.map .number

/-- Values that are built alike. Which object a response is does not count. -/
inductive Alike : Value → Value → Prop where
  | atom {a b : Value} {x : Atom} (left : a.atom? = some x) (right : b.atom? = some x) : Alike a b
  | list {xs ys : List Value} (length : xs.length = ys.length)
      (each : ∀ (i : Nat) (left : i < xs.length) (right : i < ys.length), Alike xs[i] ys[i]) :
      Alike (.list xs) (.list ys)
  | tuple {xs ys : List Value} (length : xs.length = ys.length)
      (each : ∀ (i : Nat) (left : i < xs.length) (right : i < ys.length), Alike xs[i] ys[i]) :
      Alike (.tuple xs) (.tuple ys)
  | dict {xs ys : List (Key × Value)} (keys : ∀ key, xs.lookup key = none ↔ ys.lookup key = none)
      (each : ∀ key x y, xs.lookup key = some x → ys.lookup key = some y → Alike x y) :
      Alike (.dict xs) (.dict ys)
  | success {self other : Identity} {data data' : Value} {range : Option (Int × Int)}
      (inner : Alike data data') :
      Alike (.response (.success self data range)) (.response (.success other data' range))
  | failure {self other : Identity} {pos : Option Int} {error error' : Value}
      {message : Option String} (inner : Alike error error') :
      Alike (.response (.failure self pos error message))
        (.response (.failure other pos error' message))

/-! ## An equivalence -/

theorem lookup_eq_some_iff {entries : List (Key × Value)} (keys : (entries.map Prod.fst).Nodup)
    {key : Key} {v : Value} : entries.lookup key = some v ↔ (key, v) ∈ entries := by
  induction entries with
  | nil => simp
  | cons first rest ih =>
    obtain ⟨absent, others⟩ := List.nodup_cons.mp keys
    obtain ⟨key', v'⟩ := first
    by_cases same : key = key'
    · subst same
      have once : (key, v) ∉ rest := fun behind => absent (List.mem_map.mpr ⟨_, behind, rfl⟩)
      simp [once, eq_comm]
    · rw [List.lookup_cons, beq_eq_false_iff_ne.mpr same]
      simp [same, ih others]

theorem lookup_eq_none_iff {entries : List (Key × Value)} {key : Key} :
    entries.lookup key = none ↔ key ∉ entries.map Prod.fst := by
  rw [List.lookup_eq_none_iff]
  simp only [List.mem_map, not_exists, not_and]
  constructor
  · intro other entry member same
    simpa [same] using other entry member
  · intro other entry member
    simpa using fun same => other entry member same.symm

variable {a b c : Value}

theorem Ordinary.alike_self (ordinary : Ordinary a) : Alike a a := by
  induction ordinary with
  | nothing | bool | int | float | text | bytes | exception => exact .atom rfl rfl
  | list all ih => exact .list rfl fun i left right => ih _ (List.getElem_mem left)
  | tuple all ih => exact .tuple rfl fun i left right => ih _ (List.getElem_mem left)
  | dict keys all ih =>
    refine .dict (fun key => Iff.rfl) fun key x y left right => ?_
    cases left.symm.trans right
    exact ih (key, x) ((lookup_eq_some_iff keys).mp left)
  | success self range inner ih => exact .success ih
  | failure self pos message inner ih => exact .failure ih

namespace Alike

theorem symm (alike : Alike a b) : Alike b a := by
  induction alike with
  | atom left right => exact .atom right left
  | list length each ih => exact .list length.symm fun i left right => ih i right left
  | tuple length each ih => exact .tuple length.symm fun i left right => ih i right left
  | dict keys each ih =>
    exact .dict (fun key => (keys key).symm) fun key x y left right => ih key y x right left
  | success inner ih => exact .success ih
  | failure inner ih => exact .failure ih

theorem trans (first : Alike a b) (second : Alike b c) : Alike a c := by
  induction first generalizing c with
  | atom left right =>
    cases second with
    | atom left' right' =>
      cases right.symm.trans left'
      exact .atom left right'
    | _ => cases right
  | list length each ih =>
    cases second with
    | atom left => cases left
    | list length' each' =>
      exact .list (length.trans length') fun i left right =>
        ih i left (length ▸ left) (each' i (length ▸ left) right)
  | tuple length each ih =>
    cases second with
    | atom left => cases left
    | tuple length' each' =>
      exact .tuple (length.trans length') fun i left right =>
        ih i left (length ▸ left) (each' i (length ▸ left) right)
  | dict keys each ih =>
    rename_i xs ys
    cases second with
    | atom left => cases left
    | dict keys' each' =>
      refine .dict (fun key => (keys key).trans (keys' key)) fun key x z left right => ?_
      cases middle : ys.lookup key with
      | none =>
        rw [(keys key).mpr middle] at left
        cases left
      | some y => exact ih key x y left middle (each' key y z middle right)
  | success inner ih =>
    cases second with
    | atom left => cases left
    | success inner' => exact .success (ih inner')
  | failure inner ih =>
    cases second with
    | atom left => cases left
    | failure inner' => exact .failure (ih inner')

end Alike

/-! ## What a comparison answers -/

theorem reduce_ne_nan (n : Int) (k : Nat) : Number.reduce n k ≠ .nan := by
  induction k generalizing n with
  | zero => exact Number.noConfusion
  | succ k ih =>
    unfold Number.reduce
    split
    · exact ih _
    · exact Number.noConfusion

theorem ofDouble_ne_nan {x : Double} (proper : x ≠ .nan) : Number.ofDouble x ≠ .nan := by
  cases x with
  | nan => exact (proper rfl).elim
  | infinite negative => exact Number.noConfusion
  | finite negative m q =>
    dsimp only [Number.ofDouble]
    split
    · exact Number.noConfusion
    · exact reduce_ne_nan _ _

theorem equals_of_ne_nan {m : Number} (proper : m ≠ .nan) (n : Number) :
    m.equals n = (m == n) := by
  cases m with
  | nan => exact (proper rfl).elim
  | _ => rfl

namespace Ordinary

theorem answerEq (ordinary : Ordinary b) (otherwise : Bool) :
    b.answerEq otherwise = .ok (.bool otherwise) := by
  cases ordinary <;> rfl

theorem comparesItself (ordinary : Ordinary a) : a.comparesItself = false := by
  cases ordinary <;> rfl

theorem data {self : Identity} {range : Option (Int × Int)}
    (ordinary : Ordinary (.response (.success self a range))) : Ordinary a := by
  cases ordinary
  assumption

theorem number_ne_nan {m : Number} (ordinary : Ordinary a) (number : a.number? = some m) :
    m ≠ .nan := by
  cases ordinary with
  | bool | int =>
    cases number
    exact Number.noConfusion
  | float self proper =>
    cases number
    exact ofDouble_ne_nan proper
  | _ => cases number

theorem sameNaN (ordinary : Ordinary a) (inside : Bool) (b : Value) :
    sameNaN inside a b = false := by
  cases ordinary with
  | @float self x proper =>
    cases x with
    | nan => exact (proper rfl).elim
    | _ => rfl
  | _ => rfl

theorem equalsIn_number {m : Number} (ordinary : Ordinary a) (number : a.number? = some m)
    (inside : Bool) (other : Ordinary b) :
    equalsIn inside a b = .ok (.bool (b.number? == some m)) := by
  have whole : equalsIn inside a b = equalNumbers inside a m b := by
    cases a <;> cases number <;> unfold equalsIn <;> rfl
  rw [whole, equalNumbers]
  cases found : b.number? with
  | none => exact other.answerEq false
  | some n =>
    dsimp only
    rw [equals_of_ne_nan (ordinary.number_ne_nan number), ordinary.sameNaN, Bool.or_false,
      Option.some_beq_some, BEq.comm]

end Ordinary

/-- The comparison answers with a truth value, which says whether the values are built alike. -/
def Decides (inside : Bool) (a b : Value) : Prop :=
  ∃ e : Bool, equalsIn inside a b = .ok (.bool e) ∧ (e = true ↔ Alike a b)

theorem Decides.apart {inside : Bool} (other : Ordinary b)
    (foreign : equalsIn inside a b = b.answerEq false) (apart : ¬ Alike a b) :
    Decides inside a b :=
  ⟨false, foreign.trans (other.answerEq false), iff_of_false Bool.false_ne_true apart⟩

theorem alike_atom {x : Atom} (atom : a.atom? = some x) : Alike a b ↔ b.atom? = some x := by
  constructor
  · intro alike
    cases alike with
    | atom left right =>
      cases atom.symm.trans left
      exact right
    | _ => cases atom
  · exact .atom atom

theorem atom_number {m : Number} : b.atom? = some (.number m) ↔ b.number? = some m := by
  cases b <;> simp [atom?, number?]

theorem Ordinary.decides_number {m : Number} (ordinary : Ordinary a) (number : a.number? = some m)
    (inside : Bool) (other : Ordinary b) : Decides inside a b := by
  refine ⟨_, ordinary.equalsIn_number number inside other, beq_iff_eq.trans ?_⟩
  rw [alike_atom (atom_number.mpr number), atom_number]

theorem Ordinary.decides_atom {x : Atom} (ordinary : Ordinary a) (atom : a.atom? = some x)
    (inside : Bool) (other : Ordinary b) : Decides inside a b := by
  cases a with
  | bool | int | float => exact ordinary.decides_number rfl inside other
  | nothing | text | bytes | exception =>
    suffices answer : equalsIn inside _ b = .ok (.bool (decide (b.atom? = some x))) from
      ⟨_, answer, decide_eq_true_iff.trans (alike_atom atom).symm⟩
    cases atom
    cases other <;> simp [equalsIn, atom?, number?, Value.answerEq, Bool.beq_eq_decide_eq, eq_comm]
  | _ => cases atom

theorem equalItems_decides {xs ys : List Value} (each : ∀ x ∈ xs, ∀ y ∈ ys, Decides true x y) :
    ∃ e : Bool, equalItems xs ys = .ok e ∧ (e = true ↔ List.Forall₂ Alike xs ys) := by
  induction xs generalizing ys with
  | nil => cases ys <;> exact ⟨_, rfl, by simp⟩
  | cons x xs ih =>
    cases ys with
    | nil => exact ⟨false, rfl, by simp⟩
    | cons y ys =>
      obtain ⟨first, answer, alike⟩ := each x List.mem_cons_self y List.mem_cons_self
      obtain ⟨others, rest, alikes⟩ := @ih ys fun x' left y' right =>
        each x' (List.mem_cons_of_mem x left) y' (List.mem_cons_of_mem y right)
      refine ⟨first && others, ?_, ?_⟩
      · rw [equalItems, answer]
        cases first with
        | true => exact rest
        | false => rfl
      · rw [Bool.and_eq_true, alike, alikes, List.forall₂_cons]

/-- Each entry has one under its key on the other side. -/
def Covered (xs ys : List (Key × Value)) : Prop :=
  ∀ entry ∈ xs, ∃ y, ys.lookup entry.1 = some y ∧ Alike entry.2 y

theorem equalEntries_decides {xs ys : List (Key × Value)}
    (each : ∀ entry ∈ xs, ∀ y, ys.lookup entry.1 = some y → Decides true entry.2 y) :
    ∃ e : Bool, equalEntries xs ys = .ok e ∧ (e = true ↔ Covered xs ys) := by
  induction xs with
  | nil => exact ⟨true, rfl, by simp [Covered]⟩
  | cons entry rest ih =>
    obtain ⟨key, x⟩ := entry
    obtain ⟨first, later⟩ := List.forall_mem_cons.mp each
    cases found : ys.lookup key with
    | none =>
      refine ⟨false, by rw [equalEntries, found], iff_of_false Bool.false_ne_true ?_⟩
      intro covered
      obtain ⟨y, there, -⟩ := covered (key, x) List.mem_cons_self
      cases found.symm.trans there
    | some y =>
      obtain ⟨e, answer, alike⟩ := first y found
      obtain ⟨others, remaining, covered⟩ := ih later
      refine ⟨e && others, ?_, ?_⟩
      · rw [equalEntries, found]
        dsimp only
        rw [answer]
        cases e with
        | true => exact remaining
        | false => rfl
      · rw [Bool.and_eq_true, alike, covered, Covered, Covered, List.forall_mem_cons]
        simp [found]

theorem alike_list {xs ys : List Value} :
    Alike (.list xs) (.list ys) ↔ List.Forall₂ Alike xs ys := by
  rw [List.forall₂_iff_get]
  constructor
  · intro alike
    cases alike with
    | atom atom => cases atom
    | list length each => exact ⟨length, each⟩
  · exact fun both => .list both.1 both.2

theorem alike_tuple {xs ys : List Value} :
    Alike (.tuple xs) (.tuple ys) ↔ List.Forall₂ Alike xs ys := by
  rw [List.forall₂_iff_get]
  constructor
  · intro alike
    cases alike with
    | atom atom => cases atom
    | tuple length each => exact ⟨length, each⟩
  · exact fun both => .tuple both.1 both.2

/-- As each key is there once, as many entries as there are on the other side leave none over. -/
theorem alike_dict {xs ys : List (Key × Value)} (left : (xs.map Prod.fst).Nodup)
    (right : (ys.map Prod.fst).Nodup) :
    Alike (.dict xs) (.dict ys) ↔ xs.length = ys.length ∧ Covered xs ys := by
  constructor
  · intro alike
    cases alike with
    | atom atom => cases atom
    | dict keys each =>
      have same : (xs.map Prod.fst).Perm (ys.map Prod.fst) := by
        rw [List.perm_ext_iff_of_nodup left right]
        intro key
        rw [← not_iff_not, ← lookup_eq_none_iff, ← lookup_eq_none_iff, keys key]
      refine ⟨by simpa using same.length_eq, fun entry member => ?_⟩
      obtain ⟨key, x⟩ := entry
      have here := (lookup_eq_some_iff left).mpr member
      cases there : ys.lookup key with
      | none =>
        rw [(keys key).mpr there] at here
        cases here
      | some y => exact ⟨y, rfl, each key x y here there⟩
  · rintro ⟨length, covered⟩
    have within : xs.map Prod.fst ⊆ ys.map Prod.fst := by
      intro key member
      obtain ⟨entry, there, rfl⟩ := List.mem_map.mp member
      obtain ⟨y, found, -⟩ := covered entry there
      exact List.mem_map.mpr ⟨_, (lookup_eq_some_iff right).mp found, rfl⟩
    have same : (xs.map Prod.fst).Perm (ys.map Prod.fst) :=
      (List.subperm_of_subset left within).perm_of_length_le (by simp [length])
    refine .dict (fun key => ?_) fun key x y here there => ?_
    · rw [lookup_eq_none_iff, lookup_eq_none_iff, same.mem_iff]
    · obtain ⟨y', found, alike⟩ := covered (key, x) ((lookup_eq_some_iff left).mp here)
      cases found.symm.trans there
      exact alike

theorem alike_success {self self' : Identity} {range range' : Option (Int × Int)} :
    Alike (.response (.success self a range)) (.response (.success self' b range')) ↔
      Alike a b ∧ range = range' := by
  constructor
  · intro alike
    cases alike with
    | atom atom => cases atom
    | success inner => exact ⟨inner, rfl⟩
  · rintro ⟨inner, rfl⟩
    exact .success inner

theorem alike_failure {self self' : Identity} {pos pos' : Option Int}
    {message message' : Option String} :
    Alike (.response (.failure self pos a message)) (.response (.failure self' pos' b message')) ↔
      pos = pos' ∧ Alike a b ∧ message = message' := by
  constructor
  · intro alike
    cases alike with
    | atom atom => cases atom
    | failure inner => exact ⟨rfl, inner, rfl⟩
  · rintro ⟨rfl, inner, rfl⟩
    exact .failure inner

section
variable {inside : Bool}

theorem decides_list {xs ys : List Value} (each : ∀ x ∈ xs, ∀ y ∈ ys, Decides true x y) :
    Decides inside (.list xs) (.list ys) := by
  obtain ⟨e, answer, alike⟩ := equalItems_decides each
  by_cases length : xs.length = ys.length
  · refine ⟨e, ?_, alike.trans alike_list.symm⟩
    simp only [equalsIn, length, if_true, answer]
    rfl
  · refine ⟨false, by simp only [equalsIn, length, if_false], ?_⟩
    rw [alike_list]
    exact iff_of_false Bool.false_ne_true fun alikes => length alikes.length_eq

theorem decides_tuple {xs ys : List Value} (each : ∀ x ∈ xs, ∀ y ∈ ys, Decides true x y) :
    Decides inside (.tuple xs) (.tuple ys) := by
  obtain ⟨e, answer, alike⟩ := equalItems_decides each
  refine ⟨e, ?_, alike.trans alike_tuple.symm⟩
  simp only [equalsIn, answer]
  rfl

theorem decides_dict {xs ys : List (Key × Value)} (left : (xs.map Prod.fst).Nodup)
    (right : (ys.map Prod.fst).Nodup)
    (each : ∀ entry ∈ xs, ∀ y, ys.lookup entry.1 = some y → Decides true entry.2 y) :
    Decides inside (.dict xs) (.dict ys) := by
  obtain ⟨e, answer, covered⟩ := equalEntries_decides each
  have alike := alike_dict left right
  by_cases length : xs.length = ys.length
  · refine ⟨e, ?_, ?_⟩
    · simp only [equalsIn, length, if_true, answer]
      rfl
    · rw [covered, alike, and_iff_right length]
  · refine ⟨false, by simp only [equalsIn, length, if_false], ?_⟩
    rw [alike]
    exact iff_of_false Bool.false_ne_true fun alikes => length alikes.1

theorem decides_success {self self' : Identity} {range range' : Option (Int × Int)}
    (inner : ∀ inside, Decides inside a b) :
    Decides inside (.response (.success self a range)) (.response (.success self' b range')) := by
  obtain ⟨e, answer, alike⟩ := inner (inside && self.same self')
  refine ⟨e && range == range', ?_, ?_⟩
  · simp only [equalsIn, answer]
    cases e <;> rfl
  · rw [Bool.and_eq_true, alike, beq_iff_eq, alike_success]

/-- The errors of failures at different positions are not compared. -/
theorem decides_failure {self self' : Identity} {pos pos' : Option Int}
    {message message' : Option String} (inner : ∀ inside, Decides inside a b) :
    Decides inside (.response (.failure self pos a message))
      (.response (.failure self' pos' b message')) := by
  obtain ⟨e, answer, alike⟩ := inner (inside && self.same self')
  refine ⟨pos == pos' && (e && message == message'), ?_, ?_⟩
  · by_cases here : pos = pos'
    · simp only [equalsIn, here, if_true, answer, beq_self_eq_true, Bool.true_and]
      cases e <;> rfl
    · simp only [equalsIn, here, if_false, beq_eq_false_iff_ne.mpr here, Bool.false_and]
  · rw [Bool.and_eq_true, Bool.and_eq_true, beq_iff_eq, alike, beq_iff_eq, alike_failure]

end

/-- Ordinary values give a straight answer. Values of different kinds leave it to the right one,
which says no. -/
theorem Ordinary.decides (ordinary : Ordinary a) (other : Ordinary b) (inside : Bool) :
    Decides inside a b := by
  induction ordinary generalizing inside b with
  | nothing => exact nothing.decides_atom rfl inside other
  | bool x => exact (bool x).decides_atom rfl inside other
  | int n => exact (int n).decides_atom rfl inside other
  | float self proper => exact (float self proper).decides_atom rfl inside other
  | text s => exact (text s).decides_atom rfl inside other
  | bytes bs => exact (bytes bs).decides_atom rfl inside other
  | exception self kind words => exact (exception self kind words).decides_atom rfl inside other
  | list all ih =>
    -- The right value is asked as a whole when its kind is another.
    have whole := other
    cases other with
    | list all' => exact decides_list fun x left y right => ih x left (all' y right) true
    | _ => exact .apart whole rfl nofun
  | tuple all ih =>
    have whole := other
    cases other with
    | tuple all' => exact decides_tuple fun x left y right => ih x left (all' y right) true
    | _ => exact .apart whole rfl nofun
  | dict keys all ih =>
    have whole := other
    cases other with
    | dict keys' all' =>
      exact decides_dict keys keys' fun entry left y found =>
        ih entry left (all' (entry.1, y) ((lookup_eq_some_iff keys').mp found)) true
    | _ => exact .apart whole rfl nofun
  | success self range inner ih =>
    have whole := other
    cases other with
    | success self' range' inner' => exact decides_success fun inside => ih inner' inside
    | _ => exact .apart whole rfl nofun
  | failure self pos message inner ih =>
    have whole := other
    cases other with
    | failure self' pos' message' inner' => exact decides_failure fun inside => ih inner' inside
    | _ => exact .apart whole rfl nofun

/-- `!=` answers with the opposite. -/
theorem Ordinary.compared (left : Ordinary a) (right : Ordinary b) :
    ∃ e : Bool, a.equals b = .ok (.bool e) ∧ a.differs b = .ok (.bool !e) ∧
      (e = true ↔ Alike a b) := by
  obtain ⟨e, answer, alike⟩ := left.decides right false
  refine ⟨e, answer, ?_, alike⟩
  rw [differs_eq left.comparesItself right.comparesItself, equals, answer]
  rfl

end Value

/-! ## Responses and filters -/

abbrev OrdinaryValue := { v : Value // v.Ordinary }

abbrev OrdinaryReply := { r : Reply // (Value.response r).Ordinary }

namespace Layer

/-- A filter that is silent, or has a diagnostic that always answers with one value. -/
def steady (direction : Direction) (w : OrdinaryValue) (answer : Option (Nat × OrdinaryValue)) :
    Layer :=
  ⟨direction, w.1, answer.map fun d => ⟨d.1, fun _ => .ok d.2.1⟩⟩

/-- What a steady filter makes of a success that it rejects. -/
def refusal (range : Option (Int × Int)) (answer : Option (Nat × OrdinaryValue)) : Reply :=
  .failure none (range.map Prod.fst) (answer.elim .nothing fun d => d.2.1) none

variable {direction : Direction} {w : OrdinaryValue} {answer : Option (Nat × OrdinaryValue)}
  {a b : Value}

theorem refusal_ordinary (range : Option (Int × Int)) (answer : Option (Nat × OrdinaryValue)) :
    (Value.response (refusal range answer)).Ordinary := by
  cases answer with
  | none => exact .failure none _ none .nothing
  | some d => exact .failure none _ none d.2.2

theorem steady_rejects (rejects : (steady direction w answer).holds a = .ok false)
    (self : Identity) (range : Option (Int × Int)) (s : Progress) :
    (steady direction w answer).narrow (.success self a range) s =
      .ok (refusal range answer)
        (answer.elim s fun d => { s with calls := d.1 :: s.calls }) := by
  simp only [Parser.narrow_run, rejects]
  cases answer with
  | none => rfl
  | some d => rfl

/-- A steady filter holds of values built alike, or of neither. -/
theorem steady_holds (left : a.Ordinary) (right : b.Ordinary) (alike : a.Alike b) :
    ∃ held, (steady direction w answer).holds a = .ok held ∧
      (steady direction w answer).holds b = .ok held := by
  obtain ⟨e, equals, differs, means⟩ := left.compared w.2
  obtain ⟨e', equals', differs', means'⟩ := right.compared w.2
  have same : e = e' := by
    rw [Bool.eq_iff_iff, means, means']
    exact ⟨alike.symm.trans, alike.trans⟩
  subst same
  cases direction with
  | eq =>
    exact ⟨e, congrArg (Except.map Value.truthy) equals, congrArg (Except.map Value.truthy) equals'⟩
  | ne =>
    exact ⟨!e, congrArg (Except.map Value.truthy) differs,
      congrArg (Except.map Value.truthy) differs'⟩

end Layer

namespace OrdinaryReply

/-- The answer to `r == r'` is true. -/
def Equal (r r' : OrdinaryReply) : Prop :=
  (Value.response r.1).equals (.response r'.1) = .ok (.bool true)

variable {r r' : OrdinaryReply}

theorem equal_iff : Equal r r' ↔ Value.Alike (.response r.1) (.response r'.1) := by
  obtain ⟨e, answer, -, alike⟩ := r.2.compared r'.2
  rw [← alike, Equal, answer]
  cases e <;> simp

theorem equal_equivalence : Equivalence Equal where
  refl r := equal_iff.mpr r.2.alike_self
  symm equal := equal_iff.mpr (equal_iff.mp equal).symm
  trans first second := equal_iff.mpr ((equal_iff.mp first).trans (equal_iff.mp second))

theorem Equal.truthy (equal : Equal r r') : r.1.truthy = r'.1.truthy := by
  obtain ⟨r, ordinary⟩ := r
  obtain ⟨r', ordinary'⟩ := r'
  cases equal_iff.mp equal with
  | atom atom => cases atom
  | success => rfl
  | failure => rfl

/-- A filter ends in equal responses, with the same diagnostics called. -/
theorem Equal.filtered (equal : Equal r r') (direction : Direction) (w : OrdinaryValue)
    (answer : Option (Nat × OrdinaryValue)) (s : Progress) :
    ∃ (k k' : OrdinaryReply) (t : Progress),
      (Layer.steady direction w answer).narrow r.1 s = .ok k.1 t ∧
      (Layer.steady direction w answer).narrow r'.1 s = .ok k'.1 t ∧ Equal k k' := by
  obtain ⟨r, ordinary⟩ := r
  obtain ⟨r', ordinary'⟩ := r'
  cases equal_iff.mp equal with
  | atom atom => cases atom
  | failure =>
    exact ⟨⟨_, ordinary⟩, ⟨_, ordinary'⟩, s, Parser.narrow_run .., Parser.narrow_run .., equal⟩
  | @success self other data data' range inner =>
    obtain ⟨held, here, there⟩ := Layer.steady_holds ordinary.data ordinary'.data inner
    cases held with
    | true =>
      exact ⟨⟨_, ordinary⟩, ⟨_, ordinary'⟩, s, Parser.narrow_of_holds here s,
        Parser.narrow_of_holds there s, equal⟩
    | false =>
      let refused : OrdinaryReply := ⟨_, Layer.refusal_ordinary range answer⟩
      exact ⟨refused, refused, _, Layer.steady_rejects here self range s,
        Layer.steady_rejects there other range s, equal_equivalence.refl refused⟩

/-- What equality is for responses whose parts are ordinary. -/
structure Respected : Prop where
  equivalence : Equivalence Equal
  /-- Both operators answer with a truth value, and never with the same one. -/
  answered : ∀ r r' : OrdinaryReply, ∃ e : Bool,
    (Value.response r.1).equals (.response r'.1) = .ok (.bool e) ∧
    (Value.response r.1).differs (.response r'.1) = .ok (.bool !e)
  /-- A success and a failure are never equal. -/
  apart : ∀ r r' : OrdinaryReply, r.1.truthy ≠ r'.1.truthy →
    (Value.response r.1).equals (.response r'.1) = .ok (.bool false)
  truthy : ∀ r r', Equal r r' → r.1.truthy = r'.1.truthy
  /-- A parser is given steady filters by the words for an equality check and its negation. -/
  words : ∀ (p : Parser) (w : OrdinaryValue),
    p.eq w.1 = p.filter (.steady .eq w none) ∧ p.ne w.1 = p.filter (.steady .ne w none) ∧
    ∀ (n : Nat) (error : OrdinaryValue),
      (p.eq w.1).orElse ⟨n, fun _ => .ok error.1⟩ =
        .ok (p.filter (.steady .eq w (some (n, error)))) ∧
      (p.ne w.1).orElse ⟨n, fun _ => .ok error.1⟩ =
        .ok (p.filter (.steady .ne w (some (n, error))))
  filtered : ∀ r r', Equal r r' → ∀ direction w answer s, ∃ (k k' : OrdinaryReply) (t : Progress),
    (Layer.steady direction w answer).narrow r.1 s = .ok k.1 t ∧
    (Layer.steady direction w answer).narrow r'.1 s = .ok k'.1 t ∧ Equal k k'

/-- **Equality is an equivalence that filters respect.** -/
theorem equality_respected : Respected where
  equivalence := equal_equivalence
  answered r r' := by
    obtain ⟨e, equals, differs, -⟩ := r.2.compared r'.2
    exact ⟨e, equals, differs⟩
  apart r r' kinds := by
    obtain ⟨e, equals, -⟩ := r.2.compared r'.2
    cases e with
    | true => exact (kinds (Equal.truthy equals)).elim
    | false => exact equals
  truthy r r' := Equal.truthy
  words p w := ⟨rfl, rfl, fun n error => ⟨rfl, rfl⟩⟩
  filtered r r' := Equal.filtered

/-- Dicts have no order, and numbers are equal across their types, in responses inside responses
too. -/
theorem equality_respected_nested :
    let inner : Reply := .failure none (some 2) (.int 0) (some "no")
    let inner' : Reply := .failure (some 3) (some 2) (.float none (.finite true 0 0)) (some "no")
    let data : Value := .dict [(.text "a", .bool true), (.number 1, .tuple [.response inner])]
    let data' : Value := .dict [(.number 1, .tuple [.response inner']), (.text "a", .int 1)]
    ∃ r r' : OrdinaryReply, r.1 = .success none data (some (0, 4)) ∧
      r'.1 = .success (some 5) data' (some (0, 4)) ∧ Equal r r' ∧ Equal r' r ∧
      ∀ direction w answer s, ∃ (k k' : OrdinaryReply) (t : Progress),
        (Layer.steady direction w answer).narrow r.1 s = .ok k.1 t ∧
        (Layer.steady direction w answer).narrow r'.1 s = .ok k'.1 t ∧ Equal k k' := by
  intro inner inner' data data'
  have ordinary : (Value.response (.success none data (some (0, 4)))).Ordinary := by
    refine .success none _ (.dict (by decide) (List.forall_mem_cons.mpr ⟨.bool true, ?_⟩))
    refine List.forall_mem_singleton.mpr (.tuple (List.forall_mem_singleton.mpr ?_))
    exact .failure none _ _ (.int 0)
  have ordinary' : (Value.response (.success (some 5) data' (some (0, 4)))).Ordinary := by
    refine .success (some 5) _ (.dict (by decide) (List.forall_mem_cons.mpr ⟨?_, ?_⟩))
    · refine .tuple (List.forall_mem_singleton.mpr (.failure (some 3) _ _ (.float none ?_)))
      exact Double.noConfusion
    · exact List.forall_mem_singleton.mpr (.int 1)
  have equal : Equal ⟨_, ordinary⟩ ⟨_, ordinary'⟩ := rfl
  exact ⟨⟨_, ordinary⟩, ⟨_, ordinary'⟩, rfl, rfl, equal, equality_respected.equivalence.symm equal,
    equality_respected.filtered _ _ equal⟩

end OrdinaryReply

end Sluice
