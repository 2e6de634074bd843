import Sluice.Checkpoint
import Sluice.Savepoint

/-!
Where reading can get. No operation on a stream that asks for items goes back, and none goes past
the end of the source; a stream that stands behind the end stays where it is.
-/
namespace Sluice

/-- Where reading can get from a position: not back, and past the end only by starting there. -/
def Source.Onward (src : Source) (i j : Int) : Prop :=
  i ≤ j ∧ j ≤ max i src.length

namespace Source.Onward

variable {src : Source} {i j k : Int}

theorem refl (src : Source) (i : Int) : src.Onward i i :=
  ⟨Int.le_refl i, Int.le_max_left i _⟩

theorem trans (here : src.Onward i j) (there : src.Onward j k) : src.Onward i k := by
  obtain ⟨from_i, j_end⟩ := here
  obtain ⟨from_j, k_end⟩ := there
  constructor
  · exact Int.le_trans from_i from_j
  · omega

theorem of_hasItems {amount : Int} (nonneg : 0 ≤ amount) (enough : src.hasItems i amount = true) :
    src.Onward i (i + amount) := by
  simp only [hasItems, decide_eq_true_eq] at enough
  constructor <;> omega

theorem of_meets {texts : List String} (met : src.meets texts i = .ok true) :
    src.Onward i (i + 1) := by
  simp only [meets] at met
  split at met
  · exact of_hasItems (by decide) ‹_›
  · cases met

end Source.Onward

/-- A step that only reads on, however it ends. -/
def Action.ReadsOn (src : Source) (act : Action α) : Prop :=
  Moves src.Onward act

namespace Action.ReadsOn

variable {src : Source}

theorem of_stays {act : Action α} (stays : Stays act) : ReadsOn src act :=
  stays.moves (Source.Onward.refl src)

theorem bind {x : Action α} {f : α → Action β} (first : ReadsOn src x)
    (rest : ∀ a, ReadsOn src (f a)) : ReadsOn src (x >>= f) := by
  have trans (i j k : Int) (here : src.Onward i j) (there : src.Onward j k) : src.Onward i k :=
    here.trans there
  exact Moves.bind trans first rest

end Action.ReadsOn

open Sluice.Action (Stays ReadsOn)

namespace Stream

theorem position_stays : Stays position :=
  fun _ => rfl

theorem take_onward (src : Source) {amount : Int} (nonneg : 0 ≤ amount) :
    ReadsOn src (take src amount) := by
  intro s
  rw [take_run, Source.peek]
  split
  · rename_i items taken
    split at taken
    · exact .of_hasItems nonneg ‹_›
    · cases taken
  · exact .refl src s.pos

theorem item_onward (src : Source) : ReadsOn src (item src) := by
  intro s
  rw [item_run]
  split
  · have next : src.Onward s.pos (s.pos + 1) := .of_hasItems (by decide) ‹_›
    cases src.item s.pos <;> exact next
  · exact .refl src s.pos

theorem literal_onward (src : Source) (pattern : Value) : ReadsOn src (literal src pattern) := by
  intro s
  rw [literal_run]
  cases pattern.size with
  | error fault => exact .refl src s.pos
  | ok n =>
    simp only
    split
    · cases (src.slice s.pos (s.pos + n)).equals pattern with
      | error fault => exact .refl src s.pos
      | ok answer =>
        simp only
        split
        · exact .of_hasItems (Int.natCast_nonneg n) ‹_›
        · exact .refl src s.pos
    · exact .refl src s.pos

theorem oneOf_onward (src : Source) (patterns : List Value) :
    ReadsOn src (oneOf src patterns) := by
  induction patterns with
  | nil => exact .of_stays (.pure none)
  | cons pattern rest ih =>
    refine .bind (literal_onward src pattern) fun matched => ?_
    cases matched with
    | true => exact .of_stays (.pure _)
    | false => exact ih

theorem meets_stays (src : Source) (texts : List String) : Stays (meets src texts) := by
  intro s
  rw [meets_run]
  cases src.meets texts s.pos <;> rfl

theorem pass_onward (src : Source) (texts : List String) : ReadsOn src (pass src texts) := by
  intro s
  rw [pass_run]
  split
  · exact .of_meets ‹_›
  · exact .refl src s.pos
  · exact .refl src s.pos

theorem skipUpTo_onward (src : Source) (texts : List String) (n : Nat) :
    ReadsOn src (skipUpTo src texts n) := by
  induction n with
  | zero => exact .of_stays (.pure ())
  | succ n ih =>
    intro s
    rw [skipUpTo, Action.bind_run, meets_run]
    cases answer : src.meets texts s.pos with
    | error fault => exact .refl src s.pos
    | ok met =>
      cases met with
      | false => exact .refl src s.pos
      | true =>
        have next : src.Onward s.pos (s.pos + 1) := .of_meets answer
        have further := ih { s with pos := s.pos + 1 }
        exact next.trans further

theorem skip_onward (src : Source) (texts : List String) : ReadsOn src (skip src texts) :=
  fun s => skipUpTo_onward src texts (room src s.pos) s

end Stream

end Sluice
