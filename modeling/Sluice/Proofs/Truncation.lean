import Sluice.Proofs.Atomicity
import Sluice.Proofs.Scanning

/-!
A success knows only what it has read. Cut the source anywhere behind the place where a success
ends, and the same success comes of what is left: reading never looks further than it gets, except
to find that it cannot go on, and at the end of the source it cannot go on either.
-/
namespace Sluice

open Sluice.Action (ReadsOn)

theorem slice_take {xs : List α} {c : Nat} {i j : Int} (inside : c ≤ xs.length) (hi : 0 ≤ i)
    (hj : 0 ≤ j) (cut : j ≤ c) : slice (xs.take c) i j = slice xs i j := by
  have length : (xs.take c).length = c := List.length_take_of_le inside
  have stop : clamp c j = clamp xs.length j := by
    unfold clamp
    omega
  simp only [slice, length, stop]
  by_cases before : i ≤ c
  · have start : clamp c i = clamp xs.length i := by
      unfold clamp
      omega
    rw [start, List.drop_take, List.take_take]
    congr 1
    unfold clamp
    omega
  · have none_here : clamp xs.length j - clamp c i = 0 := by
      unfold clamp
      omega
    have none_there : clamp xs.length j - clamp xs.length i = 0 := by
      unfold clamp
      omega
    rw [none_here, none_there, List.take_zero, List.take_zero]

namespace Source

variable {src : Source} {c : Nat} (inside : c ≤ src.length)
include inside

theorem items_cut_from_zero : (src.cut 0 c).items = src.items.take c := by
  rw [items_cut]
  rw [← length_items] at inside
  exact slice_from_zero inside

theorem length_cut_from_zero : (src.cut 0 c).length = c := by
  rw [← length_items, items_cut_from_zero inside, List.length_take, length_items]
  omega

theorem hasItems_cut_from_zero (i n : Int) : (src.cut 0 c).hasItems i n = decide (i + n ≤ c) := by
  rw [hasItems, length_cut_from_zero inside]

theorem cut_cut_from_zero {i j : Int} (hi : 0 ≤ i) (hj : 0 ≤ j) (cut : j ≤ c) :
    (src.cut 0 c).cut i j = src.cut i j := by
  cases src <;> simp only [Source.cut, slice_from_zero inside, slice_take inside hi hj cut]

theorem item_cut_from_zero {i : Int} (hi : 0 ≤ i) (cut : i < c) :
    (src.cut 0 c).item i = src.item i := by
  obtain ⟨i, rfl⟩ := Int.eq_ofNat_of_zero_le hi
  have there : (src.cut 0 c).item? i = src.item? i := by
    rw [item?_natCast, item?_natCast, items_cut_from_zero inside, List.head?_drop,
      List.head?_drop, List.getElem?_take_of_lt (by omega)]
  have some_there : src.item? i ≠ none := by
    rw [Ne, item?_eq_none_iff]
    omega
  obtain ⟨v, found⟩ := Option.ne_none_iff_exists'.mp some_there
  rw [found] at there
  rw [item_of_item? _ found, item_of_item? _ there]

/-- Looking ahead comes to nothing new where the source is cut. -/
theorem meets_cut_from_zero {texts : List String} {i : Int} (hi : 0 ≤ i)
    (unmet : src.meets texts i = .ok false) : (src.cut 0 c).meets texts i = .ok false := by
  unfold meets at unmet ⊢
  rw [hasItems_cut_from_zero inside]
  by_cases before : i + 1 ≤ c
  · have left : src.hasItems i 1 = true := by
      simp only [hasItems, decide_eq_true_eq]
      omega
    rw [if_pos left] at unmet
    rw [if_pos (decide_eq_true before), item_cut_from_zero inside hi (by omega), unmet]
  · rw [if_neg (by simpa using before)]

theorem meets_cut_from_zero_of_lt {texts : List String} {i : Int} (hi : 0 ≤ i) (cut : i < c) :
    (src.cut 0 c).meets texts i = src.meets texts i := by
  have here : (src.cut 0 c).hasItems i 1 = true := by
    rw [hasItems_cut_from_zero inside]
    exact decide_eq_true (by omega)
  have there : src.hasItems i 1 = true := by
    simp only [hasItems, decide_eq_true_eq]
    omega
  simp only [meets, here, there, if_true, item_cut_from_zero inside hi cut]

end Source

/-- What `whole` comes to by reading up to `c` at most, `part` comes to as well, without a
diagnostic called. Only `good` answers count, and they are `sure`. -/
structure Action.Kept (src : Source) (c : Nat) (good sure : α → Prop) (whole part : Action α) :
    Prop where
  onward : ReadsOn src whole
  settled {s t : Progress} {a : α} : whole s = .ok a t → good a → sure a
  same {s t : Progress} {a : α} : 0 ≤ s.pos → whole s = .ok a t → good a → t.pos ≤ c →
    part s = .ok a t ∧ t.calls = s.calls

namespace Action.Kept

variable {src : Source} {c : Nat} {good sure : α → Prop} {good' sure' : β → Prop}

theorem pure {a : α} (settled : good a → sure a) :
    Kept src c good sure (pure a) (pure a) where
  onward := .of_stays (.pure a)
  settled run h := by
    cases run
    exact settled h
  same _ run _ _ := by
    cases run
    exact ⟨rfl, rfl⟩

/-- Where nothing good can come of a step, there is nothing to keep. -/
theorem of_bad {whole part : Action α} (onward : ReadsOn src whole)
    (bad : ∀ s a t, whole s = .ok a t → ¬good a) : Kept src c good sure whole part where
  onward := onward
  settled run h := absurd h (bad _ _ _ run)
  same _ run h _ := absurd h (bad _ _ _ run)

/-- A good answer has to come of a good answer of the first step, if it comes at all. -/
theorem bind_of {whole part : Action α} {next next' : α → Action β}
    (first : Kept src c good sure whole part) (onward : ∀ a, ReadsOn src (next a))
    (rest : ∀ a, good a → Kept src c good' sure' (next a) (next' a))
    (bad : ∀ s a t, whole s = .ok a t → ¬good a → ∀ s' b t', next a s' = .ok b t' → ¬good' b) :
    Kept src c good' sure' (whole >>= next) (part >>= next') := by
  have split {s t : Progress} {b : β} (run : (whole >>= next) s = .ok b t) (h : good' b) :
      ∃ a u, whole s = .ok a u ∧ good a ∧ next a u = .ok b t := by
    rw [bind_run] at run
    cases ran : whole s with
    | error fault u => rw [ran] at run; cases run
    | ok a u =>
      rw [ran] at run
      by_cases fine : good a
      · exact ⟨a, u, rfl, fine, run⟩
      · exact absurd h (bad s a u ran fine u b t run)
  refine ⟨.bind first.onward onward, ?_, ?_⟩
  · intro s t b run h
    obtain ⟨a, u, _, fine, run⟩ := split run h
    exact (rest a fine).settled run h
  · intro s t b start run h cut
    obtain ⟨a, u, ran, fine, run⟩ := split run h
    have here := first.onward s
    have there := onward a u
    rw [ran] at here
    rw [run] at there
    obtain ⟨same, calls⟩ := first.same start ran fine (Int.le_trans there.1 cut)
    obtain ⟨same', calls'⟩ := (rest a fine).same (Int.le_trans start here.1) run h cut
    rw [bind_run, same]
    exact ⟨same', calls'.trans calls⟩

theorem bind {whole part : Action α} {next next' : α → Action β}
    (first : Kept src c (fun _ => True) sure whole part)
    (rest : ∀ a, Kept src c good' sure' (next a) (next' a)) :
    Kept src c good' sure' (whole >>= next) (part >>= next') :=
  first.bind_of (fun a => (rest a).onward) (fun a _ => rest a)
    fun _ _ _ _ bad => absurd trivial bad

end Action.Kept

open Sluice.Action (Kept)

/-! ## Reading -/

/-- A step whose answers all count. -/
abbrev Action.KeptAll (src : Source) (c : Nat) (whole part : Action α) : Prop :=
  Kept src c (fun _ => True) (fun _ => True) whole part

open Sluice.Action (KeptAll)

namespace Stream

variable {src : Source} {c : Nat}

theorem skip_advances {texts : List String} {s t : Progress}
    (met : src.meets texts s.pos = .ok true) (run : skip src texts s = .ok () t) :
    s.pos < t.pos := by
  rw [skip_of_meets met] at run
  have onward := skip_onward src texts { s with pos := s.pos + 1 }
  rw [run] at onward
  exact onward.1

section
variable (inside : c ≤ src.length)
include inside

theorem take_kept {amount : Int} (nonneg : 0 ≤ amount) :
    KeptAll src c (take src amount) (take (src.cut 0 c) amount) where
  onward := take_onward src nonneg
  settled _ _ := trivial
  same {s t taken} start run _ cut := by
    rw [take_run, Source.peek] at run ⊢
    rw [Source.hasItems_cut_from_zero inside]
    by_cases enough : src.hasItems s.pos amount = true
    · rw [if_pos enough] at run
      cases run
      dsimp only at cut
      rw [if_pos (decide_eq_true cut), Source.slice,
        Source.cut_cut_from_zero inside start (by omega) cut]
      exact ⟨rfl, rfl⟩
    · rw [if_neg enough] at run
      cases run
      simp only [Source.hasItems, decide_eq_true_eq] at enough
      rw [if_neg (by rw [decide_eq_true_eq]; omega)]
      exact ⟨rfl, rfl⟩

theorem literal_unmatched {pattern : Value} {s : Progress} (start : 0 ≤ s.pos)
    (run : literal src pattern s = .ok false s) :
    literal (src.cut 0 c) pattern s = .ok false s := by
  rw [literal_run] at run ⊢
  cases size : pattern.size with
  | error fault => rw [size] at run; cases run
  | ok n =>
    rw [size] at run
    dsimp only at run ⊢
    rw [Source.hasItems_cut_from_zero inside]
    by_cases cut : s.pos + n ≤ c
    · have enough : src.hasItems s.pos n = true := by
        simp only [Source.hasItems, decide_eq_true_eq]
        omega
      rw [if_pos enough] at run
      rw [if_pos (decide_eq_true cut), Source.slice,
        Source.cut_cut_from_zero inside start (by omega) cut]
      exact run
    · rw [if_neg (by simpa using cut)]

theorem literal_kept (pattern : Value) :
    KeptAll src c (literal src pattern) (literal (src.cut 0 c) pattern) where
  onward := literal_onward src pattern
  settled _ _ := trivial
  same {s t matched} start run _ cut := by
    rcases literal_cases run with ⟨rfl, rfl⟩ | ⟨rfl, n, answer, size, enough, equal, yes, rfl⟩
    · exact ⟨literal_unmatched inside start run, rfl⟩
    · dsimp only at cut
      have left : (src.cut 0 c).hasItems s.pos n = true := by
        rw [Source.hasItems_cut_from_zero inside]
        exact decide_eq_true cut
      have same : (src.cut 0 c).slice s.pos (s.pos + n) = src.slice s.pos (s.pos + n) := by
        rw [Source.slice, Source.slice, Source.cut_cut_from_zero inside start (by omega) cut]
      rw [literal_run, size]
      simp only [left, same, equal, yes, if_true, and_self]

theorem oneOf_kept (patterns : List Value) :
    KeptAll src c (oneOf src patterns) (oneOf (src.cut 0 c) patterns) := by
  induction patterns with
  | nil => exact .pure fun _ => trivial
  | cons pattern rest ih =>
    refine (literal_kept inside pattern).bind fun matched => ?_
    cases matched with
    | true => exact .pure fun _ => trivial
    | false => exact ih

theorem pass_kept (texts : List String) :
    KeptAll src c (pass src texts) (pass (src.cut 0 c) texts) where
  onward := pass_onward src texts
  settled _ _ := trivial
  same {s t _} start run _ cut := by
    rw [pass_run] at run ⊢
    cases met : src.meets texts s.pos with
    | error fault => rw [met] at run; cases run
    | ok found =>
      rw [met] at run
      cases found with
      | false =>
        cases run
        rw [Source.meets_cut_from_zero inside start met]
        exact ⟨rfl, rfl⟩
      | true =>
        cases run
        dsimp only at cut
        rw [Source.meets_cut_from_zero_of_lt inside start (by omega), met]
        exact ⟨rfl, rfl⟩

theorem skip_kept (texts : List String) :
    KeptAll src c (skip src texts) (skip (src.cut 0 c) texts) where
  onward := skip_onward src texts
  settled _ _ := trivial
  same {s t _} start run _ cut := by
    -- The induction is on what is left of the whole source; every item met takes one of it.
    induction left : room src s.pos generalizing s with
    | zero =>
      have unmet : src.meets texts s.pos = .ok false := by
        rw [Source.meets, if_neg]
        simp only [room] at left
        simp only [Source.hasItems, decide_eq_true_eq]
        omega
      rw [skip_of_unmet unmet] at run
      cases run
      exact ⟨skip_of_unmet (Source.meets_cut_from_zero inside start unmet), rfl⟩
    | succ n ih =>
      cases met : src.meets texts s.pos with
      | error fault =>
        rw [skip_eq, Action.bind_run, meets_run, met] at run
        cases run
      | ok found =>
        cases found with
        | false =>
          rw [skip_of_unmet met] at run
          cases run
          exact ⟨skip_of_unmet (Source.meets_cut_from_zero inside start met), rfl⟩
        | true =>
          have further := skip_advances met run
          have met' : (src.cut 0 c).meets texts s.pos = .ok true := by
            rw [Source.meets_cut_from_zero_of_lt inside start (by omega), met]
          rw [skip_of_meets met] at run
          rw [skip_of_meets met']
          have rest : room src (s.pos + 1) = n := by
            simp only [room] at left ⊢
            omega
          have next : 0 ≤ ({ s with pos := s.pos + 1 } : Progress).pos := by
            dsimp only
            omega
          exact ih next run rest

end

end Stream

/-! ## Parsers -/

/-- A body that hands on a success has committed, so leaving the block keeps what it read. -/
abbrev Checkpoint.BodyKept (src : Source) (c : Nat) (whole part : Action (Checkpoint × Reply)) :
    Prop :=
  Kept src c (fun a => a.2.truthy = true) (fun a => a.1.committed = true) whole part

/-- Only successes count. -/
abbrev Parser.ReplyKept (src : Source) (c : Nat) (whole part : Action Reply) : Prop :=
  Kept src c (fun r => r.truthy = true) (fun _ => True) whole part

namespace Checkpoint

variable {src : Source} {c : Nat}

theorem result_kept (check : Checkpoint) (data : Value) :
    BodyKept src c (check.result data) (check.result data) where
  onward := .of_stays fun _ => rfl
  settled run _ := by
    cases run
    rfl
  same _ run _ _ := by
    cases run
    exact ⟨rfl, rfl⟩

theorem fail_kept (check : Checkpoint) (message : Option String) :
    BodyKept src c (check.fail message) (check.fail message) := by
  refine .of_bad (.of_stays fun _ => rfl) ?_
  rintro s a t ⟨⟩
  exact Bool.false_ne_true

theorem block_kept {body body' : Checkpoint → Action (Checkpoint × Reply)}
    (onward : ReadsOn src (block body))
    (kept : ∀ i, 0 ≤ i → BodyKept src c (body ⟨i, false⟩) (body' ⟨i, false⟩)) :
    Parser.ReplyKept src c (block body) (block body') where
  onward := onward
  settled _ _ := trivial
  same {s t r} start run good cut := by
    have inner := kept s.pos start
    cases ran : body ⟨s.pos, false⟩ s with
    | error fault u =>
      rw [block_of_error ran] at run
      cases run
    | ok a u =>
      rcases a with ⟨check, r'⟩
      by_cases committed : check.committed = true
      · rw [block_of_committed ran committed] at run
        cases run
        obtain ⟨same, calls⟩ := inner.same start ran good cut
        exact ⟨block_of_committed same committed, calls⟩
      · have uncommitted : check.committed = false := by simpa using committed
        rw [block_of_uncommitted ran uncommitted] at run
        cases run
        exact absurd (inner.settled ran good) committed

end Checkpoint

open Sluice.Checkpoint (BodyKept block_kept result_kept fail_kept)

namespace Parser

variable {src : Source} {c : Nat}

section
variable (inside : c ≤ src.length)
include inside

theorem item_kept : ReplyKept src c (item.run src) (item.run (src.cut 0 c)) where
  onward s := (item_allOrNothing src s).onward
  settled _ _ := trivial
  same {s t r} start run good cut := by
    rw [item_run] at run ⊢
    split at run
    · cases found : src.item s.pos with
      | error fault => rw [found] at run; cases run
      | ok v =>
        rw [found] at run
        cases run
        dsimp only at cut
        have left : (src.cut 0 c).hasItems s.pos 1 = true := by
          rw [Source.hasItems_cut_from_zero inside]
          exact decide_eq_true cut
        rw [if_pos left, Source.item_cut_from_zero inside start (by omega), found]
        exact ⟨rfl, rfl⟩
    · cases run
      cases good

theorem take_kept {amount : Int} {p : Parser} (made : take amount = .ok p) :
    ReplyKept src c (p.run src) (p.run (src.cut 0 c)) := by
  have onward : ReadsOn src (p.run src) := fun s => (take_allOrNothing src s made).onward
  obtain ⟨nonneg, rfl⟩ := take_eq_ok made
  rw [run, run, takeBody, takeBody]
  refine block_kept onward fun i _ => ?_
  refine (Stream.take_kept inside nonneg).bind fun taken => ?_
  cases taken with
  | some items => exact result_kept _ items
  | none => exact fail_kept _ _

theorem literal_kept {patterns : List Value} {p : Parser} (made : literal patterns = .ok p) :
    ReplyKept src c (p.run src) (p.run (src.cut 0 c)) := by
  have onward : ReadsOn src (p.run src) := fun s => (literal_allOrNothing src s made).onward
  obtain ⟨-, rfl⟩ := literal_eq_ok made
  rw [run, run, literalBody, literalBody]
  refine block_kept onward fun i _ => ?_
  refine (Stream.oneOf_kept inside patterns).bind fun matched => ?_
  cases matched with
  | some pattern => exact result_kept _ pattern
  | none => exact fail_kept _ _

theorem blanks_kept : ReplyKept src c (blanks.run src) (blanks.run (src.cut 0 c)) := by
  have onward : ReadsOn src (blanks.run src) := fun s => (blanks_allOrNothing src s).onward
  rw [blanks, run, run]
  refine block_kept onward fun i _ => ?_
  exact (Stream.skip_kept inside (Text.letters Text.blanks)).bind fun _ => result_kept _ .nothing

theorem integerDigits_kept {i : Int} (hi : 0 ≤ i) :
    BodyKept src c (integerDigits src ⟨i, false⟩) (integerDigits (src.cut 0 c) ⟨i, false⟩) where
  onward s := (integerDigits_settles src i s).2
  settled {s t a} run good := by
    have settled := (integerDigits_settles src i s).1
    rw [run] at settled
    rcases a with ⟨check, ⟨self, data, range⟩ | _⟩
    · rw [settled.1]
    · cases good
  same {s t a} start run good cut := by
    rw [integerDigits_run] at run ⊢
    cases met : src.meets (Text.letters Text.digits) s.pos with
    | error fault => rw [met] at run; cases run
    | ok found =>
      rw [met] at run
      cases found with
      | false =>
        cases run
        cases good
      | true =>
        cases skipped : Stream.skip src (Text.letters Text.digits) s with
        | error fault u => rw [skipped] at run; cases run
        | ok _ u =>
          rw [skipped] at run
          dsimp only at run
          split at run
          · rename_i n read
            cases run
            -- One digit at least was passed, so the cut is behind the place where digits begin.
            have further : s.pos < t.pos := Stream.skip_advances met skipped
            have kept := Stream.skip_kept inside (Text.letters Text.digits)
            obtain ⟨same, calls⟩ := kept.same start skipped trivial cut
            rw [Source.meets_cut_from_zero_of_lt inside start (by omega), met, same]
            dsimp only at read ⊢
            rw [Source.cut_cut_from_zero inside hi (by omega) cut, read]
            exact ⟨rfl, calls⟩
          · cases run

theorem integer_kept : ReplyKept src c (integer.run src) (integer.run (src.cut 0 c)) := by
  have onward : ReadsOn src (integer.run src) := fun s => (integer_allOrNothing src s).onward
  rw [integer, run, run]
  refine block_kept onward fun i hi => ?_
  exact (Stream.pass_kept inside (Text.letters Text.signs)).bind fun _ =>
    integerDigits_kept inside hi

end

theorem filter_kept {p : Parser} {layer : Layer}
    (inner : ReplyKept src c (p.run src) (p.run (src.cut 0 c))) :
    ReplyKept src c ((p.filter layer).run src) ((p.filter layer).run (src.cut 0 c)) := by
  refine inner.bind_of (fun r => .of_stays (narrow_stays layer r)) (fun r _ => ?_) ?_
  · refine ⟨.of_stays (narrow_stays layer r), fun _ _ => trivial, ?_⟩
    intro s t r' _ run good _
    obtain ⟨rfl, rfl⟩ := narrow_of_truthy run good
    exact ⟨run, rfl⟩
  · intro s r t _ bad s' r' t' run
    rw [narrow_of_failure (by simpa using bad) run]
    exact Bool.false_ne_true

theorem runAll_kept {parts : List Part}
    (each : ∀ part ∈ parts, ReplyKept src c (part.parser.run src)
      (part.parser.run (src.cut 0 c))) :
    Kept src c (fun all => all.isOk = true) (fun _ => True) (runAll src parts)
      (runAll (src.cut 0 c) parts) := by
  induction parts with
  | nil => exact .pure fun _ => trivial
  | cons part rest ih =>
    obtain ⟨first, others⟩ := List.forall_mem_cons.mp each
    have still (data : Value) (all : Except (Part × Reply) (List Value)) :
        ReadsOn src (pure (all.map (data :: ·))) := .of_stays (.pure _)
    refine first.bind_of (fun r => ?_) (fun r good => ?_) ?_
    · cases r with
      | success self data range => exact .bind (ih others).onward (still data)
      | failure => exact .of_stays (.pure _)
    · cases r with
      | failure => cases good
      | success self data range =>
        refine (ih others).bind_of (still data) (fun all _ => .pure fun _ => trivial) ?_
        rintro s all t _ bad s' _ t' ⟨⟩
        cases all with
        | ok values => exact absurd rfl bad
        | error stop => exact bad
    · intro s r t _ bad s' all t' run
      cases r with
      | success => exact absurd rfl bad
      | failure =>
        cases run
        exact Bool.false_ne_true

theorem Part.settle_stays (part : Part) (check : Checkpoint) (r : Reply) :
    Action.Stays (part.settle src check r) := by
  rcases part with ⟨parser, mode, message⟩
  cases mode with
  | fail => exact fun _ => rfl
  | failStart => exact .pure _
  | error => exact .bind (Checkpoint.error_stays src message) fun e => fun _ => rfl
  | propagate => exact .pure _

theorem sequence_kept {parts : List Part}
    (each : ∀ part ∈ parts, ReplyKept src c (part.parser.run src)
      (part.parser.run (src.cut 0 c))) :
    ReplyKept src c ((sequence parts).run src) ((sequence parts).run (src.cut 0 c)) := by
  have whole : ReadsOn src ((sequence parts).run src) := fun s =>
    (sequence_allOrNothing s fun part member => (each part member).onward).onward
  rw [sequence, run, run]
  refine block_kept whole fun i _ => ?_
  refine (runAll_kept each).bind_of (fun all => ?_) (fun all good => ?_) ?_
  · rcases all with ⟨part, r⟩ | values
    · exact .of_stays (part.settle_stays _ r)
    · exact (result_kept (c := c) _ _).onward
  · rcases all with stop | values
    · cases good
    · exact result_kept _ _
  · intro s all t ran bad s' a t' run
    rcases all with ⟨part, r⟩ | values
    · rw [Part.settle_of_failure (runAll_failure ran) run]
      exact Bool.false_ne_true
    · exact absurd rfl bad

theorem Composed.kept {p : Parser} (composed : Composed p) (inside : c ≤ src.length) :
    ReplyKept src c (p.run src) (p.run (src.cut 0 c)) := by
  induction composed with
  | item => exact item_kept inside
  | blanks => exact blanks_kept inside
  | integer => exact integer_kept inside
  | take made => exact take_kept inside made
  | literal made => exact literal_kept inside made
  | filter inner ih => exact filter_kept ih
  | sequence all ih => exact sequence_kept ih

/-- A success is the base's own, whatever filters it has passed. -/
theorem base_of_truthy {p : Parser} {r : Reply} {s t : Progress} (run : p.run src s = .ok r t)
    (good : r.truthy = true) : p.base.run src s = .ok r t := by
  induction p generalizing r t with
  | fn => exact run
  | filter inner layer ih =>
    rw [Parser.run, Action.bind_run] at run
    cases ran : inner.run src s with
    | error fault u => rw [ran] at run; cases run
    | ok r' u =>
      rw [ran] at run
      obtain ⟨rfl, rfl⟩ := narrow_of_truthy run good
      exact ih ran good

/-- **A success needs nothing behind its end.** It ends inside the source if it begins there, and
it comes of every shorter source that it fits in, without a diagnostic asked. A literal that is not
there is not there in a shorter source either, so alternatives that come earlier stay out of the
way. -/
theorem success_needs_only_consumed {p : Parser} (composed : Composed p) (src : Source) (a : Nat)
    (calls : List Nat) :
    (∀ self data range t, p.run src ⟨a, calls⟩ = .ok (.success self data range) t →
      ∃ b : Nat, range = some ((a : Int), (b : Int)) ∧ a ≤ b ∧ (a ≤ src.length → b ≤ src.length) ∧
        ∀ c : Nat, b ≤ c → c ≤ src.length →
          p.run (src.cut 0 c) ⟨a, calls⟩ = .ok (.success self data range) ⟨b, calls⟩) ∧
    ∀ (c : Nat) (pattern : Value) (s : Progress), c ≤ src.length → 0 ≤ s.pos →
      Stream.literal src pattern s = .ok false s →
        Stream.literal (src.cut 0 c) pattern s = .ok false s := by
  refine ⟨?_, fun c pattern s inside start => Stream.literal_unmatched inside start⟩
  intro self data range t run
  have whole := composed.base_allOrNothing src ⟨a, calls⟩
  obtain ⟨spans, forward, within⟩ := whole.parsed self data range t (base_of_truthy run rfl)
  dsimp only at spans forward within
  have start : (0 : Int) ≤ a := Int.natCast_nonneg a
  obtain ⟨b, reached⟩ := Int.eq_ofNat_of_zero_le (Int.le_trans start forward)
  rcases t with ⟨pos, made⟩
  dsimp only at reached
  subst reached
  dsimp only at forward within
  refine ⟨b, spans, by omega, by omega, fun c cut inside => ?_⟩
  have fits : (b : Int) ≤ c := Int.ofNat_le.mpr cut
  obtain ⟨same, rfl⟩ := (composed.kept inside).same start run rfl fits
  exact same

/-- The digits end where the source is cut, and the longer word for the letter is still no match. -/
theorem success_needs_only_consumed_letter :
    let word := Parser.fn (.named "inner") (literalBody [.text "ab", .text "a"])
    let p := sequence [⟨word, .propagate, none⟩, ⟨integer, .propagate, none⟩]
    let src := Source.ofText "a12x"
    let found := Response.success none (.list [.text "a", .int 12]) (some (0, 3))
    Composed p ∧ p.run src ⟨0, []⟩ = .ok found ⟨3, []⟩ ∧
      p.run (src.cut 0 3) ⟨0, []⟩ = .ok found ⟨3, []⟩ ∧
      Stream.literal (src.cut 0 3) (.text "ab") ⟨0, []⟩ = .ok false ⟨0, []⟩ := by
  intro word p src found
  have made : literal [.text "ab", .text "a"] = .ok word := rfl
  have composed : Composed p := by
    refine .sequence (List.forall_mem_cons.mpr ⟨.literal made, fun part member => ?_⟩)
    cases List.mem_singleton.mp member
    exact .integer
  have run : p.run src ⟨0, []⟩ = .ok found ⟨3, []⟩ := rfl
  have both := success_needs_only_consumed composed src 0 []
  refine ⟨composed, run, ?_, ?_⟩
  · obtain ⟨b, spans, _, _, cut⟩ := both.1 none _ _ _ run
    cases spans
    exact cut 3 (Nat.le_refl 3) (by decide)
  · exact both.2 3 (.text "ab") ⟨0, []⟩ (by decide) (Int.le_refl 0) rfl

end Parser

end Sluice
