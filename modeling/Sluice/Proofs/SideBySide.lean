import Sluice.Parser.Composed
import Sluice.Parser.Tower
import Sluice.Proofs.Comparison

/-!
Two runs side by side. Of two sources the far one is read ahead of the near one by an offset, and as
long as both show the same items there, whatever reads by looking at items does the same in both: it
ends level, with answers that differ in their positions only. Steps are taken in pairs, and pairs of
steps are put together as the steps themselves are.
-/
namespace Sluice

/-- The same response, reported from further on. -/
def Response.shift (k : Int) : Response α → Response α
  | .success self data range => .success self data (range.map fun r => (r.1 + k, r.2 + k))
  | .failure self pos error message => .failure self (pos.map (· + k)) error message

def Checkpoint.shift (k : Int) (c : Checkpoint) : Checkpoint :=
  { c with pos := c.pos + k }

/-- Two sources to be read side by side, after what was called before in either run. -/
structure Beside where
  near : Source
  far : Source
  offset : Int
  /-- The positions in the near source from which the two look alike. -/
  within : Int → Prop
  nearCalls : List Nat
  farCalls : List Nat
  /-- The faults of the two runs that count as the same. -/
  fault : Fault → Fault → Prop

namespace Beside

variable (b : Beside)

/-- Neither run is ahead of the other, and both have called the same diagnostics since. -/
structure Level (s t : Progress) : Prop where
  pos : t.pos = s.pos + b.offset
  within : b.within s.pos
  calls : ∃ made, s.calls = made ++ b.nearCalls ∧ t.calls = made ++ b.farCalls

/-- Two steps that come out alike: the answers belong together, or the faults do. -/
inductive Ends (answer : α → β → Prop) :
    EStateM.Result Fault Progress α → EStateM.Result Fault Progress β → Prop where
  | ok {a : α} {a' : β} {s t : Progress} (answers : answer a a') (level : b.Level s t) :
      Ends answer (.ok a s) (.ok a' t)
  | error {f g : Fault} {s t : Progress} (faults : b.fault f g) (level : b.Level s t) :
      Ends answer (.error f s) (.error g t)

/-- The same value looked up in both runs, or faults that belong together. -/
inductive Looks : Except Fault α → Except Fault α → Prop where
  | ok (a : α) : Looks (.ok a) (.ok a)
  | error {f g : Fault} (faults : b.fault f g) : Looks (.error f) (.error g)

/-- Two steps that come out alike whenever they begin level. -/
def Runs (answer : α → β → Prop) (near : Action α) (far : Action β) : Prop :=
  ∀ ⦃s t⦄, b.Level s t → b.Ends answer (near s) (far t)

/-- The same response in both runs, up to the offset. -/
def Replies (r r' : Reply) : Prop :=
  r' = r.shift b.offset

/-- The same for what a block makes of its checkpoint, which stays where it is. -/
def Settles (i : Int) (a a' : Checkpoint × Reply) : Prop :=
  a.1.pos = i ∧ a'.1 = a.1.shift b.offset ∧ b.Replies a.2 a'.2

/-- What it takes for the two sources to look alike. -/
structure Alike : Prop where
  length : (b.far.length : Int) = b.near.length + b.offset
  next {i n : Int} : b.within i → 0 ≤ n → b.within (i + n)
  /-- Items can be missing, at positions before the beginning, but then in both. -/
  item {i : Int} : b.within i → i < b.near.length →
    b.Looks (b.near.item i) (b.far.item (i + b.offset))
  items_cut {i j : Int} : b.within i → b.within j →
    (b.far.cut (i + b.offset) (j + b.offset)).items = (b.near.cut i j).items
  /-- Faults that report no position are the same only if they are. -/
  fault {f : Fault} : (∀ e, f ≠ .surfaced e) → b.fault f f

/-- What it takes for them to look alike also where they are cut, and where an error is made for
either. -/
structure Matching : Prop extends b.Alike where
  slice {i j : Int} : b.within i → b.within j →
    b.far.slice (i + b.offset) (j + b.offset) = b.near.slice i j
  error {i : Int} (message : Option String) : b.within i →
    ∃ e e', ParseError.of (some b.near) i message = .ok e ∧
      ParseError.of (some b.far) (i + b.offset) message = .ok e' ∧
      b.fault (.surfaced e) (.surfaced e')

/-- A diagnostic that says in one run what it says in the other. -/
structure Steady (d : Diagnostic) : Prop where
  answer (made : List Nat) : d.answer (Diagnostic.count (made ++ b.farCalls) d.number) =
    d.answer (Diagnostic.count (made ++ b.nearCalls) d.number)
  fault {n : Nat} {f : Fault} : d.answer n = .error f → b.fault f f

variable {b}

namespace Looks

theorem map {x y : Except Fault α} (looks : b.Looks x y) (f : α → β) :
    b.Looks (x.map f) (y.map f) := by
  cases looks with
  | ok a => exact .ok (f a)
  | error faults => exact .error faults

end Looks

namespace Level

variable {s t : Progress} (level : b.Level s t)
include level

theorem split : ∃ pos made, s = ⟨pos, made ++ b.nearCalls⟩ ∧
    t = ⟨pos + b.offset, made ++ b.farCalls⟩ := by
  obtain ⟨made, near, far⟩ := level.calls
  refine ⟨s.pos, made, ?_, ?_⟩
  · rw [← near]
  · rw [← far, ← level.pos]

theorem call (n : Nat) :
    b.Level { s with calls := n :: s.calls } { t with calls := n :: t.calls } := by
  obtain ⟨made, near, far⟩ := level.calls
  refine ⟨level.pos, level.within, n :: made, ?_, ?_⟩
  · rw [near, List.cons_append]
  · rw [far, List.cons_append]

theorem moveTo {i : Int} (within : b.within i) :
    b.Level { s with pos := i } { t with pos := i + b.offset } :=
  ⟨rfl, within, level.calls⟩

end Level

namespace Runs

variable {answer : α → α' → Prop} {answers : β → β' → Prop}

theorem pure {a : α} {a' : α'} (h : answer a a') : b.Runs answer (pure a) (pure a') :=
  fun _ _ level => .ok h level

theorem throw {f g : Fault} (h : b.fault f g) :
    b.Runs answer (throw f : Action α) (throw g : Action α') :=
  fun _ _ level => .error h level

theorem bind {x : Action α} {y : Action α'} {next : α → Action β} {next' : α' → Action β'}
    (first : b.Runs answer x y)
    (rest : ∀ a a', answer a a' → b.Runs answers (next a) (next' a')) :
    b.Runs answers (x >>= next) (y >>= next') := by
  intro s t level
  have ends := first level
  rw [Action.bind_run, Action.bind_run]
  generalize x s = nearEnd at ends ⊢
  generalize y t = farEnd at ends ⊢
  cases ends with
  | ok answer level => exact rest _ _ answer level
  | error faults level => exact .error faults level

theorem of {x y : Except Fault α} (looks : b.Looks x y) :
    b.Runs Eq (Action.of x) (Action.of y) := by
  cases looks with
  | ok a => exact .pure rfl
  | error faults => exact .throw faults

theorem position :
    b.Runs (fun i i' => b.within i ∧ i' = i + b.offset) Stream.position Stream.position :=
  fun _ _ level => .ok ⟨level.within, level.pos⟩ level

theorem moveTo {i : Int} (within : b.within i) :
    b.Runs Eq (Stream.moveTo i) (Stream.moveTo (i + b.offset)) :=
  fun _ _ level => .ok rfl (level.moveTo within)

/-- A block whose body comes out alike comes out alike, wherever that leaves the stream. -/
theorem block {body body' : Checkpoint → Action (Checkpoint × Reply)}
    (settled : ∀ i, b.within i →
      b.Runs (b.Settles i) (body ⟨i, false⟩) (body' ⟨i + b.offset, false⟩)) :
    b.Runs b.Replies (Checkpoint.block body) (Checkpoint.block body') := by
  intro s t level
  have inner := settled s.pos level.within level
  rw [← level.pos] at inner
  simp only [Checkpoint.block]
  generalize body ⟨s.pos, false⟩ s = nearEnd at inner ⊢
  generalize body' ⟨t.pos, false⟩ t = farEnd at inner ⊢
  cases inner with
  | error faults there =>
    refine .error faults ?_
    rw [level.pos]
    exact there.moveTo level.within
  | @ok a a' u v settles there =>
    rcases a with ⟨⟨pos, committed⟩, r⟩
    rcases a' with ⟨c', r'⟩
    obtain ⟨rfl, rfl, replies⟩ := settles
    cases committed with
    | true => exact .ok replies there
    | false => exact .ok replies (there.moveTo level.within)

theorem result (i : Int) (data : Value) :
    b.Runs (b.Settles i) (Checkpoint.result ⟨i, false⟩ data)
      (Checkpoint.result ⟨i + b.offset, false⟩ data) := by
  intro s t level
  rw [Checkpoint.result_run, Checkpoint.result_run]
  refine .ok ⟨rfl, rfl, ?_⟩ level
  rw [level.pos]
  rfl

theorem fail (i : Int) (message : Option String) :
    b.Runs (b.Settles i) (Checkpoint.fail ⟨i, false⟩ message)
      (Checkpoint.fail ⟨i + b.offset, false⟩ message) := by
  intro s t level
  rw [Checkpoint.fail_run, Checkpoint.fail_run]
  refine .ok ⟨rfl, rfl, ?_⟩ level
  rw [level.pos]
  rfl

theorem failStart (i : Int) (message : Option String) :
    b.Runs (b.Settles i) (Pure.pure (Checkpoint.failStart ⟨i, false⟩ message))
      (Pure.pure (Checkpoint.failStart ⟨i + b.offset, false⟩ message)) :=
  .pure ⟨rfl, rfl, rfl⟩

end Runs

/-! ## Reading -/

section
variable (alike : b.Alike)
include alike

theorem Alike.hasItems (i n : Int) :
    b.far.hasItems (i + b.offset) n = b.near.hasItems i n := by
  have length := alike.length
  simp only [Source.hasItems, decide_eq_decide]
  omega

theorem Alike.room (i : Int) : Stream.room b.far (i + b.offset) = Stream.room b.near i := by
  have length := alike.length
  simp only [Stream.room]
  omega

theorem Alike.civil {x : Except Fault α} (civil : Value.Civil x) : b.Looks x x := by
  cases x with
  | ok a => exact .ok a
  | error f =>
    refine .error (alike.fault ?_)
    rintro e rfl
    obtain ⟨words, same⟩ := civil _ rfl
    cases same

theorem Alike.meets (texts : List String) {i : Int} (within : b.within i) :
    b.Looks (b.near.meets texts i) (b.far.meets texts (i + b.offset)) := by
  unfold Source.meets
  rw [alike.hasItems]
  split
  · rename_i left
    simp only [Source.hasItems, decide_eq_true_eq] at left
    exact (alike.item within (by omega)).map _
  · exact .ok false

namespace Runs

theorem advance {n : Int} (forward : 0 ≤ n) :
    b.Runs Eq (Stream.advance n) (Stream.advance n) := by
  intro s t level
  rw [Stream.advance_run, Stream.advance_run, level.pos, Int.add_right_comm]
  exact .ok rfl (level.moveTo (alike.next level.within forward))

theorem item : b.Runs Eq (Stream.item b.near) (Stream.item b.far) := by
  refine position.bind ?_
  rintro i _ ⟨within, rfl⟩
  rw [alike.hasItems]
  split
  · rename_i left
    simp only [Source.hasItems, decide_eq_true_eq] at left
    rw [Int.add_right_comm]
    refine (moveTo (alike.next within (by decide))).bind fun _ _ _ => ?_
    exact .of (alike.item within (by omega))
  · exact .pure rfl

theorem meets (texts : List String) :
    b.Runs Eq (Stream.meets b.near texts) (Stream.meets b.far texts) := by
  refine position.bind ?_
  rintro i _ ⟨within, rfl⟩
  exact .of (alike.meets texts within)

theorem pass (texts : List String) :
    b.Runs Eq (Stream.pass b.near texts) (Stream.pass b.far texts) := by
  refine (meets alike texts).bind ?_
  rintro met _ rfl
  cases met with
  | true => exact advance alike (by decide)
  | false => exact .pure rfl

theorem skipUpTo (texts : List String) (n : Nat) :
    b.Runs Eq (Stream.skipUpTo b.near texts n) (Stream.skipUpTo b.far texts n) := by
  induction n with
  | zero => exact .pure rfl
  | succ n ih =>
    refine (meets alike texts).bind ?_
    rintro met _ rfl
    cases met with
    | true => exact (advance alike (by decide)).bind fun _ _ _ => ih
    | false => exact .pure rfl

theorem skip (texts : List String) :
    b.Runs Eq (Stream.skip b.near texts) (Stream.skip b.far texts) := by
  refine position.bind ?_
  rintro i _ ⟨within, rfl⟩
  rw [alike.room]
  exact skipUpTo alike texts _

end Runs

/-! ## Parsers that look at items only -/

theorem item_runs : b.Runs b.Replies (Parser.item.run b.near) (Parser.item.run b.far) := by
  rw [Parser.item, Parser.run, Parser.run]
  refine Runs.block fun i within => ?_
  refine Runs.position.bind ?_
  rintro j _ ⟨_, rfl⟩
  rw [alike.hasItems]
  split
  · refine (Runs.item alike).bind ?_
    rintro v _ rfl
    exact .result i v
  · exact .fail i _

theorem blanks_runs : b.Runs b.Replies (Parser.blanks.run b.near) (Parser.blanks.run b.far) := by
  rw [Parser.blanks, Parser.run, Parser.run]
  refine Runs.block fun i within => ?_
  exact (Runs.skip alike (Text.letters Text.blanks)).bind fun _ _ _ => .result i _

theorem integerDigits_runs {i : Int} (within : b.within i) :
    b.Runs (b.Settles i) (Parser.integerDigits b.near ⟨i, false⟩)
      (Parser.integerDigits b.far ⟨i + b.offset, false⟩) := by
  refine (Runs.meets alike (Text.letters Text.digits)).bind ?_
  rintro met _ rfl
  cases met with
  | false => exact .failStart i _
  | true =>
    refine (Runs.skip alike (Text.letters Text.digits)).bind fun _ _ _ => ?_
    refine Runs.position.bind ?_
    rintro j _ ⟨there, rfl⟩
    simp only [alike.items_cut within there]
    cases Text.readNumeral (Parser.joined (b.near.cut i j).items) with
    | ok n => exact .result i _
    | error fault => exact .throw (alike.fault nofun)

theorem integer_runs : b.Runs b.Replies (Parser.integer.run b.near) (Parser.integer.run b.far) := by
  rw [Parser.integer, Parser.run, Parser.run]
  refine Runs.block fun i within => ?_
  exact (Runs.pass alike (Text.letters Text.signs)).bind fun _ _ _ =>
    integerDigits_runs alike within

/-! ## Filters -/

omit alike in
theorem call_runs {d : Diagnostic} (steady : b.Steady d) : b.Runs Eq d.call d.call := by
  intro s t level
  have called := level.call d.number
  obtain ⟨made, near, far⟩ := called.calls
  rw [Diagnostic.call_run, Diagnostic.call_run]
  dsimp only at near far
  rw [near, far, steady.answer made]
  rw [near, far] at called
  cases said : d.answer (Diagnostic.count (made ++ b.nearCalls) d.number) with
  | ok v => exact .ok rfl called
  | error f => exact .error (steady.fault said) called

/-- What a filter makes of the same response in both runs. -/
def Nexts (b : Beside) (r : Reply) (next next' : Response.Next) : Prop :=
  b.Replies (next.reply r) (next'.reply (r.shift b.offset))

omit alike in
theorem nexts_rejected (self : Identity) (data : Value) (range : Option (Int × Int))
    (error : Value) :
    b.Nexts (.success self data range) (.made (.failure none (range.map Prod.fst) error none))
      (.made (.failure none
        ((range.map fun r => (r.1 + b.offset, r.2 + b.offset)).map Prod.fst) error none)) := by
  cases range <;> rfl

section
variable {holds : Value → Action Bool} (comparison : ∀ v, b.Runs Eq (holds v) (holds v))
include comparison

omit alike in
theorem response_filter_runs (r : Reply) :
    b.Runs (b.Nexts r) (r.filter holds) ((r.shift b.offset).filter holds) := by
  cases r with
  | failure => exact .pure rfl
  | success self data range =>
    refine (comparison data).bind ?_
    rintro held _ rfl
    cases held with
    | true => exact .pure rfl
    | false => exact .pure (nexts_rejected self data range .nothing)

omit alike in
theorem response_filterOrElse_runs {diagnose : Action Value}
    (diagnosis : b.Runs Eq diagnose diagnose) (r : Reply) :
    b.Runs (b.Nexts r) (r.filterOrElse holds diagnose)
      ((r.shift b.offset).filterOrElse holds diagnose) := by
  cases r with
  | failure => exact .pure rfl
  | success self data range =>
    refine (comparison data).bind ?_
    rintro held _ rfl
    cases held with
    | true => exact .pure rfl
    | false =>
      refine diagnosis.bind ?_
      rintro error _ rfl
      exact .pure (nexts_rejected self data range error)

end

/-- A filter narrows the same response alike. -/
theorem narrow_runs {layer : Layer} (steady : ∀ d, layer.diagnostic = some d → b.Steady d)
    (r : Reply) :
    b.Runs b.Replies (layer.narrow r) (layer.narrow (r.shift b.offset)) := by
  have comparison (v : Value) := Runs.of (alike.civil (layer.holds_civil v))
  rcases layer with ⟨direction, value, none | d⟩
  · exact (response_filter_runs comparison r).bind fun _ _ same => .pure same
  · have diagnosis := call_runs (steady d rfl)
    exact (response_filterOrElse_runs comparison diagnosis r).bind fun _ _ same => .pure same

theorem filter_runs {p : Parser} {layer : Layer}
    (inner : b.Runs b.Replies (p.run b.near) (p.run b.far))
    (steady : ∀ d, layer.diagnostic = some d → b.Steady d) :
    b.Runs b.Replies ((p.filter layer).run b.near) ((p.filter layer).run b.far) := by
  refine inner.bind ?_
  rintro r _ rfl
  exact narrow_runs alike steady r

/-- Towers run alike when the parsers under them do. -/
theorem tower_runs {p : Parser} {layers : List Layer}
    (inner : b.Runs b.Replies (p.run b.near) (p.run b.far))
    (steady : ∀ layer ∈ layers, ∀ d, layer.diagnostic = some d → b.Steady d) :
    b.Runs b.Replies ((p.tower layers).run b.near) ((p.tower layers).run b.far) := by
  induction layers generalizing p with
  | nil => exact inner
  | cons layer above ih =>
    obtain ⟨first, others⟩ := List.forall_mem_cons.mp steady
    exact ih (filter_runs alike inner first) others

end

/-! ## Composed parsers -/

section
variable (matching : b.Matching)
include matching

theorem Runs.take {amount : Int} (nonneg : 0 ≤ amount) :
    b.Runs Eq (Stream.take b.near amount) (Stream.take b.far amount) := by
  refine position.bind ?_
  rintro i _ ⟨within, rfl⟩
  rw [matching.hasItems]
  split
  · refine (advance matching.toAlike nonneg).bind fun _ _ _ => position.bind ?_
    rintro j _ ⟨there, rfl⟩
    rw [matching.slice within there]
    exact .pure rfl
  · exact .pure rfl

theorem Runs.literal (pattern : Value) :
    b.Runs Eq (Stream.literal b.near pattern) (Stream.literal b.far pattern) := by
  refine position.bind ?_
  rintro i _ ⟨within, rfl⟩
  have size : b.Looks pattern.size pattern.size := by
    cases counted : pattern.size with
    | ok n => exact .ok n
    | error f =>
      refine .error (matching.fault ?_)
      rintro e rfl
      cases pattern <;> cases counted
  refine (of size).bind ?_
  rintro n _ rfl
  have next := matching.next within (Int.natCast_nonneg n)
  simp only [matching.hasItems, Int.add_right_comm i b.offset n, matching.slice within next]
  split
  · refine (of (matching.civil (Value.equals_civil _ pattern))).bind ?_
    rintro answer _ rfl
    split
    · exact (moveTo next).bind fun _ _ _ => .pure rfl
    · exact .pure rfl
  · exact .pure rfl

theorem Runs.oneOf (patterns : List Value) :
    b.Runs Eq (Stream.oneOf b.near patterns) (Stream.oneOf b.far patterns) := by
  induction patterns with
  | nil => exact .pure rfl
  | cons pattern rest ih =>
    refine (Runs.literal matching pattern).bind ?_
    rintro matched _ rfl
    cases matched with
    | true => exact .pure rfl
    | false => exact ih

theorem take_runs {amount : Int} {p : Parser} (made : Parser.take amount = .ok p) :
    b.Runs b.Replies (p.run b.near) (p.run b.far) := by
  obtain ⟨nonneg, rfl⟩ := Parser.take_eq_ok made
  rw [Parser.run, Parser.run, Parser.takeBody, Parser.takeBody]
  refine Runs.block fun i within => ?_
  refine (Runs.take matching nonneg).bind ?_
  rintro taken _ rfl
  cases taken with
  | some items => exact .result i items
  | none => exact .fail i _

theorem literal_runs {patterns : List Value} {p : Parser}
    (made : Parser.literal patterns = .ok p) :
    b.Runs b.Replies (p.run b.near) (p.run b.far) := by
  obtain ⟨-, rfl⟩ := Parser.literal_eq_ok made
  rw [Parser.run, Parser.run, Parser.literalBody, Parser.literalBody]
  refine Runs.block fun i within => ?_
  refine (Runs.oneOf matching patterns).bind ?_
  rintro matched _ rfl
  cases matched with
  | some pattern => exact .result i pattern
  | none => exact .fail i _

/-- The data of all parts, or the first failure with the part that it is of. -/
def Gathers (b : Beside) (all all' : Except (Parser.Part × Reply) (List Value)) : Prop :=
  all' = all.mapError fun stop => (stop.1, stop.2.shift b.offset)

omit matching in
theorem runAll_runs {parts : List Parser.Part}
    (each : ∀ part ∈ parts, b.Runs b.Replies (part.parser.run b.near) (part.parser.run b.far)) :
    b.Runs b.Gathers (Parser.runAll b.near parts) (Parser.runAll b.far parts) := by
  induction parts with
  | nil => exact .pure rfl
  | cons part rest ih =>
    obtain ⟨first, others⟩ := List.forall_mem_cons.mp each
    refine first.bind ?_
    rintro r _ rfl
    cases r with
    | failure => exact .pure rfl
    | success self data range =>
      refine (ih others).bind ?_
      rintro all _ rfl
      cases all <;> exact .pure rfl

theorem settle_runs (part : Parser.Part) (i : Int) (r : Reply) :
    b.Runs (b.Settles i) (part.settle b.near ⟨i, false⟩ r)
      (part.settle b.far ⟨i + b.offset, false⟩ (r.shift b.offset)) := by
  rcases part with ⟨parser, mode, message⟩
  cases mode with
  | fail => exact .fail i message
  | failStart => exact .failStart i message
  | error =>
    have made : b.Runs (fun e e' => b.fault (.surfaced e) (.surfaced e'))
        (Checkpoint.error b.near message) (Checkpoint.error b.far message) := by
      refine Runs.position.bind ?_
      rintro j _ ⟨there, rfl⟩
      obtain ⟨e, e', near, far, faults⟩ := matching.error message there
      rw [near, far]
      exact .pure faults
    exact made.bind fun e e' faults => .throw faults
  | propagate => exact .pure ⟨rfl, rfl, rfl⟩

theorem sequence_runs {parts : List Parser.Part}
    (each : ∀ part ∈ parts, b.Runs b.Replies (part.parser.run b.near) (part.parser.run b.far)) :
    b.Runs b.Replies ((Parser.sequence parts).run b.near) ((Parser.sequence parts).run b.far) := by
  rw [Parser.sequence, Parser.run, Parser.run]
  refine Runs.block fun i within => ?_
  refine (runAll_runs each).bind ?_
  rintro all _ rfl
  rcases all with ⟨part, r⟩ | data
  · exact settle_runs matching part i r
  · exact .result i _

end

end Beside

namespace Parser

/-- Composed parsers in which every diagnostic is of some kind. -/
inductive ComposedWith (kind : Diagnostic → Prop) : Parser → Prop where
  | item : ComposedWith kind item
  | blanks : ComposedWith kind blanks
  | integer : ComposedWith kind integer
  | take {amount : Int} {p : Parser} (made : take amount = .ok p) : ComposedWith kind p
  | literal {patterns : List Value} {p : Parser} (made : literal patterns = .ok p) :
      ComposedWith kind p
  | filter {p : Parser} {layer : Layer} (inner : ComposedWith kind p)
      (own : ∀ d, layer.diagnostic = some d → kind d) : ComposedWith kind (.filter p layer)
  | sequence {parts : List Part} (all : ∀ part ∈ parts, ComposedWith kind part.parser) :
      ComposedWith kind (sequence parts)

theorem ComposedWith.composed {kind : Diagnostic → Prop} {p : Parser}
    (composed : p.ComposedWith kind) : Composed p := by
  induction composed with
  | item => exact .item
  | blanks => exact .blanks
  | integer => exact .integer
  | take made => exact .take made
  | literal made => exact .literal made
  | filter inner own ih => exact .filter ih
  | sequence all ih => exact .sequence ih

theorem ComposedWith.mono {kind kind' : Diagnostic → Prop} {p : Parser}
    (composed : p.ComposedWith kind) (more : ∀ d, kind d → kind' d) : p.ComposedWith kind' := by
  induction composed with
  | item => exact .item
  | blanks => exact .blanks
  | integer => exact .integer
  | take made => exact .take made
  | literal made => exact .literal made
  | filter inner own ih => exact .filter ih fun d here => more d (own d here)
  | sequence all ih => exact .sequence ih

/-- Nothing but the diagnostics is asked about. -/
theorem composedWith_any_iff {p : Parser} : p.ComposedWith (fun _ => True) ↔ Composed p := by
  constructor
  · exact ComposedWith.composed
  · intro composed
    induction composed with
    | item => exact .item
    | blanks => exact .blanks
    | integer => exact .integer
    | take made => exact .take made
    | literal made => exact .literal made
    | filter inner ih => exact .filter ih fun _ _ => trivial
    | sequence all ih => exact .sequence ih

/-- **Composed parsers run alike on sources that match**, if the diagnostics in them are steady. -/
theorem ComposedWith.runs {kind : Diagnostic → Prop} {p : Parser} (composed : p.ComposedWith kind)
    {b : Beside} (matching : b.Matching) (steady : ∀ d, kind d → b.Steady d) :
    b.Runs b.Replies (p.run b.near) (p.run b.far) := by
  have alike := matching.toAlike
  induction composed with
  | item => exact Beside.item_runs alike
  | blanks => exact Beside.blanks_runs alike
  | integer => exact Beside.integer_runs alike
  | take made => exact Beside.take_runs matching made
  | literal made => exact Beside.literal_runs matching made
  | filter inner own ih => exact Beside.filter_runs alike ih fun d here => steady d (own d here)
  | sequence all ih => exact Beside.sequence_runs matching ih

end Parser

end Sluice
