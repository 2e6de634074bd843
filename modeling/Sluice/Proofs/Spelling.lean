import Sluice.Parser.Tower
import Sluice.Proofs.Scanning
import Sluice.Proofs.SideBySide

/-!
A text and the sequence of its characters. Item by item there is no difference between them, so
what looks at items only finds the same in both; and what is cut from the one is spelled out in what
is cut from the other.
-/
namespace Sluice

/-- Characters one by one, as the items of a text are. -/
def tokens (cs : List Char) : List Value :=
  cs.map Source.ofChar

@[simp] theorem length_tokens (cs : List Char) : (tokens cs).length = cs.length :=
  List.length_map _

/-- The sources that hold some characters. -/
inductive Source.Spells (cs : List Char) : Source → Prop where
  | text : Spells cs (.text cs)
  | list : Spells cs (.list (tokens cs))
  | tuple : Spells cs (.tuple (tokens cs))

theorem Source.Spells.items_eq {cs : List Char} {src : Source} (spells : src.Spells cs) :
    src.items = tokens cs := by
  cases spells <;> rfl

/-- The same fault, up to the words for a position that is out of range, which name the source. -/
inductive Fault.SameKind : Fault → Fault → Prop where
  | refl (fault : Fault) : SameKind fault fault
  | outOfRange (one other : Shape) : SameKind (.outOfRange one) (.outOfRange other)

/-- A diagnostic that does the same at every call. -/
def Diagnostic.Constant (d : Diagnostic) : Prop :=
  ∃ said, ∀ n, d.answer n = said

/-- Two runs with the same outcome at the same position, which have called the same diagnostics
since they began, with what was called before them. -/
inductive Agrees (before before' : List Nat) :
    EStateM.Result Fault Progress α → EStateM.Result Fault Progress α → Prop where
  | ok (a : α) (pos : Int) (made : List Nat) :
      Agrees before before' (.ok a ⟨pos, made ++ before⟩) (.ok a ⟨pos, made ++ before'⟩)
  | error {f g : Fault} (kind : f.SameKind g) (pos : Int) (made : List Nat) :
      Agrees before before' (.error f ⟨pos, made ++ before⟩) (.error g ⟨pos, made ++ before'⟩)

theorem Response.shift_zero (r : Response α) : r.shift 0 = r := by
  cases r with
  | success self data range => cases range <;> simp [shift]
  | failure self pos error message => cases pos <;> simp [shift]

/-- Two sources that are read from the same positions. -/
def Beside.level (near far : Source) (nearCalls farCalls : List Nat) : Beside where
  near := near
  far := far
  offset := 0
  within _ := True
  nearCalls := nearCalls
  farCalls := farCalls
  fault := Fault.SameKind

namespace Beside

variable {near far : Source} {calls calls' : List Nat}

theorem level_alike (same : near.items = far.items) : (level near far calls calls').Alike where
  length := by
    have lengths := congrArg List.length same
    rw [Source.length_items, Source.length_items] at lengths
    simp only [level, lengths, Int.add_zero]
  next _ _ := trivial
  item {i} _ _ := by
    have looked : near.item? i = far.item? i := by
      rw [Source.item?_eq, Source.item?_eq, same]
    simp only [level, Int.add_zero, Source.item, looked]
    cases far.item? i with
    | some v => exact .ok v
    | none =>
      refine .error ?_
      by_cases fits : fitsWord i = true
      · simp only [fits, if_true]
        exact .outOfRange near.shape far.shape
      · simp only [fits]
        exact .refl .unindexable
  items_cut _ _ := by
    simp only [level, Int.add_zero, Source.items_cut, same]
  fault {f} _ := .refl f

theorem level_steady {d : Diagnostic} (constant : d.Constant) :
    (level near far calls calls').Steady d := by
  obtain ⟨said, always⟩ := constant
  refine ⟨fun made => ?_, fun {n f} _ => .refl f⟩
  rw [always, always]

/-- Runs side by side from one position end in agreement. -/
theorem level_agrees {x y : Action Reply} (start : Int)
    (runs : (level near far calls calls').Runs (level near far calls calls').Replies x y) :
    Agrees calls calls' (x ⟨start, calls⟩) (y ⟨start, calls'⟩) := by
  have begin : (level near far calls calls').Level ⟨start, calls⟩ ⟨start, calls'⟩ :=
    ⟨(Int.add_zero start).symm, trivial, [], rfl, rfl⟩
  have ends := runs begin
  generalize x ⟨start, calls⟩ = nearEnd at ends ⊢
  generalize y ⟨start, calls'⟩ = farEnd at ends ⊢
  cases ends with
  | ok replies there =>
    obtain ⟨pos, made, rfl, rfl⟩ := there.split
    rw [Replies, level, Response.shift_zero] at replies
    rw [replies, level, Int.add_zero]
    exact .ok _ pos made
  | error kind there =>
    obtain ⟨pos, made, rfl, rfl⟩ := there.split
    rw [level, Int.add_zero]
    exact .error kind pos made

end Beside

namespace Parser

/-- The bundled parsers that look at items only. -/
def itemwise : List Parser :=
  [item, blanks, integer]

theorem itemwise_runs {b : Beside} (alike : b.Alike) {p : Parser} (member : p ∈ itemwise) :
    b.Runs b.Replies (p.run b.near) (p.run b.far) := by
  simp only [itemwise, List.mem_cons, List.not_mem_nil, or_false] at member
  rcases member with rfl | rfl | rfl
  · exact Beside.item_runs alike
  · exact Beside.blanks_runs alike
  · exact Beside.integer_runs alike

/-- Towers on such a parser see the items of a source and nothing else of it. -/
theorem tower_agrees {near far : Source} (same : near.items = far.items) {p : Parser}
    (member : p ∈ itemwise) {layers : List Layer}
    (constant : ∀ layer ∈ layers, ∀ d, layer.diagnostic = some d → d.Constant)
    (start : Int) (calls calls' : List Nat) :
    Agrees calls calls' ((p.tower layers).run near ⟨start, calls⟩)
      ((p.tower layers).run far ⟨start, calls'⟩) := by
  have alike : (Beside.level near far calls calls').Alike := Beside.level_alike same
  refine Beside.level_agrees start (Beside.tower_runs alike (itemwise_runs alike member) ?_)
  intro layer member d here
  exact Beside.level_steady (constant layer member d here)

/-- Before the beginning, positions count from the end: the digit is passed twice and read once. -/
example : integer.run (.list (tokens ['5'])) ⟨-1, []⟩ =
    .ok (.success none (.int 5) (some (-1, 1))) ⟨1, []⟩ :=
  rfl

end Parser

/-! ## Slices -/

theorem tokens_slice (cs : List Char) (i j : Int) :
    slice (tokens cs) i j = tokens (slice cs i j) :=
  (Source.items_cut (.text cs) i j).symm

theorem Source.slice_tokens (cs : List Char) (i j : Int) :
    (Source.list (tokens cs)).slice i j = .list (tokens (Sluice.slice cs i j)) :=
  congrArg Value.list (tokens_slice cs i j)

theorem Value.equalsIn_ofChar (inside : Bool) (x y : Char) :
    equalsIn inside (Source.ofChar x) (Source.ofChar y) = .ok (.bool (decide (x = y))) := by
  have same : (String.singleton x == String.singleton y) = decide (x = y) := by
    rw [Bool.beq_eq_decide_eq, decide_eq_decide]
    exact String.singleton_inj
  unfold Source.ofChar equalsIn
  simp only [same]

theorem Value.equalItems_tokens (xs ys : List Char) :
    equalItems (tokens xs) (tokens ys) = .ok (decide (xs = ys)) := by
  induction xs generalizing ys with
  | nil => cases ys <;> (unfold tokens equalItems; rfl)
  | cons x xs ih =>
    cases ys with
    | nil => unfold tokens equalItems; rfl
    | cons y ys =>
      change equalItems (Source.ofChar x :: tokens xs) (Source.ofChar y :: tokens ys) = _
      unfold equalItems
      rw [equalsIn_ofChar]
      change (if (Value.bool (decide (x = y))).truthy then equalItems (tokens xs) (tokens ys)
        else .ok false) = _
      by_cases same : x = y
      · simp only [same, truthy, decide_true, if_true, ih, List.cons.injEq, true_and]
      · simp only [same, truthy, decide_false, Bool.false_eq_true, if_false, List.cons.injEq,
          false_and]

theorem Value.equals_texts (v w : String) :
    equals (.text v) (.text w) = .ok (.bool (decide (v = w))) := by
  unfold equals equalsIn
  exact congrArg (fun same => Except.ok (bool same)) (Bool.beq_eq_decide_eq v w)

theorem Value.equals_tokens (xs ys : List Char) :
    equals (.list (tokens xs)) (.list (tokens ys)) = .ok (.bool (decide (xs = ys))) := by
  unfold equals equalsIn
  simp only [length_tokens, equalItems_tokens]
  by_cases lengths : xs.length = ys.length
  · rw [if_pos lengths]
    rfl
  · have differ : xs ≠ ys := fun same => lengths (congrArg List.length same)
    rw [if_neg lengths, decide_eq_false differ]

/-- Whether a text comes next at a position. -/
def stands (cs : List Char) (i : Int) (v : String) : Bool :=
  i + v.length ≤ cs.length && slice cs i (i + v.length) = v.toList

namespace Stream

variable {cs : List Char}

/-- Moves past a text if it comes next. -/
def pastIf (cs : List Char) (v : String) (s : Progress) : EStateM.Result Fault Progress Bool :=
  if stands cs s.pos v then .ok true { s with pos := s.pos + v.length } else .ok false s

/-- It takes a source of that length, and a slice of it that compares as the characters do. -/
theorem literal_eq_pastIf {src : Source} {pattern : Value} {v : String} {s : Progress}
    (length : src.length = cs.length) (size : pattern.size = .ok v.length)
    (compared : (src.slice s.pos (s.pos + v.length)).equals pattern =
      .ok (.bool (decide (slice cs s.pos (s.pos + v.length) = v.toList)))) :
    literal src pattern s = pastIf cs v s := by
  rw [literal_run, size]
  simp only [Source.hasItems, length, compared, Value.truthy, pastIf, stands, Bool.and_eq_true,
    decide_eq_true_eq]
  by_cases room : s.pos + v.length ≤ cs.length
  · simp only [room, if_true, true_and]
  · simp only [room, if_false, false_and]

theorem literal_text (cs : List Char) (v : String) (s : Progress) :
    literal (.text cs) (.text v) s = pastIf cs v s := by
  refine literal_eq_pastIf rfl rfl ?_
  have sliced : (Source.text cs).slice s.pos (s.pos + v.length) =
      .text (String.ofList (slice cs s.pos (s.pos + v.length))) := rfl
  simp only [sliced, Value.equals_texts, ← String.toList_inj, String.toList_ofList]

theorem literal_tokens (cs : List Char) (v : String) (s : Progress) :
    literal (.list (tokens cs)) (.list (tokens v.toList)) s = pastIf cs v s := by
  have size : (Value.list (tokens v.toList)).size = .ok v.length := by
    rw [Value.size, length_tokens, String.length_toList]
  refine literal_eq_pastIf (length_tokens cs) size ?_
  rw [Source.slice_tokens, Value.equals_tokens]

/-- The first of the texts that comes next is found, in the way it is written among the patterns. -/
theorem oneOf_first {src : Source} {written : String → Value}
    (found : ∀ v s, literal src (written v) s = pastIf cs v s) (vs : List String) (s : Progress) :
    oneOf src (vs.map written) s = match vs.find? (stands cs s.pos) with
      | some v => .ok (some (written v)) { s with pos := s.pos + v.length }
      | none => .ok none s := by
  induction vs with
  | nil => rfl
  | cons v rest ih =>
    rw [List.map_cons, oneOf, Action.bind_run, found, pastIf, List.find?_cons]
    cases stands cs s.pos v with
    | true => rfl
    | false => exact ih

end Stream

namespace Parser

variable {cs : List Char}

theorem literalBody_first {src : Source} {written : String → Value}
    (found : ∀ v s, Stream.literal src (written v) s = Stream.pastIf cs v s) (vs : List String)
    (s : Progress) :
    literalBody (vs.map written) src s = match vs.find? (stands cs s.pos) with
      | some v => .ok (.success none (written v) (some (s.pos, s.pos + v.length)))
          { s with pos := s.pos + v.length }
      | none => .ok (.failure none (some s.pos) .nothing (some (expected (vs.map written)))) s := by
  simp only [literalBody, Checkpoint.block, Action.bind_run, Stream.oneOf_first found]
  cases vs.find? (stands cs s.pos) <;> rfl

end Parser

/-- How alike a text and its characters are to read. -/
structure TokensAgree (cs : List Char) : Prop where
  /-- In whatever way the characters are held, towers on parsers of items come to the same. -/
  towers : ∀ src src', src.Spells cs → src'.Spells cs → ∀ p ∈ Parser.itemwise, ∀ layers,
    (∀ layer ∈ layers, ∀ d, layer.diagnostic = some d → d.Constant) → ∀ start calls calls',
    Agrees calls calls' ((p.tower layers).run src ⟨start, calls⟩)
      ((p.tower layers).run src' ⟨start, calls'⟩)
  /-- What is taken from the list are the characters of what is taken from the text. -/
  takes : ∀ amount p, Parser.take amount = .ok p → ∀ start calls calls',
    if start + amount ≤ cs.length then
      let taken := slice cs start (start + amount)
      let range := some (start, start + amount)
      p.run (.text cs) ⟨start, calls⟩ =
        .ok (.success none (.text (String.ofList taken)) range) ⟨start + amount, calls⟩ ∧
      p.run (.list (tokens cs)) ⟨start, calls'⟩ =
        .ok (.success none (.list (tokens taken)) range) ⟨start + amount, calls'⟩
    else ∃ message,
      p.run (.text cs) ⟨start, calls⟩ =
        .ok (.failure none (some start) .nothing (some message)) ⟨start, calls⟩ ∧
      p.run (.list (tokens cs)) ⟨start, calls'⟩ =
        .ok (.failure none (some start) .nothing (some message)) ⟨start, calls'⟩
  /-- Of some texts, the first that comes next is found in the text, and its characters are found in
  the list. -/
  literals : ∀ (vs : List String) p p', Parser.literal (vs.map .text) = .ok p →
    Parser.literal (vs.map fun v => .list (tokens v.toList)) = .ok p' → ∀ start calls calls',
    match vs.find? (stands cs start) with
    | some v =>
      let range := some (start, start + v.length)
      p.run (.text cs) ⟨start, calls⟩ =
        .ok (.success none (.text v) range) ⟨start + v.length, calls⟩ ∧
      p'.run (.list (tokens cs)) ⟨start, calls'⟩ =
        .ok (.success none (.list (tokens v.toList)) range) ⟨start + v.length, calls'⟩
    | none => ∃ message message',
      p.run (.text cs) ⟨start, calls⟩ =
        .ok (.failure none (some start) .nothing (some message)) ⟨start, calls⟩ ∧
      p'.run (.list (tokens cs)) ⟨start, calls'⟩ =
        .ok (.failure none (some start) .nothing (some message')) ⟨start, calls'⟩

/-- **A text and its characters read alike**, from any position. -/
theorem text_and_tokens_agree (cs : List Char) : TokensAgree cs where
  towers src src' spells spells' p member layers constant start calls calls' := by
    have same : src.items = src'.items := spells.items_eq.trans spells'.items_eq.symm
    exact Parser.tower_agrees same member constant start calls calls'
  takes amount p made start calls calls' := by
    obtain ⟨-, rfl⟩ := Parser.take_eq_ok made
    simp only [Parser.run, Parser.takeBody_run, Source.peek, Source.hasItems, Source.length,
      length_tokens, Source.slice_tokens]
    by_cases room : start + amount ≤ cs.length
    · simp only [room, decide_true, if_true, and_true]
      rfl
    · simp only [room, decide_false, Bool.false_eq_true, if_false]
      exact ⟨_, rfl, rfl⟩
  literals vs p p' made made' start calls calls' := by
    obtain ⟨-, rfl⟩ := Parser.literal_eq_ok made
    obtain ⟨-, rfl⟩ := Parser.literal_eq_ok made'
    have text := Parser.literalBody_first (Stream.literal_text cs) vs ⟨start, calls⟩
    have list := Parser.literalBody_first (Stream.literal_tokens cs) vs ⟨start, calls'⟩
    rw [Parser.run, Parser.run, text, list]
    dsimp only
    cases vs.find? (stands cs start) with
    | some v => exact ⟨rfl, rfl⟩
    | none => exact ⟨_, _, rfl, rfl⟩

end Sluice
