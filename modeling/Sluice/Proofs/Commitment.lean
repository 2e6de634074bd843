import Sluice.Script

/-!
What the operations of a program do to its checkpoints. A checkpoint's saved position never changes,
and whether it is committed is the last word said about it: `commit` and `result` say that it is,
`fail`, `failStart`, `error` and `raiseError` that it is not, and nothing else says anything.
-/
namespace Sluice.Script

structure Word where
  checkpoint : Nat
  committed : Bool
  deriving DecidableEq, Repr

def Word.about? (word : Word) (i : Nat) : Option Bool :=
  if word.checkpoint = i then some word.committed else none

def Operation.word? : Operation → Option Word
  | .commit i | .result i _ => some ⟨i, true⟩
  | .fail i _ | .failStart i _ | .error i _ | .raiseError i _ => some ⟨i, false⟩
  | _ => none

/-- A commitment that was refused has not been said. -/
def Entry.word? : Entry → Option Word
  | .answered op _ _ => op.word?
  | .raised op _ _ => op.word?.filter (!·.committed)
  | .left .. | .caught .. => none

/-- The last word on a checkpoint in an account that has the latest entry first. -/
def lastWord (i : Nat) (account : List Entry) : Option Bool :=
  account.findSome? fun entry => entry.word?.bind (·.about? i)

theorem lastWord_append (i : Nat) (later earlier : List Entry) :
    lastWord i (later ++ earlier) = (lastWord i later).or (lastWord i earlier) :=
  List.findSome?_append

namespace Desk

/-- The position that a checkpoint goes back to. -/
def saved (d : Desk) (i : Nat) : Option Int :=
  d.checkpoints[i]?.map (·.pos)

/-- A checkpoint that is yet to be made is not committed. -/
def committed (d : Desk) (i : Nat) : Bool :=
  d.checkpoints[i]?.any (·.committed)

/-- What may come of a word, or of none: no saved position changes and no entry is added, and only
the checkpoint that the word is about is committed by it, or not. -/
structure Heard (word : Option Word) (d d' : Desk) : Prop where
  account : d'.account = d.account
  saved : ∀ i pos, d.saved i = some pos → d'.saved i = some pos
  committed : ∀ i, d'.committed i = (word.bind (·.about? i)).getD (d.committed i)

theorem Heard.refl (d : Desk) : Heard none d d :=
  ⟨rfl, fun _ _ h => h, fun _ => rfl⟩

theorem Heard.trans {word : Option Word} {a b c : Desk} (first : Heard word a b)
    (rest : Heard none b c) : Heard word a c :=
  ⟨rest.account.trans first.account, fun i pos h => rest.saved i pos (first.saved i pos h),
    fun i => (rest.committed i).trans (first.committed i)⟩

theorem Heard.of_eq {d d' : Desk} (checkpoints : d'.checkpoints = d.checkpoints)
    (account : d'.account = d.account) : Heard none d d' := by
  refine ⟨account, fun i pos h => ?_, fun i => ?_⟩
  · simpa only [Desk.saved, checkpoints] using h
  · simp only [Desk.committed, checkpoints, Option.bind_none, Option.getD_none]

theorem heard_of_set {i : Nat} {committed : Bool} {d d' : Desk} {c : Checkpoint}
    (found : d.checkpoints[i]? = some c)
    (checkpoints : d'.checkpoints = d.checkpoints.set i { c with committed })
    (account : d'.account = d.account) : Heard (some ⟨i, committed⟩) d d' := by
  have bound := (List.getElem?_eq_some_iff.mp found).1
  refine ⟨account, fun j pos h => ?_, fun j => ?_⟩
  · simp only [Desk.saved, checkpoints] at h ⊢
    by_cases same : i = j
    · subst same
      simpa only [List.getElem?_set_self bound, found, Option.map_some] using h
    · rwa [List.getElem?_set_ne same]
  · simp only [Desk.committed, checkpoints, Option.bind_some, Word.about?]
    by_cases same : i = j
    · subst same
      simp only [List.getElem?_set_self bound, Option.any_some, if_true, Option.getD_some]
    · rw [List.getElem?_set_ne same, if_neg same, Option.getD_none]

end Desk

open Desk (Heard)

/-- An act that says nothing about any checkpoint. -/
def Silent (act : Act α) : Prop :=
  ∀ d, Heard none d (ending (act d))

theorem Desk.Heard.bind {word : Option Word} {d : Desk} {x : Act α} {f : α → Act β}
    (first : Heard word d (ending (x d))) (rest : ∀ a, Silent (f a)) :
    Heard word d (ending ((x >>= f) d)) := by
  rw [Action.bind_run]
  cases h : x d with
  | ok a d' => rw [h] at first; exact first.trans (rest a d')
  | error fault d' => rw [h] at first; exact first

namespace Silent

theorem pure (a : α) : Silent (pure a) :=
  fun d => .refl d

theorem throw (fault : Fault) : Silent (throw fault : Act α) :=
  fun d => .refl d

theorem bind {x : Act α} {f : α → Act β} (first : Silent x) (rest : ∀ a, Silent (f a)) :
    Silent (x >>= f) :=
  fun d => (first d).bind rest

theorem onStream (act : Action α) : Silent (onStream act) := by
  intro d
  simp only [Script.onStream]
  cases act d.progress <;> exact .of_eq rfl rfl

theorem onBench (act : Build α) : Silent (onBench act) := by
  intro d
  simp only [Script.onBench]
  cases act d.bench <;> exact .of_eq rfl rfl

theorem latest : Silent latest :=
  fun d => .refl d

theorem lookUp (xs : List α) (i : Nat) : Silent (lookUp xs i) := by
  intro d
  simp only [Script.lookUp]
  cases xs[i]? <;> exact .refl d

theorem savepointAt (i : Nat) : Silent (savepointAt i) :=
  fun d => lookUp d.savepoints i d

theorem checkpointAt (i : Nat) : Silent (checkpointAt i) :=
  fun d => lookUp d.checkpoints i d

theorem newSavepoint : Silent newSavepoint :=
  fun _ => .of_eq rfl rfl

/-- A new checkpoint is not committed, which is what held of it before it was made. -/
theorem newCheckpoint : Silent newCheckpoint := by
  intro d
  change Heard none d { d with checkpoints := d.checkpoints ++ [⟨d.progress.pos, false⟩] }
  refine ⟨rfl, fun i pos h => ?_, fun i => ?_⟩
  · obtain ⟨c, found, rfl⟩ := Option.map_eq_some_iff.mp h
    have bound := (List.getElem?_eq_some_iff.mp found).1
    simp only [Desk.saved, List.getElem?_append_left bound, found, Option.map_some]
  · simp only [Desk.committed, Option.bind_none, Option.getD_none]
    rcases Nat.lt_trichotomy i d.checkpoints.length with bound | rfl | bound
    · rw [List.getElem?_append_left bound]
    · rw [List.getElem?_concat_length, List.getElem?_eq_none (Nat.le_refl _)]
      rfl
    · have missing : d.checkpoints.length + 1 ≤ i := bound
      rw [List.getElem?_eq_none (by simpa using missing), List.getElem?_eq_none (by omega)]

end Silent

theorem checkpointAt_run (i : Nat) (d : Desk) :
    checkpointAt i d = match d.checkpoints[i]? with
      | some c => .ok c d
      | none => .error (.outOfRange .list) d := by
  change lookUp d.checkpoints i d = _
  simp only [lookUp]
  cases d.checkpoints[i]? <;> rfl

namespace Operation

/-- The operations that are no words say nothing. -/
theorem perform_silent (src : Source) {op : Operation} (quiet : op.word? = none) :
    Silent (op.perform src) := by
  cases op with
  | length => exact .pure _
  | notAtEnd | atEnd | item | get | stride | hasItems | peek | take | literal | oneOf | moveTo =>
    exact .bind (.onStream _) fun _ => .pure _
  | parse => exact .bind (.onBench _) fun _ => .bind (.onStream _) fun _ => .pure _
  | save => exact .bind .newSavepoint fun _ => .pure _
  | restore | savedRange | guard =>
    exact .bind (.savepointAt _) fun _ => .bind (.onStream _) fun _ => .pure _
  | guardLast =>
    exact .bind .latest fun _ => .bind (.savepointAt _) fun _ =>
      .bind (.onStream _) fun _ => .pure _
  | checkpoint => exact .bind .newCheckpoint fun _ => .pure _
  | rollback | rollbackIfUncommitted | range | slice =>
    exact .bind (.checkpointAt _) fun _ => .bind (.onStream _) fun _ => .pure _
  | committed => exact .bind (.checkpointAt _) fun _ => .pure _
  | raise => exact .throw _
  | commit | result | fail | failStart | error | raiseError => cases quiet

/-- Words about a checkpoint that is not there are refused. -/
theorem perform_missing (src : Source) {op : Operation} {word : Word} {d : Desk}
    (spoken : op.word? = some word) (missing : d.checkpoints[word.checkpoint]? = none) :
    op.perform src d = .error (.outOfRange .list) d := by
  cases op with
  | commit | result | fail | failStart | error | raiseError =>
    cases spoken
    simp only [perform, errorOf, Action.bind_run, checkpointAt_run, missing]
  | _ => cases spoken

/-- Words about a checkpoint that is there are taken, and only a word against it can raise. -/
theorem perform_found (src : Source) {op : Operation} {word : Word} {d : Desk} {c : Checkpoint}
    (spoken : op.word? = some word) (found : d.checkpoints[word.checkpoint]? = some c) :
    Heard word d (ending (op.perform src d)) ∧
    (word.committed = true → ∃ answer d', op.perform src d = .ok answer d') := by
  have seen {β : Type} (f : Checkpoint → Act β) :
      (checkpointAt word.checkpoint >>= f) d = f c d := by
    simp only [Action.bind_run, checkpointAt_run, found]
  have told {i : Nat} {c : Checkpoint} (found : d.checkpoints[i]? = some c) :
      Heard (some ⟨i, false⟩) d (ending (store i c.uncommit d)) :=
    Desk.heard_of_set found rfl rfl
  cases op with
  | commit | result | fail | failStart =>
    cases spoken
    simp only [perform, seen]
    exact ⟨Desk.heard_of_set found rfl rfl, fun _ => ⟨_, _, rfl⟩⟩
  | error i message =>
    cases spoken
    simp only [perform, errorOf, bind_assoc, seen]
    exact ⟨(told found).bind fun _ => .bind (.onStream _) fun e => .pure _, nofun⟩
  | raiseError i message =>
    cases spoken
    simp only [perform, errorOf, bind_assoc, seen]
    exact ⟨(told found).bind fun _ => .bind (.onStream _) fun e => .throw _, nofun⟩
  | _ => cases spoken

theorem perform_answered {src : Source} {op : Operation} {d d' : Desk} {answer : Answer}
    (run : op.perform src d = .ok answer d') : Heard op.word? d d' := by
  cases spoken : op.word? with
  | none => simpa only [run, ending] using perform_silent src spoken d
  | some word =>
    cases there : d.checkpoints[word.checkpoint]? with
    | none => cases (perform_missing src spoken there).symm.trans run
    | some c => simpa only [run, ending] using (perform_found src spoken there).1

/-- A word that raises was about a checkpoint that is not there, or takes a commitment back. -/
theorem perform_raised {src : Source} {op : Operation} {d d' : Desk} {fault : Fault}
    (run : op.perform src d = .error fault d') :
    Heard (op.word?.filter (!·.committed)) d d' := by
  cases spoken : op.word? with
  | none => simpa only [run, ending, Option.filter_none] using perform_silent src spoken d
  | some word =>
    rcases word with ⟨i, committed⟩
    cases there : d.checkpoints[i]? with
    | none =>
      cases (perform_missing src spoken there).symm.trans run
      cases committed with
      | true => exact .refl d
      | false =>
        refine ⟨rfl, fun _ _ h => h, fun j => ?_⟩
        simp only [Option.filter, Bool.not_false, if_true, Option.bind_some, Word.about?]
        by_cases same : i = j
        · subst same
          simp only [Desk.committed, there, Option.any_none, if_true, Option.getD_some]
        · simp only [if_neg same, Option.getD_none]
    | some c =>
      obtain ⟨heard, answers⟩ := perform_found src spoken there
      cases committed with
      | true =>
        obtain ⟨answer, d'', answered⟩ := answers rfl
        cases answered.symm.trans run
      | false => simpa only [run, ending, Option.filter, Bool.not_false, if_true] using heard

end Operation

end Sluice.Script
