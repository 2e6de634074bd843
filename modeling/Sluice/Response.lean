import Sluice.Note
import Sluice.Value.Show

/-!
Working on a response: narrowing it by a predicate, mapping its data, and surfacing it as an error.
A failure goes through all of it untouched.
-/
namespace Sluice.Response

/-- What a step hands on: the very response it was given, or a new one. -/
inductive Next where
  | kept
  | made (r : Reply)

def Next.reply (before : Reply) : Next → Reply
  | .kept => before
  | .made r => r

def Next.isKept : Next → Bool
  | .kept => true
  | .made _ => false

variable {m : Type → Type} [Monad m]

/-- Narrows to a silent failure at the start of the response. -/
def filter (holds : Value → m Bool) (r : Reply) : m Next :=
  match r with
  | .success _ data range => do
    if ← holds data then return .kept
    else return .made (.failure none (range.map Prod.fst) .nothing none)
  | .failure .. => return .kept

/-- Narrows to a failure that carries a diagnostic, made for this failure alone. -/
def filterOrElse (holds : Value → m Bool) (diagnose : m Value) (r : Reply) : m Next :=
  match r with
  | .success _ data range => do
    if ← holds data then return .kept
    else return .made (.failure none (range.map Prod.fst) (← diagnose) none)
  | .failure .. => return .kept

def map (f : Value → m Value) (r : Reply) : m Next :=
  match r with
  | .success _ data range => return .made (.success none (← f data) range)
  | .failure .. => return .kept

def value : Reply → Value
  | .success _ data _ => data
  | .failure .. => .nothing

def error : Reply → Value
  | .success .. => .nothing
  | .failure _ _ error _ => error

/-- What the failure says: its own words, or else those of its diagnostic. -/
def complaint (error : Value) (message : Option String) : Option String :=
  message <|> if error.isNothing then none else some error.plain

/-- A failure without a position is put at the beginning. -/
def toError (src : Option Source) : Reply → Except Fault ParseError
  | .success .. => .error .succeeded
  | .failure _ pos error message => ParseError.of src (pos.getD 0) (complaint error message)

/-- A diagnostic that is an exception is what the error is raised from. -/
def cause : Value → Option (Kind × String)
  | .exception _ kind text => some (kind, text)
  | _ => none

/-- The data, or the failure raised as an error. -/
def unwrap (src : Option Source) (r : Reply) : Except Fault Value :=
  match r with
  | .success _ data _ => .ok data
  | .failure _ _ error _ => do
    let surfaced ← toError src r
    throw (.surfaced { surfaced with cause := cause error })

end Sluice.Response
