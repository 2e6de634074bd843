import Sluice.Stream

/-!
A position to come back to, by request only.
-/
namespace Sluice

structure Savepoint where
  pos : Int
  deriving DecidableEq, Repr

namespace Savepoint

def save : Action Savepoint :=
  return ⟨← Stream.position⟩

def rollback (save : Savepoint) : Action Unit :=
  Stream.moveTo save.pos

def range (save : Savepoint) : Action (Int × Int) :=
  return (save.pos, ← Stream.position)

/-- Goes back unless something came of it. -/
def guard (save : Savepoint) (held : Bool) : Action Unit :=
  if held then pure () else save.rollback

end Savepoint

end Sluice
