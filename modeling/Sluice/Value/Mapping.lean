import Sluice.Value.Show

/-!
The functions that data can be sent through.
-/
namespace Sluice

inductive Mapping where
  | plain
  | shown
  | truth
  | size
  | negate
  | wrap
  /-- Never returns. -/
  | refuse
  deriving DecidableEq, Repr

namespace Value

def negate : Value → Except Fault Value
  | .bool b => .ok (.int (if b then -1 else 0))
  | .int n => .ok (.int (-n))
  | .float _ x => .ok (.float none x.neg)
  | v => .error (.unnegatable v.typeName)

end Value

def Mapping.apply : Mapping → Value → Except Fault Value
  | .plain, v => .ok (.text v.plain)
  | .shown, v => .ok (.text v.shown)
  | .truth, v => .ok (.bool v.truthy)
  | .size, v => v.size.map fun n => .int n
  | .negate, v => v.negate
  | .wrap, v => .ok (.list [v])
  | .refuse, _ => .error (.raised .value "boom")

end Sluice
