import JavaFragments.Fragment.Call
import JavaFragments.Session.Naming
import JavaFragments.Value.Order

/-! # Call sites

A call to a method that throws is either wrapped into a block that ignores the exception,
or left bare; then the method around it must declare the exception.  A variable that is
declared by a wrapped call may be without a value behind it. -/

namespace JavaFragments.Session

open Fragment

/-- The variable is not certain to have a value, unless it was declared before. -/
def markUnavailable (target : RecordId) : Action Unit := do
  if !(← valueOf target .declared).truth then
    Action.amend (·.assign target .available (.bool false))

/-- Writes a call.  For a method that throws a random number decides whether the call is
    wrapped. -/
def methodCall (m target : RecordId) (args : List RecordId) : Action CallSite := do
  let method ← Action.look fun w => .ok (w.records.get m)
  let statement ← Action.look fun w =>
    assignment method (w.records.get target) (args.map w.records.nameOf)
  let throws ← valueOf m .throws
  if !throws.truth then return ⟨statement, false⟩
  let u ← Action.draw fun _ => Draw.random
  let weight ← Action.look fun w => .ok (w.settings.get .tryCatchWeight)
  if ← Action.orMisuse (Value.holds .less (.float u) weight) then
    markUnavailable target
    let callee ← Action.look fun w => calleeText (w.records.get m)
    Action.log .debug s!"Call to {callee} wrapped in try/catch"
    return ⟨wrapped statement, false⟩
  else
    let callee ← Action.look fun w => calleeText (w.records.get m)
    let into ← Action.look fun w => written (w.records.nameOf target)
    Action.log .debug s!"Call to {callee} may throw into {into}"
    return ⟨statement, true⟩

end JavaFragments.Session
