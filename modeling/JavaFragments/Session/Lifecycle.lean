import JavaFragments.Session.Workbench

/-! # Start and reset of a session -/

namespace JavaFragments.Session

open Number JavaFragments.Random

/-- Starts the random source with the seed of the session, if it has one. -/
def reseed : Action Unit := do
  let source ← Action.look fun w => Fragment.orMisuse (w.source.started w.session.seed)
  Action.change fun w => { w with source := source }

/-- Notes that a session has started; an extreme weight is worth a warning. -/
def announce : Action Unit := do
  let seed ← Action.look fun w => .ok w.session.seed
  Action.note .info do .ok s!"New generation session (seed={← seed.text})"
  let weight ← Action.look fun w => .ok (w.settings.get .tryCatchWeight)
  let warn (calls : String) : Action Unit := Action.note .warning do
    .ok s!"try_catch_weight={← weight.text}: calls to throwing methods are never {calls}"
  if weight.same (.float .zero) then warn "wrapped"
  else if weight.same (.float .one) then warn "left bare"

/-- Forgets all allocated classes and starts the random source again. -/
def reset : Action Unit := do
  Action.change fun w => { w with
    session := { w.session with classCount := 0, registry := .empty } }
  reseed
  let seed ← Action.look fun w => .ok w.session.seed
  Action.note .info do .ok s!"Generation session reset (seed={← seed.text})"

end JavaFragments.Session
