import TcpSessions.Manager.Basic
/-!
# Closing sessions

Closing keeps the record, removing and closing by handle drop it from the table, and tearing down
does so for every session. A failed close leaves the session as it was, so that it can be retried.

| here | `application.connection_manager` |
| --- | --- |
| `closeSession`, `removeSession` | `ConnectionManager.close`, `.remove` |
| `closeByHandle` | `.close_by_handle` |
| `teardownAll`, by `drain` | `.teardown_all` |
| `shutdown` | `RuntimeContext.shutdown` in `runtime.bootstrap` |
-/
namespace TcpSessions.Manager

variable {ω : Type}

/-- Closes the socket of a session without forgetting the record. -/
def closeSession (h : Host ω) (ref : SessionRef) : Act ω Unit := do
  let s ← Act.session ref
  match s.handle, s.socket with
  | some handle, some socket =>
    match ← h.call none (.close socket) with
    | .error f =>
      if f.isSystem then
        Act.notice (.closeFailed handle.number f.reason.errno?)
        Act.fail (.backed (.closing handle.number ·) (some f.errnoOr) (some f))
      else Act.fail f
    | .ok () =>
      Act.changeSession ref fun s => .ok s.markClosed
      Act.notice (.closed handle.number)
  | _, _ => Act.fail (.of .notOpen)

def untrack (ref : SessionRef) : Act ω Bool := Act.onRegistry fun r => r.remove ref

/-- Closes a session when it is still open, then drops it from the table. -/
def removeSession (h : Host ω) (ref : SessionRef) : Act ω Bool := do
  if (← Act.session ref).isOpen then closeSession h ref
  untrack ref

/-- Closes the session that owns a handle and drops it from the table even when the close fails.
A protected session is refused without force. -/
def closeByHandle (h : Host ω) (handle : Int) (force : Bool) : Act ω Unit := do
  match (← Act.registry).findByHandle? handle with
  | none => Act.fail (.of (.handleNotFound handle))
  | some ref =>
    if (← Act.session ref).isProtected && !force then
      Act.fail (.of (.protectedHandle handle))
    else
      let result ← Act.attempt (closeSession h ref)
      let _ ← untrack ref
      Act.ofExcept result

/-- Closes one session of a teardown; a close that fails is only noticed. -/
def closeForTeardown (h : Host ω) (ref : SessionRef) : Act ω Unit := do
  if (← Act.session ref).isOpen then
    match ← Act.attempt (closeSession h ref) with
    | .ok () => return ()
    | .error f =>
      match f.reason with
      | .closing handle errno => Act.notice (.droppedAfterFailedClose handle errno)
      | _ => Act.fail f

/-- Closes and drops sessions in order; answers how many of them were still tracked. -/
def drain (h : Host ω) : List SessionRef → Act ω Nat
  | [] => return 0
  | ref :: rest => do
    closeForTeardown h ref
    let dropped ← untrack ref
    let others ← drain h rest
    return (if dropped then 1 else 0) + others

/-- Closes and drops every tracked session, protected or not. -/
def teardownAll (h : Host ω) : Act ω Nat := do
  let removed ← drain h (← Act.registry).table.refs
  if removed ≠ 0 then Act.notice (.tornDown removed)
  return removed

def shutdown (h : Host ω) : Act ω Nat := do
  let removed ← teardownAll h
  Act.notice (.shutDown removed)
  return removed

end TcpSessions.Manager
