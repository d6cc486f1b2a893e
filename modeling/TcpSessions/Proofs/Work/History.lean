import TcpSessions.Work.Environment
/-!
# The history of a run

`World.moments` are the situations that a history keeps, the present one first. `Released` and
`Attempted` say of a socket that a close of it returned, or was at least entered.
-/
namespace TcpSessions

variable {ω : Type}

/-- The situation that an event keeps. -/
def Event.situation? : Event → Option Situation
  | .entered _ _ now | .left _ _ now | @answered now _ => some now
  | .noticed _ => none

/-- The situations at which a call was entered or left or a request was answered, latest first,
after the present one. -/
def World.moments (w : World ω) : List Situation := w.now :: w.past.filterMap Event.situation?

/-- Whether a token is set; no token never is. -/
def Situation.isSet (s : Situation) (token : Option TokenId) : Bool :=
  token.any fun t => s.cancelled.contains t

/-- Whether an event enters a close of a socket. -/
def Event.attemptsClose (socket : Socket) : Event → Bool
  | .entered (.close s) _ _ => s = socket
  | _ => false

/-- Whether an event is the return of a close of a socket. -/
def Event.closes (socket : Socket) : Event → Bool
  | .left (.close s) (.ok _) _ => s = socket
  | _ => false

/-- The descriptor of a socket that a factory returned. -/
def Event.descriptor? : Event → Option Int
  | .left (.createSocket _) (.ok d) _ => some d
  | _ => none

/-- A close of the socket was entered. -/
def Attempted (past : List Event) (socket : Socket) : Prop := ∃ e ∈ past, e.attemptsClose socket

/-- A close of the socket returned. -/
def Released (past : List Event) (socket : Socket) : Prop := ∃ e ∈ past, e.closes socket

instance (past : List Event) (socket : Socket) : Decidable (Released past socket) :=
  inferInstanceAs (Decidable (∃ e ∈ past, e.closes socket = true))

section
variable {past past' : List Event} {socket : Socket} {e : Event}

theorem Attempted.mono (hs : past <:+ past') (h : Attempted past socket) :
    Attempted past' socket := by
  obtain ⟨e, he, hc⟩ := h
  exact ⟨e, hs.subset he, hc⟩

theorem Released.mono (hs : past <:+ past') (h : Released past socket) : Released past' socket := by
  obtain ⟨e, he, hc⟩ := h
  exact ⟨e, hs.subset he, hc⟩

theorem released_cons :
    Released (e :: past) socket ↔ e.closes socket = true ∨ Released past socket := by
  simp [Released]

theorem attempted_cons :
    Attempted (e :: past) socket ↔ e.attemptsClose socket = true ∨ Attempted past socket := by
  simp [Attempted]

end

/-- Whether a reply changes what a session owns: a new socket, or a socket closed. -/
def Call.settles : (c : Call) → Except Failure c.Reply → Bool
  | .createSocket _, .ok _ => true
  | .close _, .ok _ => true
  | _, _ => false

/-- Whether a call is one that an open may start only while its token is not set. -/
def Call.startsAttempt : Call → Bool
  | .createSocket _ | .connect .. => true
  | _ => false

/-! ## What is nested in calls -/

/-- The requests of a run: those to the manager, and those to the tokens that its opens obey. -/
def Request.OfManager : Request → Prop
  | .operation _ | .shutdown | .token .. => True
  | _ => False

/-- The requests that leave every session alone. -/
def Request.OfToken : Request → Prop
  | .token .. => True
  | _ => False

instance : DecidablePred Request.OfManager
  | .operation _ | .shutdown | .token .. => isTrue trivial
  | .table _ | .session .. | .lookup _ => isFalse id

instance : DecidablePred Request.OfToken
  | .token .. => isTrue trivial
  | .operation _ | .shutdown | .table _ | .session .. | .lookup _ => isFalse id

namespace Environment

variable {env : Environment ω}

/-- The requests nested in calls all have a property. -/
def Nests (env : Environment ω) (P : Request → Prop) : Prop :=
  ∀ c o, ∀ q ∈ (env.react c o).nested, P q

/-- No operation is nested in a call; tokens may change during it. -/
def Quiet (env : Environment ω) : Prop := env.Nests Request.OfToken

theorem Quiet.nests (h : env.Quiet) : env.Nests Request.OfManager := by
  intro c o q hq
  cases q with
  | token t r => trivial
  | _ => exact (h c o _ hq).elim

/-- The environment that only nests requests with a property. -/
def nesting (env : Environment ω) (P : Request → Prop) [DecidablePred P] : Environment ω where
  react c o := { env.react c o with nested := (env.react c o).nested.filter (P ·) }

theorem nesting_nests (env : Environment ω) (P : Request → Prop) [DecidablePred P] :
    (env.nesting P).Nests P := by
  intro c o q hq
  simpa using (List.mem_filter.1 hq).2

end Environment

/-! ## Changes of a world -/

/-- The world with one more event. -/
def World.push (w : World ω) (e : Event) : World ω := { w with past := e :: w.past }

/-- The world with another registry. -/
def World.setRegistry (w : World ω) (r : Registry) : World ω :=
  { w with now := { w.now with registry := r } }

end TcpSessions
