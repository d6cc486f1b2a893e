import TcpSessions.Proofs.Work.Quiet
/-!
# The calls on one socket

`socketCalls` reads the calls on a socket, with the way each of them ended, off the history.
`Disciplined` is the order that they should keep: one option at most, then connects, then closes,
each repeated only after a failure. It follows from what may come before what, call by call
(`SocketCall.MayPrecede`).
-/
namespace TcpSessions

open World

variable {ω : Type}

/-- How a call has ended so far. -/
inductive CallEnd
  | running
  | returned
  | failed (failure : Failure)

/-- A call, and how it has ended so far. -/
structure SocketCall where
  call : Call
  ending : CallEnd

/-- The socket that a call is made on. -/
def Call.socket? : Call → Option Socket
  | .setInline s | .connect s _ | .close s => some s
  | _ => none

def Call.isOption : Call → Bool
  | .setInline _ => true
  | _ => false

def Call.isConnect : Call → Bool
  | .connect .. => true
  | _ => false

def Call.isClose : Call → Bool
  | .close _ => true
  | _ => false

/-- The end of a call that was answered. -/
def CallEnd.of {ρ : Type} : Except Failure ρ → CallEnd
  | .ok _ => .returned
  | .error f => .failed f

def CallEnd.isRunning : CallEnd → Bool
  | running => true
  | _ => false

def CallEnd.isReturned : CallEnd → Bool
  | returned => true
  | _ => false

/-- The calls after the latest one of a kind that is running has ended. -/
def settle (c : Call) (e : CallEnd) : List SocketCall → List SocketCall
  | [] => []
  | d :: earlier =>
    if d.call = c ∧ d.ending.isRunning then ⟨c, e⟩ :: earlier else d :: settle c e earlier

/-- The calls on a socket, latest first. -/
def socketCalls (socket : Socket) : List Event → List SocketCall
  | [] => []
  | .entered c _ _ :: past =>
    if c.socket? = some socket then ⟨c, .running⟩ :: socketCalls socket past
    else socketCalls socket past
  | .left c reply _ :: past =>
    if c.socket? = some socket then settle c (.of reply) (socketCalls socket past)
    else socketCalls socket past
  | _ :: past => socketCalls socket past

/-- The order of the calls on a socket, earliest first. -/
def Disciplined (calls : List SocketCall) : Prop :=
  ∃ options connects closes, calls = options ++ connects ++ closes ∧
    options.length ≤ 1 ∧ (∀ d ∈ options, d.call.isOption) ∧
    (∀ d ∈ connects, d.call.isConnect) ∧ (∀ d ∈ closes, d.call.isClose) ∧
    (∀ d ∈ connects.dropLast, ∃ f, d.ending = .failed f ∧ f.isSystem) ∧
    ∀ d ∈ closes.dropLast, ∃ f, d.ending = .failed f

/-! ## Reading the history -/

section
variable {socket : Socket} {past : List Event}

theorem socketCalls_answers {answers : List Event} (ha : ∀ e ∈ answers, e.isAnswer = true) :
    socketCalls socket (answers ++ past) = socketCalls socket past := by
  induction answers with
  | nil => rfl
  | cons e answers ih =>
    have he := ha e (by simp)
    have ih := ih fun e he => ha e (by simp [he])
    cases e with
    | answered answer => exact ih
    | _ => cases he

theorem socketCalls_notices (notices : List Notice) :
    socketCalls socket (notices.map Event.noticed ++ past) = socketCalls socket past := by
  induction notices with
  | nil => rfl
  | cons n notices ih => exact ih

theorem socket?_of_mem_socketCalls {d : SocketCall} :
    ∀ {past : List Event}, d ∈ socketCalls socket past → d.call.socket? = some socket := by
  have of_settle : ∀ {c e} {calls : List SocketCall}, c.socket? = some socket →
      (∀ d ∈ calls, d.call.socket? = some socket) →
      ∀ d ∈ settle c e calls, d.call.socket? = some socket := by
    intro c e calls hc hall
    induction calls with
    | nil => simp [settle]
    | cons d calls ih =>
      unfold settle
      split
      · simpa [hc] using fun d hd => hall d (by simp [hd])
      · simpa [hall d] using ih fun d hd => hall d (by simp [hd])
  suffices ∀ past, ∀ d ∈ socketCalls socket past, d.call.socket? = some socket from
    fun {past} hd => this past d hd
  intro past
  induction past with
  | nil => simp [socketCalls]
  | cons e past ih =>
    cases e with
    | entered c token now =>
      unfold socketCalls
      split
      · rename_i hc
        simpa [hc] using ih
      · exact ih
    | left c reply now =>
      unfold socketCalls
      split
      · rename_i hc
        exact of_settle hc ih
      · exact ih
    | _ => exact ih

end

theorem map_call_settle (c : Call) (e : CallEnd) (calls : List SocketCall) :
    (settle c e calls).map (·.call) = calls.map (·.call) := by
  induction calls with
  | nil => rfl
  | cons d calls ih =>
    unfold settle
    split
    · rename_i hd
      simp [hd.1]
    · simp [ih]

/-- A close that was entered is among the calls on its socket. -/
theorem Attempted.mem_socketCalls {socket : Socket} {past : List Event}
    (h : Attempted past socket) :
    .close socket ∈ (socketCalls socket past).map (·.call) := by
  induction past with
  | nil => simp [Attempted] at h
  | cons e past ih =>
    rcases attempted_cons.1 h with he | h
    · cases e with
      | entered c token now =>
        cases c <;> simp [Event.attemptsClose] at he
        subst he
        simp [socketCalls, Call.socket?]
      | _ => simp [Event.attemptsClose] at he
    · have ih := ih h
      cases e with
      | entered c token now =>
        unfold socketCalls
        split
        · exact List.mem_cons_of_mem _ ih
        · exact ih
      | left c reply now =>
        unfold socketCalls
        split
        · rwa [map_call_settle]
        · exact ih
      | _ => exact ih

section
variable {env : Environment ω} {token : Option TokenId} {c : Call} {w w' : World ω}
variable {socket : Socket}

theorem World.Entered.socketCalls_eq (hc : w.Entered token c w') (socket : Socket) :
    socketCalls socket w'.past =
    if c.socket? = some socket then ⟨c, .running⟩ :: socketCalls socket w.past
    else socketCalls socket w.past := by
  obtain ⟨answers, hp, ha⟩ := hc.past
  rw [hp, socketCalls_answers ha]
  rfl

theorem World.Called.socketCalls_eq {reply : Except Failure c.Reply}
    (hc : w.Called env token c reply w') (socket : Socket) : socketCalls socket w'.past =
      if c.socket? = some socket then ⟨c, .of reply⟩ :: socketCalls socket w.past
      else socketCalls socket w.past := by
  obtain ⟨answers, hp, ha⟩ := hc.past
  rw [hp]
  simp only [socketCalls, socketCalls_answers ha]
  split <;> simp [settle, CallEnd.isRunning]

end

/-! ## What may come before what -/

/-- What a call on a socket allows to be called on it later: options come first, a connect is only
repeated after the system refused it, a close only after it failed. -/
def SocketCall.MayPrecede (earlier later : SocketCall) : Prop :=
  match earlier.call, later.call with
  | _, .setInline _ => False
  | .setInline _, _ => True
  | .connect .., .connect .. => ∃ f, earlier.ending = .failed f ∧ f.isSystem
  | .connect .., .close _ => True
  | .close _, .close _ => ∃ f, earlier.ending = .failed f
  | _, _ => False

namespace SocketCall

variable {d e : SocketCall}

theorem MayPrecede.not_isOption (h : d.MayPrecede e) : e.call.isOption = false := by
  unfold MayPrecede at h
  cases he : e.call with
  | setInline s => rw [he] at h; cases hd : d.call <;> simp at h
  | _ => rfl

theorem MayPrecede.system (h : d.MayPrecede e) (hd : d.call.isConnect) (he : e.call.isConnect) :
    ∃ f, d.ending = .failed f ∧ f.isSystem := by
  unfold MayPrecede at h
  cases hc : d.call <;> simp [hc, Call.isConnect] at hd
  cases hc' : e.call <;> simp [hc', Call.isConnect] at he
  simpa [hc, hc'] using h

theorem MayPrecede.after_close (h : d.MayPrecede e) (hd : d.call.isClose) :
    e.call.isClose ∧ ∃ f, d.ending = .failed f := by
  unfold MayPrecede at h
  cases hc : d.call <;> simp [hc, Call.isClose] at hd
  cases hc' : e.call <;> simp_all [Call.isClose]

theorem mayPrecede_of_isClose (he : e.call.isClose) (hd : d.call.socket?.isSome)
    (hf : d.call.isClose → ∃ f, d.ending = .failed f) : d.MayPrecede e := by
  unfold MayPrecede
  cases hc' : e.call <;> simp [hc', Call.isClose] at he
  cases hc : d.call <;> simp_all [Call.isClose, Call.socket?]

/-- What may be followed by a connect or by giving up the candidate. -/
structure Vain (d : SocketCall) : Prop where
  not_close : d.call.isClose = false
  refused : d.call.isConnect → ∃ f, d.ending = .failed f ∧ f.isSystem

theorem Vain.mayPrecede (h : d.Vain) (he : e.call.isConnect) (hd : d.call.socket?.isSome) :
    d.MayPrecede e := by
  have hnot := h.not_close
  have hrefused := h.refused
  unfold MayPrecede
  cases hc' : e.call <;> simp [hc', Call.isConnect] at he
  cases hc : d.call <;> simp_all [Call.isClose, Call.isConnect, Call.socket?]

end SocketCall

theorem disciplined_nil : Disciplined [] := ⟨[], [], [], by simp⟩

/-- Calls that may come one after another keep the order. -/
theorem disciplined_of_pairwise {calls : List SocketCall}
    (hs : ∀ d ∈ calls, d.call.socket?.isSome) (h : calls.Pairwise SocketCall.MayPrecede) :
    Disciplined calls := by
  induction calls with
  | nil => exact disciplined_nil
  | cons d calls ih =>
    obtain ⟨hd, htail⟩ := List.pairwise_cons.1 h
    obtain ⟨options, connects, closes, rfl, hlen, ho, hc, hx, hcs, hxs⟩ :=
      ih (fun e he => hs e (by simp [he])) htail
    -- only the first call can be an option
    have hnone : options = [] := by
      cases options with
      | nil => rfl
      | cons e options =>
        have he := (hd e (by simp)).not_isOption
        rw [ho e (by simp)] at he
        cases he
    subst hnone
    cases hcall : d.call with
    | setInline s =>
      exact ⟨[d], connects, closes, by simp, by simp, by simp [hcall, Call.isOption], hc, hx, hcs,
        hxs⟩
    | connect s address =>
      have hdc : d.call.isConnect := by simp [hcall, Call.isConnect]
      refine ⟨[], d :: connects, closes, by simp, by simp, by simp, by simpa [hdc] using hc, hx,
        ?_, hxs⟩
      cases connects with
      | nil => simp
      | cons e connects =>
        have hdf := (hd e (by simp)).system hdc (hc e (by simp))
        simpa [hdf] using hcs
    | close s =>
      have hdc : d.call.isClose := by simp [hcall, Call.isClose]
      have hnone : connects = [] := by
        cases connects with
        | nil => rfl
        | cons e connects =>
          have he := ((hd e (by simp)).after_close hdc).1
          have hec := hc e (by simp)
          cases hce : e.call <;> simp [hce, Call.isClose, Call.isConnect] at he hec
      subst hnone
      refine ⟨[], [], d :: closes, by simp, by simp, by simp, by simp, by simpa [hdc] using hx,
        by simp, ?_⟩
      cases closes with
      | nil => simp
      | cons e closes =>
        have hdf := ((hd e (by simp)).after_close hdc).2
        simpa [hdf] using hxs
    | _ => simp [hcall, Call.socket?] at hs

end TcpSessions
