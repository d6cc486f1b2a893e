import Mathlib.Data.List.Forall2
import TcpSessions.Work.Perform
import TcpSessions.Proofs.Work.Calls
import TcpSessions.Proofs.Work.SocketCalls
/-!
# Work that goes alike

Two pieces of work go alike for a relation between worlds if from related worlds they end in the
same way and leave related worlds (`Act.Alike`). Two hosts whose calls go alike carry out requests
alike (`Host.Alike.serve`); how they open sessions is left to be shown, since that is where two
managers may differ.
-/
namespace TcpSessions

variable {ω ω' α β : Type} {R : World ω → World ω' → Prop}

namespace Act

variable {a : Act ω α} {a' : Act ω' α}

/-- From related worlds the two pieces of work end in the same way, in related worlds. -/
def Alike (R : World ω → World ω' → Prop) (a : Act ω α) (a' : Act ω' α) : Prop :=
  ∀ w w', R w w' → (a w).1 = (a' w').1 ∧ R (a w).2 (a' w').2

/-! ## Rules -/

theorem alike_pure (x : α) : Alike R (pure x) (pure x) := fun _ _ h => ⟨rfl, h⟩

theorem alike_fail (f : Failure) : Alike R (fail f : Act ω α) (fail f) := fun _ _ h => ⟨rfl, h⟩

theorem alike_stall : Alike R (stall : Act ω α) stall := fun _ _ h => ⟨rfl, h⟩

theorem alike_ofExcept (r : Except Failure α) : Alike R (ofExcept r) (ofExcept r) := by
  cases r with
  | ok x => exact alike_pure x
  | error f => exact alike_fail f

theorem Alike.bind {k : α → Act ω β} {k' : α → Act ω' β} (ha : Alike R a a')
    (hk : ∀ x, Alike R (k x) (k' x)) : Alike R (a >>= k) (a' >>= k') := by
  intro w w' h
  obtain ⟨ho, hr⟩ := ha w w' h
  rcases hw : a w with ⟨o, u⟩
  rcases hw' : a' w' with ⟨o', u'⟩
  rw [hw, hw'] at ho hr
  obtain rfl : o = o' := ho
  cases o with
  | returned x =>
    rw [bind_eq hw, bind_eq hw']
    exact hk x u u' hr
  | failed f =>
    rw [bind_failed hw, bind_failed hw']
    exact ⟨rfl, hr⟩
  | stalled =>
    rw [bind_stalled hw, bind_stalled hw']
    exact ⟨rfl, hr⟩

theorem Alike.attempt (ha : Alike R a a') : Alike R (attempt a) (attempt a') := by
  intro w w' h
  obtain ⟨ho, hr⟩ := ha w w' h
  rcases hw : a w with ⟨o, u⟩
  rcases hw' : a' w' with ⟨o', u'⟩
  rw [hw, hw'] at ho hr
  obtain rfl : o = o' := ho
  cases o with
  | returned x =>
    rw [attempt_returned hw, attempt_returned hw']
    exact ⟨rfl, hr⟩
  | failed f =>
    rw [attempt_failed hw, attempt_failed hw']
    exact ⟨rfl, hr⟩
  | stalled =>
    rw [attempt_stalled hw, attempt_stalled hw']
    exact ⟨rfl, hr⟩

/-- Work that is done on the very same world goes alike if it is the same work. -/
theorem alike_eq_iff {a a' : Act ω α} : Alike Eq a a' ↔ a = a' := by
  constructor
  · intro h
    funext w
    obtain ⟨ho, hw⟩ := h w w rfl
    exact Prod.ext ho hw
  · rintro rfl w w' rfl
    exact ⟨rfl, rfl⟩

end Act

open Act

/-- Related worlds know the same, and stay related when the same happens in both apart from calls:
notices, answers, changes of the registry and of the tokens. -/
structure World.Parallel (R : World ω → World ω' → Prop) : Prop where
  now : ∀ w w', R w w' → w.now = w'.now
  notice : ∀ n w w', R w w' → R (w.push (.noticed n)) (w'.push (.noticed n))
  answered : ∀ now answer w w', R w w' →
    R (w.push (@Event.answered now answer)) (w'.push (@Event.answered now answer))
  registry : ∀ r w w', R w w' → R (w.setRegistry r) (w'.setRegistry r)
  tokens : ∀ ts w w', R w w' → R { w with now := { w.now with cancelled := ts } }
    { w' with now := { w'.now with cancelled := ts } }

/-- Every world knows what it knows itself. -/
theorem World.parallel_eq : World.Parallel (Eq : World ω → World ω → Prop) := by
  constructor
  all_goals
    intros
    subst_vars
    rfl

namespace World.Parallel

variable (hp : World.Parallel R)

include hp

/-- Work that only looks at what is known. -/
theorem alike_of_reads {a : Act ω α} {a' : Act ω' α} (read : Situation → Outcome α)
    (ha : ∀ w, a w = (read w.now, w)) (ha' : ∀ w, a' w = (read w.now, w)) : Alike R a a' := by
  intro w w' h
  rw [ha, ha', hp.now w w' h]
  exact ⟨rfl, h⟩

theorem alike_registry : Alike R (Act.registry : Act ω Registry) Act.registry :=
  hp.alike_of_reads (fun s => .returned s.registry) (fun _ => rfl) fun _ => rfl

theorem alike_situation : Alike R (Act.situation : Act ω Situation) Act.situation :=
  hp.alike_of_reads .returned (fun _ => rfl) fun _ => rfl

theorem alike_isCancelled (token : Option TokenId) :
    Alike R (Act.isCancelled token : Act ω Bool) (Act.isCancelled token) :=
  hp.alike_of_reads (fun s => .returned (s.isSet token)) (fun _ => rfl) fun _ => rfl

theorem alike_session (ref : SessionRef) :
    Alike R (Act.session ref : Act ω Session) (Act.session ref) := by
  have hread : ∀ {ω : Type} (w : World ω), Act.session ref w = ((w.now.registry.get? ref).elim
      (.failed (.of (.noSuchSession (ref.index + 1)))) .returned, w) := by
    intro ω w
    cases hx : w.now.registry.get? ref with
    | some x => exact session_some hx
    | none => exact session_none hx
  exact hp.alike_of_reads
    (fun s => (s.registry.get? ref).elim (.failed (.of (.noSuchSession (ref.index + 1)))) .returned)
    hread hread

theorem alike_notice (n : Notice) : Alike R (Act.notice n : Act ω Unit) (Act.notice n) :=
  fun w w' h => ⟨rfl, hp.notice n w w' h⟩

theorem alike_onRegistry (f : Registry → α × Registry) :
    Alike R (Act.onRegistry f : Act ω α) (Act.onRegistry f) := by
  intro w w' h
  have hnow : w'.now.registry = w.now.registry := by rw [hp.now w w' h]
  refine ⟨?_, ?_⟩
  · show Outcome.returned (f w.now.registry).1 = .returned (f w'.now.registry).1
    rw [hnow]
  · show R (w.setRegistry (f w.now.registry).2) (w'.setRegistry (f w'.now.registry).2)
    rw [hnow]
    exact hp.registry _ w w' h

theorem alike_changeSession (ref : SessionRef) (f : Session → Except LifecycleError Session) :
    Alike R (Act.changeSession ref f : Act ω Unit) (Act.changeSession ref f) := by
  refine (hp.alike_session ref).bind fun x => ?_
  cases f x with
  | ok y => exact hp.alike_onRegistry _
  | error e => exact alike_fail _

theorem alike_nth (n : Int) : Alike R (Act.nth n : Act ω SessionRef) (Act.nth n) := by
  refine hp.alike_registry.bind fun r => ?_
  split
  · exact alike_pure _
  · exact alike_fail _

theorem alike_untrack (ref : SessionRef) :
    Alike R (Manager.untrack ref : Act ω Bool) (Manager.untrack ref) :=
  hp.alike_onRegistry _

theorem alike_token (t : TokenId) (r : TokenRequest) :
    Alike R (r.serve t : Act ω Answer) (r.serve t) := by
  have hset : ∀ {w w'}, R w w' → ∀ ts : Situation → List TokenId,
      R { w with now := { w.now with cancelled := ts w.now } }
        { w' with now := { w'.now with cancelled := ts w'.now } } := by
    intro w w' h ts
    have hts : ts w'.now = ts w.now := by rw [hp.now w w' h]
    rw [hts]
    exact hp.tokens _ w w' h
  cases r with
  | cancel => exact fun _ _ h => ⟨rfl, hset h fun s => t :: s.cancelled⟩
  | reset => exact fun _ _ h => ⟨rfl, hset h fun s => s.cancelled.filter (· ≠ t)⟩
  | isCancelled => exact (hp.alike_isCancelled (some t)).bind fun _ => alike_pure _
  | interrupt => exact fun _ _ h => ⟨rfl, hset h fun s => t :: s.cancelled⟩

/-- Nested requests that go alike one by one go alike one after another. -/
theorem alike_runNested {h : Host ω} {h' : Host ω'} {S : Request → Request → Prop}
    (hn : ∀ q q', S q q' → Alike R (h.nested q) (h'.nested q')) {qs qs' : List Request}
    (hqs : List.Forall₂ S qs qs') : Alike R (h.runNested qs) (h'.runNested qs') := by
  induction hqs with
  | nil => exact alike_pure ()
  | cons hq _ ih =>
    rw [Host.runNested_cons, Host.runNested_cons]
    refine (hn _ _ hq).attempt.bind fun answer => hp.alike_situation.bind fun now => ?_
    exact Alike.bind (fun w w' h => ⟨rfl, hp.answered now answer w w' h⟩) fun _ => ih

end World.Parallel

/-- Calls go alike if they are entered alike, what is nested in them goes alike, and the same reply
is given. -/
theorem Host.alike_call {h : Host ω} {h' : Host ω'} {token : Option TokenId} {c : Call}
    (hentered : ∀ w w', R w w' → R (h.entering token c w) (h'.entering token c w'))
    (hnested : ∀ w w', R w w' → Alike R (h.runNested (h.environment.react c w.outside).nested)
      (h'.runNested (h'.environment.react c w'.outside).nested))
    (hleft : ∀ w w' v v', R w w' → R v v' →
      ((h.environment.react c w.outside).answer v.outside).1 =
        ((h'.environment.react c w'.outside).answer v'.outside).1 ∧
      ∀ reply, R ((replying (h.environment.react c w.outside) v).push (.left c reply v.now))
        ((replying (h'.environment.react c w'.outside) v').push (.left c reply v'.now))) :
    Alike R (h.call token c) (h'.call token c) := by
  intro w w' hw
  obtain ⟨ho, hv⟩ := hnested w w' hw _ _ (hentered w w' hw)
  rcases hrun : h.runNested (h.environment.react c w.outside).nested (h.entering token c w)
    with ⟨o, v⟩
  rcases hrun' : h'.runNested (h'.environment.react c w'.outside).nested (h'.entering token c w')
    with ⟨o', v'⟩
  rw [hrun, hrun'] at ho hv
  obtain rfl : o = o' := ho
  cases o with
  | returned x =>
    obtain ⟨hreply, hworld⟩ := hleft w w' v v' hw hv
    rw [call_of_returned hrun, call_of_returned hrun', ← hreply]
    exact ⟨rfl, hworld _⟩
  | failed f =>
    rw [call_eq, call_eq, bind_failed hrun, bind_failed hrun']
    exact ⟨rfl, hv⟩
  | stalled =>
    rw [call_of_stalled hrun, call_of_stalled hrun']
    exact ⟨rfl, hv⟩

/-- Two hosts whose calls go alike; the option of sockets is left out. -/
structure Host.Alike (h : Host ω) (h' : Host ω') (R : World ω → World ω' → Prop) : Prop where
  parallel : World.Parallel R
  patience : h.patience = h'.patience
  call : ∀ token c, c.isOption = false → Act.Alike R (h.call token c) (h'.call token c)

namespace Host.Alike

variable {h : Host ω} {h' : Host ω'} {m m' : Manager} (ha : h.Alike h' R)

include ha

/-! ## Closing -/

theorem closeSession (ref : SessionRef) :
    Act.Alike R (Manager.closeSession h ref) (Manager.closeSession h' ref) := by
  unfold Manager.closeSession
  refine (ha.parallel.alike_session ref).bind fun x => ?_
  split
  · refine (ha.call none _ rfl).bind fun reply => ?_
    cases reply with
    | error f =>
      dsimp only
      split
      · exact (ha.parallel.alike_notice _).bind fun _ => alike_fail _
      · exact alike_fail f
    | ok u => exact (ha.parallel.alike_changeSession ref _).bind fun _ => ha.parallel.alike_notice _
  · exact alike_fail _

theorem removeSession (ref : SessionRef) :
    Act.Alike R (Manager.removeSession h ref) (Manager.removeSession h' ref) := by
  unfold Manager.removeSession
  refine (ha.parallel.alike_session ref).bind fun x => ?_
  split
  · exact (ha.closeSession ref).bind fun _ => ha.parallel.alike_untrack ref
  · exact ha.parallel.alike_untrack ref

theorem closeByHandle (handle : Int) (force : Bool) :
    Act.Alike R (Manager.closeByHandle h handle force) (Manager.closeByHandle h' handle force) := by
  unfold Manager.closeByHandle
  refine ha.parallel.alike_registry.bind fun r => ?_
  split
  · exact alike_fail _
  · rename_i ref _
    refine (ha.parallel.alike_session ref).bind fun x => ?_
    split
    · exact alike_fail _
    · exact (ha.closeSession ref).attempt.bind fun result =>
        (ha.parallel.alike_untrack ref).bind fun _ => alike_ofExcept result

theorem closeForTeardown (ref : SessionRef) :
    Act.Alike R (Manager.closeForTeardown h ref) (Manager.closeForTeardown h' ref) := by
  unfold Manager.closeForTeardown
  refine (ha.parallel.alike_session ref).bind fun x => ?_
  split
  · refine (ha.closeSession ref).attempt.bind fun result => ?_
    cases result with
    | ok u => exact alike_pure ()
    | error f =>
      dsimp only
      split
      · exact ha.parallel.alike_notice _
      · exact alike_fail f
  · exact alike_pure ()

theorem drain : ∀ refs, Act.Alike R (Manager.drain h refs) (Manager.drain h' refs)
  | [] => alike_pure 0
  | ref :: rest =>
    (ha.closeForTeardown ref).bind fun _ => (ha.parallel.alike_untrack ref).bind fun _ =>
      (drain rest).bind fun _ => alike_pure _

theorem teardownAll : Act.Alike R (Manager.teardownAll h) (Manager.teardownAll h') := by
  unfold Manager.teardownAll
  refine ha.parallel.alike_registry.bind fun r => (ha.drain _).bind fun removed => ?_
  dsimp only
  split
  · exact (ha.parallel.alike_notice _).bind fun _ => alike_pure removed
  · exact alike_pure removed

theorem shutdown : Act.Alike R (Manager.shutdown h) (Manager.shutdown h') :=
  ha.teardownAll.bind fun _ => (ha.parallel.alike_notice _).bind fun _ => alike_pure _

/-! ## Lookups and listings -/

theorem lookupResolve (token : Option TokenId) (name : String) (family : Family) :
    Act.Alike R (Lookup.resolve h token name family) (Lookup.resolve h' token name family) := by
  unfold Lookup.resolve
  split
  · exact alike_pure _
  · refine (ha.call token _ rfl).bind fun reply => ?_
    cases reply with
    | error f =>
      dsimp only
      split
      · exact (ha.parallel.alike_notice _).bind fun _ => alike_fail _
      · exact alike_fail f
    | ok infos =>
      refine (alike_ofExcept _).bind fun found => ?_
      split
      · exact alike_fail _
      · exact (ha.parallel.alike_notice _).bind fun _ => alike_pure found

theorem lookupReverse (bytes : Address.Bytes) (family : Family) :
    Act.Alike R (Lookup.reverse h bytes family) (Lookup.reverse h' bytes family) := by
  unfold Lookup.reverse
  split
  · exact alike_pure none
  · refine (ha.call none _ rfl).bind fun reply => ?_
    cases reply with
    | ok name => exact alike_pure name
    | error f =>
      dsimp only
      split
      · exact alike_pure none
      · exact alike_fail f

section
variable (hl : m.lookup = m'.lookup)

include hl

theorem resolve (token : Option TokenId) (host : String) (family : Family) :
    Act.Alike R (m.resolve h token host family) (m'.resolve h' token host family) := by
  unfold Manager.resolve
  rw [← hl]
  cases m.lookup with
  | system => exact ha.lookupResolve token host family
  | external => exact (ha.call token _ rfl).bind fun reply => alike_ofExcept reply

theorem reverse (address : Address) :
    Act.Alike R (m.reverse h address) (m'.reverse h' address) := by
  unfold Manager.reverse
  rw [← hl]
  cases m.lookup with
  | system => exact ha.lookupReverse _ _
  | external => exact (ha.call none _ rfl).bind fun reply => alike_ofExcept reply

theorem listingOf (ref : SessionRef) :
    Act.Alike R (m.listingOf h ref) (m'.listingOf h' ref) := by
  unfold Manager.listingOf
  refine (ha.parallel.alike_session ref).bind fun x => ?_
  split
  · exact (ha.parallel.alike_session ref).bind fun _ => alike_pure _
  · rename_i peer _
    exact (ha.reverse hl peer.address).bind fun _ =>
      (ha.parallel.alike_session ref).bind fun _ => alike_pure _

theorem listingsOf : ∀ refs, Act.Alike R (m.listingsOf h refs) (m'.listingsOf h' refs)
  | [] => alike_pure []
  | ref :: rest => by
    unfold Manager.listingsOf
    refine (ha.parallel.alike_session ref).bind fun x => ?_
    split
    · exact (ha.listingOf hl ref).bind fun _ => (listingsOf rest).bind fun _ => alike_pure _
    · exact listingsOf rest

/-! ## Opening -/

theorem candidatesOf (token : Option TokenId) (host : String) (family : Family) :
    Act.Alike R (m.candidatesOf h token host family) (m'.candidatesOf h' token host family) := by
  unfold Manager.candidatesOf
  refine (ha.resolve hl token host family).attempt.bind fun result => ?_
  cases result with
  | error f =>
    dsimp only
    split
    · exact alike_fail _
    · exact alike_fail f
  | ok candidates =>
    refine (ha.parallel.alike_isCancelled token).bind fun b => ?_
    split
    · exact alike_fail _
    · exact alike_pure candidates

end

theorem connectSocket (token : Option TokenId) (socket : Socket) (peer : Peer) :
    ∀ patience, Act.Alike R (Manager.connectSocket h token socket peer patience)
      (Manager.connectSocket h' token socket peer patience)
  | 0 => alike_stall
  | patience + 1 => by
    unfold Manager.connectSocket
    refine (ha.call token _ rfl).bind fun reply => ?_
    cases reply with
    | ok u => exact alike_pure _
    | error f =>
      dsimp only
      split
      · refine (ha.parallel.alike_isCancelled token).bind fun b => ?_
        split
        · exact alike_pure _
        · exact connectSocket token socket peer patience
      · exact alike_pure _

theorem connectSession (token : Option TokenId) (ref : SessionRef) (peer : Peer) :
    Act.Alike R (Manager.connectSession h token ref peer)
      (Manager.connectSession h' token ref peer) := by
  unfold Manager.connectSession
  refine (ha.parallel.alike_session ref).bind fun x => ?_
  split
  · exact alike_fail _
  · rw [← ha.patience]
    exact ha.connectSocket token _ peer h.patience

theorem failCancelled (ref : SessionRef) (host : String) (peer : Peer) (errno : Int)
    (cause : Option Failure) :
    Act.Alike R (Manager.failCancelled ref host peer errno cause : Act ω α)
      (Manager.failCancelled ref host peer errno cause) :=
  (ha.parallel.alike_session ref).bind fun _ =>
    (ha.parallel.alike_notice _).bind fun _ => alike_fail _

theorem tryCandidates (a : Manager.Attempt) :
    ∀ (candidates : List Address.Bytes) (last : Option Failure),
      Act.Alike R (Manager.tryCandidates h a last candidates)
        (Manager.tryCandidates h' a last candidates)
  | [], last =>
    (ha.parallel.alike_notice _).bind fun _ => (ha.parallel.alike_session a.ref).bind fun _ =>
      alike_fail _
  | bytes :: rest, last => by
    unfold Manager.tryCandidates
    dsimp only
    split
    · exact alike_fail _
    rename_i peer _
    refine (ha.parallel.alike_isCancelled a.token).bind fun b => ?_
    split
    · exact ha.failCancelled _ _ _ _ _
    refine (ha.parallel.alike_changeSession a.ref _).bind fun _ =>
      (ha.connectSession a.token a.ref peer).bind fun result => ?_
    cases result with
    | ok u =>
      exact (ha.parallel.alike_changeSession a.ref _).bind fun _ =>
        (ha.parallel.alike_session a.ref).bind fun _ =>
          (ha.parallel.alike_notice _).bind fun _ => alike_pure a.ref
    | error f =>
      dsimp only
      split
      · exact ha.failCancelled _ _ _ _ _
      split
      · exact (ha.parallel.alike_notice _).bind fun _ => tryCandidates a rest (some f)
      · exact alike_fail f

/-! ## Requests -/

theorem lookup (l : LookupRequest) : Act.Alike R (l.serve h) (l.serve h') := by
  cases l with
  | resolve name n =>
    exact (alike_ofExcept _).bind fun family =>
      (ha.lookupResolve none name family).bind fun _ => alike_pure _
  | reverse bytes n =>
    exact (alike_ofExcept _).bind fun family =>
      (ha.lookupReverse bytes family).bind fun _ => alike_pure _
  | literal name n => exact (alike_ofExcept _).bind fun family => alike_pure _

theorem operation (hl : m.lookup = m'.lookup)
    (hopen : ∀ r, Act.Alike R (m.openSession h r) (m'.openSession h' r)) (op : Operation) :
    Act.Alike R (op.serve h m) (op.serve h' m') := by
  cases op with
  | openSession r =>
    exact (hopen r).bind fun ref => (ha.parallel.alike_session ref).bind fun _ => alike_pure _
  | close n =>
    exact (ha.parallel.alike_nth n).bind fun ref =>
      (ha.closeSession ref).bind fun _ => alike_pure _
  | remove n =>
    exact (ha.parallel.alike_nth n).bind fun ref =>
      (ha.removeSession ref).bind fun _ => alike_pure _
  | closeByHandle handle force => exact (ha.closeByHandle handle force).bind fun _ => alike_pure _
  | listAll =>
    exact (ha.parallel.alike_registry.bind fun _ => ha.listingsOf hl _).bind fun _ => alike_pure _
  | teardownAll => exact ha.teardownAll.bind fun _ => alike_pure _

/-- Requests to managers with the same way to look names up go alike if opens do. -/
theorem serve (hl : m.lookup = m'.lookup)
    (hopen : ∀ r, Act.Alike R (m.openSession h r) (m'.openSession h' r)) :
    ∀ q : Request, q.OfManager → Act.Alike R (q.serve h m) (q.serve h' m')
  | .operation op, _ => ha.operation hl hopen op
  | .shutdown, _ => ha.shutdown.bind fun _ => alike_pure _
  | .token t r, _ => ha.parallel.alike_token t r

end Host.Alike
end TcpSessions
