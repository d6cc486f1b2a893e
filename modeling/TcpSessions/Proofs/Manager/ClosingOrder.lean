import TcpSessions.Proofs.Manager.Listing
/-!
# Closing by handle in any order

Requests to close different handles do not get in each other's way: whatever their order, each gets
the same answer, and the sessions and the table end up the same (`Manager.closings_commute`). What a
request comes to (`CloseRequest.ComesTo`) can be told before any of them is carried out, and what
several of them have done can be told from a list of that in any order (`Registry.ClosedBy`).
-/
namespace TcpSessions

open Act World

variable {ω α : Type} {h : Host ω} {env : Environment ω} {w w' u u' : World ω}
variable {ref : SessionRef} {x : Session} {handle : Handle} {socket : Socket}

/-- A request to close by handle. -/
structure CloseRequest where
  handle : Int
  force : Bool
  deriving DecidableEq, Repr

/-- The reply to a call in which nothing is nested. -/
def Environment.reply (env : Environment ω) (c : Call) (o : ω) : Except Failure c.Reply :=
  ((env.react c o).answer (env.react c o).state).1

namespace Manager

/-- Carries out requests to close one after another and returns their answers. -/
def closeEach (h : Host ω) : List CloseRequest → Act ω (List (Except Failure Unit))
  | [] => return []
  | q :: qs => do
    let answer ← Act.attempt (closeByHandle h q.handle q.force)
    return answer :: (← closeEach h qs)

/-- The worlds that closing by handle leads to. -/
inductive ClosedFrom (h : Host ω) (w : World ω) : World ω → Prop
  | start : ClosedFrom h w w
  | next (u : World ω) (hu : ClosedFrom h w u) (handle : Int) (force : Bool) :
    ClosedFrom h w (closeByHandle h handle force u).2

/-- Nothing is nested in the closes of sockets, and how one ends depends only on the calls on that
socket before. -/
structure ClosesApart (h : Host ω) (w : World ω) : Prop where
  unnested : ∀ socket o, (h.environment.react (.close socket) o).nested = []
  own : ∀ u u', ClosedFrom h w u → ClosedFrom h w u' → ∀ socket,
    socketCalls socket u.past = socketCalls socket u'.past →
    h.environment.reply (.close socket) u.outside = h.environment.reply (.close socket) u'.outside

end Manager

/-! ## What a request comes to -/

/-- What a request to close comes to: it is refused, or closes the socket of a session with a reply
and drops the session. -/
inductive CloseFate
  | refused (reason : Reason)
  | closed (ref : SessionRef) (reply : Except Failure Unit)

namespace CloseFate

/-- The answer to a request for a handle. -/
def answer (handle : Int) : CloseFate → Except Failure Unit
  | refused reason => .error (.of reason)
  | closed _ (.ok _) => .ok ()
  | closed _ (.error f) => .error (closeFailure handle f)

theorem answer_closed (handle : Int) (ref : SessionRef) (reply : Except Failure Unit) :
    (closed ref reply).answer handle = reply.mapError (closeFailure handle) := by
  cases reply <;> rfl

/-- Whether a session is dropped. -/
def drops (ref : SessionRef) : CloseFate → Bool
  | refused _ => false
  | closed s _ => s = ref

/-- Whether a session is marked as closed. -/
def closes (ref : SessionRef) : CloseFate → Bool
  | closed s (.ok _) => s = ref
  | _ => false

theorem drops_of_closes {f : CloseFate} (hf : f.closes ref = true) : f.drops ref = true := by
  cases f with
  | refused reason => cases hf
  | closed s reply =>
    cases reply with
    | ok a => exact hf
    | error g => cases hf

/-- Where no request drops a session, none has marked it as closed. -/
theorem any_closes_eq_false {fates : List CloseFate} (hd : fates.any (·.drops ref) = false) :
    fates.any (·.closes ref) = false := by
  rw [List.any_eq_false] at hd ⊢
  exact fun f hf hc => hd f hf (drops_of_closes hc)

end CloseFate

/-- What a request comes to in a world. -/
inductive CloseRequest.ComesTo (env : Environment ω) (w : World ω) (q : CloseRequest) :
    CloseFate → Prop
  | unknown (hf : w.now.registry.findByHandle? q.handle = none) :
    ComesTo env w q (.refused (.handleNotFound q.handle))
  | guarded (ref : SessionRef) (x : Session) (hf : w.now.registry.findByHandle? q.handle = some ref)
    (hx : w.now.registry.get? ref = some x) (hp : x.isProtected = true) (hforce : q.force = false) :
    ComesTo env w q (.refused (.protectedHandle q.handle))
  | closed (ref : SessionRef) (x : Session) (handle : Handle) (socket : Socket)
    (hf : w.now.registry.findByHandle? q.handle = some ref) (hx : w.HasSocket ref x handle socket)
    (hp : (x.isProtected && !q.force) = false) :
    ComesTo env w q (.closed ref (env.reply (.close socket) w.outside))

theorem CloseRequest.exists_comesTo (env : Environment ω) (hw : w.now.Valid) (q : CloseRequest) :
    ∃ fate, q.ComesTo env w fate := by
  cases hf : w.now.registry.findByHandle? q.handle with
  | none => exact ⟨_, .unknown hf⟩
  | some ref =>
    obtain ⟨x, handle, socket, hx, -⟩ := Manager.hasSocket_of_findByHandle? hw hf
    cases hp : x.isProtected && !q.force with
    | false => exact ⟨_, .closed ref x handle socket hf hx hp⟩
    | true =>
      obtain ⟨hprotected, hforce⟩ : x.isProtected = true ∧ q.force = false := by simpa using hp
      exact ⟨_, .guarded ref x hf hx.session hprotected hforce⟩

/-- The session that a request drops has its handle. -/
theorem CloseRequest.ComesTo.fd_eq {q : CloseRequest} {fate : CloseFate}
    (hq : q.ComesTo env w fate) (hd : fate.drops ref = true)
    (hx : w.now.registry.get? ref = some x) : x.fd = q.handle := by
  cases hq with
  | unknown hf => cases hd
  | guarded s y hf hy hp hforce => cases hd
  | closed s y handle socket hf hy hp =>
    obtain rfl : s = ref := by simpa [CloseFate.drops] using hd
    obtain ⟨-, z, hz, -, hfd⟩ := Registry.mem_of_findByHandle? hf
    obtain rfl := Option.some.inj (hz.symm.trans hx)
    exact hfd

/-! ## What several requests have done -/

/-- The registry after requests that came to some fates: sessions that they close are marked, and
sessions that they drop are out of the table. -/
structure Registry.ClosedBy (r : Registry) (fates : List CloseFate) (r' : Registry) : Prop where
  sessions : ∀ ref, r'.get? ref =
    (r.get? ref).map fun x => if fates.any (·.closes ref) then x.markClosed else x
  entries : r'.table.entries = r.table.entries.filter fun e => !fates.any (·.drops e.ref)
  nextId : r'.table.nextId = r.table.nextId

namespace Registry.ClosedBy

variable {r r₁ r₂ : Registry} {fates fates' : List CloseFate}

theorem refl (r : Registry) : r.ClosedBy [] r where
  sessions := by simp
  entries := by simp
  nextId := rfl

/-- The order of the requests makes no difference. -/
theorem eq_of_perm (h₁ : r.ClosedBy fates r₁) (h₂ : r.ClosedBy fates' r₂)
    (hp : fates.Perm fates') : r₁ = r₂ := by
  have hany : ∀ p : CloseFate → Bool, fates.any p = fates'.any p := fun p => hp.any_eq
  have hsessions : r₁.sessions = r₂.sessions := by
    refine List.ext_getElem? fun i => ?_
    have hget : r₁.get? ⟨i⟩ = r₂.get? ⟨i⟩ := by
      rw [h₁.sessions, h₂.sessions]
      simp only [hany]
    exact hget
  have hentries : r₁.table.entries = r₂.table.entries := by
    rw [h₁.entries, h₂.entries]
    simp only [hany]
  have htable : r₁.table = r₂.table := by
    have hnext := h₁.nextId.trans h₂.nextId.symm
    cases ht₁ : r₁.table
    cases ht₂ : r₂.table
    simp_all
  cases r₁
  cases r₂
  simp_all

theorem mem_refs (hs : r.ClosedBy fates r₁) :
    ref ∈ r₁.table.refs ↔ ref ∈ r.table.refs ∧ fates.any (·.drops ref) = false := by
  simp only [Table.refs, hs.entries, List.mem_map, List.mem_filter, Bool.not_eq_true']
  constructor
  · rintro ⟨e, ⟨he, hd⟩, rfl⟩
    exact ⟨⟨e, he, rfl⟩, hd⟩
  · rintro ⟨⟨e, he, rfl⟩, hd⟩
    exact ⟨e, ⟨he, hd⟩, rfl⟩

/-- A session that is not dropped stays as it is. -/
theorem get?_of_kept (hs : r.ClosedBy fates r₁) (hd : fates.any (·.drops ref) = false) :
    r₁.get? ref = r.get? ref := by
  rw [hs.sessions, CloseFate.any_closes_eq_false hd]
  simp

/-- A handle that no dropped session has is found where it was. -/
theorem findByHandle?_eq (hs : r.ClosedBy fates r₁) {number : Int}
    (hd : ∀ ref x, r.get? ref = some x → fates.any (·.drops ref) = true → x.fd ≠ number) :
    r₁.findByHandle? number = r.findByHandle? number := by
  have hrefs : r₁.table.refs = r.table.refs.filter fun ref => !fates.any (·.drops ref) := by
    rw [Table.refs, hs.entries, Table.refs, List.filter_map]
    rfl
  unfold findByHandle?
  split
  · rfl
  · rename_i k hk
    rw [hrefs, ← List.head?_filter, ← List.head?_filter, List.filter_filter]
    congr 1
    refine List.filter_congr fun ref _ => ?_
    cases hdrop : fates.any (·.drops ref) with
    | false => simp [hs.get?_of_kept hdrop]
    | true =>
      -- a dropped session has another handle
      cases hx : r.get? ref with
      | none => simp
      | some x =>
        have hne : x.handle ≠ some k := by
          intro hk'
          refine hd ref x hx hdrop ?_
          rw [Session.handle_eq_iff_fd.1 hk', Handle.number_of_ofInt? hk]
        simp [hne]

/-- One more session is closed, with a reply, and dropped. -/
theorem close (hs : r.ClosedBy fates r₁) (hi : r₁.Indexed) (hr : ref ∈ r₁.table.refs)
    (hx : r₁.get? ref = some x) (reply : Except Failure Unit) :
    r.ClosedBy (.closed ref reply :: fates) ((r₁.set ref (x.afterClose reply)).remove ref).2 := by
  have hx' : (r₁.set ref (x.afterClose reply)).get? ref = some (x.afterClose reply) :=
    get?_set_self hx _
  have hi' : (r₁.set ref (x.afterClose reply)).Indexed :=
    hi.set hx (by cases reply <;> rfl)
  have hdrop := (hs.mem_refs.1 hr).2
  constructor
  · intro s
    rw [get?_remove, get?_set hx]
    by_cases he : s = ref
    · subst he
      have hsame := hs.get?_of_kept hdrop
      rw [← hsame, hx, List.any_cons, CloseFate.any_closes_eq_false hdrop]
      cases reply <;> simp [CloseFate.closes, Session.afterClose]
    · have hne : ref ≠ s := fun h => he h.symm
      rw [if_neg he, hs.sessions]
      cases reply <;> simp [CloseFate.closes, hne]
  · rw [hi'.entries_remove hx']
    show r₁.table.entries.filter _ = _
    rw [hs.entries, List.filter_filter]
    refine List.filter_congr fun e _ => ?_
    by_cases he : e.ref = ref
    · simp [CloseFate.drops, he]
    · have hne : ref ≠ e.ref := fun h => he h.symm
      simp [CloseFate.drops, he, hne]
  · rw [nextId_remove]
    exact hs.nextId

end Registry.ClosedBy

/-! ## Carrying out one request -/

theorem Host.call_of_unnested (token : Option TokenId) {c : Call}
    (hn : (h.environment.react c w.outside).nested = []) :
    ∃ w₁, h.call token c w = (.returned (h.environment.reply c w.outside), w₁) ∧
      w.Called h.environment token c (h.environment.reply c w.outside) w₁ := by
  have hrun : h.runNested (h.environment.react c w.outside).nested (h.entering token c w) =
      (.returned (), h.entering token c w) := by
    rw [hn]
    rfl
  refine ⟨_, Host.call_of_returned hrun, ?_⟩
  exact {
    registry := rfl
    sockets := rfl
    past := ⟨[], rfl, by simp⟩
    reply_eq := rfl
    outside := rfl }

namespace Manager

/-- A close of a session with a socket, with nothing nested in it. -/
theorem closeSession_of_unnested (hx : w.HasSocket ref x handle socket)
    (hn : (h.environment.react (.close socket) w.outside).nested = []) :
    ∃ w₁, closeSession h ref w =
        (Outcome.ofExcept ((h.environment.reply (.close socket) w.outside).mapError
          (closeFailure handle.number)), w₁) ∧
      w.Closing h.environment ref x socket (h.environment.reply (.close socket) w.outside) w₁ := by
  obtain ⟨w₂, hcall, hc⟩ := Host.call_of_unnested none hn
  exact closeSession_of_call hx hcall hc

/-- A request that is not refused closes the socket and drops the session. -/
theorem closeByHandle_of_unnested {number : Int} {force : Bool} (hw : w.now.Valid)
    (hn : (h.environment.react (.close socket) w.outside).nested = [])
    (hf : w.now.registry.findByHandle? number = some ref) (hx : w.HasSocket ref x handle socket)
    (hp : (x.isProtected && !force) = false) :
    ∃ w₁, w.Closing h.environment ref x socket (h.environment.reply (.close socket) w.outside) w₁ ∧
      closeByHandle h number force w =
        (Outcome.ofExcept
            ((h.environment.reply (.close socket) w.outside).mapError (closeFailure number)),
          w₁.setRegistry (w₁.now.registry.remove ref).2) := by
  obtain ⟨w₁, hclose, hclosing⟩ := closeSession_of_unnested hx hn
  have hnumber : handle.number = number := by
    obtain ⟨y, k, s, hy, hk⟩ := hasSocket_of_findByHandle? hw hf
    obtain rfl := Option.some.inj (hx.session.symm.trans hy.session)
    obtain rfl := Option.some.inj (hx.handle.symm.trans hy.handle)
    exact hk
  rw [hnumber] at hclose
  refine ⟨w₁, hclosing, ?_⟩
  unfold closeByHandle
  rw [bind_eq (m := Act.registry) (w := w) rfl, hf]
  dsimp only
  rw [bind_eq (session_some hx.session), hp]
  simp only [Bool.false_eq_true, if_false]
  rw [bind_eq (Act.attempt_ofExcept hclose), bind_eq (m := untrack ref) (w := w₁) rfl]
  exact Act.ofExcept_eq _ _

end Manager

/-- From `w` to `u` requests came to some fates, and the sessions still tracked have sockets that
were not called. -/
structure World.ClosedBy (w : World ω) (fates : List CloseFate) (u : World ω) : Prop where
  valid : u.now.Valid
  settled : w.now.registry.ClosedBy fates u.now.registry
  calls : ∀ ref x socket, ref ∈ u.now.registry.table.refs → u.now.registry.get? ref = some x →
    x.socket = some socket → socketCalls socket u.past = socketCalls socket w.past

namespace World.ClosedBy

variable {fates : List CloseFate} {q : CloseRequest} {fate : CloseFate}

theorem refl (hw : w.now.Valid) : w.ClosedBy [] w :=
  ⟨hw, .refl _, fun _ _ _ _ _ _ => rfl⟩

/-- A refusal leaves everything as it is. -/
theorem refused (hu : w.ClosedBy fates u) (reason : Reason) :
    w.ClosedBy (.refused reason :: fates) u where
  valid := hu.valid
  settled := by
    constructor
    · intro ref
      rw [hu.settled.sessions]
      simp [CloseFate.closes]
    · rw [hu.settled.entries]
      simp [CloseFate.drops]
    · exact hu.settled.nextId
  calls := hu.calls

theorem closing {reply : Except Failure Unit} (hu : w.ClosedBy fates u)
    (hr : ref ∈ u.now.registry.table.refs) (hx : u.HasSocket ref x handle socket)
    (hc : u.Closing env ref x socket reply u') :
    w.ClosedBy (.closed ref reply :: fates) (u'.setRegistry (u'.now.registry.remove ref).2) := by
  have hdropped := hc.dropped hx hu.valid
  constructor
  · exact hdropped.valid
  · show w.now.registry.ClosedBy _ (u'.now.registry.remove ref).2
    rw [hc.registry]
    exact hu.settled.close hu.valid.indexed hr hx.session reply
  · intro s y socket' hs hy hsock
    rw [hdropped.tracked] at hs
    obtain ⟨hs, hne⟩ : s ∈ u.now.registry.table.refs ∧ s ≠ ref := by simpa using hs
    rw [hdropped.others s hne] at hy
    -- the socket that was closed belongs to the session dropped, and to no other
    have hother : socket ≠ socket' := by
      rintro rfl
      exact hne (hu.valid.coherent.owner hy hx.session hsock hx.socket)
    show socketCalls socket' u'.past = _
    rw [hc.socketCalls_eq, if_neg hother]
    exact hu.calls s y socket' hs hy hsock

/-- Requests for other handles make no difference to what a request comes to. -/
theorem comesTo (hu : w.ClosedBy fates u) (hq : q.ComesTo env w fate)
    (hd : ∀ ref x, w.now.registry.get? ref = some x → fates.any (·.drops ref) = true →
      x.fd ≠ q.handle)
    (hreply : ∀ socket, socketCalls socket u.past = socketCalls socket w.past →
      env.reply (.close socket) u.outside = env.reply (.close socket) w.outside) :
    q.ComesTo env u fate := by
  have hsame := hu.settled.findByHandle?_eq hd
  have hkept : ∀ ref, w.now.registry.findByHandle? q.handle = some ref →
      ref ∈ u.now.registry.table.refs ∧
        u.now.registry.get? ref = w.now.registry.get? ref := by
    intro ref hf
    obtain ⟨hr, x, hx, -, hfd⟩ := Registry.mem_of_findByHandle? hf
    have hdrop : fates.any (·.drops ref) = false := by
      cases hany : fates.any (·.drops ref) with
      | false => rfl
      | true => exact absurd hfd (hd ref x hx hany)
    exact ⟨hu.settled.mem_refs.2 ⟨hr, hdrop⟩, hu.settled.get?_of_kept hdrop⟩
  cases hq with
  | unknown hf => exact .unknown (hsame.trans hf)
  | guarded ref x hf hx hp hforce =>
    exact .guarded ref x (hsame.trans hf) ((hkept ref hf).2.trans hx) hp hforce
  | closed ref x handle socket hf hx hp =>
    obtain ⟨hr, hget⟩ := hkept ref hf
    have hx' : u.HasSocket ref x handle socket := ⟨hget.trans hx.session, hx.handle, hx.socket⟩
    rw [← hreply socket (hu.calls ref x socket hr hx'.session hx.socket)]
    exact .closed ref x handle socket (hsame.trans hf) hx' hp

/-- A request is answered by what it comes to. -/
theorem step (hu : w.ClosedBy fates u)
    (hn : ∀ socket o, (h.environment.react (.close socket) o).nested = [])
    (hq : q.ComesTo h.environment u fate) :
    ∃ u', Manager.closeByHandle h q.handle q.force u =
        (Outcome.ofExcept (fate.answer q.handle), u') ∧ w.ClosedBy (fate :: fates) u' := by
  cases hq with
  | unknown hf => exact ⟨u, Manager.closeByHandle_eq_of_none hf, hu.refused _⟩
  | guarded ref x hf hx hp hforce =>
    rw [hforce]
    exact ⟨u, Manager.closeByHandle_eq_of_protected hf hx hp, hu.refused _⟩
  | closed ref x handle socket hf hx hp =>
    obtain ⟨u₁, hc, heq⟩ :=
      Manager.closeByHandle_of_unnested hu.valid (hn socket u.outside) hf hx hp
    rw [CloseFate.answer_closed]
    exact ⟨_, heq, hu.closing (Registry.mem_of_findByHandle? hf).1 hx hc⟩

end World.ClosedBy

/-! ## Carrying out several -/

namespace Manager

/-- Requests for handles that are all different are answered by what they come to at first. -/
theorem closeEach_eq {fate : CloseRequest → CloseFate} (hapart : ClosesApart h w)
    (hfate : ∀ q : CloseRequest, q.ComesTo h.environment w (fate q)) :
    ∀ (qs done : List CloseRequest) (u : World ω), ClosedFrom h w u →
      w.ClosedBy (done.map fate) u → (qs.map (·.handle) ++ done.map (·.handle)).Nodup →
      ∃ u', closeEach h qs u = (.returned (qs.map fun q => (fate q).answer q.handle), u') ∧
        w.ClosedBy ((qs.reverse ++ done).map fate) u'
  | [], done, u, _, hu, _ => ⟨u, rfl, hu⟩
  | q :: qs, done, u, hfrom, hu, hd => by
    have hother : ∀ ref x, w.now.registry.get? ref = some x →
        (done.map fate).any (·.drops ref) = true → x.fd ≠ q.handle := by
      intro ref x hx hany heq
      obtain ⟨f, hf, hdrop⟩ := List.any_eq_true.1 hany
      obtain ⟨d, hmem, rfl⟩ := List.mem_map.1 hf
      rw [(hfate d).fd_eq hdrop hx] at heq
      rw [List.map_cons, List.cons_append, List.nodup_cons] at hd
      exact hd.1 (List.mem_append_right _ (List.mem_map.2 ⟨d, hmem, heq⟩))
    obtain ⟨u₁, hanswer, hu₁⟩ := hu.step hapart.unnested
      (hu.comesTo (hfate q) hother fun socket => hapart.own u w hfrom .start socket)
    have hfrom₁ : ClosedFrom h w u₁ := by
      have hnext := ClosedFrom.next u hfrom q.handle q.force
      rwa [hanswer] at hnext
    have hd₁ : (qs.map (·.handle) ++ (q :: done).map (·.handle)).Nodup := by
      refine (List.perm_middle.nodup_iff).2 ?_
      simpa using hd
    obtain ⟨u', hrest, hu'⟩ := closeEach_eq hapart hfate qs (q :: done) u₁ hfrom₁ hu₁ hd₁
    refine ⟨u', ?_, by simpa using hu'⟩
    unfold closeEach
    rw [bind_eq (Act.attempt_ofExcept hanswer), bind_eq hrest]
    rfl

/-- Requests to close different handles get the same answers in any order, and leave the same table
and the same sessions. -/
theorem closings_commute (h : Host ω) (hw : w.Reachable) (hapart : ClosesApart h w)
    (qs : List CloseRequest) (hd : (qs.map (·.handle)).Nodup) :
    ∃ (answer : CloseRequest → Except Failure Unit) (r : Registry), ∀ qs', qs'.Perm qs →
      ∃ u, closeEach h qs' w = (.returned (qs'.map answer), u) ∧ u.now.registry = r := by
  have hfates := CloseRequest.exists_comesTo h.environment hw.valid
  choose fate hfate using hfates
  have hrun : ∀ qs', qs'.Perm qs → ∃ u,
      closeEach h qs' w = (.returned (qs'.map fun q => (fate q).answer q.handle), u) ∧
        w.ClosedBy (qs'.reverse.map fate) u := by
    intro qs' hp
    have hd' : (qs'.map (·.handle) ++ ([] : List CloseRequest).map (·.handle)).Nodup := by
      simpa using (hp.map _).nodup_iff.2 hd
    simpa using closeEach_eq hapart hfate qs' [] w .start (.refl hw.valid) hd'
  obtain ⟨v, -, hv⟩ := hrun qs (.refl qs)
  refine ⟨fun q => (fate q).answer q.handle, v.now.registry, fun qs' hp => ?_⟩
  obtain ⟨u, heq, hu⟩ := hrun qs' hp
  have hfates : (qs'.reverse.map fate).Perm (qs.reverse.map fate) :=
    ((qs'.reverse_perm.trans hp).trans qs.reverse_perm.symm).map fate
  exact ⟨u, heq, hu.settled.eq_of_perm hv.settled hfates⟩

end Manager

/-- Surroundings that count descriptors up and refuse to close the sockets with an odd one. -/
def Environment.oddRefusing : Environment Int where
  react
    | .resolve .., n => { state := n, answer := fun n => (.ok [[192, 0, 2, 1]], n) }
    | .reverse _, n => { state := n, answer := fun n => (.ok none, n) }
    | .addressInfo .., n => { state := n, answer := fun n => (.ok [], n) }
    | .hostByAddress _, n => { state := n, answer := fun n => (.ok none, n) }
    | .createSocket _, n => { state := n, answer := fun n => (.ok n, n + 1) }
    | .spareSocket _, n => { state := n, answer := fun n => (.ok n, n + 1) }
    | .setInline _, n => { state := n, answer := fun n => (.ok (), n) }
    | .connect .., n => { state := n, answer := fun n => (.ok (), n) }
    | .close socket, n => { state := n, answer := fun n =>
        (if socket.descriptor % 2 = 1 then .error (.of (.system .general .nothing)) else .ok (), n) }

theorem Environment.oddRefusing_quiet : oddRefusing.Quiet := by
  intro c n q hq
  cases c <;> cases hq

namespace Manager

/-- One request succeeds, two fail in the close of their sockets, one is refused for a protected
session and one for an unknown handle. -/
theorem closings_commute_oddRefusing :
    let env := Environment.oddRefusing
    let h : Host Int := ⟨env, perform env {} 4, 5⟩
    let w := env.after {} 4 [.operation (.openSession { host := "gate" }),
      .operation (.openSession { host := "gate" }),
      .operation (.openSession { host := "gate", flags := .managed }),
      .operation (.openSession { host := "gate", flags := .managed })] 10
    let qs : List CloseRequest := [⟨10, false⟩, ⟨11, false⟩, ⟨12, false⟩, ⟨13, true⟩, ⟨14, true⟩]
    w.now.registry.sessions.map (·.fd) = [10, 11, 12, 13] ∧
      (closeEach h qs w).2.now.registry.sessions.map (·.fd) = [-1, 11, 12, 13] ∧
      (closeEach h qs w).2.now.registry.trackedIds = [3] ∧
      ∃ (answer : CloseRequest → Except Failure Unit) (r : Registry), ∀ qs', qs'.Perm qs →
        ∃ u, closeEach h qs' w = (.returned (qs'.map answer), u) ∧ u.now.registry = r := by
  refine ⟨by decide +kernel, by decide +kernel, by decide +kernel, ?_⟩
  refine closings_commute _ ?_ ?_ _ (by decide)
  · exact ⟨_, {}, 4, _, 10, Environment.oddRefusing_quiet.nests, by decide, rfl⟩
  · exact ⟨fun _ _ => rfl, fun _ _ _ _ _ _ => rfl⟩

end Manager
end TcpSessions
