import QuipNet.RelayConnects

/-!
# A daemon and its relays

The relays as the adapter of one daemon reaches them over HTTP, and beside them what they
did for it. Nothing is assumed of the relays: what they grant is what `open_session` and
`close_session` grant. Over a network that loses nothing, the sessions that are open at the
relays for the adapter are those that its registry runs over.
-/

open Std
namespace QuipNet.Relay
open QuipNet.Control

/-! ## What a request leaves of an entry -/

/-- An entry stays, or is overwritten by the attempt of an open request, or is closed. -/
def RelayControlRequest.Leaves (request : RelayControlRequest) (id : SessionId)
    (before after : RelaySession) : Prop :=
  after = before ∨
    match request with
    | .postSession asked => asked.attemptId = id ∧ after.status = .pending
    | .getSession _ => False
    | .deleteSession closed _ => closed = id ∧ after.status = .closed

theorem RelayControlRequest.Leaves.not_open {request : RelayControlRequest} {id : SessionId}
    {before after : RelaySession} (h : request.Leaves id before after)
    (hbefore : before.status ≠ .open) : after.status ≠ .open := by
  rcases h with rfl | h
  · exact hbefore
  · cases request with
    | postSession asked => simp [h.2]
    | getSession sessionId => exact h.elim
    | deleteSession closed reason => simp [h.2]

section Leaves
variable [Primitives] {id : SessionId} {entry : RelaySession}

theorem controlResponse_leaves {service : RelayService} (h : service.session id = some entry)
    (now : ℕ) (drawn : SessionId) (request : RelayControlRequest) :
    ∃ left, (controlResponse now drawn request service).2.session id = some left ∧
      request.Leaves id entry left := by
  obtain ⟨hopened, hclosed, hread⟩ := controlResponse_service now drawn service
  cases request with
  | postSession asked =>
    rw [hopened]
    rcases service.serve_cases (.openSession now drawn asked) with
      hsame | ⟨_, _, _, hcall, hadmits, hafter⟩ | ⟨_, _, hcall, -⟩
    · rw [hsame]
      exact ⟨entry, h, .inl rfl⟩
    · cases hcall
      have hdrawn : drawn ≠ id := by
        rintro rfl
        rw [hadmits.fresh] at h
        cases h
      rw [hafter, RelayService.session_afterOpen, if_neg hdrawn]
      split_ifs with hattempt
      · exact ⟨_, rfl, .inr ⟨hattempt, rfl⟩⟩
      · exact ⟨entry, h, .inl rfl⟩
    · cases hcall
  | getSession sessionId =>
    rw [hread]
    exact ⟨entry, h, .inl rfl⟩
  | deleteSession sessionId reason =>
    rw [hclosed]
    rcases service.serve_cases (.closeSession sessionId reason) with
      hsame | ⟨_, _, _, hcall, -⟩ | ⟨_, _, hcall, hafter⟩
    · rw [hsame]
      exact ⟨entry, h, .inl rfl⟩
    · cases hcall
    · cases hcall
      rw [hafter, RelayService.session_applyFrame_close]
      split_ifs with hsame
      · subst hsame
        rw [h]
        exact ⟨_, rfl, .inr ⟨rfl, rfl⟩⟩
      · exact ⟨entry, h, .inl rfl⟩

variable [RelayReader]

theorem handle_leaves (hread : RelayReader.RoundTrips) {server : RelayServer}
    (h : server.service.session id = some entry) (now : ℕ) (drawn : SessionId)
    (request : RelayControlRequest) :
    ∃ left, (server.handle ⟨now, drawn, request.http⟩).2.service.session id = some left ∧
      request.Leaves id entry left := by
  obtain ⟨service, serving⟩ := server
  cases serving with
  | false => exact ⟨entry, h, .inl rfl⟩
  | true =>
    by_cases hfits : request.Fits
    · rw [handle_http hread hfits]
      exact controlResponse_leaves h now drawn request
    · rw [handle_oversized hfits]
      exact ⟨entry, h, .inl rfl⟩

theorem handle_serving (hread : RelayReader.RoundTrips) {server : RelayServer}
    (h : server.serving = true) (now : ℕ) (drawn : SessionId) (request : RelayControlRequest) :
    (server.handle ⟨now, drawn, request.http⟩).2.serving = true := by
  obtain ⟨service, serving⟩ := server
  cases h
  by_cases hfits : request.Fits
  · rw [handle_http hread hfits]
  · rw [handle_oversized hfits]

end Leaves

/-! ## The relays as they evolve -/

def Network.At (network : Network) (endpoint host : String) : Prop :=
  network.host (baseOf endpoint) = .ok host

def Network.Reliable (network : Network) : Prop := ∀ n, (network.exchange n).fate = .delivered

def Relays.Runs (relays : Relays) (host : String) : Prop :=
  ∃ server, relays.servers host = some server ∧ server.serving = true

def Relays.entry (relays : Relays) (host : String) (id : SessionId) : Option RelaySession :=
  (relays.servers host).bind fun server => server.service.session id

def Relays.holdsClosed (network : Network) (relays : Relays) (endpoint : String) (id : SessionId) :
    Bool :=
  match network.host (baseOf endpoint) with
  | .error _ => false
  | .ok host => (relays.entry host id).any fun entry => entry.status = .closed

/-- The relay that the endpoint names runs and holds the id as open, and held nothing under
it before. -/
def Relays.newlyOpen (network : Network) (before after : Relays) (endpoint : String)
    (id : SessionId) : Bool :=
  match network.host (baseOf endpoint) with
  | .error _ => false
  | .ok host => (before.entry host id).isNone && (after.servers host).any RelayServer.serving &&
    (after.entry host id).any fun entry => entry.status = .open

structure Evolves (network : Network) (endpoint : String) (request : RelayControlRequest)
    (before after : Relays) : Prop where
  runs : ∀ host, before.Runs host → after.Runs host
  entries : ∀ host id entry, before.entry host id = some entry →
    ∃ left, after.entry host id = some left ∧
      (left = entry ∨ network.At endpoint host ∧ request.Leaves id entry left)

section Evolving
variable {network : Network} {endpoint : String} {request : RelayControlRequest}
  {relays after : Relays}

theorem Evolves.of_servers (h : after.servers = relays.servers) :
    Evolves network endpoint request relays after where
  runs host := by
    rw [Relays.Runs, Relays.Runs, h]
    exact id
  entries host id entry hentry := by
    refine ⟨entry, ?_, .inl rfl⟩
    rw [Relays.entry, h]
    exact hentry

variable [Primitives] [RelayReader]

theorem arrive_evolves (hread : RelayReader.RoundTrips) {host : String}
    (hat : network.At endpoint host) :
    Evolves network endpoint request relays (arrive network host request relays).2 := by
  unfold arrive
  cases hserver : relays.servers host with
  | none => exact .of_servers rfl
  | some server =>
    refine ⟨?_, ?_⟩
    · rintro other ⟨runner, hruns, hserving⟩
      by_cases hother : other = host
      · subst hother
        rw [hserver] at hruns
        cases hruns
        exact ⟨_, Function.update_self .., handle_serving hread hserving _ _ request⟩
      · exact ⟨runner, (Function.update_of_ne hother ..).trans hruns, hserving⟩
    · intro other id entry hentry
      by_cases hother : other = host
      · subst hother
        rw [Relays.entry, hserver] at hentry
        obtain ⟨left, hleft, hleaves⟩ := handle_leaves hread hentry
          (network.exchange relays.exchanged).now (network.exchange relays.exchanged).drawn request
        refine ⟨left, ?_, .inr ⟨hat, hleaves⟩⟩
        rw [Relays.entry]
        simp only [Function.update_self]
        exact hleft
      · refine ⟨entry, ?_, .inl rfl⟩
        rw [Relays.entry]
        simp only [Function.update_of_ne hother]
        exact hentry

theorem exchange_evolves (hread : RelayReader.RoundTrips) :
    Evolves network endpoint request relays (exchange network endpoint request relays).2 := by
  have hsame : ∀ carried : Except String RelayAnswer × Relays,
      Evolves network endpoint request relays carried.2 → Evolves network endpoint request relays
        (carried.map id fun after => { after with exchanged := relays.exchanged + 1 }).2 :=
    fun _ h => ⟨h.runs, h.entries⟩
  apply hsame
  cases hhost : network.host (baseOf endpoint) with
  | error detail => exact .of_servers rfl
  | ok host =>
    cases (network.exchange relays.exchanged).fate with
    | delivered => exact arrive_evolves hread hhost
    | requestLost detail => exact .of_servers rfl
    | responseLost detail => exact arrive_evolves hread hhost

end Evolving

/-! ## The history of an adapter's calls -/

/-- What the relays did for an adapter stands in their tables: a session that it was told of
is open, unless it was closed or an attempt of the adapter took its id. -/
structure Standing (network : Network) (relays : Relays) (opened closed : List (String × SessionId))
    (attempts : List SessionId) : Prop where
  entered : ∀ session ∈ opened, ∃ host entry, network.At session.1 host ∧ relays.Runs host ∧
    relays.entry host session.2 = some entry ∧
      (entry.status = .open ∨ session.2 ∈ attempts ∨
        ∃ endpoint, network.At endpoint host ∧ (endpoint, session.2) ∈ closed)
  ended : ∀ session ∈ closed, ∃ host entry, network.At session.1 host ∧
    relays.entry host session.2 = some entry ∧ entry.status ≠ .open
  distinct : ∀ first ∈ opened, ∀ second ∈ opened, ∀ host, network.At first.1 host →
    network.At second.1 host → first.2 = second.2 → first = second

section Standing
variable {network : Network} {relays after : Relays} {opened closed : List (String × SessionId)}
  {attempts : List SessionId} {endpoint : String}

theorem Standing.ended_after (h : Standing network relays opened closed attempts)
    {request : RelayControlRequest} (hevolves : Evolves network endpoint request relays after) :
    ∀ session ∈ closed, ∃ host entry, network.At session.1 host ∧
      after.entry host session.2 = some entry ∧ entry.status ≠ .open := by
  intro session hsession
  obtain ⟨host, entry, hat, hentry, hstatus⟩ := h.ended session hsession
  obtain ⟨left, hleft, hleaves⟩ := hevolves.entries host session.2 entry hentry
  refine ⟨host, left, hat, hleft, ?_⟩
  rcases hleaves with rfl | ⟨-, hleaves⟩
  · exact hstatus
  · exact hleaves.not_open hstatus

/-- A session that was told of stands as before, or its entry was overwritten or closed. -/
theorem Standing.entered_after (h : Standing network relays opened closed attempts)
    {request : RelayControlRequest} (hevolves : Evolves network endpoint request relays after)
    {session : String × SessionId} (hsession : session ∈ opened) :
    ∃ host entry, network.At session.1 host ∧ after.Runs host ∧
      after.entry host session.2 = some entry ∧
        ((entry.status = .open ∨ session.2 ∈ attempts ∨
            ∃ endpoint, network.At endpoint host ∧ (endpoint, session.2) ∈ closed) ∨
          (∃ asked, request = .postSession asked ∧ asked.attemptId = session.2) ∨
          ∃ reason, request = .deleteSession session.2 reason ∧ network.At endpoint host ∧
            entry.status = .closed) := by
  obtain ⟨host, entry, hat, hruns, hentry, hstatus⟩ := h.entered session hsession
  obtain ⟨left, hleft, hleaves⟩ := hevolves.entries host session.2 entry hentry
  refine ⟨host, left, hat, hevolves.runs host hruns, hleft, ?_⟩
  rcases hleaves with rfl | ⟨hreached, rfl | hleaves⟩
  · exact .inl hstatus
  · exact .inl hstatus
  · cases request with
    | postSession asked => exact .inr (.inl ⟨asked, rfl, hleaves.1⟩)
    | getSession sessionId => exact hleaves.elim
    | deleteSession sessionId reason =>
      obtain ⟨rfl, hclosed⟩ := hleaves
      exact .inr (.inr ⟨reason, rfl, hreached, hclosed⟩)

theorem Standing.post (h : Standing network relays opened closed attempts)
    {asked : RelayOpenRequest}
    (hevolves : Evolves network endpoint (.postSession asked) relays after) :
    Standing network after opened closed (attempts ++ [asked.attemptId]) where
  entered session hsession := by
    obtain ⟨host, entry, hat, hruns, hentry, hstatus⟩ := h.entered_after hevolves hsession
    refine ⟨host, entry, hat, hruns, hentry, ?_⟩
    rcases hstatus with (hopen | hattempt | hclosed) | ⟨other, hother, hattempt⟩ | ⟨_, hother, -⟩
    · exact .inl hopen
    · exact .inr (.inl (List.mem_append_left _ hattempt))
    · exact .inr (.inr hclosed)
    · cases hother
      exact .inr (.inl (by simp [hattempt]))
    · cases hother
  ended := h.ended_after hevolves
  distinct := h.distinct

theorem holdsClosed_iff {id : SessionId} : relays.holdsClosed network endpoint id = true ↔
    ∃ host entry, network.At endpoint host ∧ relays.entry host id = some entry ∧
      entry.status = .closed := by
  unfold Relays.holdsClosed Network.At
  cases network.host (baseOf endpoint) <;> simp [Option.any_eq_true]

theorem Standing.delete (h : Standing network relays opened closed attempts) {id : SessionId}
    {reason : String}
    (hevolves : Evolves network endpoint (.deleteSession id reason) relays after) :
    Standing network after opened
      (if after.holdsClosed network endpoint id then closed ++ [(endpoint, id)] else closed)
      attempts where
  entered session hsession := by
    obtain ⟨host, entry, hat, hruns, hentry, hstatus⟩ := h.entered_after hevolves hsession
    refine ⟨host, entry, hat, hruns, hentry, ?_⟩
    rcases hstatus with (hopen | hattempt | ⟨other, hother, hclosed⟩) | ⟨_, hother, -⟩ |
      ⟨_, hother, hreached, hclosed⟩
    · exact .inl hopen
    · exact .inr (.inl hattempt)
    · refine .inr (.inr ⟨other, hother, ?_⟩)
      split_ifs
      · exact List.mem_append_left _ hclosed
      · exact hclosed
    · cases hother
    · cases hother
      refine .inr (.inr ⟨endpoint, hreached, ?_⟩)
      rw [if_pos (holdsClosed_iff.2 ⟨host, entry, hreached, hentry, hclosed⟩)]
      exact List.mem_append_right _ (List.mem_singleton_self _)
  ended session hsession := by
    split_ifs at hsession with hholds
    · rcases List.mem_append.1 hsession with hbefore | hnow
      · exact h.ended_after hevolves session hbefore
      · rw [List.mem_singleton.1 hnow]
        obtain ⟨host, entry, hat, hentry, hclosed⟩ := holdsClosed_iff.1 hholds
        exact ⟨host, entry, hat, hentry, by simp [hclosed]⟩
    · exact h.ended_after hevolves session hsession
  distinct := h.distinct

theorem newlyOpen_iff {id : SessionId} : Relays.newlyOpen network relays after endpoint id = true ↔
    ∃ host entry, network.At endpoint host ∧ relays.entry host id = none ∧ after.Runs host ∧
      after.entry host id = some entry ∧ entry.status = .open := by
  unfold Relays.newlyOpen Network.At Relays.Runs
  cases network.host (baseOf endpoint) with
  | error detail => simp
  | ok host => simp [Option.any_eq_true, and_assoc]

theorem Standing.open (h : Standing network relays opened closed attempts)
    {later : List SessionId} (hafter : Standing network after opened closed later) {id : SessionId}
    (hnew : Relays.newlyOpen network relays after endpoint id = true) :
    Standing network after (opened ++ [(endpoint, id)]) closed later := by
  obtain ⟨host, entry, hat, hnone, hruns, hentry, hopen⟩ := newlyOpen_iff.1 hnew
  have hfresh : ∀ session ∈ opened, ∀ other, network.At session.1 other →
      network.At endpoint other → session.2 ≠ id := by
    rintro session hsession other hother hsame rfl
    obtain ⟨held, found, hheld, -, hfound, -⟩ := h.entered session hsession
    rw [Network.At, hother] at hheld
    rw [Network.At, hsame] at hat
    cases hheld
    cases hat
    rw [hnone] at hfound
    cases hfound
  refine ⟨?_, hafter.ended, ?_⟩
  · intro session hsession
    rcases List.mem_append.1 hsession with hbefore | hnow
    · exact hafter.entered session hbefore
    · rw [List.mem_singleton.1 hnow]
      exact ⟨host, entry, hat, hruns, hentry, .inl hopen⟩
  · intro first hfirst second hsecond other hat₁ hat₂ hsame
    rcases List.mem_append.1 hfirst with hold₁ | hnew₁ <;>
      rcases List.mem_append.1 hsecond with hold₂ | hnew₂
    · exact hafter.distinct first hold₁ second hold₂ other hat₁ hat₂ hsame
    · cases List.mem_singleton.1 hnew₂
      exact absurd hsame (hfresh first hold₁ other hat₁ hat₂)
    · cases List.mem_singleton.1 hnew₁
      exact absurd hsame.symm (hfresh second hold₂ other hat₂ hat₁)
    · rw [List.mem_singleton.1 hnew₁, List.mem_singleton.1 hnew₂]

end Standing

/-! ## The relays of an adapter -/

structure Fleet (network : Network) extends Relays where
  opened : List (String × SessionId)
  closed : List (String × SessionId)
  attempts : List SessionId
  standing : Standing network toRelays opened closed attempts

namespace Fleet
variable {network : Network}

def noteOpen (fleet : Fleet network) (endpoint : String) (told : Option SessionId) (after : Relays)
    (attempts : List SessionId)
    (hafter : Standing network after fleet.opened fleet.closed attempts) : Fleet network :=
  match told with
  | none => ⟨after, fleet.opened, fleet.closed, attempts, hafter⟩
  | some id =>
    if hnew : fleet.newlyOpen network after endpoint id = true then
      ⟨after, fleet.opened ++ [(endpoint, id)], fleet.closed, attempts,
        fleet.standing.open hafter hnew⟩
    else ⟨after, fleet.opened, fleet.closed, attempts, hafter⟩

theorem noteOpen_attempts (fleet : Fleet network) (endpoint : String) (told : Option SessionId)
    (after : Relays) (attempts : List SessionId)
    (hafter : Standing network after fleet.opened fleet.closed attempts) :
    (fleet.noteOpen endpoint told after attempts hafter).attempts = attempts := by
  unfold noteOpen
  cases told with
  | none => rfl
  | some id =>
    dsimp only
    split_ifs <;> rfl

section Control
variable [Primitives] [RelayReader] (hread : RelayReader.RoundTrips)
include hread

theorem standing_post (fleet : Fleet network) (endpoint : String) (request : RelayOpenRequest) :
    Standing network (HttpRelayControl.openSession network endpoint request fleet.toRelays).2
      fleet.opened fleet.closed (fleet.attempts ++ [request.attemptId]) :=
  fleet.standing.post (exchange_evolves hread)

theorem standing_delete (fleet : Fleet network) (endpoint : String) (id : SessionId)
    (reason : String) :
    let after := (HttpRelayControl.closeSession network endpoint id reason fleet.toRelays).2
    Standing network after fleet.opened
      (if after.holdsClosed network endpoint id then fleet.closed ++ [(endpoint, id)]
      else fleet.closed) fleet.attempts := by
  apply fleet.standing.delete
  exact exchange_evolves hread

/-- `HttpRelayControl`, with the history kept beside it. -/
def control (network : Network) : Quic.RelayControl (Fleet network) where
  openSession endpoint request fleet :=
    let called := HttpRelayControl.openSession network endpoint request fleet.toRelays
    (called.1, fleet.noteOpen endpoint (called.1.toOption.map RelaySessionAccepted.sessionId)
      called.2 (fleet.attempts ++ [request.attemptId]) (standing_post hread fleet endpoint request))
  closeSession endpoint id reason fleet :=
    let called := HttpRelayControl.closeSession network endpoint id reason fleet.toRelays
    (called.1, ⟨called.2, fleet.opened, _, fleet.attempts,
      standing_delete hread fleet endpoint id reason⟩)

end Control

/-! ### What a success means -/

section Success
variable [Primitives] [RelayReader] {endpoint : String} {relays after : Relays}

theorem exchange_ok {request : RelayControlRequest} {answer : RelayAnswer}
    (h : exchange network endpoint request relays = (.ok answer, after)) :
    ∃ host server, network.At endpoint host ∧ relays.servers host = some server ∧
      let handled := server.handle ⟨(network.exchange relays.exchanged).now,
        (network.exchange relays.exchanged).drawn, request.http⟩
      handled.1 = some answer ∧
        after.servers = Function.update relays.servers host (some handled.2) := by
  unfold exchange at h
  obtain ⟨hanswer, rfl⟩ := Prod.mk.inj h
  cases hhost : network.host (baseOf endpoint) with
  | error detail =>
    simp only [hhost, id_eq] at hanswer
    cases hanswer
  | ok host =>
    simp only [hhost, id_eq] at hanswer ⊢
    cases hfate : (network.exchange relays.exchanged).fate with
    | requestLost detail =>
      rw [hfate] at hanswer
      cases hanswer
    | responseLost detail =>
      rw [hfate] at hanswer
      cases hanswer
    | delivered =>
      simp only [hfate] at hanswer ⊢
      unfold arrive at hanswer ⊢
      cases hserver : relays.servers host with
      | none =>
        rw [hserver] at hanswer
        cases hanswer
      | some server =>
        simp only [hserver] at hanswer ⊢
        refine ⟨host, server, hhost, hserver, ?_, rfl⟩
        cases hhandled : (server.handle ⟨(network.exchange relays.exchanged).now,
            (network.exchange relays.exchanged).drawn, request.http⟩).1 with
        | none =>
          rw [hhandled] at hanswer
          cases hanswer
        | some answered =>
          rw [hhandled] at hanswer
          cases hanswer
          rfl

theorem decided_of_exchange_ok (hread : RelayReader.RoundTrips) {request : RelayControlRequest}
    {answer : RelayAnswer} (hstatus : answer.1 < 400)
    (h : exchange network endpoint request relays = (.ok answer, after)) :
    ∃ host service now drawn, network.At endpoint host ∧
      relays.servers host = some ⟨service, true⟩ ∧
      (controlResponse now drawn request service).1.answer = answer ∧ after.servers =
        Function.update relays.servers host (some ⟨(controlResponse now drawn request service).2, true⟩) := by
  obtain ⟨host, ⟨service, serving⟩, hat, hserver, hhandled, hafter⟩ := exchange_ok h
  cases serving with
  | false => cases hhandled
  | true =>
    by_cases hfits : request.Fits
    · rw [handle_http hread hfits] at hhandled hafter
      exact ⟨host, service, _, _, hat, hserver, Option.some.inj hhandled, hafter⟩
    · rw [handle_oversized hfits] at hhandled
      cases hhandled
      exact absurd hstatus (by decide)

omit [Primitives] [RelayReader] in
theorem entry_update {host : String} {service : RelayService}
    (h : after.servers = Function.update relays.servers host (some ⟨service, true⟩)) (id : SessionId) :
    after.Runs host ∧ after.entry host id = service.session id := by
  refine ⟨⟨_, (congrFun h host).trans (Function.update_self ..), rfl⟩, ?_⟩
  rw [Relays.entry, h, Function.update_self]
  rfl

theorem newlyOpen_of_ok (hread : RelayReader.RoundTrips) {request : RelayOpenRequest}
    {accepted : RelaySessionAccepted}
    (h : HttpRelayControl.openSession network endpoint request relays = (.ok accepted, after)) :
    relays.newlyOpen network after endpoint accepted.sessionId = true := by
  have htold : openAnswer (exchange network endpoint (.postSession request) relays).1 =
      .ok accepted := congrArg Prod.fst h
  have hafter : after = (exchange network endpoint (.postSession request) relays).2 :=
    (congrArg Prod.snd h).symm
  subst hafter
  cases hanswer : (exchange network endpoint (.postSession request) relays).1 with
  | error detail =>
    rw [hanswer] at htold
    cases htold
  | ok answer =>
    rw [hanswer] at htold
    have hstatus : answer.1 < 400 := by
      by_contra hstatus
      simp only [openAnswer, if_neg hstatus] at htold
      cases hrejected : RelayReader.rejected answer.2 <;> rw [hrejected] at htold <;> cases htold
    obtain ⟨host, service, now, drawn, hat, hserver, hdecided, hservers⟩ :=
      decided_of_exchange_ok hread hstatus (Prod.ext hanswer rfl)
    have hopened := (controlResponse_service now drawn service).1 request
    rw [← hdecided, openAnswer_decided hread, openDecision] at htold
    rw [hopened] at hservers
    by_cases hadmits : service.Admits now drawn request
    · have hrun := RelayService.openSession_of_admits hadmits
      rw [hrun] at htold
      cases htold
      have hserved : service.serve (.openSession now drawn request) =
          service.afterOpen drawn request := Library.Effect.final_of_ok hrun
      rw [hserved] at hservers
      obtain ⟨hruns, hentry⟩ := entry_update hservers drawn
      rw [RelayService.session_afterOpen, if_pos rfl] at hentry
      refine newlyOpen_iff.2 ⟨host, _, hat, ?_, hruns, hentry, rfl⟩
      rw [Relays.entry, hserver]
      exact hadmits.fresh
    · obtain ⟨rejected, hrefused⟩ := Option.ne_none_iff_exists'.1
        (mt (RelayService.refusal_eq_none_iff service now drawn request).1 hadmits)
      rw [RelayService.openSession_of_refused hrefused] at htold
      cases htold

theorem holdsClosed_of_ok (hread : RelayReader.RoundTrips) {id : SessionId} {reason : String}
    (h : HttpRelayControl.closeSession network endpoint id reason relays = (.ok (), after)) :
    after.holdsClosed network endpoint id = true := by
  have htold : closeAnswer (exchange network endpoint (.deleteSession id reason) relays).1 =
      .ok () := congrArg Prod.fst h
  have hafter : after = (exchange network endpoint (.deleteSession id reason) relays).2 :=
    (congrArg Prod.snd h).symm
  subst hafter
  cases hanswer : (exchange network endpoint (.deleteSession id reason) relays).1 with
  | error detail =>
    rw [hanswer] at htold
    cases htold
  | ok answer =>
    rw [hanswer] at htold
    have hstatus : answer.1 < 400 := by
      by_contra hstatus
      simp only [closeAnswer, if_neg hstatus] at htold
      split_ifs at htold
    obtain ⟨host, service, now, drawn, hat, hserver, hdecided, hservers⟩ :=
      decided_of_exchange_ok hread hstatus (Prod.ext hanswer rfl)
    have hclosed := (controlResponse_service now drawn service).2.1 id reason
    rw [← hdecided, closeAnswer_decided, closeDecision] at htold
    rw [hclosed] at hservers
    split_ifs at htold with hnone
    have hserved : service.serve (.closeSession id reason) =
        RelayService.applyFrame (.close id reason) service :=
      Library.Effect.final_of_ok ((RelayService.closeSession_eq _ _ _).trans (if_neg hnone))
    rw [hserved] at hservers
    obtain ⟨-, hentry⟩ := entry_update hservers id
    obtain ⟨held, hheld⟩ := Option.ne_none_iff_exists'.1 hnone
    rw [RelayService.session_applyFrame_close, if_pos rfl, hheld] at hentry
    exact holdsClosed_iff.2 ⟨host, _, hat, hentry, rfl⟩

end Success

/-! ### The ledger -/

theorem not_mem_opened {fleet : Fleet network} {after : Relays} {endpoint : String}
    {id : SessionId} (hnew : fleet.newlyOpen network after endpoint id = true) :
    (endpoint, id) ∉ fleet.opened := by
  intro hmem
  obtain ⟨host, entry, hat, hnone, -⟩ := newlyOpen_iff.1 hnew
  obtain ⟨held, found, hheld, -, hfound, -⟩ := fleet.standing.entered _ hmem
  rw [Network.At, hat] at hheld
  cases hheld
  rw [hnone] at hfound
  cases hfound

section Ledger
variable [Primitives] [RelayReader] (hread : RelayReader.RoundTrips) (network : Network)

def ledger : Quic.RelayLedger (control hread network) where
  opened fleet := fleet.opened
  closed fleet := fleet.closed
  accepted := by
    intro endpoint request fleet accepted after h
    obtain ⟨htold, rfl⟩ := Prod.mk.inj h
    have hnew := newlyOpen_of_ok hread (Prod.ext htold rfl)
    rw [htold]
    refine ⟨not_mem_opened hnew, ?_⟩
    simp [Except.toOption, noteOpen, hnew]
  rejected := by
    intro endpoint request fleet error after h
    obtain ⟨htold, rfl⟩ := Prod.mk.inj h
    rw [htold]
    exact ⟨rfl, .inl rfl⟩
  released := by
    intro endpoint id reason fleet after h
    obtain ⟨htold, rfl⟩ := Prod.mk.inj h
    exact ⟨rfl, if_pos (holdsClosed_of_ok hread (Prod.ext htold rfl))⟩
  refused := by
    intro endpoint id reason fleet error after h
    obtain ⟨-, rfl⟩ := Prod.mk.inj h
    refine ⟨rfl, ?_⟩
    dsimp only
    split_ifs
    · exact .inr rfl
    · exact .inl rfl

theorem ledger_rejectionsOpenNothing : (ledger hread network).RejectionsOpenNothing := by
  intro endpoint request fleet error after h
  obtain ⟨htold, rfl⟩ := Prod.mk.inj h
  rw [htold]
  rfl

end Ledger

/-! ### Runs -/

def start (relays : Relays) : Fleet network := ⟨relays, [], [], [], by constructor <;> simp⟩

/-- The relay at the endpoint holds the session as open. -/
def OpenAt (fleet : Fleet network) (endpoint : String) (id : SessionId) : Prop :=
  ∃ host entry, network.At endpoint host ∧ fleet.entry host id = some entry ∧ entry.status = .open

section Runs
variable [Primitives] [RelayReader] (hread : RelayReader.RoundTrips)

theorem ledger_closesOpened (hreliable : network.Reliable) :
    (ledger hread network).ClosesOpened := by
  intro endpoint id fleet hopened
  obtain ⟨host, entry, hat, ⟨⟨service, serving⟩, hserver, hserving⟩, hentry, -⟩ :=
    fleet.standing.entered _ hopened
  cases hserving
  have hfits : (RelayControlRequest.deleteSession id "path migrated").Fits := by
    intro length hlength
    cases hlength
    decide +kernel
  obtain ⟨-, -, -, htold⟩ := exchange_run hread hat hserver hfits
  rw [hreliable] at htold
  rw [Relays.entry, hserver] at hentry
  have hheld : service.session id ≠ none := by
    rw [show service.session id = some entry from hentry]
    exact Option.some_ne_none entry
  have hclosed : (HttpRelayControl.closeSession network endpoint id "path migrated"
      fleet.toRelays).1 = .ok () :=
    (congrArg closeAnswer htold).trans ((closeAnswer_decided ..).trans (if_neg hheld))
  exact ⟨_, Prod.ext hclosed rfl⟩

omit [Primitives] [RelayReader] in
theorem openAt_of_not_closed {fleet : Fleet network} {endpoint : String} {id : SessionId}
    (hclosed : ∀ session ∈ fleet.closed, session ∈ fleet.opened)
    (hopened : (endpoint, id) ∈ fleet.opened) (hlive : (endpoint, id) ∉ fleet.closed) :
    fleet.OpenAt endpoint id ∨ id ∈ fleet.attempts := by
  obtain ⟨host, entry, hat, -, hentry, hopen | hattempt | ⟨other, hother, hended⟩⟩ :=
    fleet.standing.entered _ hopened
  · exact .inl ⟨host, entry, hat, hentry, hopen⟩
  · exact .inr hattempt
  · have hsame := fleet.standing.distinct _ hopened _ (hclosed _ hended) host hat hother rfl
    exact absurd (hsame ▸ hended) hlive

omit [Primitives] [RelayReader] in
theorem not_closed_of_openAt {fleet : Fleet network} {endpoint : String} {id : SessionId}
    (hopen : fleet.OpenAt endpoint id) : (endpoint, id) ∉ fleet.closed := by
  intro hclosed
  obtain ⟨host, entry, hat, hentry, hstatus⟩ := hopen
  obtain ⟨held, found, hheld, hfound, hended⟩ := fleet.standing.ended _ hclosed
  rw [Network.At, hat] at hheld
  cases hheld
  rw [hentry] at hfound
  cases hfound
  exact hended hstatus

end Runs

end Fleet

section Closed
attribute [local instance] Primitives.transparent RelayReader.ofTexts

noncomputable def fleetAdapter :
    Quic.QuicTransportAdapter (Fleet (steadyNetwork .delivered)) where
  runtimeInstanceId := "rt-1"
  networkId := some relayedNetwork
  localIdentity := some (keypairOf 1)
  relayControl := Fleet.control RelayReader.roundTrips_ofTexts _
  runtimeSessions := { entries := ∅, keyed := Quic.keyed_empty }
  relays := .start (oneRelay (.new oneSessionNode))
  host := { clock := fun _ => 1720000000000000000, entropy := fun _ => 0 }

theorem fleetAdapter_accepted : ∃ accepted relays,
    fleetAdapter.relayControl.openSession interactiveRelay.relayControlEndpoint
        (relayRequest relayedNetwork (keypairOf 1) interactiveRoute fleetAdapter) fleetAdapter.relays =
      (.ok accepted, relays) ∧ accepted.sessionId = .fill 9 ∧ relays.attempts = [.fill 0] := by
  obtain ⟨accepted, htold, hdrawn⟩ := relayedAdapter_accepted
  have hrequest : relayRequest relayedNetwork (keypairOf 1) interactiveRoute fleetAdapter =
      relayRequest relayedNetwork (keypairOf 1) interactiveRoute relayedAdapter := rfl
  have hanswer : (fleetAdapter.relayControl.openSession interactiveRelay.relayControlEndpoint
      (relayRequest relayedNetwork (keypairOf 1) interactiveRoute fleetAdapter)
      fleetAdapter.relays).1 = .ok accepted := by
    rw [hrequest]
    exact htold
  have hnoted : (fleetAdapter.relayControl.openSession interactiveRelay.relayControlEndpoint
      (relayRequest relayedNetwork (keypairOf 1) interactiveRoute fleetAdapter)
      fleetAdapter.relays).2.attempts = [(relayRequest relayedNetwork (keypairOf 1) interactiveRoute
        fleetAdapter).attemptId] := Fleet.noteOpen_attempts ..
  exact ⟨accepted, _, Prod.ext hanswer rfl, hdrawn, hnoted⟩

end Closed

end QuipNet.Relay
