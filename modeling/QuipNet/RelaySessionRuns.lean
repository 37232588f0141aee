import QuipNet.RelaySessions

/-!
# Runs of session calls over the relays

A run is a list of connect, migrate and close calls, each of which may fail. The open
relay sessions are exactly those the registry runs over, in every state of every run.
That each of them is closed once holds as long as no session is migrated away from a
relay path.
-/

open Std
namespace QuipNet.Quic
open QuipNet.Library QuipNet.Library.Effect QuipNet.Relay QuipNet.Transport
open QuicTransportAdapter

variable {ρ : Type}

inductive SessionCall
  | connect (route : RoutePlan)
  | migrate (session : SessionSnapshot) (route : RoutePlan)
  | closeSession (session : SessionSnapshot)

/-- The route of the call, if it has one, is one that `route_plan` builds. -/
def SessionCall.Shaped : SessionCall → Prop
  | .connect route => Quic.Shaped route
  | .migrate _ route => Quic.Shaped route
  | .closeSession _ => True

structure RelayLedger.Fresh {control : RelayControl ρ} (ledger : RelayLedger control)
    (adapter : QuicTransportAdapter ρ) : Prop where
  relayControl : adapter.relayControl = control
  sessions : adapter.runtimeSessions = {}
  opened : ledger.opened adapter.relays = []
  closed : ledger.closed adapter.relays = []

section Runs
variable [Primitives]

def SessionCall.run (adapter : QuicTransportAdapter ρ) : SessionCall → QuicTransportAdapter ρ
  | .connect route => final (Quic.connect route) adapter
  | .migrate session route => final (Quic.migrate session route) adapter
  | .closeSession session => final (Quic.closeSession session) adapter

def runCalls (calls : List SessionCall) (adapter : QuicTransportAdapter ρ) :
    QuicTransportAdapter ρ := calls.foldl SessionCall.run adapter

theorem runCalls_connect (route : RoutePlan) (adapter : QuicTransportAdapter ρ) :
    runCalls [.connect route] adapter = final (Quic.connect route) adapter := rfl

variable {control : RelayControl ρ} {ledger : RelayLedger control}

structure RelayLedger.Tracks (ledger : RelayLedger control) (adapter : QuicTransportAdapter ρ) :
    Prop where
  relayControl : adapter.relayControl = control
  accounted : (ledger.handles adapter).Accounted

omit [Primitives] in
theorem RelayLedger.Fresh.tracks {adapter : QuicTransportAdapter ρ} (h : ledger.Fresh adapter) :
    ledger.Tracks adapter := by
  have htable : ∀ id, (ledger.handles adapter).table id = none := by
    intro id
    simp [handles, h.sessions, SessionRegistry.find]
  have hopened : (ledger.handles adapter).opened = [] := by
    simp [handles, h.opened]
  have hclosed : (ledger.handles adapter).closed = [] := by
    simp [handles, h.closed]
  refine ⟨h.relayControl, ?_, ?_, ?_⟩
  · ext session
    simp [Handles.live, Handles.held, htable, hopened]
  · intro session hsession
    simp [hclosed] at hsession
  · intro id id' session hid
    simp [htable] at hid

omit [Primitives] in
theorem RelayLedger.Effect.tracks {id : SessionId} {times : ℕ}
    {before after : QuicTransportAdapter ρ} (h : ledger.Effect id times before after)
    (htimes : 0 < times) (hbefore : ledger.Tracks before) : ledger.Tracks after := by
  obtain ⟨hcontrol, hsame | ⟨next, hreplaces⟩⟩ := h
  · exact ⟨hcontrol.trans hbefore.relayControl, hsame ▸ hbefore.accounted⟩
  · exact ⟨hcontrol.trans hbefore.relayControl, hreplaces.accounted htimes hbefore.accounted⟩

theorem SessionCall.run_effect (hrejects : ledger.RejectionsOpenNothing)
    (hcloses : ledger.ClosesOpened) {adapter : QuicTransportAdapter ρ}
    (hadapter : ledger.Tracks adapter) {call : SessionCall} (hshaped : call.Shaped) :
    ∃ id times, 0 < times ∧ ledger.Effect id times adapter (call.run adapter) := by
  cases call with
  | connect route =>
    obtain ⟨id, heffect⟩ :=
      connect_effect hadapter.relayControl hrejects hcloses hadapter.accounted hshaped
    exact ⟨id, 1, one_pos, heffect⟩
  | migrate session route =>
    exact ⟨_, 2, two_pos,
      migrate_effect hadapter.relayControl hrejects hcloses hadapter.accounted session hshaped⟩
  | closeSession session =>
    exact ⟨_, 1, one_pos,
      closeSession_effect ledger hadapter.relayControl hcloses hadapter.accounted session⟩

theorem SessionCall.run_tracks (hrejects : ledger.RejectionsOpenNothing)
    (hcloses : ledger.ClosesOpened) {adapter : QuicTransportAdapter ρ}
    (hadapter : ledger.Tracks adapter) {call : SessionCall} (hshaped : call.Shaped) :
    ledger.Tracks (call.run adapter) := by
  obtain ⟨id, times, htimes, heffect⟩ := run_effect hrejects hcloses hadapter hshaped
  exact heffect.tracks htimes hadapter

theorem runCalls_tracks_of_closesOpened (hrejects : ledger.RejectionsOpenNothing)
    (hcloses : ledger.ClosesOpened) {calls : List SessionCall}
    (hshaped : ∀ call ∈ calls, call.Shaped) {adapter : QuicTransportAdapter ρ}
    (hadapter : ledger.Tracks adapter) : ledger.Tracks (runCalls calls adapter) := by
  induction calls generalizing adapter with
  | nil => exact hadapter
  | cons call rest ih =>
    apply ih
    · intro other hother
      exact hshaped other (List.mem_cons_of_mem _ hother)
    · exact SessionCall.run_tracks hrejects hcloses hadapter (hshaped call List.mem_cons_self)

theorem runCalls_tracks (hrejects : ledger.RejectionsOpenNothing)
    (hcloses : control.ClosesSucceed) {calls : List SessionCall}
    (hshaped : ∀ call ∈ calls, call.Shaped) {adapter : QuicTransportAdapter ρ}
    (hadapter : ledger.Tracks adapter) : ledger.Tracks (runCalls calls adapter) :=
  runCalls_tracks_of_closesOpened hrejects (hcloses.closesOpened ledger) hshaped hadapter

/-- Whatever calls were made on a new adapter and however each of them ended, the relay
sessions that are open for it are those that its registry runs over. -/
theorem openSessions_eq_registeredRelaySessions (ledger : RelayLedger control)
    (hrejects : ledger.RejectionsOpenNothing) (hcloses : control.ClosesSucceed) {adapter : QuicTransportAdapter ρ}
    (hfresh : ledger.Fresh adapter) {calls : List SessionCall}
    (hshaped : ∀ call ∈ calls, call.Shaped) :
    ledger.openSessions (runCalls calls adapter) =
      registeredRelaySessions (runCalls calls adapter) := by
  have htracks := runCalls_tracks hrejects hcloses hshaped hfresh.tracks
  rw [RelayLedger.openSessions, htracks.accounted.live_eq_held, ledger.handles_held]

/-! ## Closing each relay session once -/

/-- The call moves a session off the relay session it runs over. -/
def SessionCall.LeavesRelay (adapter : QuicTransportAdapter ρ) : SessionCall → Prop
  | .migrate session route => CanOpen adapter route ∧ OnRelay adapter session.sessionId
  | _ => False

theorem handles_migrate_of_not_canOpen (ledger : RelayLedger control)
    {adapter : QuicTransportAdapter ρ} {route : RoutePlan} (h : ¬ CanOpen adapter route)
    (session : SessionSnapshot) :
    ledger.handles (final (migrate session route) adapter) = ledger.handles adapter := by
  obtain ⟨marked, hmigrate, hmarks⟩ := migrate_marks ledger session route adapter
  rw [← hmarks.canOpen] at h
  rw [final, hmigrate, ← hmarks.handles]
  change ledger.handles (final _ marked) = ledger.handles marked
  cases marked.sessionSnapshot session.sessionId with
  | none => rfl
  | some existing =>
    obtain ⟨error, after, hrun, hrelays⟩ := sessionSnapshotForRoute_refuses h
    have hquiet := (sessionSnapshotForRoute_quiet route).of_error hrun
    obtain ⟨hopened, hclosed⟩ := ledger.handles_of_relays hrelays
    have hfinal : final (migrateExisting existing route) marked = after :=
      final_of_error (bind_of_error hrun)
    exact (congrArg ledger.handles hfinal).trans
      (ledger.handles_eq hquiet.sessions hopened hclosed)

omit [Primitives] in
theorem RelayLedger.Effect.closed_nodup {id : SessionId} {times : ℕ}
    {before after : QuicTransportAdapter ρ} (h : ledger.Effect id times before after)
    (htimes : times = 1 ∨ (ledger.handles before).table id = none)
    (hbefore : ledger.Tracks before) (hnodup : (ledger.handles before).closed.Nodup) :
    (ledger.handles after).closed.Nodup := by
  obtain ⟨-, hsame | ⟨next, hreplaces⟩⟩ := h
  · rwa [hsame]
  · exact hreplaces.closed_nodup htimes hbefore.accounted hnodup

theorem SessionCall.run_closed_nodup (hrejects : ledger.RejectionsOpenNothing)
    (hcloses : control.ClosesSucceed)
    {adapter : QuicTransportAdapter ρ} (hadapter : ledger.Tracks adapter) {call : SessionCall}
    (hshaped : call.Shaped) (hstays : ¬ call.LeavesRelay adapter)
    (hnodup : (ledger.handles adapter).closed.Nodup) :
    (ledger.handles (call.run adapter)).closed.Nodup := by
  have hcloses := hcloses.closesOpened ledger
  cases call with
  | connect route =>
    obtain ⟨id, heffect⟩ :=
      connect_effect hadapter.relayControl hrejects hcloses hadapter.accounted hshaped
    exact heffect.closed_nodup (.inl rfl) hadapter hnodup
  | migrate session route =>
    by_cases hopens : CanOpen adapter route
    · have heffect :=
        migrate_effect hadapter.relayControl hrejects hcloses hadapter.accounted session hshaped
      refine heffect.closed_nodup (.inr ?_) hadapter hnodup
      rw [Option.eq_none_iff_forall_ne_some]
      intro relay hrelay
      obtain ⟨record, hfind, hsession⟩ := Option.bind_eq_some_iff.1 hrelay
      exact hstays ⟨hopens, record, hfind, (relaySession_eq_some_iff.1 hsession).1⟩
    · rw [run, handles_migrate_of_not_canOpen ledger hopens]
      exact hnodup
  | closeSession session =>
    exact (closeSession_effect ledger hadapter.relayControl hcloses hadapter.accounted
      session).closed_nodup (.inl rfl) hadapter hnodup

/-- In a run that never moves a session off a relay path, no relay session is closed
twice. -/
theorem closed_once (ledger : RelayLedger control) (hrejects : ledger.RejectionsOpenNothing)
    (hcloses : control.ClosesSucceed)
    {adapter : QuicTransportAdapter ρ} (hfresh : ledger.Fresh adapter) {calls : List SessionCall}
    (hshaped : ∀ call ∈ calls, call.Shaped)
    (hstays : ∀ done call, done ++ [call] <+: calls → ¬ call.LeavesRelay (runCalls done adapter))
    (session : String × SessionId) :
    (ledger.closed (runCalls calls adapter).relays).count session ≤ 1 := by
  have hnodup : (ledger.handles (runCalls calls adapter)).closed.Nodup := by
    induction calls using List.reverseRecOn with
    | nil => simp [runCalls, RelayLedger.handles, hfresh.closed]
    | append_singleton done call ih =>
      have hdone : ∀ other ∈ done, other.Shaped := fun other hother =>
        hshaped other (List.mem_append_left _ hother)
      have hbefore := ih hdone fun earlier other hearlier =>
        hstays earlier other (hearlier.trans (List.prefix_append done [call]))
      have htracks := runCalls_tracks hrejects hcloses hdone hfresh.tracks
      rw [runCalls, List.foldl_concat]
      exact SessionCall.run_closed_nodup hrejects hcloses htracks (hshaped call (by simp))
        (hstays done call List.prefix_rfl) hbefore
  exact List.nodup_iff_count_le_one.1 hnodup.of_map session

end Runs

/-! ## A relay that keeps a log -/

structure RelayLog where
  opened : List (String × SessionId) := []
  closed : List (String × SessionId) := []

/-- A relay that names its sessions in a given order, refuses a name it has used, and
grants the closes it is told to grant. -/
def loggingRelays (name : ℕ → SessionId) (grants : ℕ → Bool) : RelayControl RelayLog where
  openSession endpoint request log :=
    let id := name log.opened.length
    if (endpoint, id) ∈ log.opened then (.error .sessionExists, log)
    else
      (.ok
        { attemptId := request.attemptId
          sessionId := id
          source := request.source
          destination := request.destination
          protocol := request.protocol
          trafficClass := request.trafficClass },
        { log with opened := log.opened ++ [(endpoint, id)] })
  closeSession endpoint id _ log :=
    if grants log.closed.length then (.ok (), { log with closed := log.closed ++ [(endpoint, id)] })
    else (.error .sessionNotFound, log)

def relayLedger (name : ℕ → SessionId) (grants : ℕ → Bool) :
    RelayLedger (loggingRelays name grants) where
  opened := RelayLog.opened
  closed := RelayLog.closed
  accepted := by
    intro endpoint request log answer log' h
    simp only [loggingRelays] at h
    split_ifs at h with hused
    · cases h
    · cases h
      exact ⟨hused, rfl, rfl⟩
  rejected := by
    intro endpoint request log error log' h
    simp only [loggingRelays] at h
    split_ifs at h
    · cases h
      exact ⟨rfl, .inl rfl⟩
    · cases h
  released := by
    intro endpoint id reason log log' h
    simp only [loggingRelays] at h
    split_ifs at h
    · cases h
      exact ⟨rfl, rfl⟩
    · cases h
  refused := by
    intro endpoint id reason log error log' h
    simp only [loggingRelays] at h
    split_ifs at h
    · cases h
    · cases h
      exact ⟨rfl, .inl rfl⟩

theorem relayLedger_rejectionsOpenNothing (name : ℕ → SessionId) (grants : ℕ → Bool) :
    (relayLedger name grants).RejectionsOpenNothing := by
  intro endpoint request log error log' h
  simp only [loggingRelays] at h
  split_ifs at h
  · cases h
    rfl
  · cases h

theorem loggingRelays_closesSucceed (name : ℕ → SessionId) :
    (loggingRelays name fun _ => true).ClosesSucceed :=
  fun _ _ _ _ => ⟨_, rfl⟩

section Closed
attribute [local instance] Primitives.transparent

def edgeIdentity : IdentityKeypair := ⟨Vector.replicate 32 7⟩

def edgeRoute (pathKind : PathKind) (relay : Option RelayPlan) : RoutePlan where
  localPeer := edgeIdentity.peerId
  peer := IdentityKeypair.peerId ⟨Vector.replicate 32 9⟩
  protocol := some ⟨"/quip/control/1"⟩
  trafficClass := .bulk
  pathKind := pathKind
  source := .authorityRelay
  remoteEndpoints := ["udp://198.51.100.24:8443"]
  relay := relay

def relayedRoute : RoutePlan := edgeRoute .relay (some
  { relayPeer := IdentityKeypair.peerId ⟨Vector.replicate 32 8⟩
    relayEndpoints := ["udp://203.0.113.10:9080"]
    relayControlEndpoint := "http://203.0.113.10:9081"
    destinationEndpoints := []
    supportsDatagrams := true
    supportsPathMigration := true })

def directRoute : RoutePlan := edgeRoute .directUdp none

def edgeAdapter (grants : ℕ → Bool) : QuicTransportAdapter RelayLog where
  runtimeInstanceId := "rt-1"
  networkId := some (NetworkId.derive "mesh")
  localIdentity := some edgeIdentity
  relayControl := loggingRelays (fun n => .fill (.ofNat n)) grants
  relays := {}
  host := { clock := fun _ => 1720000000000000000, entropy := fun _ => 0 }

theorem relayedRoute_shaped : Shaped relayedRoute := by
  simp [Shaped, relayedRoute, edgeRoute]

theorem directRoute_shaped : Shaped directRoute := by
  simp [Shaped, directRoute, edgeRoute]

def edgeSession : SessionSnapshot where
  sessionId := logicalSessionId "rt-1" directRoute
  transportSessionId := .fill 0
  relayAttemptId := none
  peer := directRoute.peer
  protocol := directRoute.protocol
  trafficClass := directRoute.trafficClass
  pathKind := .relay
  source := .authorityRelay
  remoteEndpoint := "udp://198.51.100.24:8443"
  relayPeer := none
  relayEndpoint := none
  relayControlEndpoint := some "http://203.0.113.10:9081"
  datagramsCapable := true
  migrationCapable := true
  state := .active
  closureReason := none
  stateReason := none
  createdAtUnixSecs := 1720000000
  lastActivityUnixSecs := 1720000000

theorem edgeAdapter_fresh (grants : ℕ → Bool) :
    (relayLedger (fun n => .fill (.ofNat n)) grants).Fresh (edgeAdapter grants) :=
  ⟨rfl, rfl, rfl, rfl⟩

/-- A session that was migrated to a direct path and reconnected over the relay runs
over the second relay session, the only one that is open. -/
theorem reconnected_session_accounted :
    let ledger := relayLedger (fun n => .fill (.ofNat n)) fun _ => true
    let after := runCalls
      [.connect relayedRoute, .migrate edgeSession directRoute, .connect relayedRoute]
      (edgeAdapter fun _ => true)
    ledger.openSessions after = registeredRelaySessions after ∧
      (some "http://203.0.113.10:9081", SessionId.fill 1) ∈ ledger.openSessions after := by
  refine ⟨?_, ?_, ?_⟩
  · apply openSessions_eq_registeredRelaySessions _ (relayLedger_rejectionsOpenNothing _ _)
      (loggingRelays_closesSucceed _)
      (edgeAdapter_fresh _)
    simp [SessionCall.Shaped, relayedRoute_shaped, directRoute_shaped]
  · decide +kernel
  · decide +kernel

theorem connected_then_closed_once :
    (((runCalls [.connect relayedRoute, .closeSession edgeSession]
      (edgeAdapter fun _ => true)).relays.closed).count
        ("http://203.0.113.10:9081", SessionId.fill 0) ≤ 1) ∧
      ("http://203.0.113.10:9081", SessionId.fill 0) ∈
        (runCalls [.connect relayedRoute, .closeSession edgeSession]
          (edgeAdapter fun _ => true)).relays.closed := by
  constructor
  · apply closed_once (relayLedger (fun n => .fill (.ofNat n)) fun _ => true)
      (relayLedger_rejectionsOpenNothing _ _) (loggingRelays_closesSucceed _) (edgeAdapter_fresh _)
    · simp [SessionCall.Shaped, relayedRoute_shaped]
    · intro done call hdone
      have hcall : call ∈ [SessionCall.connect relayedRoute, .closeSession edgeSession] :=
        hdone.subset (by simp)
      rcases List.mem_pair.1 hcall with rfl | rfl <;> exact id
  · decide +kernel

/-- Migrating a session from the relay to a direct path asks the relay twice to close the
same session. -/
theorem migrated_relay_session_closed_twice :
    let adapter := edgeAdapter fun _ => true
    let calls : List SessionCall := [.connect relayedRoute, .migrate edgeSession directRoute]
    (relayLedger (fun n => .fill (.ofNat n)) fun _ => true).Fresh adapter ∧
      (loggingRelays (fun n => .fill (.ofNat n)) fun _ => true).ClosesSucceed ∧
      (∀ call ∈ calls, call.Shaped) ∧
      (runCalls calls adapter).relays.opened =
        [("http://203.0.113.10:9081", SessionId.fill 0)] ∧
      ¬ (runCalls calls adapter).relays.closed.count
        ("http://203.0.113.10:9081", SessionId.fill 0) ≤ 1 := by
  refine ⟨edgeAdapter_fresh _, loggingRelays_closesSucceed _, ?_, ?_, ?_⟩
  · simp [SessionCall.Shaped, relayedRoute_shaped, directRoute_shaped]
  · decide +kernel
  · decide +kernel

end Closed

end QuipNet.Quic
