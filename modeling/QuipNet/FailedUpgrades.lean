import QuipNet.ReconciliationTurns
import QuipNet.RelayFailures

/-!
# Upgrades that fail

`upgrade_session` marks the session as migrating before it plans a route and opens it.
Nothing takes the mark back: a failure up to the release of the relay session that is
left strands the session, and a later one finds it active on its new path.
-/

open Std
namespace QuipNet.Quic
open QuipNet.Library QuipNet.Library.Effect QuipNet.Relay QuipNet.Transport
open QuicTransportAdapter

variable {ρ : Type}

/-! ## What opening a route asks of the adapter and the relay -/

section Opening
variable [Primitives]

def openRequest (adapter : QuicTransportAdapter ρ) (networkId : NetworkId)
    (localIdentity : IdentityKeypair) (route : RoutePlan) : RelayOpenRequest :=
  let bytes (first n : ℕ) : Vector UInt8 n :=
    Vector.ofFn fun i => adapter.host.entropy (adapter.host.drawn + first + i)
  { attemptId := ⟨bytes 48 16⟩
    networkId
    source := route.localPeer
    sourcePublicKey := localIdentity.publicKey
    sourceCredential := SessionCredential.issue networkId localIdentity
      (Primitives.x25519Public (bytes 0 32))
      ((route.protocol.map fun protocol => [protocol.text]).getD ["/quip/relay/1"]) 300 1
      adapter.currentUnixSecs (bytes 32 16)
    destination := route.peer
    protocol := route.protocol
    trafficClass := route.trafficClass }

/-- The route can be opened: over the relay session `opened` if it is a relay route,
which leaves the relays as `relays`. -/
def Opens (adapter : QuicTransportAdapter ρ) (route : RoutePlan) (opened : Option RelaySession)
    (relays : ρ) : Prop :=
  ∃ localIdentity, adapter.localIdentity = some localIdentity ∧
    localIdentity.peerId = route.localPeer ∧
    match route.relay with
    | none => route.remoteEndpoints ≠ [] ∧ opened = none ∧ relays = adapter.relays
    | some relay => relay.relayEndpoints ≠ [] ∧ ∃ networkId accepted,
        adapter.networkId = some networkId ∧
        adapter.relayControl.openSession relay.relayControlEndpoint
          (openRequest adapter networkId localIdentity route) adapter.relays =
            (.ok accepted, relays) ∧
        opened = some (some relay.relayControlEndpoint, accepted.sessionId)

theorem relaySessionSnapshot_answer {adapter : QuicTransportAdapter ρ} {route : RoutePlan}
    {relay : RelayPlan} {networkId : NetworkId} {localIdentity : IdentityKeypair}
    (hnetwork : adapter.networkId = some networkId)
    (hidentity : adapter.localIdentity = some localIdentity)
    (hpeer : localIdentity.peerId = route.localPeer) (hendpoints : relay.relayEndpoints ≠ []) :
    match adapter.relayControl.openSession relay.relayControlEndpoint
      (openRequest adapter networkId localIdentity route) adapter.relays with
    | (.ok accepted, relays) => ∃ snapshot after,
        relaySessionSnapshot route relay adapter = .ok snapshot after ∧ after.relays = relays ∧
        snapshot.transportSessionId = accepted.sessionId ∧
        snapshot.relayControlEndpoint = some relay.relayControlEndpoint
    | (.error _, _) => ∃ error after, relaySessionSnapshot route relay adapter =
        .error error after := by
  obtain ⟨endpoint, rest, hhead⟩ := List.exists_cons_of_ne_nil hendpoints
  rcases hanswer : adapter.relayControl.openSession relay.relayControlEndpoint
    (openRequest adapter networkId localIdentity route) adapter.relays with ⟨answer, relays⟩
  simp only [openRequest, relaySessionSnapshot, bind_run, get_run, hnetwork, hidentity, ne_eq,
    hpeer, not_true, if_false, issueCredential, fillBytes, unixSecs, modifyGet_run, pure_run, hhead,
    List.head?_cons, openRelaySession, ticked, currentUnixSecs, currentUnixNanos, Nat.add_zero,
    Nat.add_assoc, Nat.reduceAdd] at hanswer ⊢
  cases answer with
  | ok accepted =>
    simp only [hanswer]
    exact ⟨_, _, rfl, rfl, rfl, rfl⟩
  | error refusal =>
    simp only [hanswer]
    exact ⟨_, _, rfl⟩

theorem relaySession_of_open_ok {adapter after : QuicTransportAdapter ρ} {route : RoutePlan}
    (hshaped : Shaped route) {snapshot : SessionSnapshot}
    (h : sessionSnapshotForRoute route adapter = .ok snapshot after) :
    relaySession snapshot = if route.relay.isSome then
      some (snapshot.relayControlEndpoint, snapshot.transportSessionId) else none := by
  have hkind : snapshot.pathKind = route.pathKind :=
    (sessionSnapshotForRoute_returns route _ _ _ h).2
  rw [relaySession, hkind]
  exact if_congr hshaped.symm rfl rfl

theorem opens_of_open_ok {adapter after : QuicTransportAdapter ρ} {route : RoutePlan}
    (hshaped : Shaped route) {snapshot : SessionSnapshot}
    (h : sessionSnapshotForRoute route adapter = .ok snapshot after) :
    Opens adapter route (relaySession snapshot) after.relays := by
  have hcan := canOpen_of_open_ok h
  have hrelaySession := relaySession_of_open_ok hshaped h
  obtain ⟨⟨localIdentity, hidentity, hpeer⟩, hchecks⟩ := id hcan
  refine ⟨localIdentity, hidentity, hpeer, ?_⟩
  cases hrelay : route.relay with
  | none =>
    rw [hrelay] at hchecks hrelaySession
    obtain ⟨opened, between, hrun, hrelays, -⟩ := directSessionSnapshot_run hrelay hcan
    rw [sessionSnapshotForRoute, hrelay] at h
    cases hrun.symm.trans h
    exact ⟨hchecks, hrelaySession, hrelays⟩
  | some relay =>
    rw [hrelay] at hchecks hrelaySession
    obtain ⟨networkId, hnetwork⟩ := Option.isSome_iff_exists.1 hchecks.1
    have hanswered := relaySessionSnapshot_answer hnetwork hidentity hpeer hchecks.2
    rw [sessionSnapshotForRoute, hrelay] at h
    rcases hanswer : adapter.relayControl.openSession relay.relayControlEndpoint
      (openRequest adapter networkId localIdentity route) adapter.relays with ⟨answer, relays⟩
    rw [hanswer] at hanswered
    cases answer with
    | error refusal =>
      obtain ⟨error, between, hrun⟩ := hanswered
      cases hrun.symm.trans h
    | ok accepted =>
      obtain ⟨opened, between, hrun, hrelays, htransport, hendpoint⟩ := hanswered
      cases hrun.symm.trans h
      refine ⟨hchecks.2, networkId, accepted, hnetwork, hrelays ▸ hanswer, ?_⟩
      rw [hrelaySession, hendpoint, htransport]
      rfl

theorem open_ok_of_opens {adapter : QuicTransportAdapter ρ} {route : RoutePlan}
    (hshaped : Shaped route) {opened : Option RelaySession} {relays : ρ}
    (h : Opens adapter route opened relays) :
    ∃ snapshot after, sessionSnapshotForRoute route adapter = .ok snapshot after ∧
      relaySession snapshot = opened ∧ after.relays = relays := by
  obtain ⟨localIdentity, hidentity, hpeer, hopens⟩ := h
  cases hrelay : route.relay with
  | none =>
    rw [hrelay] at hopens
    obtain ⟨hendpoints, rfl, rfl⟩ := hopens
    have hcan : CanOpen adapter route := by
      refine ⟨⟨localIdentity, hidentity, hpeer⟩, ?_⟩
      rwa [hrelay]
    obtain ⟨snapshot, after, hrun, hrelays, -⟩ := directSessionSnapshot_run hrelay hcan
    have hopen : sessionSnapshotForRoute route adapter = .ok snapshot after := by
      rw [sessionSnapshotForRoute, hrelay]
      exact hrun
    refine ⟨snapshot, after, hopen, ?_, hrelays⟩
    rw [relaySession_of_open_ok hshaped hopen, hrelay]
    rfl
  | some relay =>
    rw [hrelay] at hopens
    obtain ⟨hendpoints, networkId, accepted, hnetwork, hanswer, rfl⟩ := hopens
    have hanswered := relaySessionSnapshot_answer hnetwork hidentity hpeer hendpoints
    rw [hanswer] at hanswered
    obtain ⟨snapshot, after, hrun, hrelays, htransport, hendpoint⟩ := hanswered
    have hopen : sessionSnapshotForRoute route adapter = .ok snapshot after := by
      rw [sessionSnapshotForRoute, hrelay]
      exact hrun
    refine ⟨snapshot, after, hopen, ?_, hrelays⟩
    rw [relaySession_of_open_ok hshaped hopen, hrelay, hendpoint, htransport]
    rfl

theorem sessionSnapshotForRoute_active (route : RoutePlan) :
    Returns (fun snapshot => snapshot.state = .active)
      (sessionSnapshotForRoute route : QuicM ρ SessionSnapshot) := by
  unfold sessionSnapshotForRoute
  split
  · apply Returns.bind
    intro adapter
    split
    · exact Returns.throw _
    · split
      · exact Returns.throw _
      · split_ifs
        · exact Returns.throw _
        · refine Returns.bind fun _ => Returns.bind fun _ => ?_
          split
          · exact Returns.throw _
          · exact Returns.bind fun _ => Returns.bind fun _ => Returns.pure rfl
  · apply Returns.bind
    intro adapter
    split
    · exact Returns.throw _
    · split_ifs
      · exact Returns.throw _
      · split
        · exact Returns.throw _
        · exact Returns.bind fun _ => Returns.pure rfl

end Opening

/-! ## What a migration writes -/

theorem leavesRelaySession_iff {previous next : SessionSnapshot} :
    leavesRelaySession previous next = true ↔
      ∃ held, relaySession previous = some held ∧ relaySession next ≠ some held := by
  by_cases hprevious : previous.pathKind = .relay
  · by_cases hnext : next.pathKind = .relay
    · simp [leavesRelaySession, relaySession, hprevious, hnext]
      tauto
    · simp [leavesRelaySession, relaySession, hprevious, hnext]
  · simp [leavesRelaySession, relaySession, hprevious]

theorem closeLeftRelaySession_ok_iff {previous next : SessionSnapshot}
    {adapter : QuicTransportAdapter ρ} :
    (∃ after, closeLeftRelaySession previous next adapter = .ok () after) ↔
      ∀ held, relaySession previous = some held →
        relaySession next = some held ∨ RelayReleases adapter previous := by
  by_cases hleaves : leavesRelaySession previous next = true
  · obtain ⟨held, hheld, hother⟩ := leavesRelaySession_iff.1 hleaves
    have hrelay := (relaySession_eq_some_iff.1 hheld).1
    have hown : closeLeftRelaySession previous next adapter =
        closeOwnRelaySession previous adapter := by
      rw [closeLeftRelaySession, if_pos hleaves, closeOwnRelaySession, if_pos hrelay]
    rw [hown, closeOwnRelaySession_ok_iff]
    simp [hheld, hother, hrelay]
  · have hstays := fun held => not_exists.1 (mt leavesRelaySession_iff.2 hleaves) held
    constructor
    · intro _ held hheld
      left
      by_contra hother
      exact hstays held ⟨hheld, hother⟩
    · intro _
      rw [closeLeftRelaySession, if_neg hleaves]
      exact ⟨adapter, rfl⟩

section Migrating
variable [Primitives]

def Migrates (adapter : QuicTransportAdapter ρ) (session : SessionSnapshot) (route : RoutePlan) :
    Prop :=
  ∃ opened relays, Opens adapter route opened relays ∧
    ∀ held, relaySession session = some held →
      opened = some held ∨ RelayReleases { adapter with relays } session

theorem migrateExisting_stored {existing : SessionSnapshot} {route : RoutePlan}
    (hshaped : Shaped route) {adapter : QuicTransportAdapter ρ}
    (h : Migrates adapter existing route) :
    ∃ record, (final (migrateExisting existing route) adapter).runtimeSessions.find
        existing.sessionId = some record ∧ record.snapshot.state = .active := by
  obtain ⟨opened, relays, hopens, hreleased⟩ := h
  obtain ⟨snapshot, s₁, hopen, hsame, hrelays⟩ := open_ok_of_opens hshaped hopens
  let migrated := migratedSnapshot existing snapshot s₁.currentUnixSecs
  let record : RuntimeSessionRecord := ⟨migrated, route.protocol.map ProtocolId.text⟩
  have hsecs : unixSecs s₁ = .ok s₁.currentUnixSecs s₁.ticked := rfl
  have hcontrol := ((sessionSnapshotForRoute_quiet route).of_ok hopen).relayControl
  obtain ⟨s₂, hclose⟩ : ∃ s₂, closeLeftRelaySession existing migrated s₁.ticked = .ok () s₂ := by
    rw [closeLeftRelaySession_ok_iff]
    intro held hheld
    refine (hreleased held hheld).imp (fun hopened => hsame.trans hopened) ?_
    rintro ⟨endpoint, relays', hendpoint, hanswer⟩
    refine ⟨endpoint, relays', hendpoint, ?_⟩
    change s₁.relayControl.closeSession _ _ _ s₁.relays = _
    rw [hcontrol, hrelays]
    exact hanswer
  rw [migrateExisting, final_bind_of_ok hopen, final_bind_of_ok hsecs, final_bind_of_ok hclose]
  have hstored := upsertRuntimeSession_find record s₂
  have hactive : snapshot.state = .active :=
    sessionSnapshotForRoute_active route adapter snapshot s₁ hopen
  refine ⟨record, ?_, hactive⟩
  cases hupsert : upsertRuntimeSession record s₂ with
  | error error s₃ =>
    rw [final_of_error hupsert] at hstored
    rw [final_of_error (bind_of_error hupsert)]
    exact hstored
  | ok _ s₃ =>
    rw [final_of_ok hupsert] at hstored
    rw [final_bind_of_ok hupsert]
    have hemit : ∀ after, Quiet s₃ after →
        after.runtimeSessions.find existing.sessionId = some record := by
      intro after hquiet
      rw [hquiet.sessions]
      exact hstored
    exact hemit _ (emitRuntimeEvent_quiet _ _ _ _)

theorem migrateExisting_stranded {existing : SessionSnapshot} {route : RoutePlan}
    (hshaped : Shaped route) {adapter : QuicTransportAdapter ρ}
    (h : ¬ Migrates adapter existing route) :
    ∃ error after, migrateExisting existing route adapter = .error error after ∧
      after.runtimeSessions = adapter.runtimeSessions := by
  have hquiet := sessionSnapshotForRoute_quiet route adapter
  cases hopen : sessionSnapshotForRoute route adapter with
  | error error s₁ =>
    rw [final_of_error hopen] at hquiet
    exact ⟨error, s₁, bind_of_error hopen, hquiet.sessions⟩
  | ok snapshot s₁ =>
    rw [final_of_ok hopen] at hquiet
    have hopens := opens_of_open_ok hshaped hopen
    let migrated := migratedSnapshot existing snapshot s₁.currentUnixSecs
    have hsecs : unixSecs s₁ = .ok s₁.currentUnixSecs s₁.ticked := rfl
    have hleft := closeLeftRelaySession_quiet existing migrated s₁.ticked
    cases hclose : closeLeftRelaySession existing migrated s₁.ticked with
    | error error s₂ =>
      rw [final_of_error hclose] at hleft
      refine ⟨error, s₂, ?_, hleft.sessions.trans hquiet.sessions⟩
      rw [migrateExisting, bind_of_ok hopen, bind_of_ok hsecs]
      exact bind_of_error hclose
    | ok _ s₂ =>
      exfalso
      refine h ⟨_, _, hopens, ?_⟩
      intro held hheld
      refine (closeLeftRelaySession_ok_iff.1 ⟨s₂, hclose⟩ held hheld).imp_right ?_
      rintro ⟨endpoint, relays', hendpoint, hanswer⟩
      refine ⟨endpoint, relays', hendpoint, ?_⟩
      change adapter.relayControl.closeSession _ _ _ s₁.relays = _
      rw [← hquiet.relayControl]
      exact hanswer

end Migrating

theorem migrate_of_find [Primitives] {session : SessionSnapshot} (route : RoutePlan)
    {adapter : QuicTransportAdapter ρ} {record : RuntimeSessionRecord}
    (hfind : adapter.runtimeSessions.find session.sessionId = some record) :
    migrate session route adapter = migrateExisting (moved record.snapshot .migrating none
      (some "daemon requested path migration") adapter.currentUnixSecs) route
        (adapter.updateSessionState session.sessionId .migrating none
          (some "daemon requested path migration")).2 := by
  have hmoved := find_updateSessionState session.sessionId .migrating none
    (some "daemon requested path migration") adapter
  rw [hfind, Option.map_some] at hmoved
  unfold migrate moveSession
  simp only [bind_run, modify_run, get_run, sessionSnapshot, hmoved, Option.map_some]

/-! ## The marks of an upgrade -/

def QuicTransportAdapter.later (adapter : QuicTransportAdapter ρ) (readings : ℕ) :
    QuicTransportAdapter ρ :=
  { adapter with host := { adapter.host with readings := adapter.host.readings + readings } }

theorem migrates_updateSessionState_iff [Primitives] {id : SessionId}
    {adapter : QuicTransportAdapter ρ} {record : RuntimeSessionRecord}
    (hfind : adapter.runtimeSessions.find id = some record) (state : RuntimeSessionState)
    (closureReason : Option SessionClosureReason) (stateReason : Option String) (readings : ℕ)
    (session : SessionSnapshot) (route : RoutePlan) :
    Migrates ((adapter.updateSessionState id state closureReason stateReason).2.later readings)
      session route ↔ Migrates (adapter.later (3 + readings)) session route := by
  have hlater : adapter.later (3 + readings) = (adapter.later 3).later readings := by
    simp only [later, Nat.add_assoc]
  rw [hlater]
  simp only [updateSessionState, sessionSnapshot, hfind, Option.map_some]
  exact Iff.rfl

end QuipNet.Quic

namespace QuipNet.Fabric
open QuipNet.Library QuipNet.Library.Effect QuipNet.Quic QuipNet.Transport
open QuicTransportAdapter

variable {ρ : Type} {state : DaemonState} {session : SessionSnapshot} {protocol : ProtocolId}

/-- The session is in the state it was in, or its end is on the terminal ledger. -/
def Usable (before : SessionSnapshot) (adapter : QuicTransportAdapter ρ) : Prop :=
  (∃ record, adapter.runtimeSessions.find before.sessionId = some record ∧
    record.snapshot.state = before.state) ∨
  (Gone before adapter ∧ ∃ entry ∈ adapter.terminalSessions,
    entry.snapshot.sessionId = before.sessionId)

theorem not_usable_of_migrating {before : SessionSnapshot} (hactive : before.state = .active)
    {adapter : QuicTransportAdapter ρ}
    (h : (adapter.sessionSnapshot before.sessionId).map SessionSnapshot.state =
      some .migrating) : ¬ Usable before adapter := by
  simp only [sessionSnapshot, Option.map_map, Option.map_eq_some_iff] at h
  obtain ⟨record, hfind, hmigrating⟩ := h
  intro husable
  rcases husable with ⟨kept, hkept, hsame⟩ | ⟨hgone, -⟩
  · cases hfind.symm.trans hkept
    rw [hactive] at hsame
    cases hmigrating.symm.trans hsame
  · cases hfind.symm.trans hgone

section Upgrades
variable [Primitives]

/-- The state plans a route for the session, and the adapter and the relays carry out the
move to it. The two marks before it read the clock three times each. -/
def Upgrades (state : DaemonState) (session : SessionSnapshot) (protocol : ProtocolId)
    (adapter : QuicTransportAdapter ρ) : Prop :=
  ∃ route, state.routePlan session.peer (some protocol) session.trafficClass = .ok route ∧
    Migrates (adapter.later 6) session route

theorem upgradeFound_run {adapter : QuicTransportAdapter ρ}
    (hregistered : Registered session adapter)
    (hallowed : (state.explainPolicy session.peer protocol).allowed = true) {route : RoutePlan}
    (hplan : state.routePlan session.peer (some protocol) session.trafficClass = .ok route) :
    ∃ existing marked, upgradeFound state session protocol adapter = (do
        let upgraded ← onTransport (migrateExisting existing route)
        let activeSessions := (← get).activeSessions
        pure ({ state.withActiveSession upgraded with activeSessions }, upgraded) : FabricM ρ _)
          marked ∧
      existing.sessionId = session.sessionId ∧ existing.state = .migrating ∧
      (∃ alpn, marked.runtimeSessions.find session.sessionId = some ⟨existing, alpn⟩) ∧
      (Migrates marked existing route ↔ Migrates (adapter.later 6) session route) := by
  obtain ⟨alpn, hfind⟩ := hregistered
  have hfind₁ := find_updateSessionState session.sessionId .migrating none
    (some "daemon selected a better path") adapter
  rw [hfind, Option.map_some] at hfind₁
  have hmarks₁ := migrates_updateSessionState_iff hfind .migrating none
    (some "daemon selected a better path") 3 session route
  have hmove₁ := moveSession_run session.sessionId .migrating none
    (some "daemon selected a better path") adapter
  generalize (adapter.updateSessionState session.sessionId .migrating none
    (some "daemon selected a better path")).2 = chosen at hfind₁ hmarks₁ hmove₁
  have hfind₂ := find_updateSessionState session.sessionId .migrating none
    (some "daemon requested path migration") chosen
  rw [hfind₁, Option.map_some] at hfind₂
  have hmarks₂ := migrates_updateSessionState_iff hfind₁ .migrating none
    (some "daemon requested path migration") 0 session route
  let existing := moved (moved session .migrating none (some "daemon selected a better path")
    adapter.currentUnixSecs) .migrating none (some "daemon requested path migration")
    chosen.currentUnixSecs
  have hmigrate : migrate session route chosen = migrateExisting existing route _ :=
    migrate_of_find route hfind₁
  refine ⟨existing, _, ?_, rfl, rfl, ⟨alpn, hfind₂⟩, hmarks₂.trans hmarks₁⟩
  simp only [upgradeFound, hallowed, if_true]
  rw [bind_of_ok hmove₁]
  simp only [planRoute, hplan, bind_run, pure_run, onTransport, mapError, hmigrate]

theorem upgradeFound_usable {adapter : QuicTransportAdapter ρ}
    (hregistered : Registered session adapter)
    (hallowed : (state.explainPolicy session.peer protocol).allowed = true)
    (h : Upgrades state session protocol adapter) :
    ∃ record, (final (upgradeFound state session protocol) adapter).runtimeSessions.find
        session.sessionId = some record ∧ record.snapshot.state = .active := by
  obtain ⟨route, hplan, hmigrates⟩ := h
  obtain ⟨existing, marked, hrun, hid, -, -, hiff⟩ := upgradeFound_run hregistered hallowed hplan
  have hshaped : Shaped route := (DaemonState.routePlan_ok hplan).2.2.2.2
  have hstored := migrateExisting_stored hshaped (hiff.2 hmigrates)
  rw [hid] at hstored
  rw [final, hrun]
  cases hmigrate : migrateExisting existing route marked with
  | ok upgraded after =>
    rw [final_of_ok hmigrate] at hstored
    simp only [bind_run, onTransport, mapError, hmigrate, get_run, pure_run]
    exact hstored
  | error error after =>
    rw [final_of_error hmigrate] at hstored
    simp only [bind_run, onTransport, mapError, hmigrate]
    exact hstored

theorem upgradeFound_stranded {adapter : QuicTransportAdapter ρ}
    (hregistered : Registered session adapter)
    (hallowed : (state.explainPolicy session.peer protocol).allowed = true)
    (h : ¬ Upgrades state session protocol adapter) :
    ∃ error after record, upgradeFound state session protocol adapter = .error error after ∧
      after.runtimeSessions.find session.sessionId = some record ∧
      record.snapshot.state = .migrating := by
  cases hplan : state.routePlan session.peer (some protocol) session.trafficClass with
  | error error =>
    obtain ⟨alpn, hfind⟩ := hregistered
    have hmoved := find_updateSessionState session.sessionId .migrating none
      (some "daemon selected a better path") adapter
    rw [hfind, Option.map_some] at hmoved
    refine ⟨error, _, _, ?_, hmoved, rfl⟩
    simp only [upgradeFound, hallowed, if_true]
    rw [bind_of_ok (moveSession_run _ _ _ _ _)]
    simp only [planRoute, hplan, bind_run, throw_run]
  | ok route =>
    obtain ⟨existing, marked, hrun, -, hstate, ⟨alpn, hfind⟩, hiff⟩ :=
      upgradeFound_run hregistered hallowed hplan
    have hshaped : Shaped route := (DaemonState.routePlan_ok hplan).2.2.2.2
    have hblocked : ¬ Migrates marked existing route := fun hmigrates =>
      h ⟨route, hplan, hiff.1 hmigrates⟩
    obtain ⟨error, after, hfails, hsessions⟩ := migrateExisting_stranded hshaped hblocked
    refine ⟨.transport error, after, ⟨existing, alpn⟩, ?_, by rw [hsessions, hfind], hstate⟩
    rw [hrun]
    simp only [bind_run, onTransport, mapError, hfails]

/-- For an active session that policy allows: whenever its upgrade fails it is usable
afterwards, exactly when the state plans a route, the route can be opened and the relay
lets go of the relay session that is left. -/
theorem failed_upgrade_usable_iff {config : DaemonConfig} {world opened : World ρ}
    (hstate : LocalControlPlane.ensureState config world = .ok state opened)
    (hregistered : Registered session world.transport) (hactive : session.state = .active)
    (hprotocol : session.protocol = some protocol)
    (hallowed : (state.explainPolicy session.peer protocol).allowed = true) :
    (∀ error after, LocalControlPlane.upgradeSession config session.sessionId world =
        .error error after → Usable session after.transport) ↔
      Upgrades state session protocol world.transport := by
  have hfound : upgradeState session.sessionId state world.transport =
      upgradeFound state session protocol world.transport := upgradeState_run hregistered hprotocol
  constructor
  · intro husable
    by_contra hnot
    obtain ⟨error, after, record, hrun, hfind, hmigrating⟩ :=
      upgradeFound_stranded hregistered hallowed hnot
    have hfails : LocalControlPlane.upgradeSession config session.sessionId world =
        .error error { opened with transport := after } :=
      (LocalControlPlane.transaction_error_iff hstate).2 ⟨hfound.trans hrun, rfl⟩
    rcases husable _ _ hfails with ⟨kept, hkept, hsame⟩ | ⟨hgone, -⟩
    · cases hfind.symm.trans hkept
      rw [hmigrating, hactive] at hsame
      cases hsame
    · cases hfind.symm.trans hgone
  · intro hupgrades error after hfails
    have hrun := ((LocalControlPlane.transaction_error_iff hstate).1 hfails).1
    obtain ⟨record, hfind, hrecord⟩ := upgradeFound_usable hregistered hallowed hupgrades
    rw [final_of_error (hfound.symm.trans hrun)] at hfind
    exact .inl ⟨record, hfind, hrecord.trans hactive.symm⟩

end Upgrades

section Closed
attribute [local instance] Primitives.transparent

/-- A direct session to the worker; the state plans a relay route to it, and the relays
refuse every call. -/
def strandedWorld : World Unit :=
  meshWorld LocalControlPlane.grantedFixture [meshSession 1 .directUdp fixtureWorkerPeer] []

theorem strandedWorld_run :
    ((LocalControlPlane.prepared meshConfig LocalControlPlane.grantedFixture).explainPolicy
      fixtureWorkerPeer ⟨"/quip/control/1"⟩).allowed = true ∧
    ∃ error after, LocalControlPlane.upgradeSession meshConfig (.fill 1) strandedWorld =
      .error error after ∧
      (after.transport.sessionSnapshot (.fill 1)).map SessionSnapshot.state = some .migrating := by
  have hrun : ((LocalControlPlane.prepared meshConfig
        LocalControlPlane.grantedFixture).explainPolicy fixtureWorkerPeer
          ⟨"/quip/control/1"⟩).allowed = true ∧
      errorWith (fun _ after => (after.transport.sessionSnapshot (.fill 1)).map
        SessionSnapshot.state = some .migrating)
        (LocalControlPlane.upgradeSession meshConfig (.fill 1) strandedWorld) = true := by
    decide +kernel
  obtain ⟨error, after, hfails, hmigrating⟩ := exists_of_errorWith hrun.2
  exact ⟨hrun.1, error, after, hfails, of_decide_eq_true hmigrating⟩

theorem strandedWorld_not_upgrades :
    ¬ Upgrades (LocalControlPlane.prepared meshConfig LocalControlPlane.grantedFixture)
      (meshSession 1 .directUdp fixtureWorkerPeer) ⟨"/quip/control/1"⟩ strandedWorld.transport := by
  obtain ⟨hallowed, error, after, hfails, hmigrating⟩ := strandedWorld_run
  have hstate : LocalControlPlane.ensureState meshConfig strandedWorld =
      .ok (LocalControlPlane.prepared meshConfig LocalControlPlane.grantedFixture)
        strandedWorld := rfl
  intro hupgrades
  have husable := (failed_upgrade_usable_iff hstate ⟨none, rfl⟩ rfl rfl hallowed).2 hupgrades
  exact not_usable_of_migrating rfl hmigrating (husable error after hfails)

/-- The relay refuses the new path: the upgrade fails, and the session that was active
stays migrating. -/
theorem refused_upgrade_strands_session :
    (meshSession 1 .directUdp fixtureWorkerPeer).state = .active ∧
    ((LocalControlPlane.prepared meshConfig LocalControlPlane.grantedFixture).explainPolicy
      fixtureWorkerPeer ⟨"/quip/control/1"⟩).allowed = true ∧
    ∃ error after, LocalControlPlane.upgradeSession meshConfig (.fill 1) strandedWorld =
      .error error after ∧
      (after.transport.sessionSnapshot (.fill 1)).map SessionSnapshot.state = some .migrating ∧
      ¬ Usable (meshSession 1 .directUdp fixtureWorkerPeer) after.transport := by
  obtain ⟨hallowed, error, after, hfails, hmigrating⟩ := strandedWorld_run
  exact ⟨rfl, hallowed, error, after, hfails, hmigrating, not_usable_of_migrating rfl hmigrating⟩

end Closed

end QuipNet.Fabric
