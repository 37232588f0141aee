import QuipNet.ReconciliationTurns
import QuipNet.RelaySessionRuns
import QuipNet.TransportCalls

/-!
# Which sessions are migrated

Authority reevaluation migrates a session only if its snapshot is migration capable,
and degrades it otherwise. `upgrade_session` and `reconcile_sessions` do not read the
flag. In a run of requests `migrate` is therefore called for capable sessions alone
as long as an upgrade and a reconciliation meet capable sessions wherever they plan a
move.
-/

open Std
namespace QuipNet.Fabric
open QuipNet.Library QuipNet.Library.Effect QuipNet.Quic QuipNet.Transport
open QuicTransportAdapter

variable {ρ : Type}

def TransportCall.migrating : {β : Type} → TransportCall β → Option SessionSnapshot
  | _, .migrate session _ => some session
  | _, _ => none

def MigratesCapable (event : CallEvent TransportCall (QuicTransportAdapter ρ)) : Prop :=
  ∀ session, event.call.migrating = some session → session.migrationCapable = true

theorem migratesCapable_of_none {event : CallEvent TransportCall (QuicTransportAdapter ρ)}
    (h : event.call.migrating = none) : MigratesCapable event := by
  intro session hsession
  rw [h] at hsession
  cases hsession

theorem migrating_of_settling {β : Type} {c : TransportCall β} (h : c.Settling) :
    c.migrating = none := by
  cases c with
  | migrate session route => exact h.elim
  | _ => rfl

section Hashing
variable [Primitives]

def DaemonState.allowedRoute (state : DaemonState) (session : SessionSnapshot) :
    Option RoutePlan :=
  session.protocol.bind fun protocol =>
    if (state.explainPolicy session.peer protocol).allowed then
      (state.routePlan session.peer (some protocol) session.trafficClass).toOption
    else none

/-- What keeps the migrations of a request to capable sessions. -/
def ControlRequest.MovesCapable (request : ControlRequest) (adapter : QuicTransportAdapter ρ) :
    Prop :=
  match request.operation with
  | .upgradeSession sessionId => ∀ session, adapter.sessionSnapshot sessionId = some session →
      (request.state.allowedRoute session).isSome = true → session.migrationCapable = true
  | .reconcileSessions => ∀ session ∈ adapter.activeSessions, ∀ route,
      request.state.allowedRoute session = some route → sessionMatchesRoute session route = false →
        session.migrationCapable = true
  | _ => True

abbrev CallsCapable {α : Type} (p : ControlProgram α) (adapter : QuicTransportAdapter ρ) : Prop :=
  p.Along TransportCall.handle MigratesCapable adapter

theorem Settles.callsCapable {α : Type} {p : ControlProgram α} (h : Settles p)
    (adapter : QuicTransportAdapter ρ) : CallsCapable p adapter := by
  refine Program.along_of_only ?_ h adapter
  intro _ β c hc
  exact migratesCapable_of_none (migrating_of_settling hc)

theorem callsCapable_ask {β : Type} {c : TransportCall β} (h : c.migrating = none)
    (adapter : QuicTransportAdapter ρ) : CallsCapable (ask c) adapter :=
  Program.along_ask (migratesCapable_of_none h)

theorem callsCapable_migrate {session : SessionSnapshot} (h : session.migrationCapable = true)
    (route : RoutePlan) (adapter : QuicTransportAdapter ρ) :
    CallsCapable (Program.attempt (.migrate session route)) adapter := by
  apply Program.along_attempt
  intro migrated hmigrated
  cases hmigrated
  exact h

/-! ## Reevaluation -/

theorem callsCapable_degradeSession (session : SessionSnapshot) (protocol : ProtocolId)
    (reason : String) (adapter : QuicTransportAdapter ρ) :
    CallsCapable (Calls.degradeSession session protocol reason) adapter := by
  apply Program.along_bind (callsCapable_ask rfl adapter)
  intro _ marked _
  exact callsCapable_ask rfl marked

theorem callsCapable_restorePosture (session : SessionSnapshot) (adapter : QuicTransportAdapter ρ) :
    CallsCapable (Calls.restorePosture session) adapter := by
  unfold Calls.restorePosture
  split_ifs
  · exact callsCapable_ask rfl adapter
  · exact Program.along_value () adapter

theorem callsCapable_followRoute (session : SessionSnapshot) (protocol : ProtocolId)
    (report : AuthorityReevaluationReport) (plan : Except DaemonStateError RoutePlan)
    (adapter : QuicTransportAdapter ρ) :
    CallsCapable (Calls.followRoute session protocol report plan) adapter := by
  cases plan with
  | ok route =>
    simp only [Calls.followRoute]
    split_ifs with hmatches hcapable
    · apply Program.along_bind (callsCapable_restorePosture session adapter)
      intro _ restored _
      exact Program.along_value _ restored
    · apply Program.along_bind (callsCapable_ask rfl adapter)
      intro _ announced _
      apply Program.along_bind (callsCapable_ask rfl announced)
      intro _ marked _
      apply Program.along_bind (callsCapable_migrate hcapable route marked)
      intro answer migrated _
      exact (settles_finishMigration session protocol report answer).callsCapable migrated
    · apply Program.along_bind (callsCapable_degradeSession session protocol _ adapter)
      intro _ degraded _
      exact Program.along_value _ degraded
  | error error =>
    cases error with
    | noRoute peer =>
      apply Program.along_bind (callsCapable_degradeSession session protocol _ adapter)
      intro _ degraded _
      exact Program.along_value _ degraded
    | _ => exact Program.along_error _ adapter

theorem callsCapable_reevaluateSession (state : DaemonState) (runtimePeerId : PeerId)
    (report : AuthorityReevaluationReport) (session : SessionSnapshot)
    (adapter : QuicTransportAdapter ρ) :
    CallsCapable (Calls.reevaluateSession state runtimePeerId report session) adapter := by
  unfold Calls.reevaluateSession
  cases session.protocol with
  | none => exact Program.along_value _ adapter
  | some protocol =>
    dsimp only
    cases state.authorityEnforcement runtimePeerId session.peer protocol with
    | some enforced => exact (settles_enforceSession enforced session protocol _).callsCapable adapter
    | none =>
      apply Program.along_bind (callsCapable_ask rfl adapter)
      intro suppressions s₁ _
      apply Program.along_bind (callsCapable_ask rfl s₁)
      intro _ s₂ _
      exact callsCapable_followRoute session protocol _ _ s₂

theorem callsCapable_reevaluateAuthority (state : DaemonState) (runtimePeerId : PeerId)
    (adapter : QuicTransportAdapter ρ) :
    CallsCapable (Calls.reevaluateAuthority state runtimePeerId) adapter := by
  apply Program.along_bind ((settles_startReevaluation state runtimePeerId).callsCapable adapter)
  intro _ started _
  apply Program.along_bind (callsCapable_ask rfl started)
  intro sessions listed _
  have hsweep : CallsCapable (sessions.foldlM (Calls.reevaluateSession state runtimePeerId)
      (.start state runtimePeerId)) listed := by
    refine Program.along_foldlM (I := fun _ _ _ => True) ?_ trivial
    intro report session rest now _
    exact ⟨callsCapable_reevaluateSession state runtimePeerId report session now,
      fun _ _ _ => trivial⟩
  apply Program.along_bind hsweep
  intro report swept _
  exact (settles_reevaluateListeners state runtimePeerId report).callsCapable swept

/-! ## Reconciliation and upgrades -/

theorem callsCapable_reconcileRoute (progress : ReconcileProgress) {session : SessionSnapshot}
    {plan : Except DaemonStateError RoutePlan}
    (hplan : ∀ route, plan = .ok route → sessionMatchesRoute session route = false →
      session.migrationCapable = true) (adapter : QuicTransportAdapter ρ) :
    CallsCapable (Calls.reconcileRoute progress session plan) adapter := by
  cases plan with
  | ok route =>
    simp only [Calls.reconcileRoute]
    split_ifs with hmatches
    · apply Program.along_bind (callsCapable_ask rfl adapter)
      intro _ marked _
      exact Program.along_value _ marked
    · have hcapable := hplan route rfl (by simpa using hmatches)
      apply Program.along_bind (callsCapable_ask rfl adapter)
      intro _ marked _
      apply Program.along_bind (callsCapable_migrate hcapable route marked)
      intro answer migrated _
      exact (settles_finishUpgrade progress session route.pathKind answer).callsCapable migrated
  | error error =>
    cases error with
    | noRoute peer => exact (settles_closeFailed progress session _ _).callsCapable adapter
    | _ => exact Program.along_error _ adapter

/-- A listed session is capable wherever the state plans a move for it. -/
def DaemonState.MovesCapable (state : DaemonState) (session : SessionSnapshot) : Prop :=
  ∀ route, state.allowedRoute session = some route → sessionMatchesRoute session route = false →
    session.migrationCapable = true

theorem callsCapable_reconcileRegistered {state : DaemonState} {progress : ReconcileProgress}
    (hon : progress.On state) {session : SessionSnapshot} (hcapable : state.MovesCapable session)
    (adapter : QuicTransportAdapter ρ) :
    CallsCapable (Calls.reconcileRegistered progress session) adapter := by
  unfold Calls.reconcileRegistered
  cases hprotocol : session.protocol with
  | none => exact (settles_closeFailed progress session _ _).callsCapable adapter
  | some protocol =>
    dsimp only
    split_ifs with hallowed
    · apply callsCapable_reconcileRoute
      intro route hroute hmatches
      rw [hon.explainPolicy] at hallowed
      rw [hon.routePlan] at hroute
      refine hcapable route ?_ hmatches
      simp [DaemonState.allowedRoute, hprotocol, hallowed, hroute, Except.toOption]
    · exact (settles_closeDenied progress session _).callsCapable adapter

theorem callsCapable_reconcileSession {state : DaemonState} {progress : ReconcileProgress}
    (hon : progress.On state) {session : SessionSnapshot} (hcapable : state.MovesCapable session)
    {adapter : QuicTransportAdapter ρ} (hregistered : Registered session adapter) :
    CallsCapable (Calls.reconcileSession progress session) adapter := by
  obtain ⟨alpn, hfind⟩ := hregistered
  have hmoved := find_updateSessionState session.sessionId .reconciling none
    (some "daemon reconcile cycle") adapter
  rw [hfind, Option.map_some] at hmoved
  apply Program.along_bind (callsCapable_ask rfl adapter)
  intro _ marked hmarked
  apply Program.along_bind (callsCapable_ask rfl marked)
  intro found read hread
  have hmarked' := (congrFun (carryOut_ask _) adapter).symm.trans hmarked
  have hread' := (congrFun (carryOut_ask _) marked).symm.trans hread
  cases hmarked'
  cases hread'
  simp only [sessionSnapshot, hmoved, Option.map_some]
  -- the turn reads the session back; only its state, reasons and activity have changed
  refine callsCapable_reconcileRegistered hon ?_ _
  exact hcapable

theorem callsCapable_reconcileState {state : DaemonState} {adapter : QuicTransportAdapter ρ}
    (hcapable : ∀ session ∈ adapter.activeSessions, state.MovesCapable session) :
    CallsCapable (Calls.reconcileState state) adapter := by
  apply Program.along_bind (callsCapable_ask rfl adapter)
  intro sessions listed hlisted
  cases (congrFun (carryOut_ask _) adapter).symm.trans hlisted
  have hsweep : CallsCapable (adapter.activeSessions.foldlM Calls.reconcileSession { state })
      adapter := by
    refine Program.along_foldlM (I := fun progress rest now => progress.On state ∧
      Listed rest now ∧ ∀ session ∈ rest, state.MovesCapable session) ?_
      ⟨ReconcileProgress.on_start state, listed_activeSessions adapter, hcapable⟩
    rintro progress session rest now ⟨hon, hrest, hcapableRest⟩
    have hregistered := hrest.registered session List.mem_cons_self
    refine ⟨callsCapable_reconcileSession hon (hcapableRest session List.mem_cons_self)
      hregistered, ?_⟩
    intro progress' now' hrun
    have hturn : reconcileSession progress session now = .ok progress' now' :=
      (congrFun (carryOut_reconcileSession progress session) now).symm.trans hrun
    refine ⟨reconcileSession_on hon session now progress' now' hturn, ?_, ?_⟩
    · exact hrest.tail_of_touches ((reconcileSession_touches progress session).of_ok hturn)
    · exact fun other hother => hcapableRest other (List.mem_cons_of_mem _ hother)
  apply Program.along_bind hsweep
  intro progress swept _
  apply Program.along_bind (callsCapable_ask rfl swept)
  intro activeSessions read _
  exact Program.along_value _ read

theorem callsCapable_upgradeFound {state : DaemonState} {session : SessionSnapshot}
    {protocol : ProtocolId} (hprotocol : session.protocol = some protocol)
    (hcapable : (state.allowedRoute session).isSome = true → session.migrationCapable = true)
    (adapter : QuicTransportAdapter ρ) :
    CallsCapable (Calls.upgradeFound state session protocol) adapter := by
  unfold Calls.upgradeFound
  dsimp only
  split_ifs with hallowed
  · apply Program.along_bind (callsCapable_ask rfl adapter)
    intro _ marked _
    apply Program.along_bind ((settles_planRoute _ _ _ _).callsCapable marked)
    intro route planned hroute
    have hplan := (congrFun (carryOut_planRoute _ _ _ _) marked).symm.trans hroute
    have hsome : (state.allowedRoute session).isSome = true := by
      unfold planRoute at hplan
      cases hplanned : state.routePlan session.peer (some protocol) session.trafficClass with
      | ok other => simp [DaemonState.allowedRoute, hprotocol, hallowed, hplanned, Except.toOption]
      | error error => simp [hplanned] at hplan
    have hmigrate : CallsCapable (ask (.migrate session route)) planned := by
      apply Program.along_ask
      intro migrated hmigrated
      cases hmigrated
      exact hcapable hsome
    apply Program.along_bind hmigrate
    intro upgraded migrated _
    apply Program.along_bind (callsCapable_ask rfl migrated)
    intro activeSessions read _
    exact Program.along_value _ read
  · apply Program.along_bind (callsCapable_ask rfl adapter)
    intro _ marked _
    exact Program.along_error _ marked

theorem callsCapable_upgradeState {sessionId : SessionId} {state : DaemonState}
    {adapter : QuicTransportAdapter ρ}
    (hcapable : ∀ session, adapter.sessionSnapshot sessionId = some session →
      (state.allowedRoute session).isSome = true → session.migrationCapable = true) :
    CallsCapable (Calls.upgradeState sessionId state) adapter := by
  apply Program.along_bind (callsCapable_ask rfl adapter)
  intro found read hread
  cases (congrFun (carryOut_ask _) adapter).symm.trans hread
  cases hfound : adapter.sessionSnapshot sessionId with
  | none => exact Program.along_error _ adapter
  | some session =>
    cases hprotocol : session.protocol with
    | none =>
      simp only [hprotocol]
      exact Program.along_error _ adapter
    | some protocol =>
      simp only [hprotocol]
      exact callsCapable_upgradeFound hprotocol (hcapable session hfound) adapter

/-! ## Runs -/

theorem callsCapable_request {request : ControlRequest} {adapter : QuicTransportAdapter ρ}
    (h : request.MovesCapable adapter) : CallsCapable request.program adapter := by
  obtain ⟨operation, state⟩ := request
  have hdone : ∀ {α : Type} {p : ControlProgram α}, CallsCapable p adapter →
      CallsCapable (p >>= fun _ => pure ()) adapter := by
    intro α p hp
    exact Program.along_bind hp fun _ after _ => Program.along_value () after
  cases operation with
  | upgradeSession sessionId => exact hdone (callsCapable_upgradeState h)
  | closeSession sessionId => exact hdone ((settles_closeState sessionId state).callsCapable adapter)
  | reconcileSessions => exact hdone (callsCapable_reconcileState h)
  | reevaluateRuntimeAuthority runtimeIdentity =>
    exact hdone (callsCapable_reevaluateAuthority state runtimeIdentity.peerId adapter)
  | realizeBestPath peer protocol trafficClass =>
    apply hdone
    unfold Calls.realizeState
    dsimp only
    split_ifs
    · apply Program.along_bind ((settles_planRoute _ _ _ _).callsCapable adapter)
      intro route planned _
      apply Program.along_bind (callsCapable_ask rfl planned)
      intro connection connected _
      apply Program.along_bind (callsCapable_ask rfl connected)
      intro activeSessions read _
      exact Program.along_value _ read
    · exact Program.along_error _ adapter

/-- In a run of requests that plan moves of capable sessions only, `migrate` is called
for capable sessions only. -/
theorem migrations_are_capable (requests : List ControlRequest) (adapter : QuicTransportAdapter ρ)
    (h : Program.Meets TransportCall.handle ControlRequest.program ControlRequest.MovesCapable
      requests adapter) :
    ∀ event ∈ (Program.inTurn ControlRequest.program requests).trace TransportCall.handle adapter,
      ∀ session, event.call.migrating = some session → session.migrationCapable = true :=
  Program.along_inTurn (fun _ _ hmoves => callsCapable_request hmoves) h

end Hashing

section Closed
attribute [local instance] Primitives.transparent

def edgeNode : QuicTransportAdapter RelayLog :=
  { edgeAdapter (fun _ => true) with localIdentity := some fixtureIdentity }

def edgeState : DaemonState := LocalControlPlane.prepared meshConfig LocalControlPlane.grantedFixture

def connectRequest (state : DaemonState) : ControlRequest :=
  ⟨.realizeBestPath fixtureWorkerPeer ⟨"/quip/control/1"⟩ .bulk, state⟩

def connectedNode : QuicTransportAdapter RelayLog :=
  final (carryOut (connectRequest edgeState).program) edgeNode

def workerSessionId : SessionId :=
  (connectedNode.activeSessions.head?.map SessionSnapshot.sessionId).getD (.fill 0)

def connectThenUpgrade (state : DaemonState) : List ControlRequest :=
  [connectRequest state, ⟨.upgradeSession workerSessionId, state⟩]

theorem upgraded_session_capable :
    (connectedNode.sessionSnapshot workerSessionId).isSome = true ∧
      ∀ event ∈ (Program.inTurn ControlRequest.program
          (connectThenUpgrade edgeState)).trace TransportCall.handle edgeNode,
        ∀ session, event.call.migrating = some session → session.migrationCapable = true := by
  have htest : (connectedNode.sessionSnapshot workerSessionId).all
      SessionSnapshot.migrationCapable = true := by
    decide +kernel
  refine ⟨by decide +kernel, migrations_are_capable _ edgeNode ⟨trivial, ?_, trivial⟩⟩
  intro session hsession _
  exact (Option.all_eq_true _ _).1 htest session hsession

def pinnedState : DaemonState := LocalControlPlane.prepared meshConfig
  { LocalControlPlane.grantedFixture with
    relayMap := some ⟨1, 1720000000, [{ fixtureRelay with supportsPathMigration := false }]⟩ }

theorem pinned_session_migrated :
    ∃ event ∈ (Program.inTurn ControlRequest.program
        (connectThenUpgrade pinnedState)).trace TransportCall.handle edgeNode,
      ∃ session, event.call.migrating = some session ∧ session.migrationCapable = false := by
  have htest : ((Program.inTurn ControlRequest.program
      (connectThenUpgrade pinnedState)).trace TransportCall.handle edgeNode).any (fun event =>
        event.call.migrating.any fun session => !session.migrationCapable) = true := by
    decide +kernel
  obtain ⟨event, hevent, hmigrating⟩ := List.any_eq_true.1 htest
  obtain ⟨session, hsession, hcapable⟩ := (Option.any_eq_true _ _).1 hmigrating
  exact ⟨event, hevent, session, hsession, by simpa using hcapable⟩

end Closed

end QuipNet.Fabric
