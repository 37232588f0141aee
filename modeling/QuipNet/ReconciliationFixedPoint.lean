import QuipNet.MigrationCalls
import QuipNet.ReconciliationReports

/-!
# Reconciling twice

A session that is opened for a planned route is on that route when the route names an
endpoint of the peer. Without one a relay route can still be opened, and the session then
never matches it: every pass migrates it again. So a second pass over the same state
leaves every session alone exactly when each route that the first pass could open names
an endpoint.
-/

open Std
namespace QuipNet.Fabric
open QuipNet.Library QuipNet.Library.Effect QuipNet.Quic QuipNet.Transport
open QuicTransportAdapter

variable {ρ : Type}

/-! ## Sessions on a planned route -/

theorem sessionMatchesRoute_of_nil {route : RoutePlan} (h : route.remoteEndpoints = [])
    (session : SessionSnapshot) : sessionMatchesRoute session route = false := by
  unfold sessionMatchesRoute
  split_ifs
  · rfl
  · rfl
  · rw [h]
    rfl

theorem routeEndpoints_eq_nil_iff (addresses : List String) (pathKind : PathKind) :
    routeEndpoints addresses pathKind = [] ↔ addresses = [] := by
  unfold routeEndpoints
  dsimp only
  split_ifs with hempty
  · exact Iff.rfl
  · constructor
    · intro hnil
      rw [hnil] at hempty
      exact absurd rfl hempty
    · intro hnil
      rw [hnil]
      rfl

def Addressed (state : DaemonState) (peer : PeerId) : Prop :=
  ∃ inspection, state.peer peer = some inspection ∧ inspection.snapshot.addresses ≠ []

theorem remoteEndpoints_ne_nil_iff {state : DaemonState} {peer : PeerId} {protocol : Option ProtocolId}
    {trafficClass : TrafficClass} {route : RoutePlan}
    (h : state.routePlan peer protocol trafficClass = .ok route) :
    route.remoteEndpoints ≠ [] ↔ Addressed state peer := by
  unfold DaemonState.routePlan at h
  cases hbest : state.bestPath peer trafficClass with
  | none =>
    rw [hbest] at h
    cases h
  | some decision =>
    cases hpeer : state.peer peer with
    | none =>
      rw [hbest, hpeer] at h
      cases h
    | some inspection =>
      simp only [hbest, hpeer] at h
      split at h
      · cases h
      · cases h
        rw [Ne, routeEndpoints_eq_nil_iff]
        simp [Addressed, hpeer]

section Hashing
variable [Primitives] {state : DaemonState} {session : SessionSnapshot}

theorem opened_matches_iff {peer : PeerId} {protocol : Option ProtocolId}
    {trafficClass : TrafficClass} {route : RoutePlan}
    (hplan : state.routePlan peer protocol trafficClass = .ok route)
    {before after : QuicTransportAdapter ρ} {opened : SessionSnapshot}
    (hopened : sessionSnapshotForRoute route before = .ok opened after) :
    sessionMatchesRoute opened route = true ↔ route.remoteEndpoints ≠ [] := by
  constructor
  · intro hmatches hnil
    rw [sessionMatchesRoute_of_nil hnil] at hmatches
    cases hmatches
  · intro hendpoints
    exact opened_matches hplan hendpoints before opened after hopened

theorem connect_opened {route : RoutePlan} {adapter after : QuicTransportAdapter ρ}
    {connection : QuicConnectionHandle} (h : connect route adapter = .ok connection after) :
    ∃ between, sessionSnapshotForRoute route adapter = .ok connection.session between := by
  obtain ⟨_, _, hget, h⟩ := bind_eq_ok h
  cases hget
  cases hfound : adapter.findReconnectSuppression route.key with
  | some suppression =>
    simp only [hfound] at h
    cases h
  | none =>
    simp only [hfound] at h
    obtain ⟨opened, between, hopened, h⟩ := bind_eq_ok h
    obtain ⟨_, stored, -, h⟩ := bind_eq_ok h
    cases h
    exact ⟨between, hopened⟩

/-! ## A pass over sessions that fit -/

/-- Policy allows the session and it is on the route that is planned for it. -/
def Fits (state : DaemonState) (session : SessionSnapshot) : Prop :=
  ∃ protocol route, session.protocol = some protocol ∧
    (state.explainPolicy session.peer protocol).allowed = true ∧
    state.routePlan session.peer (some protocol) session.trafficClass = .ok route ∧
    sessionMatchesRoute session route = true

theorem Fits.congr {other : SessionSnapshot} (h : Fits state session)
    (hkey : other.key = session.key) (hpath : sessionPath other = sessionPath session) :
    Fits state other := by
  obtain ⟨protocol, route, hprotocol, hallowed, hplan, hmatches⟩ := h
  have hpeer : other.peer = session.peer := congrArg SessionKey.peer hkey
  have hclass : other.trafficClass = session.trafficClass :=
    congrArg SessionKey.trafficClass hkey
  refine ⟨protocol, route, (congrArg SessionKey.protocol hkey).trans hprotocol, ?_, ?_, ?_⟩
  · rwa [hpeer]
  · rwa [hpeer, hclass]
  · rwa [sessionMatchesRoute_congr hkey hpath]

theorem reconcileSession_of_fits (hfits : Fits state session) {progress : ReconcileProgress}
    (hon : progress.On state) {adapter : QuicTransportAdapter ρ}
    (hregistered : Registered session adapter) :
    ∃ now after, reconcileSession progress session adapter =
      .ok (progress.recordUnchanged (reconciling session now)
        "selected path still matches active session") after := by
  obtain ⟨now, marked, hrun, -⟩ := reconcileSession_run hregistered progress
  have hcurrent : Fits state (reconciling session now) := hfits.congr rfl rfl
  obtain ⟨protocol, route, hprotocol, hallowed, hplan, hmatches⟩ := hcurrent
  refine ⟨now, ?_⟩
  rw [hrun]
  simp only [reconcileRegistered, hprotocol, hon.explainPolicy, hon.routePlan, hallowed, hplan,
    if_true, reconcileRoute, hmatches]
  exact ⟨_, bind_of_ok (moveSession_run _ _ _ _ _)⟩

theorem reconcile_of_fits {sessions : List SessionSnapshot}
    (hfits : ∀ session ∈ sessions, Fits state session) {progress : ReconcileProgress}
    (hon : progress.On state)
    (hentries : ∀ entry ∈ progress.entries, entry.disposition = .unchanged)
    {adapter : QuicTransportAdapter ρ} (hlisted : Listed sessions adapter) :
    ∃ progress' after, sessions.foldlM reconcileSession progress adapter = .ok progress' after ∧
      ∀ entry ∈ progress'.entries, entry.disposition = .unchanged := by
  induction sessions generalizing progress adapter with
  | nil => exact ⟨progress, adapter, rfl, hentries⟩
  | cons first rest ih =>
    obtain ⟨now, between, hfirst⟩ := reconcileSession_of_fits (hfits first List.mem_cons_self) hon
      (hlisted.registered first List.mem_cons_self)
    have htouches := (reconcileSession_touches progress first).of_ok hfirst
    have hentries₁ : ∀ entry ∈ (progress.recordUnchanged (reconciling first now)
        "selected path still matches active session").entries, entry.disposition = .unchanged := by
      intro entry hentry
      rcases List.mem_append.1 hentry with hold | hnew
      · exact hentries entry hold
      · rw [List.mem_singleton.1 hnew]
    obtain ⟨progress', after, hrest, hall⟩ := ih
      (fun session hsession => hfits session (List.mem_cons_of_mem _ hsession))
      (hon.recordUnchanged _ _) hentries₁ (hlisted.tail_of_touches htouches)
    exact ⟨progress', after, (bind_of_ok hfirst).trans hrest, hall⟩

abbrev CallsStay {α : Type} (p : ControlProgram α) (adapter : QuicTransportAdapter ρ) : Prop :=
  p.Along TransportCall.handle (fun event => event.call.migrating = none) adapter

theorem callsStay_ask {β : Type} {c : TransportCall β} (h : c.migrating = none)
    (adapter : QuicTransportAdapter ρ) : CallsStay (ask c) adapter := Program.along_ask h

theorem callsStay_reconcileRegistered (hfits : Fits state session) {progress : ReconcileProgress}
    (hon : progress.On state) (adapter : QuicTransportAdapter ρ) :
    CallsStay (Calls.reconcileRegistered progress session) adapter := by
  obtain ⟨protocol, route, hprotocol, hallowed, hplan, hmatches⟩ := hfits
  simp only [Calls.reconcileRegistered, hprotocol, hon.explainPolicy, hon.routePlan, hallowed,
    hplan, if_true, Calls.reconcileRoute, hmatches]
  apply Program.along_bind (callsStay_ask rfl adapter)
  intro _ moved _
  exact Program.along_value _ moved

theorem callsStay_reconcileSession (hfits : Fits state session) {progress : ReconcileProgress}
    (hon : progress.On state) {adapter : QuicTransportAdapter ρ}
    (hregistered : Registered session adapter) :
    CallsStay (Calls.reconcileSession progress session) adapter := by
  obtain ⟨alpn, hfind⟩ := hregistered
  have hmoved := find_updateSessionState session.sessionId .reconciling none
    (some "daemon reconcile cycle") adapter
  rw [hfind, Option.map_some] at hmoved
  apply Program.along_bind (callsStay_ask rfl adapter)
  intro _ marked hmarked
  apply Program.along_bind (callsStay_ask rfl marked)
  intro found read hread
  have hmarked' := (congrFun (carryOut_ask _) adapter).symm.trans hmarked
  have hread' := (congrFun (carryOut_ask _) marked).symm.trans hread
  cases hmarked'
  cases hread'
  simp only [sessionSnapshot, hmoved, Option.map_some]
  refine callsStay_reconcileRegistered ?_ hon _
  exact hfits.congr rfl rfl

theorem callsStay_reconcileState {adapter : QuicTransportAdapter ρ}
    (hfits : ∀ session ∈ adapter.activeSessions, Fits state session) :
    CallsStay (Calls.reconcileState state) adapter := by
  apply Program.along_bind (callsStay_ask rfl adapter)
  intro sessions listed hlisted
  cases (congrFun (carryOut_ask _) adapter).symm.trans hlisted
  have hsweep : CallsStay (adapter.activeSessions.foldlM Calls.reconcileSession { state })
      adapter := by
    refine Program.along_foldlM (I := fun progress rest now => progress.On state ∧
      Listed rest now ∧ ∀ session ∈ rest, Fits state session) ?_
      ⟨ReconcileProgress.on_start state, listed_activeSessions adapter, hfits⟩
    intro progress session rest now ⟨hon, hrest, hfitsRest⟩
    have hregistered := hrest.registered session List.mem_cons_self
    refine ⟨callsStay_reconcileSession (hfitsRest session List.mem_cons_self) hon hregistered, ?_⟩
    intro progress' now' hrun
    have hturn : reconcileSession progress session now = .ok progress' now' :=
      (congrFun (carryOut_reconcileSession progress session) now).symm.trans hrun
    refine ⟨reconcileSession_on hon session now progress' now' hturn, ?_, ?_⟩
    · exact hrest.tail_of_touches ((reconcileSession_touches progress session).of_ok hturn)
    · exact fun other hother => hfitsRest other (List.mem_cons_of_mem _ hother)
  apply Program.along_bind hsweep
  intro progress swept _
  apply Program.along_bind (callsStay_ask rfl swept)
  intro activeSessions read _
  exact Program.along_value _ read

/-! ## The second pass -/

/-- A pass that returns its report, reports no change and migrates nothing. -/
def QuietPass (config : DaemonConfig) (world : World ρ) : Prop :=
  ∃ state report after, LocalControlPlane.ensureState config world = .ok state world ∧
    LocalControlPlane.reconcileSessions config world = .ok report after ∧
    (∀ entry ∈ report.entries, entry.disposition = .unchanged) ∧
    CallsStay (Calls.reconcileState state) world.transport

theorem ensureState_prepared {config : DaemonConfig} {world opened : World ρ}
    (h : LocalControlPlane.ensureState config world = .ok state opened) :
    ∃ loaded, state = LocalControlPlane.prepared config loaded := by
  cases hfile : world.stateFile with
  | none =>
    rw [LocalControlPlane.ensureState_of_none hfile] at h
    cases h
    exact ⟨_, rfl⟩
  | some file =>
    cases hload : file.load with
    | error error =>
      rw [LocalControlPlane.ensureState_of_damaged hfile hload] at h
      cases h
    | ok loaded =>
      rw [LocalControlPlane.ensureState_of_load hfile hload] at h
      cases h
      exact ⟨loaded, rfl⟩

theorem reconcileSessions_ok {config : DaemonConfig} {world opened after : World ρ}
    {report : SessionReconcileReport}
    (hstate : LocalControlPlane.ensureState config world = .ok state opened)
    (h : LocalControlPlane.reconcileSessions config world = .ok report after) :
    (∃ progress, world.transport.activeSessions.foldlM reconcileSession { state }
        world.transport = .ok progress after.transport ∧ report = progress.report) ∧
      ∃ next, LocalControlPlane.ensureState config after = .ok next after ∧
        (∀ peer protocol, next.explainPolicy peer protocol = state.explainPolicy peer protocol) ∧
        ∀ peer protocol trafficClass, next.routePlan peer protocol trafficClass =
          state.routePlan peer protocol trafficClass := by
  obtain ⟨loaded, rfl⟩ := ensureState_prepared hstate
  obtain ⟨written, transport, hwork, rfl⟩ := Daemon.transaction_ok hstate h
  obtain ⟨progress, hsweep, hreport, activeSessions, rfl⟩ := Daemon.reconcileState_ok hwork
  let saved : World ρ :=
    ⟨some { LocalControlPlane.prepared config loaded with activeSessions }.saved, transport⟩
  have hfile : saved.stateFile =
    some { LocalControlPlane.prepared config loaded with activeSessions }.saved := rfl
  obtain ⟨next, hnext, -, hpolicy, hroutes⟩ := Daemon.prepared_saved loaded activeSessions hfile
  exact ⟨⟨progress, hsweep, hreport⟩, next, hnext, hpolicy, hroutes⟩

theorem registered_before {sessions : List SessionSnapshot} {progress progress' : ReconcileProgress}
    {adapter after : QuicTransportAdapter ρ} (hlisted : Listed sessions adapter)
    (h : sessions.foldlM reconcileSession progress adapter = .ok progress' after)
    {id : SessionId} {record : RuntimeSessionRecord}
    (hfind : after.runtimeSessions.find id = some record) :
    ∃ before, adapter.runtimeSessions.find id = some before := by
  by_contra hnone
  have hbefore : adapter.runtimeSessions.find id = none :=
    Option.eq_none_iff_forall_ne_some.2 fun before hsome => hnone ⟨before, hsome⟩
  have hkept : (final (sessions.foldlM reconcileSession progress) adapter).runtimeSessions.find id =
      none := by
    refine foldlM_keeps (P := fun now : QuicTransportAdapter ρ =>
      now.runtimeSessions.find id = none) ?_ progress hbefore
    intro progress₁ session hsession now hnow
    have hne : id ≠ session.sessionId := by
      intro hid
      obtain ⟨alpn, hregistered⟩ := hlisted.registered session hsession
      rw [← hid, hbefore] at hregistered
      cases hregistered
    rw [(reconcileSession_touches progress₁ session now).sessions id hne]
    exact hnow
  rw [final_of_ok h, hfind] at hkept
  cases hkept

/-- Each session that the pass could move to its planned route is a session with a peer
that has an address. -/
def MovableAddressed (state : DaemonState) (adapter : QuicTransportAdapter ρ) : Prop :=
  ∀ session ∈ adapter.activeSessions, ∀ protocol route, session.protocol = some protocol →
    (state.explainPolicy session.peer protocol).allowed = true →
    state.routePlan session.peer (some protocol) session.trafficClass = .ok route →
    CanOpen adapter route → Addressed state session.peer

theorem Reconciled.fits {after : QuicTransportAdapter ρ} {entry : SessionReconcileEntry}
    (h : Reconciled state session after entry) {record : RuntimeSessionRecord}
    (hrecord : after.runtimeSessions.find session.sessionId = some record)
    (haddressed : ∀ protocol route, session.protocol = some protocol →
      (state.explainPolicy session.peer protocol).allowed = true →
      state.routePlan session.peer (some protocol) session.trafficClass = .ok route →
      CanOpen after route → Addressed state session.peer) : Fits state record.snapshot := by
  cases h with
  | unchanged reason hfind hkey hpath hactive hprotocol hallowed hplan hmatches =>
    cases hfind.symm.trans hrecord
    have hfits : Fits state session := ⟨_, _, hprotocol, hallowed, hplan, hmatches⟩
    exact hfits.congr hkey hpath
  | @upgraded _ protocol route opened before between hfind hopened hopens hkey hpath hactive
      hprotocol hallowed hplan =>
    cases hfind.symm.trans hrecord
    have hendpoints := (remoteEndpoints_ne_nil_iff hplan).2
      (haddressed protocol route hprotocol hallowed hplan hopens)
    have hmatches := (opened_matches_iff hplan hopened).2 hendpoints
    -- the new record has the key that the route was planned for
    have hroute : opened.key = ⟨session.peer, some protocol, session.trafficClass⟩ :=
      (sessionSnapshotForRoute_returns route _ _ _ hopened).1.trans (DaemonState.routePlan_key hplan)
    have hpeer : opened.peer = session.peer := congrArg SessionKey.peer hroute
    have hclass : opened.trafficClass = session.trafficClass :=
      congrArg SessionKey.trafficClass hroute
    have hfits : Fits state opened := by
      refine ⟨protocol, route, congrArg SessionKey.protocol hroute, ?_, ?_, hmatches⟩
      · rwa [hpeer]
      · rwa [hpeer, hclass]
    exact hfits.congr hkey hpath
  | closed reason hgone => cases hgone.symm.trans hrecord

theorem reconciled_of_sweep {progress : ReconcileProgress} {adapter after : QuicTransportAdapter ρ}
    (h : adapter.activeSessions.foldlM reconcileSession { state } adapter = .ok progress after)
    (hmem : session ∈ adapter.activeSessions) :
    ∃ entry ∈ progress.entries, Reconciled state session after entry := by
  obtain ⟨-, entries, hentries, hall⟩ := reconcile_logs (ReconcileProgress.on_start state)
    (ReconcileProgress.tallied_start state) (listed_activeSessions adapter) h
  obtain ⟨entry, hentry, hreconciled⟩ := exists_mem_of_forall₂' hall session hmem
  refine ⟨entry, ?_, hreconciled⟩
  rw [hentries]
  exact List.mem_append_right _ hentry

theorem sweep_sameNode {progress : ReconcileProgress} {adapter after : QuicTransportAdapter ρ}
    (h : adapter.activeSessions.foldlM reconcileSession { state } adapter = .ok progress after) :
    SameNode adapter after := by
  have hmoves : Moves SameNode (adapter.activeSessions.foldlM reconcileSession { state } :
      FabricM ρ ReconcileProgress) :=
    Moves.foldlM_mem (fun progress session _ => reconcileSession_sameNode progress session) _
  exact hmoves.of_ok h

theorem sweep_fits {progress : ReconcileProgress} {adapter after : QuicTransportAdapter ρ}
    (h : adapter.activeSessions.foldlM reconcileSession { state } adapter = .ok progress after)
    (haddressed : MovableAddressed state adapter) :
    ∀ session ∈ after.activeSessions, Fits state session := by
  intro session hsession
  obtain ⟨alpn, hfind⟩ := registered_of_mem_activeSessions hsession
  obtain ⟨before, hbefore⟩ := registered_before (listed_activeSessions adapter) h hfind
  have hid : before.snapshot.sessionId = session.sessionId :=
    SessionRegistry.sessionId_of_find hbefore
  rw [← hid] at hfind hbefore
  have hmem : before.snapshot ∈ adapter.activeSessions :=
    mem_activeSessions_of_registered ⟨before.alpnProtocol, hbefore⟩
  obtain ⟨entry, -, hreconciled⟩ := reconciled_of_sweep h hmem
  refine hreconciled.fits hfind ?_
  intro protocol route hprotocol hallowed hplan hopens
  exact haddressed before.snapshot hmem protocol route hprotocol hallowed hplan
    ((canOpen_iff_of_sameNode (sweep_sameNode h) route).1 hopens)

theorem sweep_mismatch {progress : ReconcileProgress} {adapter after : QuicTransportAdapter ρ}
    (h : adapter.activeSessions.foldlM reconcileSession { state } adapter = .ok progress after)
    (hgrants : adapter.relayControl.Grants) (hmem : session ∈ adapter.activeSessions)
    {protocol : ProtocolId} {route : RoutePlan} (hprotocol : session.protocol = some protocol)
    (hallowed : (state.explainPolicy session.peer protocol).allowed = true)
    (hplan : state.routePlan session.peer (some protocol) session.trafficClass = .ok route)
    (hopens : CanOpen adapter route) (hnil : route.remoteEndpoints = []) :
    ∃ moved ∈ after.activeSessions, moved.key = session.key := by
  have hnode := sweep_sameNode h
  obtain ⟨entry, -, hreconciled⟩ := reconciled_of_sweep h hmem
  cases hreconciled with
  | unchanged reason hfind hkey hpath hactive hother hallows hroute hmatches =>
    cases hprotocol.symm.trans hother
    cases hplan.symm.trans hroute
    rw [sessionMatchesRoute_of_nil hnil] at hmatches
    cases hmatches
  | @upgraded record other route' opened before between hfind hopened _ hkey _ _ hother _ hroute =>
    cases hprotocol.symm.trans hother
    cases hplan.symm.trans hroute
    have hid : record.snapshot.sessionId = session.sessionId :=
      SessionRegistry.sessionId_of_find hfind
    rw [← hid] at hfind
    refine ⟨record.snapshot, mem_activeSessions_of_registered ⟨record.alpnProtocol, hfind⟩, ?_⟩
    have hplanned : opened.key = ⟨session.peer, some protocol, session.trafficClass⟩ :=
      (sessionSnapshotForRoute_returns route _ _ _ hopened).1.trans (DaemonState.routePlan_key hplan)
    rw [hkey, hplanned, SessionSnapshot.key, hprotocol]
  | closed reason hgone hcause =>
    refine absurd ?_ hcause
    rw [realizable_iff_of_sameNode hnode]
    exact ⟨protocol, route, hprotocol, hallowed, hplan, hopens, hgrants⟩

theorem quietPass_of_fits {config : DaemonConfig} {world : World ρ}
    (hstate : LocalControlPlane.ensureState config world = .ok state world)
    (hfits : ∀ session ∈ world.transport.activeSessions, Fits state session) :
    QuietPass config world := by
  obtain ⟨progress, after, hsweep, hentries⟩ := reconcile_of_fits hfits
    (ReconcileProgress.on_start state) (fun entry hentry => absurd hentry List.not_mem_nil)
    (listed_activeSessions world.transport)
  let written : DaemonState := { progress.state with activeSessions := after.activeSessions }
  have hwork : reconcileState state world.transport = .ok (written, progress.report) after := by
    unfold reconcileState
    simp only [bind_run, get_run, hsweep, pure_run]
    rfl
  refine ⟨state, progress.report, ⟨some written.saved, after⟩, hstate, ?_, hentries,
    callsStay_reconcileState hfits⟩
  rw [LocalControlPlane.reconcileSessions, LocalControlPlane.transaction_run hstate]
  simp only [bind_run, withTransport, zoom, hwork, save, modify_run, pure_run]

theorem Fits.of_same {other : DaemonState} (h : Fits state session)
    (hpolicy : ∀ peer protocol, other.explainPolicy peer protocol = state.explainPolicy peer protocol)
    (hroutes : ∀ peer protocol trafficClass, other.routePlan peer protocol trafficClass =
      state.routePlan peer protocol trafficClass) : Fits other session := by
  obtain ⟨protocol, route, hprotocol, hallowed, hplan, hmatches⟩ := h
  exact ⟨protocol, route, hprotocol, by rwa [hpolicy], by rwa [hroutes], hmatches⟩

/-- In a quiet pass a session is on the route that is planned for it. -/
theorem QuietPass.matches {config : DaemonConfig} {world opened : World ρ}
    (h : QuietPass config world)
    (hstate : LocalControlPlane.ensureState config world = .ok state opened)
    (hmem : session ∈ world.transport.activeSessions) {protocol : ProtocolId} {route : RoutePlan}
    (hprotocol : session.protocol = some protocol)
    (hplan : state.routePlan session.peer (some protocol) session.trafficClass = .ok route) :
    sessionMatchesRoute session route = true := by
  obtain ⟨state', report, after, hstate', hrun, hentries, -⟩ := h
  cases hstate.symm.trans hstate'
  obtain ⟨⟨progress, hsweep, rfl⟩, -⟩ := reconcileSessions_ok hstate hrun
  obtain ⟨entry, hentry, hreconciled⟩ := reconciled_of_sweep hsweep hmem
  have hunchanged := hentries entry hentry
  cases hreconciled with
  | unchanged reason hfind hkey hpath hactive hother hallowed hroute hmatches =>
    cases hprotocol.symm.trans hother
    cases hplan.symm.trans hroute
    exact hmatches
  | upgraded => cases hunchanged
  | closed => cases hunchanged

/-- What `connect` and `migrate` build over a planned route matches the route exactly when
the peer has an address. With relays that grant every call, a completed pass is followed
by one that changes nothing exactly when each session it could move has a peer with an
address. -/
theorem reconcile_fixed_point_iff :
    (∀ (state : DaemonState) (peer : PeerId) (protocol : Option ProtocolId)
        (trafficClass : TrafficClass) (route : RoutePlan),
      state.routePlan peer protocol trafficClass = .ok route →
        (∀ (adapter after : QuicTransportAdapter ρ) (connection : QuicConnectionHandle),
          connect route adapter = .ok connection after →
            (sessionMatchesRoute connection.session route = true ↔ Addressed state peer)) ∧
        ∀ (adapter after : QuicTransportAdapter ρ) (session migrated : SessionSnapshot),
          migrate session route adapter = .ok migrated after →
            (sessionMatchesRoute migrated route = true ↔ Addressed state peer)) ∧
    ∀ (config : DaemonConfig) (world opened after : World ρ) (state : DaemonState)
        (report : SessionReconcileReport),
      LocalControlPlane.ensureState config world = .ok state opened →
      world.transport.relayControl.Grants →
      LocalControlPlane.reconcileSessions config world = .ok report after →
        (QuietPass config after ↔ MovableAddressed state world.transport) := by
  constructor
  · intro state peer protocol trafficClass route hplan
    rw [← remoteEndpoints_ne_nil_iff hplan]
    constructor
    · intro adapter after connection hconnect
      obtain ⟨between, hopened⟩ := connect_opened hconnect
      exact opened_matches_iff hplan hopened
    · intro adapter after session migrated hmigrate
      obtain ⟨_, opened, before, between, -, hopened, -, hkey, hpath, -⟩ :=
        migrate_reconciles hmigrate
      rw [sessionMatchesRoute_congr hkey hpath]
      exact opened_matches_iff hplan hopened
  · intro config world opened after state report hstate hgrants hrun
    obtain ⟨⟨progress, hsweep, -⟩, next, hnext, hpolicy, hroutes⟩ := reconcileSessions_ok hstate hrun
    constructor
    · intro hquiet session hmem protocol route hprotocol hallowed hplan hopens
      by_contra hnot
      have hnil : route.remoteEndpoints = [] :=
        not_not.1 (mt (remoteEndpoints_ne_nil_iff hplan).1 hnot)
      obtain ⟨moved, hmoved, hkey⟩ :=
        sweep_mismatch hsweep hgrants hmem hprotocol hallowed hplan hopens hnil
      have hpeer : moved.peer = session.peer := congrArg SessionKey.peer hkey
      have hclass : moved.trafficClass = session.trafficClass :=
        congrArg SessionKey.trafficClass hkey
      have hplan' : next.routePlan moved.peer (some protocol) moved.trafficClass = .ok route := by
        rw [hroutes, hpeer, hclass, hplan]
      have hmatches := hquiet.matches hnext hmoved
        ((congrArg SessionKey.protocol hkey).trans hprotocol) hplan'
      rw [sessionMatchesRoute_of_nil hnil] at hmatches
      cases hmatches
    · intro haddressed
      refine quietPass_of_fits hnext ?_
      intro session hsession
      exact (sweep_fits hsweep haddressed session hsession).of_same hpolicy hroutes

end Hashing

section Closed
attribute [local instance] Primitives.transparent

def grantingRelays : RelayControl Unit where
  openSession _ request relays := (.ok ⟨request.attemptId, .fill 9, request.source,
    request.destination, request.protocol, request.trafficClass⟩, relays)
  closeSession _ _ _ relays := (.ok (), relays)

theorem grantingRelays_grants : grantingRelays.Grants :=
  ⟨fun _ _ relays => ⟨_, relays, rfl⟩, fun _ _ _ relays => ⟨relays, rfl⟩⟩

def relayedWorld (state : DaemonState) : World Unit :=
  ⟨some (.durable state), { edgeNode.onRelays grantingRelays () with
    runtimeSessions := ({} : SessionRegistry).insert
      ⟨meshSession 1 .directUdp fixtureWorkerPeer, none⟩ }⟩

def unaddressedState : DaemonState :=
  { LocalControlPlane.grantedFixture with
    peers := LocalControlPlane.grantedFixture.peers.map fun inspection =>
      { inspection with snapshot := { inspection.snapshot with addresses := [] } } }

theorem granted_worker_addressed :
    Addressed (LocalControlPlane.prepared meshConfig LocalControlPlane.grantedFixture)
      fixtureWorkerPeer := by
  have htest : ((LocalControlPlane.prepared meshConfig
      LocalControlPlane.grantedFixture).peer fixtureWorkerPeer).any
        (fun inspection => !inspection.snapshot.addresses.isEmpty) = true := by
    decide +kernel
  obtain ⟨inspection, hpeer, haddresses⟩ := (Option.any_eq_true _ _).1 htest
  refine ⟨inspection, hpeer, ?_⟩
  intro hnil
  rw [hnil] at haddresses
  cases haddresses

theorem relayed_session_settles : ∃ report after,
    LocalControlPlane.reconcileSessions meshConfig (relayedWorld LocalControlPlane.grantedFixture) =
      .ok report after ∧ report.upgraded = 1 ∧ QuietPass meshConfig after := by
  have hrun : okWith (fun report _ => report.upgraded = 1)
      (LocalControlPlane.reconcileSessions meshConfig
        (relayedWorld LocalControlPlane.grantedFixture)) = true := by
    decide +kernel
  obtain ⟨report, after, hok, hupgraded⟩ := exists_of_okWith hrun
  have hstate : LocalControlPlane.ensureState meshConfig
      (relayedWorld LocalControlPlane.grantedFixture) =
        .ok (LocalControlPlane.prepared meshConfig LocalControlPlane.grantedFixture)
          (relayedWorld LocalControlPlane.grantedFixture) := rfl
  have hiff := reconcile_fixed_point_iff.2 meshConfig _ _ after _ report hstate
    grantingRelays_grants hok
  refine ⟨report, after, hok, of_decide_eq_true hupgraded, hiff.2 ?_⟩
  intro session hsession protocol route _ _ _ _
  have hpeer : session.peer = fixtureWorkerPeer := by
    have hmem : session ∈ [meshSession 1 .directUdp fixtureWorkerPeer] := hsession
    rw [List.mem_singleton.1 hmem]
    rfl
  rw [hpeer]
  exact granted_worker_addressed

theorem unaddressed_session_migrates_again : ∃ report after report' after',
    grantingRelays.Grants ∧
    LocalControlPlane.reconcileSessions meshConfig (relayedWorld unaddressedState) =
      .ok report after ∧
    LocalControlPlane.reconcileSessions meshConfig after = .ok report' after' ∧
    (∃ entry ∈ report'.entries, entry.disposition = .upgraded) ∧ ¬ QuietPass meshConfig after := by
  have hrun : okWith (fun _ after => okWith (fun report' _ => report'.entries.any
        fun entry => entry.disposition = .upgraded)
      (LocalControlPlane.reconcileSessions meshConfig after))
      (LocalControlPlane.reconcileSessions meshConfig (relayedWorld unaddressedState)) = true := by
    decide +kernel
  obtain ⟨report, after, hok, hsecond⟩ := exists_of_okWith hrun
  obtain ⟨report', after', hok', hany⟩ := exists_of_okWith hsecond
  obtain ⟨entry, hentry, hupgraded⟩ := List.any_eq_true.1 hany
  have hdisposition : entry.disposition = .upgraded := of_decide_eq_true hupgraded
  refine ⟨report, after, report', after', grantingRelays_grants, hok, hok',
    ⟨entry, hentry, hdisposition⟩, ?_⟩
  rintro ⟨state, quiet, done, -, hquiet, hentries, -⟩
  cases hok'.symm.trans hquiet
  rw [hentries entry hentry] at hdisposition
  cases hdisposition

end Closed

end QuipNet.Fabric
