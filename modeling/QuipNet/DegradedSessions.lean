import QuipNet.ReconciliationTurns
import QuipNet.RelayFailures

/-!
# Degraded sessions in the two session loops

Reevaluation keeps a session that it allows and cannot move, because no route is left
or because the session is not migration capable, and marks it degraded. A turn of
reconciliation on the same session decides these cases anew: it closes a session
without a route, and migrates one whose route differs, capable or not, or closes it
when that fails. After such a turn the session is off its path.
-/

open Std
namespace QuipNet.Fabric
open QuipNet.Library.Effect QuipNet.Quic QuipNet.Transport
open QuicTransportAdapter

variable {ρ : Type}

structure SessionPath where
  transportSessionId : SessionId
  pathKind : PathKind
  remoteEndpoint : String
  relayPeer : Option PeerId
  relayEndpoint : Option String
  relayControlEndpoint : Option String
deriving DecidableEq, Repr

def sessionPath (session : SessionSnapshot) : SessionPath where
  transportSessionId := session.transportSessionId
  pathKind := session.pathKind
  remoteEndpoint := session.remoteEndpoint
  relayPeer := session.relayPeer
  relayEndpoint := session.relayEndpoint
  relayControlEndpoint := session.relayControlEndpoint

/-- The session is registered with its key and on its path, whatever its state. -/
def OnPath (session : SessionSnapshot) (adapter : QuicTransportAdapter ρ) : Prop :=
  ∃ record, adapter.runtimeSessions.find session.sessionId = some record ∧
    record.snapshot.key = session.key ∧ sessionPath record.snapshot = sessionPath session

def Degraded (session : SessionSnapshot) (adapter : QuicTransportAdapter ρ) : Prop :=
  ∃ record, adapter.runtimeSessions.find session.sessionId = some record ∧
    record.snapshot.key = session.key ∧ sessionPath record.snapshot = sessionPath session ∧
    record.snapshot.state = .degraded

instance (session : SessionSnapshot) (adapter : QuicTransportAdapter ρ) :
    Decidable (OnPath session adapter) :=
  decidable_of_iff ((adapter.runtimeSessions.find session.sessionId).any fun record =>
      record.snapshot.key = session.key ∧ sessionPath record.snapshot = sessionPath session) <| by
    simp only [Option.any_eq_true, decide_eq_true_eq, OnPath]

instance (session : SessionSnapshot) (adapter : QuicTransportAdapter ρ) :
    Decidable (Degraded session adapter) :=
  decidable_of_iff ((adapter.runtimeSessions.find session.sessionId).any fun record =>
      record.snapshot.key = session.key ∧ sessionPath record.snapshot = sessionPath session ∧
        record.snapshot.state = .degraded) <| by
    simp only [Option.any_eq_true, decide_eq_true_eq, Degraded]

theorem Degraded.onPath {session : SessionSnapshot} {adapter : QuicTransportAdapter ρ}
    (h : Degraded session adapter) : OnPath session adapter := by
  obtain ⟨record, hfind, hkey, hpath, -⟩ := h
  exact ⟨record, hfind, hkey, hpath⟩

theorem Degraded.of_frame {session other : SessionSnapshot} {key : SessionKey}
    {before after : QuicTransportAdapter ρ} (h : Degraded session before)
    (hframe : Frame other.sessionId key before after)
    (hid : other.sessionId ≠ session.sessionId) : Degraded session after := by
  obtain ⟨record, hfind, hrest⟩ := h
  exact ⟨record, by rw [hframe.sessions _ hid.symm, hfind], hrest⟩

theorem Degraded.of_quiet {session : SessionSnapshot} {before after : QuicTransportAdapter ρ} (h : Degraded session before)
    (hquiet : Quiet before after) : Degraded session after := by
  obtain ⟨record, hfind, hrest⟩ := h
  exact ⟨record, by rw [hquiet.sessions, hfind], hrest⟩

theorem Registered.onPath {session : SessionSnapshot} {adapter : QuicTransportAdapter ρ}
    (h : Registered session adapter) : OnPath session adapter := by
  obtain ⟨alpn, hfind⟩ := h
  exact ⟨_, hfind, rfl, rfl⟩

theorem onPath_congr {session : SessionSnapshot} {before after : QuicTransportAdapter ρ}
    (h : after.runtimeSessions.find session.sessionId =
      before.runtimeSessions.find session.sessionId) :
    OnPath session after ↔ OnPath session before := by
  rw [OnPath, h, OnPath]

theorem not_onPath_of_gone {session : SessionSnapshot} {adapter : QuicTransportAdapter ρ}
    (h : Gone session adapter) : ¬ OnPath session adapter := by
  rintro ⟨record, hfind, -⟩
  rw [h] at hfind
  cases hfind

theorem sessionMatchesRoute_congr {a b : SessionSnapshot} (hkey : a.key = b.key)
    (hpath : sessionPath a = sessionPath b) (route : RoutePlan) :
    sessionMatchesRoute a route = sessionMatchesRoute b route := by
  simp only [SessionSnapshot.key, SessionKey.mk.injEq] at hkey
  simp only [sessionPath, SessionPath.mk.injEq] at hpath
  obtain ⟨-, hprotocol, hclass⟩ := hkey
  obtain ⟨-, hkind, hremote, hrelay, hendpoint, hcontrol⟩ := hpath
  simp only [sessionMatchesRoute, hprotocol, hclass, hkind, hremote, hrelay, hendpoint, hcontrol]

theorem relayPlan_destination {state : DaemonState} {peer : PeerId}
    {selected : Routing.PathCandidate} {remoteEndpoints : List String} {relay : RelayPlan}
    (h : state.relayPlan peer selected remoteEndpoints = .ok (some relay)) :
    relay.destinationEndpoints = remoteEndpoints := by
  unfold DaemonState.relayPlan at h
  split_ifs at h
  · split at h
    · cases h
    · split at h
      · cases h
      · cases h
        rfl
  · cases h

theorem routePlan_destination {state : DaemonState} {peer : PeerId}
    {protocol : Option ProtocolId} {trafficClass : TrafficClass} {route : RoutePlan}
    (h : state.routePlan peer protocol trafficClass = .ok route) {relay : RelayPlan}
    (hrelay : route.relay = some relay) : relay.destinationEndpoints = route.remoteEndpoints := by
  unfold DaemonState.routePlan at h
  split at h
  · cases h
  · split at h
    · cases h
    · dsimp only at h
      split at h
      · cases h
      · rename_i plan hplan
        cases h
        dsimp only at hrelay
        rw [hrelay] at hplan
        exact relayPlan_destination hplan

theorem degradeSession_degraded {session : SessionSnapshot} {adapter : QuicTransportAdapter ρ}
    (hregistered : Registered session adapter) (protocol : ProtocolId) (reason : String) :
    ∃ after, degradeSession session protocol reason adapter = .ok () after ∧
      Degraded session after := by
  obtain ⟨alpn, hfind⟩ := hregistered
  have hmoved := find_updateSessionState session.sessionId .degraded none (some reason) adapter
  rw [hfind, Option.map_some] at hmoved
  have hquiet := emitRuntimeEvent_quiet "path.degraded" (sessionSubject session.sessionId)
    (sessionPathDetails session protocol reason)
    (adapter.updateSessionState session.sessionId .degraded none (some reason)).2
  rw [← hquiet.sessions] at hmoved
  exact ⟨_, (bind_of_ok (moveSession_run _ _ _ _ _)).trans (modify_run _ _), _, hmoved,
    rfl, rfl, rfl⟩

theorem closeFailed_gone {progress progress' : ReconcileProgress} {session : SessionSnapshot}
    {closureReason : SessionClosureReason} {reason : String}
    {adapter after : QuicTransportAdapter ρ}
    (h : closeFailed progress session closureReason reason adapter = .ok progress' after) :
    Gone session after := by
  obtain ⟨_, closed, hclosed, hrest⟩ := bind_eq_ok h
  have hgone := failAndCloseSession_gone session closureReason reason adapter
  rw [final_of_ok hclosed] at hgone
  cases hrest
  exact hgone

section Hashing
variable [Primitives]

/-- Reevaluation allows the session and can neither keep it as it is nor move it. -/
def DaemonState.degrades (state : DaemonState) (runtimePeerId : PeerId)
    (session : SessionSnapshot) : Bool :=
  match session.protocol with
  | none => false
  | some protocol =>
    match state.authorityEnforcement runtimePeerId session.peer protocol with
    | some _ => false
    | none =>
      match state.routePlan session.peer (some protocol) session.trafficClass with
      | .ok route => !sessionMatchesRoute session route && !session.migrationCapable
      | .error (.noRoute _) => true
      | .error _ => false

/-- What `degrades` means for the two loops: policy allows the key, and its plan is
missing or leads elsewhere. -/
structure DaemonState.Strands (state : DaemonState) (session : SessionSnapshot)
    (protocol : ProtocolId) : Prop where
  protocol_eq : session.protocol = some protocol
  allowed : (state.explainPolicy session.peer protocol).allowed = true
  plan : (∃ peer, state.routePlan session.peer (some protocol) session.trafficClass =
      .error (.noRoute peer)) ∨
    ∃ route, state.routePlan session.peer (some protocol) session.trafficClass = .ok route ∧
      sessionMatchesRoute session route = false

variable {state : DaemonState} {runtimePeerId : PeerId} {session : SessionSnapshot}

theorem allowed_of_enforcement_none {peer : PeerId} {protocol : ProtocolId}
    (h : state.authorityEnforcement runtimePeerId peer protocol = none) :
    (state.explainPolicy peer protocol).allowed = true := by
  unfold DaemonState.authorityEnforcement at h
  cases hlocal : state.localPolicyReason runtimePeerId with
  | some reason => simp [hlocal] at h
  | none =>
    simp only [hlocal] at h
    split_ifs at h with hallowed
    exact hallowed

theorem strands_of_degrades (h : state.degrades runtimePeerId session = true) :
    ∃ protocol, state.Strands session protocol := by
  unfold DaemonState.degrades at h
  cases hprotocol : session.protocol with
  | none => simp [hprotocol] at h
  | some protocol =>
    cases henforced : state.authorityEnforcement runtimePeerId session.peer protocol with
    | some enforced => simp [hprotocol, henforced] at h
    | none =>
      refine ⟨protocol, hprotocol, allowed_of_enforcement_none henforced, ?_⟩
      cases hplan : state.routePlan session.peer (some protocol) session.trafficClass with
      | ok route =>
        simp only [hprotocol, henforced, hplan, Bool.and_eq_true, Bool.not_eq_true'] at h
        exact .inr ⟨route, rfl, h.1⟩
      | error error =>
        cases error with
        | noRoute peer => exact .inl ⟨peer, rfl⟩
        | _ => simp [hprotocol, henforced, hplan] at h

/-! ## Reevaluation -/

theorem degrades_turn (h : state.degrades runtimePeerId session = true)
    {adapter : QuicTransportAdapter ρ} (hregistered : Registered session adapter)
    (report : AuthorityReevaluationReport) :
    ∃ report' after, reevaluateSession state runtimePeerId report session adapter =
      .ok report' after ∧ Degraded session after := by
  unfold DaemonState.degrades at h
  cases hprotocol : session.protocol with
  | none => simp [hprotocol] at h
  | some protocol =>
    cases henforced : state.authorityEnforcement runtimePeerId session.peer protocol with
    | some enforced => simp [hprotocol, henforced] at h
    | none =>
      have hstill := hregistered.clearReconnectSuppression
        ⟨session.peer, some protocol, session.trafficClass⟩
      have hdegraded : ∀ (counted : AuthorityReevaluationReport) (reason : String),
          ∃ report' after, (degradeSession session protocol reason >>= fun _ =>
              pure counted.countDegraded : FabricM ρ _) (adapter.clearReconnectSuppression
                ⟨session.peer, some protocol, session.trafficClass⟩) = .ok report' after ∧
            Degraded session after := by
        intro counted reason
        obtain ⟨after, hrun, hafter⟩ := degradeSession_degraded hstill protocol reason
        exact ⟨_, after, bind_of_ok hrun, hafter⟩
      simp only [reevaluateSession, hprotocol, henforced, keepSession]
      rw [bind_of_ok (get_run _), bind_of_ok (modify_run _ _)]
      cases hplan : state.routePlan session.peer (some protocol) session.trafficClass with
      | ok route =>
        simp only [hprotocol, henforced, hplan, Bool.and_eq_true, Bool.not_eq_true'] at h
        simp only [followRoute, h.1, h.2, Bool.false_eq_true, if_false]
        exact hdegraded _ _
      | error error =>
        cases error with
        | noRoute peer => exact hdegraded _ _
        | _ => simp [hprotocol, henforced, hplan] at h

theorem sweep_degrades {sessions : List SessionSnapshot} {adapter : QuicTransportAdapter ρ}
    (hlisted : Listed sessions adapter) (hmem : session ∈ sessions)
    (h : state.degrades runtimePeerId session = true) (report : AuthorityReevaluationReport) :
    (∃ report' after, sessions.foldlM (reevaluateSession state runtimePeerId) report adapter =
        .ok report' after ∧ Degraded session after) ∨
      ∃ error after, sessions.foldlM (reevaluateSession state runtimePeerId) report adapter =
        .error error after ∧ OnPath session after := by
  have hdone : ∀ (turn : SessionSnapshot) report now report' now', Registered turn now →
      reevaluateSession state runtimePeerId report turn now = .ok report' now' →
        state.degrades runtimePeerId turn = true → Degraded (ρ := ρ) turn now' := by
    intro turn report now report' now' hready hrun hturn
    obtain ⟨report'', after, hturnRun, hafter⟩ := degrades_turn hturn hready report
    cases hturnRun.symm.trans hrun
    exact hafter
  have hready : ∀ turn other : SessionSnapshot, turn.sessionId ≠ other.sessionId →
      ∀ report now, Registered other now → Registered (ρ := ρ) other
        (final (reevaluateSession state runtimePeerId report turn) now) :=
    fun turn other hid report now hother =>
      hother.of_frame (reevaluateSession_frame state runtimePeerId report turn now) hid
  have hkept : ∀ turn other : SessionSnapshot, turn.sessionId ≠ other.sessionId →
      ∀ report now, (state.degrades runtimePeerId turn = true → Degraded (ρ := ρ) turn now) →
        state.degrades runtimePeerId turn = true → Degraded turn
          (final (reevaluateSession state runtimePeerId report other) now) :=
    fun turn other hid report now hturn hdegrades => (hturn hdegrades).of_frame
      (reevaluateSession_frame state runtimePeerId report other now) hid.symm
  rcases foldlM_cases hdone hready hkept hlisted.distinct report adapter hlisted.registered with
    ⟨report', after, hok, hall⟩ |
    ⟨done, stopper, rest, error, after, hsplit, herror, hbefore, hrest, report₁, now, hstopper, hfailed⟩
  · exact .inl ⟨report', after, hok, hall session hmem h⟩
  · refine .inr ⟨error, after, herror, ?_⟩
    rw [hsplit] at hmem
    rcases List.mem_append.1 hmem with hfront | hback
    · exact (hbefore session hfront h).onPath
    · rcases List.mem_cons.1 hback with rfl | hlater
      · -- the turn of the session itself does not stop the sweep
        obtain ⟨report'', degraded, hturn, -⟩ := degrades_turn h hstopper report₁
        cases hturn.symm.trans hfailed
      · exact (hrest session hlater).onPath

theorem reevaluateAuthority_degrades {adapter : QuicTransportAdapter ρ}
    (hmem : session ∈ adapter.activeSessions) (h : state.degrades runtimePeerId session = true) :
    OnPath session (final (reevaluateAuthority state runtimePeerId) adapter) ∧
      ∀ report after, reevaluateAuthority state runtimePeerId adapter = .ok report after →
        Degraded session after := by
  obtain ⟨started, hquiet, hlast, hok⟩ := reevaluateAuthority_run state runtimePeerId adapter
  have hlisted := (listed_activeSessions adapter).of_quiet hquiet
  rcases sweep_degrades hlisted hmem h (.start state runtimePeerId) with
    ⟨report', swept, hsweep, hdegraded⟩ | ⟨error, stopped, hsweep, honPath⟩
  · have hswept : Pass.sweep state runtimePeerId adapter.activeSessions started =
        .ok report' swept := hsweep
    rw [final_of_ok hswept] at hlast
    have hfinal := hdegraded.of_quiet hlast
    refine ⟨hfinal.onPath, ?_⟩
    intro report after hrun
    rwa [final_of_ok hrun] at hfinal
  · have hswept : Pass.sweep state runtimePeerId adapter.activeSessions started =
        .error error stopped := hsweep
    rw [final_of_error hswept] at hlast
    refine ⟨(onPath_congr (by rw [hlast.sessions])).2 honPath, ?_⟩
    intro report after hrun
    obtain ⟨report', swept, -, hswept'⟩ := hok report after hrun
    cases hswept.symm.trans hswept'

/-! ## Sessions opened for a route -/

theorem directSessionSnapshot_matches {route : RoutePlan} (hrelay : route.relay = none) :
    Returns (fun opened => sessionMatchesRoute opened route = true)
      (directSessionSnapshot route : QuicM ρ SessionSnapshot) := by
  apply Returns.bind
  intro adapter
  split
  · exact Returns.throw _
  · split_ifs
    · exact Returns.throw _
    · split
      · exact Returns.throw _
      · rename_i endpoint hendpoint
        apply Returns.bind
        intro now
        apply Returns.pure
        simp [sessionMatchesRoute, hendpoint, hrelay]

theorem relaySessionSnapshot_matches {route : RoutePlan} {relay : RelayPlan}
    (hrelay : route.relay = some relay) (hdestination : relay.destinationEndpoints =
      route.remoteEndpoints) (hendpoints : route.remoteEndpoints ≠ []) :
    Returns (fun opened => sessionMatchesRoute opened route = true)
      (relaySessionSnapshot route relay : QuicM ρ SessionSnapshot) := by
  obtain ⟨endpoint, rest, hremote⟩ := List.exists_cons_of_ne_nil hendpoints
  apply Returns.bind
  intro adapter
  split
  · exact Returns.throw _
  · split
    · exact Returns.throw _
    · split_ifs
      · exact Returns.throw _
      · apply Returns.bind
        intro credential
        apply Returns.bind
        intro attemptId
        split
        · exact Returns.throw _
        · rename_i relayEndpoint hrelayEndpoint
          apply Returns.bind
          intro accepted
          apply Returns.bind
          intro now
          apply Returns.pure
          simp [sessionMatchesRoute, hremote, hrelay, hdestination, hrelayEndpoint]

theorem opened_matches {peer : PeerId} {protocol : Option ProtocolId}
    {trafficClass : TrafficClass} {route : RoutePlan}
    (hplan : state.routePlan peer protocol trafficClass = .ok route)
    (hendpoints : route.remoteEndpoints ≠ []) :
    Returns (fun opened => sessionMatchesRoute opened route = true)
      (sessionSnapshotForRoute route : QuicM ρ SessionSnapshot) := by
  unfold sessionSnapshotForRoute
  cases hrelay : route.relay with
  | none => exact directSessionSnapshot_matches hrelay
  | some relay =>
    exact relaySessionSnapshot_matches hrelay (routePlan_destination hplan hrelay) hendpoints

theorem opened_elsewhere {protocol : Option ProtocolId} {route : RoutePlan}
    (hplan : state.routePlan session.peer protocol session.trafficClass = .ok route)
    (hendpoints : route.remoteEndpoints ≠ []) (hmatches : sessionMatchesRoute session route = false)
    {before after : QuicTransportAdapter ρ} {opened : SessionSnapshot}
    (hopen : sessionSnapshotForRoute route before = .ok opened after) :
    ¬ (opened.key = session.key ∧ sessionPath opened = sessionPath session) := by
  rintro ⟨hkey, hpath⟩
  have hopened : sessionMatchesRoute opened route = true :=
    opened_matches hplan hendpoints before opened after hopen
  rw [sessionMatchesRoute_congr hkey hpath, hmatches] at hopened
  cases hopened

/-! ## Reconciliation -/

theorem migrateExisting_opened {existing migrated : SessionSnapshot} {route : RoutePlan}
    {adapter after : QuicTransportAdapter ρ}
    (h : migrateExisting existing route adapter = .ok migrated after) :
    ∃ opened between now, sessionSnapshotForRoute route adapter = .ok opened between ∧
      migrated = migratedSnapshot existing opened now := by
  obtain ⟨opened, s₁, hopened, h⟩ := bind_eq_ok h
  obtain ⟨now, s₂, -, h⟩ := bind_eq_ok h
  obtain ⟨_, s₃, -, h⟩ := bind_eq_ok h
  obtain ⟨_, s₄, -, h⟩ := bind_eq_ok h
  obtain ⟨_, s₅, -, h⟩ := bind_eq_ok h
  cases h
  exact ⟨opened, s₁, now, hopened, rfl⟩

theorem migrate_leaves {protocol : Option ProtocolId} {route : RoutePlan}
    (hplan : state.routePlan session.peer protocol session.trafficClass = .ok route)
    (hendpoints : route.remoteEndpoints ≠ []) (hmatches : sessionMatchesRoute session route = false)
    {current migrated : SessionSnapshot} (hid : current.sessionId = session.sessionId)
    {adapter after : QuicTransportAdapter ρ} {record : RuntimeSessionRecord}
    (hfind : adapter.runtimeSessions.find current.sessionId = some record)
    (h : migrate current route adapter = .ok migrated after) : ¬ OnPath session after := by
  obtain ⟨existing, marked, hrun, hexisting, -, -, -⟩ := migrate_run route hfind
  rw [hrun] at h
  obtain ⟨opened, between, now, hopened, hmigrated⟩ := migrateExisting_opened h
  obtain ⟨-, alpn, hstored⟩ := migrateExisting_ok h
  have helsewhere := opened_elsewhere hplan hendpoints hmatches hopened
  rintro ⟨found, hfound, hkey, hpath⟩
  rw [← hid, ← hexisting, hstored] at hfound
  cases hfound
  apply helsewhere
  rw [hmigrated] at hkey hpath
  exact ⟨hkey, hpath⟩

/-- A turn on a stranded session that does not stop the pass takes it off its path. -/
theorem reconcileSession_leaves {protocol : ProtocolId} (hstrands : state.Strands session protocol)
    (hendpoints : ∀ route, state.routePlan session.peer (some protocol) session.trafficClass =
      .ok route → route.remoteEndpoints ≠ [])
    {progress progress' : ReconcileProgress} (hon : progress.On state)
    {current : SessionSnapshot} (hid : current.sessionId = session.sessionId)
    (hkey : current.key = session.key) (hpath : sessionPath current = sessionPath session)
    {adapter after : QuicTransportAdapter ρ} (hregistered : Registered current adapter)
    (h : reconcileSession progress current adapter = .ok progress' after) :
    ¬ OnPath session after := by
  obtain ⟨now, marked, hrun, hcurrent⟩ := reconcileSession_run hregistered progress
  rw [hrun] at h
  have hpeer : (reconciling current now).peer = session.peer := congrArg SessionKey.peer hkey
  have hclass : (reconciling current now).trafficClass = session.trafficClass :=
    congrArg SessionKey.trafficClass hkey
  have hprotocol : (reconciling current now).protocol = some protocol :=
    (congrArg SessionKey.protocol hkey).trans hstrands.protocol_eq
  simp only [reconcileRegistered, hprotocol, hpeer, hclass, hon.explainPolicy, hon.routePlan,
    hstrands.allowed, if_true] at h
  have hgone : Gone (reconciling current now) after → ¬ OnPath session after := by
    intro hgone
    apply not_onPath_of_gone
    rw [Gone, ← hid]
    exact hgone
  rcases hstrands.plan with ⟨peer, hplan⟩ | ⟨route, hplan, hmatches⟩
  · rw [hplan] at h
    exact hgone (closeFailed_gone h)
  · have hcongr : sessionMatchesRoute (reconciling current now) route = false :=
      (sessionMatchesRoute_congr hkey hpath route).trans hmatches
    simp only [hplan, reconcileRoute, hcongr, Bool.false_eq_true, if_false] at h
    rw [bind_of_ok (moveSession_run _ _ _ _ _)] at h
    obtain ⟨alpn, hfind⟩ := hcurrent
    have hmoved := find_updateSessionState (reconciling current now).sessionId .migrating none
      (some "selected path changed; session migrating") marked
    rw [hfind, Option.map_some] at hmoved
    cases hmigrate : migrate (reconciling current now) route
        (marked.updateSessionState (reconciling current now).sessionId .migrating none
          (some "selected path changed; session migrating")).2 with
    | ok migrated left =>
      rw [bind_of_ok (attempt_of_ok hmigrate)] at h
      cases h
      exact migrate_leaves hplan (hendpoints route hplan) hmatches hid hmoved hmigrate
    | error error left =>
      rw [bind_of_ok (attempt_of_error hmigrate)] at h
      exact hgone (closeFailed_gone h)

theorem reconcile_leaves {protocol : ProtocolId} (hstrands : state.Strands session protocol)
    (hendpoints : ∀ route, state.routePlan session.peer (some protocol) session.trafficClass =
      .ok route → route.remoteEndpoints ≠ [])
    {current : SessionSnapshot} (hid : current.sessionId = session.sessionId)
    (hkey : current.key = session.key) (hpath : sessionPath current = sessionPath session)
    {sessions : List SessionSnapshot} (hmem : current ∈ sessions)
    {progress progress' : ReconcileProgress} (hon : progress.On state)
    {adapter after : QuicTransportAdapter ρ} (hlisted : Listed sessions adapter)
    (h : sessions.foldlM reconcileSession progress adapter = .ok progress' after) :
    ¬ OnPath session after := by
  induction sessions generalizing progress adapter with
  | nil => cases hmem
  | cons first rest ih =>
    obtain ⟨progress₁, between, hfirst, hrest⟩ := bind_eq_ok h
    have htouches := (reconcileSession_touches progress first).of_ok hfirst
    have hon₁ := reconcileSession_on hon first adapter progress₁ between hfirst
    rcases List.mem_cons.1 hmem with rfl | hlater
    · have hleft := reconcileSession_leaves hstrands hendpoints hon hid hkey hpath
        (hlisted.registered current List.mem_cons_self) hfirst
      -- the turns of the others do not touch the session
      have hkept : ¬ OnPath session (final (rest.foldlM reconcileSession progress₁) between) := by
        refine foldlM_keeps (P := fun now => ¬ OnPath session now) ?_ progress₁ hleft
        intro progress₂ other hother now hnow
        have hne := (List.pairwise_cons.1 hlisted.distinct).1 other hother
        rw [hid] at hne
        rwa [onPath_congr ((reconcileSession_touches progress₂ other now).sessions _ hne)]
      rwa [final_of_ok hrest] at hkept
    · exact ih hlater hon₁ (hlisted.tail_of_touches htouches) hrest

end Hashing

end QuipNet.Fabric
