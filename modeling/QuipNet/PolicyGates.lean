import QuipNet.AuthorityEnforcement
import QuipNet.AuthorityFacts

/-!
# The four policy gates

Opening a session, upgrading it, reconciling it and reevaluating it each consult
policy on their own. Opening, upgrading and reconciling ask `explain_policy` about
the remote peer and the protocol; reevaluation first asks whether the local node
itself still stands.
-/

open Std
namespace QuipNet.Fabric
open QuipNet.Library.Effect QuipNet.Quic QuipNet.Transport
open QuicTransportAdapter

variable {ρ : Type}

/-- A turn closed its session for policy: it removed the session and counted it so, or
the relay of the removed session ended the turn. -/
def PolicyClosed {α : Type} (counted : α → Prop) (session : SessionSnapshot) :
    EStateM.Result DaemonStateError (QuicTransportAdapter ρ) α → Prop
  | .ok value after => Gone session after ∧ counted value
  | .error error after => Gone session after ∧ ∃ cause, error = .transport cause

structure DirectSession (key : SessionKey) (transport : QuicTransportAdapter ρ)
    (session : SessionSnapshot) : Prop where
  registered : Registered session transport
  key : session.key = key
  direct : session.pathKind = .directUdp

theorem exists_direct_session (adapter : QuicTransportAdapter ρ) (key : SessionKey) :
    ∃ transport : QuicTransportAdapter ρ, ∃ session, DirectSession key transport session := by
  let session : SessionSnapshot :=
    { meshSession 1 .directUdp key.peer with
      protocol := key.protocol
      trafficClass := key.trafficClass }
  refine ⟨{ adapter with runtimeSessions := SessionRegistry.insert {} ⟨session, none⟩ }, session,
    ⟨none, ?_⟩, rfl, rfl⟩
  rw [SessionRegistry.find_insert, if_pos rfl]

/-! ## Closing in a reconcile turn -/

def ReconcileDenied (progress : ReconcileProgress) (session : SessionSnapshot) :
    EStateM.Result DaemonStateError (QuicTransportAdapter ρ) ReconcileProgress → Prop :=
  PolicyClosed (fun progress' => ∃ reason, progress'.entries = progress.entries ++
    [⟨session.sessionId, session.peer, .closed, policyDeniedText reason, none⟩]) session

/-- The session as a turn of the reconcile loop reads it back. -/
def reconciling (session : SessionSnapshot) (now : ℕ) : SessionSnapshot :=
  moved session .reconciling none (some "daemon reconcile cycle") now

theorem reconcileDenied_reconciling (progress : ReconcileProgress) (session : SessionSnapshot)
    (now : ℕ)
    (result : EStateM.Result DaemonStateError (QuicTransportAdapter ρ) ReconcileProgress) :
    ReconcileDenied progress (reconciling session now) result ↔
      ReconcileDenied progress session result := Iff.rfl

theorem head_append {text : String} {first : Char} (h : text.toList.head? = some first)
    (rest : String) : (text ++ rest).toList.head? = some first := by
  rw [String.toList_append, List.head?_append, h, Option.some_or]

theorem head_policyDeniedText (reason : String) :
    (policyDeniedText reason).toList.head? = some 'p' := by
  have hhead : "policy denied session: ".toList.head? = some 'p' := rfl
  exact head_append hhead reason

theorem closeDenied_denied (progress : ReconcileProgress) (session : SessionSnapshot)
    (reason : String) (adapter : QuicTransportAdapter ρ) :
    ReconcileDenied progress session (closeDenied progress session reason adapter) := by
  let marked := (adapter.updateSessionState session.sessionId .closing (some .policyRejected)
    (some reason)).2
  have hrun : closeDenied progress session reason adapter = (onTransport (closeSession session) >>=
      fun _ => pure (progress.recordClosed session (policyDeniedText reason))) marked :=
    bind_of_ok (moveSession_run _ _ _ _ _)
  have hgone : Gone session (final (onTransport (closeSession session)) marked) := by
    rw [onTransport, final_mapError]
    exact closeSession_find session marked
  rw [hrun]
  cases hclose : onTransport (closeSession session) marked with
  | ok _ after =>
    rw [final_of_ok hclose] at hgone
    rw [bind_of_ok hclose]
    exact ⟨hgone, reason, rfl⟩
  | error error after =>
    rw [final_of_error hclose] at hgone
    rw [bind_of_error hclose]
    exact ⟨hgone, onTransport_error hclose⟩

theorem closeFailed_not_denied {session : SessionSnapshot} {adapter : QuicTransportAdapter ρ}
    {record : RuntimeSessionRecord}
    (hfind : adapter.runtimeSessions.find session.sessionId = some record)
    (hdirect : record.snapshot.pathKind ≠ .relay) (progress : ReconcileProgress)
    (closureReason : SessionClosureReason) {reason : String}
    (hreason : reason.toList.head? ≠ some 'p') :
    ¬ ReconcileDenied progress session (closeFailed progress session closureReason reason adapter) := by
  obtain ⟨after, hclose⟩ := failAndCloseSession_ok_of_direct hfind hdirect closureReason reason
  have hrun : closeFailed progress session closureReason reason adapter =
      .ok (progress.recordClosed session reason) after := bind_of_ok hclose
  rw [hrun]
  rintro ⟨-, other, hentries⟩
  simp only [ReconcileProgress.recordClosed, List.append_cancel_left_eq, List.cons.injEq,
    SessionReconcileEntry.mk.injEq, and_true, true_and] at hentries
  exact hreason (hentries ▸ head_policyDeniedText other)

/-! ## The gates -/

section Gates
variable [Primitives]

def ReevaluateCloses (ρ : Type) (state : DaemonState) (runtimePeerId : PeerId) (key : SessionKey) :
    Prop :=
  ∀ (transport : QuicTransportAdapter ρ) report session, Registered session transport →
    session.key = key →
      PolicyClosed (fun report' : AuthorityReevaluationReport =>
          report'.policyClosures = report.policyClosures + 1) session
        (reevaluateSession state runtimePeerId report session transport)

def ReconcileCloses (ρ : Type) (state : DaemonState) (key : SessionKey) : Prop :=
  ∀ (transport : QuicTransportAdapter ρ) progress session,
    progress.state = { state with activeSessions := progress.state.activeSessions } →
      Registered session transport → session.key = key →
        ReconcileDenied progress session (reconcileSession progress session transport)

def UpgradeRefuses (config : DaemonConfig) (world : World ρ) (key : SessionKey) : Prop :=
  ∀ (transport : QuicTransportAdapter ρ) session, Registered session transport → session.key = key →
    ∃ reason after, LocalControlPlane.upgradeSession config session.sessionId
      { world with transport } = .error (.policyDenied reason) after

def RealizeRefuses (config : DaemonConfig) (world : World ρ) (peer : PeerId)
    (protocol : ProtocolId) (trafficClass : TrafficClass) : Prop :=
  ∀ transport : QuicTransportAdapter ρ, ∃ reason after,
    LocalControlPlane.realizeBestPath config peer protocol trafficClass
      { world with transport } = .error (.policyDenied reason) after

variable {config : DaemonConfig} {world opened : World ρ} {state : DaemonState}
  {runtimePeerId peer : PeerId} {protocol : ProtocolId} {trafficClass : TrafficClass}

/-! ## Reevaluation -/

theorem reevaluateCloses_iff (adapter : QuicTransportAdapter ρ) :
    ReevaluateCloses ρ state runtimePeerId ⟨peer, some protocol, trafficClass⟩ ↔
      (state.authorityEnforcement runtimePeerId peer protocol).isSome = true := by
  constructor
  · intro hcloses
    by_contra hallowed
    obtain ⟨transport, session, hregistered, hkey, hdirect⟩ :=
      exists_direct_session adapter ⟨peer, some protocol, trafficClass⟩
    have hnot : state.deniesKey runtimePeerId session.key = false := by
      simpa [DaemonState.deniesKey, hkey] using hallowed
    have hprotocol : session.protocol = some protocol := congrArg SessionKey.protocol hkey
    have hturn := reevaluateSession_turn state runtimePeerId
      (.start state runtimePeerId) hregistered
    have hclosed := hcloses transport (.start state runtimePeerId) session hregistered hkey
    generalize reevaluateSession state runtimePeerId (.start state runtimePeerId) session
      transport = result at hturn hclosed
    cases hturn with
    | skipped hnone => simp [hprotocol] at hnone
    | enforced hdenied => simp [hnot] at hdenied
    | kept _ _ hkept => exact not_gone_of_keptKey hkept hclosed.1
    | migrationFailed _ _ _ _ hpolicy =>
      have hcounted := hclosed.2
      omega
    | refused hdenied => simp [hnot] at hdenied
    | stopped _ hleft =>
      rcases hleft with ⟨-, hrelay⟩ | hkept
      · simp [hdirect] at hrelay
      · exact not_gone_of_keptKey hkept hclosed.1
  · intro henforced transport report session hregistered hkey
    have hdenies : state.deniesKey runtimePeerId session.key = true := by
      simpa [DaemonState.deniesKey, hkey] using henforced
    have hprotocol : session.protocol = some protocol := congrArg SessionKey.protocol hkey
    have hturn := reevaluateSession_turn state runtimePeerId report hregistered
    generalize reevaluateSession state runtimePeerId report session transport = result at hturn ⊢
    cases hturn with
    | skipped hnone => simp [hprotocol] at hnone
    | enforced _ hgone _ _ hpolicy => exact ⟨hgone, hpolicy⟩
    | kept hallowed => simp [hdenies] at hallowed
    | migrationFailed hallowed => simp [hdenies] at hallowed
    | refused _ hgone _ hcause => exact ⟨hgone, hcause⟩
    | stopped hallowed => simp [hdenies] at hallowed

/-! ## Opening and upgrading -/

theorem realizeState_error_policyDenied {adapter after : QuicTransportAdapter ρ} {reason : String}
    (h : realizeState peer protocol trafficClass state adapter =
      .error (.policyDenied reason) after) :
    (state.explainPolicy peer protocol).allowed = false := by
  by_contra hdenied
  have hallowed : (state.explainPolicy peer protocol).allowed = true := by simpa using hdenied
  simp only [realizeState, hallowed, if_true] at h
  cases hplan : planRoute state peer (some protocol) trafficClass adapter with
  | error error stopped =>
    rw [bind_of_error hplan] at h
    cases h
    rcases planRoute_error hplan with h | h <;> cases h
  | ok route planned =>
    rw [bind_of_ok hplan] at h
    cases hconnect : onTransport (connect route) planned with
    | error error stopped =>
      rw [bind_of_error hconnect] at h
      cases h
      obtain ⟨cause, hcause⟩ := onTransport_error hconnect
      cases hcause
    | ok connection connected =>
      rw [bind_of_ok hconnect] at h
      cases h

theorem realizeRefuses_iff (hstate : LocalControlPlane.ensureState config world = .ok state opened) :
    RealizeRefuses config world peer protocol trafficClass ↔
      (state.explainPolicy peer protocol).allowed = false := by
  constructor
  · intro hrefuses
    obtain ⟨reason, after, hrun⟩ := hrefuses world.transport
    exact realizeState_error_policyDenied
      ((LocalControlPlane.transaction_error_iff hstate).1 hrun).1
  · intro hdenied transport
    have hopened := (LocalControlPlane.ensureState_ok hstate transport).1
    refine ⟨(state.explainPolicy peer protocol).reason, { opened with transport },
      (LocalControlPlane.transaction_error_iff hopened).2 ⟨?_, rfl⟩⟩
    simp only [realizeState, hdenied, Bool.false_eq_true, if_false, throw_run]

theorem upgradeState_run {session : SessionSnapshot} {adapter : QuicTransportAdapter ρ}
    (hregistered : Registered session adapter) (hprotocol : session.protocol = some protocol) :
    upgradeState session.sessionId state adapter = upgradeFound state session protocol adapter := by
  obtain ⟨alpn, hfind⟩ := hregistered
  simp only [upgradeState, bind_run, get_run, sessionSnapshot, hfind, Option.map_some, hprotocol]

theorem upgradeFound_error_policyDenied {session : SessionSnapshot}
    {adapter after : QuicTransportAdapter ρ} {reason : String}
    (h : upgradeFound state session protocol adapter = .error (.policyDenied reason) after) :
    (state.explainPolicy session.peer protocol).allowed = false := by
  by_contra hdenied
  have hallowed : (state.explainPolicy session.peer protocol).allowed = true := by
    simpa using hdenied
  simp only [upgradeFound, hallowed, if_true] at h
  rw [bind_of_ok (moveSession_run _ _ _ _ _)] at h
  generalize (adapter.updateSessionState session.sessionId .migrating none
    (some "daemon selected a better path")).2 = marked at h
  cases hplan : planRoute state session.peer (some protocol) session.trafficClass marked with
  | error error stopped =>
    rw [bind_of_error hplan] at h
    cases h
    rcases planRoute_error hplan with h | h <;> cases h
  | ok route planned =>
    rw [bind_of_ok hplan] at h
    cases hmigrate : onTransport (migrate session route) planned with
    | error error stopped =>
      rw [bind_of_error hmigrate] at h
      cases h
      obtain ⟨cause, hcause⟩ := onTransport_error hmigrate
      cases hcause
    | ok upgraded migrated =>
      rw [bind_of_ok hmigrate] at h
      cases h

theorem upgradeRefuses_iff (hstate : LocalControlPlane.ensureState config world = .ok state opened) :
    UpgradeRefuses config world ⟨peer, some protocol, trafficClass⟩ ↔
      (state.explainPolicy peer protocol).allowed = false := by
  constructor
  · intro hrefuses
    obtain ⟨transport, session, hregistered, hkey, -⟩ :=
      exists_direct_session world.transport ⟨peer, some protocol, trafficClass⟩
    obtain ⟨reason, after, hrun⟩ := hrefuses transport session hregistered hkey
    have hopened := (LocalControlPlane.ensureState_ok hstate transport).1
    have hwork := ((LocalControlPlane.transaction_error_iff hopened).1 hrun).1
    rw [upgradeState_run hregistered (congrArg SessionKey.protocol hkey)] at hwork
    have hpeer : session.peer = peer := congrArg SessionKey.peer hkey
    rw [← hpeer]
    exact upgradeFound_error_policyDenied hwork
  · intro hdenied transport session hregistered hkey
    have hopened := (LocalControlPlane.ensureState_ok hstate transport).1
    have hpeer : session.peer = peer := congrArg SessionKey.peer hkey
    let reason := (state.explainPolicy peer protocol).reason
    let failed := (transport.updateSessionState session.sessionId .failed (some .policyRejected)
      (some reason)).2
    refine ⟨reason, ⟨opened.stateFile, failed⟩,
      (LocalControlPlane.transaction_error_iff hopened).2 ⟨?_, rfl⟩⟩
    rw [upgradeState_run hregistered (congrArg SessionKey.protocol hkey)]
    simp only [upgradeFound, hpeer, hdenied, Bool.false_eq_true, if_false]
    rw [bind_of_ok (moveSession_run _ _ _ _ _), throw_run]

/-! ## Reconciliation -/

theorem reconcileSession_run {session : SessionSnapshot} {adapter : QuicTransportAdapter ρ}
    (hregistered : Registered session adapter) (progress : ReconcileProgress) :
    ∃ now marked, reconcileSession progress session adapter =
        reconcileRegistered progress (reconciling session now) marked ∧
      Registered (reconciling session now) marked := by
  obtain ⟨alpn, hfind⟩ := hregistered
  have hmoved := find_updateSessionState session.sessionId .reconciling none
    (some "daemon reconcile cycle") adapter
  rw [hfind, Option.map_some] at hmoved
  refine ⟨adapter.currentUnixSecs, _, ?_, ⟨alpn, hmoved⟩⟩
  refine (bind_of_ok (moveSession_run _ _ _ _ _)).trans ?_
  simp only [bind_run, get_run, sessionSnapshot, hmoved, Option.map_some, reconciling]

theorem reconcileRoute_not_denied {session : SessionSnapshot}
    {adapter : QuicTransportAdapter ρ} (hregistered : Registered session adapter)
    (hdirect : session.pathKind ≠ .relay) (progress : ReconcileProgress)
    (plan : Except DaemonStateError RoutePlan)
    (hplan : ∀ error, plan = .error error → ∀ cause, error ≠ .transport cause) :
    ¬ ReconcileDenied progress session (reconcileRoute progress session plan adapter) := by
  obtain ⟨alpn, hfind⟩ := hregistered
  cases plan with
  | ok route =>
    by_cases hmatches : sessionMatchesRoute session route = true
    · have hkept := moved_keptKey ⟨alpn, hfind⟩ .active none
        (some "selected path still matches active session")
      simp only [reconcileRoute, hmatches, if_true]
      rw [bind_of_ok (moveSession_run _ _ _ _ _), pure_run]
      rintro ⟨hgone, -⟩
      exact not_gone_of_keptKey hkept hgone
    · have hmoved := find_updateSessionState session.sessionId .migrating none
        (some "selected path changed; session migrating") adapter
      rw [hfind, Option.map_some] at hmoved
      obtain ⟨existing, before, hmigrate, hid, hkind, hbefore, -⟩ := migrate_run route hmoved
      simp only [reconcileRoute, hmatches, Bool.false_eq_true, if_false]
      rw [bind_of_ok (moveSession_run _ _ _ _ _)]
      generalize (adapter.updateSessionState session.sessionId .migrating none
        (some "selected path changed; session migrating")).2 = marked at hmigrate ⊢
      cases hanswer : migrate session route marked with
      | ok migrated after =>
        obtain ⟨-, alpn', hstored⟩ := migrateExisting_ok (hmigrate.symm.trans hanswer)
        rw [bind_of_ok (attempt_of_ok hanswer), finishUpgrade, pure_run]
        rintro ⟨hgone, -⟩
        rw [hid, hgone] at hstored
        cases hstored
      | error error failed =>
        -- the record of a direct session is still there, so it can be closed
        have hexisting : existing.pathKind ≠ .relay := by
          rw [hkind]
          exact hdirect
        rw [← hid] at hbefore
        have hstill := migrateExisting_error_of_direct hbefore hexisting hexisting
          (hmigrate.symm.trans hanswer)
        rw [hid] at hstill
        have hhead : "session migration failed: ".toList.head? = some 's' := rfl
        rw [bind_of_ok (attempt_of_error hanswer), finishUpgrade]
        exact closeFailed_not_denied hstill hexisting progress _
          (by rw [head_append hhead]; decide)
  | error error =>
    by_cases hnoRoute : ∃ peer, error = .noRoute peer
    · obtain ⟨peer, rfl⟩ := hnoRoute
      have hhead : "no route is available for session".toList.head? ≠ some 'p' := by decide
      exact closeFailed_not_denied hfind hdirect progress .pathExhaustion hhead
    · have hrun : reconcileRoute progress session (.error error) adapter = .error error adapter := by
        cases error <;> first | rfl | exact absurd ⟨_, rfl⟩ hnoRoute
      rw [hrun]
      rintro ⟨-, cause, hcause⟩
      exact hplan error rfl cause hcause

theorem reconcileCloses_iff (adapter : QuicTransportAdapter ρ) :
    ReconcileCloses ρ state ⟨peer, some protocol, trafficClass⟩ ↔
      (state.explainPolicy peer protocol).allowed = false := by
  constructor
  · intro hcloses
    by_contra hdenied
    obtain ⟨transport, session, hregistered, hkey, hdirect⟩ :=
      exists_direct_session adapter ⟨peer, some protocol, trafficClass⟩
    have hclosed := hcloses transport { state } session rfl hregistered hkey
    obtain ⟨now, marked, hrun, hcurrent⟩ := reconcileSession_run hregistered { state }
    have hprotocol : (reconciling session now).protocol = some protocol :=
      congrArg SessionKey.protocol hkey
    have hpeer : (reconciling session now).peer = peer := congrArg SessionKey.peer hkey
    have hkind : (reconciling session now).pathKind = .directUdp := hdirect
    have hallowed : (state.explainPolicy peer protocol).allowed = true := by simpa using hdenied
    rw [← reconcileDenied_reconciling _ session now, hrun] at hclosed
    simp only [reconcileRegistered, hprotocol, hpeer, hallowed, if_true] at hclosed
    refine reconcileRoute_not_denied hcurrent (by simp [hkind]) { state } _ ?_ hclosed
    intro error herror cause
    rcases DaemonState.routePlan_error herror with rfl | rfl <;> simp
  · intro hdenied transport progress session hstate hregistered hkey
    obtain ⟨now, marked, hrun, hcurrent⟩ := reconcileSession_run hregistered progress
    have hprotocol : (reconciling session now).protocol = some protocol :=
      congrArg SessionKey.protocol hkey
    have hpeer : (reconciling session now).peer = peer := congrArg SessionKey.peer hkey
    have hpolicy : (progress.state.explainPolicy peer protocol).allowed = false := by
      rw [hstate]
      exact hdenied
    rw [← reconcileDenied_reconciling progress session now, hrun]
    simp only [reconcileRegistered, hprotocol, hpeer, hpolicy, Bool.false_eq_true, if_false]
    exact closeDenied_denied progress _ _ marked

/-! ## Agreement -/

/-- The gates agree on the sessions of a key, and a denied local node opens none. -/
def GatesAgree (config : DaemonConfig) (world : World ρ) (state : DaemonState)
    (runtimePeerId peer : PeerId) (protocol : ProtocolId) (trafficClass : TrafficClass) : Prop :=
  (ReevaluateCloses ρ state runtimePeerId ⟨peer, some protocol, trafficClass⟩ ↔
    RealizeRefuses config world peer protocol trafficClass ∧
      UpgradeRefuses config world ⟨peer, some protocol, trafficClass⟩ ∧
      ReconcileCloses ρ state ⟨peer, some protocol, trafficClass⟩) ∧
  ((state.denyReason state.localPeerId).isSome = true →
    RealizeRefuses config world peer protocol trafficClass)

/-- The gates agree exactly where policy denies the pair in any case, or the local
node stands: its membership is its own and it is not denied. -/
theorem gatesAgree_iff (hstate : LocalControlPlane.ensureState config world = .ok state opened)
    (identity : IdentityKeypair) (peer : PeerId) (protocol : ProtocolId)
    (trafficClass : TrafficClass) :
    GatesAgree config world state identity.peerId peer protocol trafficClass ↔
      (state.explainPolicy peer protocol).allowed = false ∨
        (state.membership.subjectPeerId = identity.peerId ∧
          state.denyReason state.localPeerId = none) := by
  rw [GatesAgree, reevaluateCloses_iff world.transport, realizeRefuses_iff hstate,
    upgradeRefuses_iff hstate, reconcileCloses_iff world.transport,
    DaemonState.authorityEnforcement_isSome_iff, DaemonState.localPolicyReason_isSome_iff]
  cases hallowed : (state.explainPolicy peer protocol).allowed with
  | false => simp
  | true =>
    simp only [Bool.true_eq_false, or_false, and_self, false_or, iff_false, not_or, ne_eq,
      not_not, imp_false]
    rw [← Option.not_isSome_iff_eq_none]
    tauto

end Gates

section Closed
attribute [local instance] Primitives.transparent
open LocalControlPlane

theorem grantedFixture_gatesAgree : GatesAgree meshConfig liftedWorld
    (prepared meshConfig grantedFixture) fixtureIdentity.peerId fixtureWorkerPeer
    ⟨"/quip/control/1"⟩ .bulk := by
  have hstate : ensureState meshConfig liftedWorld =
      .ok (prepared meshConfig grantedFixture) liftedWorld := rfl
  refine (gatesAgree_iff hstate fixtureIdentity fixtureWorkerPeer ⟨"/quip/control/1"⟩ .bulk).2 ?_
  exact .inr (by decide)

def locallyRevoked : DaemonState :=
  (grantedFixture.applyRevocations [peerRevocation fixtureIdentity.peerId]).1

def locallyRevokedWorld : World Unit := meshWorld locallyRevoked [] []

/-- Reevaluation closes the revoked node's sessions with the worker, and opening one
is not refused for policy. -/
theorem locallyRevoked_gates_disagree : ∃ state opened,
    ensureState meshConfig locallyRevokedWorld = .ok state opened ∧
      (state.denyReason state.localPeerId).isSome = true ∧
      ¬ GatesAgree meshConfig locallyRevokedWorld state fixtureIdentity.peerId fixtureWorkerPeer
        ⟨"/quip/control/1"⟩ .bulk := by
  have hstate : ensureState meshConfig locallyRevokedWorld =
      .ok (prepared meshConfig locallyRevoked) locallyRevokedWorld := rfl
  have hrevoked : ((prepared meshConfig locallyRevoked).denyReason
      (prepared meshConfig locallyRevoked).localPeerId).isSome = true := by
    rfl
  have hallowed : ((prepared meshConfig locallyRevoked).explainPolicy fixtureWorkerPeer
      ⟨"/quip/control/1"⟩).allowed = true := by
    decide +kernel
  refine ⟨_, _, hstate, hrevoked, ?_⟩
  rintro ⟨-, hlocal⟩
  have hdenied := (realizeRefuses_iff hstate).1 (hlocal hrevoked)
  rw [hallowed] at hdenied
  cases hdenied

end Closed

end QuipNet.Fabric
