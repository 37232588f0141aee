import QuipNet.Reevaluation
import QuipNet.SessionOutcomes

/-!
# One turn of the reevaluation loop

`Turn` lists what a turn on a registered session can do: leave it alone, close it
for policy, keep it under its key, close it because its migration failed, or stop
the pass. Only a session on a relay path can have the relay stop the pass, and a
route plan that fails for another reason than a missing route always stops it.
-/

open Std
namespace QuipNet.Fabric
open QuipNet.Library.Effect QuipNet.Quic QuipNet.Transport
open QuicTransportAdapter

variable {ρ : Type}

def Registered (session : SessionSnapshot) (adapter : QuicTransportAdapter ρ) : Prop :=
  ∃ alpn, adapter.runtimeSessions.find session.sessionId = some ⟨session, alpn⟩

def Gone (session : SessionSnapshot) (adapter : QuicTransportAdapter ρ) : Prop :=
  adapter.runtimeSessions.find session.sessionId = none

def KeptKey (session : SessionSnapshot) (adapter : QuicTransportAdapter ρ) : Prop :=
  ∃ record, adapter.runtimeSessions.find session.sessionId = some record ∧
    record.snapshot.key = session.key

theorem registered_of_mem_activeSessions {adapter : QuicTransportAdapter ρ}
    {session : SessionSnapshot} (h : session ∈ adapter.activeSessions) :
    Registered session adapter := by
  obtain ⟨record, hfind, rfl⟩ := SessionRegistry.mem_snapshots.1 h
  exact ⟨record.alpnProtocol, hfind⟩

theorem Registered.clearReconnectSuppression {session : SessionSnapshot}
    {adapter : QuicTransportAdapter ρ} (h : Registered session adapter) (key : SessionKey) :
    Registered session (adapter.clearReconnectSuppression key) := by
  obtain ⟨alpn, hfind⟩ := h
  exact ⟨alpn, by rw [clearReconnectSuppression_sessions, hfind]⟩

theorem mem_activeSessions_of_registered {adapter : QuicTransportAdapter ρ}
    {session : SessionSnapshot} (h : Registered session adapter) :
    session ∈ adapter.activeSessions := by
  obtain ⟨alpn, hfind⟩ := h
  exact SessionRegistry.mem_snapshots.2 ⟨_, hfind, rfl⟩

theorem eq_of_registered {listed session : SessionSnapshot}
    (hid : listed.sessionId = session.sessionId)
    {adapter : QuicTransportAdapter ρ} (hmem : session ∈ adapter.activeSessions)
    (hregistered : Registered listed adapter) : session = listed := by
  obtain ⟨alpn, hfind⟩ := registered_of_mem_activeSessions hmem
  obtain ⟨alpn', hlisted⟩ := hregistered
  rw [hid, hfind] at hlisted
  cases hlisted
  rfl

theorem moveSession_run (id : SessionId) (sessionState : RuntimeSessionState)
    (closureReason : Option SessionClosureReason) (stateReason : Option String)
    (adapter : QuicTransportAdapter ρ) :
    onTransport (moveSession id sessionState closureReason stateReason) adapter =
      .ok () (adapter.updateSessionState id sessionState closureReason stateReason).2 := rfl

/-! ## Closing after a failure -/

theorem failAndCloseSession_run (session : SessionSnapshot) (closureReason : SessionClosureReason)
    (stateReason : String) (adapter : QuicTransportAdapter ρ) :
    ∃ marked, failAndCloseSession session closureReason stateReason adapter =
        onTransport (closeSession session) marked ∧
      TouchesSession session.sessionId adapter marked ∧
      (marked.runtimeSessions.find session.sessionId).map (fun record => record.snapshot.pathKind) =
        (adapter.runtimeSessions.find session.sessionId).map fun record => record.snapshot.pathKind := by
  have htouches := updateSessionState_touches session.sessionId .failed (some closureReason)
    (some stateReason) adapter
  have hmoved := find_updateSessionState session.sessionId .failed (some closureReason)
    (some stateReason) adapter
  have hquiet := emitRuntimeEvent_quiet "path.failed" (sessionSubject session.sessionId)
    (.object [("peer_id", .string session.peer.toText),
      ("protocol", protocolJson session.protocol), ("class", .string session.trafficClass.debug),
      ("path_class", .string session.pathKind.debug), ("cause", .string closureReason.label),
      ("reason", .string stateReason)])
    (adapter.updateSessionState session.sessionId .failed (some closureReason) (some stateReason)).2
  refine ⟨_, bind_of_ok (moveSession_run _ _ _ _ _) |>.trans (bind_of_ok (modify_run _ _)),
    IsTrans.trans _ _ _ htouches (hquiet.touchesSession _), ?_⟩
  rw [hquiet.sessions, hmoved, Option.map_map]
  rfl

theorem failAndCloseSession_touches (session : SessionSnapshot)
    (closureReason : SessionClosureReason) (stateReason : String) :
    Moves (TouchesSession session.sessionId)
      (failAndCloseSession session closureReason stateReason : FabricM ρ Unit) := by
  intro adapter
  obtain ⟨marked, hrun, htouches, -⟩ :=
    failAndCloseSession_run session closureReason stateReason adapter
  have hclose := (closeSession_touches session).mapError DaemonStateError.transport marked
  rw [final, hrun]
  exact IsTrans.trans _ _ _ htouches hclose

theorem failAndCloseSession_gone (session : SessionSnapshot) (closureReason : SessionClosureReason)
    (stateReason : String) (adapter : QuicTransportAdapter ρ) :
    Gone session (final (failAndCloseSession session closureReason stateReason) adapter) := by
  obtain ⟨marked, hrun, -, -⟩ := failAndCloseSession_run session closureReason stateReason adapter
  have hclose : Gone session (final (onTransport (closeSession session)) marked) := by
    rw [onTransport, final_mapError]
    exact closeSession_find session marked
  rw [final, hrun]
  exact hclose

theorem onTransport_error {α : Type} {m : QuicM ρ α} {adapter after : QuicTransportAdapter ρ}
    {error : DaemonStateError} (h : onTransport m adapter = .error error after) :
    ∃ cause, error = .transport cause := by
  unfold onTransport mapError at h
  cases hm : m adapter with
  | ok _ _ => simp [hm] at h
  | error cause _ =>
    simp only [hm, EStateM.Result.error.injEq] at h
    exact ⟨cause, h.1.symm⟩

theorem onTransport_closeSession_error {session : SessionSnapshot}
    {adapter after : QuicTransportAdapter ρ} {error : DaemonStateError}
    (h : onTransport (closeSession session) adapter = .error error after) :
    (∃ cause, error = .transport cause) ∧ ∃ record,
      adapter.runtimeSessions.find session.sessionId = some record ∧
        record.snapshot.pathKind = .relay := by
  refine ⟨onTransport_error h, ?_⟩
  by_contra hnone
  push Not at hnone
  obtain ⟨after', hok⟩ := closeSession_ok_of_direct hnone
  rw [onTransport, mapError_of_ok _ hok] at h
  cases h

theorem failAndCloseSession_error {session : SessionSnapshot} {closureReason : SessionClosureReason}
    {stateReason : String} {adapter after : QuicTransportAdapter ρ} {error : DaemonStateError}
    (h : failAndCloseSession session closureReason stateReason adapter = .error error after) :
    (∃ cause, error = .transport cause) ∧ ∃ record,
      adapter.runtimeSessions.find session.sessionId = some record ∧
        record.snapshot.pathKind = .relay := by
  obtain ⟨marked, hrun, -, hkind⟩ :=
    failAndCloseSession_run session closureReason stateReason adapter
  obtain ⟨hcause, record, hfind, hrelay⟩ := onTransport_closeSession_error (hrun.symm.trans h)
  refine ⟨hcause, ?_⟩
  cases hbefore : adapter.runtimeSessions.find session.sessionId with
  | none => simp [hfind, hbefore] at hkind
  | some before =>
    refine ⟨before, rfl, ?_⟩
    simpa [hfind, hbefore, hrelay] using hkind.symm

theorem failAndCloseSession_ok_of_direct {session : SessionSnapshot}
    {adapter : QuicTransportAdapter ρ} {record : RuntimeSessionRecord}
    (hfind : adapter.runtimeSessions.find session.sessionId = some record)
    (hdirect : record.snapshot.pathKind ≠ .relay) (closureReason : SessionClosureReason)
    (stateReason : String) :
    ∃ after, failAndCloseSession session closureReason stateReason adapter = .ok () after := by
  cases hrun : failAndCloseSession session closureReason stateReason adapter with
  | ok _ after => exact ⟨after, rfl⟩
  | error error after =>
    obtain ⟨-, other, hother, hrelay⟩ := failAndCloseSession_error hrun
    rw [hfind] at hother
    cases hother
    exact absurd hrelay hdirect

theorem not_gone_of_keptKey {session : SessionSnapshot} {adapter : QuicTransportAdapter ρ}
    (hkept : KeptKey session adapter) : ¬ Gone session adapter := by
  obtain ⟨record, hfind, -⟩ := hkept
  intro hgone
  rw [hgone] at hfind
  cases hfind

theorem failAndCloseSession_refused {session : SessionSnapshot}
    {closureReason : SessionClosureReason} {stateReason : String}
    {adapter : QuicTransportAdapter ρ} (hrefuses : adapter.relayControl.Refuses)
    {record : RuntimeSessionRecord}
    (hfind : adapter.runtimeSessions.find session.sessionId = some record)
    (hrelay : record.snapshot.pathKind = .relay) :
    ∃ error after,
      failAndCloseSession session closureReason stateReason adapter = .error error after := by
  obtain ⟨marked, hrun, htouches, hkind⟩ :=
    failAndCloseSession_run session closureReason stateReason adapter
  cases hmarked : marked.runtimeSessions.find session.sessionId with
  | none => simp [hfind, hmarked] at hkind
  | some markedRecord =>
    have hstill : markedRecord.snapshot.pathKind = .relay := by
      simpa [hfind, hmarked, hrelay] using hkind
    obtain ⟨error, after, hclose⟩ :=
      closeSession_refused (htouches.relayControl ▸ hrefuses) hmarked hstill
    exact ⟨.transport error, after, hrun.trans (mapError_of_error _ hclose)⟩

/-! ## Closing for policy -/

theorem enforceSession_run (enforced : AuthorityPolicyEnforcement) (session : SessionSnapshot)
    (protocol : ProtocolId) (report : AuthorityReevaluationReport)
    (adapter : QuicTransportAdapter ρ) :
    ∃ marked present, enforceSession enforced session protocol report adapter =
        (onTransport (closeSession session) >>= fun _ =>
          pure ((report.countSuppression present).countCause enforced.cause).countClosed) marked ∧
      Frame session.sessionId ⟨session.peer, some protocol, session.trafficClass⟩ adapter marked ∧
      (∀ key, marked.Suppressed key ↔
        key = ⟨session.peer, some protocol, session.trafficClass⟩ ∨ adapter.Suppressed key) ∧
      (marked.runtimeSessions.find session.sessionId).map (fun record => record.snapshot.pathKind) =
        (adapter.runtimeSessions.find session.sessionId).map fun record => record.snapshot.pathKind := by
  let key : SessionKey := ⟨session.peer, some protocol, session.trafficClass⟩
  let suppressed := adapter.suppressReconnect key enforced.reason
  have hframe := suppressReconnect_frame session.sessionId key enforced.reason adapter
  have htouches := updateSessionState_touches session.sessionId .closing (some .policyRejected)
    (some enforced.reason) suppressed
  have hmoved := find_updateSessionState session.sessionId .closing (some .policyRejected)
    (some enforced.reason) suppressed
  have hquiet := emitRuntimeEvent_quiet "authority.policy_enforced"
    (sessionSubject session.sessionId)
    (.object [("peer_id", .string session.peer.toText), ("protocol", .string protocol.text),
      ("class", .string session.trafficClass.debug),
      ("action", .string "close_and_suppress_reconnect"), ("cause", .string enforced.cause.label),
      ("reason", .string enforced.reason), ("local_policy_denied", .bool report.localPolicyDenied),
      ("authority_subject_mismatch", .bool report.authoritySubjectMismatch)])
    (suppressed.updateSessionState session.sessionId .closing (some .policyRejected)
      (some enforced.reason)).2
  refine ⟨_, suppressionPresent adapter key, (bind_of_ok (get_run _)).trans <|
    (bind_of_ok (modify_run _ _)).trans <| (bind_of_ok (moveSession_run _ _ _ _ _)).trans <|
    bind_of_ok (modify_run _ _), ?_, ?_, ?_⟩
  · exact IsTrans.trans _ _ _ hframe (IsTrans.trans _ _ _ (htouches.frame key)
      ((hquiet.touchesSession _).frame key))
  · intro other
    rw [hquiet.suppressed_iff, htouches.suppressed_iff, suppressed_suppressReconnect]
  · have hfind : suppressed.runtimeSessions = adapter.runtimeSessions :=
      suppressReconnect_sessions key enforced.reason adapter
    rw [hquiet.sessions, hmoved, Option.map_map, hfind]
    rfl

theorem emit_frame (id : SessionId) (key : SessionKey) (eventType : String)
    (subject : RuntimeEventSubject) (details : Json) : Moves (Frame id key)
      (modify (emitRuntimeEvent eventType subject details) : FabricM ρ Unit) :=
  Moves.modify fun adapter =>
    ((emitRuntimeEvent_quiet eventType subject details adapter).touchesSession id).frame key

theorem move_frame (id : SessionId) (key : SessionKey) (sessionState : RuntimeSessionState)
    (closureReason : Option SessionClosureReason) (stateReason : Option String) :
    Moves (Frame id key)
      (onTransport (moveSession id sessionState closureReason stateReason) : FabricM ρ Unit) :=
  ((moveSession_touches id sessionState closureReason stateReason).mapError _).mono
    fun _ _ h => h.frame key

theorem enforceSession_frame (enforced : AuthorityPolicyEnforcement) (session : SessionSnapshot)
    (protocol : ProtocolId) (report : AuthorityReevaluationReport) :
    Moves (Frame session.sessionId ⟨session.peer, some protocol, session.trafficClass⟩)
      (enforceSession enforced session protocol report : FabricM ρ _) := by
  apply Moves.get_bind
  intro adapter
  refine Moves.bind (Moves.modify (suppressReconnect_frame _ _ _)) (fun _ => ?_) adapter
  apply Moves.bind (move_frame _ _ _ _ _)
  intro _
  apply Moves.bind (emit_frame _ _ _ _ _)
  intro _
  refine Moves.bind ?_ fun _ => Moves.pure _
  exact ((closeSession_touches session).mapError _).mono fun _ _ h => h.frame _

/-! ## Keeping a session -/

theorem moved_keptKey {session : SessionSnapshot} {adapter : QuicTransportAdapter ρ}
    (hregistered : Registered session adapter) (sessionState : RuntimeSessionState)
    (closureReason : Option SessionClosureReason) (stateReason : Option String) :
    KeptKey session
      (adapter.updateSessionState session.sessionId sessionState closureReason stateReason).2 := by
  obtain ⟨alpn, hfind⟩ := hregistered
  have hmoved := find_updateSessionState session.sessionId sessionState closureReason stateReason
    adapter
  rw [hfind, Option.map_some] at hmoved
  exact ⟨_, hmoved, rfl⟩

theorem restorePosture_run {session : SessionSnapshot} {adapter : QuicTransportAdapter ρ}
    (hregistered : Registered session adapter) :
    ∃ after, restorePosture session adapter = .ok () after ∧
      TouchesSession session.sessionId adapter after ∧ KeptKey session after := by
  unfold restorePosture
  split_ifs
  · exact ⟨_, moveSession_run _ _ _ _ _, updateSessionState_touches _ _ _ _ _,
      moved_keptKey hregistered _ _ _⟩
  · obtain ⟨alpn, hfind⟩ := hregistered
    exact ⟨adapter, rfl, refl adapter, _, hfind, rfl⟩

theorem degradeSession_run {session : SessionSnapshot} {adapter : QuicTransportAdapter ρ}
    (hregistered : Registered session adapter) (protocol : ProtocolId) (reason : String) :
    ∃ after, degradeSession session protocol reason adapter = .ok () after ∧
      TouchesSession session.sessionId adapter after ∧ KeptKey session after := by
  obtain ⟨record, hfind, hkey⟩ := moved_keptKey hregistered .degraded none (some reason)
  have htouches := updateSessionState_touches session.sessionId .degraded none (some reason) adapter
  have hquiet := emitRuntimeEvent_quiet "path.degraded" (sessionSubject session.sessionId)
    (sessionPathDetails session protocol reason)
    (adapter.updateSessionState session.sessionId .degraded none (some reason)).2
  refine ⟨_, (bind_of_ok (moveSession_run _ _ _ _ _)).trans (modify_run _ _),
    IsTrans.trans _ _ _ htouches (hquiet.touchesSession _), record, ?_, hkey⟩
  rw [hquiet.sessions, hfind]

/-! ## The verdicts -/

section Sessions
variable [Primitives]

namespace DaemonState

theorem authorityEnforcement_isSome_iff (state : DaemonState) (runtimePeerId peer : PeerId)
    (protocol : ProtocolId) :
    (state.authorityEnforcement runtimePeerId peer protocol).isSome = true ↔
      (state.localPolicyReason runtimePeerId).isSome = true ∨
        (state.explainPolicy peer protocol).allowed = false := by
  unfold authorityEnforcement
  cases state.localPolicyReason runtimePeerId with
  | some reason => simp
  | none => cases hallowed : (state.explainPolicy peer protocol).allowed <;> simp [hallowed]

def deniesKey (state : DaemonState) (runtimePeerId : PeerId) (key : SessionKey) : Bool :=
  key.protocol.any fun protocol =>
    (state.authorityEnforcement runtimePeerId key.peer protocol).isSome

/-- Following the plan depends on a relay that may refuse, or the plan has failed. -/
def routeMayStop (session : SessionSnapshot) : Except DaemonStateError RoutePlan → Bool
  | .ok route =>
    !sessionMatchesRoute session route && session.migrationCapable && session.pathKind = .relay
  | .error (.noRoute _) => false
  | .error _ => true

def mayStop (state : DaemonState) (runtimePeerId : PeerId) (session : SessionSnapshot) : Bool :=
  match session.protocol with
  | none => false
  | some protocol =>
    if (state.authorityEnforcement runtimePeerId session.peer protocol).isSome then
      session.pathKind = .relay
    else routeMayStop session (state.routePlan session.peer (some protocol) session.trafficClass)

end DaemonState

/-! ## Migrating -/

theorem migrateSession_run {session : SessionSnapshot} {adapter : QuicTransportAdapter ρ}
    (hregistered : Registered session adapter) (protocol : ProtocolId) (route : RoutePlan)
    (report : AuthorityReevaluationReport) :
    ∃ marked existing before alpn, migrateSession session protocol route report adapter =
        (attempt (migrate session route) >>= finishMigration session protocol report) marked ∧
      TouchesSession session.sessionId adapter marked ∧
      migrate session route marked = migrateExisting existing route before ∧
      existing.sessionId = session.sessionId ∧ existing.pathKind = session.pathKind ∧
      before.runtimeSessions.find session.sessionId = some ⟨existing, alpn⟩ ∧
      before.relayControl = adapter.relayControl := by
  obtain ⟨alpn, hfind⟩ := hregistered
  let started := adapter.emitRuntimeEvent "path.migration_started"
    (sessionSubject session.sessionId) (sessionPathDetails session protocol migrationReason)
  let marked := (started.updateSessionState session.sessionId .migrating none
    (some migrationReason)).2
  have hquiet := emitRuntimeEvent_quiet "path.migration_started" (sessionSubject session.sessionId)
    (sessionPathDetails session protocol migrationReason) adapter
  have hmarked : TouchesSession session.sessionId adapter marked :=
    IsTrans.trans _ _ _ (hquiet.touchesSession _)
      (updateSessionState_touches session.sessionId .migrating none (some migrationReason) started)
  have hmoved := find_updateSessionState session.sessionId .migrating none (some migrationReason)
    started
  rw [hquiet.sessions, hfind, Option.map_some] at hmoved
  obtain ⟨existing, before, hmigrate, hid, hkind, hbefore, hcontrol⟩ := migrate_run route hmoved
  exact ⟨marked, existing, before, alpn,
    (bind_of_ok (modify_run _ _)).trans (bind_of_ok (moveSession_run _ _ _ _ _)), hmarked, hmigrate,
    hid, hkind, hbefore, hcontrol.trans hmarked.relayControl⟩

/-- A migration ends with the session registered under the route's key, or with the
session closed and its key suppressed, or with a relay that does not let it go. -/
theorem migrateSession_cases {session : SessionSnapshot} {adapter : QuicTransportAdapter ρ}
    (hregistered : Registered session adapter) (protocol : ProtocolId) (route : RoutePlan)
    (report : AuthorityReevaluationReport) :
    (∃ after record, migrateSession session protocol route report adapter =
        .ok { report with migratedSessions := report.migratedSessions + 1 } after ∧
      TouchesSession session.sessionId adapter after ∧
      after.runtimeSessions.find session.sessionId = some record ∧
      record.snapshot.key = route.key) ∨
    (∃ after, migrateSession session protocol route report adapter = .ok report.countClosed after ∧
      Gone session after ∧ ∀ key, after.Suppressed key ↔
        key = ⟨session.peer, some protocol, session.trafficClass⟩ ∨ adapter.Suppressed key) ∨
    ∃ error after, migrateSession session protocol route report adapter = .error error after ∧
      Gone session after ∧ session.pathKind = .relay := by
  obtain ⟨marked, existing, before, alpn, hrun, hmarked, hmigrate, hid, hkind, hbefore, -⟩ :=
    migrateSession_run hregistered protocol route report
  rw [← hid] at hbefore
  cases hanswer : migrate session route marked with
  | ok migrated after =>
    left
    have htouches := (migrate_touches session route).of_ok hanswer
    obtain ⟨hkey, alpn', hstored⟩ := migrateExisting_ok (hmigrate.symm.trans hanswer)
    rw [hid] at hstored
    refine ⟨after, _, ?_, IsTrans.trans _ _ _ hmarked htouches, hstored, hkey⟩
    exact hrun.trans (bind_of_ok (attempt_of_ok hanswer))
  | error error failed =>
    right
    have hfailed : TouchesSession session.sessionId adapter failed :=
      IsTrans.trans _ _ _ hmarked ((migrate_touches session route).of_error hanswer)
    have hrest := hrun.trans (bind_of_ok (attempt_of_error hanswer))
    cases hclose : failAndCloseSession session .localRuntimeFailure
        ("authority reevaluation migration failed: " ++ error.text) failed with
    | ok _ closed =>
      left
      have htouches := (failAndCloseSession_touches _ _ _).of_ok hclose
      have hgone := failAndCloseSession_gone session .localRuntimeFailure
        ("authority reevaluation migration failed: " ++ error.text) failed
      rw [final_of_ok hclose] at hgone
      refine ⟨_, hrest.trans (bind_of_ok hclose), ?_, ?_⟩
      · rw [Gone, suppressReconnect_sessions]
        exact hgone
      · intro key
        rw [suppressed_suppressReconnect, htouches.suppressed_iff, hfailed.suppressed_iff]
    | error cause closed =>
      right
      have hgone := failAndCloseSession_gone session .localRuntimeFailure
        ("authority reevaluation migration failed: " ++ error.text) failed
      rw [final_of_error hclose] at hgone
      refine ⟨cause, closed, hrest.trans (bind_of_error hclose), hgone, ?_⟩
      -- had the session been on a direct path, its record would still be the one it had
      by_contra hdirect
      have hexisting : existing.pathKind ≠ .relay := by
        rw [hkind]
        exact hdirect
      have hstill := migrateExisting_error_of_direct hbefore hexisting hexisting
        (hmigrate.symm.trans hanswer)
      obtain ⟨-, record, hrecord, hrelay⟩ := failAndCloseSession_error hclose
      rw [← hid, hstill] at hrecord
      cases hrecord
      exact hexisting hrelay

theorem migrateSession_refused {session : SessionSnapshot} {adapter : QuicTransportAdapter ρ}
    (hregistered : Registered session adapter) (hrefuses : adapter.relayControl.Refuses)
    (hrelay : session.pathKind = .relay) {route : RoutePlan}
    (hroute : route.relay.isSome ↔ route.pathKind = .relay) (protocol : ProtocolId)
    (report : AuthorityReevaluationReport) :
    ∃ error after, migrateSession session protocol route report adapter = .error error after := by
  obtain ⟨marked, existing, before, alpn, hrun, -, hmigrate, hid, hkind, hbefore, hcontrol⟩ :=
    migrateSession_run hregistered protocol route report
  rw [← hcontrol] at hrefuses
  obtain ⟨error, failed, hanswer, hquiet⟩ :=
    migrateExisting_refused hrefuses (hkind.trans hrelay) hroute
  have hrest := hrun.trans (bind_of_ok (attempt_of_error (hmigrate.trans hanswer)))
  have hfound : failed.runtimeSessions.find session.sessionId = some ⟨existing, alpn⟩ := by
    rw [hquiet.sessions, hbefore]
  obtain ⟨cause, after, hclose⟩ :=
    failAndCloseSession_refused (hquiet.relayControl ▸ hrefuses) hfound (hkind.trans hrelay)
  exact ⟨cause, after, hrest.trans (bind_of_error hclose)⟩

/-! ## The whole turn -/

/-- What a turn of the reevaluation loop can do to its session. -/
inductive Turn (state : DaemonState) (runtimePeerId : PeerId) (session : SessionSnapshot)
    (before : QuicTransportAdapter ρ) (report : AuthorityReevaluationReport) :
    EStateM.Result DaemonStateError (QuicTransportAdapter ρ) AuthorityReevaluationReport → Prop
  | skipped (hprotocol : session.protocol = none) :
      Turn state runtimePeerId session before report (.ok report before)
  | enforced {report' : AuthorityReevaluationReport} {after : QuicTransportAdapter ρ}
      (hdenied : state.deniesKey runtimePeerId session.key = true) (hgone : Gone session after)
      (hsuppressed : ∀ key, after.Suppressed key ↔ key = session.key ∨ before.Suppressed key)
      (hclosed : report'.closedSessions = report.closedSessions + 1)
      (hpolicy : report'.policyClosures = report.policyClosures + 1) :
      Turn state runtimePeerId session before report (.ok report' after)
  | kept {report' : AuthorityReevaluationReport} {after : QuicTransportAdapter ρ}
      (hallowed : state.deniesKey runtimePeerId session.key = false)
      (hprotocol : session.protocol.isSome = true) (hkept : KeptKey session after)
      (hsuppressed : ∀ key, after.Suppressed key ↔ key ≠ session.key ∧ before.Suppressed key)
      (hclosed : report'.closedSessions = report.closedSessions)
      (hpolicy : report'.policyClosures = report.policyClosures) :
      Turn state runtimePeerId session before report (.ok report' after)
  | migrationFailed {report' : AuthorityReevaluationReport} {after : QuicTransportAdapter ρ}
      (hallowed : state.deniesKey runtimePeerId session.key = false) (hgone : Gone session after)
      (hsuppressed : ∀ key, after.Suppressed key ↔ key = session.key ∨ before.Suppressed key)
      (hclosed : report'.closedSessions = report.closedSessions + 1)
      (hpolicy : report'.policyClosures = report.policyClosures) :
      Turn state runtimePeerId session before report (.ok report' after)
  | refused {error : DaemonStateError} {after : QuicTransportAdapter ρ}
      (hdenied : state.deniesKey runtimePeerId session.key = true) (hgone : Gone session after)
      (hstop : state.mayStop runtimePeerId session = true)
      (hcause : ∃ cause, error = .transport cause) :
      Turn state runtimePeerId session before report (.error error after)
  | stopped {error : DaemonStateError} {after : QuicTransportAdapter ρ}
      (hallowed : state.deniesKey runtimePeerId session.key = false)
      (hleft : Gone session after ∧ session.pathKind = .relay ∨ KeptKey session after)
      (hstop : state.mayStop runtimePeerId session = true) :
      Turn state runtimePeerId session before report (.error error after)

variable {state : DaemonState} {runtimePeerId : PeerId} {session : SessionSnapshot}
  {adapter : QuicTransportAdapter ρ} {report : AuthorityReevaluationReport} {protocol : ProtocolId}

theorem deniesKey_eq (hprotocol : session.protocol = some protocol) :
    state.deniesKey runtimePeerId session.key =
      (state.authorityEnforcement runtimePeerId session.peer protocol).isSome := by
  simp [DaemonState.deniesKey, SessionSnapshot.key, hprotocol]

theorem enforceSession_turn (hregistered : Registered session adapter)
    (hprotocol : session.protocol = some protocol) {enforced : AuthorityPolicyEnforcement}
    (henforced : state.authorityEnforcement runtimePeerId session.peer protocol = some enforced) :
    Turn state runtimePeerId session adapter report
      (enforceSession enforced session protocol
        { report with reevaluatedSessions := report.reevaluatedSessions + 1 } adapter) := by
  have hkey : session.key = ⟨session.peer, some protocol, session.trafficClass⟩ := by
    rw [SessionSnapshot.key, hprotocol]
  have hdenied : state.deniesKey runtimePeerId session.key = true := by
    rw [deniesKey_eq hprotocol, henforced, Option.isSome_some]
  obtain ⟨marked, present, hrun, hframe, hsuppressed, hkind⟩ := enforceSession_run enforced session
    protocol { report with reevaluatedSessions := report.reevaluatedSessions + 1 } adapter
  rw [← hkey] at hsuppressed
  have hgone : Gone session (final (onTransport (closeSession session)) marked) := by
    rw [onTransport, final_mapError]
    exact closeSession_find session marked
  cases hclose : onTransport (closeSession session) marked with
  | ok _ after =>
    have htouches := ((closeSession_touches session).mapError DaemonStateError.transport).of_ok hclose
    rw [final_of_ok hclose] at hgone
    rw [hrun, bind_of_ok hclose]
    refine .enforced hdenied hgone ?_ ?_ ?_
    · intro key
      rw [htouches.suppressed_iff, hsuppressed]
    · cases enforced.cause <;> cases present <;> rfl
    · change AuthorityReevaluationReport.policyClosures
        (AuthorityReevaluationReport.countCause _ enforced.cause) = _
      rw [AuthorityReevaluationReport.policyClosures_countCause]
      cases present <;> rfl
  | error error after =>
    rw [final_of_error hclose] at hgone
    obtain ⟨hcause, record, hfind, hrelay⟩ := onTransport_closeSession_error hclose
    obtain ⟨alpn, hsession⟩ := hregistered
    have hpath : session.pathKind = .relay := by
      simpa [hfind, hsession, hrelay] using hkind.symm
    rw [hrun, bind_of_error hclose]
    refine .refused hdenied hgone ?_ hcause
    simp [DaemonState.mayStop, hprotocol, henforced, hpath]

theorem followRoute_cases (hregistered : Registered session adapter) (protocol : ProtocolId)
    (report : AuthorityReevaluationReport)
    {plan : Except DaemonStateError RoutePlan}
    (hplan : ∀ route, plan = .ok route → route.key = session.key) :
    (∃ report' after, followRoute session protocol report plan adapter = .ok report' after ∧
      TouchesSession session.sessionId adapter after ∧ KeptKey session after ∧
      report'.closedSessions = report.closedSessions ∧
      report'.policyClosures = report.policyClosures) ∨
    (∃ after, followRoute session protocol report plan adapter = .ok report.countClosed after ∧
      Gone session after ∧ ∀ key, after.Suppressed key ↔
        key = ⟨session.peer, some protocol, session.trafficClass⟩ ∨ adapter.Suppressed key) ∨
    ∃ error after, followRoute session protocol report plan adapter = .error error after ∧
      (Gone session after ∧ session.pathKind = .relay ∨ KeptKey session after) ∧
      DaemonState.routeMayStop session plan = true := by
  match plan with
  | .ok route =>
    by_cases hmatches : sessionMatchesRoute session route = true
    · left
      obtain ⟨after, hrun, htouches, hkept⟩ := restorePosture_run hregistered
      refine ⟨{ report with unchangedSessions := report.unchangedSessions + 1 }, after, ?_,
        htouches, hkept, rfl, rfl⟩
      rw [followRoute, if_pos hmatches]
      exact bind_of_ok hrun
    · by_cases hcapable : session.migrationCapable = true
      · rw [followRoute, if_neg hmatches, if_pos hcapable]
        rcases migrateSession_cases hregistered protocol route report with
          ⟨after, record, hrun, htouches, hfind, hkey⟩ | hclosed | ⟨error, after, hrun, hgone, hrelay⟩
        · exact .inl ⟨_, after, hrun, htouches, ⟨record, hfind, hkey.trans (hplan route rfl)⟩, rfl, rfl⟩
        · exact .inr (.inl hclosed)
        · refine .inr (.inr ⟨error, after, hrun, .inl ⟨hgone, hrelay⟩, ?_⟩)
          simp [DaemonState.routeMayStop, hmatches, hcapable, hrelay]
      · left
        obtain ⟨after, hrun, htouches, hkept⟩ := degradeSession_run hregistered protocol
          ("authority reevaluation selected a different eligible " ++
            "path but the active session cannot migrate")
        refine ⟨report.countDegraded, after, ?_, htouches, hkept, rfl, rfl⟩
        rw [followRoute, if_neg hmatches, if_neg hcapable]
        exact bind_of_ok hrun
  | .error error =>
    by_cases hnoRoute : ∃ peer, error = .noRoute peer
    · left
      obtain ⟨peer, rfl⟩ := hnoRoute
      obtain ⟨after, hrun, htouches, hkept⟩ := degradeSession_run hregistered protocol
        ("authority reevaluation found no eligible replacement " ++
          "path; keeping the current session alive in degraded posture")
      exact ⟨_, after, bind_of_ok hrun, htouches, hkept, rfl, rfl⟩
    · obtain ⟨alpn, hfind⟩ := hregistered
      have hkept : KeptKey session adapter := ⟨_, hfind, rfl⟩
      refine .inr (.inr ⟨error, adapter, ?_, .inr hkept, ?_⟩)
      · cases error <;> first | rfl | exact absurd ⟨_, rfl⟩ hnoRoute
      · cases error <;> first | rfl | exact absurd ⟨_, rfl⟩ hnoRoute

theorem keepSession_turn (hregistered : Registered session adapter)
    (hprotocol : session.protocol = some protocol)
    (hallowed : state.authorityEnforcement runtimePeerId session.peer protocol = none) :
    Turn state runtimePeerId session adapter report
      (keepSession state session protocol
        { report with reevaluatedSessions := report.reevaluatedSessions + 1 } adapter) := by
  have hkey : session.key = ⟨session.peer, some protocol, session.trafficClass⟩ := by
    rw [SessionSnapshot.key, hprotocol]
  have hdenies : state.deniesKey runtimePeerId session.key = false := by
    rw [deniesKey_eq hprotocol, hallowed, Option.isSome_none]
  let plan := state.routePlan session.peer (some protocol) session.trafficClass
  have hplan : ∀ route, plan = .ok route → route.key = session.key := by
    intro route hroute
    rw [hkey]
    exact DaemonState.routePlan_key hroute
  let cleared := adapter.clearReconnectSuppression
    ⟨session.peer, some protocol, session.trafficClass⟩
  have hcleared : ∀ key, cleared.Suppressed key ↔ key ≠ session.key ∧ adapter.Suppressed key := by
    intro key
    rw [suppressed_clearReconnectSuppression, hkey]
  have hstill : Registered session cleared := hregistered.clearReconnectSuppression _
  have hcounted : ∀ (base : AuthorityReevaluationReport) (present : Bool),
      (base.countCleared present).closedSessions = base.closedSessions ∧
        (base.countCleared present).policyClosures = base.policyClosures := by
    intro base present
    cases present <;> exact ⟨rfl, rfl⟩
  let counted := AuthorityReevaluationReport.countCleared
    { report with reevaluatedSessions := report.reevaluatedSessions + 1 }
    (suppressionPresent adapter ⟨session.peer, some protocol, session.trafficClass⟩)
  have hrun : keepSession state session protocol
      { report with reevaluatedSessions := report.reevaluatedSessions + 1 } adapter =
        followRoute session protocol counted plan cleared :=
    (bind_of_ok (get_run _)).trans (bind_of_ok (modify_run _ _))
  obtain ⟨hclosed, hpolicy⟩ : counted.closedSessions = report.closedSessions ∧
      counted.policyClosures = report.policyClosures := hcounted _ _
  rw [hrun]
  rcases followRoute_cases hstill protocol counted hplan with
    ⟨report', after, hfollow, htouches, hkept, hclosed', hpolicy'⟩ | ⟨after, hfollow, hgone, hsuppressed⟩ |
    ⟨error, after, hfollow, hleft, hstop⟩
  · rw [hfollow]
    refine .kept hdenies (by simp [hprotocol]) hkept ?_ (hclosed'.trans hclosed)
      (hpolicy'.trans hpolicy)
    intro key
    rw [htouches.suppressed_iff, hcleared]
  · rw [hfollow]
    refine .migrationFailed hdenies hgone ?_ (by rw [← hclosed]; rfl) (by rw [← hpolicy]; rfl)
    intro key
    rw [hsuppressed, hcleared, ← hkey]
    tauto
  · rw [hfollow]
    refine .stopped hdenies hleft ?_
    have hnone : (state.authorityEnforcement runtimePeerId session.peer protocol).isSome = false := by
      rw [hallowed, Option.isSome_none]
    simp only [DaemonState.mayStop, hprotocol, hnone, Bool.false_eq_true, if_false]
    exact hstop

theorem reevaluateSession_turn (state : DaemonState) (runtimePeerId : PeerId)
    (report : AuthorityReevaluationReport) (hregistered : Registered session adapter) :
    Turn state runtimePeerId session adapter report
      (reevaluateSession state runtimePeerId report session adapter) := by
  cases hprotocol : session.protocol with
  | none =>
    simp only [reevaluateSession, hprotocol, pure_run]
    exact .skipped hprotocol
  | some protocol =>
    cases henforced : state.authorityEnforcement runtimePeerId session.peer protocol with
    | some enforced =>
      simp only [reevaluateSession, hprotocol, henforced]
      exact enforceSession_turn hregistered hprotocol henforced
    | none =>
      simp only [reevaluateSession, hprotocol, henforced]
      exact keepSession_turn hregistered hprotocol henforced

theorem followRoute_frame {key : SessionKey}
    (hkey : key = ⟨session.peer, some protocol, session.trafficClass⟩)
    (plan : Except DaemonStateError RoutePlan) :
    Moves (Frame session.sessionId key) (followRoute session protocol report plan : FabricM ρ _) := by
  have hdegrade : ∀ reason, Moves (Frame session.sessionId key)
      (degradeSession session protocol reason : FabricM ρ Unit) :=
    fun _ => Moves.bind (move_frame _ _ _ _ _) fun _ => emit_frame _ _ _ _ _
  unfold followRoute
  split
  · split_ifs
    · refine Moves.bind ?_ fun _ => Moves.pure _
      unfold restorePosture
      split_ifs
      · exact move_frame _ _ _ _ _
      · exact Moves.pure _
    · apply Moves.bind (emit_frame _ _ _ _ _)
      intro _
      apply Moves.bind (move_frame _ _ _ _ _)
      intro _
      apply Moves.bind ((migrate_touches session _).attempt.mono fun _ _ h => h.frame key)
      intro answer
      cases answer with
      | ok _ => exact Moves.pure _
      | error error =>
        apply Moves.bind ((failAndCloseSession_touches _ _ _).mono fun _ _ h => h.frame key)
        intro _
        subst hkey
        exact Moves.bind (Moves.modify (suppressReconnect_frame _ _ _)) fun _ => Moves.pure _
    · exact Moves.bind (hdegrade _) fun _ => Moves.pure _
  · exact Moves.bind (hdegrade _) fun _ => Moves.pure _
  · exact Moves.throw _

theorem reevaluateSession_frame (state : DaemonState) (runtimePeerId : PeerId)
    (report : AuthorityReevaluationReport) (session : SessionSnapshot) :
    Moves (Frame session.sessionId session.key)
      (reevaluateSession state runtimePeerId report session : FabricM ρ _) := by
  unfold reevaluateSession
  split
  · exact Moves.pure _
  · rename_i protocol hprotocol
    have hkey : session.key = ⟨session.peer, some protocol, session.trafficClass⟩ := by
      rw [SessionSnapshot.key, hprotocol]
    dsimp only
    split
    · rw [hkey]
      exact enforceSession_frame _ session protocol _
    · apply Moves.get_bind
      intro adapter
      refine Moves.bind ?_ (fun _ => followRoute_frame hkey _) adapter
      rw [hkey]
      exact Moves.modify (clearReconnectSuppression_frame _ _)

theorem reevaluateSession_refused (report : AuthorityReevaluationReport)
    (hregistered : Registered session adapter) (hrefuses : adapter.relayControl.Refuses)
    (hstop : state.mayStop runtimePeerId session = true) :
    ∃ error after,
      reevaluateSession state runtimePeerId report session adapter = .error error after := by
  obtain ⟨protocol, hprotocol⟩ : ∃ protocol, session.protocol = some protocol := by
    cases hprotocol : session.protocol with
    | none => simp [DaemonState.mayStop, hprotocol] at hstop
    | some protocol => exact ⟨protocol, rfl⟩
  cases henforced : state.authorityEnforcement runtimePeerId session.peer protocol with
  | some enforced =>
    have hrelay : session.pathKind = .relay := by
      simpa [DaemonState.mayStop, hprotocol, henforced] using hstop
    obtain ⟨marked, present, hrun, hframe, -, hkind⟩ := enforceSession_run enforced session
      protocol { report with reevaluatedSessions := report.reevaluatedSessions + 1 } adapter
    obtain ⟨alpn, hfind⟩ := hregistered
    cases hmarked : marked.runtimeSessions.find session.sessionId with
    | none => simp [hmarked, hfind] at hkind
    | some record =>
      have hstill : record.snapshot.pathKind = .relay := by
        simpa [hmarked, hfind, hrelay] using hkind
      obtain ⟨error, after, hclose⟩ :=
        closeSession_refused (hframe.relayControl ▸ hrefuses) hmarked hstill
      refine ⟨.transport error, after, ?_⟩
      simp only [reevaluateSession, hprotocol, henforced, hrun]
      exact bind_of_error (mapError_of_error _ hclose)
  | none =>
    have hplan : DaemonState.routeMayStop session
        (state.routePlan session.peer (some protocol) session.trafficClass) = true := by
      simpa [DaemonState.mayStop, hprotocol, henforced] using hstop
    have hclear := clearReconnectSuppression_frame session.sessionId
      ⟨session.peer, some protocol, session.trafficClass⟩ adapter
    simp only [reevaluateSession, hprotocol, henforced, keepSession, bind_run, get_run, modify_run]
    cases hroute : state.routePlan session.peer (some protocol) session.trafficClass with
    | ok route =>
      simp only [hroute, DaemonState.routeMayStop, Bool.and_eq_true, Bool.not_eq_true',
        decide_eq_true_eq] at hplan
      obtain ⟨⟨hdiffers, hcapable⟩, hrelay⟩ := hplan
      have hstill := hregistered.clearReconnectSuppression
        ⟨session.peer, some protocol, session.trafficClass⟩
      simp only [followRoute, hdiffers, hcapable, Bool.false_eq_true, if_false, if_true]
      exact migrateSession_refused hstill (hclear.relayControl ▸ hrefuses) hrelay
        (DaemonState.routePlan_ok hroute).2.2.2.2 protocol _
    | error error =>
      rw [hroute] at hplan
      cases error <;> first | exact ⟨_, _, rfl⟩ | cases hplan

end Sessions

end QuipNet.Fabric
