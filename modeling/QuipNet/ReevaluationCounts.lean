import QuipNet.AuthorityEnforcement
import QuipNet.TransportCalls

/-!
# The counters of the reevaluation report

Each turn of the session loop counts its session once among the reevaluated ones and once
among the four outcomes, and counts a policy closure under one cause. `Tally` says what
the counters have gained over a list of sessions; closed sessions are those that the
registry has lost.
-/

open Std
namespace QuipNet.Quic
open QuipNet.Transport

theorem SessionRegistry.length_snapshots_of_subset {before after : SessionRegistry}
    (h : ∀ id, (after.find id).isSome = true → (before.find id).isSome = true) :
    after.snapshots.length =
      before.snapshots.countP fun session => (after.find session.sessionId).isSome := by
  have hafter : (after.snapshots.map SessionSnapshot.sessionId).Nodup := by
    rw [List.Nodup, List.pairwise_map]
    exact after.snapshots_pairwise
  have hbefore : ((before.snapshots.filter fun session =>
      (after.find session.sessionId).isSome).map SessionSnapshot.sessionId).Nodup := by
    rw [List.Nodup, List.pairwise_map]
    exact before.snapshots_pairwise.filter _
  have hmem : ∀ id, id ∈ after.snapshots.map SessionSnapshot.sessionId ↔
      id ∈ (before.snapshots.filter fun session =>
        (after.find session.sessionId).isSome).map SessionSnapshot.sessionId := by
    intro id
    simp only [List.mem_map, List.mem_filter]
    constructor
    · rintro ⟨session, hsession, rfl⟩
      obtain ⟨record, hfind, -⟩ := mem_snapshots.1 hsession
      obtain ⟨listed, hlisted⟩ := Option.isSome_iff_exists.1
        (h session.sessionId (Option.isSome_iff_exists.2 ⟨record, hfind⟩))
      have hid := sessionId_of_find hlisted
      refine ⟨listed.snapshot, ⟨mem_snapshots.2 ⟨listed, by rw [hid, hlisted], rfl⟩, ?_⟩, hid⟩
      rw [hid, hfind]
      rfl
    · rintro ⟨session, ⟨-, hkept⟩, rfl⟩
      obtain ⟨record, hfind⟩ := Option.isSome_iff_exists.1 hkept
      have hid := sessionId_of_find hfind
      exact ⟨record.snapshot, mem_snapshots.2 ⟨record, by rw [hid, hfind], rfl⟩, hid⟩
  have hperm := (List.perm_ext_iff_of_nodup hafter hbefore).2 hmem
  rw [List.countP_eq_length_filter, ← List.length_map (f := SessionSnapshot.sessionId),
    hperm.length_eq, List.length_map]

end QuipNet.Quic

namespace QuipNet.Fabric
open QuipNet.Library.Effect QuipNet.Quic QuipNet.Transport
open QuicTransportAdapter

variable {ρ : Type}

/-! ## The counters -/

namespace AuthorityReevaluationReport

def outcomes (report : AuthorityReevaluationReport) : ℕ :=
  report.closedSessions + report.degradedSessions + report.migratedSessions +
    report.unchangedSessions

def causeCount (report : AuthorityReevaluationReport) : AuthorityPolicyCause → ℕ
  | .subjectMismatch => report.subjectMismatchSessions
  | .localMembershipDenied => report.localMembershipDeniedSessions
  | .peerMembershipDenied => report.peerMembershipDeniedSessions
  | .capabilityDenied => report.capabilityDeniedSessions

/-- One more session has an outcome; `closed` says whether it was closed. -/
structure Adds (report report' : AuthorityReevaluationReport) (closed : Bool) : Prop where
  reevaluated : report'.reevaluatedSessions = report.reevaluatedSessions
  outcomes : report'.outcomes = report.outcomes + 1
  closed : report'.closedSessions = report.closedSessions + closed.toNat
  causes : ∀ cause, report'.causeCount cause = report.causeCount cause
  listeners : report'.reevaluatedListeners = report.reevaluatedListeners

theorem causeCount_countCause (report : AuthorityReevaluationReport)
    (cause other : AuthorityPolicyCause) : (report.countCause cause).causeCount other =
      report.causeCount other + if cause = other then 1 else 0 := by
  cases cause <;> cases other <;> rfl

end AuthorityReevaluationReport

section Hashing
variable [Primitives] {state : DaemonState} {runtimePeerId : PeerId} {session : SessionSnapshot}

/-! ## One turn -/

theorem followRoute_adds {protocol : ProtocolId} {report report' : AuthorityReevaluationReport}
    {plan : Except DaemonStateError RoutePlan} {adapter after : QuicTransportAdapter ρ}
    (hregistered : Registered session adapter)
    (h : followRoute session protocol report plan adapter = .ok report' after) :
    ∃ closed, report.Adds report' closed ∧
      ((after.runtimeSessions.find session.sessionId).isNone = closed) := by
  have hdegrades : ∀ reason, (degradeSession session protocol reason >>= fun _ =>
      pure report.countDegraded : FabricM ρ _) adapter = .ok report' after →
        ∃ closed, report.Adds report' closed ∧
          ((after.runtimeSessions.find session.sessionId).isNone = closed) := by
    intro reason hdegrade
    obtain ⟨marked, hrun, -, record, hfind, -⟩ := degradeSession_run hregistered protocol reason
    rw [bind_of_ok hrun] at hdegrade
    cases hdegrade
    refine ⟨false, ⟨rfl, ?_, rfl, fun cause => by cases cause <;> rfl, rfl⟩, ?_⟩
    · simp only [AuthorityReevaluationReport.outcomes, AuthorityReevaluationReport.countDegraded]
      omega
    · rw [hfind]
      rfl
  cases plan with
  | error error =>
    cases error with
    | noRoute peer => exact hdegrades _ h
    | _ => cases h
  | ok route =>
    simp only [followRoute] at h
    split_ifs at h with hmatches hcapable
    · obtain ⟨marked, hrun, -, record, hfind, -⟩ := restorePosture_run hregistered
      rw [bind_of_ok hrun] at h
      cases h
      refine ⟨false, ⟨rfl, rfl, rfl, fun cause => by cases cause <;> rfl, rfl⟩, ?_⟩
      rw [hfind]
      rfl
    · rcases migrateSession_cases hregistered protocol route report with
        ⟨marked, record, hrun, -, hfind, -⟩ | ⟨marked, hrun, hgone, -⟩ | ⟨_, _, hrun, -⟩
      · cases hrun.symm.trans h
        refine ⟨false, ⟨rfl, ?_, rfl, fun cause => by cases cause <;> rfl, rfl⟩, ?_⟩
        · simp only [AuthorityReevaluationReport.outcomes]
          omega
        · rw [hfind]
          rfl
      · cases hrun.symm.trans h
        refine ⟨true, ⟨rfl, ?_, rfl, fun cause => by cases cause <;> rfl, rfl⟩, ?_⟩
        · simp only [AuthorityReevaluationReport.outcomes, AuthorityReevaluationReport.countClosed]
          omega
        · rw [hgone]
          rfl
      · cases hrun.symm.trans h
    · exact hdegrades _ h

/-- The cause under which the session is closed for policy, if it is. -/
def DaemonState.enforcedCause (state : DaemonState) (runtimePeerId : PeerId)
    (session : SessionSnapshot) : Option AuthorityPolicyCause :=
  session.protocol.bind fun protocol =>
    (state.authorityEnforcement runtimePeerId session.peer protocol).map
      AuthorityPolicyEnforcement.cause

theorem deniesKey_eq_enforcedCause (state : DaemonState) (runtimePeerId : PeerId)
    (session : SessionSnapshot) :
    state.deniesKey runtimePeerId session.key = (state.enforcedCause runtimePeerId session).isSome := by
  unfold DaemonState.deniesKey DaemonState.enforcedCause SessionSnapshot.key
  cases session.protocol with
  | none => rfl
  | some protocol =>
    simp only [Option.any_some, Option.bind_some, Option.isSome_map]

structure Tally (state : DaemonState) (runtimePeerId : PeerId) (sessions : List SessionSnapshot)
    (after : QuicTransportAdapter ρ) (report report' : AuthorityReevaluationReport) : Prop where
  reevaluated : report'.reevaluatedSessions =
    report.reevaluatedSessions + sessions.countP fun session => session.protocol.isSome
  outcomes : report'.outcomes =
    report.outcomes + sessions.countP fun session => session.protocol.isSome
  closed : report'.closedSessions = report.closedSessions +
    sessions.countP fun session => (after.runtimeSessions.find session.sessionId).isNone
  causes : ∀ cause, report'.causeCount cause = report.causeCount cause +
    sessions.countP fun session => state.enforcedCause runtimePeerId session = some cause
  listeners : report'.reevaluatedListeners = report.reevaluatedListeners

theorem keepSession_tally {protocol : ProtocolId} (hprotocol : session.protocol = some protocol)
    (hallowed : state.authorityEnforcement runtimePeerId session.peer protocol = none)
    {report report' : AuthorityReevaluationReport} {adapter after : QuicTransportAdapter ρ}
    (hregistered : Registered session adapter)
    (h : keepSession state session protocol
      { report with reevaluatedSessions := report.reevaluatedSessions + 1 } adapter =
        .ok report' after) :
    Tally state runtimePeerId [session] after report report' := by
  obtain ⟨_, _, hget, h⟩ := bind_eq_ok h
  cases hget
  rw [bind_of_ok (modify_run _ _)] at h
  have hcleared := hregistered.clearReconnectSuppression
    ⟨session.peer, some protocol, session.trafficClass⟩
  obtain ⟨closed, hadds, hgone⟩ := followRoute_adds hcleared h
  have hcause : state.enforcedCause runtimePeerId session = none := by
    simp [DaemonState.enforcedCause, hprotocol, hallowed]
  generalize suppressionPresent adapter _ = present at hadds
  refine ⟨?_, ?_, ?_, ?_, ?_⟩
  · rw [hadds.reevaluated]
    simp only [List.countP_singleton, hprotocol]
    cases present <;> rfl
  · rw [hadds.outcomes]
    simp only [List.countP_singleton, hprotocol]
    cases present <;> rfl
  · rw [hadds.closed]
    simp only [List.countP_singleton, hgone]
    cases present <;> cases closed <;> rfl
  · intro cause
    rw [hadds.causes]
    simp only [List.countP_singleton, hcause]
    cases present <;> cases cause <;> rfl
  · rw [hadds.listeners]
    cases present <;> rfl

theorem enforceSession_tally {protocol : ProtocolId} (hprotocol : session.protocol = some protocol)
    {enforced : AuthorityPolicyEnforcement}
    (henforced : state.authorityEnforcement runtimePeerId session.peer protocol = some enforced)
    {report report' : AuthorityReevaluationReport} {adapter after : QuicTransportAdapter ρ}
    (h : enforceSession enforced session protocol
      { report with reevaluatedSessions := report.reevaluatedSessions + 1 } adapter =
        .ok report' after) :
    Tally state runtimePeerId [session] after report report' := by
  obtain ⟨marked, present, hrun, -⟩ := enforceSession_run enforced session protocol
    { report with reevaluatedSessions := report.reevaluatedSessions + 1 } adapter
  rw [hrun] at h
  obtain ⟨_, closed, hclose, hreport⟩ := bind_eq_ok h
  cases hreport
  have hgone := closeSession_find session marked
  rw [← final_mapError DaemonStateError.transport, ← onTransport, final_of_ok hclose] at hgone
  have hcause : state.enforcedCause runtimePeerId session = some enforced.cause := by
    simp [DaemonState.enforcedCause, hprotocol, henforced]
  refine ⟨?_, ?_, ?_, ?_, ?_⟩
  · simp only [List.countP_singleton, hprotocol]
    cases present <;> cases enforced.cause <;> rfl
  · simp only [List.countP_singleton, hprotocol]
    cases present <;> cases enforced.cause <;>
      simp [AuthorityReevaluationReport.outcomes, AuthorityReevaluationReport.countClosed,
        AuthorityReevaluationReport.countCause, AuthorityReevaluationReport.countSuppression] <;>
      omega
  · simp only [List.countP_singleton, hgone]
    cases present <;> cases enforced.cause <;> rfl
  · intro cause
    have hkept : ∀ kept : AuthorityReevaluationReport,
        (kept.countSuppression present).causeCount cause = kept.causeCount cause := by
      intro kept
      cases present <;> cases cause <;> rfl
    have hclosed : ∀ kept : AuthorityReevaluationReport,
        kept.countClosed.causeCount cause = kept.causeCount cause := by
      intro kept
      cases cause <;> rfl
    rw [hclosed, AuthorityReevaluationReport.causeCount_countCause, hkept]
    simp only [List.countP_singleton, hcause, Option.some.injEq, decide_eq_true_eq]
    cases cause <;> rfl
  · cases present <;> cases enforced.cause <;> rfl

theorem reevaluateSession_tally {report report' : AuthorityReevaluationReport}
    {adapter after : QuicTransportAdapter ρ} (hregistered : Registered session adapter)
    (h : reevaluateSession state runtimePeerId report session adapter = .ok report' after) :
    Tally state runtimePeerId [session] after report report' := by
  unfold reevaluateSession at h
  cases hprotocol : session.protocol with
  | none =>
    rw [hprotocol] at h
    cases h
    obtain ⟨alpn, hfind⟩ := hregistered
    have hcause : state.enforcedCause runtimePeerId session = none := by
      simp [DaemonState.enforcedCause, hprotocol]
    refine ⟨?_, ?_, ?_, ?_, rfl⟩
    · simp [hprotocol]
    · simp [hprotocol]
    · simp [hfind]
    · simp [hcause]
  | some protocol =>
    simp only [hprotocol] at h
    cases henforced : state.authorityEnforcement runtimePeerId session.peer protocol with
    | some enforced =>
      rw [henforced] at h
      exact enforceSession_tally hprotocol henforced h
    | none =>
      rw [henforced] at h
      exact keepSession_tally hprotocol henforced hregistered h

/-! ## The loops -/

theorem sweep_tally {sessions : List SessionSnapshot} {report report' : AuthorityReevaluationReport}
    {adapter after : QuicTransportAdapter ρ} (hlisted : Listed sessions adapter)
    (h : sessions.foldlM (reevaluateSession state runtimePeerId) report adapter =
      .ok report' after) : Tally state runtimePeerId sessions after report report' := by
  induction sessions generalizing report adapter with
  | nil =>
    cases h
    exact ⟨rfl, rfl, rfl, fun _ => rfl, rfl⟩
  | cons first rest ih =>
    obtain ⟨report₁, between, hfirst, hrest⟩ := bind_eq_ok h
    have hframe := (reevaluateSession_frame state runtimePeerId report first).of_ok hfirst
    have hturn := reevaluateSession_tally (hlisted.registered first List.mem_cons_self) hfirst
    have hlater := ih (hlisted.tail hframe) hrest
    have hfind := sweep_find state runtimePeerId report₁ between
      (fun other hother => ((List.pairwise_cons.1 hlisted.distinct).1 other hother).symm)
    rw [final_of_ok hrest] at hfind
    have hsplit : ∀ p : SessionSnapshot → Bool,
        (first :: rest).countP p = [first].countP p + rest.countP p := by
      intro p
      rw [← List.countP_append]
      rfl
    refine ⟨?_, ?_, ?_, ?_, hlater.listeners.trans hturn.listeners⟩
    · rw [hlater.reevaluated, hturn.reevaluated, hsplit]
      omega
    · rw [hlater.outcomes, hturn.outcomes, hsplit]
      omega
    · have hclosed : report₁.closedSessions = report.closedSessions + [first].countP
          fun session => (after.runtimeSessions.find session.sessionId).isNone := by
        rw [hturn.closed, List.countP_singleton, List.countP_singleton, hfind]
      rw [hlater.closed, hclosed, hsplit]
      omega
    · intro cause
      rw [hlater.causes, hturn.causes, hsplit]
      omega

theorem sweep_settled {sessions : List SessionSnapshot}
    {report report' : AuthorityReevaluationReport} {adapter after : QuicTransportAdapter ρ}
    (hlisted : Listed sessions adapter)
    (h : sessions.foldlM (reevaluateSession state runtimePeerId) report adapter =
      .ok report' after) : ∀ session ∈ sessions, Settled state runtimePeerId session after := by
  rcases sweep_cases state runtimePeerId report hlisted with
    ⟨report₁, after₁, hok, hall⟩ | ⟨_, _, _, _, _, -, hfails, -⟩
  · cases hok.symm.trans h
    exact hall
  · cases hfails.symm.trans h

structure ListenersAdded (count : ℕ) (report report' : AuthorityReevaluationReport) : Prop where
  reevaluated : report'.reevaluatedSessions = report.reevaluatedSessions
  outcomes : report'.outcomes = report.outcomes
  closed : report'.closedSessions = report.closedSessions
  causes : ∀ cause, report'.causeCount cause = report.causeCount cause
  listeners : report'.reevaluatedListeners = report.reevaluatedListeners + count

theorem reevaluateListener_added {report report' : AuthorityReevaluationReport}
    {listener : RuntimeListenerSnapshot} {adapter after : QuicTransportAdapter ρ}
    (h : reevaluateListener state runtimePeerId report listener adapter = .ok report' after) :
    ListenersAdded 1 report report' := by
  by_cases hfailed : listener.state = .failed
  · simp only [reevaluateListener, hfailed, if_true] at h
    cases h
    exact ⟨rfl, rfl, rfl, fun cause => by cases cause <;> rfl, rfl⟩
  · cases hreason : listenerEnforcement state runtimePeerId listener with
    | some reason =>
      simp only [reevaluateListener, hfailed, if_false, hreason, suppressListener, bind_run,
        modify_run] at h
      split_ifs at h with hstill
      · cases h
        exact ⟨rfl, rfl, rfl, fun cause => by cases cause <;> rfl, rfl⟩
      · cases h
        exact ⟨rfl, rfl, rfl, fun cause => by cases cause <;> rfl, rfl⟩
    | none =>
      simp only [reevaluateListener, hfailed, if_false, hreason] at h
      split_ifs at h with hsuppressed
      · cases h
        exact ⟨rfl, rfl, rfl, fun cause => by cases cause <;> rfl, rfl⟩
      · cases h
        exact ⟨rfl, rfl, rfl, fun cause => by cases cause <;> rfl, rfl⟩

theorem listeners_added {listeners : List RuntimeListenerSnapshot}
    {report report' : AuthorityReevaluationReport} {adapter after : QuicTransportAdapter ρ}
    (h : listeners.foldlM (reevaluateListener state runtimePeerId) report adapter =
      .ok report' after) : ListenersAdded listeners.length report report' := by
  induction listeners generalizing report adapter with
  | nil =>
    cases h
    exact ⟨rfl, rfl, rfl, fun _ => rfl, rfl⟩
  | cons listener rest ih =>
    obtain ⟨report₁, between, hfirst, hrest⟩ := bind_eq_ok h
    have hturn := reevaluateListener_added hfirst
    have hlater := ih hrest
    refine ⟨hlater.reevaluated.trans hturn.reevaluated, hlater.outcomes.trans hturn.outcomes,
      hlater.closed.trans hturn.closed, fun cause => (hlater.causes cause).trans (hturn.causes cause),
      ?_⟩
    rw [hlater.listeners, hturn.listeners, List.length_cons]
    omega

/-! ## What the session loop leaves alone -/

section Bookkeeping
variable {R : QuicTransportAdapter ρ → QuicTransportAdapter ρ → Prop} [SessionBookkeeping R]

omit [Primitives]

theorem move_bookkeeping (id : SessionId) (sessionState : RuntimeSessionState)
    (closureReason : Option SessionClosureReason) (stateReason : Option String) : Moves R
      (onTransport (moveSession id sessionState closureReason stateReason) : FabricM ρ Unit) :=
  (moveSession_bookkeeping id sessionState closureReason stateReason).mapError _

theorem enforceSession_bookkeeping (enforced : AuthorityPolicyEnforcement)
    (session : SessionSnapshot) (protocol : ProtocolId) (report : AuthorityReevaluationReport) :
    Moves R (enforceSession enforced session protocol report : FabricM ρ _) := by
  apply Moves.get_bind
  intro adapter
  refine Moves.bind (Moves.modify (suppressReconnect_bookkeeping _ _)) (fun _ => ?_) adapter
  refine Moves.bind (move_bookkeeping _ _ _ _) ?_
  intro _
  refine Moves.bind (Moves.modify (emitRuntimeEvent_background _ _ _)) ?_
  intro _
  refine Moves.bind ?_ fun _ => Moves.pure _
  exact (closeSession_bookkeeping session).mapError _

theorem degradeSession_bookkeeping (session : SessionSnapshot) (protocol : ProtocolId)
    (reason : String) : Moves R (degradeSession session protocol reason : FabricM ρ Unit) := by
  refine Moves.bind (move_bookkeeping _ _ _ _) ?_
  intro _
  exact Moves.modify (emitRuntimeEvent_background _ _ _)

theorem finishMigration_bookkeeping (session : SessionSnapshot) (protocol : ProtocolId)
    (report : AuthorityReevaluationReport) (answer : Except TransportError SessionSnapshot) :
    Moves R (finishMigration session protocol report answer : FabricM ρ _) := by
  cases answer with
  | ok migrated => exact Moves.pure _
  | error error =>
    have hclose : Moves R (failAndCloseSession session .localRuntimeFailure
        ("authority reevaluation migration failed: " ++ error.text) : FabricM ρ Unit) := by
      refine Moves.bind (move_bookkeeping _ _ _ _) ?_
      intro _
      refine Moves.bind (Moves.modify (emitRuntimeEvent_background _ _ _)) ?_
      intro _
      exact (closeSession_bookkeeping session).mapError _
    refine Moves.bind hclose ?_
    intro _
    exact Moves.bind (Moves.modify (suppressReconnect_bookkeeping _ _)) fun _ => Moves.pure _

variable [Primitives]

theorem followRoute_bookkeeping (session : SessionSnapshot) (protocol : ProtocolId)
    (report : AuthorityReevaluationReport) (plan : Except DaemonStateError RoutePlan) :
    Moves R (followRoute session protocol report plan : FabricM ρ _) := by
  have hdegrades : ∀ reason, Moves R (degradeSession session protocol reason >>= fun _ =>
      pure report.countDegraded : FabricM ρ _) := by
    intro reason
    exact Moves.bind (degradeSession_bookkeeping session protocol reason) fun _ => Moves.pure _
  cases plan with
  | error error =>
    cases error with
    | noRoute peer => exact hdegrades _
    | _ => exact Moves.throw _
  | ok route =>
    simp only [followRoute]
    split_ifs
    · refine Moves.bind ?_ fun _ => Moves.pure _
      unfold restorePosture
      split_ifs
      · exact move_bookkeeping _ _ _ _
      · exact Moves.pure _
    · refine Moves.bind (Moves.modify (emitRuntimeEvent_background _ _ _)) ?_
      intro _
      refine Moves.bind (move_bookkeeping _ _ _ _) ?_
      intro _
      refine Moves.bind (migrate_bookkeeping session route).attempt ?_
      exact finishMigration_bookkeeping session protocol report
    · exact hdegrades _

theorem reevaluateSession_bookkeeping (state : DaemonState) (runtimePeerId : PeerId)
    (report : AuthorityReevaluationReport) (session : SessionSnapshot) :
    Moves R (reevaluateSession state runtimePeerId report session : FabricM ρ _) := by
  unfold reevaluateSession
  cases session.protocol with
  | none => exact Moves.pure _
  | some protocol =>
    dsimp only
    cases state.authorityEnforcement runtimePeerId session.peer protocol with
    | some enforced => exact enforceSession_bookkeeping enforced session protocol _
    | none =>
      apply Moves.get_bind
      intro adapter
      refine Moves.bind ?_ (fun _ => followRoute_bookkeeping session protocol _ _) adapter
      exact Moves.modify (clearReconnectSuppression_bookkeeping _)

end Bookkeeping

structure SameListeners (before after : QuicTransportAdapter ρ) : Prop where
  runtimeListeners : after.runtimeListeners = before.runtimeListeners

instance : SessionBookkeeping (ρ := ρ) SameListeners where
  refl _ := ⟨rfl⟩
  trans _ _ _ h₁ h₂ := ⟨h₂.runtimeListeners.trans h₁.runtimeListeners⟩
  host _ _ _ := ⟨rfl⟩
  relays _ _ := ⟨rfl⟩
  events _ _ := ⟨rfl⟩
  registries _ _ _ _ := ⟨rfl⟩

theorem reevaluateListeners_ok {report report' : AuthorityReevaluationReport}
    {adapter after : QuicTransportAdapter ρ}
    (h : reevaluateListeners state runtimePeerId report adapter = .ok report' after) :
    ∃ swept, adapter.activeListeners.foldlM (reevaluateListener state runtimePeerId) report adapter =
        .ok report' swept ∧ Quiet swept after ∧
      after.runtimeListeners = swept.runtimeListeners := by
  obtain ⟨_, _, hget, h⟩ := bind_eq_ok h
  cases hget
  obtain ⟨report₁, swept, hsweep, h⟩ := bind_eq_ok h
  rw [bind_of_ok (modify_run _ _)] at h
  cases h
  have hsame : SameListeners swept (swept.emitRuntimeEvent "authority.reevaluation_completed"
      (authoritySubject runtimePeerId) report'.details) := emitRuntimeEvent_background _ _ _ _
  exact ⟨swept, hsweep, emitRuntimeEvent_quiet _ _ _ _, hsame.runtimeListeners⟩

theorem reevaluateAuthority_ok {report : AuthorityReevaluationReport}
    {adapter after : QuicTransportAdapter ρ}
    (h : reevaluateAuthority state runtimePeerId adapter = .ok report after) :
    ∃ started report' swept, Quiet adapter started ∧
      Pass.sweep state runtimePeerId adapter.activeSessions started = .ok report' swept ∧
      swept.runtimeListeners = adapter.runtimeListeners ∧
      reevaluateListeners state runtimePeerId report' swept = .ok report after ∧
      after.runtimeSessions = swept.runtimeSessions := by
  rw [reevaluateAuthority, bind_of_ok (modify_run _ _)] at h
  have hquiet : Quiet adapter (startReevaluation state runtimePeerId adapter) :=
    emitRuntimeEvent_quiet _ _ _ _
  have hlisteners : SameListeners adapter (startReevaluation state runtimePeerId adapter) :=
    emitRuntimeEvent_background _ _ _ adapter
  have hsessions : (startReevaluation state runtimePeerId adapter).activeSessions =
      adapter.activeSessions := by
    rw [activeSessions, hquiet.sessions, activeSessions]
  generalize startReevaluation state runtimePeerId adapter = started
    at h hquiet hlisteners hsessions
  obtain ⟨_, _, hget, h⟩ := bind_eq_ok h
  cases hget
  obtain ⟨report', swept, hsweep, h⟩ := bind_eq_ok h
  rw [hsessions] at hsweep
  have hmoves : Moves SameListeners (adapter.activeSessions.foldlM
      (reevaluateSession state runtimePeerId) (.start state runtimePeerId) : FabricM ρ _) :=
    Moves.foldlM_mem (fun report session _ =>
      reevaluateSession_bookkeeping state runtimePeerId report session) _
  refine ⟨started, report', swept, hquiet, hsweep, ?_, h, ?_⟩
  · rw [(hmoves.of_ok hsweep).runtimeListeners, hlisteners.runtimeListeners]
  · obtain ⟨_, done, hrun, hdone, -⟩ := reevaluateListeners_run state runtimePeerId report' swept
    cases hrun.symm.trans h
    exact hdone.sessions

theorem reevaluateRuntimeAuthority_ok {config : DaemonConfig} {identity : IdentityKeypair}
    {world after : World ρ} {report : AuthorityReevaluationReport}
    (h : LocalControlPlane.reevaluateRuntimeAuthority config identity world = .ok report after) :
    ∃ state opened, LocalControlPlane.ensureState config world = .ok state opened ∧
      reevaluateAuthority state identity.peerId world.transport = .ok report after.transport ∧
      after.stateFile = opened.stateFile := by
  obtain ⟨state, opened, hstate, hrun⟩ := bind_eq_ok h
  have hopened := (LocalControlPlane.ensureState_ok hstate world.transport).2
  refine ⟨state, opened, hstate, ?_⟩
  rw [withTransport, zoom, hopened] at hrun
  cases hpass : reevaluateAuthority state identity.peerId world.transport with
  | error error stopped =>
    rw [hpass] at hrun
    cases hrun
  | ok report' left =>
    rw [hpass] at hrun
    cases hrun
    exact ⟨rfl, rfl⟩

/-! ## The whole report -/

/-- The session was denied by policy and is no longer registered. -/
def ClosedForPolicy (state : DaemonState) (runtimePeerId : PeerId)
    (after : QuicTransportAdapter ρ) (session : SessionSnapshot) : Bool :=
  state.deniesKey runtimePeerId session.key &&
    (after.runtimeSessions.find session.sessionId).isNone

structure AuthorityReevaluationReport.AddsUp (state : DaemonState) (runtimePeerId : PeerId)
    (before after : QuicTransportAdapter ρ) (report : AuthorityReevaluationReport) : Prop where
  reevaluated : report.reevaluatedSessions =
    before.activeSessions.countP fun session => session.protocol.isSome
  outcomes : report.reevaluatedSessions = report.closedSessions + report.degradedSessions +
    report.migratedSessions + report.unchangedSessions
  shrinks : after.activeSessions.length + report.closedSessions = before.activeSessions.length
  causes : report.subjectMismatchSessions + report.localMembershipDeniedSessions +
    report.peerMembershipDeniedSessions + report.capabilityDeniedSessions =
      before.activeSessions.countP (ClosedForPolicy state runtimePeerId after)
  listeners : report.reevaluatedListeners = before.activeListeners.length

/-- Every denied session is counted under exactly one cause. -/
theorem countP_deniesKey (state : DaemonState) (runtimePeerId : PeerId)
    (sessions : List SessionSnapshot) :
    sessions.countP (fun session => state.deniesKey runtimePeerId session.key) =
      sessions.countP (fun session =>
        state.enforcedCause runtimePeerId session = some .subjectMismatch) +
      sessions.countP (fun session =>
        state.enforcedCause runtimePeerId session = some .localMembershipDenied) +
      sessions.countP (fun session =>
        state.enforcedCause runtimePeerId session = some .peerMembershipDenied) +
      sessions.countP (fun session =>
        state.enforcedCause runtimePeerId session = some .capabilityDenied) := by
  induction sessions with
  | nil => rfl
  | cons first rest ih =>
    simp only [List.countP_cons, deniesKey_eq_enforcedCause] at ih ⊢
    rw [ih]
    cases hcause : state.enforcedCause runtimePeerId first with
    | none => simp
    | some cause => cases cause <;> simp <;> omega

theorem reevaluateAuthority_causes {report : AuthorityReevaluationReport}
    {adapter after : QuicTransportAdapter ρ}
    (h : reevaluateAuthority state runtimePeerId adapter = .ok report after)
    (cause : AuthorityPolicyCause) : report.causeCount cause = adapter.activeSessions.countP
      fun session => state.enforcedCause runtimePeerId session = some cause := by
  obtain ⟨started, report', swept, hstarted, hsweep, -, hrest, -⟩ := reevaluateAuthority_ok h
  obtain ⟨left, hloop, -⟩ := reevaluateListeners_ok hrest
  have htally := sweep_tally ((listed_activeSessions adapter).of_quiet hstarted) hsweep
  rw [(listeners_added hloop).causes, htally.causes]
  cases cause <;> exact Nat.zero_add _

theorem closedForPolicy_eq {report : AuthorityReevaluationReport}
    {adapter after : QuicTransportAdapter ρ}
    (h : reevaluateAuthority state runtimePeerId adapter = .ok report after)
    (hmem : session ∈ adapter.activeSessions) :
    ClosedForPolicy state runtimePeerId after session =
      state.deniesKey runtimePeerId session.key := by
  obtain ⟨started, report', swept, hstarted, hsweep, -, -, hregistry⟩ := reevaluateAuthority_ok h
  have hsettled := sweep_settled ((listed_activeSessions adapter).of_quiet hstarted) hsweep
    session hmem
  rw [ClosedForPolicy, hregistry]
  cases hfind : swept.runtimeSessions.find session.sessionId with
  | none => simp
  | some record => simp [(hsettled record hfind).2]

theorem reevaluateAuthority_adds_up {report : AuthorityReevaluationReport}
    {adapter after : QuicTransportAdapter ρ}
    (h : reevaluateAuthority state runtimePeerId adapter = .ok report after) :
    report.AddsUp state runtimePeerId adapter after := by
  obtain ⟨started, report', swept, hstarted, hsweep, hlisteners, hrest, hregistry⟩ :=
    reevaluateAuthority_ok h
  obtain ⟨left, hloop, -⟩ := reevaluateListeners_ok hrest
  have hlisted := (listed_activeSessions adapter).of_quiet hstarted
  have htally := sweep_tally hlisted hsweep
  have hadded := listeners_added hloop
  have hsubset : ∀ id, (after.runtimeSessions.find id).isSome = true →
      (adapter.runtimeSessions.find id).isSome = true := by
    intro id hsome
    by_contra hnone
    have hunlisted : ∀ session ∈ adapter.activeSessions, session.sessionId ≠ id := by
      rintro session hsession rfl
      obtain ⟨alpn, hregistered⟩ := registered_of_mem_activeSessions hsession
      rw [hregistered] at hnone
      exact hnone rfl
    have hfind := sweep_find state runtimePeerId (.start state runtimePeerId) started hunlisted
    rw [← Pass.sweep, final_of_ok hsweep, hstarted.sessions, ← hregistry] at hfind
    rw [hfind] at hsome
    exact hnone hsome
  have hclosed : report.closedSessions = adapter.activeSessions.countP fun session =>
      (after.runtimeSessions.find session.sessionId).isNone := by
    rw [hadded.closed, htally.closed, hregistry]
    exact Nat.zero_add _
  have houtcomes : report.outcomes = report.reevaluatedSessions := by
    rw [hadded.outcomes, hadded.reevaluated, htally.outcomes, htally.reevaluated]
    rfl
  refine ⟨?_, houtcomes.symm, ?_, ?_, ?_⟩
  · rw [hadded.reevaluated, htally.reevaluated]
    exact Nat.zero_add _
  · have hlength : after.activeSessions.length = adapter.activeSessions.countP fun session =>
        (after.runtimeSessions.find session.sessionId).isSome :=
      SessionRegistry.length_snapshots_of_subset hsubset
    have hnot : (adapter.activeSessions.countP fun session =>
        (after.runtimeSessions.find session.sessionId).isNone) =
          adapter.activeSessions.countP fun session =>
            ¬ (after.runtimeSessions.find session.sessionId).isSome = true := by
      refine List.countP_congr ?_
      simp
    rw [hlength, hclosed, hnot, ← List.length_eq_countP_add_countP]
  · have hpolicy : report.policyClosures = adapter.activeSessions.countP fun session =>
        state.deniesKey runtimePeerId session.key := by
      rw [countP_deniesKey, ← reevaluateAuthority_causes h, ← reevaluateAuthority_causes h,
        ← reevaluateAuthority_causes h, ← reevaluateAuthority_causes h]
      rfl
    refine hpolicy.trans (List.countP_congr ?_)
    intro session hsession
    rw [closedForPolicy_eq h hsession]
  · rw [hadded.listeners, htally.listeners, activeListeners, hlisteners]
    exact Nat.zero_add _

/-- Whenever the reevaluation returns its report, the report adds up. -/
theorem reevaluation_report_adds_up {config : DaemonConfig} {identity : IdentityKeypair}
    {world after : World ρ} {report : AuthorityReevaluationReport}
    (h : LocalControlPlane.reevaluateRuntimeAuthority config identity world = .ok report after) :
    ∃ state opened, LocalControlPlane.ensureState config world = .ok state opened ∧
      report.AddsUp state identity.peerId world.transport after.transport := by
  obtain ⟨state, opened, hstate, hpass, -⟩ := reevaluateRuntimeAuthority_ok h
  exact ⟨state, opened, hstate, reevaluateAuthority_adds_up hpass⟩

end Hashing

section Closed
attribute [local instance] Primitives.transparent

def ungrantedWorld (protocol : String) : World Unit :=
  meshWorld (fixtureDaemonState "mesh")
    [{ meshSession 1 .directUdp fixtureWorkerPeer with protocol := some ⟨protocol⟩ }] []

theorem control_session_closed : ∃ report after,
    LocalControlPlane.reevaluateRuntimeAuthority meshConfig fixtureIdentity
      (ungrantedWorld "/quip/control/1") = .ok report after ∧
    report.closedSessions = 1 ∧ report.capabilityDeniedSessions = 1 := by
  have hrun : okWith (fun report _ => report.closedSessions = 1 ∧
        report.capabilityDeniedSessions = 1)
      (LocalControlPlane.reevaluateRuntimeAuthority meshConfig fixtureIdentity
        (ungrantedWorld "/quip/control/1")) = true := by
    decide +kernel
  obtain ⟨report, after, hok, hcounts⟩ := exists_of_okWith hrun
  exact ⟨report, after, hok, of_decide_eq_true hcounts⟩

theorem control_session_report_adds_up : ∃ report after state opened,
    LocalControlPlane.reevaluateRuntimeAuthority meshConfig fixtureIdentity
      (ungrantedWorld "/quip/control/1") = .ok report after ∧ report.closedSessions = 1 ∧
    LocalControlPlane.ensureState meshConfig (ungrantedWorld "/quip/control/1") =
      .ok state opened ∧
    report.AddsUp state fixtureIdentity.peerId (ungrantedWorld "/quip/control/1").transport
      after.transport := by
  obtain ⟨report, after, hok, hclosed, -⟩ := control_session_closed
  obtain ⟨state, opened, hstate, hadds⟩ := reevaluation_report_adds_up hok
  exact ⟨report, after, state, opened, hok, hclosed, hstate, hadds⟩

end Closed

end QuipNet.Fabric
