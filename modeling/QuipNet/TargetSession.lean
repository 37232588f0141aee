import QuipNet.Cycle
import QuipNet.PolicyGates
import QuipNet.RelaySessionRuns

/-!
# The target session of a cycle

After reconciliation the cycle loads the state again, and loading drops the runtime
sessions. With reconciliation on, the state that the target lookup reads therefore
names no session, and a healthy session to the target is never found.
-/

open Std
namespace QuipNet.Daemon
open QuipNet.Fabric QuipNet.Library.Effect QuipNet.Quic QuipNet.Transport

variable {ρ : Type} {config : DaemonConfig} {args : Args} {state : DaemonState}

theorem load_activeSessions {file : StateFile} (h : file.load = .ok state) :
    state.activeSessions = [] := by
  cases file with
  | durable durable =>
    cases h
    rfl
  | damaged error => cases h

theorem ne_reused {text : String} {first : Char} (h : text.toList.head? = some first)
    (hfirst : first ≠ 'r') (rest : String) : text ++ rest ≠ "reused" := by
  intro heq
  have hhead := head_append h rest
  rw [heq] at hhead
  have hr : "reused".toList.head? = some 'r' := rfl
  rw [hr] at hhead
  exact hfirst (Option.some.inj hhead).symm

def IsReused : TargetSessionOutcome → Prop
  | .active _ => False
  | .reused _ => True
  | .backingOff status => status = "reused"
  | .suppressed status => status = "reused"
  | .failed status => status = "reused"

theorem not_isReused_backingOff (attempt : RuntimeReconnectAttempt) (now : ℕ) :
    ¬ IsReused (.backingOff (backoffStatus attempt now)) := by
  have hhead : "backoff:attempts=".toList.head? = some 'b' := rfl
  have hne (count wait retry secs reason : String) :
      "backoff:attempts=" ++ count ++ wait ++ retry ++ secs ++ reason ≠ "reused" := by
    simp only [String.append_assoc]
    exact ne_reused hhead (by decide) _
  exact hne _ _ _ _ _

theorem not_isReused_failed (attempt : RuntimeReconnectAttempt) :
    ¬ IsReused (.failed (failedStatus attempt)) := by
  have hhead : "failed:attempts=".toList.head? = some 'f' := rfl
  have hne (count label reason : String) :
      "failed:attempts=" ++ count ++ label ++ reason ≠ "reused" := by
    simp only [String.append_assoc]
    exact ne_reused hhead (by decide) _
  exact hne _ _ _

theorem not_isReused_suppressed (reason : String) :
    ¬ IsReused (.suppressed ("suppressed:" ++ reason)) := by
  have hhead : "suppressed:".toList.head? = some 's' := rfl
  exact ne_reused hhead (by decide) reason

theorem not_isReused_scheduled (attempt : RuntimeReconnectAttempt) (now : ℕ) :
    ¬ IsReused (scheduledOutcome attempt now) := by
  cases hstate : attempt.state with
  | backingOff =>
    simpa only [scheduledOutcome, hstate] using not_isReused_backingOff attempt now
  | failed => simpa only [scheduledOutcome, hstate] using not_isReused_failed attempt

section Hashing
variable [Primitives]

/-- A session to the target of the cycle that is registered, active, allowed by policy
and on the route that the state plans for it. -/
structure Healthy (config : DaemonConfig) (args : Args) (world : World ρ)
    (session : SessionSnapshot) : Prop where
  registered : session ∈ world.transport.activeSessions
  active : session.state = .active
  target : ∃ state opened protocol route, LocalControlPlane.ensureState config world =
      .ok state opened ∧ targetPeer args state = some session.peer ∧
    args.connectProtocol = some protocol ∧ session.protocol = some ⟨protocol⟩ ∧
    session.trafficClass = parseClass args.connectClass ∧
    (state.explainPolicy session.peer ⟨protocol⟩).allowed = true ∧
    state.routePlan session.peer session.protocol session.trafficClass = .ok route ∧
    sessionMatchesRoute session route = true

def Reused (result : EStateM.Result DaemonStateError (World ρ) DaemonCycleReport) : Prop :=
  ∃ report after, result = .ok report after ∧ report.connectStatus = "reused"

/-! ## Loading drops the runtime sessions -/

theorem ensureState_activeSessions (config : DaemonConfig) :
    Returns (fun state => state.activeSessions = [])
      (LocalControlPlane.ensureState config : ControlM ρ DaemonState) := by
  intro world state opened h
  cases hfile : world.stateFile with
  | none =>
    rw [LocalControlPlane.ensureState_of_none hfile] at h
    cases h
    rfl
  | some file =>
    cases hload : file.load with
    | error error =>
      rw [LocalControlPlane.ensureState_of_damaged hfile hload] at h
      cases h
    | ok loaded =>
      rw [LocalControlPlane.ensureState_of_load hfile hload] at h
      cases h
      have hsessions := load_activeSessions hload
      exact hsessions

theorem reconcileForCycle_activeSessions (hreconcile : args.disableReconcile = false) :
    Returns (fun result => result.1.activeSessions = [])
      (reconcileForCycle config args state : ControlM ρ _) := by
  unfold reconcileForCycle
  rw [if_neg (by simp [hreconcile])]
  split_ifs with hempty
  · exact Returns.pure (List.isEmpty_iff.mp hempty)
  · apply Returns.bind
    intro report world result after h
    obtain ⟨loaded, opened, hload, hresult⟩ := bind_eq_ok h
    cases hresult
    exact ensureState_activeSessions config _ _ _ hload

/-! ## Without a session in the state nothing is reused -/

theorem attemptTarget_not_reused (key : SessionKey) (protocol : ProtocolId) (now : ℕ) :
    Returns (fun outcome => ¬ IsReused outcome)
      (attemptTarget config key protocol now : ControlM ρ _) := by
  refine Returns.bind fun _ => Returns.bind fun realized => ?_
  cases realized with
  | ok session => exact Returns.bind fun _ => Returns.pure (fun h => h)
  | error error =>
    exact Returns.bind fun scheduled => Returns.pure (not_isReused_scheduled scheduled now)

theorem reconnectTarget_not_reused (key : SessionKey) (protocol : ProtocolId) :
    Returns (fun outcome => ¬ IsReused outcome)
      (reconnectTarget config key protocol : ControlM ρ _) := by
  refine Returns.bind fun world => ?_
  cases world.transport.findReconnectSuppression key with
  | some suppression =>
    exact Returns.bind fun _ => Returns.pure (not_isReused_suppressed suppression.reason)
  | none =>
    refine Returns.bind fun now => Returns.bind fun world => ?_
    cases findReconnectAttempt world.transport key with
    | none => exact attemptTarget_not_reused key protocol now
    | some attempt =>
      dsimp only
      cases attempt.state with
      | failed => exact Returns.pure (not_isReused_failed attempt)
      | backingOff =>
        dsimp only
        split_ifs with hearly
        · exact Returns.pure (not_isReused_backingOff attempt now)
        · exact attemptTarget_not_reused key protocol now

theorem ensureTargetSession_not_reused (hsessions : state.activeSessions = []) (protocol : String) :
    Returns (fun outcome => ¬ IsReused outcome)
      (ensureTargetSession config args state protocol : ControlM ρ _) := by
  refine Returns.bind fun world => ?_
  have hnone : existingTargetSession args state world.transport protocol = none := by
    unfold existingTargetSession
    cases targetPeer args state <;> simp [hsessions]
  rw [hnone]
  dsimp only
  cases targetPeer args state with
  | none => exact Returns.throw _
  | some target =>
    cases ProtocolId.new protocol with
    | error error => exact Returns.throw _
    | ok protocol => exact reconnectTarget_not_reused _ protocol

theorem connectForCycle_not_reused (hsessions : state.activeSessions = []) :
    Returns (fun result => result.2.2 ≠ "reused")
      (connectForCycle config args state : ControlM ρ _) := by
  unfold connectForCycle
  cases args.connectProtocol with
  | none => exact Returns.pure (by simp)
  | some protocol =>
    intro world result after h
    obtain ⟨tried, between, htried, hrest⟩ := bind_eq_ok h
    cases hrun : ensureTargetSession config args state protocol world with
    | error error left =>
      rw [attempt_of_error hrun] at htried
      cases htried
      cases hrest
      have hhead : "connect-failed:".toList.head? = some 'c' := rfl
      exact ne_reused hhead (by decide) _
    | ok outcome left =>
      rw [attempt_of_ok hrun] at htried
      cases htried
      have hout := ensureTargetSession_not_reused hsessions protocol world outcome _ hrun
      cases outcome with
      | active session =>
        obtain ⟨loaded, opened, -, hloaded⟩ := bind_eq_ok hrest
        cases hloaded
        simp
      | reused session => exact absurd trivial hout
      | backingOff status =>
        cases hrest
        exact hout
      | suppressed status =>
        cases hrest
        exact hout
      | failed status =>
        cases hrest
        exact hout

/-- With reconciliation on, no cycle reuses a session, whatever its trigger, the state
file, the registry and the relays are. -/
theorem runCycle_never_reuses (surroundings : Surroundings) (localIdentity : IdentityKeypair)
    (hreconcile : args.disableReconcile = false) (trigger : CycleTrigger) (world : World ρ) :
    ¬ Reused (runCycle surroundings config localIdentity args trigger world) := by
  rintro ⟨report, after, hrun, hstatus⟩
  obtain ⟨prepared, w₁, -, hrun⟩ := bind_eq_ok hrun
  obtain ⟨synced, w₂, -, hrun⟩ := bind_eq_ok hrun
  obtain ⟨reevaluation, w₃, -, hrun⟩ := bind_eq_ok hrun
  obtain ⟨state, w₄, -, hrun⟩ := bind_eq_ok hrun
  obtain ⟨reconciled, w₅, hreconciled, hrun⟩ := bind_eq_ok hrun
  obtain ⟨connected, w₆, hconnected, hrun⟩ := bind_eq_ok hrun
  have hsessions := reconcileForCycle_activeSessions hreconcile _ _ _ hreconciled
  have hne := connectForCycle_not_reused hsessions _ _ _ hconnected
  cases hrun
  exact hne hstatus

end Hashing

section Closed
attribute [local instance] Primitives.transparent

def unattended : Surroundings where
  loadAuthoritySnapshot _ := .error (.io "No such file or directory (os error 2)")
  originAt _ := ⟨fun _ => .error (.transport "connection refused"),
    .error (.transport "connection refused"), fun _ => .error (.transport "connection refused")⟩

def targetArgs : Args where
  connectProtocol := some "/quip/control/1"
  connectPeer := some fixtureWorkerPeer.toText
  connectClass := "bulk"

def startedWorld : World RelayLog :=
  ⟨some (.durable LocalControlPlane.grantedFixture),
    { edgeAdapter (fun _ => true) with localIdentity := some fixtureIdentity }⟩

def connectedWorld : World RelayLog :=
  final (runCycle unattended meshConfig fixtureIdentity targetArgs .startup) startedWorld

theorem connected_session_not_reused :
    ¬ Reused (runCycle unattended meshConfig fixtureIdentity targetArgs .intervalElapsed
      connectedWorld) :=
  runCycle_never_reuses unattended fixtureIdentity rfl .intervalElapsed connectedWorld

def testTarget (session : SessionSnapshot) : Bool :=
  okWith (fun state _ => targetPeer targetArgs state = some session.peer &&
      session.protocol = some ⟨"/quip/control/1"⟩ && session.trafficClass = .bulk &&
      (state.explainPolicy session.peer ⟨"/quip/control/1"⟩).allowed &&
      match state.routePlan session.peer session.protocol session.trafficClass with
      | .ok route => sessionMatchesRoute session route
      | .error _ => false)
    (LocalControlPlane.ensureState meshConfig connectedWorld)

/-- The second cycle does not see the healthy session of the first: it connects again
and opens a second relay session. -/
theorem healthy_session_connected_again : ∃ session report after,
    Healthy meshConfig targetArgs connectedWorld session ∧
      runCycle unattended meshConfig fixtureIdentity targetArgs .intervalElapsed connectedWorld =
        .ok report after ∧
      report.connectStatus = "active" ∧
      connectedWorld.transport.relays.opened.length = 1 ∧
      after.transport.relays.opened.length = 2 := by
  have htest : (connectedWorld.transport.activeSessions.any fun session =>
      session.state = .active && testTarget session) = true := by
    decide +kernel
  have hrun : okWith (fun report after => report.connectStatus = "active" ∧
      after.transport.relays.opened.length = 2)
      (runCycle unattended meshConfig fixtureIdentity targetArgs .intervalElapsed
        connectedWorld) = true := by
    decide +kernel
  obtain ⟨session, hmem, hsession⟩ := List.any_eq_true.1 htest
  simp only [Bool.and_eq_true, decide_eq_true_eq] at hsession
  obtain ⟨state, opened, hstate, htarget⟩ := exists_of_okWith hsession.2
  obtain ⟨report, after, hreport, hafter⟩ := exists_of_okWith hrun
  obtain ⟨hstatus, hopened⟩ := of_decide_eq_true hafter
  cases hroute : state.routePlan session.peer session.protocol session.trafficClass with
  | error error => simp [hroute] at htarget
  | ok route =>
    simp only [hroute, Bool.and_eq_true, decide_eq_true_eq, and_assoc] at htarget
    obtain ⟨hpeer, hprotocol, hclass, hallowed, hmatches⟩ := htarget
    refine ⟨session, report, after, ⟨hmem, hsession.1, ?_⟩, hreport, hstatus, ?_, hopened⟩
    · exact ⟨state, opened, "/quip/control/1", route, hstate, hpeer, rfl, hprotocol, hclass,
        hallowed, hroute, hmatches⟩
    · decide +kernel

end Closed

end QuipNet.Daemon
