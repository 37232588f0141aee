import QuipNet.ListenerView
import QuipNet.RuntimePaths

/-!
# The health report

`runtime_health` counts as active paths the reported paths that carry a session id. The
entries of terminal sessions carry one too, so a closed session counts until its key is
connected, suppressed or reconnecting again.
-/

open Std
namespace QuipNet.Quic
open QuipNet.Transport

variable {ρ : Type}

inductive RuntimeReconnectState
  | idle
  | active
  | suppressed
  | failed
deriving DecidableEq, Repr

structure RuntimeTransportHealth where
  activeSessions : ℕ
  activeListeners : ℕ
  reconnectState : RuntimeReconnectState
  reconnectAttemptCount : ℕ
  reconnectNextAttemptUnixSecs : Option ℕ
  reconnectSuppressionCount : ℕ
  eventBufferDepth : ℕ
  sessionRegistryHealthy : Bool
  listenerRegistryHealthy : Bool
deriving DecidableEq, Repr

def QuicTransportAdapter.transportHealth (adapter : QuicTransportAdapter ρ) :
    RuntimeTransportHealth :=
  let backingOff := adapter.reconnectAttempts.filter fun attempt => attempt.state = .backingOff
  { activeSessions := adapter.runtimeSessions.snapshots.length
    activeListeners := adapter.activeListeners.countP fun listener => listener.state = .active
    reconnectState :=
      if 0 < adapter.reconnectSuppressions.length then .suppressed
      else if 0 < backingOff.length then .active
      else if adapter.reconnectAttempts.any fun attempt => attempt.state = .failed then .failed
      else .idle
    reconnectAttemptCount := backingOff.length
    reconnectNextAttemptUnixSecs := (backingOff.map fun attempt => attempt.nextAttemptUnixSecs).min?
    reconnectSuppressionCount := adapter.reconnectSuppressions.length
    eventBufferDepth := adapter.runtimeEvents.length
    sessionRegistryHealthy := true
    listenerRegistryHealthy := true }

end QuipNet.Quic

namespace QuipNet.Fabric
open QuipNet.Library QuipNet.Library.Effect QuipNet.Quic QuipNet.Transport
open QuicTransportAdapter

variable {ρ : Type}

inductive RuntimeHealthLevel
  | ready
  | degraded
  | failed
  | suppressed
deriving DecidableEq, Repr

structure RuntimeHealthReport where
  daemonReadiness : RuntimeHealthLevel
  authoritySyncHealth : RuntimeHealthLevel
  runtimeRegistryHealth : RuntimeHealthLevel
  pathManagerHealth : RuntimeHealthLevel
  reconnectSubsystemHealth : RuntimeHealthLevel
  authoritySubjectStatus : String
  authorityDenyReason : Option String
  activeSessions : ℕ
  activePaths : ℕ
  activeListeners : ℕ
  reconnectState : RuntimeReconnectState
  reconnectAttemptCount : ℕ
  reconnectNextAttemptUnixSecs : Option ℕ
  reconnectSuppressionCount : ℕ
  runtimeEventBufferDepth : ℕ
deriving DecidableEq, Repr

def runtimeReconnectHealthLevel : RuntimeReconnectState → RuntimeHealthLevel
  | .idle => .ready
  | .active => .degraded
  | .suppressed => .suppressed
  | .failed => .failed

def runtimeRollupHealth (levels : List RuntimeHealthLevel) : RuntimeHealthLevel :=
  if levels.contains .failed then .failed
  else if levels.contains .suppressed then .suppressed
  else if levels.contains .degraded then .degraded
  else .ready

def pathManagerHealth (activeSessions activePaths : ℕ) : RuntimeHealthLevel :=
  if 0 < activeSessions ∧ activePaths = 0 then .failed
  else if activePaths < activeSessions then .degraded
  else .ready

def DaemonState.healthReport (state : DaemonState) (health : RuntimeTransportHealth)
    (listeners : List RuntimeListenerSnapshot) (paths : List RuntimePathSnapshot) :
    RuntimeHealthReport :=
  let activePaths := paths.countP fun path => path.sessionId.isSome
  let mismatch := state.authoritySubjectMismatch state.localPeerId
  let denyReason := state.denyReason state.localPeerId
  let authoritySync := if mismatch then .failed else if denyReason.isSome then .suppressed else .ready
  let registry :=
    if health.sessionRegistryHealthy && health.listenerRegistryHealthy then .ready else .failed
  let pathManager := pathManagerHealth health.activeSessions activePaths
  let reconnect := runtimeReconnectHealthLevel health.reconnectState
  { daemonReadiness := runtimeRollupHealth [authoritySync, registry, pathManager, reconnect]
    authoritySyncHealth := authoritySync
    runtimeRegistryHealth := registry
    pathManagerHealth := pathManager
    reconnectSubsystemHealth := reconnect
    authoritySubjectStatus := if mismatch then "mismatched" else "matched"
    authorityDenyReason := denyReason
    activeSessions := health.activeSessions
    activePaths
    activeListeners := listeners.countP fun listener => listener.state = .active
    reconnectState := health.reconnectState
    reconnectAttemptCount := health.reconnectAttemptCount
    reconnectNextAttemptUnixSecs := health.reconnectNextAttemptUnixSecs
    reconnectSuppressionCount := health.reconnectSuppressionCount
    runtimeEventBufferDepth := health.eventBufferDepth }

def LocalControlPlane.runtimeHealth [Primitives] (config : DaemonConfig) :
    ControlM ρ RuntimeHealthReport := do
  let state ← ensureState config
  let health := (← get).transport.transportHealth
  let listeners ← runtimeListeners config
  let paths ← runtimePaths config
  pure (state.healthReport health listeners paths)

/-! ## Active paths -/

section Paths
variable {state : DaemonState} {adapter : QuicTransportAdapter ρ}

/-- Every recent terminal session has the key of a session, a suppression or an attempt. -/
def ClosedKeysReused (adapter : QuicTransportAdapter ρ) : Prop :=
  ∀ session ∈ adapter.recentTerminalSessions 16,
    HasSession adapter session.key ∨ adapter.Suppressed session.key ∨ Reconnecting adapter session.key

theorem countP_active_paths (state : DaemonState) (adapter : QuicTransportAdapter ρ) :
    ∃ terminals : List SessionSnapshot,
      ((state.runtimePaths adapter).countP fun path => path.sessionId.isSome) =
        adapter.activeSessions.length + terminals.length ∧
      (terminals = [] ↔ ClosedKeysReused adapter) := by
  obtain ⟨suppressed, attempts, terminals, hpaths, hrealized⟩ := exists_realized state adapter
  obtain ⟨candidates, hperm, -⟩ := runtimePaths_perm state adapter
  have hall : ∀ {α : Type} (entry : α → RuntimePathSnapshot) (items : List α),
      (∀ item, (entry item).sessionId.isSome = true) →
        (items.map entry).countP (fun path => path.sessionId.isSome) = items.length := by
    intro α entry items hsome
    rw [List.countP_map, List.countP_eq_length.2]
    intro item _
    exact hsome item
  have hnone : ∀ {α : Type} (entry : α → RuntimePathSnapshot) (items : List α),
      (∀ item, (entry item).sessionId = none) →
        (items.map entry).countP (fun path => path.sessionId.isSome) = 0 := by
    intro α entry items hnone
    rw [List.countP_map, List.countP_eq_zero]
    intro item _
    simp [hnone item]
  refine ⟨terminals, ?_, ?_⟩
  · rw [hperm.countP_eq, hpaths]
    simp only [List.countP_append]
    rw [hall state.sessionEntry _ fun _ => rfl, hall state.terminalEntry _ fun _ => rfl,
      hnone state.suppressedEntry _ fun _ => rfl, hnone state.reconnectEntry _ fun _ => rfl,
      hnone state.itemEntry _ fun _ => rfl]
    omega
  · constructor
    · intro hempty session hsession
      by_contra hfree
      simp only [not_or] at hfree
      obtain ⟨taken, htaken, -⟩ :=
        hrealized.exists_mem_terminals hsession hfree.1 hfree.2.1 hfree.2.2
      rw [hempty] at htaken
      cases htaken
    · intro hreused
      rw [List.eq_nil_iff_forall_not_mem]
      intro session hsession
      obtain ⟨hrecent, hlive, hsuppressed, hreconnecting⟩ := hrealized.free_of_mem_terminals hsession
      rcases hreused session hrecent with hclaim | hclaim | hclaim
      · exact hlive hclaim
      · exact hsuppressed hclaim
      · exact hreconnecting hclaim

end Paths

section Hashing
variable [Primitives]

namespace LocalControlPlane
variable {config : DaemonConfig} {world opened : World ρ} {state : DaemonState}

theorem ensureState_again (h : ensureState config world = .ok state opened) :
    ∃ again, ensureState config opened = .ok again opened := by
  cases hfile : world.stateFile with
  | none =>
    rw [ensureState_of_none hfile] at h
    cases h
    exact ⟨_, ensureState_of_load rfl rfl⟩
  | some file =>
    cases hload : file.load with
    | error error =>
      rw [ensureState_of_damaged hfile hload] at h
      cases h
    | ok loaded =>
      rw [ensureState_of_load hfile hload] at h
      cases h
      exact ⟨_, ensureState_of_load hfile hload⟩

theorem runtimeHealth_run (h : ensureState config world = .ok state opened) :
    ∃ again, runtimeHealth config world =
      .ok (state.healthReport world.transport.transportHealth
        (world.transport.activeListeners.map (reportedListener again))
        (again.runtimePaths world.transport)) opened := by
  obtain ⟨again, hagain⟩ := ensureState_again h
  have hopened := (ensureState_ok h world.transport).2
  have hlisteners : runtimeListeners config opened =
      .ok (world.transport.activeListeners.map (reportedListener again)) opened := by
    rw [runtimeListeners, bind_of_ok hagain, bind_of_ok (get_run _), pure_run, hopened]
  have hpaths : runtimePaths config opened = .ok (again.runtimePaths world.transport) opened := by
    rw [runtimePaths, bind_of_ok hagain, bind_of_ok (get_run _), pure_run, hopened]
  refine ⟨again, ?_⟩
  rw [runtimeHealth, bind_of_ok h, bind_of_ok (get_run _), bind_of_ok hlisteners,
    bind_of_ok hpaths, pure_run, hopened]

end LocalControlPlane

/-- The report counts as many active paths as there are registered sessions exactly when
the key of every recent terminal session is in use again. -/
theorem active_paths_eq_sessions_iff {config : DaemonConfig} {world opened : World ρ}
    {state : DaemonState} (hstate : LocalControlPlane.ensureState config world = .ok state opened) :
    ∃ report after, LocalControlPlane.runtimeHealth config world = .ok report after ∧
      report.activeSessions = world.transport.activeSessions.length ∧
      (report.activePaths = world.transport.activeSessions.length ↔
        ClosedKeysReused world.transport) := by
  obtain ⟨again, hrun⟩ := LocalControlPlane.runtimeHealth_run hstate
  obtain ⟨terminals, hcount, hterminals⟩ := countP_active_paths again world.transport
  refine ⟨_, _, hrun, rfl, ?_⟩
  change List.countP _ _ = _ ↔ _
  rw [hcount, ← hterminals, ← List.length_eq_zero_iff]
  omega

end Hashing

section Closed
attribute [local instance] Primitives.transparent

def closedWorld (suppressions : List ReconnectSuppression) : World Unit :=
  ⟨some (.durable (fixtureDaemonState "mesh")),
    final (closeSession (meshSession 1 .directUdp fixtureWorkerPeer))
      (meshTransport [meshSession 1 .directUdp fixtureWorkerPeer] suppressions)⟩

theorem closed_session_counts_as_path : ∃ report after,
    ((closedWorld []).transport.activeSessions.map SessionSnapshot.key).Nodup ∧
      LocalControlPlane.runtimeHealth meshConfig (closedWorld []) = .ok report after ∧
      report.activeSessions = 0 ∧ report.activePaths = 1 ∧ report.pathManagerHealth = .ready := by
  have hnone : (closedWorld []).transport.activeSessions.length = 0 := by decide +kernel
  have hrun : okWith (fun report _ => report.activeSessions = 0 ∧ report.activePaths = 1 ∧
      report.pathManagerHealth = .ready)
      (LocalControlPlane.runtimeHealth meshConfig (closedWorld [])) = true := by
    decide +kernel
  obtain ⟨report, after, hok, hreport⟩ := exists_of_okWith hrun
  refine ⟨report, after, ?_, hok, of_decide_eq_true hreport⟩
  rw [List.length_eq_zero_iff.1 hnone]
  exact List.nodup_nil

theorem suppressed_closed_session_is_no_path : ∃ report after,
    (closedWorld [LocalControlPlane.liftedDenial]).transport.recentTerminalSessions 16 ≠ [] ∧
      LocalControlPlane.runtimeHealth meshConfig (closedWorld [LocalControlPlane.liftedDenial]) =
        .ok report after ∧ report.activePaths = 0 := by
  have hstate : LocalControlPlane.ensureState meshConfig
      (closedWorld [LocalControlPlane.liftedDenial]) =
        .ok (LocalControlPlane.prepared meshConfig (fixtureDaemonState "mesh"))
          (closedWorld [LocalControlPlane.liftedDenial]) := rfl
  obtain ⟨report, after, hrun, -, hiff⟩ := active_paths_eq_sessions_iff hstate
  have hclosed : (closedWorld [LocalControlPlane.liftedDenial]).transport.activeSessions.length =
      0 := by
    decide +kernel
  have hkeys : ((closedWorld [LocalControlPlane.liftedDenial]).transport.recentTerminalSessions
      16).map SessionSnapshot.key = [LocalControlPlane.liftedDenial.key] := by
    decide +kernel
  have hsuppressed : (closedWorld [LocalControlPlane.liftedDenial]).transport.Suppressed
      LocalControlPlane.liftedDenial.key := by
    change ∃ entry ∈ (closedWorld [LocalControlPlane.liftedDenial]).transport.reconnectSuppressions,
      entry.key = LocalControlPlane.liftedDenial.key
    decide +kernel
  refine ⟨report, after, ?_, hrun, (hiff.2 ?_).trans hclosed⟩
  · intro hnil
    simp [hnil] at hkeys
  · intro session hsession
    have hkey : session.key ∈ _ := List.mem_map_of_mem hsession
    rw [hkeys, List.mem_singleton] at hkey
    rw [hkey]
    exact .inr (.inl hsuppressed)

end Closed

end QuipNet.Fabric
