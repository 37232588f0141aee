import QuipNet.PolicyGates
import QuipNet.ReevaluationPass

/-!
# The turns of the reconcile loop

A turn on a listed session touches that session alone, and of the daemon state it
changes no more than the list of active sessions, so that policy and routes are the
same for every session of the loop.
-/

open Std
namespace QuipNet.Fabric
open QuipNet.Library.Effect QuipNet.Quic QuipNet.Transport
open QuicTransportAdapter

variable {ρ : Type}

theorem Listed.tail_of_touches {session : SessionSnapshot} {sessions : List SessionSnapshot}
    {before after : QuicTransportAdapter ρ} (h : Listed (session :: sessions) before)
    (htouches : TouchesSession session.sessionId before after) : Listed sessions after :=
  h.tail (htouches.frame session.key)

/-! ## The daemon state -/

/-- The progress stands on `state`, up to the list of active sessions. -/
def ReconcileProgress.On (state : DaemonState) (progress : ReconcileProgress) : Prop :=
  ∃ activeSessions, progress.state = { state with activeSessions }

namespace ReconcileProgress

variable {state : DaemonState} {progress : ReconcileProgress}

theorem on_start (state : DaemonState) : On state { state } := ⟨state.activeSessions, rfl⟩

theorem On.recordClosed (h : progress.On state) (session : SessionSnapshot) (reason : String) :
    (progress.recordClosed session reason).On state := by
  obtain ⟨sessions, hstate⟩ := h
  exact ⟨_, by rw [ReconcileProgress.recordClosed, hstate]; rfl⟩

theorem On.recordUnchanged (h : progress.On state) (session : SessionSnapshot) (reason : String) :
    (progress.recordUnchanged session reason).On state := h

theorem On.recordUpgraded (h : progress.On state) (session migrated : SessionSnapshot)
    (nextPathKind : PathKind) : (progress.recordUpgraded session migrated nextPathKind).On state := by
  obtain ⟨sessions, hstate⟩ := h
  rw [On, ReconcileProgress.recordUpgraded, hstate]
  unfold DaemonState.withActiveSession
  split_ifs
  · exact ⟨_, rfl⟩
  · exact ⟨_, rfl⟩

section Hashing
variable [Primitives]

theorem On.explainPolicy (h : progress.On state) (peer : PeerId) (protocol : ProtocolId) :
    progress.state.explainPolicy peer protocol = state.explainPolicy peer protocol := by
  obtain ⟨sessions, hstate⟩ := h
  rw [hstate]
  rfl

end Hashing

theorem On.routePlan (h : progress.On state) (peer : PeerId) (protocol : Option ProtocolId)
    (trafficClass : TrafficClass) : progress.state.routePlan peer protocol trafficClass =
      state.routePlan peer protocol trafficClass := by
  obtain ⟨sessions, hstate⟩ := h
  rw [hstate]
  rfl

end ReconcileProgress

/-! ## The session of the turn -/

theorem closeFailed_touches (progress : ReconcileProgress) (session : SessionSnapshot)
    (closureReason : SessionClosureReason) (reason : String) :
    Moves (TouchesSession session.sessionId)
      (closeFailed progress session closureReason reason : FabricM ρ _) := by
  apply Moves.bind (failAndCloseSession_touches session closureReason reason)
  intro _
  exact Moves.pure _

theorem closeFailed_on {state : DaemonState} {progress : ReconcileProgress}
    (hon : progress.On state) (session : SessionSnapshot) (closureReason : SessionClosureReason)
    (reason : String) : Returns (ReconcileProgress.On state)
      (closeFailed progress session closureReason reason : FabricM ρ _) := by
  apply Returns.bind
  intro _
  exact Returns.pure (hon.recordClosed session reason)

theorem closeDenied_touches (progress : ReconcileProgress) (session : SessionSnapshot)
    (reason : String) :
    Moves (TouchesSession session.sessionId)
      (closeDenied progress session reason : FabricM ρ _) := by
  apply Moves.bind ((moveSession_touches _ _ _ _).mapError _)
  intro _
  apply Moves.bind ((closeSession_touches session).mapError _)
  intro _
  exact Moves.pure _

theorem closeDenied_on {state : DaemonState} {progress : ReconcileProgress}
    (hon : progress.On state) (session : SessionSnapshot) (reason : String) :
    Returns (ReconcileProgress.On state) (closeDenied progress session reason : FabricM ρ _) := by
  apply Returns.bind
  intro _
  apply Returns.bind
  intro _
  exact Returns.pure (hon.recordClosed session _)

theorem finishUpgrade_touches (progress : ReconcileProgress) (session : SessionSnapshot)
    (nextPathKind : PathKind) (answer : Except TransportError SessionSnapshot) :
    Moves (TouchesSession session.sessionId)
      (finishUpgrade progress session nextPathKind answer : FabricM ρ _) := by
  cases answer with
  | ok migrated => exact Moves.pure _
  | error error => exact closeFailed_touches progress session _ _

theorem finishUpgrade_on {state : DaemonState} {progress : ReconcileProgress}
    (hon : progress.On state) (session : SessionSnapshot) (nextPathKind : PathKind)
    (answer : Except TransportError SessionSnapshot) : Returns (ReconcileProgress.On state)
      (finishUpgrade progress session nextPathKind answer : FabricM ρ _) := by
  cases answer with
  | ok migrated => exact Returns.pure (hon.recordUpgraded session migrated nextPathKind)
  | error error => exact closeFailed_on hon session _ _

section Hashing
variable [Primitives]

theorem reconcileRoute_touches (progress : ReconcileProgress) (session : SessionSnapshot)
    (plan : Except DaemonStateError RoutePlan) :
    Moves (TouchesSession session.sessionId)
      (reconcileRoute progress session plan : FabricM ρ _) := by
  cases plan with
  | ok route =>
    simp only [reconcileRoute]
    split_ifs
    · apply Moves.bind ((moveSession_touches _ _ _ _).mapError _)
      intro _
      exact Moves.pure _
    · apply Moves.bind ((moveSession_touches _ _ _ _).mapError _)
      intro _
      apply Moves.bind (migrate_touches session route).attempt
      intro answer
      exact finishUpgrade_touches progress session route.pathKind answer
  | error error =>
    cases error with
    | noRoute peer => exact closeFailed_touches progress session _ _
    | _ => exact Moves.throw _

theorem reconcileRoute_on {state : DaemonState} {progress : ReconcileProgress}
    (hon : progress.On state) (session : SessionSnapshot)
    (plan : Except DaemonStateError RoutePlan) : Returns (ReconcileProgress.On state)
      (reconcileRoute progress session plan : FabricM ρ _) := by
  cases plan with
  | ok route =>
    simp only [reconcileRoute]
    split_ifs
    · apply Returns.bind
      intro _
      exact Returns.pure (hon.recordUnchanged session _)
    · apply Returns.bind
      intro _
      apply Returns.bind
      intro answer
      exact finishUpgrade_on hon session route.pathKind answer
  | error error =>
    cases error with
    | noRoute peer => exact closeFailed_on hon session _ _
    | _ => exact Returns.throw _

theorem reconcileRegistered_touches (progress : ReconcileProgress) (session : SessionSnapshot) :
    Moves (TouchesSession session.sessionId)
      (reconcileRegistered progress session : FabricM ρ _) := by
  unfold reconcileRegistered
  cases session.protocol with
  | none => exact closeFailed_touches progress session _ _
  | some protocol =>
    dsimp only
    split_ifs
    · exact reconcileRoute_touches progress session _
    · exact closeDenied_touches progress session _

theorem reconcileRegistered_on {state : DaemonState} {progress : ReconcileProgress}
    (hon : progress.On state) (session : SessionSnapshot) : Returns (ReconcileProgress.On state)
      (reconcileRegistered progress session : FabricM ρ _) := by
  unfold reconcileRegistered
  cases session.protocol with
  | none => exact closeFailed_on hon session _ _
  | some protocol =>
    dsimp only
    split_ifs
    · exact reconcileRoute_on hon session _
    · exact closeDenied_on hon session _

theorem reconcileSession_touches (progress : ReconcileProgress) (session : SessionSnapshot) :
    Moves (TouchesSession session.sessionId) (reconcileSession progress session : FabricM ρ _) := by
  apply Moves.bind ((moveSession_touches _ _ _ _).mapError _)
  intro _
  apply Moves.get_bind
  intro adapter
  cases hfound : adapter.sessionSnapshot session.sessionId with
  | none => exact refl adapter
  | some current =>
    rw [← sessionId_of_sessionSnapshot hfound]
    exact reconcileRegistered_touches progress current adapter

theorem reconcileSession_on {state : DaemonState} {progress : ReconcileProgress}
    (hon : progress.On state) (session : SessionSnapshot) : Returns (ReconcileProgress.On state)
      (reconcileSession progress session : FabricM ρ _) := by
  apply Returns.bind
  intro _
  apply Returns.bind
  intro adapter
  cases adapter.sessionSnapshot session.sessionId with
  | none => exact Returns.pure (hon.recordClosed session _)
  | some current => exact reconcileRegistered_on hon current

end Hashing

end QuipNet.Fabric
