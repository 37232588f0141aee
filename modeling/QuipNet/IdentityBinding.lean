import QuipNet.StateFileRuns

/-!
# The identity the state file is bound to

A state file is bound to a peer when the state runs as that peer and holds its
membership. Every operation keeps the binding of a file it finds. Where there is
no file the operations differ in what they create: those that take the runtime
identity create a state bound to it, and `ensureState` creates the fixture.
-/

open Std
namespace QuipNet.Fabric
open QuipNet.Control QuipNet.Library.Effect QuipNet.Quic QuipNet.Transport
open LocalControlPlane

variable {ρ : Type}

structure DaemonState.BoundTo (peer : PeerId) (state : DaemonState) : Prop where
  localPeer : state.localPeerId = peer
  subject : state.membership.subjectPeerId = peer

def FileBoundTo (peer : PeerId) : Option StateFile → Prop
  | none => True
  | some (.durable state) => state.BoundTo peer
  | some (.damaged _) => False

theorem fileBoundTo_saved_iff {peer : PeerId} {state : DaemonState} :
    FileBoundTo peer (some state.saved) ↔ state.BoundTo peer :=
  ⟨fun h => ⟨h.localPeer, h.subject⟩, fun h => ⟨h.localPeer, h.subject⟩⟩

def SameHolder (state state' : DaemonState) : Prop :=
  state'.localPeerId = state.localPeerId ∧ state'.membership = state.membership

theorem SameHolder.boundTo_iff {state state' : DaemonState} (h : SameHolder state state')
    (peer : PeerId) : state'.BoundTo peer ↔ state.BoundTo peer := by
  obtain ⟨hlocal, hmembership⟩ := h
  constructor
  · rintro ⟨rfl, hsubject⟩
    exact ⟨hlocal.symm, hmembership ▸ hsubject⟩
  · rintro ⟨rfl, hsubject⟩
    exact ⟨hlocal, hmembership ▸ hsubject⟩

theorem SameButSessions.sameHolder {state state' : DaemonState} (h : SameButSessions state state') :
    SameHolder state state' := by
  obtain ⟨sessions, rfl⟩ := h
  exact ⟨rfl, rfl⟩

/-! ## What an operation does once it has its state -/

/-- The computation leaves the file as it found it, or writes a state of the same
holder. -/
def KeepsHolder {α : Type} (state : DaemonState) (m : ControlM ρ α) : Prop :=
  ∀ world, (final m world).stateFile = world.stateFile ∨
    ∃ written, SameHolder state written ∧ (final m world).stateFile = some written.saved

theorem keepsHolder_withTransport {α : Type} (state : DaemonState) (m : FabricM ρ α) :
    KeepsHolder state (withTransport m) := by
  intro world
  left
  rw [withTransport, final_zoom]

theorem keepsHolder_publish {α : Type} {state : DaemonState} {work : FabricM ρ (DaemonState × α)}
    (hwork : Returns (fun result => SameHolder state result.1) work) :
    KeepsHolder state
      (withTransport work >>= fun result => save result.1 >>= fun _ => pure result.2) := by
  intro world
  cases hrun : work world.transport with
  | ok result transport =>
    refine .inr ⟨result.1, hwork _ _ _ hrun, ?_⟩
    simp only [final, bind_run, withTransport, zoom, hrun, save, modify_run, pure_run]
  | error error transport =>
    left
    simp only [final, bind_run, withTransport, zoom, hrun]

theorem KeepsHolder.fileBoundTo_iff {α : Type} {state : DaemonState} {m : ControlM ρ α}
    {opened : World ρ} {peer : PeerId} (h : KeepsHolder state m)
    (hopened : FileBoundTo peer opened.stateFile ↔ state.BoundTo peer) :
    FileBoundTo peer (final m opened).stateFile ↔ state.BoundTo peer := by
  rcases h opened with hsame | ⟨written, hholder, hwritten⟩
  · rw [hsame, hopened]
  · rw [hwritten, fileBoundTo_saved_iff, hholder.boundTo_iff peer]

section Ensure
variable [Primitives] {α : Type} {config : DaemonConfig} {k : DaemonState → ControlM ρ α}
  {world : World ρ}

theorem createdState_boundTo_iff {peer : PeerId} :
    (createdState config).BoundTo peer ↔ fixtureIdentity.peerId = peer :=
  ⟨fun h => h.localPeer, fun h => ⟨h, h⟩⟩

/-- An operation that enters through `ensureState` keeps the binding of a file, and
where there is none it binds the new file to the fixture's identity. -/
theorem ensureState_fileBoundTo_iff {peer : PeerId} (hk : ∀ state, KeepsHolder state (k state))
    (hbound : FileBoundTo peer world.stateFile) :
    FileBoundTo peer (final (ensureState config >>= k) world).stateFile ↔
      (world.stateFile.isSome ∨ fixtureIdentity.peerId = peer) := by
  obtain ⟨file, transport⟩ := world
  cases file with
  | none =>
    rw [final_bind_of_ok (ensureState_of_none rfl),
      (hk _).fileBoundTo_iff fileBoundTo_saved_iff, createdState_boundTo_iff]
    simp
  | some file =>
    cases file with
    | damaged error => exact hbound.elim
    | durable state =>
      rw [final_bind_of_ok (ensureState_of_load rfl rfl), (hk _).fileBoundTo_iff]
      · simpa using ⟨hbound.localPeer, hbound.subject⟩
      · exact ⟨fun h => ⟨h.localPeer, h.subject⟩, fun h => ⟨h.localPeer, h.subject⟩⟩

theorem ensureStateForLocalIdentity_of_none {identity : IdentityKeypair}
    (transport : QuicTransportAdapter ρ) :
    ensureStateForLocalIdentity config identity ⟨none, transport⟩ =
      .ok (selfIdentityDaemonState config.network config.roles identity).withMergedCandidates
        ⟨some (selfIdentityDaemonState config.network config.roles
          identity).withMergedCandidates.saved, transport⟩ := by
  simp only [ensureStateForLocalIdentity, bind_run, get_run, save, modify_run, pure_run]

theorem selfIdentityDaemonState_boundTo {identity : IdentityKeypair} :
    (selfIdentityDaemonState config.network config.roles
      identity).withMergedCandidates.BoundTo identity.peerId :=
  ⟨rfl, rfl⟩

theorem ensureStateForLocalIdentity_fileBoundTo (identity : IdentityKeypair)
    (hk : ∀ state, KeepsHolder state (k state))
    (hbound : FileBoundTo identity.peerId world.stateFile) :
    FileBoundTo identity.peerId
      (final (ensureStateForLocalIdentity config identity >>= k) world).stateFile := by
  obtain ⟨file, transport⟩ := world
  cases file with
  | none =>
    rw [final_bind_of_ok (ensureStateForLocalIdentity_of_none transport),
      (hk _).fileBoundTo_iff fileBoundTo_saved_iff]
    exact selfIdentityDaemonState_boundTo
  | some file =>
    have hload : ensureStateForLocalIdentity (ρ := ρ) config identity ⟨some file, transport⟩ =
        ensureState config ⟨some file, transport⟩ := rfl
    have hsame : FileBoundTo identity.peerId
        (final (ensureState config >>= k) ⟨some file, transport⟩).stateFile :=
      (ensureState_fileBoundTo_iff hk hbound).2 (.inl rfl)
    rwa [final, bind_run, ← hload, ← bind_run] at hsame

end Ensure

/-! ## The operations -/

/-- The daemon's operations on its state file. The queries of the control server
(status, inspection, policy) do no more to the file than `ensureState`. -/
inductive DaemonOp
  | resetNetworkState
  | ensureState
  | ensureStateForLocalIdentity
  | ensureIdentityBoundState
  | refreshAndPersist
  | refreshAndPersistForLocalIdentity
  | reprobeNetworkChange (reason : String)
  | syncAuthorityRevocationsOrigin (origin : AuthorityOrigin)
  | reconcileSessions
  | realizeBestPath (peer : PeerId) (protocol : ProtocolId) (trafficClass : TrafficClass)
  | closeSession (sessionId : SessionId)
  | upgradeSession (sessionId : SessionId)
  | reevaluateRuntimeAuthority

namespace DaemonOp

def entersByEnsureState : DaemonOp → Bool
  | .resetNetworkState | .ensureStateForLocalIdentity | .ensureIdentityBoundState
  | .refreshAndPersistForLocalIdentity => false
  | _ => true

variable [Primitives]

def run (config : DaemonConfig) (identity : IdentityKeypair) : DaemonOp → ControlM ρ Unit
  | .resetNetworkState => ignoring LocalControlPlane.resetNetworkState
  | .ensureState => ignoring (LocalControlPlane.ensureState config)
  | .ensureStateForLocalIdentity =>
    ignoring (LocalControlPlane.ensureStateForLocalIdentity config identity)
  | .ensureIdentityBoundState =>
    ignoring (LocalControlPlane.ensureIdentityBoundState config identity)
  | .refreshAndPersist => ignoring (LocalControlPlane.refreshAndPersist config)
  | .refreshAndPersistForLocalIdentity =>
    ignoring (LocalControlPlane.refreshAndPersistForLocalIdentity config identity)
  | .reprobeNetworkChange reason => ignoring (LocalControlPlane.reprobeNetworkChange config reason)
  | .syncAuthorityRevocationsOrigin origin =>
    ignoring (LocalControlPlane.syncAuthorityRevocationsOrigin config origin)
  | .reconcileSessions => ignoring (LocalControlPlane.reconcileSessions config)
  | .realizeBestPath peer protocol trafficClass =>
    ignoring (LocalControlPlane.realizeBestPath config peer protocol trafficClass)
  | .closeSession sessionId => LocalControlPlane.closeSession config sessionId
  | .upgradeSession sessionId => ignoring (LocalControlPlane.upgradeSession config sessionId)
  | .reevaluateRuntimeAuthority =>
    ignoring (LocalControlPlane.reevaluateRuntimeAuthority config identity)

theorem transaction_fileBoundTo_iff {α : Type} {config : DaemonConfig} {world : World ρ}
    {peer : PeerId} {work : DaemonState → FabricM ρ (DaemonState × α)}
    (hwork : ∀ state, Returns (fun result => SameHolder state result.1) (work state))
    (hbound : FileBoundTo peer world.stateFile) :
    FileBoundTo peer (final (transaction config work) world).stateFile ↔
      (world.stateFile.isSome ∨ fixtureIdentity.peerId = peer) :=
  ensureState_fileBoundTo_iff (fun state => keepsHolder_publish (hwork state)) hbound

theorem run_fileBoundTo_iff (config : DaemonConfig) (identity : IdentityKeypair) (op : DaemonOp)
    (world : World ρ) (hbound : FileBoundTo identity.peerId world.stateFile) :
    FileBoundTo identity.peerId (final (op.run config identity) world).stateFile ↔
      (op.entersByEnsureState →
        world.stateFile.isSome ∨ fixtureIdentity.peerId = identity.peerId) := by
  have hsessions : ∀ {α : Type} {work : DaemonState → FabricM ρ (DaemonState × α)},
      (∀ state, KeepsState state (work state)) →
        ∀ state, Returns (fun result => SameHolder state result.1) (work state) :=
    fun hkeeps state s result s' h => (hkeeps state s result s' h).sameHolder
  have henters : ∀ {P Q : Prop} {enters : Bool}, enters = true → (P ↔ Q) →
      (P ↔ (enters = true → Q)) := fun h hiff => hiff.trans ⟨fun hQ _ => hQ, fun hQ => hQ h⟩
  cases op with
  | resetNetworkState => exact iff_of_true trivial nofun
  | ensureState =>
    exact henters rfl (ensureState_fileBoundTo_iff (fun _ _ => .inl rfl) hbound)
  | ensureStateForLocalIdentity =>
    refine iff_of_true ?_ nofun
    exact ensureStateForLocalIdentity_fileBoundTo identity (fun _ _ => .inl rfl) hbound
  | ensureIdentityBoundState =>
    rw [run, final_ignoring]
    refine iff_of_true (ensureStateForLocalIdentity_fileBoundTo identity ?_ hbound) nofun
    intro state world
    left
    dsimp only
    split_ifs <;> rfl
  | refreshAndPersist =>
    rw [run, final_ignoring]
    exact henters rfl (transaction_fileBoundTo_iff (fun _ => Returns.pure ⟨rfl, rfl⟩) hbound)
  | refreshAndPersistForLocalIdentity =>
    rw [run, final_ignoring]
    refine iff_of_true ?_ nofun
    exact ensureStateForLocalIdentity_fileBoundTo identity
      (fun state _ => .inr ⟨state, ⟨rfl, rfl⟩, rfl⟩) hbound
  | reprobeNetworkChange reason =>
    rw [run, final_ignoring]
    exact henters rfl (transaction_fileBoundTo_iff (fun _ => Returns.pure ⟨rfl, rfl⟩) hbound)
  | syncAuthorityRevocationsOrigin origin =>
    rw [run, final_ignoring]
    refine henters rfl (transaction_fileBoundTo_iff ?_ hbound)
    intro state
    unfold revokeState
    split
    · exact Returns.throw _
    · exact Returns.pure ⟨rfl, rfl⟩
  | reconcileSessions =>
    rw [run, final_ignoring]
    exact henters rfl (transaction_fileBoundTo_iff (hsessions reconcileState_keepsState) hbound)
  | realizeBestPath peer protocol trafficClass =>
    rw [run, final_ignoring]
    exact henters rfl (transaction_fileBoundTo_iff
      (hsessions (realizeState_keepsState peer protocol trafficClass)) hbound)
  | closeSession sessionId =>
    exact henters rfl (transaction_fileBoundTo_iff
      (hsessions (closeState_keepsState sessionId)) hbound)
  | upgradeSession sessionId =>
    rw [run, final_ignoring]
    exact henters rfl (transaction_fileBoundTo_iff
      (hsessions (upgradeState_keepsState sessionId)) hbound)
  | reevaluateRuntimeAuthority =>
    rw [run, final_ignoring]
    exact henters rfl (ensureState_fileBoundTo_iff
      (fun state => keepsHolder_withTransport state _) hbound)

end DaemonOp

/-! ## Runs -/

structure DaemonCall (ρ : Type) where
  op : DaemonOp
  transport : QuicTransportAdapter ρ

section Runs
variable [Primitives] (config : DaemonConfig) (identity : IdentityKeypair)

def DaemonCall.fileAfter (file : Option StateFile) (call : DaemonCall ρ) : Option StateFile :=
  (final (call.op.run config identity) ⟨file, call.transport⟩).stateFile

def fileAfterCalls (file : Option StateFile) (calls : List (DaemonCall ρ)) : Option StateFile :=
  calls.foldl (DaemonCall.fileAfter config identity) file

/-- The call finds a file, or it creates one that is bound to the identity. -/
def DaemonCall.Binds (file : Option StateFile) (call : DaemonCall ρ) : Prop :=
  call.op.entersByEnsureState → file.isSome ∨ fixtureIdentity.peerId = identity.peerId

theorem DaemonCall.fileBoundTo_iff (file : Option StateFile) (call : DaemonCall ρ)
    (hbound : FileBoundTo identity.peerId file) :
    FileBoundTo identity.peerId (call.fileAfter config identity file) ↔ call.Binds identity file :=
  call.op.run_fileBoundTo_iff config identity ⟨file, call.transport⟩ hbound

theorem identity_binding_iff (file : Option StateFile) (hbound : FileBoundTo identity.peerId file)
    (calls : List (DaemonCall ρ)) :
    (∀ done, done <+: calls →
      FileBoundTo identity.peerId (fileAfterCalls config identity file done)) ↔
      ∀ done call, done ++ [call] <+: calls →
        call.Binds identity (fileAfterCalls config identity file done) :=
  forall_prefix_foldl_iff (DaemonCall.fileBoundTo_iff config identity) hbound calls

end Runs

section Closed
attribute [local instance] Primitives.transparent

def nodeIdentity : IdentityKeypair := .fromSecretBytes (Vector.replicate 32 7)

def nodeFile : StateFile :=
  (selfIdentityDaemonState meshConfig.network meshConfig.roles nodeIdentity).saved

def idleCall (op : DaemonOp) : DaemonCall Unit := ⟨op, meshTransport [] []⟩

theorem reset_then_refresh_stays_bound :
    FileBoundTo nodeIdentity.peerId (fileAfterCalls meshConfig nodeIdentity (some nodeFile)
      [idleCall .resetNetworkState, idleCall .refreshAndPersistForLocalIdentity,
        idleCall .ensureState]) := by
  have hbound : FileBoundTo nodeIdentity.peerId (some nodeFile) := ⟨rfl, rfl⟩
  refine (identity_binding_iff meshConfig nodeIdentity _ hbound _).2 ?_ _ List.prefix_rfl
  rintro done call ⟨rest, hcalls⟩
  rcases done with _ | ⟨first, _ | ⟨second, _ | ⟨third, done⟩⟩⟩ <;>
    simp only [List.nil_append, List.cons_append, List.cons.injEq, List.append_assoc,
      List.append_eq_nil_iff, reduceCtorEq, and_false] at hcalls
  · obtain ⟨rfl, -⟩ := hcalls
    exact nofun
  · obtain ⟨-, rfl, -⟩ := hcalls
    exact nofun
  · obtain ⟨rfl, rfl, rfl, -⟩ := hcalls
    exact fun _ => .inl rfl

theorem reset_then_status_unbound :
    ∃ file, FileBoundTo nodeIdentity.peerId (some file) ∧
      ¬ FileBoundTo nodeIdentity.peerId (fileAfterCalls meshConfig nodeIdentity (some file)
        [idleCall .resetNetworkState, idleCall .ensureState]) := by
  refine ⟨nodeFile, ⟨rfl, rfl⟩, ?_⟩
  intro hbound
  have hpeer : fixtureIdentity.peerId = nodeIdentity.peerId := hbound.localPeer
  exact absurd hpeer (by decide)

end Closed

end QuipNet.Fabric
