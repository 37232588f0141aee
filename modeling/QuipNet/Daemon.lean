import QuipNet.ControlPlane

/-!
# The daemon's state at start and between cycles

`initialize_state` seeds the state from an authority snapshot or origin, or syncs it
under `--sync`; `refresh_state` syncs it again or rewrites it. What the snapshot
file and the authority's endpoints answer is given by the surroundings.
-/

open Std
namespace QuipNet.Daemon
open QuipNet.Control QuipNet.Fabric QuipNet.Library.Effect

variable {ρ : Type}

structure Args where
  authoritySnapshot : Option String := none
  authorityOrigin : Option String := none
  authoritySubject : Option String := none
  sync : Bool := false
  revocationSync : Bool := false
  disableReconcile : Bool := false
  connectProtocol : Option String := none
  connectPeer : Option String := none
  connectClass : String := "interactive"
deriving DecidableEq, Repr

structure Surroundings where
  loadAuthoritySnapshot : String → Except DaemonStateError AuthorityArtifactSnapshot
  originAt : String → AuthorityOrigin

section Hashing
variable [Primitives] (surroundings : Surroundings) (config : DaemonConfig)
  (localIdentity : IdentityKeypair) (args : Args)

/-- The first half of `initialize_state`. -/
def seedOrSync : ControlM ρ DaemonState :=
  match args.authoritySnapshot, args.authorityOrigin with
  | some path, none =>
    if args.sync then
      Prod.fst <$> LocalControlPlane.syncAuthoritySnapshot config
        (surroundings.loadAuthoritySnapshot path)
    else
      LocalControlPlane.seedFromAuthoritySnapshot config (surroundings.loadAuthoritySnapshot path)
  | none, some origin =>
    if args.sync then
      Prod.fst <$> LocalControlPlane.syncAuthorityOrigin config (surroundings.originAt origin)
        args.authoritySubject
    else
      LocalControlPlane.seedFromAuthorityOrigin config (surroundings.originAt origin)
        args.authoritySubject
  | none, none => LocalControlPlane.refreshAndPersistForLocalIdentity config localIdentity
  | some _, some _ => throw (.invalidSession
      "only one of --authority-snapshot or --authority-origin may be supplied")

def syncRevocations (state : DaemonState) : ControlM ρ DaemonState :=
  if args.revocationSync then
    match args.authorityOrigin with
    | some origin =>
      Prod.fst <$> LocalControlPlane.syncAuthorityRevocationsOrigin config
        (surroundings.originAt origin)
    | none => pure state
  else pure state

def initializeState : ControlM ρ DaemonState := do
  syncRevocations surroundings config args (← seedOrSync surroundings config localIdentity args)

def syncOrRefresh : ControlM ρ DaemonState :=
  match args.sync, args.authoritySnapshot, args.authorityOrigin with
  | true, some path, none =>
    Prod.fst <$> LocalControlPlane.syncAuthoritySnapshot config
      (surroundings.loadAuthoritySnapshot path)
  | true, none, some origin =>
    Prod.fst <$> LocalControlPlane.syncAuthorityOrigin config (surroundings.originAt origin)
      args.authoritySubject
  | _, _, _ => LocalControlPlane.refreshAndPersistForLocalIdentity config localIdentity

def refreshState : ControlM ρ DaemonState := do
  syncRevocations surroundings config args (← syncOrRefresh surroundings config localIdentity args)

end Hashing

end QuipNet.Daemon
