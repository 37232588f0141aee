import QuipNet.AuthorityFacts

/-!
# Artifacts of other networks

A snapshot is accepted for its own network id; the network ids that its membership,
its grants and its revocations carry are not looked at, and revocations that are
fetched alone have no envelope at all. A state therefore has artifacts of its own
network only for as long as the data that was taken in has.
-/

namespace QuipNet.Fabric
open QuipNet.Control QuipNet.Library

namespace DaemonState

structure Isolated (network : NetworkId) (state : DaemonState) : Prop where
  membership : state.membership.networkId = network
  grants : ∀ grant ∈ state.capabilityGrants, grant.networkId = network
  revocations : ∀ revocation ∈ state.revocations, revocation.networkId = network

/-- Every incoming revocation that is not known, from the state or from the same batch, is
of the network. -/
def NewRevocationsOwn (network : NetworkId) (held incoming : List RevocationRecord) : Prop :=
  ∀ earlier revocation later, incoming = earlier ++ revocation :: later →
    revocation.networkId = network ∨
      ∃ existing ∈ held ++ earlier, sameRevocation existing revocation = true

def SnapshotOwn (network : NetworkId) (held : List RevocationRecord)
    (snapshot : AuthorityArtifactSnapshot) : Prop :=
  (∀ membership, snapshot.membership = some membership → membership.networkId = network) ∧
    (∀ grant ∈ snapshot.capabilityGrants, grant.networkId = network) ∧
    NewRevocationsOwn network held snapshot.revocations

theorem sameRevocation_trans (first second third : RevocationRecord)
    (h₁ : sameRevocation first second = true) (h₂ : sameRevocation second third = true) :
    sameRevocation first third = true := by
  simp only [sameRevocation, Bool.and_eq_true, decide_eq_true_eq] at h₁ h₂ ⊢
  obtain ⟨⟨hsequence₁, hissuer₁⟩, htarget₁⟩ := h₁
  obtain ⟨⟨hsequence₂, hissuer₂⟩, htarget₂⟩ := h₂
  exact ⟨⟨hsequence₁.trans hsequence₂, hissuer₁.trans hissuer₂⟩, htarget₁.trans htarget₂⟩

theorem newRevocationsOwn_iff {network : NetworkId} {held : List RevocationRecord}
    (hheld : ∀ revocation ∈ held, revocation.networkId = network)
    (incoming : List RevocationRecord) :
    (∀ revocation ∈ (mergeNew sameRevocation held incoming).1, revocation.networkId = network) ↔
      NewRevocationsOwn network held incoming :=
  forall_mergeNew_iff sameRevocation sameRevocation_trans hheld incoming

theorem applyRevocations_isolated_iff {network : NetworkId} {state : DaemonState}
    (h : state.Isolated network) (incoming : List RevocationRecord) :
    (state.applyRevocations incoming).1.Isolated network ↔
      NewRevocationsOwn network state.revocations incoming := by
  constructor
  · intro hafter
    exact (newRevocationsOwn_iff h.revocations incoming).mp hafter.revocations
  · intro hown
    exact { h with revocations := (newRevocationsOwn_iff h.revocations incoming).mpr hown }

section Runs
variable [Primitives]

theorem syncAuthoritySnapshot_isolated_iff {network : NetworkId} {state after : DaemonState}
    (h : state.Isolated network) {client : ControlClient} {incoming : AuthorityArtifactSnapshot}
    {report : StateSyncReport}
    (hsync : state.syncAuthoritySnapshot client incoming = .ok (after, report)) :
    after.Isolated network ↔ SnapshotOwn network state.revocations incoming := by
  obtain ⟨membership, merged, delta, hmerge, hmembership, rfl⟩ := syncAuthoritySnapshot_ok hsync
  obtain ⟨-, hmergeMembership, hgrants, hrevocations⟩ := ControlClient.mergeSnapshot_some hmerge
  have hmembers := mergeMembership_eq hmergeMembership
  rw [hmembership] at hmembers
  have hown : membership.networkId = network ↔
      ∀ other, incoming.membership = some other → other.networkId = network := by
    cases hincoming : incoming.membership with
    | none =>
      rw [hincoming] at hmembers
      cases hmembers
      simpa using h.membership
    | some other =>
      rw [hincoming] at hmembers
      cases hmembers
      simp
  have hnew := newRevocationsOwn_iff h.revocations incoming.revocations
  have hlog : merged.revocations =
      (mergeNew sameRevocation state.revocations incoming.revocations).1 := hrevocations
  rw [← hlog] at hnew
  constructor
  · rintro ⟨hafterMembership, hafterGrants, hafterRevocations⟩
    refine ⟨hown.mp hafterMembership, ?_, hnew.mp ?_⟩
    · rw [← hgrants]
      exact hafterGrants
    · exact hafterRevocations
  · rintro ⟨hincomingMembership, hincomingGrants, hincomingRevocations⟩
    refine ⟨hown.mpr hincomingMembership, ?_, ?_⟩
    · change ∀ grant ∈ merged.capabilityGrants, grant.networkId = network
      rw [hgrants]
      exact hincomingGrants
    · exact hnew.mpr hincomingRevocations

theorem fromAuthoritySnapshot_isolated_iff {network : String} {roles : List DaemonRole}
    {snapshot : AuthorityArtifactSnapshot} {state : DaemonState}
    (h : fromAuthoritySnapshot network roles snapshot = .ok state) (id : NetworkId) :
    state.Isolated id ↔
      (∀ membership, snapshot.membership = some membership → membership.networkId = id) ∧
        (∀ grant ∈ snapshot.capabilityGrants, grant.networkId = id) ∧
        ∀ revocation ∈ snapshot.revocations, revocation.networkId = id := by
  obtain ⟨membership, hmembership, rfl⟩ := fromAuthoritySnapshot_ok h
  constructor
  · rintro ⟨hmember, hgrants, hrevocations⟩
    refine ⟨?_, hgrants, hrevocations⟩
    intro other hother
    obtain rfl := Option.some.inj (hmembership.symm.trans hother)
    exact hmember
  · rintro ⟨hmember, hgrants, hrevocations⟩
    exact ⟨hmember membership hmembership, hgrants, hrevocations⟩

/-! ## Runs -/

/-- What a daemon takes in after its state was made. -/
inductive AuthorityUpdate
  | sync (client : ControlClient) (incoming : AuthorityArtifactSnapshot)
  | revoke (incoming : List RevocationRecord)

def AuthorityUpdate.apply (state : DaemonState) : AuthorityUpdate → Except DaemonStateError DaemonState
  | .sync client incoming => (state.syncAuthoritySnapshot client incoming).map Prod.fst
  | .revoke incoming => .ok (state.applyRevocations incoming).1

def AuthorityUpdate.Own (network : NetworkId) (state : DaemonState) : AuthorityUpdate → Prop
  | .sync _ incoming => SnapshotOwn network state.revocations incoming
  | .revoke incoming => NewRevocationsOwn network state.revocations incoming

def Throughout (P : DaemonState → Prop) : DaemonState → List AuthorityUpdate → Prop
  | state, [] => P state
  | state, update :: rest => P state ∧ ∀ after, update.apply state = .ok after →
      Throughout P after rest

/-- Every update that is taken in is of the network. -/
def AllOwn (network : NetworkId) : DaemonState → List AuthorityUpdate → Prop
  | _, [] => True
  | state, update :: rest => ∀ after, update.apply state = .ok after →
      update.Own network state ∧ AllOwn network after rest

theorem AuthorityUpdate.apply_isolated_iff {network : NetworkId} {state after : DaemonState}
    (h : state.Isolated network) {update : AuthorityUpdate} (happly : update.apply state = .ok after) :
    after.Isolated network ↔ update.Own network state := by
  cases update with
  | sync client incoming =>
    cases hsync : state.syncAuthoritySnapshot client incoming with
    | error error => simp [AuthorityUpdate.apply, hsync, Except.map] at happly
    | ok result =>
      obtain ⟨synced, report⟩ := result
      simp only [AuthorityUpdate.apply, hsync, Except.map, Except.ok.injEq] at happly
      subst happly
      exact syncAuthoritySnapshot_isolated_iff h hsync
  | revoke incoming =>
    cases happly
    exact applyRevocations_isolated_iff h incoming

theorem Throughout.head {P : DaemonState → Prop} {state : DaemonState}
    {updates : List AuthorityUpdate} (h : Throughout P state updates) : P state := by
  cases updates with
  | nil => exact h
  | cons update rest => exact h.1

theorem throughout_isolated_iff {network : NetworkId} {state : DaemonState}
    (h : state.Isolated network) (updates : List AuthorityUpdate) :
    Throughout (Isolated network) state updates ↔ AllOwn network state updates := by
  induction updates generalizing state with
  | nil => exact iff_of_true h trivial
  | cons update rest ih =>
    constructor
    · intro hall after happly
      have hafter := (hall.2 after happly).head
      exact ⟨(update.apply_isolated_iff h happly).mp hafter,
        (ih hafter).mp (hall.2 after happly)⟩
    · intro hown
      refine ⟨h, ?_⟩
      intro after happly
      obtain ⟨hupdate, hrest⟩ := hown after happly
      exact (ih ((update.apply_isolated_iff h happly).mpr hupdate)).mpr hrest

theorem network_isolation_iff {network : String} {roles : List DaemonRole}
    {snapshot : AuthorityArtifactSnapshot} {state : DaemonState}
    (hseed : fromAuthoritySnapshot network roles snapshot = .ok state)
    (updates : List AuthorityUpdate) :
    Throughout (Isolated (NetworkId.derive network)) state updates ↔
      ((∀ membership, snapshot.membership = some membership →
          membership.networkId = NetworkId.derive network) ∧
        (∀ grant ∈ snapshot.capabilityGrants, grant.networkId = NetworkId.derive network) ∧
        ∀ revocation ∈ snapshot.revocations, revocation.networkId = NetworkId.derive network) ∧
      AllOwn (NetworkId.derive network) state updates := by
  rw [← fromAuthoritySnapshot_isolated_iff hseed]
  constructor
  · intro hall
    exact ⟨hall.head, (throughout_isolated_iff hall.head updates).mp hall⟩
  · rintro ⟨hstate, hown⟩
    exact (throughout_isolated_iff hstate updates).mpr hown

end Runs

end DaemonState

section Closed
attribute [local instance] Primitives.transparent

def memberOf (network : String) : MembershipCertificate :=
  .issue fixtureAuthority (NetworkId.derive network) fixtureIdentity.peerId 1720000000 1820000000
    ["member"]

def grantOf (network : String) : CapabilityGrant :=
  .issue fixtureAuthority (NetworkId.derive network) fixtureIdentity.peerId ["records.publish"]
    [⟨"/quip/records/1"⟩] ⟨none, none, none⟩ [] 1720000000 1820000000 1

def snapshotWithGrantOf (network : String) : AuthorityArtifactSnapshot :=
  ⟨NetworkId.derive "mesh", none, some (memberOf "mesh"), [grantOf network], [], []⟩

theorem own_snapshot_isolated : ∃ state,
    DaemonState.fromAuthoritySnapshot "mesh" [.edge] (snapshotWithGrantOf "mesh") = .ok state ∧
      DaemonState.Throughout (DaemonState.Isolated (NetworkId.derive "mesh")) state
        [.revoke [peerRevocation fixtureWorkerPeer]] := by
  have hseed : DaemonState.fromAuthoritySnapshot "mesh" [.edge] (snapshotWithGrantOf "mesh") =
      .ok _ := if_neg (not_not.mpr rfl)
  refine ⟨_, hseed, (DaemonState.network_isolation_iff hseed _).mpr ⟨⟨?_, ?_, ?_⟩, ?_⟩⟩
  · rintro membership ⟨⟩
    rfl
  · simp [snapshotWithGrantOf, grantOf, CapabilityGrant.issue]
  · simp [snapshotWithGrantOf]
  · intro after happly
    refine ⟨?_, trivial⟩
    rintro earlier revocation later hsplit
    have hmem : revocation ∈ [peerRevocation fixtureWorkerPeer] := by simp [hsplit]
    rw [List.mem_singleton.mp hmem]
    exact .inl rfl

def foreignRevocation : RevocationRecord :=
  { peerRevocation fixtureWorkerPeer with networkId := NetworkId.derive "other" }

/-- A grant of another network is taken from a snapshot, and a revocation of another network
that is fetched denies the peer it names. -/
theorem foreign_artifacts_accepted : ∃ state,
    DaemonState.fromAuthoritySnapshot "mesh" [.edge] (snapshotWithGrantOf "other") = .ok state ∧
      (∃ grant ∈ state.capabilityGrants, grant.networkId ≠ NetworkId.derive "mesh") ∧
      (∃ revocation ∈ (state.applyRevocations [foreignRevocation]).1.revocations,
        revocation.networkId ≠ NetworkId.derive "mesh") ∧
      (state.applyRevocations [foreignRevocation]).1.Denies fixtureWorkerPeer := by
  have hseed : DaemonState.fromAuthoritySnapshot "mesh" [.edge] (snapshotWithGrantOf "other") =
      .ok _ := if_neg (not_not.mpr rfl)
  have hother : NetworkId.derive "other" ≠ NetworkId.derive "mesh" := by decide +kernel
  refine ⟨_, hseed, ?_, ?_, ?_⟩
  · exact ⟨grantOf "other", List.mem_singleton_self _, hother⟩
  · exact ⟨foreignRevocation, List.mem_singleton_self _, hother⟩
  · exact ⟨_, List.mem_singleton.mpr rfl, rfl⟩

end Closed

end QuipNet.Fabric
