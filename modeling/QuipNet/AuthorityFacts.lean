import QuipNet.AuthorityState

/-!
# Authority facts only grow

Runs of snapshot syncs and revocation updates over one daemon state, with any
incoming data. A step extends the facts of the state: the membership keeps its
subject and does not get older, and the revocations are extended at the end. The
deny list is recomputed in every step, so it follows the revocations.
-/

namespace QuipNet.Fabric
open QuipNet.Control QuipNet.Library

namespace DaemonState

structure Extends (before after : DaemonState) : Prop where
  subject : after.membership.subjectPeerId = before.membership.subjectPeerId
  issuedAt : before.membership.issuedAt ≤ after.membership.issuedAt
  revocations : before.revocations <+: after.revocations

theorem Extends.refl (state : DaemonState) : state.Extends state :=
  ⟨rfl, le_rfl, List.prefix_rfl⟩

theorem Extends.trans {first second third : DaemonState} (h₁ : first.Extends second)
    (h₂ : second.Extends third) : first.Extends third :=
  ⟨h₂.subject.trans h₁.subject, h₁.issuedAt.trans h₂.issuedAt,
    h₁.revocations.trans h₂.revocations⟩

def DenyListCurrent (state : DaemonState) : Prop :=
  state.deniedPeers = Fabric.deniedPeers state.membership state.revocations

def Denies (state : DaemonState) (peer : PeerId) : Prop :=
  ∃ entry ∈ state.deniedPeers, entry.peer = peer

theorem DenyListCurrent.denies {state : DaemonState} (h : state.DenyListCurrent)
    {revocation : RevocationRecord} (hmem : revocation ∈ state.revocations) {peer : PeerId}
    (htarget : revocation.target = .peer peer) : state.Denies peer := by
  unfold Denies
  rw [h]
  exact mem_deniedPeers_of_peer hmem htarget

theorem applyRevocations_extends (state : DaemonState) (incoming : List RevocationRecord) :
    state.Extends (state.applyRevocations incoming).1 :=
  ⟨rfl, le_rfl, prefix_mergeNew knownRevocation state.revocations incoming⟩

theorem applyRevocations_denyListCurrent (state : DaemonState) (incoming : List RevocationRecord) :
    (state.applyRevocations incoming).1.DenyListCurrent := rfl

section Sync
variable [Primitives]

theorem syncAuthoritySnapshot_ok {state after : DaemonState} {client : ControlClient}
    {incoming : AuthorityArtifactSnapshot} {report : StateSyncReport}
    (h : state.syncAuthoritySnapshot client incoming = .ok (after, report)) :
    ∃ membership merged delta,
      client.mergeSnapshot (some state.authoritySnapshot) incoming = .ok (merged, delta) ∧
        merged.membership = some membership ∧ after = state.withArtifacts membership merged := by
  unfold syncAuthoritySnapshot at h
  cases hmerge : client.mergeSnapshot (some state.authoritySnapshot) incoming with
  | error error => simp [hmerge] at h
  | ok result =>
    obtain ⟨merged, delta⟩ := result
    cases hmembership : merged.membership with
    | none => simp [hmerge, hmembership] at h
    | some membership =>
      simp only [hmerge, hmembership, Except.ok.injEq, Prod.mk.injEq] at h
      exact ⟨membership, merged, delta, rfl, hmembership, h.1.symm⟩

theorem syncAuthoritySnapshot_extends {state after : DaemonState} {client : ControlClient}
    {incoming : AuthorityArtifactSnapshot} {report : StateSyncReport}
    (h : state.syncAuthoritySnapshot client incoming = .ok (after, report)) :
    state.Extends after := by
  obtain ⟨membership, merged, delta, hmerge, hmembership, rfl⟩ := syncAuthoritySnapshot_ok h
  obtain ⟨-, hmerged, -, hrevocations⟩ := ControlClient.mergeSnapshot_some hmerge
  obtain ⟨kept, hkept, hsubject, hissued⟩ := mergeMembership_some hmerged
  rw [hmembership] at hkept
  cases hkept
  refine ⟨hsubject, hissued, ?_⟩
  change state.revocations <+: merged.revocations
  rw [hrevocations]
  exact prefix_mergeNew sameRevocation state.revocations incoming.revocations

theorem syncAuthoritySnapshot_denyListCurrent {state after : DaemonState} {client : ControlClient}
    {incoming : AuthorityArtifactSnapshot} {report : StateSyncReport}
    (h : state.syncAuthoritySnapshot client incoming = .ok (after, report)) :
    after.DenyListCurrent := by
  obtain ⟨membership, merged, delta, -, -, rfl⟩ := syncAuthoritySnapshot_ok h
  rfl

theorem fromAuthoritySnapshot_ok {network : String} {roles : List DaemonRole}
    {snapshot : AuthorityArtifactSnapshot} {state : DaemonState}
    (h : fromAuthoritySnapshot network roles snapshot = .ok state) :
    ∃ membership, snapshot.membership = some membership ∧ state = DaemonState.withMergedCandidates
      { schemaVersion := daemonStateSchemaVersion
        network
        localPeerId := membership.subjectPeerId
        roles
        membership
        capabilityGrants := snapshot.capabilityGrants
        revocations := snapshot.revocations
        deniedPeers := Fabric.deniedPeers membership snapshot.revocations
        bootstrap := snapshot.bootstrapHints.map bootstrapEndpointFromHint
        relayMap := none
        peers := bootstrapPeers (snapshot.bootstrapHints.map bootstrapEndpointFromHint)
        netcheck := pendingNetcheck
        queuePolicies := Peers.defaultQueuePolicies
        activeSessions := []
        pathCandidates := [] } := by
  unfold fromAuthoritySnapshot at h
  split_ifs at h
  cases hmembership : snapshot.membership with
  | none => simp [hmembership] at h
  | some membership =>
    simp only [hmembership, Except.ok.injEq] at h
    exact ⟨membership, rfl, h.symm⟩

theorem fromAuthoritySnapshot_denyListCurrent {network : String} {roles : List DaemonRole}
    {snapshot : AuthorityArtifactSnapshot} {state : DaemonState}
    (h : fromAuthoritySnapshot network roles snapshot = .ok state) : state.DenyListCurrent := by
  obtain ⟨membership, -, rfl⟩ := fromAuthoritySnapshot_ok h
  rfl

inductive AuthorityStep : DaemonState → DaemonState → Prop
  | sync {state after : DaemonState} (client : ControlClient)
      (incoming : AuthorityArtifactSnapshot) (report : StateSyncReport)
      (h : state.syncAuthoritySnapshot client incoming = .ok (after, report)) :
      AuthorityStep state after
  | revoke (state : DaemonState) (incoming : List RevocationRecord) :
      AuthorityStep state (state.applyRevocations incoming).1

theorem AuthorityStep.extends {state after : DaemonState} (h : AuthorityStep state after) :
    state.Extends after := by
  cases h with
  | sync client incoming report h => exact syncAuthoritySnapshot_extends h
  | revoke incoming => exact applyRevocations_extends state incoming

theorem AuthorityStep.denyListCurrent {state after : DaemonState} (h : AuthorityStep state after) :
    after.DenyListCurrent := by
  cases h with
  | sync client incoming report h => exact syncAuthoritySnapshot_denyListCurrent h
  | revoke incoming => exact applyRevocations_denyListCurrent state incoming

theorem extends_of_run {start later : DaemonState}
    (hrun : Relation.ReflTransGen AuthorityStep start later) : start.Extends later := by
  induction hrun with
  | refl => exact Extends.refl start
  | tail _ hstep ih => exact ih.trans hstep.extends

theorem denyListCurrent_of_run {start later : DaemonState}
    (hrun : Relation.TransGen AuthorityStep start later) : later.DenyListCurrent := by
  cases hrun with
  | single hstep => exact hstep.denyListCurrent
  | tail _ hstep => exact hstep.denyListCurrent

/-- A peer that is denied under a held peer revocation stays denied: either no
step was taken, or the last one recomputed the list from at least as much. -/
theorem denies_of_run {start later : DaemonState}
    (hrun : Relation.ReflTransGen AuthorityStep start later) {peer : PeerId}
    {revocation : RevocationRecord} (hmem : revocation ∈ start.revocations)
    (htarget : revocation.target = .peer peer) (hdenied : start.Denies peer) :
    later.Denies peer := by
  rcases Relation.reflTransGen_iff_eq_or_transGen.1 hrun with rfl | hsteps
  · exact hdenied
  · have hlater := (extends_of_run hrun).revocations.subset hmem
    exact (denyListCurrent_of_run hsteps).denies hlater htarget

theorem not_mem_grantsForPeer_of_run {start later : DaemonState}
    (hrun : Relation.ReflTransGen AuthorityStep start later) {revocation : RevocationRecord}
    (hmem : revocation ∈ start.revocations) {subject : PeerId} {sequence : ℕ}
    (htarget : revocation.target = .capabilityGrant subject sequence) (peer : PeerId)
    {grant : CapabilityGrant} (hgrant : grant ∈ later.grantsForPeer peer) :
    ¬ (grant.subjectPeerId = subject ∧ grant.sequence = sequence) := by
  rintro ⟨rfl, rfl⟩
  have hlater := (extends_of_run hrun).revocations.subset hmem
  exact (mem_grantsForPeer.1 hgrant).2.2 revocation hlater htarget

theorem authority_facts_monotone (start later : DaemonState)
    (hrun : Relation.ReflTransGen AuthorityStep start later) :
    later.membership.subjectPeerId = start.membership.subjectPeerId ∧
      start.membership.issuedAt ≤ later.membership.issuedAt ∧
      start.revocations <+: later.revocations ∧
      (∀ revocation ∈ start.revocations, ∀ peer, revocation.target = .peer peer →
        start.Denies peer → later.Denies peer) ∧
      (Relation.TransGen AuthorityStep start later → ∀ revocation ∈ later.revocations, ∀ peer,
        revocation.target = .peer peer → later.Denies peer) ∧
      (∀ revocation ∈ start.revocations, ∀ subject sequence,
        revocation.target = .capabilityGrant subject sequence →
          ∀ peer, ∀ grant ∈ later.grantsForPeer peer,
            ¬ (grant.subjectPeerId = subject ∧ grant.sequence = sequence)) := by
  have hextends := extends_of_run hrun
  refine ⟨hextends.subject, hextends.issuedAt, hextends.revocations, ?_, ?_, ?_⟩
  · intro revocation hmem peer htarget hdenied
    exact denies_of_run hrun hmem htarget hdenied
  · intro hsteps revocation hmem peer htarget
    exact (denyListCurrent_of_run hsteps).denies hmem htarget
  · intro revocation hmem subject sequence htarget peer grant hgrant
    exact not_mem_grantsForPeer_of_run hrun hmem htarget peer hgrant

end Sync

end DaemonState

section Closed
attribute [local instance] Primitives.transparent

def peerRevocation (peer : PeerId) : RevocationRecord :=
  ⟨NetworkId.derive "mesh", fixtureAuthority.peerId, .peer peer, .keyCompromise, 1720000300,
    1720000300, 1, none, ⟨[]⟩⟩

def revokedFixture : DaemonState :=
  ((fixtureDaemonState "mesh").applyRevocations [peerRevocation fixtureWorkerPeer]).1

def emptySnapshot : AuthorityArtifactSnapshot :=
  ⟨NetworkId.derive "mesh", none, none, [], [], []⟩

theorem revokedFixture_stays_denied :
    ∃ later report,
      revokedFixture.syncAuthoritySnapshot ⟨NetworkId.derive "mesh"⟩ emptySnapshot =
        .ok (later, report) ∧ later.Denies fixtureWorkerPeer := by
  have hok : (revokedFixture.syncAuthoritySnapshot ⟨NetworkId.derive "mesh"⟩
      emptySnapshot).toOption.isSome = true := by
    decide +kernel
  cases hsync : revokedFixture.syncAuthoritySnapshot ⟨NetworkId.derive "mesh"⟩ emptySnapshot with
  | error error => simp [hsync, Except.toOption] at hok
  | ok result =>
    obtain ⟨later, report⟩ := result
    have hstep := DaemonState.AuthorityStep.sync _ _ report hsync
    have hfacts := DaemonState.authority_facts_monotone revokedFixture later (.single hstep)
    refine ⟨later, report, rfl, ?_⟩
    refine hfacts.2.2.2.1 (peerRevocation fixtureWorkerPeer) ?_ fixtureWorkerPeer rfl ?_
    · decide +kernel
    · exact ⟨_, List.mem_singleton.2 rfl, rfl⟩

end Closed

end QuipNet.Fabric
