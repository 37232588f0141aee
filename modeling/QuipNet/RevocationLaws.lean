import QuipNet.AuthorityEnforcement
import QuipNet.AuthorityFacts

/-!
# The laws of policy and revocation

A decision is one of the deny list and of the unrevoked grants of the local peer.
Both read only the targets of the revocations, so a list of revocations counts as
the set of its targets. Records with the key of a held one are dropped when they come
in, and their targets are held already: two batches make the same set in either order,
together, and through a snapshot merge.
-/

namespace QuipNet.Fabric
open QuipNet.Control QuipNet.Library QuipNet.Policy

/-! ## Targets -/

/-- All that policy reads of a list of revocations. -/
def revokedTargets (revocations : List RevocationRecord) : List RevocationTarget :=
  revocations.map RevocationRecord.target

theorem knownRevocation_target {existing revocation : RevocationRecord}
    (h : knownRevocation existing revocation = true) : existing.target = revocation.target := by
  simp only [knownRevocation, Bool.and_eq_true, decide_eq_true_eq] at h
  exact h.2

theorem knownRevocation_refl (revocation : RevocationRecord) :
    knownRevocation revocation revocation = true := by
  simp [knownRevocation]

theorem mem_revokedTargets_mergeNew (current incoming : List RevocationRecord)
    (target : RevocationTarget) :
    target ∈ revokedTargets (mergeNew knownRevocation current incoming).1 ↔
      target ∈ revokedTargets current ∨ target ∈ revokedTargets incoming :=
  mem_map_mergeNew knownRevocation (fun _ _ => knownRevocation_target) current incoming target

namespace DaemonState
variable {state : DaemonState}

theorem mem_deniedPeers_iff {membership : MembershipCertificate}
    {revocations : List RevocationRecord} {peer : PeerId} :
    (∃ entry ∈ Fabric.deniedPeers membership revocations, entry.peer = peer) ↔
      .peer peer ∈ revokedTargets revocations ∨
        peer = membership.subjectPeerId ∧
          .membershipCertificate peer membership.issuedAt ∈ revokedTargets revocations := by
  simp only [Fabric.deniedPeers, List.mem_filterMap, revokedTargets, List.mem_map]
  constructor
  · intro ⟨entry, ⟨revocation, hmem, hentry⟩, hpeer⟩
    cases htarget : revocation.target with
    | peer denied =>
      simp only [deniedPeer, htarget, Option.some.injEq] at hentry
      rw [← hpeer, ← hentry]
      exact .inl ⟨revocation, hmem, htarget⟩
    | membershipCertificate subject issuedAt =>
      simp only [deniedPeer, htarget, Option.ite_none_right_eq_some, Option.some.injEq] at hentry
      obtain ⟨⟨hsubject, hissued⟩, hentry⟩ := hentry
      rw [← hpeer, ← hentry]
      refine .inr ⟨hsubject, revocation, hmem, ?_⟩
      rw [htarget, hissued]
    | enrollmentToken tokenId => simp [deniedPeer, htarget] at hentry
    | capabilityGrant subject sequence => simp [deniedPeer, htarget] at hentry
  · intro h
    rcases h with ⟨revocation, hmem, htarget⟩ | ⟨hsubject, revocation, hmem, htarget⟩
    · exact ⟨_, ⟨revocation, hmem, by simp only [deniedPeer, htarget]; rfl⟩, rfl⟩
    · refine ⟨⟨peer, revokedText "membership" revocation⟩, ⟨revocation, hmem, ?_⟩, rfl⟩
      simp [deniedPeer, htarget, hsubject]

theorem DenyListCurrent.denies_iff (h : state.DenyListCurrent) (peer : PeerId) :
    state.Denies peer ↔ .peer peer ∈ revokedTargets state.revocations ∨
      peer = state.membership.subjectPeerId ∧
        .membershipCertificate peer state.membership.issuedAt ∈
          revokedTargets state.revocations := by
  rw [Denies, h]
  exact mem_deniedPeers_iff

theorem denyReason_isNone_iff (peer : PeerId) :
    state.denyReason peer = none ↔ ¬ state.Denies peer := by
  simp [denyReason, Denies]

structure Carries (state : DaemonState) (protocol : ProtocolId) (grant : CapabilityGrant) : Prop where
  held : grant ∈ state.capabilityGrants
  subject : grant.subjectPeerId = state.localPeerId
  capability : protocolCapability protocol ∈ grant.capabilities
  scope : protocol ∈ grant.protocolScopes

def GrantRevoked (state : DaemonState) (grant : CapabilityGrant) : Prop :=
  .capabilityGrant grant.subjectPeerId grant.sequence ∈ revokedTargets state.revocations

theorem hasCapability_iff (protocol : ProtocolId) :
    hasCapability (protocolCapability protocol) protocol
        (state.grantsForPeer state.localPeerId) = true ↔
      ∃ grant, state.Carries protocol grant ∧ ¬ state.GrantRevoked grant := by
  simp only [hasCapability, List.any_eq_true, Bool.and_eq_true, List.contains_iff_mem,
    mem_grantsForPeer]
  constructor
  · intro ⟨grant, ⟨hheld, hsubject, hunrevoked⟩, hcapability, hscope⟩
    refine ⟨grant, ⟨hheld, hsubject, hcapability, hscope⟩, ?_⟩
    intro hrevoked
    obtain ⟨revocation, hmem, htarget⟩ := List.mem_map.1 hrevoked
    exact hunrevoked revocation hmem htarget
  · intro ⟨grant, hcarries, hunrevoked⟩
    refine ⟨grant, ⟨hcarries.held, hcarries.subject, ?_⟩, hcarries.capability, hcarries.scope⟩
    intro revocation hmem htarget
    exact hunrevoked (List.mem_map.2 ⟨revocation, hmem, htarget⟩)

/-! ## Taking a batch -/

/-- The facts of `second` are those of `first` and the targets of a batch. -/
structure Took (first : DaemonState) (batch : List RevocationRecord) (second : DaemonState) :
    Prop where
  membership : second.membership = first.membership
  localPeer : second.localPeerId = first.localPeerId
  grants : second.capabilityGrants = first.capabilityGrants
  denyList : second.DenyListCurrent
  targets : ∀ target, target ∈ revokedTargets second.revocations ↔
    target ∈ revokedTargets first.revocations ∨ target ∈ revokedTargets batch

theorem applyRevocations_took (state : DaemonState) (batch : List RevocationRecord) :
    state.Took batch (state.applyRevocations batch).1 :=
  ⟨rfl, rfl, rfl, rfl, mem_revokedTargets_mergeNew state.revocations batch⟩

theorem Took.denies_of {after : DaemonState} {batch : List RevocationRecord}
    (h : state.Took batch after) (hcurrent : state.DenyListCurrent) {peer : PeerId}
    (hdenies : state.Denies peer) : after.Denies peer := by
  rw [h.denyList.denies_iff, h.membership, h.targets, h.targets]
  rw [hcurrent.denies_iff] at hdenies
  exact hdenies.imp .inl fun hmembership => ⟨hmembership.1, .inl hmembership.2⟩

theorem Took.carries_iff {after : DaemonState} {batch : List RevocationRecord}
    (h : state.Took batch after) (protocol : ProtocolId) (grant : CapabilityGrant) :
    after.Carries protocol grant ↔ state.Carries protocol grant := by
  constructor
  · intro hcarries
    exact ⟨h.grants ▸ hcarries.held, hcarries.subject.trans h.localPeer, hcarries.capability,
      hcarries.scope⟩
  · intro hcarries
    exact ⟨h.grants.symm ▸ hcarries.held, hcarries.subject.trans h.localPeer.symm,
      hcarries.capability, hcarries.scope⟩

theorem Took.trans {middle after : DaemonState} {first second : List RevocationRecord}
    (h : state.Took first middle) (h' : middle.Took second after) :
    state.Took (first ++ second) after := by
  refine ⟨h'.membership.trans h.membership, h'.localPeer.trans h.localPeer,
    h'.grants.trans h.grants, h'.denyList, ?_⟩
  intro target
  rw [h'.targets, h.targets, revokedTargets, revokedTargets, revokedTargets, revokedTargets,
    List.map_append, List.mem_append, or_assoc]

theorem applyRevocations_again (state : DaemonState) (batch : List RevocationRecord) :
    ((state.applyRevocations batch).1.applyRevocations batch).1 =
      (state.applyRevocations batch).1 := by
  have hagain := mergeNew_mergeNew knownRevocation knownRevocation_refl state.revocations batch
  unfold applyRevocations
  dsimp only
  rw [hagain]

section Decisions
variable [Primitives]

theorem allowed_iff_carries (peer : PeerId) (protocol : ProtocolId) :
    (state.explainPolicy peer protocol).allowed = true ↔
      ¬ state.Denies peer ∧ ∃ grant, state.Carries protocol grant ∧ ¬ state.GrantRevoked grant := by
  rw [explainPolicy_allowed_iff, denyReason_isNone_iff, hasCapability_iff]

theorem Denies.refuses {peer : PeerId} (h : state.Denies peer) (protocol : ProtocolId) :
    (state.explainPolicy peer protocol).allowed = false := by
  rw [← Bool.not_eq_true, allowed_iff_carries]
  exact fun hallowed => hallowed.1 h

def SameAnswers (first second : DaemonState) : Prop :=
  ∀ peer protocol, (first.explainPolicy peer protocol).allowed =
    (second.explainPolicy peer protocol).allowed

theorem syncAuthoritySnapshot_took {client : ControlClient} {incoming : AuthorityArtifactSnapshot}
    {after : DaemonState} {report : StateSyncReport}
    (hlocal : state.localPeerId = state.membership.subjectPeerId)
    (hmembership : ∀ membership ∈ incoming.membership, membership = state.membership)
    (hgrants : incoming.capabilityGrants = state.capabilityGrants)
    (h : state.syncAuthoritySnapshot client incoming = .ok (after, report)) :
    state.Took incoming.revocations after := by
  obtain ⟨membership, merged, delta, hmerge, hmerged, rfl⟩ := syncAuthoritySnapshot_ok h
  obtain ⟨-, hkept, hmergedGrants, hrevocations⟩ := ControlClient.mergeSnapshot_some hmerge
  have hsame : membership = state.membership := by
    have heq := mergeMembership_eq hkept
    rw [hmerged] at heq
    cases hincoming : incoming.membership with
    | none =>
      rw [hincoming] at heq
      exact Option.some.inj heq
    | some held =>
      rw [hincoming] at heq
      exact (Option.some.inj heq).trans (hmembership held hincoming)
  refine ⟨hsame, ?_, hmergedGrants.trans hgrants, rfl, ?_⟩
  · exact (congrArg MembershipCertificate.subjectPeerId hsame).trans hlocal.symm
  · change ∀ target, target ∈ revokedTargets merged.revocations ↔ _
    rw [hrevocations]
    exact mem_revokedTargets_mergeNew state.revocations incoming.revocations

theorem Took.allowed_of {after : DaemonState} {batch : List RevocationRecord}
    (h : state.Took batch after) (hcurrent : state.DenyListCurrent) {peer : PeerId}
    {protocol : ProtocolId} (hallowed : (after.explainPolicy peer protocol).allowed = true) :
    (state.explainPolicy peer protocol).allowed = true := by
  obtain ⟨hdenies, grant, hcarries, hunrevoked⟩ := (allowed_iff_carries peer protocol).1 hallowed
  refine (allowed_iff_carries peer protocol).2 ⟨fun hdenied => hdenies (h.denies_of hcurrent hdenied),
    grant, (h.carries_iff protocol grant).1 hcarries, ?_⟩
  intro hrevoked
  exact hunrevoked ((h.targets _).2 (.inl hrevoked))

theorem sameAnswers_of_targets {first second : DaemonState}
    (hmembership : first.membership = second.membership)
    (hlocal : first.localPeerId = second.localPeerId)
    (hgrants : first.capabilityGrants = second.capabilityGrants)
    (hfirst : first.DenyListCurrent) (hsecond : second.DenyListCurrent)
    (htargets : ∀ target, target ∈ revokedTargets first.revocations ↔
      target ∈ revokedTargets second.revocations) : SameAnswers first second := by
  intro peer protocol
  rw [Bool.eq_iff_iff, allowed_iff_carries, allowed_iff_carries, hfirst.denies_iff,
    hsecond.denies_iff, hmembership, htargets, htargets]
  have hcarries : ∀ grant, first.Carries protocol grant ∧ ¬ first.GrantRevoked grant ↔
      second.Carries protocol grant ∧ ¬ second.GrantRevoked grant := by
    intro grant
    rw [GrantRevoked, GrantRevoked, htargets]
    constructor
    · intro ⟨hcarries, hunrevoked⟩
      exact ⟨⟨hgrants ▸ hcarries.held, hcarries.subject.trans hlocal, hcarries.capability,
        hcarries.scope⟩, hunrevoked⟩
    · intro ⟨hcarries, hunrevoked⟩
      exact ⟨⟨hgrants.symm ▸ hcarries.held, hcarries.subject.trans hlocal.symm,
        hcarries.capability, hcarries.scope⟩, hunrevoked⟩
  simp only [hcarries]

theorem Took.sameAnswers {first second : DaemonState} {batch batch' : List RevocationRecord}
    (h : state.Took batch first) (h' : state.Took batch' second)
    (hbatch : ∀ target, target ∈ revokedTargets batch ↔ target ∈ revokedTargets batch') :
    SameAnswers first second := by
  refine sameAnswers_of_targets (h.membership.trans h'.membership.symm)
    (h.localPeer.trans h'.localPeer.symm) (h.grants.trans h'.grants.symm) h.denyList h'.denyList ?_
  intro target
  rw [h.targets, h'.targets, hbatch]

/-! ## The ways a batch comes in -/

inductive Takes (state : DaemonState) (batch : List RevocationRecord) : DaemonState → Prop
  | apply : Takes state batch (state.applyRevocations batch).1
  | merge {after : DaemonState} (client : ControlClient) (incoming : AuthorityArtifactSnapshot)
      (report : StateSyncReport)
      (hlocal : state.localPeerId = state.membership.subjectPeerId)
      (hmembership : ∀ membership ∈ incoming.membership, membership = state.membership)
      (hgrants : incoming.capabilityGrants = state.capabilityGrants)
      (hbatch : incoming.revocations = batch)
      (h : state.syncAuthoritySnapshot client incoming = .ok (after, report)) :
      Takes state batch after

theorem Takes.took {after : DaemonState} {batch : List RevocationRecord}
    (h : Takes state batch after) : state.Took batch after := by
  cases h with
  | apply => exact applyRevocations_took state batch
  | merge client incoming report hlocal hmembership hgrants hbatch h =>
    rw [← hbatch]
    exact syncAuthoritySnapshot_took hlocal hmembership hgrants h

/-- The characterization of `explain_policy`; no way of taking a batch allows what was
denied; two batches give the same answers in either order and together, whichever way each
comes in; and a batch that is applied again changes nothing. -/
theorem policy_and_revocation_laws (state : DaemonState) :
    (∀ peer protocol, (state.explainPolicy peer protocol).allowed = true ↔
      (∀ entry ∈ state.deniedPeers, entry.peer ≠ peer) ∧
        ∃ grant ∈ state.capabilityGrants, grant.subjectPeerId = state.localPeerId ∧
          (∀ revocation ∈ state.revocations,
            revocation.target ≠ .capabilityGrant grant.subjectPeerId grant.sequence) ∧
          protocolCapability protocol ∈ grant.capabilities ∧ protocol ∈ grant.protocolScopes) ∧
    (state.DenyListCurrent → ∀ batch after, Takes state batch after → ∀ peer protocol,
      (state.explainPolicy peer protocol).allowed = false →
        (after.explainPolicy peer protocol).allowed = false) ∧
    (∀ first second afterFirst afterBoth afterSecond afterSwapped afterTogether,
      Takes state first afterFirst → Takes afterFirst second afterBoth →
      Takes state second afterSecond → Takes afterSecond first afterSwapped →
      Takes state (first ++ second) afterTogether →
        SameAnswers afterBoth afterSwapped ∧ SameAnswers afterBoth afterTogether) ∧
    ∀ batch, ((state.applyRevocations batch).1.applyRevocations batch).1 =
      (state.applyRevocations batch).1 := by
  refine ⟨?_, ?_, ?_, applyRevocations_again state⟩
  · intro peer protocol
    rw [allowed_iff_carries]
    have hdenies : ¬ state.Denies peer ↔ ∀ entry ∈ state.deniedPeers, entry.peer ≠ peer := by
      simp [Denies]
    have hgrants : (∃ grant, state.Carries protocol grant ∧ ¬ state.GrantRevoked grant) ↔
        ∃ grant ∈ state.capabilityGrants, grant.subjectPeerId = state.localPeerId ∧
          (∀ revocation ∈ state.revocations,
            revocation.target ≠ .capabilityGrant grant.subjectPeerId grant.sequence) ∧
          protocolCapability protocol ∈ grant.capabilities ∧ protocol ∈ grant.protocolScopes := by
      rw [← hasCapability_iff]
      simp only [hasCapability, List.any_eq_true, Bool.and_eq_true, List.contains_iff_mem,
        mem_grantsForPeer, and_assoc]
    rw [hdenies, hgrants]
  · intro hcurrent batch after htakes peer protocol hdenied
    rw [← Bool.not_eq_true] at hdenied ⊢
    intro hallowed
    exact hdenied (htakes.took.allowed_of hcurrent hallowed)
  · intro first second afterFirst afterBoth afterSecond afterSwapped afterTogether
      h₁ h₂ h₃ h₄ h₅
    have hboth := h₁.took.trans h₂.took
    have hswapped := h₃.took.trans h₄.took
    refine ⟨hboth.sameAnswers hswapped ?_, hboth.sameAnswers h₅.took fun target => Iff.rfl⟩
    intro target
    rw [revokedTargets, revokedTargets, List.map_append, List.map_append, List.mem_append,
      List.mem_append, or_comm]

end Decisions

end DaemonState

section Closed
attribute [local instance] Primitives.transparent

def misnamedState : DaemonState :=
  { LocalControlPlane.grantedFixture with localPeerId := fixtureWorkerPeer }

def syncOwn (state : DaemonState) : Except DaemonStateError (DaemonState × StateSyncReport) :=
  state.syncAuthoritySnapshot ⟨NetworkId.derive "mesh"⟩ state.authoritySnapshot

theorem exists_of_synced {result : Except DaemonStateError (DaemonState × StateSyncReport)}
    {test : DaemonState × StateSyncReport → Bool} (h : result.toOption.any test = true) :
    ∃ after report, result = .ok (after, report) ∧ test (after, report) = true := by
  cases result with
  | error error => simp [Except.toOption] at h
  | ok synced => exact ⟨synced.1, synced.2, rfl, h⟩

/-- The deny list has the worker, and no revocation names it. -/
def staleDenial : DaemonState :=
  { LocalControlPlane.grantedFixture with
    deniedPeers := [⟨fixtureWorkerPeer, revokedText "peer" (peerRevocation fixtureWorkerPeer)⟩] }

/-- An empty batch forgets a denial that no revocation accounts for. Merged with the state's
own artifacts, it corrects the local peer as well, which applied it does not. -/
theorem stale_denial_forgotten :
    ((staleDenial.explainPolicy fixtureWorkerPeer ⟨"/quip/control/1"⟩).allowed = false ∧
      ((staleDenial.applyRevocations []).1.explainPolicy fixtureWorkerPeer
        ⟨"/quip/control/1"⟩).allowed = true) ∧
    misnamedState.authoritySnapshot.revocations = [] ∧
      ∃ after report, syncOwn misnamedState = .ok (after, report) ∧
        ((misnamedState.applyRevocations []).1.explainPolicy fixtureRelayPeer
          ⟨"/quip/control/1"⟩).allowed = false ∧
        (after.explainPolicy fixtureRelayPeer ⟨"/quip/control/1"⟩).allowed = true := by
  have hmisnamed : ((syncOwn misnamedState).toOption.any fun synced =>
      decide (((misnamedState.applyRevocations []).1.explainPolicy fixtureRelayPeer
          ⟨"/quip/control/1"⟩).allowed = false ∧
        (synced.1.explainPolicy fixtureRelayPeer ⟨"/quip/control/1"⟩).allowed = true)) = true := by
    decide +kernel
  obtain ⟨after, report, hsync, hafter⟩ := exists_of_synced hmisnamed
  refine ⟨⟨?_, ?_⟩, rfl, after, report, hsync, of_decide_eq_true hafter⟩
  · decide +kernel
  · decide +kernel

theorem revoked_worker_stays_denied :
    let denied := ((fixtureDaemonState "mesh").applyRevocations [peerRevocation fixtureWorkerPeer]).1
    let later := (denied.applyRevocations [peerRevocation fixtureRelayPeer]).1
    (denied.explainPolicy fixtureWorkerPeer ⟨"/quip/control/1"⟩).allowed = false ∧
      (later.explainPolicy fixtureWorkerPeer ⟨"/quip/control/1"⟩).allowed = false := by
  intro denied later
  have hdenied : (denied.explainPolicy fixtureWorkerPeer ⟨"/quip/control/1"⟩).allowed = false := by
    have hcurrent : denied.DenyListCurrent := rfl
    have hdenies : denied.Denies fixtureWorkerPeer :=
      hcurrent.denies (List.mem_singleton.2 rfl) rfl
    exact hdenies.refuses _
  exact ⟨hdenied, (DaemonState.policy_and_revocation_laws denied).2.1 rfl _ later .apply
    fixtureWorkerPeer ⟨"/quip/control/1"⟩ hdenied⟩

end Closed

end QuipNet.Fabric
