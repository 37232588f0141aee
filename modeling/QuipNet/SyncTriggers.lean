import QuipNet.Coherence
import QuipNet.RevocationLaws

/-!
# What a sync reports

The daemon reevaluates its sessions after a sync when the report of the sync counts a
change. The report compares the incoming artifacts with the held ones by identity, while
the state that the sync leaves is derived from the incoming artifacts anew.
-/

open Std
namespace QuipNet.Daemon
open QuipNet.Fabric

def stateSyncRequiresReevaluation (report : StateSyncReport) : Bool :=
  report.membershipChanged || 0 < report.grantsAdded || 0 < report.grantsRemoved ||
    0 < report.revocationsAdded || 0 < report.bootstrapHintsAdded ||
    0 < report.bootstrapHintsRemoved || 0 < report.relayAnnouncementsAdded

end QuipNet.Daemon

namespace QuipNet.Fabric
open QuipNet.Control QuipNet.Daemon QuipNet.Library QuipNet.Policy

def Covers {α : Type} (same : α → α → Bool) (held incoming : List α) : Prop :=
  (∀ item ∈ incoming, ∃ existing ∈ held, same existing item = true) ∧
    ∀ existing ∈ held, ∃ item ∈ incoming, same existing item = true

theorem covers_iff {α : Type} (same : α → α → Bool) (held incoming : List α) :
    Covers same held incoming ↔
      (incoming.filter fun item => !held.any fun existing => same existing item).length = 0 ∧
        (held.filter fun existing => !incoming.any fun item => same existing item).length = 0 := by
  simp [Covers]

/-! ## The report of a sync -/

section Report
variable [Primitives] {state after : DaemonState} {client : ControlClient}
  {incoming : AuthorityArtifactSnapshot} {report : StateSyncReport}

/-- A sync is not flagged when it kept the membership, added no revocation, and the grants
and hints that came in are, by identity, the held ones. -/
theorem sync_ok (h : state.syncAuthoritySnapshot client incoming = .ok (after, report)) :
    ∃ membership merged, after = state.withArtifacts membership merged ∧
      mergeMembership (some state.membership) incoming.membership = .ok (some membership) ∧
      merged.capabilityGrants = incoming.capabilityGrants ∧
      merged.bootstrapHints = incoming.bootstrapHints ∧
      merged.revocations = (mergeNew sameRevocation state.revocations incoming.revocations).1 ∧
      ControlClient.grantConflict state.capabilityGrants incoming.capabilityGrants = false ∧
      (stateSyncRequiresReevaluation report = false ↔
        membership = state.membership ∧
          Covers sameGrant state.capabilityGrants incoming.capabilityGrants ∧
          (mergeNew sameRevocation state.revocations incoming.revocations).2 = 0 ∧
          Covers sameHint (state.bootstrap.map bootstrapHintFromEndpoint) incoming.bootstrapHints) := by
  unfold DaemonState.syncAuthoritySnapshot at h
  cases hmerge : client.mergeSnapshot (some state.authoritySnapshot) incoming with
  | error error => simp [hmerge] at h
  | ok result =>
    obtain ⟨merged, delta⟩ := result
    obtain ⟨hconflict, hhints, hdelta, -, hkept, hgrants, hrevocations⟩ :=
      ControlClient.mergeSnapshot_held hmerge
    cases hmembership : merged.membership with
    | none => simp [hmerge, hmembership] at h
    | some membership =>
      simp only [hmerge, hmembership, Except.ok.injEq, Prod.mk.injEq] at h
      obtain ⟨rfl, rfl⟩ := h
      rw [hmembership] at hkept
      refine ⟨membership, merged, rfl, hkept, hgrants, hhints, hrevocations, hconflict, ?_⟩
      rw [covers_iff, covers_iff, hdelta]
      simp only [stateSyncRequiresReevaluation, ControlClient.heldDelta, hmembership,
        DaemonState.authoritySnapshot, Bool.or_eq_false_iff, decide_eq_false_iff_not, Nat.not_lt,
        Nat.le_zero, ne_eq, Option.some.injEq, not_not, and_assoc, and_true]

end Report

/-! ## Policy -/

section Policy
variable {state after : DaemonState}

theorem sameGrant_iff {a b : CapabilityGrant} : sameGrant a b = true ↔
    a.networkId = b.networkId ∧ a.issuerPeerId = b.issuerPeerId ∧
      a.subjectPeerId = b.subjectPeerId ∧ a.sequence = b.sequence := by
  simp [sameGrant, and_assoc]

theorem mem_held_of_covers {held incoming : List CapabilityGrant}
    (hconflict : ControlClient.grantConflict held incoming = false) {grant existing : CapabilityGrant}
    (hgrant : grant ∈ incoming) (hexisting : existing ∈ held)
    (hsame : sameGrant existing grant = true) : grant ∈ held := by
  cases hfind : held.find? fun existing => sameGrant existing grant with
  | none => exact absurd hsame (List.find?_eq_none.1 hfind existing hexisting)
  | some found =>
    have hnone := List.any_eq_false.1 hconflict grant hgrant
    simp only [hfind, Option.any_some, decide_eq_true_eq, ne_eq, not_not] at hnone
    rw [← hnone]
    exact List.mem_of_find?_eq_some hfind

theorem mem_grants_iff {held incoming : List CapabilityGrant}
    (hkeys : held.Pairwise fun a b => sameGrant a b = false)
    (hconflict : ControlClient.grantConflict held incoming = false)
    (hcovers : Covers sameGrant held incoming) (grant : CapabilityGrant) :
    grant ∈ incoming ↔ grant ∈ held := by
  constructor
  · intro hgrant
    obtain ⟨existing, hexisting, hsame⟩ := hcovers.1 grant hgrant
    exact mem_held_of_covers hconflict hgrant hexisting hsame
  · intro hgrant
    obtain ⟨item, hitem, hsame⟩ := hcovers.2 grant hgrant
    have hheld := mem_held_of_covers hconflict hitem hgrant hsame
    have hsymm : Std.Symm fun a b : CapabilityGrant => sameGrant a b = false := by
      refine ⟨fun a b hfalse => ?_⟩
      rw [← Bool.not_eq_true, sameGrant_iff] at hfalse ⊢
      rintro ⟨hnetwork, hissuer, hsubject, hsequence⟩
      exact hfalse ⟨hnetwork.symm, hissuer.symm, hsubject.symm, hsequence.symm⟩
    have hdistinct := hkeys.forall hgrant hheld
    rw [hsame] at hdistinct
    have heq : grant = item := by
      by_contra hne
      cases hdistinct hne
    rw [heq]
    exact hitem

theorem hasCapability_congr {a b : List CapabilityGrant} (h : ∀ grant, grant ∈ a ↔ grant ∈ b)
    (capability : String) (protocol : ProtocolId) :
    hasCapability capability protocol a = hasCapability capability protocol b := by
  rw [Bool.eq_iff_iff, hasCapability, hasCapability, List.any_eq_true, List.any_eq_true]
  simp only [h]

/-- The policy decision for a pair or the deny status of a peer is another one. -/
def PolicyChanged [Primitives] (before after : DaemonState) : Prop :=
  (∃ peer protocol, (after.explainPolicy peer protocol).allowed ≠
      (before.explainPolicy peer protocol).allowed) ∨
    ∃ peer, after.denyReason peer ≠ before.denyReason peer

theorem not_policyChanged [Primitives] (hlocal : after.localPeerId = state.localPeerId)
    (hdenied : after.deniedPeers = state.deniedPeers)
    (hrevocations : after.revocations = state.revocations)
    (hgrants : ∀ grant, grant ∈ after.capabilityGrants ↔ grant ∈ state.capabilityGrants) :
    ¬ PolicyChanged state after := by
  have hreason : ∀ peer, after.denyReason peer = state.denyReason peer := by
    intro peer
    rw [DaemonState.denyReason, DaemonState.denyReason, hdenied]
  have hactive : ∀ grant, grant ∈ after.grantsForPeer after.localPeerId ↔
      grant ∈ state.grantsForPeer state.localPeerId := by
    intro grant
    rw [DaemonState.mem_grantsForPeer, DaemonState.mem_grantsForPeer, hgrants, hlocal, hrevocations]
  rintro (⟨peer, protocol, hchanged⟩ | ⟨peer, hchanged⟩)
  · apply hchanged
    rw [Bool.eq_iff_iff, DaemonState.explainPolicy_allowed_iff,
      DaemonState.explainPolicy_allowed_iff, hreason, hasCapability_congr hactive]
  · exact hchanged (hreason peer)

/-- A sync that changes a policy decision is flagged, where the local peer and the deny
list are those of the held membership and revocations. -/
theorem policy_change_requires_reevaluation [Primitives] {client : ControlClient}
    {incoming : AuthorityArtifactSnapshot} {report : StateSyncReport}
    (hkeys : state.capabilityGrants.Pairwise fun a b => sameGrant a b = false)
    (hlocal : state.localPeerId = state.membership.subjectPeerId) (hdenied : state.DenyListCurrent)
    (h : state.syncAuthoritySnapshot client incoming = .ok (after, report))
    (hchanged : PolicyChanged state after) : stateSyncRequiresReevaluation report = true := by
  by_contra hflag
  obtain ⟨membership, merged, rfl, -, hgrants, -, hrevocations, hconflict, hunflagged⟩ := sync_ok h
  obtain ⟨rfl, hcovers, hcount, -⟩ := hunflagged.1 (Bool.eq_false_iff.2 hflag)
  rw [mergeNew_of_count_eq_zero sameRevocation hcount] at hrevocations
  refine not_policyChanged hlocal.symm ?_ hrevocations ?_ hchanged
  · change deniedPeers state.membership merged.revocations = _
    rw [hrevocations]
    exact hdenied.symm
  · intro grant
    change grant ∈ merged.capabilityGrants ↔ _
    rw [hgrants]
    exact mem_grants_iff hkeys hconflict hcovers grant

end Policy

section Closed
attribute [local instance] Primitives.transparent

def undeniedState : DaemonState :=
  { fixtureDaemonState "mesh" with revocations := [peerRevocation fixtureWorkerPeer] }

theorem stale_fields_change_policy_unseen :
    (misnamedState.capabilityGrants.Pairwise (fun a b => sameGrant a b = false) ∧
      ∃ after report, syncOwn misnamedState = .ok (after, report) ∧
        stateSyncRequiresReevaluation report = false ∧
        (misnamedState.explainPolicy fixtureRelayPeer ⟨"/quip/control/1"⟩).allowed = false ∧
        (after.explainPolicy fixtureRelayPeer ⟨"/quip/control/1"⟩).allowed = true) ∧
      undeniedState.capabilityGrants.Pairwise (fun a b => sameGrant a b = false) ∧
      ∃ after report, syncOwn undeniedState = .ok (after, report) ∧
        stateSyncRequiresReevaluation report = false ∧
        undeniedState.denyReason fixtureWorkerPeer = none ∧
        after.denyReason fixtureWorkerPeer ≠ none := by
  have hmisnamed : ((syncOwn misnamedState).toOption.any fun synced =>
      decide (stateSyncRequiresReevaluation synced.2 = false ∧
        (misnamedState.explainPolicy fixtureRelayPeer ⟨"/quip/control/1"⟩).allowed = false ∧
        (synced.1.explainPolicy fixtureRelayPeer ⟨"/quip/control/1"⟩).allowed = true)) = true := by
    decide +kernel
  have hundenied : ((syncOwn undeniedState).toOption.any fun synced =>
      decide (stateSyncRequiresReevaluation synced.2 = false ∧
        undeniedState.denyReason fixtureWorkerPeer = none ∧
        synced.1.denyReason fixtureWorkerPeer ≠ none)) = true := by
    decide +kernel
  obtain ⟨after, report, hsync, hafter⟩ := exists_of_synced hmisnamed
  obtain ⟨after', report', hsync', hafter'⟩ := exists_of_synced hundenied
  refine ⟨⟨List.pairwise_singleton _ _, after, report, hsync, of_decide_eq_true hafter⟩, ?_⟩
  exact ⟨.nil, after', report', hsync', of_decide_eq_true hafter'⟩

theorem withdrawn_grant_requires_reevaluation : ∃ after report,
    LocalControlPlane.grantedFixture.syncAuthoritySnapshot ⟨NetworkId.derive "mesh"⟩
        { LocalControlPlane.grantedFixture.authoritySnapshot with capabilityGrants := [] } =
      .ok (after, report) ∧ stateSyncRequiresReevaluation report = true := by
  have hrun : ((LocalControlPlane.grantedFixture.syncAuthoritySnapshot ⟨NetworkId.derive "mesh"⟩
      { LocalControlPlane.grantedFixture.authoritySnapshot with
        capabilityGrants := [] }).toOption.any fun synced =>
      decide ((synced.1.explainPolicy fixtureRelayPeer ⟨"/quip/control/1"⟩).allowed ≠
        (LocalControlPlane.grantedFixture.explainPolicy fixtureRelayPeer
          ⟨"/quip/control/1"⟩).allowed)) = true := by
    decide +kernel
  obtain ⟨after, report, hsync, hchanged⟩ := exists_of_synced hrun
  have hdenied : LocalControlPlane.grantedFixture.DenyListCurrent := rfl
  refine ⟨after, report, hsync, ?_⟩
  exact policy_change_requires_reevaluation (List.pairwise_singleton _ _) rfl hdenied hsync
    (.inl ⟨_, _, of_decide_eq_true hchanged⟩)

end Closed

end QuipNet.Fabric
