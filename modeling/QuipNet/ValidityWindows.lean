import QuipNet.AuthorityEnforcement
import QuipNet.RevocationLaws

/-!
# Validity windows and the clock

A membership certificate, a capability grant and a revocation each carry the time from
or until which they hold, and their `verify` reads it. The policy decision reads no
clock: an expired membership or grant still allows, and a revocation denies before its
time. The decision respects the windows of a pair when the facts in force refuse it
anyway, or when everything the pair rests on is inside its window.
-/

namespace QuipNet.Fabric
open QuipNet.Policy

namespace DaemonState
variable {state : DaemonState} {peer : PeerId} {protocol : ProtocolId} {now : ℕ}

/-! ## What the windows ask of a decision -/

def revocationsInForce (state : DaemonState) (now : ℕ) : List RevocationRecord :=
  state.revocations.filter fun revocation => revocation.effectiveAt ≤ now

def pendingRevocations (state : DaemonState) (now : ℕ) : List RevocationRecord :=
  state.revocations.filter fun revocation => now < revocation.effectiveAt

/-- The entry of the deny list is that of a pending revocation, and of none in force. -/
def DeniedEarly (state : DaemonState) (now : ℕ) (entry : DeniedPeer) : Prop :=
  entry ∈ Fabric.deniedPeers state.membership (state.pendingRevocations now) ∧
    entry ∉ Fabric.deniedPeers state.membership (state.revocationsInForce now)

instance (now : ℕ) (entry : DeniedPeer) : Decidable (state.DeniedEarly now entry) :=
  inferInstanceAs (Decidable (_ ∧ _))

/-- The state without its pending revocations. A deny entry that none of them accounts for
stays, also one that was loaded and that no revocation accounts for. -/
def inForce (state : DaemonState) (now : ℕ) : DaemonState :=
  { state with
    revocations := state.revocationsInForce now
    deniedPeers := state.deniedPeers.filter fun entry => ¬ state.DeniedEarly now entry }

theorem DenyListCurrent.inForce_denies_iff (h : state.DenyListCurrent) :
    (state.inForce now).Denies peer ↔
      ∃ entry ∈ Fabric.deniedPeers state.membership (state.revocationsInForce now),
        entry.peer = peer := by
  have hentry : ∀ entry, entry ∈ (state.inForce now).deniedPeers ↔
      entry ∈ Fabric.deniedPeers state.membership (state.revocationsInForce now) := by
    intro entry
    have hlist : state.deniedPeers = Fabric.deniedPeers state.membership state.revocations := h
    simp only [inForce, hlist, List.mem_filter, DeniedEarly, decide_eq_true_eq, not_and, not_not]
    constructor
    · intro ⟨hheld, hearly⟩
      simp only [Fabric.deniedPeers, List.mem_filterMap, pendingRevocations, revocationsInForce,
        List.mem_filter, decide_eq_true_eq] at hheld hearly ⊢
      obtain ⟨revocation, hmem, hmade⟩ := hheld
      rcases Nat.lt_or_ge now revocation.effectiveAt with hpending | hforce
      · exact hearly ⟨revocation, ⟨hmem, hpending⟩, hmade⟩
      · exact ⟨revocation, ⟨hmem, hforce⟩, hmade⟩
    · intro hforce
      refine ⟨?_, fun _ => hforce⟩
      exact List.Sublist.subset (List.filter_sublist.filterMap _) hforce
  simp only [Denies, hentry]

structure CarriesAt (state : DaemonState) (protocol : ProtocolId) (now : ℕ)
    (grant : CapabilityGrant) : Prop where
  carries : state.Carries protocol grant
  unrevoked : ¬ state.GrantRevoked grant
  notBefore : grant.notBefore ≤ now
  expiresAt : now ≤ grant.expiresAt

/-- The decision on a pair respects the windows: it allows only inside them, and what is
not yet in force does not deny. -/
structure TimeValid [Primitives] (state : DaemonState) (peer : PeerId) (protocol : ProtocolId)
    (now : ℕ) : Prop where
  inside : (state.explainPolicy peer protocol).allowed = true →
    now ≤ state.membership.expiresAt ∧ ∃ grant, state.CarriesAt protocol now grant
  pending : ((state.inForce now).explainPolicy peer protocol).allowed = true →
    (state.explainPolicy peer protocol).allowed = true

/-! ## When the decision does -/

def Refuses (state : DaemonState) (peer : PeerId) (protocol : ProtocolId) : Prop :=
  state.Denies peer ∨ ∀ grant, state.Carries protocol grant → state.GrantRevoked grant

theorem not_allowed_iff_refuses [Primitives] :
    (state.explainPolicy peer protocol).allowed ≠ true ↔ state.Refuses peer protocol := by
  rw [ne_eq, allowed_iff_carries, Refuses, not_and_or, not_not]
  apply or_congr_right
  push Not
  rfl

/-- The decision reads no clock, so it respects the windows in two cases: the pair is
refused with and without the revocations still to come into force, or nothing denies the
peer, the membership has not expired and a grant is inside its window. -/
theorem timeValid_iff [Primitives] (state : DaemonState) (peer : PeerId) (protocol : ProtocolId)
    (now : ℕ) :
    state.TimeValid peer protocol now ↔
      (state.Refuses peer protocol ∧ (state.inForce now).Refuses peer protocol) ∨
        (¬ state.Denies peer ∧ now ≤ state.membership.expiresAt ∧
          ∃ grant, state.CarriesAt protocol now grant) := by
  by_cases hallowed : (state.explainPolicy peer protocol).allowed = true
  · have hadmits := (allowed_iff_carries peer protocol).1 hallowed
    constructor
    · intro h
      exact .inr ⟨hadmits.1, h.inside hallowed⟩
    · intro h
      rcases h with ⟨hrefuses, -⟩ | ⟨-, hinside⟩
      · exact absurd hallowed (not_allowed_iff_refuses.2 hrefuses)
      · exact ⟨fun _ => hinside, fun _ => hallowed⟩
  · constructor
    · intro h
      refine .inl ⟨not_allowed_iff_refuses.1 hallowed, not_allowed_iff_refuses.1 ?_⟩
      exact fun hforce => hallowed (h.pending hforce)
    · intro h
      rcases h with ⟨-, hrefuses⟩ | ⟨hdenies, -, grant, hgrant⟩
      · exact ⟨fun h => absurd h hallowed,
          fun h => absurd h (not_allowed_iff_refuses.2 hrefuses)⟩
      · have hadmitted := (allowed_iff_carries peer protocol).2
          ⟨hdenies, grant, hgrant.carries, hgrant.unrevoked⟩
        exact absurd hadmitted hallowed

end DaemonState

section Closed
attribute [local instance] Primitives.transparent

def fixtureGrant : CapabilityGrant :=
  ⟨NetworkId.derive "mesh", fixtureIdentity.peerId, fixtureAuthority.peerId, ["control.access"],
    [⟨"/quip/control/1"⟩], ⟨none, none, none⟩, [], 1720000000, 1820000000, 1, ⟨[]⟩⟩

theorem grantedFixture_carries :
    LocalControlPlane.grantedFixture.Carries ⟨"/quip/control/1"⟩ fixtureGrant :=
  ⟨List.mem_singleton.2 rfl, rfl, List.mem_singleton.2 rfl, List.mem_singleton.2 rfl⟩

theorem grantedFixture_unrevoked : ¬ LocalControlPlane.grantedFixture.GrantRevoked fixtureGrant :=
  List.not_mem_nil

theorem grantedFixture_denies_none (peer : PeerId) :
    ¬ LocalControlPlane.grantedFixture.Denies peer :=
  fun ⟨_, hentry, _⟩ => absurd hentry List.not_mem_nil

/-- Past the end of the membership and of the only grant, which `verify` refuses then, the
pair is still allowed; and a revocation that `verify` refuses until its time denies the
peer before. -/
theorem decision_ignores_windows :
    let expired := LocalControlPlane.grantedFixture
    let early := (expired.applyRevocations [peerRevocation fixtureWorkerPeer]).1
    (fixtureGrant.verify fixtureAuthority.publicKey (NetworkId.derive "mesh")
        fixtureIdentity.peerId 1820000001 = .error .expiredArtifact ∧
      (expired.explainPolicy fixtureWorkerPeer ⟨"/quip/control/1"⟩).allowed = true ∧
      ¬ expired.TimeValid fixtureWorkerPeer ⟨"/quip/control/1"⟩ 1820000001) ∧
    (peerRevocation fixtureWorkerPeer).verify fixtureAuthority.publicKey
        (NetworkId.derive "mesh") 1720000299 = .error .notYetValid ∧
      (early.explainPolicy fixtureWorkerPeer ⟨"/quip/control/1"⟩).allowed = false ∧
      ¬ early.TimeValid fixtureWorkerPeer ⟨"/quip/control/1"⟩ 1720000299 := by
  intro expired early
  have hexpired : (expired.explainPolicy fixtureWorkerPeer ⟨"/quip/control/1"⟩).allowed = true :=
    (DaemonState.allowed_iff_carries _ _).2 ⟨grantedFixture_denies_none _, fixtureGrant,
      grantedFixture_carries, grantedFixture_unrevoked⟩
  have hcurrent : early.DenyListCurrent := rfl
  have hearly : (early.explainPolicy fixtureWorkerPeer ⟨"/quip/control/1"⟩).allowed ≠ true := by
    rw [DaemonState.not_allowed_iff_refuses]
    exact .inl (hcurrent.denies (List.mem_singleton.2 rfl) rfl)
  have hnotYet : (peerRevocation fixtureWorkerPeer).verify fixtureAuthority.publicKey
      (NetworkId.derive "mesh") 1720000299 = .error .notYetValid := by
    simp [RevocationRecord.verify, peerRevocation]
  have hend : fixtureGrant.verify fixtureAuthority.publicKey (NetworkId.derive "mesh")
      fixtureIdentity.peerId 1820000001 = .error .expiredArtifact := by
    simp [CapabilityGrant.verify, fixtureGrant]
  refine ⟨⟨hend, hexpired, ?_⟩, hnotYet, Bool.eq_false_iff.2 hearly, ?_⟩
  · intro h
    exact absurd (h.inside hexpired).1 (by decide)
  · intro h
    refine hearly (h.pending ?_)
    have hnone : early.revocationsInForce 1720000299 = [] := by decide +kernel
    rw [DaemonState.allowed_iff_carries]
    have hcarries := grantedFixture_carries
    refine ⟨?_, fixtureGrant,
      ⟨hcarries.held, hcarries.subject, hcarries.capability, hcarries.scope⟩, ?_⟩
    · rw [hcurrent.inForce_denies_iff, hnone]
      exact fun ⟨_, hentry, _⟩ => absurd hentry List.not_mem_nil
    · change _ ∉ revokedTargets (early.revocationsInForce 1720000299)
      rw [hnone]
      exact List.not_mem_nil

end Closed

end QuipNet.Fabric
