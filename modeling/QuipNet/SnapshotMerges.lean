import QuipNet.Control
import QuipNet.Library.Replacement

/-!
# Repeated snapshot merges

A snapshot that was merged and is merged again changes nothing, and the counts of a merge are
exact. Grants that contradict each other are refused where the held snapshot knows the grant,
but not inside one snapshot: the first snapshot is taken as it is.
-/

namespace QuipNet.Control
open QuipNet.Library

/-- What `same_grant` compares. -/
def grantKey (grant : CapabilityGrant) : NetworkId × PeerId × PeerId × ℕ :=
  (grant.networkId, grant.issuerPeerId, grant.subjectPeerId, grant.sequence)

theorem sameGrant_iff {left right : CapabilityGrant} :
    sameGrant left right = true ↔ grantKey left = grantKey right := by
  simp [sameGrant, grantKey, and_assoc]

theorem sameGrant_eq (left right : CapabilityGrant) :
    sameGrant left right = decide (grantKey left = grantKey right) := by
  rw [Bool.eq_iff_iff, sameGrant_iff, decide_eq_true_eq]

theorem sameRevocation_self (revocation : RevocationRecord) :
    sameRevocation revocation revocation = true := by
  simp [sameRevocation]

theorem sameHint_self (hint : BootstrapHint) : sameHint hint hint = true := by
  unfold sameHint
  cases hint.peerId with
  | none => exact decide_eq_true rfl
  | some peer => exact decide_eq_true rfl

theorem filter_unmatched_self {α : Type} {same : α → α → Bool} (hsame : ∀ item, same item item = true)
    (items : List α) :
    (items.filter fun item => !items.any fun other => same item other) = [] ∧
      (items.filter fun item => !items.any fun other => same other item) = [] := by
  refine ⟨?_, ?_⟩
  all_goals
    rw [List.filter_eq_nil_iff]
    intro item hitem
    rw [Bool.not_eq_true', Bool.not_eq_false, List.any_eq_true]
    exact ⟨item, hitem, hsame item⟩

def SnapshotDelta.empty : SnapshotDelta := ⟨false, 0, 0, 0, 0, 0⟩

def mergedSnapshot (current incoming : AuthorityArtifactSnapshot)
    (membership : Option MembershipCertificate) : AuthorityArtifactSnapshot where
  networkId := incoming.networkId
  enrollmentToken := incoming.enrollmentToken.or current.enrollmentToken
  membership := membership
  capabilityGrants := incoming.capabilityGrants
  revocations := (mergeNew sameRevocation current.revocations incoming.revocations).1
  bootstrapHints := incoming.bootstrapHints

namespace ControlClient

variable {client : ControlClient} {current incoming merged : AuthorityArtifactSnapshot}
  {delta : SnapshotDelta}

theorem mergeSnapshot_none_iff : client.mergeSnapshot none incoming = .ok (merged, delta) ↔
    incoming.networkId = client.networkId ∧ merged = incoming ∧
      delta = ⟨incoming.membership.isSome, incoming.capabilityGrants.length, 0,
        incoming.revocations.length, incoming.bootstrapHints.length, 0⟩ := by
  unfold mergeSnapshot syncAuthoritySnapshot
  by_cases hnetwork : incoming.networkId = client.networkId
  · simp [hnetwork, bind, Except.bind, eq_comm]
  · simp [hnetwork, bind, Except.bind]

theorem mergeSnapshot_some_of_network (hnetwork : incoming.networkId = client.networkId) :
    client.mergeSnapshot (some current) incoming =
      (mergeMembership current.membership incoming.membership).bind fun membership =>
        if grantConflict current.capabilityGrants incoming.capabilityGrants then
          .error .grantConflict
        else .ok (mergedSnapshot current incoming membership,
          heldDelta current incoming (mergedSnapshot current incoming membership)) := by
  unfold mergeSnapshot syncAuthoritySnapshot
  simp only [hnetwork, ne_eq, not_true, if_false]
  rfl

theorem mergeSnapshot_some_iff :
    client.mergeSnapshot (some current) incoming = .ok (merged, delta) ↔
      incoming.networkId = client.networkId ∧
        grantConflict current.capabilityGrants incoming.capabilityGrants = false ∧
        ∃ membership, mergeMembership current.membership incoming.membership = .ok membership ∧
          merged = mergedSnapshot current incoming membership ∧
          delta = heldDelta current incoming merged := by
  constructor
  · intro h
    obtain ⟨hconflict, -, -, hnetwork, hmembership, -, -⟩ := mergeSnapshot_held h
    refine ⟨hnetwork, hconflict, merged.membership, hmembership, ?_⟩
    rw [mergeSnapshot_some_of_network hnetwork, hmembership, hconflict] at h
    simp only [Except.bind, Bool.false_eq_true, if_false, Except.ok.injEq, Prod.mk.injEq] at h
    refine ⟨h.1.symm, ?_⟩
    rw [← h.2, h.1]
  · rintro ⟨hnetwork, hconflict, membership, hmembership, rfl, rfl⟩
    rw [mergeSnapshot_some_of_network hnetwork, hmembership, hconflict]
    rfl

end ControlClient

/-! ## Merging the same snapshot again -/

open ControlClient

theorem mergeMembership_or {current incoming merged : Option MembershipCertificate}
    (h : mergeMembership current incoming = .ok merged) : merged = incoming.or current := by
  cases current with
  | none =>
    cases h
    rw [Option.or_none]
  | some held => exact mergeMembership_eq h

theorem mergeMembership_self (membership : MembershipCertificate) :
    mergeMembership (some membership) (some membership) = .ok (some membership) := by
  simp [mergeMembership]

theorem mergeMembership_again {current incoming merged : Option MembershipCertificate}
    (h : mergeMembership current incoming = .ok merged) :
    mergeMembership merged incoming = .ok merged := by
  rw [mergeMembership_or h]
  cases incoming with
  | none =>
    rw [Option.none_or]
    cases current with
    | none => rfl
    | some held => rfl
  | some membership => exact mergeMembership_self membership

theorem grantConflict_eq_true_iff {current incoming : List CapabilityGrant} :
    grantConflict current incoming = true ↔ ∃ grant ∈ incoming, ∃ existing,
      current.find? (fun other => decide (grantKey other = grantKey grant)) = some existing ∧
        existing ≠ grant := by
  simp only [grantConflict, sameGrant_eq, List.any_eq_true, Option.any_eq_true,
    decide_eq_true_eq]

theorem grantConflict_self {grants : List CapabilityGrant} (h : (grants.map grantKey).Nodup) :
    grantConflict grants grants = false := by
  rw [← Bool.not_eq_true, grantConflict_eq_true_iff]
  rintro ⟨grant, hgrant, existing, hfound, hdiffers⟩
  have hkey := List.find?_some hfound
  rw [decide_eq_true_eq] at hkey
  exact hdiffers (List.inj_on_of_nodup_map h (List.mem_of_find?_eq_some hfound) hgrant hkey)

theorem mergedSnapshot_again (current incoming : AuthorityArtifactSnapshot)
    (membership : Option MembershipCertificate) :
    mergedSnapshot (mergedSnapshot current incoming membership) incoming membership =
      mergedSnapshot current incoming membership := by
  have htoken : incoming.enrollmentToken.or
      (incoming.enrollmentToken.or current.enrollmentToken) =
        incoming.enrollmentToken.or current.enrollmentToken := by
    rw [← Option.or_assoc, Option.or_self]
  have hrevocations := mergeNew_mergeNew sameRevocation sameRevocation_self current.revocations
    incoming.revocations
  simp only [mergedSnapshot, htoken, hrevocations]

theorem heldDelta_again (current incoming : AuthorityArtifactSnapshot)
    (membership : Option MembershipCertificate) :
    heldDelta (mergedSnapshot current incoming membership) incoming
      (mergedSnapshot current incoming membership) = SnapshotDelta.empty := by
  have hgrants := filter_unmatched_self (fun grant : CapabilityGrant =>
    (sameGrant_iff.2 rfl : sameGrant grant grant = true)) incoming.capabilityGrants
  have hhints := filter_unmatched_self sameHint_self incoming.bootstrapHints
  have hrevocations := mergeNew_mergeNew sameRevocation sameRevocation_self current.revocations
    incoming.revocations
  simp only [heldDelta, mergedSnapshot, hgrants.1, hgrants.2, hhints.1, hhints.2, hrevocations]
  simp [SnapshotDelta.empty]

theorem grants_counted {current incoming : List CapabilityGrant}
    (hcurrent : (current.map grantKey).Nodup) (hincoming : (incoming.map grantKey).Nodup) :
    incoming.length + (current.filter fun grant =>
        !incoming.any fun other => sameGrant grant other).length =
      current.length + (incoming.filter fun grant =>
        !current.any fun existing => sameGrant existing grant).length := by
  have hcounts := length_add_removed grantKey hcurrent hincoming
  simp only [withoutCounterpart] at hcounts
  simp only [sameGrant_eq]
  simpa only [eq_comm] using hcounts

/-- A merge is a fixed point of its incoming snapshot, and its counts are exact. -/
theorem merge_idempotent_and_exact {client : ControlClient}
    {current incoming merged : AuthorityArtifactSnapshot} {delta : SnapshotDelta}
    (hkeys : (incoming.capabilityGrants.map grantKey).Nodup)
    (h : client.mergeSnapshot (some current) incoming = .ok (merged, delta)) :
    client.mergeSnapshot (some merged) incoming = .ok (merged, SnapshotDelta.empty) ∧
      (incoming.membership.isSome → merged.membership = incoming.membership) ∧
      merged.revocations.length = current.revocations.length + delta.revocationsAdded ∧
      ((current.capabilityGrants.map grantKey).Nodup →
        merged.capabilityGrants.length + delta.grantsRemoved =
          current.capabilityGrants.length + delta.grantsAdded) := by
  obtain ⟨hnetwork, -, membership, hmembership, rfl, rfl⟩ := mergeSnapshot_some_iff.1 h
  refine ⟨?_, ?_, ?_, ?_⟩
  · refine mergeSnapshot_some_iff.2
      ⟨hnetwork, grantConflict_self hkeys, membership, mergeMembership_again hmembership, ?_, ?_⟩
    · exact (mergedSnapshot_again current incoming membership).symm
    · exact (heldDelta_again current incoming membership).symm
  · intro hpresent
    obtain ⟨certificate, hcertificate⟩ := Option.isSome_iff_exists.1 hpresent
    rw [hcertificate] at hmembership ⊢
    exact mergeMembership_or hmembership
  · have hlength := length_foldl_pushNew sameRevocation incoming.revocations
      (current.revocations, 0)
    exact hlength
  · intro hcurrent
    exact grants_counted hcurrent hkeys

section Closed

def mergeClient : ControlClient := ⟨⟨Vector.replicate 32 7⟩⟩

def numberedGrant (sequence : ℕ) (capabilities : List String) : CapabilityGrant where
  networkId := mergeClient.networkId
  subjectPeerId := ⟨[1]⟩
  issuerPeerId := ⟨[2]⟩
  capabilities := capabilities
  protocolScopes := []
  resourceLimits := ⟨none, none, none⟩
  constraints := []
  notBefore := 0
  expiresAt := 10
  sequence := sequence
  signature := ⟨[]⟩

def grantedSnapshot (grants : List CapabilityGrant) : AuthorityArtifactSnapshot :=
  ⟨mergeClient.networkId, none, none, grants, [], []⟩

theorem renewed_snapshot_merges :
    mergeClient.mergeSnapshot
        (some (grantedSnapshot [numberedGrant 2 ["relay"], numberedGrant 3 ["storage"]]))
        (grantedSnapshot [numberedGrant 2 ["relay"], numberedGrant 3 ["storage"]]) =
      .ok (grantedSnapshot [numberedGrant 2 ["relay"], numberedGrant 3 ["storage"]],
        SnapshotDelta.empty) :=
  have hmerge : mergeClient.mergeSnapshot (some (grantedSnapshot [numberedGrant 1 ["exec"]]))
      (grantedSnapshot [numberedGrant 2 ["relay"], numberedGrant 3 ["storage"]]) = _ :=
    mergeSnapshot_some_iff.2 ⟨rfl, by decide, none, rfl, rfl, rfl⟩
  (merge_idempotent_and_exact (by decide) hmerge).1

end Closed

/-! ## Contradicting grants -/

theorem grantConflict_iff_contradicts {current incoming : List CapabilityGrant}
    (hcurrent : SelfConsistent grantKey current) :
    grantConflict current incoming = true ↔ Contradicts grantKey incoming current :=
  grantConflict_eq_true_iff.trans (exists_first_differs_iff grantKey hcurrent)

/-- An incoming membership is for the held subject and no older. -/
def MembershipFits (current incoming : Option MembershipCertificate) : Prop :=
  ∀ held ∈ current, ∀ membership ∈ incoming,
    held.subjectPeerId = membership.subjectPeerId ∧ held.issuedAt ≤ membership.issuedAt

def MembershipConflicts (current incoming : Option MembershipCertificate) : Prop :=
  ∃ held ∈ current, ∃ membership ∈ incoming,
    membership.issuedAt = held.issuedAt ∧ membership ≠ held

theorem mergeMembership_cases (current incoming : Option MembershipCertificate) :
    (MembershipFits current incoming ∧ MembershipConflicts current incoming ∧
      mergeMembership current incoming = .error .grantConflict) ∨
    (MembershipFits current incoming ∧ ¬ MembershipConflicts current incoming ∧
      ∃ merged, mergeMembership current incoming = .ok merged) ∨
    (¬ MembershipFits current incoming ∧ ∃ error ≠ ControlError.grantConflict,
      mergeMembership current incoming = .error error) := by
  cases current with
  | none =>
    right; left
    exact ⟨by simp [MembershipFits], by simp [MembershipConflicts], incoming, rfl⟩
  | some held =>
    cases incoming with
    | none =>
      right; left
      exact ⟨by simp [MembershipFits], by simp [MembershipConflicts], some held, rfl⟩
    | some membership =>
      simp only [MembershipFits, MembershipConflicts, Option.mem_def, Option.some.injEq,
        forall_eq', exists_eq_left', mergeMembership]
      by_cases hsubject : held.subjectPeerId = membership.subjectPeerId
      · by_cases hrollback : membership.issuedAt < held.issuedAt
        · right; right
          refine ⟨fun hfits => absurd hfits.2 (by omega), .membershipRollback, by simp, ?_⟩
          rw [if_neg (not_ne_iff.2 hsubject), if_pos hrollback]
        · rw [if_neg (not_ne_iff.2 hsubject), if_neg hrollback]
          by_cases hconflict : membership.issuedAt = held.issuedAt ∧ membership ≠ held
          · left
            rw [if_pos hconflict]
            exact ⟨⟨hsubject, by omega⟩, hconflict, rfl⟩
          · right; left
            rw [if_neg hconflict]
            exact ⟨⟨hsubject, by omega⟩, hconflict, _, rfl⟩
      · right; right
        refine ⟨fun hfits => hsubject hfits.1, .subjectMismatch, by simp, ?_⟩
        rw [if_pos hsubject]

variable {client : ControlClient} {incoming : AuthorityArtifactSnapshot}

theorem mergeSnapshot_none_ne_conflict :
    client.mergeSnapshot none incoming ≠ .error .grantConflict := by
  unfold ControlClient.mergeSnapshot ControlClient.syncAuthoritySnapshot
  by_cases hnetwork : incoming.networkId = client.networkId
  · simp [hnetwork, bind, Except.bind]
  · simp [hnetwork, bind, Except.bind]

theorem mergeSnapshot_conflict_iff {current : AuthorityArtifactSnapshot} :
    client.mergeSnapshot (some current) incoming = .error .grantConflict ↔
      incoming.networkId = client.networkId ∧
        MembershipFits current.membership incoming.membership ∧
        (MembershipConflicts current.membership incoming.membership ∨
          grantConflict current.capabilityGrants incoming.capabilityGrants = true) := by
  by_cases hnetwork : incoming.networkId = client.networkId
  · rw [mergeSnapshot_some_of_network hnetwork]
    rcases mergeMembership_cases current.membership incoming.membership with
      ⟨hfits, hconflicts, herror⟩ | ⟨hfits, hagrees, merged, hok⟩ | ⟨hmisfit, error, hne, herror⟩
    · simp [hnetwork, hfits, hconflicts, herror, Except.bind]
    · cases hgrants : grantConflict current.capabilityGrants incoming.capabilityGrants with
      | true => simp [hnetwork, hfits, hok, Except.bind]
      | false => simp [hnetwork, hfits, hagrees, hok, Except.bind]
    · simp [hmisfit, herror, hne, Except.bind]
  · have hmismatch : client.mergeSnapshot (some current) incoming = .error .networkMismatch := by
      unfold ControlClient.mergeSnapshot ControlClient.syncAuthoritySnapshot
      rw [if_pos hnetwork]
      rfl
    simp [hmismatch, hnetwork]

/-- A merge that is refused leaves the held snapshot. -/
def heldAfter (client : ControlClient) (held : Option AuthorityArtifactSnapshot)
    (incoming : AuthorityArtifactSnapshot) : Option AuthorityArtifactSnapshot :=
  match client.mergeSnapshot held incoming with
  | .ok (merged, _) => some merged
  | .error _ => held

def AlongMerges (client : ControlClient)
    (P : Option AuthorityArtifactSnapshot → AuthorityArtifactSnapshot → Prop) :
    Option AuthorityArtifactSnapshot → List AuthorityArtifactSnapshot → Prop
  | _, [] => True
  | held, incoming :: rest => P held incoming ∧ AlongMerges client P (heldAfter client held incoming) rest

/-- The incoming snapshot contradicts itself or the held one. -/
def Contradictory (held : Option AuthorityArtifactSnapshot) (incoming : AuthorityArtifactSnapshot) :
    Prop :=
  Contradicts grantKey incoming.capabilityGrants incoming.capabilityGrants ∨
    ∃ current ∈ held, Contradicts grantKey incoming.capabilityGrants current.capabilityGrants

def StepSound (client : ControlClient) (held : Option AuthorityArtifactSnapshot)
    (incoming : AuthorityArtifactSnapshot) : Prop :=
  (∀ merged delta, client.mergeSnapshot held incoming = .ok (merged, delta) →
    SelfConsistent grantKey merged.capabilityGrants) ∧
  (Contradictory held incoming → client.mergeSnapshot held incoming = .error .grantConflict)

/-- A contradictory snapshot meets a held one whose checks come that far, and differs from it
under a held grant key, if the memberships do not conflict already. -/
def StepDetects (client : ControlClient) (held : Option AuthorityArtifactSnapshot)
    (incoming : AuthorityArtifactSnapshot) : Prop :=
  Contradictory held incoming → ∃ current, held = some current ∧
    incoming.networkId = client.networkId ∧
    MembershipFits current.membership incoming.membership ∧
    (MembershipConflicts current.membership incoming.membership ∨
      Contradicts grantKey incoming.capabilityGrants current.capabilityGrants)

def HeldConsistent (held : Option AuthorityArtifactSnapshot) : Prop :=
  ∀ current ∈ held, SelfConsistent grantKey current.capabilityGrants

theorem merged_grants {held : Option AuthorityArtifactSnapshot}
    {merged : AuthorityArtifactSnapshot} {delta : SnapshotDelta}
    (h : client.mergeSnapshot held incoming = .ok (merged, delta)) :
    merged.capabilityGrants = incoming.capabilityGrants := by
  cases held with
  | none => rw [(mergeSnapshot_none_iff.1 h).2.1]
  | some current => exact (mergeSnapshot_some h).2.2.1

theorem refused_iff {held : Option AuthorityArtifactSnapshot} (hheld : HeldConsistent held) :
    client.mergeSnapshot held incoming = .error .grantConflict ↔ ∃ current, held = some current ∧
      incoming.networkId = client.networkId ∧
      MembershipFits current.membership incoming.membership ∧
      (MembershipConflicts current.membership incoming.membership ∨
        Contradicts grantKey incoming.capabilityGrants current.capabilityGrants) := by
  cases held with
  | none => simp [mergeSnapshot_none_ne_conflict]
  | some current =>
    rw [mergeSnapshot_conflict_iff, grantConflict_iff_contradicts (hheld current rfl)]
    simp only [Option.some.injEq, exists_eq_left']

theorem stepSound_iff {held : Option AuthorityArtifactSnapshot} (hheld : HeldConsistent held) :
    StepSound client held incoming ↔ StepDetects client held incoming := by
  constructor
  · intro hsound hcontradictory
    exact (refused_iff hheld).1 (hsound.2 hcontradictory)
  · intro hdetects
    have hrefuses : Contradictory held incoming →
        client.mergeSnapshot held incoming = .error .grantConflict :=
      fun hcontradictory => (refused_iff hheld).2 (hdetects hcontradictory)
    refine ⟨?_, hrefuses⟩
    intro merged delta hmerged hcontradicts
    rw [merged_grants hmerged] at hcontradicts
    rw [hrefuses (.inl hcontradicts)] at hmerged
    cases hmerged

theorem heldConsistent_heldAfter {held : Option AuthorityArtifactSnapshot}
    (hheld : HeldConsistent held) (h : StepSound client held incoming) :
    HeldConsistent (heldAfter client held incoming) := by
  unfold heldAfter
  cases hmerged : client.mergeSnapshot held incoming with
  | error error => exact hheld
  | ok result =>
    intro current hcurrent
    cases hcurrent
    exact h.1 result.1 result.2 hmerged

theorem alongMerges_iff {held : Option AuthorityArtifactSnapshot} (hheld : HeldConsistent held)
    (snapshots : List AuthorityArtifactSnapshot) :
    AlongMerges client (StepSound client) held snapshots ↔
      AlongMerges client (StepDetects client) held snapshots := by
  induction snapshots generalizing held with
  | nil => rfl
  | cons incoming rest ih =>
    constructor
    · intro ⟨hsound, hrest⟩
      exact ⟨(stepSound_iff hheld).1 hsound, (ih (heldConsistent_heldAfter hheld hsound)).1 hrest⟩
    · intro ⟨hdetects, hrest⟩
      have hsound := (stepSound_iff hheld).2 hdetects
      exact ⟨hsound, (ih (heldConsistent_heldAfter hheld hsound)).2 hrest⟩

/-- A run from no snapshot holds no conflicting grants and refuses every contradiction exactly
when each contradictory snapshot differs from the one held before it. -/
theorem conflicting_grants_refused_iff (client : ControlClient)
    (snapshots : List AuthorityArtifactSnapshot) :
    AlongMerges client (StepSound client) none snapshots ↔
      AlongMerges client (StepDetects client) none snapshots := by
  refine alongMerges_iff ?_ snapshots
  intro current hcurrent
  cases hcurrent

/-- The first snapshot of a node is taken with two grants under one key. -/
theorem first_contradiction_accepted :
    mergeClient.mergeSnapshot none
        (grantedSnapshot [numberedGrant 1 ["exec"], numberedGrant 1 ["relay"]]) =
      .ok (grantedSnapshot [numberedGrant 1 ["exec"], numberedGrant 1 ["relay"]],
        ⟨false, 2, 0, 0, 0, 0⟩) ∧
    ¬ AlongMerges mergeClient (StepSound mergeClient) none
        [grantedSnapshot [numberedGrant 1 ["exec"], numberedGrant 1 ["relay"]]] := by
  have hmerged : mergeClient.mergeSnapshot none
      (grantedSnapshot [numberedGrant 1 ["exec"], numberedGrant 1 ["relay"]]) =
        .ok (grantedSnapshot [numberedGrant 1 ["exec"], numberedGrant 1 ["relay"]],
          ⟨false, 2, 0, 0, 0, 0⟩) := rfl
  refine ⟨hmerged, ?_⟩
  intro hsound
  refine hsound.1.1 _ _ hmerged
    ⟨numberedGrant 1 ["exec"], List.mem_cons_self, numberedGrant 1 ["relay"], ?_, rfl, by decide⟩
  exact List.mem_cons_of_mem _ List.mem_cons_self

end QuipNet.Control
