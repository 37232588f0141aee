import QuipNet.Authority

/-!
# Commands on the authority store

Runs of the authority's commands from `init`, one at a time. Every command ends in
`materialize_state`, so the stored snapshot is the projection of the rest, and loading
the file again gives the same state: the backfill of `load_state` finds nothing to
fill. Members and relays are keyed lists, and grants and revocations are numbered by
their counters.
-/

open Std
namespace QuipNet.Authority
open QuipNet.Control QuipNet.Library QuipNet.Relay

/-! ## Projections of a materialized state -/

theorem projectedSnapshot_materializeState (state : AuthorityState) :
    projectedSnapshot (materializeState state) none = some (materializeState state).snapshot := by
  have hsnapshot : (materializeState state).snapshot =
      snapshotFor state (state.activeSubjectSeed.bind (selectedMember state)) := rfl
  change some (snapshotFor (materializeState state) _) = _
  rw [hsnapshot]
  refine congrArg some ?_
  unfold snapshotFor
  rw [hsnapshot]
  simp only [snapshotFor, Option.map_map, Function.comp_def]
  rfl

theorem grants_of_projectedSnapshot {state : AuthorityState} {seed : String}
    {snapshot : AuthorityArtifactSnapshot} (h : projectedSnapshot state (some seed) = some snapshot) :
    ∃ member ∈ state.members, member.subjectSeed = seed ∧
      snapshot.membership = some member.membership ∧
      ∀ grant ∈ snapshot.capabilityGrants,
        grant.subjectPeerId = member.membership.subjectPeerId := by
  obtain ⟨member, hmember, rfl⟩ := Option.map_eq_some_iff.mp h
  refine ⟨member, List.mem_of_find?_eq_some hmember, ?_, rfl, ?_⟩
  · simpa using List.find?_some hmember
  · intro grant hgrant
    simpa using (List.mem_filter.mp hgrant).2

/-! ## The invariant of the store -/

structure Consistent (stored : AuthorityState) : Prop extends Numbered stored where
  members : (stored.members.map AuthorityMember.subjectSeed).Nodup
  relays : (stored.relays.map RelayAnnouncement.peerId).Nodup
  grants : (stored.capabilityGrants.map CapabilityGrant.sequence).Nodup
  grantsBelow : ∀ grant ∈ stored.capabilityGrants, grant.sequence < stored.nextCapabilitySequence
  projected : projectedSnapshot stored none = some stored.snapshot

theorem Consistent.loadState_eq {stored : AuthorityState} (h : Consistent stored) :
    loadState stored = stored := by
  have hprojected := Option.some.inj h.projected
  have hhints : stored.snapshot.bootstrapHints = stored.bootstrapHints := by rw [← hprojected]; rfl
  have hrevocations : stored.snapshot.revocations = stored.revocations := h.snapshot
  have hgrants : stored.capabilityGrants.isEmpty = true → stored.snapshot.capabilityGrants = [] := by
    intro hempty
    rw [← hprojected]
    unfold snapshotFor
    rw [List.isEmpty_iff.mp hempty]
    cases stored.activeSubjectSeed.bind (selectedMember stored) <;> rfl
  have hbackfill : (if stored.capabilityGrants.isEmpty then stored.snapshot.capabilityGrants
      else stored.capabilityGrants) = stored.capabilityGrants := by
    split_ifs with hempty
    · rw [hgrants hempty, List.isEmpty_iff.mp hempty]
    · rfl
  have hmaterialized : materializeState stored = stored := by
    unfold materializeState
    rw [h.projected]
    rfl
  unfold loadState
  rw [hhints, hrevocations, hbackfill, ite_self, ite_self]
  exact hmaterialized

theorem upsertMember_eq (members : List AuthorityMember) (member : AuthorityMember) :
    upsertMember members member =
      upsert (fun existing => existing.subjectSeed = member.subjectSeed) member members := by
  simp only [upsertMember, upsert, decide_eq_true_eq]

theorem nodup_members_upsert {members : List AuthorityMember} (member : AuthorityMember)
    (h : (members.map AuthorityMember.subjectSeed).Nodup) :
    ((upsertMember members member).map AuthorityMember.subjectSeed).Nodup := by
  rw [upsertMember_eq]
  exact nodup_map_upsert (by simp) h

theorem addBootstrap_consistent {stored after : AuthorityState} (h : Consistent stored)
    {args : AddBootstrapArgs} (hadd : addBootstrap stored args = some after) :
    Consistent after := by
  obtain ⟨generation, -, rfl⟩ := Option.map_eq_some_iff.mp hadd
  rw [h.loadState_eq]
  exact { h with
    snapshot := rfl
    projected := projectedSnapshot_materializeState _ }

theorem persistIssuedArtifact_capability {stored after : AuthorityState} (h : Consistent stored)
    {value : CapabilityGrant} (hfresh : Fresh stored (.capability value))
    (hpersist : persistIssuedArtifact stored (.capability value) = some after) :
    after = materializeState { stored with
      capabilityGrants := stored.capabilityGrants ++ [value]
      nextCapabilitySequence := stored.nextCapabilitySequence + 1 } := by
  obtain ⟨next, hnext, rfl⟩ := Option.map_eq_some_iff.mp hpersist
  have hvalue : value.sequence = stored.nextCapabilitySequence := hfresh
  have hcounter := nextSequence_eq_some hnext
  have hnew : ¬ stored.capabilityGrants.any (fun existing => sameGrant existing value) := by
    simp only [List.any_eq_true, sameGrant, Bool.and_eq_true, decide_eq_true_eq]
    rintro ⟨other, hother, -, hsequence⟩
    have hbelow := h.grantsBelow other hother
    omega
  have hmax : max stored.nextCapabilitySequence next = stored.nextCapabilitySequence + 1 := by
    omega
  rw [if_neg hnew, hmax]

theorem persistIssuedArtifact_consistent {stored after : AuthorityState} (h : Consistent stored)
    {artifact : IssuedArtifact} (hfresh : Fresh stored artifact)
    (hpersist : persistIssuedArtifact stored artifact = some after) : Consistent after := by
  have hnumbered := (persistIssuedArtifact_revocations h.toNumbered hfresh hpersist).1
  cases artifact with
  | enrollmentToken value =>
    cases hpersist
    exact { hnumbered, h with projected := projectedSnapshot_materializeState _ }
  | membership subjectSeed active value =>
    cases hpersist
    exact { hnumbered, h with
      members := nodup_members_upsert _ h.members
      projected := projectedSnapshot_materializeState _ }
  | revocation value =>
    obtain ⟨next, -, rfl⟩ := Option.map_eq_some_iff.mp hpersist
    exact { hnumbered, h with projected := projectedSnapshot_materializeState _ }
  | capability value =>
    have hvalue : value.sequence = stored.nextCapabilitySequence := hfresh
    obtain rfl := persistIssuedArtifact_capability h hfresh hpersist
    refine { hnumbered, h with
      grants := ?_, grantsBelow := ?_, projected := projectedSnapshot_materializeState _ }
    · change ((stored.capabilityGrants ++ [value]).map CapabilityGrant.sequence).Nodup
      rw [List.map_append, List.map_singleton]
      refine h.grants.append (List.nodup_singleton _) ?_
      intro sequence hold hnewest
      obtain ⟨other, hother, rfl⟩ := List.mem_map.mp hold
      have hbelow := h.grantsBelow other hother
      rw [List.mem_singleton] at hnewest
      omega
    · intro grant hgrant
      change grant ∈ stored.capabilityGrants ++ [value] at hgrant
      change grant.sequence < stored.nextCapabilitySequence + 1
      rcases List.mem_append.mp hgrant with hold | hlast
      · have hbelow := h.grantsBelow grant hold
        omega
      · rw [List.mem_singleton.mp hlast]
        omega

section Commands
variable [Primitives]

theorem initialState_consistent (network realm : String) (bootstrapAddresses : List String) :
    Consistent (initialState network realm bootstrapAddresses) where
  toNumbered := initialState_numbered network realm bootstrapAddresses
  members := List.nodup_nil
  relays := List.nodup_nil
  grants := List.nodup_nil
  grantsBelow := by simp [initialState, materializeState]
  projected := projectedSnapshot_materializeState _

theorem addMember_consistent {stored after : AuthorityState} (h : Consistent stored)
    {args : AddMemberArgs} (hadd : addMember stored args = some after) : Consistent after := by
  obtain ⟨⟨label, peerId⟩, -, rfl⟩ := Option.map_eq_some_iff.mp hadd
  dsimp only
  rw [h.loadState_eq]
  exact { h with
    snapshot := rfl
    members := nodup_members_upsert _ h.members
    projected := projectedSnapshot_materializeState _ }

theorem addRelay_eq_some {stored after : AuthorityState} (h : Consistent stored)
    {args : AddRelayArgs} (hadd : addRelay stored args = some after) :
    ∃ relay, after = materializeState { stored with
      relays := upsertRelay stored.relays relay
      relayMapVersion := stored.relayMapVersion + 1 } := by
  unfold addRelay at hadd
  rw [h.loadState_eq] at hadd
  obtain ⟨relay, -, hrest⟩ := Option.bind_eq_some_iff.mp hadd
  obtain ⟨version, hversion, hafter⟩ := Option.bind_eq_some_iff.mp hrest
  rw [nextSequence_eq_some hversion] at hafter
  exact ⟨relay, (Option.some.inj hafter).symm⟩

theorem addRelay_consistent {stored after : AuthorityState} (h : Consistent stored)
    {args : AddRelayArgs} (hadd : addRelay stored args = some after) : Consistent after := by
  obtain ⟨relay, rfl⟩ := addRelay_eq_some h hadd
  exact { h with
    snapshot := rfl
    relays := nodup_map_upsert (by simp) h.relays
    projected := projectedSnapshot_materializeState _ }

theorem issue_consistent {stored after : AuthorityState} (h : Consistent stored)
    {command : ArtifactCommand} (hissue : issue stored command = some after) :
    Consistent after := by
  obtain ⟨artifact, hartifact, hpersist⟩ := Option.bind_eq_some_iff.mp hissue
  exact persistIssuedArtifact_consistent h (issuedArtifact_fresh hartifact) hpersist

/-! ## Runs -/

/-- The commands that write the state file; `reload` loads it and saves what it loaded. -/
inductive StoreCommand
  | addMember (args : AddMemberArgs)
  | addBootstrap (args : AddBootstrapArgs)
  | addRelay (args : AddRelayArgs)
  | issue (command : ArtifactCommand)
  | reload

def StoreCommand.apply (stored : AuthorityState) : StoreCommand → Option AuthorityState
  | .addMember args => Authority.addMember stored args
  | .addBootstrap args => Authority.addBootstrap stored args
  | .addRelay args => Authority.addRelay stored args
  | .issue command => Authority.issue stored command
  | .reload => some (loadState stored)

/-- The file after the command; one that panics leaves it as it was. -/
def StoreCommand.run (stored : AuthorityState) (command : StoreCommand) : AuthorityState :=
  (command.apply stored).getD stored

def storeAfter (network realm : String) (bootstrapAddresses : List String)
    (commands : List StoreCommand) : AuthorityState :=
  commands.foldl StoreCommand.run (initialState network realm bootstrapAddresses)

theorem StoreCommand.apply_consistent {stored after : AuthorityState} (h : Consistent stored)
    {command : StoreCommand} (happly : command.apply stored = some after) : Consistent after := by
  cases command with
  | addMember args => exact addMember_consistent h happly
  | addBootstrap args => exact addBootstrap_consistent h happly
  | addRelay args => exact addRelay_consistent h happly
  | issue command => exact issue_consistent h happly
  | reload =>
    cases happly
    rw [h.loadState_eq]
    exact h

theorem StoreCommand.run_consistent {stored : AuthorityState} (h : Consistent stored)
    (command : StoreCommand) : Consistent (command.run stored) := by
  unfold StoreCommand.run
  cases happly : command.apply stored with
  | none => exact h
  | some after => exact command.apply_consistent h happly

theorem storeAfter_consistent (network realm : String) (bootstrapAddresses : List String)
    (commands : List StoreCommand) :
    Consistent (storeAfter network realm bootstrapAddresses commands) := by
  unfold storeAfter
  induction commands using List.reverseRecOn with
  | nil => exact initialState_consistent network realm bootstrapAddresses
  | append_singleton commands command ih =>
    rw [List.foldl_append]
    exact command.run_consistent ih

theorem store_invariant (network realm : String) (bootstrapAddresses : List String)
    (commands : List StoreCommand) :
    let stored := storeAfter network realm bootstrapAddresses commands
    (stored.members.map AuthorityMember.subjectSeed).Nodup ∧
      (stored.relays.map RelayAnnouncement.peerId).Nodup ∧
      (stored.capabilityGrants.map CapabilityGrant.sequence).Nodup ∧
      (∀ grant ∈ stored.capabilityGrants, grant.sequence < stored.nextCapabilitySequence) ∧
      stored.revocations.Pairwise (fun a b => a.sequence < b.sequence) ∧
      (∀ revocation ∈ stored.revocations, revocation.sequence < stored.nextRevocationSequence) ∧
      (∀ args after, addRelay stored args = some after →
        stored.relayMapVersion < after.relayMapVersion) ∧
      projectedSnapshot stored none = some stored.snapshot ∧
      ∀ seed snapshot, projectedSnapshot stored (some seed) = some snapshot →
        ∃ member ∈ stored.members, member.subjectSeed = seed ∧
          snapshot.membership = some member.membership ∧
          ∀ grant ∈ snapshot.capabilityGrants,
            grant.subjectPeerId = member.membership.subjectPeerId := by
  intro stored
  have hstored : Consistent stored := storeAfter_consistent network realm bootstrapAddresses commands
  refine ⟨hstored.members, hstored.relays, hstored.grants, hstored.grantsBelow, hstored.inOrder,
    hstored.below, ?_, hstored.projected, ?_⟩
  · intro args after hadd
    obtain ⟨relay, rfl⟩ := addRelay_eq_some hstored hadd
    exact Nat.lt_succ_self stored.relayMapVersion
  · intro seed snapshot hsnapshot
    exact grants_of_projectedSnapshot hsnapshot

end Commands

section Closed
attribute [local instance] Primitives.transparent

def edgeRelayArgs : AddRelayArgs where
  peerId := none
  peerSeed := some "edge"
  region := "eu-central-1"
  addresses := ["udp://203.0.113.10:443"]
  controlEndpoint := "http://203.0.113.10:9081"
  maxBandwidthBps := 5000000000
  supportsQuicDatagrams := true
  supportsPathMigration := true
  trafficClasses := []

theorem announced_relay_raises_version :
    let stored := storeAfter "mesh" "default" [] [.addRelay edgeRelayArgs]
    ∃ after, addRelay stored edgeRelayArgs = some after ∧
      stored.relayMapVersion < after.relayMapVersion := by
  intro stored
  have hsome : (addRelay stored edgeRelayArgs).isSome = true := by rfl
  obtain ⟨after, hafter⟩ := Option.isSome_iff_exists.mp hsome
  have hinvariant := store_invariant "mesh" "default" [] [.addRelay edgeRelayArgs]
  exact ⟨after, hafter, hinvariant.2.2.2.2.2.2.1 edgeRelayArgs after hafter⟩

end Closed

end QuipNet.Authority
