import QuipNet.AuthorityFacts
import QuipNet.Daemon

/-!
# Seeding over an existing state file

A start without `--sync` builds the state from the authority's snapshot alone and
writes it over the file that is there. The facts of the file are kept exactly when
the snapshot itself carries them.
-/

open Std
namespace QuipNet.Daemon
open QuipNet.Control QuipNet.Fabric QuipNet.Library.Effect
open LocalControlPlane

variable {ρ : Type}

/-- The file holds a state with every revocation of `old` and a membership of its
subject that is not older. A file left as it was does. -/
def CarriesFacts (old : DaemonState) : Option StateFile → Prop
  | some (.durable state) =>
    (∀ revocation ∈ old.revocations, revocation ∈ state.revocations) ∧
      state.membership.subjectPeerId = old.membership.subjectPeerId ∧
      old.membership.issuedAt ≤ state.membership.issuedAt
  | _ => False

theorem CarriesFacts.refl (old : DaemonState) : CarriesFacts old (some (.durable old)) :=
  ⟨fun _ h => h, rfl, le_rfl⟩

theorem CarriesFacts.extend {old state after : DaemonState} (h : CarriesFacts old (some state.saved))
    (hextends : state.Extends after) : CarriesFacts old (some after.saved) := by
  obtain ⟨hrevocations, hsubject, hissued⟩ := h
  refine ⟨?_, hextends.subject.trans hsubject, hissued.trans hextends.issuedAt⟩
  intro revocation hmem
  exact hextends.revocations.subset (hrevocations revocation hmem)

/-- The snapshot a seeding gets: the loaded file, or the origin's answer when the
origin also answers with its relay map. -/
def offeredSnapshot (surroundings : Surroundings) (args : Args) : Option AuthorityArtifactSnapshot :=
  match args.authoritySnapshot, args.authorityOrigin with
  | some path, none => (surroundings.loadAuthoritySnapshot path).toOption
  | none, some origin =>
    match (surroundings.originAt origin).snapshot args.authoritySubject,
      (surroundings.originAt origin).relayMap with
    | .ok snapshot, .ok _ => some snapshot
    | _, _ => none
  | _, _ => none

theorem applyRelayMap_facts (state : DaemonState) (relayMap : Relay.RelayMap) :
    (state.applyRelayMap relayMap).1.revocations = state.revocations ∧
      (state.applyRelayMap relayMap).1.membership = state.membership := by
  unfold DaemonState.applyRelayMap
  split_ifs <;> exact ⟨rfl, rfl⟩

theorem revokeState_extends (origin : AuthorityOrigin) (state : DaemonState) :
    Returns (fun result => state.Extends result.1) (revokeState (ρ := ρ) origin state) := by
  unfold revokeState
  split
  · exact Returns.throw _
  · exact Returns.pure (state.applyRevocations_extends _)

def Seeds (args : Args) : Prop :=
  args.sync = false ∧ args.authoritySnapshot.isSome ≠ args.authorityOrigin.isSome

section Hashing
variable [Primitives] {surroundings : Surroundings} {config : DaemonConfig}
  {localIdentity : IdentityKeypair} {args : Args} {world : World ρ}

/-- A snapshot of this network with a membership: a seeding accepts no other. -/
def Usable (config : DaemonConfig) (snapshot : AuthorityArtifactSnapshot)
    (membership : MembershipCertificate) : Prop :=
  snapshot.networkId = NetworkId.derive config.network ∧ snapshot.membership = some membership

theorem fromAuthoritySnapshot_of_usable {snapshot : AuthorityArtifactSnapshot}
    {membership : MembershipCertificate} (h : Usable config snapshot membership)
    (roles : List DaemonRole) :
    ∃ state, DaemonState.fromAuthoritySnapshot config.network roles snapshot = .ok state ∧
      state.revocations = snapshot.revocations ∧ state.membership = membership := by
  unfold DaemonState.fromAuthoritySnapshot
  rw [if_neg (not_not_intro h.1), h.2]
  exact ⟨_, rfl, rfl, rfl⟩

theorem fromAuthoritySnapshot_of_unusable {snapshot : AuthorityArtifactSnapshot}
    (h : ∀ membership, ¬ Usable config snapshot membership) (roles : List DaemonRole) :
    ∃ error, DaemonState.fromAuthoritySnapshot config.network roles snapshot = .error error := by
  unfold DaemonState.fromAuthoritySnapshot
  split_ifs with hnetwork
  · exact ⟨_, rfl⟩
  · cases hmembership : snapshot.membership with
    | none => exact ⟨_, rfl⟩
    | some membership => exact absurd ⟨not_not.1 hnetwork, hmembership⟩ (h membership)

theorem seedOrSync_of_seeds (hseeds : Seeds args) :
    (∃ path, args.authoritySnapshot = some path ∧ args.authorityOrigin = none ∧
      seedOrSync (ρ := ρ) surroundings config localIdentity args =
        seedFromAuthoritySnapshot config (surroundings.loadAuthoritySnapshot path)) ∨
    ∃ origin, args.authoritySnapshot = none ∧ args.authorityOrigin = some origin ∧
      seedOrSync (ρ := ρ) surroundings config localIdentity args =
        seedFromAuthorityOrigin config (surroundings.originAt origin) args.authoritySubject := by
  obtain ⟨hsync, hsource⟩ := hseeds
  cases hpath : args.authoritySnapshot with
  | none =>
    cases horigin : args.authorityOrigin with
    | none => simp [hpath, horigin] at hsource
    | some origin => exact .inr ⟨origin, rfl, rfl, by simp [seedOrSync, hpath, horigin, hsync]⟩
  | some path =>
    cases horigin : args.authorityOrigin with
    | none => exact .inl ⟨path, rfl, rfl, by simp [seedOrSync, hpath, horigin, hsync]⟩
    | some origin => simp [hpath, horigin] at hsource

theorem seedOrSync_of_usable (hseeds : Seeds args) {snapshot : AuthorityArtifactSnapshot}
    {membership : MembershipCertificate} (hoffered : offeredSnapshot surroundings args = some snapshot)
    (husable : Usable config snapshot membership) (localIdentity : IdentityKeypair)
    (world : World ρ) :
    ∃ state, seedOrSync surroundings config localIdentity args world =
        .ok state { world with stateFile := some state.saved } ∧
      state.revocations = snapshot.revocations ∧ state.membership = membership := by
  obtain ⟨state, hbuilt, hrevocations, hmembership⟩ :=
    fromAuthoritySnapshot_of_usable husable config.roles
  rcases seedOrSync_of_seeds hseeds with ⟨path, hpath, horigin, hcall⟩ | ⟨origin, hpath, horigin, hcall⟩
  · simp only [offeredSnapshot, hpath, horigin] at hoffered
    cases hload : surroundings.loadAuthoritySnapshot path with
    | error error => simp [hload, Except.toOption] at hoffered
    | ok loaded =>
      simp only [hload, Except.toOption, Option.some.injEq] at hoffered
      subst hoffered
      refine ⟨state.withMergedCandidates, ?_, hrevocations, hmembership⟩
      rw [hcall, seedFromAuthoritySnapshot, hload]
      simp only [bind_run, orThrow, pure_run, hbuilt, save, modify_run]
  · simp only [offeredSnapshot, hpath, horigin] at hoffered
    cases hanswer : (surroundings.originAt origin).snapshot args.authoritySubject with
    | error error => simp [hanswer] at hoffered
    | ok answer =>
      cases hrelays : (surroundings.originAt origin).relayMap with
      | error error => simp [hanswer, hrelays] at hoffered
      | ok relayMap =>
        simp only [hanswer, hrelays, Option.some.injEq] at hoffered
        subst hoffered
        have hfacts := applyRelayMap_facts state.withMergedCandidates relayMap
        refine ⟨(state.withMergedCandidates.applyRelayMap relayMap).1, ?_,
          hfacts.1.trans hrevocations, hfacts.2.trans hmembership⟩
        have hfetched : fetchAuthoritySnapshotFor config (surroundings.originAt origin)
            args.authoritySubject = .ok answer := by
          simp [fetchAuthoritySnapshotFor, hanswer, authorityClient, bind, Except.bind,
            ControlClient.syncAuthoritySnapshot, husable.1]
        rw [hcall, seedFromAuthorityOrigin, hfetched, hrelays]
        simp only [bind_run, fetched, Except.mapError, orThrow, pure_run, hbuilt, save, modify_run]

theorem seedOrSync_of_unusable (hseeds : Seeds args)
    (h : ∀ snapshot membership, offeredSnapshot surroundings args = some snapshot →
      ¬ Usable config snapshot membership) (localIdentity : IdentityKeypair) (world : World ρ) :
    ∃ error, seedOrSync surroundings config localIdentity args world = .error error world := by
  rcases seedOrSync_of_seeds hseeds with ⟨path, hpath, horigin, hcall⟩ | ⟨origin, hpath, horigin, hcall⟩
  · rw [hcall, seedFromAuthoritySnapshot]
    cases hload : surroundings.loadAuthoritySnapshot path with
    | error error => exact ⟨error, rfl⟩
    | ok loaded =>
      have hoffered : offeredSnapshot surroundings args = some loaded := by
        simp [offeredSnapshot, hpath, horigin, hload, Except.toOption]
      obtain ⟨error, herror⟩ := fromAuthoritySnapshot_of_unusable
        (fun membership => h loaded membership hoffered) config.roles
      refine ⟨error, ?_⟩
      simp only [bind_run, orThrow, pure_run, herror, throw_run]
  · rw [hcall, seedFromAuthorityOrigin]
    cases hfetch : fetchAuthoritySnapshotFor config (surroundings.originAt origin)
        args.authoritySubject with
    | error error => exact ⟨.control error, rfl⟩
    | ok snapshot =>
      cases hrelays : (surroundings.originAt origin).relayMap with
      | error error => exact ⟨.control error, rfl⟩
      | ok relayMap =>
        have hanswer := fetchAuthoritySnapshotFor_eq_ok hfetch
        have hoffered : offeredSnapshot surroundings args = some snapshot := by
          simp [offeredSnapshot, hpath, horigin, hanswer, hrelays]
        obtain ⟨error, herror⟩ := fromAuthoritySnapshot_of_unusable
          (fun membership => h snapshot membership hoffered) config.roles
        refine ⟨error, ?_⟩
        simp only [bind_run, fetched, Except.mapError, orThrow, pure_run, herror, throw_run]

theorem syncRevocations_carries {old state : DaemonState}
    (h : CarriesFacts old (some state.saved)) (world : World ρ) :
    CarriesFacts old (final (syncRevocations surroundings config args state)
      { world with stateFile := some state.saved }).stateFile := by
  unfold syncRevocations
  split_ifs
  · cases args.authorityOrigin with
    | none => exact h
    | some origin =>
      dsimp only
      rw [final_map, syncAuthorityRevocationsOrigin,
        transaction_stateFile (ensureState_of_load rfl rfl)]
      split
      · rename_i result _ hwork
        have hextends := revokeState_extends (surroundings.originAt origin) _ _ _ _ hwork
        exact h.extend ⟨hextends.subject, hextends.issuedAt, hextends.revocations⟩
      · exact h
  · exact h

/-- A start that seeds the state keeps the facts of the file, in every state that it
writes, exactly when a usable snapshot carries them itself. -/
theorem seeding_keeps_facts_iff (hseeds : Seeds args) (old : DaemonState)
    (hfile : world.stateFile = some (.durable old)) :
    (CarriesFacts old (final (seedOrSync surroundings config localIdentity args) world).stateFile ∧
      CarriesFacts old
        (final (initializeState surroundings config localIdentity args) world).stateFile) ↔
      ∀ snapshot membership, offeredSnapshot surroundings args = some snapshot →
        Usable config snapshot membership →
          (∀ revocation ∈ old.revocations, revocation ∈ snapshot.revocations) ∧
            membership.subjectPeerId = old.membership.subjectPeerId ∧
            old.membership.issuedAt ≤ membership.issuedAt := by
  constructor
  · rintro ⟨hcarries, -⟩ snapshot membership hoffered husable
    obtain ⟨state, hrun, hrevocations, hmembership⟩ :=
      seedOrSync_of_usable hseeds hoffered husable localIdentity world
    rw [final_of_ok hrun] at hcarries
    rw [← hrevocations, ← hmembership]
    exact hcarries
  · intro hcarried
    by_cases hoffers : ∃ snapshot membership, offeredSnapshot surroundings args = some snapshot ∧
        Usable config snapshot membership
    · obtain ⟨snapshot, membership, hoffered, husable⟩ := hoffers
      obtain ⟨state, hrun, hrevocations, hmembership⟩ :=
        seedOrSync_of_usable hseeds hoffered husable localIdentity world
      have hseeded : CarriesFacts old (some state.saved) := by
        have hfacts := hcarried snapshot membership hoffered husable
        rw [← hrevocations, ← hmembership] at hfacts
        exact hfacts
      refine ⟨by rw [final_of_ok hrun]; exact hseeded, ?_⟩
      rw [initializeState, final_bind_of_ok hrun]
      exact syncRevocations_carries hseeded world
    · obtain ⟨error, hrun⟩ := seedOrSync_of_unusable hseeds
        (fun snapshot membership hoffered husable =>
          hoffers ⟨snapshot, membership, hoffered, husable⟩) localIdentity world
      have hkept : CarriesFacts old world.stateFile := by
        rw [hfile]
        exact CarriesFacts.refl old
      refine ⟨by rw [final_of_error hrun]; exact hkept, ?_⟩
      rw [initializeState, final_of_error (bind_of_error hrun)]
      exact hkept

end Hashing

section Closed
attribute [local instance] Primitives.transparent

def memberSnapshot (revocations : List RevocationRecord) : AuthorityArtifactSnapshot :=
  ⟨NetworkId.derive "mesh", none, some (fixtureDaemonState "mesh").membership, [], revocations, []⟩

def snapshotAt (snapshot : AuthorityArtifactSnapshot) : Surroundings where
  loadAuthoritySnapshot _ := .ok snapshot
  originAt _ := ⟨fun _ => .ok snapshot, .error .networkMismatch, fun _ => .ok []⟩

def seedArgs : Args := { authoritySnapshot := some "authority.json" }

theorem seeding_with_current_snapshot_keeps_facts :
    CarriesFacts revokedFixture
      (final (initializeState (snapshotAt (memberSnapshot revokedFixture.revocations)) meshConfig
        fixtureIdentity seedArgs) (meshWorld revokedFixture [] [])).stateFile := by
  have hseeds : Seeds seedArgs := ⟨rfl, by decide⟩
  refine ((seeding_keeps_facts_iff hseeds revokedFixture rfl).2 ?_).2
  intro snapshot membership hoffered husable
  cases hoffered
  cases husable.2
  exact ⟨fun _ h => h, rfl, le_rfl⟩

theorem seeding_drops_revocation :
    ¬ CarriesFacts revokedFixture
      (final (initializeState (snapshotAt (memberSnapshot [])) meshConfig fixtureIdentity seedArgs)
        (meshWorld revokedFixture [] [])).stateFile := by
  have hseeds : Seeds seedArgs := ⟨rfl, by decide⟩
  have husable : Usable meshConfig (memberSnapshot []) (fixtureDaemonState "mesh").membership :=
    ⟨rfl, rfl⟩
  have hoffered : offeredSnapshot (snapshotAt (memberSnapshot [])) seedArgs =
      some (memberSnapshot []) := rfl
  obtain ⟨state, hrun, hrevocations, -⟩ := seedOrSync_of_usable hseeds hoffered husable
    fixtureIdentity (meshWorld revokedFixture [] [])
  rw [initializeState, final_bind_of_ok hrun]
  rintro ⟨hcarried, -⟩
  have hmem : peerRevocation fixtureWorkerPeer ∈ state.revocations :=
    hcarried _ (by decide +kernel)
  rw [hrevocations] at hmem
  exact List.not_mem_nil hmem

end Closed

end QuipNet.Daemon
