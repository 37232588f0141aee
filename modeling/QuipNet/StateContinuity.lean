import QuipNet.RevocationSync

/-!
# What a written state keeps of the one before

The membership keeps its subject and does not get older, the revocations are extended at the
end, the deny list stays current and the relay map does not go back to an older version. A
property of the revocations is kept when each batch that comes in keeps it.
-/

namespace QuipNet.Fabric
open QuipNet.Control QuipNet.Library QuipNet.Library.Effect QuipNet.Relay QuipNet.Quic
open QuipNet.Transport LocalControlPlane

variable {ρ : Type} {P : List RevocationRecord → Prop}

/-! ## What an authority may hand out -/

structure Feeds (P : List RevocationRecord → Prop) (batch : List RevocationRecord) : Prop where
  fresh : P batch
  merged : ∀ held, P held → P (mergeNew sameRevocation held batch).1

structure OriginFeeds (P : List RevocationRecord → Prop) (origin : AuthorityOrigin) : Prop where
  snapshot : ∀ subject snapshot, origin.snapshot subject = .ok snapshot → Feeds P snapshot.revocations
  revocations : ∀ held batch, P held →
    origin.revocations (held.map RevocationRecord.sequence).max? = .ok batch →
      P (mergeNew knownRevocation held batch).1

theorem feeds_any (batch : List RevocationRecord) : Feeds (fun _ => True) batch :=
  ⟨trivial, fun _ _ => trivial⟩

theorem originFeeds_any (origin : AuthorityOrigin) : OriginFeeds (fun _ => True) origin :=
  ⟨fun _ snapshot _ => feeds_any snapshot.revocations, fun _ _ _ _ => trivial⟩

/-! ## From one state to the next -/

/-- What a state that is written has of the one that was read. -/
structure DaemonState.Continues (P : List RevocationRecord → Prop) (before after : DaemonState) :
    Prop extends before.Extends after where
  denyList : before.DenyListCurrent → after.DenyListCurrent
  relayMap : ∀ known ∈ before.relayMap, ∃ current ∈ after.relayMap, known.version ≤ current.version
  property : P before.revocations → P after.revocations

namespace DaemonState
variable {before middle after : DaemonState}

theorem Continues.of_same (hmembership : after.membership = before.membership)
    (hrevocations : after.revocations = before.revocations)
    (hdenied : after.deniedPeers = before.deniedPeers) (hrelayMap : after.relayMap = before.relayMap) :
    Continues P before after where
  subject := by rw [hmembership]
  issuedAt := by rw [hmembership]
  revocations := by rw [hrevocations]
  denyList h := by rwa [DenyListCurrent, hmembership, hrevocations, hdenied]
  relayMap known h := ⟨known, hrelayMap ▸ h, le_rfl⟩
  property h := by rwa [hrevocations]

theorem Continues.refl (state : DaemonState) : Continues P state state := .of_same rfl rfl rfl rfl

theorem Continues.trans (h₁ : Continues P before middle) (h₂ : Continues P middle after) :
    Continues P before after where
  toExtends := h₁.toExtends.trans h₂.toExtends
  denyList h := h₂.denyList (h₁.denyList h)
  relayMap known h := by
    obtain ⟨current, hcurrent, hnewer⟩ := h₁.relayMap known h
    obtain ⟨latest, hlatest, hlater⟩ := h₂.relayMap current hcurrent
    exact ⟨latest, hlatest, hnewer.trans hlater⟩
  property h := h₂.property (h₁.property h)

theorem applyRevocations_continues {state : DaemonState} {incoming : List RevocationRecord}
    (h : P state.revocations → P (mergeNew knownRevocation state.revocations incoming).1) :
    Continues P state (state.applyRevocations incoming).1 where
  toExtends := state.applyRevocations_extends incoming
  denyList _ := state.applyRevocations_denyListCurrent incoming
  relayMap known h := ⟨known, h, le_rfl⟩
  property := h

theorem applyRelayMap_continues (state : DaemonState) (incoming : RelayMap) :
    Continues P state (state.applyRelayMap incoming).1 := by
  unfold applyRelayMap
  split_ifs with hstale
  · exact .refl state
  · refine ⟨⟨rfl, le_rfl, List.prefix_rfl⟩, id, ?_, id⟩
    intro known hknown
    rw [Option.mem_def.1 hknown, Option.any_some, decide_eq_true_eq, Nat.not_lt] at hstale
    exact ⟨incoming, rfl, hstale⟩

theorem syncAuthoritySnapshot_continues [Primitives] {client : ControlClient}
    {incoming : AuthorityArtifactSnapshot} {report : StateSyncReport}
    (hfeeds : Feeds P incoming.revocations)
    (h : before.syncAuthoritySnapshot client incoming = .ok (after, report)) :
    Continues P before after := by
  refine ⟨syncAuthoritySnapshot_extends h, fun _ => syncAuthoritySnapshot_denyListCurrent h, ?_, ?_⟩
  all_goals obtain ⟨membership, merged, delta, hmerge, -, rfl⟩ := syncAuthoritySnapshot_ok h
  · exact fun known hknown => ⟨known, hknown, le_rfl⟩
  · intro hheld
    obtain ⟨-, -, -, hrevocations⟩ := ControlClient.mergeSnapshot_some hmerge
    change P merged.revocations
    rw [hrevocations]
    exact hfeeds.merged _ hheld

end DaemonState

theorem SameButSessions.continues {before after : DaemonState} (h : SameButSessions before after) :
    before.Continues P after := by
  obtain ⟨sessions, rfl⟩ := h
  exact .of_same rfl rfl rfl rfl

/-- The state may be written over the file: it continues the one that the file holds. -/
def Follows (P : List RevocationRecord → Prop) (state : DaemonState) : Option StateFile → Prop
  | none => P state.revocations
  | some (.durable held) => held.Continues P state
  | some (.damaged _) => False

theorem Follows.trans {before after : DaemonState} {file : Option StateFile}
    (h : Follows P before file) (hafter : before.Continues P after) : Follows P after file := by
  cases file with
  | none => exact hafter.property h
  | some file =>
    cases file with
    | durable held => exact DaemonState.Continues.trans h hafter
    | damaged error => exact h.elim

/-! ## The operations -/

def Continuing {α : Type} (P : List RevocationRecord → Prop) (state : DaemonState)
    (m : FabricM ρ (DaemonState × α)) : Prop :=
  Returns (fun result => state.Continues P result.1) m

theorem Continuing.after {α : Type} {before state : DaemonState} {m : FabricM ρ (DaemonState × α)}
    (h : Continuing P state m) (hbefore : before.Continues P state) : Continuing P before m :=
  fun world result after hrun => hbefore.trans (h world result after hrun)

theorem KeepsState.continuing {α : Type} {state : DaemonState} {m : FabricM ρ (DaemonState × α)}
    (h : KeepsState state m) : Continuing P state m :=
  fun world result after hrun => (h world result after hrun).continues

theorem revokeState_continuing {origin : AuthorityOrigin} (hfeeds : OriginFeeds P origin)
    (state : DaemonState) : Continuing P state (revokeState origin state : FabricM ρ _) := by
  unfold revokeState
  split
  · exact Returns.throw _
  · rename_i batch hanswer
    exact Returns.pure (DaemonState.applyRevocations_continues fun hheld =>
      hfeeds.revocations state.revocations batch hheld hanswer)

theorem reprobedState_continues (reason : String) (state : DaemonState) :
    state.Continues P (reprobedState reason state) := .of_same rfl rfl rfl rfl

theorem follows_of_ensureState [Primitives] {config : DaemonConfig} {world opened : World ρ}
    {state : DaemonState} (h : ensureState config world = .ok state opened) :
    Follows P state opened.stateFile := by
  cases hfile : world.stateFile with
  | none =>
    rw [ensureState_of_none hfile] at h
    cases h
    exact .of_same rfl rfl rfl rfl
  | some file =>
    cases file with
    | durable held =>
      rw [ensureState_of_load hfile rfl] at h
      cases h
      rw [hfile]
      exact .of_same rfl rfl rfl rfl
    | damaged error =>
      rw [ensureState_of_damaged hfile rfl] at h
      cases h

theorem follows_of_syncedState [Primitives] {config : DaemonConfig} {file : Option StateFile}
    {snapshot : AuthorityArtifactSnapshot} (hfeeds : Feeds P snapshot.revocations)
    {result : DaemonState × StateSyncReport}
    (h : syncedState config file snapshot = .ok result) : Follows P result.1 file := by
  rcases syncedState_eq_ok h with ⟨rfl, built, hbuilt, hresult⟩ | ⟨stored, held, rfl, hload, hmerge⟩
  · cases hresult
    change P built.revocations
    rw [fromAuthoritySnapshot_revocations hbuilt]
    exact hfeeds.fresh
  · cases stored with
    | durable durable =>
      cases hload
      have hloaded : durable.Continues P { durable with activeSessions := [], roles := config.roles } :=
        .of_same rfl rfl rfl rfl
      exact hloaded.trans (DaemonState.syncAuthoritySnapshot_continues hfeeds hmerge)
    | damaged error => cases hload

end QuipNet.Fabric
