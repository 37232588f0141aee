import QuipNet.PeerEntries

/-!
# Relay maps one after another

A relay map that is not older than the stored one replaces it and writes its relays into the
peer list. What the list says of a peer is made of two last writes: its snapshot, where the
relay map comes last, and its status, where it comes only first.
-/

open Std
namespace QuipNet.Peers

/-- Entries of one peer have one status, as in any list that a peer store writes. -/
def StatusesAgree (peers : List PeerInspection) : Prop :=
  ∀ a ∈ peers, ∀ b ∈ peers, a.snapshot.peer = b.snapshot.peer → a.status = b.status

def entryOf (peers : List PeerInspection) (peer : PeerId) : Option PeerInspection :=
  peers.find? fun entry => entry.snapshot.peer = peer

theorem entryOf_some {peers : List PeerInspection} {peer : PeerId} {entry : PeerInspection}
    (h : entryOf peers peer = some entry) : entry ∈ peers ∧ entry.snapshot.peer = peer := by
  have hpeer := List.find?_some h
  exact ⟨List.mem_of_find?_eq_some h, of_decide_eq_true hpeer⟩

theorem Sorted.nodup_peers {peers : List PeerInspection} (h : Sorted peers) :
    (peers.map fun entry => entry.snapshot.peer).Nodup := List.pairwise_map.2 h.distinct

theorem Sorted.mem_iff {peers : List PeerInspection} (h : Sorted peers) (entry : PeerInspection) :
    entry ∈ peers ↔ entryOf peers entry.snapshot.peer = some entry := by
  constructor
  · intro hmem
    have hsome : (entryOf peers entry.snapshot.peer).isSome := by
      rw [entryOf, List.find?_isSome]
      exact ⟨entry, hmem, decide_eq_true rfl⟩
    obtain ⟨found, hfound⟩ := Option.isSome_iff_exists.1 hsome
    obtain ⟨hmemFound, hpeer⟩ := entryOf_some hfound
    rw [hfound, List.inj_on_of_nodup_map h.nodup_peers hmemFound hmem hpeer]
  · intro hentry
    exact (entryOf_some hentry).1

theorem Sorted.ext {a b : List PeerInspection} (ha : Sorted a) (hb : Sorted b)
    (h : ∀ peer, entryOf a peer = entryOf b peer) : a = b := by
  have hmem : ∀ entry, entry ∈ a ↔ entry ∈ b := by
    intro entry
    rw [ha.mem_iff, hb.mem_iff, h]
  have hperm : a.Perm b :=
    (List.perm_ext_iff_of_nodup (ha.nodup_peers.of_map _) (hb.nodup_peers.of_map _)).2 hmem
  refine hperm.eq_of_pairwise ?_ ha hb
  intro first second _ _ hlt hgt
  have hswap := OrientedCmp.gt_of_lt hlt
  rw [hgt] at hswap
  cases hswap

theorem Sorted.statusesAgree {peers : List PeerInspection} (h : Sorted peers) :
    StatusesAgree peers := by
  intro a ha b hb hpeer
  have hfirst := (h.mem_iff a).1 ha
  rw [hpeer, (h.mem_iff b).1 hb, Option.some.injEq] at hfirst
  rw [hfirst]

end QuipNet.Peers

namespace QuipNet.Fabric
open QuipNet.Library QuipNet.Peers QuipNet.Relay

/-! ## One merge -/

section Merge
variable {existing relays : List PeerInspection}

def lastEntry (existing : List PeerInspection) (peer : PeerId) : Option PeerInspection :=
  lastFor (fun entry => some entry.snapshot.peer) existing peer

def relayStatus (relay : PeerInspection) : PeerStatus :=
  ⟨.relayMap, .unknown, relay.status.lastSeenUnixSecs⟩

/-- What a merge makes of the entry that was there and the one of the relay map. -/
def mergedEntry (old relay : Option PeerInspection) : Option PeerInspection :=
  ((relay.map PeerInspection.snapshot).or (old.map PeerInspection.snapshot)).map fun snapshot =>
    ⟨snapshot, ((old.map PeerInspection.status).or (relay.map relayStatus)).getD {}, 0⟩

theorem lastEntry_mem {peer : PeerId} {entry : PeerInspection}
    (h : lastEntry existing peer = some entry) : entry ∈ existing ∧ entry.snapshot.peer = peer := by
  have hpeer := List.find?_some h
  rw [decide_eq_true_eq, Option.some.injEq] at hpeer
  exact ⟨List.mem_reverse.1 (List.mem_of_find?_eq_some h), hpeer⟩

theorem isSome_lastEntry {peer : PeerId} (h : Lists existing peer) :
    ∃ entry, lastEntry existing peer = some entry := by
  obtain ⟨entry, hentry, hpeer⟩ := h
  rw [← Option.isSome_iff_exists, lastEntry, lastFor, List.find?_isSome]
  exact ⟨entry, List.mem_reverse.2 hentry, decide_eq_true (congrArg some hpeer)⟩

theorem lastEntry_of_sorted (h : Sorted existing) (peer : PeerId) :
    lastEntry existing peer = entryOf existing peer :=
  (find?_eq_lastFor h.distinct peer).symm

theorem storeOf_peers (peer : PeerId) :
    (storeOf existing).peers[peer]? = (lastEntry existing peer).map PeerInspection.snapshot := by
  rw [storeOf, getElem?_foldl_insert PeerStore.peers
    (fun entry : PeerInspection => some entry.snapshot.peer) (fun _ entry => entry.snapshot)]
  · simp [lastEntry]
  · intro store entry
    rfl

theorem storeOf_statuses (peer : PeerId) :
    (storeOf existing).statuses[peer]? = (lastEntry existing peer).map PeerInspection.status := by
  rw [storeOf, getElem?_foldl_insert PeerStore.statuses
    (fun entry : PeerInspection => some entry.snapshot.peer) (fun _ entry => entry.status)]
  · simp [lastEntry]
  · intro store entry
    rfl

theorem entryOf_mergeRelayPeers (hrelays : Sorted relays) (peer : PeerId) :
    entryOf (mergeRelayPeers existing relays) peer =
      mergedEntry (lastEntry existing peer) (entryOf relays peer) := by
  have hkeyed := (upserts_relayEntries.foldl relays (keyed_storeOf existing)).1
  have hrelay : (relays.find? fun entry => entry.snapshot.peer = peer) = entryOf relays peer := rfl
  rw [entryOf, mergeRelayPeers, PeerStore.find?_inspections hkeyed, PeerStore.inspection,
    getElem?_foldl_insert PeerStore.peers
      (fun entry : PeerInspection => some entry.snapshot.peer) (fun _ entry => entry.snapshot),
    getElem?_foldl_keep PeerStore.statuses
      (fun entry : PeerInspection => entry.snapshot.peer) relayStatus,
    storeOf_peers, storeOf_statuses, ← lastEntry, lastEntry_of_sorted hrelays, hrelay, mergedEntry]
  · cases entryOf relays peer with
    | none => cases lastEntry existing peer <;> rfl
    | some relay => rfl
  · intro store entry
    rfl
  · intro store entry
    rfl

theorem mergeRelayPeers_mergeRelayPeers (hrelays : Sorted relays) :
    mergeRelayPeers (mergeRelayPeers existing relays) relays = mergeRelayPeers existing relays := by
  have hmerged := (mergeRelayPeers_spec existing relays).1
  refine (mergeRelayPeers_spec (mergeRelayPeers existing relays) relays).1.ext hmerged ?_
  intro peer
  rw [entryOf_mergeRelayPeers hrelays, lastEntry_of_sorted hmerged,
    entryOf_mergeRelayPeers hrelays]
  cases entryOf relays peer with
  | none => cases lastEntry existing peer <;> rfl
  | some relay => cases lastEntry existing peer <;> rfl

theorem status_mergeRelayPeers (hagree : StatusesAgree existing) (hrelays : Sorted relays)
    {peer : PeerId} {entry : PeerInspection} (h : entryOf existing peer = some entry) :
    ∃ later, entryOf (mergeRelayPeers existing relays) peer = some later ∧
      later.status = entry.status := by
  obtain ⟨hmem, hpeer⟩ := entryOf_some h
  obtain ⟨last, hlast⟩ := isSome_lastEntry ⟨entry, hmem, hpeer⟩
  obtain ⟨hmemLast, hpeerLast⟩ := lastEntry_mem hlast
  have hstatus := hagree last hmemLast entry hmem (hpeerLast.trans hpeer.symm)
  rw [entryOf_mergeRelayPeers hrelays, hlast]
  cases entryOf relays peer with
  | none => exact ⟨_, rfl, hstatus⟩
  | some relay => exact ⟨_, rfl, hstatus⟩

end Merge

/-! ## One relay map and many -/

section Updates
variable {state : DaemonState}

theorem sorted_relayPeers (relayMap : RelayMap) : Sorted (relayPeers relayMap) :=
  (relayPeers_spec relayMap).1

theorem applyRelayMap_of_applied {incoming : RelayMap} (hmap : state.relayMap = some incoming)
    (hpeers : mergeRelayPeers state.peers (relayPeers incoming) = state.peers)
    (hcandidates : CandidatesMerged state) : state.applyRelayMap incoming = (state, 0) := by
  have hstale : (state.relayMap.any fun existing => decide (incoming.version < existing.version)) =
      false := by
    simp [hmap]
  have hknown : (incoming.relays.filter fun relay => !state.relayMap.any fun existing =>
      existing.relays.any fun known => decide (known.peerId = relay.peerId)) = [] := by
    rw [List.filter_eq_nil_iff]
    intro relay hrelay
    simp only [hmap, Option.any_some, Bool.not_eq_true', Bool.not_eq_false, List.any_eq_true]
    exact ⟨relay, hrelay, decide_eq_true rfl⟩
  have hsame : ({ state with
      relayMap := some incoming
      peers := mergeRelayPeers state.peers (relayPeers incoming) } : DaemonState) = state := by
    rw [hpeers, ← hmap]
  have hmerged : state.withMergedCandidates = state := by
    rw [DaemonState.withMergedCandidates, ← hcandidates]
  unfold DaemonState.applyRelayMap
  rw [if_neg (by rw [hstale]; exact Bool.false_ne_true)]
  simp only [hknown, hsame, hmerged, List.length_nil]

theorem applyRelayMap_again (state : DaemonState) (incoming : RelayMap) :
    (state.applyRelayMap incoming).1.applyRelayMap incoming =
      ((state.applyRelayMap incoming).1, 0) := by
  cases hstale : StaleRelayMap state incoming with
  | true => rw [applyRelayMap_of_stale hstale, applyRelayMap_of_stale hstale]
  | false =>
    rw [applyRelayMap_of_current hstale]
    refine applyRelayMap_of_applied rfl ?_ (withMergedCandidates_merged _)
    exact mergeRelayPeers_mergeRelayPeers (sorted_relayPeers incoming)

def storedVersion (state : DaemonState) : WithBot ℕ := state.relayMap.map RelayMap.version

theorem storedVersion_applyRelayMap (state : DaemonState) (incoming : RelayMap) :
    storedVersion state ≤ storedVersion (state.applyRelayMap incoming).1 := by
  cases hstale : StaleRelayMap state incoming with
  | true => rw [applyRelayMap_of_stale hstale]
  | false =>
    rw [applyRelayMap_of_current hstale]
    rw [StaleRelayMap] at hstale
    cases hmap : state.relayMap with
    | none =>
      rw [storedVersion, hmap]
      exact bot_le
    | some existing =>
      simp only [hmap, Option.any_some, decide_eq_false_iff_not, Nat.not_lt] at hstale
      rw [storedVersion, hmap]
      exact WithBot.coe_le_coe.2 hstale

theorem lists_applyRelayMap {incoming : RelayMap} {peer : PeerId} (h : Lists state.peers peer) :
    Lists (state.applyRelayMap incoming).1.peers peer := by
  cases hstale : StaleRelayMap state incoming with
  | true =>
    rw [applyRelayMap_of_stale hstale]
    exact h
  | false =>
    rw [applyRelayMap_of_current hstale]
    exact (mergeRelayPeers_spec state.peers (relayPeers incoming)).2.1 peer h

def shownStatus (state : DaemonState) (peer : PeerId) : Option PeerStatus :=
  (state.peer peer).map PeerInspection.status

theorem shownStatus_applyRelayMap (hagree : StatusesAgree state.peers) (incoming : RelayMap)
    {peer : PeerId} {status : PeerStatus} (h : shownStatus state peer = some status) :
    shownStatus (state.applyRelayMap incoming).1 peer = some status := by
  cases hstale : StaleRelayMap state incoming with
  | true =>
    rw [applyRelayMap_of_stale hstale]
    exact h
  | false =>
    obtain ⟨entry, hentry, rfl⟩ := Option.map_eq_some_iff.1 h
    obtain ⟨later, hlater, hstatus⟩ :=
      status_mergeRelayPeers hagree (sorted_relayPeers incoming) hentry
    rw [applyRelayMap_of_current hstale]
    exact Option.map_eq_some_iff.2 ⟨later, hlater, hstatus⟩

theorem statusesAgree_applyRelayMap (hagree : StatusesAgree state.peers) (incoming : RelayMap) :
    StatusesAgree (state.applyRelayMap incoming).1.peers := by
  cases hstale : StaleRelayMap state incoming with
  | true =>
    rw [applyRelayMap_of_stale hstale]
    exact hagree
  | false =>
    rw [applyRelayMap_of_current hstale]
    exact (mergeRelayPeers_spec state.peers (relayPeers incoming)).1.statusesAgree

def afterRelayMaps (state : DaemonState) (maps : List RelayMap) : DaemonState :=
  maps.foldl (fun state incoming => (state.applyRelayMap incoming).1) state

theorem statusesAgree_afterRelayMaps (hagree : StatusesAgree state.peers) (maps : List RelayMap) :
    StatusesAgree (afterRelayMaps state maps).peers := by
  unfold afterRelayMaps
  induction maps generalizing state with
  | nil => exact hagree
  | cons incoming rest ih => exact ih (statusesAgree_applyRelayMap hagree incoming)

/-- What a relay map may do to a state. -/
structure LawfulRelayStep (state : DaemonState) (incoming : RelayMap) : Prop where
  version : storedVersion state ≤ storedVersion (state.applyRelayMap incoming).1
  stale : StaleRelayMap state incoming = true → state.applyRelayMap incoming = (state, 0)
  again : (state.applyRelayMap incoming).1.applyRelayMap incoming =
    ((state.applyRelayMap incoming).1, 0)
  listed : ∀ peer, Lists state.peers peer → Lists (state.applyRelayMap incoming).1.peers peer

def KeepsStatuses (state : DaemonState) (incoming : RelayMap) : Prop :=
  ∀ peer status, shownStatus state peer = some status →
    shownStatus (state.applyRelayMap incoming).1 peer = some status

/-- Every map of a sequence is lawful; it keeps the statuses where the entries of one peer
agree at the start. -/
theorem relay_map_updates (state : DaemonState) (maps : List RelayMap) (incoming : RelayMap) :
    LawfulRelayStep (afterRelayMaps state maps) incoming ∧
      (StatusesAgree state.peers → KeepsStatuses (afterRelayMaps state maps) incoming) := by
  refine ⟨⟨storedVersion_applyRelayMap _ incoming, applyRelayMap_of_stale,
    applyRelayMap_again _ incoming, fun _ => lists_applyRelayMap⟩, ?_⟩
  intro hagree peer status hstatus
  exact shownStatus_applyRelayMap (statusesAgree_afterRelayMaps hagree maps) incoming hstatus

end Updates

section Closed
attribute [local instance] Primitives.transparent

def grownRelayMap : RelayMap := ⟨3, 1720000900, [
  { fixtureRelay with peerId := fixtureWorkerPeer, advertisedEndpoints := ["udp://198.51.100.24:443"] },
  { fixtureRelay with peerId := fixtureIdentity.peerId, region := "us-east-1" }]⟩

theorem fixture_relay_map_updates :
    (shownStatus (afterRelayMaps (fixtureDaemonState "mesh") [emptiedRelayMap]) fixtureWorkerPeer =
        some ⟨.discovery, .direct, some 1720000120⟩ ∧
      (grownRelayMap.relays.all fun relay => ((afterRelayMaps (fixtureDaemonState "mesh")
        [emptiedRelayMap, grownRelayMap]).peer relay.peerId).isSome) = true) ∧
      KeepsStatuses (afterRelayMaps (fixtureDaemonState "mesh") [emptiedRelayMap]) grownRelayMap :=
  ⟨by decide +kernel, (relay_map_updates (fixtureDaemonState "mesh") [emptiedRelayMap]
    grownRelayMap).2 fixturePeers_spec.1.statusesAgree⟩

def workerEntry (status : PeerStatus) : PeerInspection :=
  ⟨⟨fixtureWorkerPeer, ["/quip/control/1"], ["udp://198.51.100.24:8443"]⟩, status, 0⟩

def twiceListed : DaemonState :=
  ({ fixtureDaemonState "mesh" with
      peers := [workerEntry ⟨.discovery, .direct, some 1720000120⟩,
        workerEntry ⟨.manual, .unreachable, none⟩] } : DaemonState).withMergedCandidates

theorem twice_listed_status_changes :
    CandidatesMerged twiceListed ∧ (∀ entry ∈ twiceListed.peers, entry.recordCount = 0) ∧
      ¬ KeepsStatuses twiceListed emptiedRelayMap := by
  refine ⟨withMergedCandidates_merged _, ?_, ?_⟩
  · intro entry hentry
    rcases List.mem_pair.1 hentry with rfl | rfl <;> rfl
  · intro hkeeps
    have hbefore : shownStatus twiceListed fixtureWorkerPeer =
        some ⟨.discovery, .direct, some 1720000120⟩ := by
      simp [shownStatus, DaemonState.peer, DaemonState.withMergedCandidates, twiceListed,
        workerEntry]
    have hlast : lastEntry twiceListed.peers fixtureWorkerPeer =
        some (workerEntry ⟨.manual, .unreachable, none⟩) := by
      simp [lastEntry, lastFor, DaemonState.withMergedCandidates, twiceListed, workerEntry]
    have hmerged : entryOf (mergeRelayPeers twiceListed.peers (relayPeers emptiedRelayMap))
        fixtureWorkerPeer = _ :=
      entryOf_mergeRelayPeers (sorted_relayPeers emptiedRelayMap) fixtureWorkerPeer
    have hnone : entryOf (relayPeers emptiedRelayMap) fixtureWorkerPeer = none := rfl
    have hafter := hkeeps fixtureWorkerPeer _ hbefore
    have hfresh : StaleRelayMap twiceListed emptiedRelayMap = false := rfl
    rw [applyRelayMap_of_current hfresh] at hafter
    rw [hlast, hnone] at hmerged
    have hentry := congrArg (Option.map PeerInspection.status) hmerged
    cases hentry.symm.trans hafter

end Closed

end QuipNet.Fabric
