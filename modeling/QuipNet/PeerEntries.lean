import QuipNet.Coherence
import QuipNet.Library.LastWrite

/-!
# The addresses of a peer's entry

The entry of a peer holds the addresses that were written last: those of its last hint
in the last sync that named it, or those it advertises as a relay, whichever came later.
-/

open Std
namespace QuipNet.Peers
open QuipNet.Library

def entryAddresses (peers : List PeerInspection) (peer : PeerId) : Option (List String) :=
  (peers.find? fun entry => entry.snapshot.peer = peer).map fun entry => entry.snapshot.addresses

/-- The addresses that a store built from the list holds. -/
def storedAddresses (peers : List PeerInspection) (peer : PeerId) : Option (List String) :=
  (lastFor (fun entry => some entry.snapshot.peer) peers peer).map fun entry =>
    entry.snapshot.addresses

theorem lists_of_entryAddresses {peers : List PeerInspection} {peer : PeerId}
    {addresses : List String} (h : entryAddresses peers peer = some addresses) :
    Lists peers peer := by
  obtain ⟨entry, hentry, -⟩ := Option.map_eq_some_iff.1 h
  have hpeer := List.find?_some hentry
  exact ⟨entry, List.mem_of_find?_eq_some hentry, of_decide_eq_true hpeer⟩

theorem exists_entryAddresses {peers : List PeerInspection} {peer : PeerId} (h : Lists peers peer) :
    ∃ addresses, entryAddresses peers peer = some addresses := by
  obtain ⟨entry, hentry, hpeer⟩ := h
  rw [← Option.isSome_iff_exists, entryAddresses, Option.isSome_map, List.find?_isSome]
  exact ⟨entry, hentry, decide_eq_true hpeer⟩

theorem exists_storedAddresses {peers : List PeerInspection} {peer : PeerId}
    (h : Lists peers peer) : ∃ addresses, storedAddresses peers peer = some addresses := by
  obtain ⟨entry, hentry, hpeer⟩ := h
  rw [← Option.isSome_iff_exists, storedAddresses, Option.isSome_map, lastFor, List.find?_isSome]
  exact ⟨entry, List.mem_reverse.2 hentry, decide_eq_true (congrArg some hpeer)⟩

theorem Sorted.distinct {peers : List PeerInspection} (h : Sorted peers) :
    peers.Pairwise fun a b => a.snapshot.peer ≠ b.snapshot.peer := by
  refine h.imp ?_
  intro a b hlt heq
  rw [heq, ReflOrd.compare_self] at hlt
  cases hlt

theorem Sorted.storedAddresses {peers : List PeerInspection} (h : Sorted peers) (peer : PeerId) :
    storedAddresses peers peer = entryAddresses peers peer := by
  rw [Peers.storedAddresses, entryAddresses, find?_eq_lastFor h.distinct]

namespace PeerStore

theorem mem_inspections {store : PeerStore} (h : store.Keyed) {entry : PeerInspection} :
    entry ∈ store.inspections ↔ store.inspection entry.snapshot.peer = some entry := by
  constructor
  · intro hmem
    obtain ⟨peer, -, hentry⟩ := List.mem_filterMap.1 hmem
    rw [inspection_snapshot h hentry]
    exact hentry
  · intro hentry
    refine List.mem_filterMap.2 ⟨entry.snapshot.peer, ?_, hentry⟩
    obtain ⟨snapshot, hsnapshot, -⟩ := Option.bind_eq_some_iff.1 hentry
    rw [TreeMap.mem_keys, TreeMap.mem_iff_isSome_getElem?, hsnapshot]
    rfl

theorem find?_inspections {store : PeerStore} (h : store.Keyed) (peer : PeerId) :
    (store.inspections.find? fun entry => entry.snapshot.peer = peer) = store.inspection peer := by
  cases hentry : store.inspection peer with
  | none =>
    rw [List.find?_eq_none]
    intro entry hmem hpeer
    rw [decide_eq_true_eq] at hpeer
    rw [mem_inspections h, hpeer, hentry] at hmem
    cases hmem
  | some entry =>
    have hpeer := inspection_snapshot h hentry
    have hsome : (store.inspections.find? fun entry => entry.snapshot.peer = peer).isSome := by
      rw [List.find?_isSome]
      refine ⟨entry, (mem_inspections h).2 ?_, decide_eq_true hpeer⟩
      rw [hpeer]
      exact hentry
    obtain ⟨found, hfound⟩ := Option.isSome_iff_exists.1 hsome
    have hmem := (mem_inspections h).1 (List.mem_of_find?_eq_some hfound)
    have hfoundPeer := List.find?_some hfound
    rw [decide_eq_true_eq] at hfoundPeer
    rw [hfoundPeer, hentry] at hmem
    rw [hfound, hmem]

theorem entryAddresses_inspections {store : PeerStore} (h : store.Keyed) (peer : PeerId) :
    entryAddresses store.inspections peer = store.peers[peer]?.map PeerSnapshot.addresses := by
  rw [entryAddresses, find?_inspections h, inspection]
  cases store.peers[peer]? <;> rfl

end PeerStore

end QuipNet.Peers

namespace QuipNet.Fabric
open QuipNet.Library QuipNet.Peers QuipNet.Relay

def hintedAddresses (bootstrap : List BootstrapEndpoint) (peer : PeerId) : Option (List String) :=
  (lastFor BootstrapEndpoint.peer bootstrap peer).map BootstrapEndpoint.addresses

def advertisedAddresses (relays : List RelayAnnouncement) (peer : PeerId) : Option (List String) :=
  (lastFor (fun relay => some relay.peerId) relays peer).map RelayAnnouncement.advertisedEndpoints

section Merges

theorem foldl_entries_addresses {step : PeerStore → PeerInspection → PeerStore}
    (hstep : ∀ store entry, (step store entry).peers =
      store.peers.insert entry.snapshot.peer entry.snapshot) (entries : List PeerInspection)
    (store : PeerStore) (peer : PeerId) :
    (entries.foldl step store).peers[peer]?.map PeerSnapshot.addresses =
      (storedAddresses entries peer).or (store.peers[peer]?.map PeerSnapshot.addresses) := by
  rw [getElem?_foldl_insert PeerStore.peers
    (fun entry : PeerInspection => some entry.snapshot.peer) (fun _ entry => entry.snapshot) hstep,
    storedAddresses, Option.map_or, Option.map_map]
  rfl

theorem addresses_storeOf (existing : List PeerInspection) (peer : PeerId) :
    (storeOf existing).peers[peer]?.map PeerSnapshot.addresses = storedAddresses existing peer := by
  rw [storeOf, foldl_entries_addresses]
  · simp
  · intro store entry
    rfl

theorem upsertBootstrap_peers (statusOf : PeerStore → PeerId → PeerStatus) (store : PeerStore)
    (endpoint : BootstrapEndpoint) :
    (upsertBootstrap statusOf store endpoint).peers = endpoint.peer.elim store.peers fun peer =>
      store.peers.insert peer ⟨peer, endpoint.protocols, endpoint.addresses⟩ := by
  unfold upsertBootstrap
  cases endpoint.peer <;> rfl

theorem foldl_upsertBootstrap_addresses (statusOf : PeerStore → PeerId → PeerStatus)
    (endpoints : List BootstrapEndpoint) (store : PeerStore) (peer : PeerId) :
    (endpoints.foldl (upsertBootstrap statusOf) store).peers[peer]?.map PeerSnapshot.addresses =
      (hintedAddresses endpoints peer).or (store.peers[peer]?.map PeerSnapshot.addresses) := by
  rw [getElem?_foldl_insert PeerStore.peers BootstrapEndpoint.peer
    (fun peer endpoint => ⟨peer, endpoint.protocols, endpoint.addresses⟩)
    (upsertBootstrap_peers statusOf), Option.map_or, Option.map_map]
  rfl

theorem entryAddresses_mergeBootstrapPeers (existing : List PeerInspection)
    (endpoints : List BootstrapEndpoint) (peer : PeerId) :
    entryAddresses (mergeBootstrapPeers existing endpoints) peer =
      (hintedAddresses endpoints peer).or (storedAddresses existing peer) := by
  have hkeyed := ((upserts_bootstrap fun store peer =>
    (store.peerStatus peer).getD bootstrapStatus).foldl endpoints (keyed_storeOf existing)).1
  rw [mergeBootstrapPeers, PeerStore.entryAddresses_inspections hkeyed,
    foldl_upsertBootstrap_addresses, addresses_storeOf]

theorem relayPeers_spec (relayMap : RelayMap) : Sorted (relayPeers relayMap) ∧ ∀ peer,
    entryAddresses (relayPeers relayMap) peer = advertisedAddresses relayMap.relays peer := by
  have hkeyed :=
    ((upserts_relays relayMap.generatedAt).foldl relayMap.relays PeerStore.keyed_empty).1
  refine ⟨PeerStore.sorted_inspections hkeyed, ?_⟩
  intro peer
  rw [relayPeers, PeerStore.entryAddresses_inspections hkeyed, getElem?_foldl_insert PeerStore.peers
    (fun relay : RelayAnnouncement => some relay.peerId)
    (fun _ relay => ⟨relay.peerId, ["/quip/relay/1"], relay.advertisedEndpoints⟩)]
  · simp [advertisedAddresses, Function.comp_def]
  · intro store relay
    rfl

theorem entryAddresses_mergeRelayPeers (existing : List PeerInspection) (relayMap : RelayMap)
    (peer : PeerId) :
    entryAddresses (mergeRelayPeers existing (relayPeers relayMap)) peer =
      (advertisedAddresses relayMap.relays peer).or (storedAddresses existing peer) := by
  obtain ⟨hsorted, haddresses⟩ := relayPeers_spec relayMap
  have hkeyed := (upserts_relayEntries.foldl (relayPeers relayMap) (keyed_storeOf existing)).1
  rw [mergeRelayPeers, PeerStore.entryAddresses_inspections hkeyed, foldl_entries_addresses,
    hsorted.storedAddresses, haddresses, addresses_storeOf]
  intro store entry
  rfl

end Merges

end QuipNet.Fabric
