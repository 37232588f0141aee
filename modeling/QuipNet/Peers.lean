import QuipNet.Model

/-!
# Known peers and the local network posture

The peer store keeps the last snapshot and status of each peer, in the order of
the peer ids; signed records are not part of the durable state, so a rebuilt
store counts none. The netcheck report, the bootstrap discovery and the queue
policies are plain data with a few readings.
-/

open Std
namespace QuipNet.Peers

structure PeerSnapshot where
  peer : PeerId
  protocols : List String
  addresses : List String
deriving DecidableEq, Repr

inductive PeerSource
  | bootstrap
  | relayMap
  | discovery
  | manual
  | observed
deriving DecidableEq, Repr

inductive PeerReachability
  | unknown
  | direct
  | relayed
  | unreachable
deriving DecidableEq, Repr

structure PeerStatus where
  source : PeerSource := .observed
  reachability : PeerReachability := .unknown
  lastSeenUnixSecs : Option ℕ := none
deriving DecidableEq, Repr

structure PeerInspection where
  snapshot : PeerSnapshot
  status : PeerStatus
  recordCount : ℕ
deriving DecidableEq, Repr

def Sorted (peers : List PeerInspection) : Prop :=
  peers.Pairwise fun a b => compare a.snapshot.peer b.snapshot.peer = .lt

def Lists (peers : List PeerInspection) (peer : PeerId) : Prop :=
  ∃ entry ∈ peers, entry.snapshot.peer = peer

/-- No modelled function appends records. -/
structure PeerStore where
  peers : TreeMap PeerId PeerSnapshot := ∅
  statuses : TreeMap PeerId PeerStatus := ∅

namespace PeerStore

def upsertPeerWithStatus (store : PeerStore) (snapshot : PeerSnapshot) (status : PeerStatus) :
    PeerStore :=
  { peers := store.peers.insert snapshot.peer snapshot
    statuses := store.statuses.insert snapshot.peer status }

def peerStatus (store : PeerStore) (peer : PeerId) : Option PeerStatus := store.statuses[peer]?

def recordCount (_store : PeerStore) (_peer : PeerId) : ℕ := 0

def inspection (store : PeerStore) (peer : PeerId) : Option PeerInspection := do
  let snapshot ← store.peers[peer]?
  pure ⟨snapshot, (store.statuses[peer]?).getD {}, store.recordCount peer⟩

def inspections (store : PeerStore) : List PeerInspection := store.peers.keys.filterMap store.inspection

def Keyed (store : PeerStore) : Prop :=
  ∀ (peer : PeerId) (snapshot : PeerSnapshot), store.peers[peer]? = some snapshot →
    snapshot.peer = peer

def Knows (store : PeerStore) (peer : PeerId) : Prop := peer ∈ store.peers

theorem keyed_empty : ({} : PeerStore).Keyed := by
  intro peer snapshot h
  simp at h

theorem keyed_upsert {store : PeerStore} (h : store.Keyed) (snapshot : PeerSnapshot)
    (status : PeerStatus) : (store.upsertPeerWithStatus snapshot status).Keyed := by
  intro peer other hother
  rw [upsertPeerWithStatus, TreeMap.getElem?_insert] at hother
  split_ifs at hother with hpeer
  · cases hother
    exact LawfulEqOrd.eq_of_compare hpeer
  · exact h peer other hother

theorem knows_upsert (store : PeerStore) (snapshot : PeerSnapshot) (status : PeerStatus)
    (peer : PeerId) :
    (store.upsertPeerWithStatus snapshot status).Knows peer ↔
      snapshot.peer = peer ∨ store.Knows peer := by
  simp [Knows, upsertPeerWithStatus, TreeMap.mem_insert]

theorem inspection_snapshot {store : PeerStore} (h : store.Keyed) {peer : PeerId}
    {entry : PeerInspection} (hentry : store.inspection peer = some entry) :
    entry.snapshot.peer = peer := by
  obtain ⟨snapshot, hsnapshot, hpure⟩ := Option.bind_eq_some_iff.mp hentry
  cases hpure
  exact h peer snapshot hsnapshot

theorem sorted_inspections {store : PeerStore} (h : store.Keyed) : Sorted store.inspections := by
  refine List.pairwise_filterMap.mpr (TreeMap.ordered_keys.imp ?_)
  intro a b hlt entry hentry entry' hentry'
  rw [inspection_snapshot h hentry, inspection_snapshot h hentry']
  exact hlt

theorem lists_inspections {store : PeerStore} (h : store.Keyed) {peer : PeerId}
    (hknows : store.Knows peer) : Lists store.inspections peer := by
  obtain ⟨snapshot, hsnapshot⟩ := Option.isSome_iff_exists.mp (TreeMap.mem_iff_isSome_getElem?.mp hknows)
  let entry : PeerInspection := ⟨snapshot, (store.statuses[peer]?).getD {}, store.recordCount peer⟩
  have hentry : store.inspection peer = some entry := by
    rw [inspection, hsnapshot]
    rfl
  refine ⟨entry, List.mem_filterMap.mpr ⟨peer, TreeMap.mem_keys.mpr hknows, hentry⟩, ?_⟩
  exact inspection_snapshot h hentry

/-- A loop body that stores a snapshot of the peer that the item names, if it names one. -/
def Upserts {ι : Type} (step : PeerStore → ι → PeerStore) (peerOf : ι → Option PeerId) : Prop :=
  ∀ store item, (peerOf item = none ∧ step store item = store) ∨
    ∃ snapshot status, peerOf item = some snapshot.peer ∧
      step store item = store.upsertPeerWithStatus snapshot status

theorem Upserts.foldl {ι : Type} {step : PeerStore → ι → PeerStore} {peerOf : ι → Option PeerId}
    (hstep : Upserts step peerOf) (items : List ι) {store : PeerStore} (hkeyed : store.Keyed) :
    (items.foldl step store).Keyed ∧ ∀ peer, (items.foldl step store).Knows peer ↔
      store.Knows peer ∨ ∃ item ∈ items, peerOf item = some peer := by
  induction items generalizing store with
  | nil => exact ⟨hkeyed, by simp⟩
  | cons item rest ih =>
    rw [List.foldl_cons]
    rcases hstep store item with ⟨hnone, heq⟩ | ⟨snapshot, status, hsome, heq⟩
    · rw [heq]
      refine ⟨(ih hkeyed).1, fun peer => ?_⟩
      rw [(ih hkeyed).2 peer]
      simp [hnone]
    · rw [heq]
      have hrest := ih (keyed_upsert hkeyed snapshot status)
      refine ⟨hrest.1, fun peer => ?_⟩
      rw [hrest.2 peer, knows_upsert]
      simp only [List.mem_cons, exists_eq_or_imp, hsome, Option.some.injEq]
      tauto

theorem Upserts.inspections {ι : Type} {step : PeerStore → ι → PeerStore}
    {peerOf : ι → Option PeerId} (hstep : Upserts step peerOf) (items : List ι) {store : PeerStore}
    (hkeyed : store.Keyed) :
    Sorted (items.foldl step store).inspections ∧
      (∀ peer, store.Knows peer → Lists (items.foldl step store).inspections peer) ∧
      ∀ item ∈ items, ∀ peer, peerOf item = some peer →
        Lists (items.foldl step store).inspections peer := by
  obtain ⟨hfilled, hknows⟩ := hstep.foldl items hkeyed
  refine ⟨sorted_inspections hfilled, fun peer hpeer => ?_, fun item hitem peer hpeer => ?_⟩
  · exact lists_inspections hfilled ((hknows peer).mpr (.inl hpeer))
  · exact lists_inspections hfilled ((hknows peer).mpr (.inr ⟨item, hitem, hpeer⟩))

end PeerStore

namespace Discovery

structure BootstrapHint where
  peer : PeerId
  addresses : List String
  protocols : List String
deriving DecidableEq, Repr

/-- The counters of the ingest report are not read by the daemon. -/
def ingestBootstrap (bootstrap : List BootstrapHint) (seenAt : ℕ) (store : PeerStore) : PeerStore :=
  bootstrap.foldl (fun store hint =>
    store.upsertPeerWithStatus ⟨hint.peer, hint.protocols, hint.addresses⟩
      ⟨.bootstrap, .unknown, some seenAt⟩) store

end Discovery

inductive NatType
  | unknown
  | openInternet
  | fullCone
  | restrictedCone
  | portRestrictedCone
  | symmetric
  | udpBlocked
deriving DecidableEq, Repr

inductive ProbeStatus
  | pending
  | passed
  | failed
deriving DecidableEq, Repr

structure ProbeObservation where
  vantage : String
  status : ProbeStatus
  latencyMs : Option UInt32
  detail : String
deriving DecidableEq, Repr

structure NetcheckReport where
  natType : NatType
  udpReachable : Bool
  ipv6Reachable : Bool
  hairpinSupported : Bool
  publicUdpAddr : Option String
  portMapped : Bool
  probeObservations : List ProbeObservation
deriving DecidableEq, Repr

def NetcheckReport.relayRequired (report : NetcheckReport) : Bool :=
  !report.udpReachable || report.natType = .symmetric || report.natType = .udpBlocked

structure QueuePolicy where
  trafficClass : TrafficClass
  maxInflightMessages : ℕ
  dropStale : Bool
deriving DecidableEq, Repr

def defaultQueuePolicies : List QueuePolicy :=
  [⟨.control, 1024, false⟩, ⟨.interactive, 4096, true⟩, ⟨.bulk, 16384, false⟩,
    ⟨.background, 2048, false⟩]

end QuipNet.Peers
