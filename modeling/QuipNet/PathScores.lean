import QuipNet.Coherence

/-!
# Scores that fit in 32 bits

A score is a sum of `u32` costs, which a checked build refuses to wrap. The round trip
times that the daemon synthesizes follow the measured probe latencies and saturate at the
largest `u32`, so that the other costs no longer fit beside them.
-/

open Std
namespace QuipNet.Routing

def checkedAdd (a b : UInt32) : Option UInt32 :=
  if a.toNat + b.toNat < UInt32.size then some (a + b) else none

def checkedMul (a b : UInt32) : Option UInt32 :=
  if a.toNat * b.toNat < UInt32.size then some (a * b) else none

namespace PathCandidate

/-- `score_breakdown` in a checked build, where an overflow is a panic. -/
def checkedScoreBreakdown (candidate : PathCandidate) (trafficClass : TrafficClass) :
    Option PathScoreBreakdown :=
  match trafficClass with
  | .control | .interactive => do
    let jitterCost ← checkedMul candidate.jitterMs 2
    let total ← checkedAdd candidate.rttMs jitterCost
    let total ← checkedAdd total candidate.relayPenalty
    let total ← checkedAdd total (candidate.lossCost 10)
    pure { candidate.scoreBreakdown trafficClass with total, jitterCost }
  | .bulk => do
    let total ← checkedAdd candidate.relayPenalty
      (saturatingSub 250 (candidate.throughputMbps / 4))
    pure { candidate.scoreBreakdown trafficClass with total }
  | .background => do
    let total ← checkedAdd candidate.relayPenalty (candidate.rttMs / 2)
    let total ← checkedAdd total (candidate.lossCost 8)
    pure { candidate.scoreBreakdown trafficClass with total }

def cost (candidate : PathCandidate) : TrafficClass → ℕ
  | .control | .interactive => candidate.rttMs.toNat + candidate.jitterMs.toNat * 2 +
      candidate.relayPenalty.toNat + (candidate.lossCost 10).toNat
  | .bulk => candidate.relayPenalty.toNat +
      (saturatingSub 250 (candidate.throughputMbps / 4)).toNat
  | .background => candidate.relayPenalty.toNat + candidate.rttMs.toNat / 2 +
      (candidate.lossCost 8).toNat

end PathCandidate

theorem toNat_add_of_fits {a b : UInt32} (h : a.toNat + b.toNat < UInt32.size) :
    (a + b).toNat = a.toNat + b.toNat := by
  rw [UInt32.toNat_add]
  exact Nat.mod_eq_of_lt h

theorem toNat_mul_of_fits {a b : UInt32} (h : a.toNat * b.toNat < UInt32.size) :
    (a * b).toNat = a.toNat * b.toNat := by
  rw [UInt32.toNat_mul]
  exact Nat.mod_eq_of_lt h

theorem checkedAdd_of_fits {a b : UInt32} (h : a.toNat + b.toNat < UInt32.size) :
    checkedAdd a b = some (a + b) := if_pos h

theorem checkedMul_of_fits {a b : UInt32} (h : a.toNat * b.toNat < UInt32.size) :
    checkedMul a b = some (a * b) := if_pos h

theorem checkedAdd_eq_some {a b c : UInt32} (h : checkedAdd a b = some c) :
    a.toNat + b.toNat < UInt32.size ∧ c.toNat = a.toNat + b.toNat := by
  unfold checkedAdd at h
  split_ifs at h with hfits
  cases h
  exact ⟨hfits, toNat_add_of_fits hfits⟩

theorem checkedMul_eq_some {a b c : UInt32} (h : checkedMul a b = some c) :
    c.toNat = a.toNat * b.toNat := by
  unfold checkedMul at h
  split_ifs at h with hfits
  cases h
  exact toNat_mul_of_fits hfits

namespace PathCandidate

variable {candidate : PathCandidate} {trafficClass : TrafficClass}

theorem cost_fits_of_checked (h : (candidate.checkedScoreBreakdown trafficClass).isSome) :
    candidate.cost trafficClass < UInt32.size := by
  obtain ⟨score, hscore⟩ := Option.isSome_iff_exists.1 h
  cases trafficClass with
  | control | interactive =>
    simp only [checkedScoreBreakdown, Option.bind_eq_bind, Option.bind_eq_some_iff] at hscore
    obtain ⟨jitterCost, hjitter, rtt, hrtt, relayed, hrelayed, total, htotal, -⟩ := hscore
    have hjitter := checkedMul_eq_some hjitter
    have hrtt := (checkedAdd_eq_some hrtt).2
    have hrelayed := (checkedAdd_eq_some hrelayed).2
    have hfits := (checkedAdd_eq_some htotal).1
    rw [hrelayed, hrtt, hjitter] at hfits
    exact hfits
  | bulk =>
    simp only [checkedScoreBreakdown, Option.bind_eq_bind, Option.bind_eq_some_iff] at hscore
    obtain ⟨total, htotal, -⟩ := hscore
    exact (checkedAdd_eq_some htotal).1
  | background =>
    simp only [checkedScoreBreakdown, Option.bind_eq_bind, Option.bind_eq_some_iff] at hscore
    obtain ⟨halved, hhalved, total, htotal, -⟩ := hscore
    have hhalved := (checkedAdd_eq_some hhalved).2
    have hfits := (checkedAdd_eq_some htotal).1
    rw [hhalved] at hfits
    exact hfits

/-- A cost that fits is what both builds compute. -/
theorem checkedScoreBreakdown_of_fits (h : candidate.cost trafficClass < UInt32.size) :
    candidate.checkedScoreBreakdown trafficClass = some (candidate.scoreBreakdown trafficClass) ∧
      (candidate.score trafficClass).toNat = candidate.cost trafficClass := by
  cases trafficClass with
  | control | interactive =>
    simp only [cost] at h
    have hproduct : candidate.jitterMs.toNat * (2 : UInt32).toNat < UInt32.size := by
      change candidate.jitterMs.toNat * 2 < UInt32.size
      omega
    have hjitter : (candidate.jitterMs * 2).toNat = candidate.jitterMs.toNat * 2 :=
      toNat_mul_of_fits hproduct
    have hrtt : candidate.rttMs.toNat + (candidate.jitterMs * 2).toNat < UInt32.size := by omega
    have hrttSum := toNat_add_of_fits hrtt
    have hrelayed : (candidate.rttMs + candidate.jitterMs * 2).toNat +
        candidate.relayPenalty.toNat < UInt32.size := by
      omega
    have hrelayedSum := toNat_add_of_fits hrelayed
    have htotal : (candidate.rttMs + candidate.jitterMs * 2 + candidate.relayPenalty).toNat +
        (candidate.lossCost 10).toNat < UInt32.size := by
      omega
    refine ⟨?_, ?_⟩
    · simp only [checkedScoreBreakdown, checkedMul_of_fits hproduct, checkedAdd_of_fits hrtt,
        checkedAdd_of_fits hrelayed, checkedAdd_of_fits htotal, Option.bind_eq_bind,
        Option.bind_some, Option.pure_def]
      rfl
    · change (candidate.rttMs + candidate.jitterMs * 2 + candidate.relayPenalty +
        candidate.lossCost 10).toNat = _
      rw [toNat_add_of_fits htotal, hrelayedSum, hrttSum, hjitter]
      rfl
  | bulk =>
    refine ⟨?_, toNat_add_of_fits h⟩
    simp only [checkedScoreBreakdown, checkedAdd_of_fits h, Option.bind_eq_bind, Option.bind_some,
      Option.pure_def]
    rfl
  | background =>
    simp only [cost] at h
    have hhalf : (candidate.rttMs / 2).toNat = candidate.rttMs.toNat / 2 :=
      UInt32.toNat_div candidate.rttMs 2
    have hrelayed : candidate.relayPenalty.toNat + (candidate.rttMs / 2).toNat < UInt32.size := by
      omega
    have hrelayedSum := toNat_add_of_fits hrelayed
    have htotal : (candidate.relayPenalty + candidate.rttMs / 2).toNat +
        (candidate.lossCost 8).toNat < UInt32.size := by
      omega
    refine ⟨?_, ?_⟩
    · simp only [checkedScoreBreakdown, checkedAdd_of_fits hrelayed, checkedAdd_of_fits htotal,
        Option.bind_eq_bind, Option.bind_some, Option.pure_def]
      rfl
    · change (candidate.relayPenalty + candidate.rttMs / 2 + candidate.lossCost 8).toNat = _
      rw [toNat_add_of_fits htotal, hrelayedSum, hhalf]
      rfl

end PathCandidate

end QuipNet.Routing

namespace QuipNet.Fabric
open QuipNet.Peers QuipNet.Relay QuipNet.Routing

/-! ## Synthesized candidates -/

theorem toNat_saturatingAdd (a b : UInt32) :
    (saturatingAdd a b).toNat = min (a.toNat + b.toNat) (UInt32.size - 1) := by
  unfold saturatingAdd
  split_ifs with hfits
  · rw [toNat_add_of_fits hfits, min_eq_left (Nat.le_sub_one_of_lt hfits)]
  · rw [min_eq_right (by omega)]
    rfl

theorem toNat_saturatingMul (a b : UInt32) :
    (saturatingMul a b).toNat = min (a.toNat * b.toNat) (UInt32.size - 1) := by
  unfold saturatingMul
  split_ifs with hfits
  · rw [toNat_mul_of_fits hfits, min_eq_left (Nat.le_sub_one_of_lt hfits)]
  · rw [min_eq_right (by omega)]
    rfl

/-- What `direct_relay_rtt_ms` adds to the latency. -/
def relayDetour (netcheck : NetcheckReport) (relay : RelayAnnouncement) : ℕ :=
  if relayPathKind relay = .directIpv6 ∧ netcheck.ipv6Reachable then 5 else 15

/-- The least latency of a passed probe leaves room for the other costs of each candidate:
jitter, loss, the way over the relay and the relay penalty. -/
structure LatencyFits (state : DaemonState) (latency : ℕ) : Prop where
  bootstrap : state.netcheck.udpReachable ∨ state.netcheck.ipv6Reachable →
    ∀ endpoint ∈ state.bootstrap, endpoint.peer.isSome → endpoint.addresses.any isDirectQuicAddress →
      latency + (if state.netcheck.udpReachable then 8 else 39) < UInt32.size
  relays : ∀ relay ∈ state.relayAnnouncements, latency + relayDetour state.netcheck relay +
    (if state.netcheck.udpReachable then 11 else 46) < UInt32.size
  fallbacks : ∀ relay ∈ state.relayAnnouncements, ∀ entry ∈ state.peers,
    entry.snapshot.peer ∉ state.relayAnnouncements.map RelayAnnouncement.peerId →
      2 * (latency + relayDetour state.netcheck relay) +
        (if state.netcheck.udpReachable then 70 else 105) < UInt32.size

/-! ## Their costs

The loss terms for latency are 2 and 15 for a bootstrap candidate, with and without UDP, 3
and 18 for a relay, and 7 and 22 for the way over a relay. -/

theorem loss_terms :
    (((0.2 : Float32) * 10).toUInt32.toNat = 2 ∧ ((1.5 : Float32) * 10).toUInt32.toNat = 15 ∧
      ((0.3 : Float32) * 10).toUInt32.toNat = 3 ∧ ((1.8 : Float32) * 10).toUInt32.toNat = 18 ∧
      (((0.3 : Float32) + 0.4) * 10).toUInt32.toNat = 7 ∧
      (((1.8 : Float32) + 0.4) * 10).toUInt32.toNat = 22) ∧
    ((0.2 : Float32) * 8).toUInt32.toNat ≤ 17 ∧ ((1.5 : Float32) * 8).toUInt32.toNat ≤ 17 ∧
      ((0.3 : Float32) * 8).toUInt32.toNat ≤ 17 ∧ ((1.8 : Float32) * 8).toUInt32.toNat ≤ 17 ∧
      (((0.3 : Float32) + 0.4) * 8).toUInt32.toNat ≤ 17 ∧
      (((1.8 : Float32) + 0.4) * 8).toUInt32.toNat ≤ 17 := by
  decide +kernel

section Costs
variable (netcheck : NetcheckReport)

theorem directBootstrap_cost (peer : PeerId) (pathKind : PathKind) :
    (directBootstrapCandidate netcheck peer pathKind).cost .interactive =
      (directBootstrapRttMs netcheck).toNat + (if netcheck.udpReachable then 8 else 39) := by
  simp only [PathCandidate.cost, PathCandidate.lossCost, directBootstrapCandidate,
    directBootstrapJitterMs, directBootstrapLossPct]
  obtain ⟨⟨hudp, hblocked, -⟩, -⟩ := loss_terms
  cases netcheck.udpReachable with
  | true => simp [hudp]
  | false => simp [hblocked]

theorem directRelay_cost (relay : RelayAnnouncement) :
    (directRelayCandidate netcheck relay).cost .interactive =
      (directRelayRttMs relay netcheck).toNat + (if netcheck.udpReachable then 11 else 46) := by
  simp only [PathCandidate.cost, PathCandidate.lossCost, directRelayCandidate,
    directRelayJitterMs, directRelayLossPct]
  obtain ⟨⟨-, -, hudp, hblocked, -⟩, -⟩ := loss_terms
  cases netcheck.udpReachable with
  | true => simp [hudp]
  | false => simp [hblocked]

theorem relayFallback_cost (peer : PeerId) (relay : RelayAnnouncement) :
    (relayFallbackCandidate netcheck peer relay).cost .interactive =
      (relayFallbackRttMs relay netcheck).toNat + (if netcheck.udpReachable then 50 else 85) := by
  simp only [PathCandidate.cost, PathCandidate.lossCost, relayFallbackCandidate,
    relayFallbackJitterMs, directRelayJitterMs, relayFallbackLossPct, directRelayLossPct,
    toNat_saturatingAdd]
  obtain ⟨⟨-, -, -, -, hudp, hblocked⟩, -⟩ := loss_terms
  cases netcheck.udpReachable with
  | true => simp [hudp]
  | false => simp [hblocked]

theorem directRelayRttMs_toNat (relay : RelayAnnouncement) :
    (directRelayRttMs relay netcheck).toNat =
      min (((bestProbeLatencyMs netcheck).getD (if netcheck.udpReachable then 30 else 70)).toNat +
        relayDetour netcheck relay) (UInt32.size - 1) := by
  unfold directRelayRttMs relayDetour
  dsimp only
  split_ifs <;> exact toNat_saturatingAdd _ _

theorem relayFallbackRttMs_toNat (relay : RelayAnnouncement) :
    (relayFallbackRttMs relay netcheck).toNat =
      min (2 * (directRelayRttMs relay netcheck).toNat + 20) (UInt32.size - 1) := by
  rw [relayFallbackRttMs, toNat_saturatingAdd, toNat_saturatingMul]
  change min (min ((directRelayRttMs relay netcheck).toNat * 2) (UInt32.size - 1) + 20) _ = _
  omega

theorem relayDetour_le (relay : RelayAnnouncement) : relayDetour netcheck relay ≤ 15 := by
  unfold relayDetour
  split_ifs <;> omega

end Costs

section Fits
variable {state : DaemonState}

theorem bulk_fits_of_mem_synthesized {candidate : PathCandidate}
    (h : candidate ∈ synthesizedCandidates state) :
    candidate.cost .bulk < UInt32.size ∧ candidate.cost .background < UInt32.size := by
  obtain ⟨-, hdirectUdp, hdirectBlocked, hrelayUdp, hrelayBlocked, hoverUdp, hoverBlocked⟩ := loss_terms
  have hsmall : candidate.relayPenalty.toNat ≤ 25 ∧ (candidate.lossCost 8).toNat ≤ 17 := by
    rcases List.mem_append.1 h with hdirect | hrelay
    · obtain ⟨-, endpoint, -, -, peer, -, rfl⟩ := mem_synthesizedDirectBootstrapCandidates.1 hdirect
      refine ⟨by simp [directBootstrapCandidate], ?_⟩
      simp only [PathCandidate.lossCost, directBootstrapCandidate, directBootstrapLossPct]
      split_ifs
      · exact hdirectUdp
      · exact hdirectBlocked
    · obtain ⟨relay, -, rfl | ⟨entry, -, -, rfl⟩⟩ := mem_synthesizedRelayCandidates.1 hrelay
      · refine ⟨by simp [directRelayCandidate], ?_⟩
        simp only [PathCandidate.lossCost, directRelayCandidate, directRelayLossPct]
        split_ifs
        · exact hrelayUdp
        · exact hrelayBlocked
      · refine ⟨by simp [relayFallbackCandidate], ?_⟩
        simp only [PathCandidate.lossCost, relayFallbackCandidate, relayFallbackLossPct,
          directRelayLossPct]
        split_ifs
        · exact hoverUdp
        · exact hoverBlocked
  have hthroughput : (saturatingSub 250 (candidate.throughputMbps / 4)).toNat ≤ 250 := by
    unfold saturatingSub
    split_ifs with hle
    · rw [UInt32.toNat_sub_of_le _ _ hle]
      exact Nat.sub_le _ _
    · exact Nat.zero_le _
  have hrtt := candidate.rttMs.toNat_lt
  simp only [PathCandidate.cost, UInt32.size]
  omega

theorem interactive_fits_iff :
    (∀ candidate ∈ synthesizedCandidates state, candidate.cost .interactive < UInt32.size) ↔
      ∀ latency, bestProbeLatencyMs state.netcheck = some latency →
        LatencyFits state latency.toNat := by
  constructor
  · intro hfits latency hlatency
    refine ⟨?_, ?_, ?_⟩
    · intro hreachable endpoint hendpoint hpeer hdirect
      obtain ⟨peer, hpeer⟩ := Option.isSome_iff_exists.1 hpeer
      have hmem := mem_synthesizedDirectBootstrapCandidates.2
        ⟨hreachable, endpoint, hendpoint, hdirect, peer, hpeer, rfl⟩
      have hcost := hfits _ (List.mem_append_left _ hmem)
      rw [directBootstrap_cost, directBootstrapRttMs, hlatency] at hcost
      exact hcost
    · intro relay hrelay
      have hmem := mem_synthesizedRelayCandidates.2 ⟨relay, hrelay, .inl rfl⟩
      have hcost := hfits _ (List.mem_append_right _ hmem)
      rw [directRelay_cost, directRelayRttMs_toNat, hlatency, Option.getD_some] at hcost
      split_ifs at hcost ⊢ <;> omega
    · intro relay hrelay entry hentry hother
      have hmem := mem_synthesizedRelayCandidates.2
        ⟨relay, hrelay, .inr ⟨entry, hentry, hother, rfl⟩⟩
      have hcost := hfits _ (List.mem_append_right _ hmem)
      rw [relayFallback_cost, relayFallbackRttMs_toNat, directRelayRttMs_toNat, hlatency,
        Option.getD_some] at hcost
      split_ifs at hcost ⊢ <;> omega
  · intro hfits candidate hmem
    rcases List.mem_append.1 hmem with hdirect | hrelay
    · obtain ⟨hreachable, endpoint, hendpoint, hquic, peer, hpeer, rfl⟩ :=
        mem_synthesizedDirectBootstrapCandidates.1 hdirect
      rw [directBootstrap_cost, directBootstrapRttMs]
      cases hlatency : bestProbeLatencyMs state.netcheck with
      | none => split_ifs <;> decide
      | some latency =>
        exact (hfits latency hlatency).bootstrap hreachable endpoint hendpoint
          (by rw [hpeer]; rfl) hquic
    · obtain ⟨relay, hannounced, rfl | ⟨entry, hentry, hother, rfl⟩⟩ :=
        mem_synthesizedRelayCandidates.1 hrelay
      · have hdetour := relayDetour_le state.netcheck relay
        rw [directRelay_cost, directRelayRttMs_toNat]
        cases hlatency : bestProbeLatencyMs state.netcheck with
        | none =>
          simp only [Option.getD_none]
          split_ifs <;> simp only [UInt32.reduceToNat, UInt32.size] <;> omega
        | some latency =>
          have hlimit := (hfits latency hlatency).relays relay hannounced
          simp only [Option.getD_some]
          omega
      · have hdetour := relayDetour_le state.netcheck relay
        rw [relayFallback_cost, relayFallbackRttMs_toNat, directRelayRttMs_toNat]
        cases hlatency : bestProbeLatencyMs state.netcheck with
        | none =>
          simp only [Option.getD_none]
          split_ifs <;> simp only [UInt32.reduceToNat, UInt32.size] <;> omega
        | some latency =>
          have hlimit := (hfits latency hlatency).fallbacks relay hannounced entry hentry hother
          simp only [Option.getD_some]
          split_ifs at hlimit ⊢ <;> omega

theorem checked_iff_fits {candidate : PathCandidate} {trafficClass : TrafficClass} :
    candidate.checkedScoreBreakdown trafficClass = some (candidate.scoreBreakdown trafficClass) ↔
      candidate.cost trafficClass < UInt32.size := by
  constructor
  · intro hchecked
    exact PathCandidate.cost_fits_of_checked (by rw [hchecked]; rfl)
  · intro hfits
    exact (PathCandidate.checkedScoreBreakdown_of_fits hfits).1

/-- The scores of the synthesized candidates are exact in every build when the class does
not count latency in full, or the measured latency leaves room for the other costs. -/
theorem synthesized_scores_exact_iff (state : DaemonState) (trafficClass : TrafficClass) :
    (∀ candidate ∈ synthesizedCandidates state,
      candidate.checkedScoreBreakdown trafficClass = some (candidate.scoreBreakdown trafficClass)) ↔
      (trafficClass = .control ∨ trafficClass = .interactive →
        ∀ latency, bestProbeLatencyMs state.netcheck = some latency →
          LatencyFits state latency.toNat) := by
  simp only [checked_iff_fits]
  cases trafficClass with
  | control =>
    rw [← interactive_fits_iff]
    exact ⟨fun hfits _ => hfits, fun hfits => hfits (.inl rfl)⟩
  | interactive =>
    rw [← interactive_fits_iff]
    exact ⟨fun hfits _ => hfits, fun hfits => hfits (.inr rfl)⟩
  | bulk =>
    refine ⟨fun _ hclass => by simp at hclass, fun _ candidate hmem => ?_⟩
    exact (bulk_fits_of_mem_synthesized hmem).1
  | background =>
    refine ⟨fun _ hclass => by simp at hclass, fun _ candidate hmem => ?_⟩
    exact (bulk_fits_of_mem_synthesized hmem).2

end Fits

section Closed
attribute [local instance] Primitives.transparent

def slowProbeFixture : DaemonState :=
  { fixtureDaemonState "mesh" with
    netcheck := { (fixtureDaemonState "mesh").netcheck with
      probeObservations := [⟨"slow", .passed, some 4294967295, ""⟩] } }

/-- The bootstrap path of the slow fixture costs 4294967303, which wraps around to 7 and
wins. -/
theorem slow_probe_score_wraps :
    ∃ candidate ∈ mergedPathCandidates slowProbeFixture,
      candidate ∈ synthesizedCandidates slowProbeFixture ∧
        candidate.checkedScoreBreakdown .interactive = none ∧
        candidate.rttMs = 4294967295 ∧ candidate.score .interactive = 7 ∧
        slowProbeFixture.withMergedCandidates.bestPath fixtureWorkerPeer .interactive =
          some ⟨candidate, .interactive⟩ := by
  decide +kernel

end Closed

end QuipNet.Fabric
