import QuipNet.PathScores
import QuipNet.Library.FirstLeast

/-!
# What the selection minimizes

The total of a score is the sum of the costs reported beside it, but for bulk traffic, whose
loss is reported and not counted. The selection then takes the candidate of least sum exactly
when the one that leads without the loss has none.
-/

namespace QuipNet.Routing
open QuipNet.Library

def PathScoreBreakdown.reportedSum (score : PathScoreBreakdown) : ℕ :=
  score.latencyCost.toNat + score.jitterCost.toNat + score.lossCost.toNat +
    score.throughputCost.toNat + score.relayCost.toNat

namespace PathCandidate

def reportedSum (candidate : PathCandidate) (trafficClass : TrafficClass) : ℕ :=
  (candidate.scoreBreakdown trafficClass).reportedSum

/-- The reported loss that the total leaves out. -/
def uncountedLoss (candidate : PathCandidate) : TrafficClass → ℕ
  | .bulk => (candidate.lossCost 20).toNat
  | .control | .interactive | .background => 0

variable {candidate : PathCandidate} {trafficClass : TrafficClass}

theorem score_add_uncountedLoss (h : candidate.reportedSum trafficClass < UInt32.size) :
    (candidate.score trafficClass).toNat + candidate.uncountedLoss trafficClass =
      candidate.reportedSum trafficClass := by
  cases trafficClass with
  | control | interactive =>
    change candidate.rttMs.toNat + (candidate.jitterMs * 2).toNat +
      (candidate.lossCost 10).toNat + 0 + candidate.relayPenalty.toNat < _ at h
    change (candidate.rttMs + candidate.jitterMs * 2 + candidate.relayPenalty +
      candidate.lossCost 10).toNat + 0 = candidate.rttMs.toNat + (candidate.jitterMs * 2).toNat +
        (candidate.lossCost 10).toNat + 0 + candidate.relayPenalty.toNat
    have hjitter : (candidate.rttMs + candidate.jitterMs * 2).toNat =
        candidate.rttMs.toNat + (candidate.jitterMs * 2).toNat := toNat_add_of_fits (by omega)
    have hrelay : (candidate.rttMs + candidate.jitterMs * 2 + candidate.relayPenalty).toNat =
        (candidate.rttMs + candidate.jitterMs * 2).toNat + candidate.relayPenalty.toNat :=
      toNat_add_of_fits (by omega)
    rw [toNat_add_of_fits (by omega)]
    omega
  | bulk =>
    change 0 + 0 + (candidate.lossCost 20).toNat +
      (saturatingSub 250 (candidate.throughputMbps / 4)).toNat + candidate.relayPenalty.toNat < _ at h
    change (candidate.relayPenalty + saturatingSub 250 (candidate.throughputMbps / 4)).toNat +
      (candidate.lossCost 20).toNat = 0 + 0 + (candidate.lossCost 20).toNat +
        (saturatingSub 250 (candidate.throughputMbps / 4)).toNat + candidate.relayPenalty.toNat
    rw [toNat_add_of_fits (by omega)]
    omega
  | background =>
    change (candidate.rttMs / 2).toNat + 0 + (candidate.lossCost 8).toNat + 0 +
      candidate.relayPenalty.toNat < _ at h
    change (candidate.relayPenalty + candidate.rttMs / 2 + candidate.lossCost 8).toNat + 0 =
      (candidate.rttMs / 2).toNat + 0 + (candidate.lossCost 8).toNat + 0 +
        candidate.relayPenalty.toNat
    have hrtt : (candidate.relayPenalty + candidate.rttMs / 2).toNat =
        candidate.relayPenalty.toNat + (candidate.rttMs / 2).toNat := toNat_add_of_fits (by omega)
    rw [toNat_add_of_fits (by omega)]
    omega

theorem bulk_score_eq_cost (h : candidate.reportedSum .bulk < UInt32.size) :
    (candidate.score .bulk).toNat = candidate.cost .bulk := by
  refine (checkedScoreBreakdown_of_fits ?_).2
  change 0 + 0 + (candidate.lossCost 20).toNat +
    (saturatingSub 250 (candidate.throughputMbps / 4)).toNat + candidate.relayPenalty.toNat < _ at h
  change candidate.relayPenalty.toNat + (saturatingSub 250 (candidate.throughputMbps / 4)).toNat < _
  omega

end PathCandidate

variable {candidates : List PathCandidate} {trafficClass : TrafficClass}

/-- The candidate leads by `f` among those that carry the class. -/
def LeadsClass (f : PathCandidate → ℕ) (candidates : List PathCandidate)
    (trafficClass : TrafficClass) (candidate : PathCandidate) : Prop :=
  LeadsWhere (fun other => other.supportsClass trafficClass) f candidates candidate

theorem selectBestPath_eq_some_iff {decision : PathDecision} :
    selectBestPath candidates trafficClass = some decision ↔
      decision.trafficClass = trafficClass ∧
        LeadsClass (fun candidate => (candidate.score trafficClass).toNat) candidates trafficClass
          decision.selected := by
  rw [selectBestPath, Option.map_eq_some_iff, LeadsClass, ← argmin_filter_iff]
  constructor
  · rintro ⟨selected, hselected, rfl⟩
    exact ⟨rfl, hselected⟩
  · rintro ⟨rfl, hselected⟩
    exact ⟨decision.selected, hselected, rfl⟩

theorem leadsClass_bulk_iff {candidate : PathCandidate}
    (hfits : ∀ candidate ∈ candidates, candidate.supportsClass .bulk = true →
      candidate.reportedSum .bulk < UInt32.size) :
    LeadsClass (fun other => (other.score .bulk).toNat) candidates .bulk candidate ↔
      LeadsClass (fun other => other.cost .bulk) candidates .bulk candidate :=
  LeadsWhere.congr fun other hother hcarries =>
    PathCandidate.bulk_score_eq_cost (hfits other hother hcarries)

structure MinimizesReported (candidates : List PathCandidate) (trafficClass : TrafficClass) :
    Prop where
  none_iff : selectBestPath candidates trafficClass = none ↔
    ∀ candidate ∈ candidates, candidate.supportsClass trafficClass = false
  leads : ∀ decision, selectBestPath candidates trafficClass = some decision →
    LeadsClass (fun candidate => candidate.reportedSum trafficClass) candidates trafficClass
      decision.selected
  total : ∀ decision, selectBestPath candidates trafficClass = some decision →
    decision.explanation.score.total.toNat = decision.explanation.score.reportedSum

/-- The choice minimizes the costs it reports for every class but bulk, and for bulk exactly
when the candidate that leads by throughput and relay cost reports no loss. -/
theorem selection_minimizes_reported_iff
    (hfits : ∀ candidate ∈ candidates, candidate.supportsClass trafficClass = true →
      candidate.reportedSum trafficClass < UInt32.size) :
    MinimizesReported candidates trafficClass ↔
      (trafficClass = .bulk → ∀ candidate,
        LeadsClass (fun other => other.cost .bulk) candidates .bulk candidate →
          candidate.lossCost 20 = 0) := by
  constructor
  · rintro hminimizes rfl candidate hleads
    have hfit := hfits candidate hleads.mem.1 hleads.mem.2
    have hselected : selectBestPath candidates .bulk = some ⟨candidate, .bulk⟩ :=
      selectBestPath_eq_some_iff.2 ⟨rfl, (leadsClass_bulk_iff hfits).2 hleads⟩
    have htotal : (candidate.score .bulk).toNat = candidate.reportedSum .bulk :=
      hminimizes.total _ hselected
    have hsum := PathCandidate.score_add_uncountedLoss hfit
    have hloss : candidate.uncountedLoss .bulk = 0 := by omega
    exact UInt32.toNat_inj.1 hloss
  · intro hlossless
    have hcounted : ∀ decision, selectBestPath candidates trafficClass = some decision →
        (decision.selected.score trafficClass).toNat =
          decision.selected.reportedSum trafficClass := by
      intro decision hdecision
      obtain ⟨-, hleads⟩ := selectBestPath_eq_some_iff.1 hdecision
      have hsum := PathCandidate.score_add_uncountedLoss (hfits _ hleads.mem.1 hleads.mem.2)
      have hzero : decision.selected.uncountedLoss trafficClass = 0 := by
        cases trafficClass with
        | control | interactive | background => rfl
        | bulk =>
          have hcosts := (leadsClass_bulk_iff hfits).1 hleads
          exact UInt32.toNat_inj.2 (hlossless rfl decision.selected hcosts)
      omega
    refine ⟨?_, ?_, ?_⟩
    · rw [← Option.not_isSome_iff_eq_none, selectBestPath_isSome_iff]
      simp only [not_exists, not_and, Bool.not_eq_true]
    · intro decision hdecision
      obtain ⟨-, hleads⟩ := selectBestPath_eq_some_iff.1 hdecision
      refine hleads.mono (hcounted decision hdecision).symm ?_
      intro other hother hcarries
      have hsum := PathCandidate.score_add_uncountedLoss (hfits other hother hcarries)
      omega
    · intro decision hdecision
      obtain ⟨hclass, -⟩ := selectBestPath_eq_some_iff.1 hdecision
      have hexact := hcounted decision hdecision
      rw [← hclass] at hexact
      exact hexact

section Closed

def lossyFixture : PathCandidate where
  peer := ⟨[1]⟩
  pathKind := .directUdp
  relayPeer := none
  source := .observed
  trafficClasses := [.bulk, .interactive]
  rttMs := 35
  jitterMs := 4
  lossPct := 50
  throughputMbps := 1000
  relayPenalty := 0

def cleanFixture : PathCandidate :=
  { lossyFixture with peer := ⟨[2]⟩, lossPct := 0, throughputMbps := 960 }

def relayedFixture : PathCandidate :=
  { lossyFixture with peer := ⟨[3]⟩, lossPct := 2, throughputMbps := 900, relayPenalty := 20 }

def rpcFixture : PathCandidate :=
  { cleanFixture with peer := ⟨[4]⟩, throughputMbps := 1000, trafficClasses := [.interactive] }

theorem clean_bulk_selection :
    selectBestPath [relayedFixture, rpcFixture, cleanFixture] .bulk =
        some ⟨cleanFixture, .bulk⟩ ∧
      MinimizesReported [relayedFixture, rpcFixture, cleanFixture] .bulk := by
  have hfits : ∀ candidate ∈ [relayedFixture, rpcFixture, cleanFixture],
      candidate.supportsClass .bulk = true → candidate.reportedSum .bulk < UInt32.size := by
    decide +kernel
  have hselected : selectBestPath [relayedFixture, rpcFixture, cleanFixture] .bulk =
      some ⟨cleanFixture, .bulk⟩ := by decide +kernel
  refine ⟨hselected, (selection_minimizes_reported_iff hfits).2 fun _ candidate hleads => ?_⟩
  have hleader : selectBestPath [relayedFixture, rpcFixture, cleanFixture] .bulk =
      some ⟨candidate, .bulk⟩ :=
    selectBestPath_eq_some_iff.2 ⟨rfl, (leadsClass_bulk_iff hfits).2 hleads⟩
  rw [hselected] at hleader
  cases hleader
  decide +kernel

/-- The lossy path is reported with a loss cost of 1000 and a total of 0, and wins over a
path whose costs sum up to 10. -/
theorem lossy_bulk_selection :
    (∀ candidate ∈ [cleanFixture, lossyFixture], candidate.reportedSum .bulk < UInt32.size) ∧
      selectBestPath [cleanFixture, lossyFixture] .bulk = some ⟨lossyFixture, .bulk⟩ ∧
      lossyFixture.reportedSum .bulk = 1000 ∧ (lossyFixture.score .bulk).toNat = 0 ∧
      cleanFixture.reportedSum .bulk = 10 ∧
      ¬ MinimizesReported [cleanFixture, lossyFixture] .bulk := by
  have hselected : selectBestPath [cleanFixture, lossyFixture] .bulk =
      some ⟨lossyFixture, .bulk⟩ := by decide +kernel
  refine ⟨by decide +kernel, hselected, by decide +kernel, by decide +kernel, by decide +kernel, ?_⟩
  intro hminimizes
  have htotal := hminimizes.total _ hselected
  revert htotal
  decide +kernel

end Closed

end QuipNet.Routing
