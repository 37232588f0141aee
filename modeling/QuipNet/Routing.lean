import QuipNet.Model

/-!
# Path candidates and their cost

Costs are `u32` sums that wrap, as in a release build; the loss term is a
saturating cast of a 32-bit float. The selected candidate is the first of least
cost among those that carry the traffic class.
-/

namespace QuipNet.Routing

inductive PathSource
  | observed
  | bootstrap
  | authorityRelay
deriving DecidableEq, Repr

def PathSource.debug : PathSource → String
  | .observed => "Observed"
  | .bootstrap => "Bootstrap"
  | .authorityRelay => "AuthorityRelay"

structure PathCandidate where
  peer : PeerId
  pathKind : PathKind
  relayPeer : Option PeerId
  source : PathSource
  trafficClasses : List TrafficClass
  rttMs : UInt32
  jitterMs : UInt32
  lossPct : Float32
  throughputMbps : UInt32
  relayPenalty : UInt32
deriving DecidableEq, Repr

structure PathScoreBreakdown where
  total : UInt32
  latencyCost : UInt32
  jitterCost : UInt32
  lossCost : UInt32
  throughputCost : UInt32
  relayCost : UInt32
deriving DecidableEq, Repr

def saturatingSub (a b : UInt32) : UInt32 := if b ≤ a then a - b else 0

namespace PathCandidate

def supportsClass (candidate : PathCandidate) (trafficClass : TrafficClass) : Bool :=
  candidate.trafficClasses.contains trafficClass

/-- `(loss_pct * factor) as u32`. -/
def lossCost (candidate : PathCandidate) (factor : Float32) : UInt32 :=
  (candidate.lossPct * factor).toUInt32

def scoreBreakdown (candidate : PathCandidate) : TrafficClass → PathScoreBreakdown
  | .control | .interactive =>
    { total := candidate.rttMs + candidate.jitterMs * 2 + candidate.relayPenalty +
        candidate.lossCost 10
      latencyCost := candidate.rttMs
      jitterCost := candidate.jitterMs * 2
      lossCost := candidate.lossCost 10
      throughputCost := 0
      relayCost := candidate.relayPenalty }
  | .bulk =>
    { total := candidate.relayPenalty + saturatingSub 250 (candidate.throughputMbps / 4)
      latencyCost := 0
      jitterCost := 0
      lossCost := candidate.lossCost 20
      throughputCost := saturatingSub 250 (candidate.throughputMbps / 4)
      relayCost := candidate.relayPenalty }
  | .background =>
    { total := candidate.relayPenalty + candidate.rttMs / 2 + candidate.lossCost 8
      latencyCost := candidate.rttMs / 2
      jitterCost := 0
      lossCost := candidate.lossCost 8
      throughputCost := 0
      relayCost := candidate.relayPenalty }

def score (candidate : PathCandidate) (trafficClass : TrafficClass) : UInt32 :=
  (candidate.scoreBreakdown trafficClass).total

end PathCandidate

structure PathExplanation where
  trafficClass : TrafficClass
  score : PathScoreBreakdown
  summary : String
  strengths : List String
  tradeoffs : List String
deriving DecidableEq, Repr

/-- The nearest integer to `numerator / denominator`, and the even one of two. -/
def roundHalfEven (numerator denominator : ℕ) : ℕ :=
  let quotient := numerator / denominator
  let twice := 2 * (numerator % denominator)
  if twice < denominator ∨ twice = denominator ∧ quotient % 2 = 0 then quotient else quotient + 1

def formatTenths (x : Float32) : String :=
  match x.toRatParts with
  | none => if x.isNaN then "NaN" else if x < 0 then "-inf" else "inf"
  | some (v, e) =>
    let tenths := roundHalfEven (10 * v.natAbs * 2 ^ e.toNat) (2 ^ (-e).toNat)
    (if v < 0 then "-" else "") ++ Nat.repr (tenths / 10) ++ "." ++ Nat.repr (tenths % 10)

namespace PathCandidate

def summary (candidate : PathCandidate) (trafficClass : TrafficClass) : String :=
  candidate.pathKind.debug ++ " routing for " ++ candidate.peer.toText ++ " via " ++
    (candidate.relayPeer.map PeerId.toText).getD "direct" ++ " from " ++ candidate.source.debug ++
    " scores " ++ Nat.repr (candidate.score trafficClass).toNat ++ " for " ++ trafficClass.debug ++
    " traffic"

def strengths (candidate : PathCandidate) : List String :=
  (if candidate.rttMs ≤ 25 then ["low RTT at " ++ Nat.repr candidate.rttMs.toNat ++ " ms"] else []) ++
  (if 500 ≤ candidate.throughputMbps then
    ["high throughput at " ++ Nat.repr candidate.throughputMbps.toNat ++ " Mbps"] else []) ++
  (if candidate.relayPenalty = 0 then ["direct routing avoids relay tax"] else []) ++
  (if candidate.pathKind = .relay then
    (candidate.relayPeer.map fun peer => "reachable through relay " ++ peer.toText).toList else [])

def tradeoffs (candidate : PathCandidate) : List String :=
  (if candidate.pathKind = .relay then ["relay routing adds intermediate hop cost"] else []) ++
  (if 1 ≤ candidate.lossPct then
    ["loss is elevated at " ++ formatTenths candidate.lossPct ++ "%"] else []) ++
  (if 10 ≤ candidate.jitterMs then
    ["jitter is elevated at " ++ Nat.repr candidate.jitterMs.toNat ++ " ms"] else [])

def explain (candidate : PathCandidate) (trafficClass : TrafficClass) : PathExplanation where
  trafficClass := trafficClass
  score := candidate.scoreBreakdown trafficClass
  summary := candidate.summary trafficClass
  strengths := candidate.strengths
  tradeoffs := candidate.tradeoffs

end PathCandidate

/-- `PathDecision`; its explanation is that of the selected candidate. -/
structure PathDecision where
  selected : PathCandidate
  trafficClass : TrafficClass
deriving DecidableEq, Repr

def PathDecision.explanation (decision : PathDecision) : PathExplanation :=
  decision.selected.explain decision.trafficClass

def selectBestPath (candidates : List PathCandidate) (trafficClass : TrafficClass) :
    Option PathDecision :=
  ((candidates.filter fun candidate => candidate.supportsClass trafficClass).argmin
    fun candidate => (candidate.score trafficClass).toNat).map fun selected =>
      ⟨selected, trafficClass⟩

theorem selectBestPath_isSome_iff {candidates : List PathCandidate} {trafficClass : TrafficClass} :
    (selectBestPath candidates trafficClass).isSome = true ↔
      ∃ candidate ∈ candidates, candidate.supportsClass trafficClass = true := by
  rw [selectBestPath, Option.isSome_map, Option.isSome_iff_ne_none, Ne, List.argmin_eq_none,
    List.filter_eq_nil_iff]
  push Not
  rfl

theorem selectBestPath_supportsClass {candidates : List PathCandidate} {trafficClass : TrafficClass}
    {decision : PathDecision} (h : selectBestPath candidates trafficClass = some decision) :
    decision.selected.supportsClass trafficClass = true := by
  obtain ⟨selected, hselected, rfl⟩ := Option.map_eq_some_iff.1 h
  exact (List.mem_filter.1 (List.argmin_mem hselected)).2

end QuipNet.Routing
