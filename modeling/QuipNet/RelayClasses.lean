import QuipNet.AuthorityState
import QuipNet.RelayAccounting

/-!
# Traffic classes of a relay

A relay announces its traffic classes as a list of names. The daemon decodes it when it
makes path candidates for the relay, and the relay when it is asked to open a session.
The two decoders differ in the name of the bulk class, and the daemon takes two classes
for granted where it recognises no name.
-/

namespace QuipNet.Fabric
open QuipNet.Peers QuipNet.Relay QuipNet.Routing

/-! ## The two decoders -/

def announcedName : TrafficClass → String
  | .control => "NetworkControl"
  | .interactive => "InteractiveRpc"
  | .background => "Background"
  | .bulk => "Bulk"

theorem relayTrafficClass_eq_some {value : String} {trafficClass : TrafficClass} :
    relayTrafficClass value = some trafficClass ↔ value = announcedName trafficClass := by
  constructor
  · intro h
    unfold relayTrafficClass at h
    split at h <;> cases h <;> rfl
  · rintro rfl
    cases trafficClass <;> rfl

theorem mem_filterMap_relayTrafficClass {values : List String} {trafficClass : TrafficClass} :
    trafficClass ∈ values.filterMap relayTrafficClass ↔ announcedName trafficClass ∈ values := by
  simp only [List.mem_filterMap, relayTrafficClass_eq_some, exists_eq_right]

def Recognised (values : List String) : Prop := ∃ trafficClass, announcedName trafficClass ∈ values

theorem mem_relayTrafficClasses {values : List String} (h : Recognised values)
    {trafficClass : TrafficClass} :
    trafficClass ∈ relayTrafficClasses values ↔ announcedName trafficClass ∈ values := by
  obtain ⟨known, hknown⟩ := h
  have hmem := mem_filterMap_relayTrafficClass.mpr hknown
  have hsome : ¬ (values.filterMap relayTrafficClass).isEmpty = true := by
    rw [List.isEmpty_iff]
    exact List.ne_nil_of_mem hmem
  unfold relayTrafficClasses
  rw [if_neg hsome, mem_filterMap_relayTrafficClass]

theorem relayTrafficClasses_default {values : List String} (h : ¬ Recognised values) :
    relayTrafficClasses values = [.control, .interactive] := by
  have hnone : (values.filterMap relayTrafficClass).isEmpty = true := by
    rw [List.isEmpty_iff, List.eq_nil_iff_forall_not_mem]
    intro trafficClass hmem
    exact h ⟨trafficClass, mem_filterMap_relayTrafficClass.mp hmem⟩
  unfold relayTrafficClasses
  rw [if_pos hnone]

def servedName : TrafficClass → String
  | .control => "NetworkControl"
  | .interactive => "InteractiveRpc"
  | .background => "Background"
  | .bulk => "BulkTransfer"

theorem supportsTrafficClass_iff {values : List String} {trafficClass : TrafficClass} :
    supportsTrafficClass values trafficClass = true ↔ servedName trafficClass ∈ values := by
  unfold supportsTrafficClass
  cases trafficClass <;> simp [servedName]

/-- Where the decoders agree on a class. -/
def AnnouncedAlike (values : List String) : TrafficClass → Prop
  | .control | .interactive => Recognised values
  | .background => True
  | .bulk => "Bulk" ∈ values ↔ "BulkTransfer" ∈ values

theorem decoders_agree_iff (values : List String) (trafficClass : TrafficClass) :
    (trafficClass ∈ relayTrafficClasses values ↔
        supportsTrafficClass values trafficClass = true) ↔
      AnnouncedAlike values trafficClass := by
  rw [supportsTrafficClass_iff]
  by_cases h : Recognised values
  · rw [mem_relayTrafficClasses h]
    cases trafficClass with
    | control => exact iff_of_true Iff.rfl h
    | interactive => exact iff_of_true Iff.rfl h
    | background => exact iff_of_true Iff.rfl trivial
    | bulk => exact Iff.rfl
  · have hunnamed : ∀ trafficClass, announcedName trafficClass ∉ values :=
      fun trafficClass hmem => h ⟨trafficClass, hmem⟩
    rw [relayTrafficClasses_default h]
    cases trafficClass with
    | control =>
      have hserved : servedName .control ∉ values := hunnamed .control
      simp [AnnouncedAlike, h, hserved]
    | interactive =>
      have hserved : servedName .interactive ∉ values := hunnamed .interactive
      simp [AnnouncedAlike, h, hserved]
    | background =>
      have hserved : servedName .background ∉ values := hunnamed .background
      simp [AnnouncedAlike, hserved]
    | bulk =>
      have hbulk : "Bulk" ∉ values := hunnamed .bulk
      simp [AnnouncedAlike, servedName, hbulk]

/-! ## Candidates and requests -/

def SynthesizedFor (netcheck : NetcheckReport) (relay : RelayAnnouncement)
    (candidate : PathCandidate) : Prop :=
  candidate = directRelayCandidate netcheck relay ∨
    ∃ peer, candidate = relayFallbackCandidate netcheck peer relay

theorem SynthesizedFor.supportsClass_iff {netcheck : NetcheckReport} {relay : RelayAnnouncement}
    {candidate : PathCandidate} (h : SynthesizedFor netcheck relay candidate)
    (trafficClass : TrafficClass) :
    candidate.supportsClass trafficClass = true ↔
      trafficClass ∈ relayTrafficClasses relay.trafficClasses := by
  have hclasses : candidate.trafficClasses = relayTrafficClasses relay.trafficClasses := by
    rcases h with rfl | ⟨peer, rfl⟩ <;> rfl
  unfold PathCandidate.supportsClass
  rw [hclasses, List.contains_iff_mem]

theorem directRelayCandidate_mem {state : DaemonState} {relayMap : RelayMap}
    (hmap : state.relayMap = some relayMap) {relay : RelayAnnouncement}
    (hrelay : relay ∈ relayMap.relays) :
    directRelayCandidate state.netcheck relay ∈ synthesizedRelayCandidates state := by
  unfold synthesizedRelayCandidates
  rw [hmap]
  exact List.mem_append_left _ (List.mem_map_of_mem hrelay)

section Requests
variable [Primitives]

theorem rejected_code_of_supports {service : RelayService} {now : ℕ} {sessionId : SessionId}
    {request : RelayOpenRequest} {rejected : RelaySessionRejected} {after : RelayService}
    (hsupports : supportsTrafficClass service.node.announcement.trafficClasses
      request.trafficClass = true)
    (h : RelayService.openSession now sessionId request service = .error rejected after) :
    rejected.code ≠ .unsupportedTrafficClass := by
  cases hrefusal : service.refusal now sessionId request with
  | none =>
    have hadmits := (RelayService.refusal_eq_none_iff service now sessionId request).mp hrefusal
    rw [RelayService.openSession_of_admits hadmits] at h
    cases h
  | some refused =>
    rw [RelayService.openSession_of_refused hrefusal] at h
    cases h
    unfold RelayService.refusal at hrefusal
    rw [hsupports] at hrefusal
    split at hrefusal
    · cases hrefusal
      simp [RelayOpenRequest.reject]
    · simp only [Bool.not_true, Bool.false_eq_true, if_false] at hrefusal
      split at hrefusal
      · cases hrefusal
        dsimp only [RelayOpenRequest.reject]
        split <;> simp
      · split at hrefusal
        · cases hrefusal
          simp [RelayOpenRequest.reject]
        · split_ifs at hrefusal
          cases hrefusal
          simp [RelayOpenRequest.reject]

def stateWithRelay (relay : RelayAnnouncement) : DaemonState :=
  { fixtureDaemonState "mesh" with relayMap := some ⟨1, 1720000000, [relay]⟩ }

theorem relay_classes_agree_iff (relay : RelayAnnouncement) (trafficClass : TrafficClass) :
    ((∀ state, ∀ candidate ∈ synthesizedRelayCandidates state,
        SynthesizedFor state.netcheck relay candidate →
          (candidate.supportsClass trafficClass = true ↔
            supportsTrafficClass relay.trafficClasses trafficClass = true)) ∧
      (∀ candidates decision netcheck, selectBestPath candidates trafficClass = some decision →
        SynthesizedFor netcheck relay decision.selected →
          ∀ (service after : RelayService) now sessionId request rejected,
            service.node.announcement = relay → request.trafficClass = trafficClass →
              RelayService.openSession now sessionId request service = .error rejected after →
                rejected.code ≠ .unsupportedTrafficClass) ∧
      (supportsTrafficClass relay.trafficClasses trafficClass = true →
        ∀ state relayMap, state.relayMap = some relayMap → relay ∈ relayMap.relays →
          ∃ candidate ∈ synthesizedRelayCandidates state,
            SynthesizedFor state.netcheck relay candidate ∧
              candidate.supportsClass trafficClass = true)) ↔
      AnnouncedAlike relay.trafficClasses trafficClass := by
  rw [← decoders_agree_iff]
  constructor
  · rintro ⟨hcandidates, -, -⟩
    have hdirect : SynthesizedFor (stateWithRelay relay).netcheck relay
        (directRelayCandidate (stateWithRelay relay).netcheck relay) := .inl rfl
    have hmem : directRelayCandidate (stateWithRelay relay).netcheck relay ∈
        synthesizedRelayCandidates (stateWithRelay relay) :=
      directRelayCandidate_mem rfl (List.mem_singleton_self relay)
    rw [← hdirect.supportsClass_iff]
    exact hcandidates _ _ hmem hdirect
  · intro hagree
    refine ⟨?_, ?_, ?_⟩
    · intro state candidate _ hcandidate
      rw [hcandidate.supportsClass_iff, hagree]
    · intro candidates decision netcheck hselect hcandidate service after now sessionId request
        rejected hannouncement hclass hrejected
      subst hannouncement hclass
      have hselected := selectBestPath_supportsClass hselect
      rw [hcandidate.supportsClass_iff, hagree] at hselected
      exact rejected_code_of_supports hselected hrejected
    · intro hsupports state relayMap hmap hrelay
      have hdirect : SynthesizedFor state.netcheck relay
          (directRelayCandidate state.netcheck relay) := .inl rfl
      refine ⟨_, directRelayCandidate_mem hmap hrelay, hdirect, ?_⟩
      rw [hdirect.supportsClass_iff, hagree]
      exact hsupports

end Requests

section Closed
attribute [local instance] Primitives.transparent

/-- A relay that serves bulk transfers gets no candidate for them, but one for control traffic
that it refuses. -/
theorem bulk_relay_misread :
    let relay := { fixtureRelay with trafficClasses := ["BulkTransfer"] }
    let candidate := directRelayCandidate pendingNetcheck relay
    supportsTrafficClass relay.trafficClasses .bulk = true ∧
      candidate.supportsClass .bulk = false ∧
      supportsTrafficClass relay.trafficClasses .control = false ∧
      candidate.supportsClass .control = true := by
  decide +kernel

end Closed

end QuipNet.Fabric
