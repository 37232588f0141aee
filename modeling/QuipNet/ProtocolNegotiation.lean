import QuipNet.Model
import QuipNet.Library.Loop

/-!
# Protocol negotiation

Each of two registries negotiates the descriptors that the other one offers. The two ends run
the same loop on swapped inputs: an offer is matched with the local descriptor of its id, and
the match does not depend on which of the two is local.
-/

open Std
namespace QuipNet.Protocol
open QuipNet.Library.Effect

inductive ProtocolError
  | unregistered (id : String)
  | noCompatibleVersion (id : String)
deriving DecidableEq, Repr

def ProtocolError.text : ProtocolError → String
  | .unregistered id => "protocol is not registered: " ++ id
  | .noCompatibleVersion id => "no mutually compatible version for protocol: " ++ id

structure ProtocolDescriptor where
  id : ProtocolId
  compatibleVersions : Finset ℕ
  requiredFeatures : Finset String
  optionalFeatures : Finset String

structure NegotiatedProtocol where
  id : ProtocolId
  version : ℕ
  enabledFeatures : Finset String
deriving DecidableEq

/-- `BTreeMap<String, ProtocolDescriptor>`, keyed by the text of the id. -/
structure ProtocolRegistry where
  protocols : TreeMap String ProtocolDescriptor := ∅
  keyed : ∀ (id : String) (descriptor : ProtocolDescriptor),
    protocols[id]? = some descriptor → descriptor.id.text = id := by simp

def greatestCommon (left right : Finset ℕ) : Option ℕ :=
  if h : (left ∩ right).Nonempty then some ((left ∩ right).max' h) else none

def agree (descriptor offer : ProtocolDescriptor) : Except ProtocolError NegotiatedProtocol :=
  match greatestCommon descriptor.compatibleVersions offer.compatibleVersions with
  | none => .error (.noCompatibleVersion offer.id.text)
  | some version =>
    .ok ⟨offer.id, version, descriptor.optionalFeatures ∩ offer.optionalFeatures⟩

namespace ProtocolRegistry

def register (registry : ProtocolRegistry) (descriptor : ProtocolDescriptor) :
    ProtocolRegistry where
  protocols := registry.protocols.insert descriptor.id.text descriptor
  keyed := by
    intro id other h
    rw [TreeMap.getElem?_insert] at h
    split_ifs at h with hid
    · cases h
      exact LawfulEqOrd.eq_of_compare hid
    · exact registry.keyed id other h

def negotiateOffer (registry : ProtocolRegistry) (offer : ProtocolDescriptor) :
    Except ProtocolError NegotiatedProtocol :=
  match registry.protocols[offer.id.text]? with
  | none => .error (.unregistered offer.id.text)
  | some descriptor => agree descriptor offer

/-- The loop over the offers, which ends at the first one that fails. -/
def negotiate (registry : ProtocolRegistry) (peerOffers : List ProtocolDescriptor) :
    Except ProtocolError (List NegotiatedProtocol) :=
  peerOffers.mapM registry.negotiateOffer

def descriptors (registry : ProtocolRegistry) : List ProtocolDescriptor :=
  registry.protocols.toList.map Prod.snd

theorem mem_descriptors {registry : ProtocolRegistry} {descriptor : ProtocolDescriptor} :
    descriptor ∈ registry.descriptors ↔
      registry.protocols[descriptor.id.text]? = some descriptor := by
  simp only [descriptors, List.mem_map, Prod.exists, TreeMap.mem_toList_iff_getElem?_eq_some,
    exists_eq_right]
  constructor
  · intro ⟨id, hentry⟩
    rw [registry.keyed id descriptor hentry]
    exact hentry
  · intro hentry
    exact ⟨_, hentry⟩

theorem descriptors_pairwise (registry : ProtocolRegistry) :
    registry.descriptors.Pairwise fun left right => left.id ≠ right.id := by
  rw [descriptors, List.pairwise_map]
  refine TreeMap.distinct_keys_toList.imp_of_mem ?_
  intro left right hleft hright hkeys heq
  have hidLeft := registry.keyed left.1 left.2 (TreeMap.mem_toList_iff_getElem?_eq_some.1 hleft)
  have hidRight := registry.keyed right.1 right.2 (TreeMap.mem_toList_iff_getElem?_eq_some.1 hright)
  apply hkeys
  rw [← hidLeft, ← hidRight, heq]
  exact ReflCmp.compare_self

end ProtocolRegistry

theorem greatestCommon_eq_some_iff {left right : Finset ℕ} {version : ℕ} :
    greatestCommon left right = some version ↔
      IsGreatest {v | v ∈ left ∧ v ∈ right} version := by
  have hset : {v | v ∈ left ∧ v ∈ right} = (↑(left ∩ right) : Set ℕ) := by
    rw [Finset.coe_inter]
    rfl
  rw [greatestCommon, hset]
  split_ifs with h
  · rw [Option.some.injEq]
    constructor
    · rintro rfl
      exact (left ∩ right).isGreatest_max' h
    · exact ((left ∩ right).isGreatest_max' h).unique
  · simp only [false_iff]
    exact fun hgreatest => h ⟨version, Finset.mem_coe.1 hgreatest.1⟩

theorem agree_comm {left right : ProtocolDescriptor} (hid : left.id = right.id) :
    agree left right = agree right left := by
  simp only [agree, greatestCommon, hid, Finset.inter_comm left.compatibleVersions,
    Finset.inter_comm left.optionalFeatures]

theorem agree_eq_ok_iff {descriptor offer : ProtocolDescriptor} {agreed : NegotiatedProtocol} :
    agree descriptor offer = .ok agreed ↔ agreed.id = offer.id ∧
      IsGreatest {v | v ∈ descriptor.compatibleVersions ∧ v ∈ offer.compatibleVersions}
        agreed.version ∧
      agreed.enabledFeatures = descriptor.optionalFeatures ∩ offer.optionalFeatures := by
  rw [← greatestCommon_eq_some_iff, agree]
  cases hversion : greatestCommon descriptor.compatibleVersions offer.compatibleVersions with
  | none => simp
  | some version =>
    simp only [Except.ok.injEq, Option.some.injEq]
    constructor
    · rintro rfl
      exact ⟨rfl, rfl, rfl⟩
    · rintro ⟨hid, hv, hfeatures⟩
      rw [← hid, hv, ← hfeatures]

namespace ProtocolRegistry

section Symmetry
variable {a b : ProtocolRegistry} {offersA offersB : List ProtocolDescriptor}

def SameIds (a b : ProtocolRegistry) : Prop := ∀ id, id ∈ a.protocols ↔ id ∈ b.protocols

theorem SameIds.symm (h : SameIds a b) : SameIds b a := fun id => (h id).symm

theorem SameIds.counterpart (h : SameIds a b) {offer : ProtocolDescriptor}
    (hoffer : offer ∈ b.descriptors) :
    ∃ descriptor ∈ a.descriptors, descriptor.id = offer.id ∧
      a.negotiateOffer offer = agree descriptor offer ∧
      b.negotiateOffer descriptor = agree descriptor offer := by
  rw [mem_descriptors] at hoffer
  have hknown : offer.id.text ∈ a.protocols :=
    (h _).2 (TreeMap.mem_iff_isSome_getElem?.2 (by rw [hoffer]; rfl))
  obtain ⟨descriptor, hdescriptor⟩ :=
    Option.isSome_iff_exists.1 (TreeMap.mem_iff_isSome_getElem?.1 hknown)
  have htext := a.keyed _ _ hdescriptor
  have hid : descriptor.id = offer.id := congrArg ProtocolId.mk htext
  refine ⟨descriptor, ?_, hid, ?_, ?_⟩
  · rw [mem_descriptors, htext]
    exact hdescriptor
  · rw [negotiateOffer, hdescriptor]
  · rw [negotiateOffer, hid, hoffer, agree_comm hid]

theorem negotiate_isOk_of (h : SameIds a b) (hA : offersA.Perm a.descriptors)
    (hB : offersB.Perm b.descriptors) (hok : ∃ agreed, a.negotiate offersB = .ok agreed) :
    ∃ agreed, b.negotiate offersA = .ok agreed := by
  rw [negotiate, mapM_isOk_iff] at hok ⊢
  intro offer hoffer
  obtain ⟨descriptor, hdescriptor, -, hb, ha⟩ := h.symm.counterpart (hA.mem_iff.1 hoffer)
  obtain ⟨agreed, hagreed⟩ := hok descriptor (hB.mem_iff.2 hdescriptor)
  exact ⟨agreed, by rw [hb, ← ha, hagreed]⟩

theorem mem_agreed_of (h : SameIds a b) (hA : offersA.Perm a.descriptors)
    (hB : offersB.Perm b.descriptors) {agreedA agreedB : List NegotiatedProtocol}
    (ha : a.negotiate offersB = .ok agreedA) (hb : b.negotiate offersA = .ok agreedB)
    {agreed : NegotiatedProtocol} (hagreed : agreed ∈ agreedA) : agreed ∈ agreedB := by
  obtain ⟨offer, hoffer, hresult⟩ := exists_mem_of_forall₂ (mapM_eq_ok_iff.1 ha) _ hagreed
  obtain ⟨descriptor, hdescriptor, -, hlocal, hremote⟩ := h.counterpart (hB.mem_iff.1 hoffer)
  obtain ⟨other, hother, hagrees⟩ :=
    exists_mem_of_forall₂' (mapM_eq_ok_iff.1 hb) _ (hA.mem_iff.2 hdescriptor)
  rw [hremote, ← hlocal, hresult] at hagrees
  cases hagrees
  exact hother

theorem id_of_negotiateOffer {offer : ProtocolDescriptor} {agreed : NegotiatedProtocol}
    (h : a.negotiateOffer offer = .ok agreed) : agreed.id = offer.id := by
  unfold negotiateOffer at h
  split at h
  · cases h
  · exact (agree_eq_ok_iff.1 h).1

theorem ids_of_negotiate {offers : List ProtocolDescriptor} {agreed : List NegotiatedProtocol}
    (h : a.negotiate offers = .ok agreed) :
    agreed.map NegotiatedProtocol.id = offers.map ProtocolDescriptor.id := by
  have hforall := mapM_eq_ok_iff.1 h
  clear h
  induction hforall with
  | nil => rfl
  | cons hitem hrest ih =>
    rw [List.map_cons, List.map_cons, ih, id_of_negotiateOffer hitem]

theorem nodup_agreed (hB : offersB.Perm b.descriptors) {agreed : List NegotiatedProtocol}
    (h : a.negotiate offersB = .ok agreed) : agreed.Nodup := by
  refine List.Nodup.of_map NegotiatedProtocol.id ?_
  rw [ids_of_negotiate h]
  refine (hB.map ProtocolDescriptor.id).nodup_iff.2 ?_
  exact List.pairwise_map.2 b.descriptors_pairwise

/-- Two ends with the same protocol ids agree or fail together, and what they agree on is the
same but for the order, which is that of the offers. -/
theorem negotiation_symmetric (h : SameIds a b) (hA : offersA.Perm a.descriptors)
    (hB : offersB.Perm b.descriptors) :
    ((∃ agreed, a.negotiate offersB = .ok agreed) ↔ ∃ agreed, b.negotiate offersA = .ok agreed) ∧
      ∀ agreedA agreedB, a.negotiate offersB = .ok agreedA → b.negotiate offersA = .ok agreedB →
        agreedA.Perm agreedB ∧
        agreedA.map NegotiatedProtocol.id = offersB.map ProtocolDescriptor.id ∧
        agreedB.map NegotiatedProtocol.id = offersA.map ProtocolDescriptor.id ∧
        ∀ agreed ∈ agreedA, ∃ descriptor ∈ offersA, ∃ offer ∈ offersB,
          descriptor.id = agreed.id ∧ offer.id = agreed.id ∧
          IsGreatest {v | v ∈ descriptor.compatibleVersions ∧ v ∈ offer.compatibleVersions}
            agreed.version ∧
          agreed.enabledFeatures = descriptor.optionalFeatures ∩ offer.optionalFeatures := by
  refine ⟨⟨negotiate_isOk_of h hA hB, negotiate_isOk_of h.symm hB hA⟩, ?_⟩
  intro agreedA agreedB ha hb
  refine ⟨?_, ids_of_negotiate ha, ids_of_negotiate hb, ?_⟩
  · rw [List.perm_ext_iff_of_nodup (nodup_agreed hB ha) (nodup_agreed hA hb)]
    intro agreed
    exact ⟨mem_agreed_of h hA hB ha hb, mem_agreed_of h.symm hB hA hb ha⟩
  · intro agreed hagreed
    obtain ⟨offer, hoffer, hresult⟩ := exists_mem_of_forall₂ (mapM_eq_ok_iff.1 ha) _ hagreed
    obtain ⟨descriptor, hdescriptor, hid, hlocal, -⟩ := h.counterpart (hB.mem_iff.1 hoffer)
    rw [hlocal, agree_eq_ok_iff] at hresult
    obtain ⟨hagreedId, hversion, hfeatures⟩ := hresult
    exact ⟨descriptor, hA.mem_iff.2 hdescriptor, offer, hoffer, hid.trans hagreedId.symm,
      hagreedId.symm, hversion, hfeatures⟩

end Symmetry

/-! ## Required features -/

section RequiredFeatures
variable {registry : ProtocolRegistry} {offers : List ProtocolDescriptor}

/-- What `descriptor` requires, `other` requires or offers. -/
def RequirementsMet (descriptor other : ProtocolDescriptor) : Prop :=
  descriptor.requiredFeatures ⊆ other.requiredFeatures ∪ other.optionalFeatures

instance (descriptor other : ProtocolDescriptor) : Decidable (RequirementsMet descriptor other) :=
  inferInstanceAs (Decidable ((_ : Finset String) ⊆ _))

def Meets (registry : ProtocolRegistry) (offer descriptor : ProtocolDescriptor) : Prop :=
  registry.protocols[offer.id.text]? = some descriptor ∧
    (descriptor.compatibleVersions ∩ offer.compatibleVersions).Nonempty

/-- In every negotiation of the offers that succeeds, each negotiated protocol has what its two
ends require. -/
def HonoursRequired (registry : ProtocolRegistry) (offers : List ProtocolDescriptor) : Prop :=
  ∀ agreed, registry.negotiate offers = .ok agreed →
    List.Forall₂ (fun offer (result : NegotiatedProtocol) => result.id = offer.id ∧
      ∃ descriptor, registry.protocols[offer.id.text]? = some descriptor ∧
        RequirementsMet descriptor offer ∧ RequirementsMet offer descriptor) offers agreed

theorem negotiateOffer_isOk_iff {offer : ProtocolDescriptor} :
    (∃ agreed, registry.negotiateOffer offer = .ok agreed) ↔
      ∃ descriptor, registry.Meets offer descriptor := by
  unfold negotiateOffer Meets
  cases hlocal : registry.protocols[offer.id.text]? with
  | none => simp
  | some descriptor =>
    simp only [Option.some.injEq, exists_eq_left']
    rw [agree, greatestCommon]
    split_ifs with hcommon
    · exact ⟨fun _ => hcommon, fun _ => ⟨_, rfl⟩⟩
    · simp [hcommon]

theorem negotiate_isOk_iff : (∃ agreed, registry.negotiate offers = .ok agreed) ↔
    ∀ offer ∈ offers, ∃ descriptor, registry.Meets offer descriptor := by
  rw [negotiate, mapM_isOk_iff]
  simp only [negotiateOffer_isOk_iff]

/-- Required features are not looked at: they are honoured when an offer fails for another
reason, and when they happen to be met. -/
theorem honoursRequired_iff (registry : ProtocolRegistry) (offers : List ProtocolDescriptor) :
    registry.HonoursRequired offers ↔
      (∃ offer ∈ offers, ∀ descriptor, ¬ registry.Meets offer descriptor) ∨
        ∀ offer ∈ offers, ∀ descriptor, registry.Meets offer descriptor →
          RequirementsMet descriptor offer ∧ RequirementsMet offer descriptor := by
  constructor
  · intro hhonours
    by_cases hmeets : ∀ offer ∈ offers, ∃ descriptor, registry.Meets offer descriptor
    · right
      intro offer hoffer descriptor hlocal
      obtain ⟨agreed, hagreed⟩ := negotiate_isOk_iff.2 hmeets
      obtain ⟨result, -, -, held, hheld, hmet⟩ :=
        exists_mem_of_forall₂' (hhonours agreed hagreed) _ hoffer
      rw [hlocal.1] at hheld
      cases hheld
      exact hmet
    · left
      push Not at hmeets
      exact hmeets
  · rintro (⟨offer, hoffer, hunmet⟩ | hmet) agreed hagreed
    · obtain ⟨descriptor, hlocal⟩ := negotiate_isOk_iff.1 ⟨agreed, hagreed⟩ offer hoffer
      exact absurd hlocal (hunmet descriptor)
    · have hlocal : ∀ offer ∈ offers, ∃ descriptor,
          registry.protocols[offer.id.text]? = some descriptor ∧
            RequirementsMet descriptor offer ∧ RequirementsMet offer descriptor := by
        intro offer hoffer
        obtain ⟨descriptor, hmeets⟩ := negotiate_isOk_iff.1 ⟨agreed, hagreed⟩ offer hoffer
        exact ⟨descriptor, hmeets.1, hmet offer hoffer descriptor hmeets⟩
      refine ((List.forall₂_and_left _ _).2 ⟨hlocal, mapM_eq_ok_iff.1 hagreed⟩).imp ?_
      intro offer result ⟨hrequired, hresult⟩
      exact ⟨id_of_negotiateOffer hresult, hrequired⟩

end RequiredFeatures

end ProtocolRegistry

namespace ProtocolRegistry

theorem SameIds.register {a b : ProtocolRegistry} (h : SameIds a b)
    {left right : ProtocolDescriptor} (hid : left.id = right.id) :
    SameIds (a.register left) (b.register right) := by
  intro id
  simp only [ProtocolRegistry.register, TreeMap.mem_insert, hid, h id]

section Closed

def chatDescriptor (versions : Finset ℕ) (features : Finset String) : ProtocolDescriptor where
  id := ⟨"/quip/chat/1"⟩
  compatibleVersions := versions
  requiredFeatures := ∅
  optionalFeatures := features

def chatRegistry (versions : Finset ℕ) (features : Finset String) : ProtocolRegistry :=
  ProtocolRegistry.register {} (chatDescriptor versions features)

theorem chatRegistry_sameIds (versions versions' : Finset ℕ) (features features' : Finset String) :
    SameIds (chatRegistry versions features) (chatRegistry versions' features') :=
  SameIds.register (fun _ => Iff.rfl) rfl

theorem chat_negotiation_symmetric :
    (∃ agreed, (chatRegistry {1, 2, 3} {"gzip"}).negotiate
        (chatRegistry {2, 3, 5} {"gzip", "ack"}).descriptors = .ok agreed) ↔
      ∃ agreed, (chatRegistry {2, 3, 5} {"gzip", "ack"}).negotiate
        (chatRegistry {1, 2, 3} {"gzip"}).descriptors = .ok agreed :=
  (negotiation_symmetric (chatRegistry_sameIds {1, 2, 3} {2, 3, 5} {"gzip"} {"gzip", "ack"})
    (.refl _) (.refl _)).1

def encryptedChat : ProtocolDescriptor :=
  { chatDescriptor {1} ∅ with requiredFeatures := {"e2e"} }

theorem unmet_requirement_negotiated :
    ¬ (ProtocolRegistry.register {} encryptedChat).HonoursRequired [chatDescriptor {1} ∅] := by
  intro hhonours
  have hlocal : (ProtocolRegistry.register {} encryptedChat).protocols["/quip/chat/1"]? =
      some encryptedChat := TreeMap.getElem?_insert_self
  obtain ⟨agreed, hagreed⟩ : ∃ agreed, (ProtocolRegistry.register {} encryptedChat).negotiate
      [chatDescriptor {1} ∅] = .ok agreed := by
    rw [negotiate_isOk_iff]
    intro offer hoffer
    rw [List.mem_singleton.1 hoffer]
    exact ⟨encryptedChat, hlocal, 1, by decide⟩
  obtain ⟨result, -, -, descriptor, hdescriptor, hmet, -⟩ :=
    exists_mem_of_forall₂' (hhonours agreed hagreed) _ (List.mem_singleton_self _)
  obtain rfl : encryptedChat = descriptor := Option.some.inj (hlocal.symm.trans hdescriptor)
  exact absurd hmet (by decide)

example : (match (chatRegistry {1, 2, 3} {"gzip"}).negotiate
    (chatRegistry {2, 3, 5} {"gzip", "ack"}).descriptors with
    | .ok agreed => decide (agreed = [⟨⟨"/quip/chat/1"⟩, 3, {"gzip"}⟩])
    | .error _ => false) = true := by decide +kernel

end Closed

end ProtocolRegistry

end QuipNet.Protocol
