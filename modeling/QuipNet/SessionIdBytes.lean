import QuipNet.Library.Overlap
import QuipNet.Quic

/-!
# What a session id is a hash of

`logical_session_id` hashes the instance, the two peers, the class label and the protocol one
after the other. The labels do not overlap, so two routes with one string have one key unless
a label stands inside the peer id of the one and the protocol of the other.
-/

namespace QuipNet.Quic
open QuipNet.Library QuipNet.Transport

def protocolBytes (protocol : Option ProtocolId) : List UInt8 :=
  (protocol.map fun protocol => asBytes protocol.text).getD []

def classBytes (trafficClass : TrafficClass) : List UInt8 := asBytes trafficClass.label

def sessionIdBytes (runtimeInstanceId : String) (route : RoutePlan) : List UInt8 :=
  asBytes runtimeInstanceId ++ route.localPeer.bytes ++ route.peer.bytes ++
    classBytes route.trafficClass ++ protocolBytes route.protocol

theorem logicalSessionId_eq [Primitives] (runtimeInstanceId : String) (route : RoutePlan) :
    logicalSessionId runtimeInstanceId route =
      ⟨(Primitives.blake3 (sessionIdBytes runtimeInstanceId route)).take 16⟩ := rfl

theorem classBytes_nonOverlapping : NonOverlapping classBytes := by
  rintro (_ | _ | _ | _) (_ | _ | _ | _) <;> decide +kernel

/-- The peer of `longer` begins with the peer and the label of `shorter`; the protocol of
`shorter` goes on with the rest of that peer, and then with the label and the protocol of
`longer`. -/
def Reaches (shorter longer : RoutePlan) : Prop :=
  ∃ between, longer.peer.bytes =
      shorter.peer.bytes ++ (classBytes shorter.trafficClass ++ between) ∧
    protocolBytes shorter.protocol =
      between ++ (classBytes longer.trafficClass ++ protocolBytes longer.protocol)

/-- One route names no protocol, the other one the empty text. -/
def DifferByEmptyProtocol (left right : RoutePlan) : Prop :=
  left.peer = right.peer ∧ left.trafficClass = right.trafficClass ∧
    (left.protocol = none ∧ right.protocol = some ⟨""⟩ ∨
      left.protocol = some ⟨""⟩ ∧ right.protocol = none)

def Distinguished (left right : RoutePlan) : Prop :=
  ¬ Reaches left right ∧ ¬ Reaches right left ∧ ¬ DifferByEmptyProtocol left right

theorem protocolBytes_eq_iff (left right : Option ProtocolId) :
    protocolBytes left = protocolBytes right ↔ left = right ∨
      left = none ∧ right = some ⟨""⟩ ∨ left = some ⟨""⟩ ∧ right = none := by
  have hids : ∀ a b : ProtocolId, asBytes a.text = asBytes b.text ↔ a = b := by
    intro ⟨a⟩ ⟨b⟩
    rw [asBytes_injective.eq_iff, ProtocolId.mk.injEq]
  have hempty : ∀ a : ProtocolId, asBytes a.text = [] ↔ a = ⟨""⟩ := by
    intro a
    rw [← hids a ⟨""⟩, asBytes_eq ""]
    rfl
  cases left with
  | none =>
    cases right with
    | none => simp
    | some right => simpa [protocolBytes] using eq_comm.trans (hempty right)
  | some left =>
    cases right with
    | none => simpa [protocolBytes] using hempty left
    | some right => simpa [protocolBytes] using hids left right

theorem sessionIdBytes_eq_iff (runtimeInstanceId : String) {left right : RoutePlan}
    (hlocal : left.localPeer = right.localPeer) :
    sessionIdBytes runtimeInstanceId left = sessionIdBytes runtimeInstanceId right ↔
      left.key = right.key ∨ DifferByEmptyProtocol left right ∨ Reaches left right ∨
        Reaches right left := by
  have hkey : left.key = right.key ↔ left.peer = right.peer ∧
      left.trafficClass = right.trafficClass ∧ left.protocol = right.protocol := by
    simp only [RoutePlan.key, SessionKey.mk.injEq]
    tauto
  have hpeer : left.peer = right.peer ↔ left.peer.bytes = right.peer.bytes := by
    cases left.peer
    cases right.peer
    simp
  simp only [sessionIdBytes, hlocal, List.append_assoc, List.append_cancel_left_eq]
  rw [classBytes_nonOverlapping.append_word_eq_iff, protocolBytes_eq_iff, hkey,
    DifferByEmptyProtocol, hpeer, ← Reaches, ← Reaches]
  tauto

theorem Reaches.key_ne {shorter longer : RoutePlan} (h : Reaches shorter longer) :
    shorter.key ≠ longer.key := by
  obtain ⟨between, hpeer, -⟩ := h
  have hlabel : ∀ trafficClass, 0 < (classBytes trafficClass).length := by
    rintro (_ | _ | _ | _) <;> decide +kernel
  intro hkey
  have hsame : shorter.peer = longer.peer := congrArg SessionKey.peer hkey
  have hlength := congrArg List.length hpeer
  rw [← hsame, List.length_append, List.length_append] at hlength
  have hpos := hlabel shorter.trafficClass
  omega

theorem DifferByEmptyProtocol.key_ne {left right : RoutePlan} (h : DifferByEmptyProtocol left right) :
    left.key ≠ right.key := by
  intro hkey
  have hsame : left.protocol = right.protocol := congrArg SessionKey.protocol hkey
  obtain ⟨-, -, ⟨hleft, hright⟩ | ⟨hleft, hright⟩⟩ := h
  · rw [hleft, hright] at hsame
    cases hsame
  · rw [hleft, hright] at hsame
    cases hsame

theorem sessionIdBytes_identify_iff (runtimeInstanceId : String) {left right : RoutePlan}
    (hlocal : left.localPeer = right.localPeer) :
    (sessionIdBytes runtimeInstanceId left = sessionIdBytes runtimeInstanceId right →
      left.key = right.key) ↔ Distinguished left right := by
  rw [sessionIdBytes_eq_iff runtimeInstanceId hlocal]
  constructor
  · intro h
    refine ⟨fun hreach => hreach.key_ne ?_, fun hreach => hreach.key_ne ?_,
      fun hdiffer => hdiffer.key_ne ?_⟩
    · exact h (.inr (.inr (.inl hreach)))
    · exact (h (.inr (.inr (.inr hreach)))).symm
    · exact h (.inr (.inl hdiffer))
  · rintro ⟨hleft, hright, hdiffer⟩ (hkey | hempty | hreach | hreach)
    · exact hkey
    · exact absurd hempty hdiffer
    · exact absurd hreach hleft
    · exact absurd hreach hright

/-- The strings of two routes with one local peer tell their keys apart exactly when the routes
are distinguished; so do the session ids, where the hash does not collide on the two strings. -/
theorem session_ids_identify_keys [Primitives] (runtimeInstanceId : String) {left right : RoutePlan}
    (hlocal : left.localPeer = right.localPeer) :
    ((sessionIdBytes runtimeInstanceId left = sessionIdBytes runtimeInstanceId right →
        left.key = right.key) ↔ Distinguished left right) ∧
    ((logicalSessionId runtimeInstanceId left = logicalSessionId runtimeInstanceId right →
        sessionIdBytes runtimeInstanceId left = sessionIdBytes runtimeInstanceId right) →
      ((logicalSessionId runtimeInstanceId left = logicalSessionId runtimeInstanceId right →
        left.key = right.key) ↔ Distinguished left right)) := by
  refine ⟨sessionIdBytes_identify_iff runtimeInstanceId hlocal, ?_⟩
  intro hfree
  have hid : logicalSessionId runtimeInstanceId left = logicalSessionId runtimeInstanceId right ↔
      sessionIdBytes runtimeInstanceId left = sessionIdBytes runtimeInstanceId right := by
    refine ⟨hfree, ?_⟩
    intro hbytes
    rw [logicalSessionId_eq, hbytes, ← logicalSessionId_eq]
  rw [hid]
  exact sessionIdBytes_identify_iff runtimeInstanceId hlocal

section Closed

def bulkRoute (peer : List UInt8) (protocol : String) : RoutePlan where
  localPeer := ⟨[]⟩
  peer := ⟨peer⟩
  protocol := some ⟨protocol⟩
  trafficClass := .bulk
  pathKind := .directUdp
  source := .authorityRelay
  remoteEndpoints := []
  relay := none

attribute [local instance] Primitives.transparent

theorem two_chat_peers_identified :
    let left := bulkRoute [1] "/quip/chat/1"
    let right := bulkRoute [2] "/quip/chat/1"
    (logicalSessionId "rt-1" left = logicalSessionId "rt-1" right → left.key = right.key) ↔
      Distinguished left right := by
  intro left right
  have hlocal : left.localPeer = right.localPeer := rfl
  have hids : logicalSessionId "rt-1" left ≠ logicalSessionId "rt-1" right := by decide +kernel
  exact (session_ids_identify_keys "rt-1" hlocal).2 fun heq => absurd heq hids

/-- Both peers are read from text, and both protocols pass `ProtocolId::new`. -/
theorem equal_bytes_of_distinct_keys :
    let shorter := bulkRoute [] "/a/bulk/b/c"
    let longer := bulkRoute (asBytes "bulk/a/") "/b/c"
    PeerId.parse "peer1" = some shorter.peer ∧
      PeerId.parse "peer1mj2wy2zpmexq" = some longer.peer ∧
      ProtocolId.new "/a/bulk/b/c" = .ok ⟨"/a/bulk/b/c"⟩ ∧ ProtocolId.new "/b/c" = .ok ⟨"/b/c"⟩ ∧
      ¬ (sessionIdBytes "rt-1" shorter = sessionIdBytes "rt-1" longer →
        shorter.key = longer.key) := by
  intro shorter longer
  refine ⟨by decide +kernel, by decide +kernel, by decide +kernel, by decide +kernel, ?_⟩
  exact Classical.not_imp.2 ⟨by decide +kernel, by decide +kernel⟩

end Closed

end QuipNet.Quic
