import QuipNet.Membership

/-!
# The policy engine

Rules are tried in order and the first one that applies decides. A rule applies
when each of its optional conditions that is present holds; a required capability
must be carried by a grant whose scopes name the protocol.
-/

namespace QuipNet.Policy

inductive Effect
  | allow
  | deny
deriving DecidableEq, Repr

def Effect.debug : Effect → String
  | .allow => "Allow"
  | .deny => "Deny"

structure PolicyRule where
  effect : Effect
  networkId : Option NetworkId
  protocol : Option ProtocolId
  sourcePeer : Option PeerId
  requiredCapability : Option String
deriving DecidableEq, Repr

structure Decision where
  allowed : Bool
  reason : String
deriving DecidableEq, Repr

structure PolicyEngine where
  rules : List PolicyRule
deriving DecidableEq, Repr

def hasCapability (capability : String) (protocol : ProtocolId)
    (grants : List CapabilityGrant) : Bool :=
  grants.any fun grant =>
    grant.capabilities.contains capability && grant.protocolScopes.contains protocol

def PolicyRule.applies (rule : PolicyRule) (networkId : NetworkId) (sourcePeer : PeerId)
    (protocol : ProtocolId) (grants : List CapabilityGrant) : Bool :=
  rule.networkId.all (fun id => id == networkId) &&
    rule.sourcePeer.all (fun peer => peer == sourcePeer) &&
    rule.protocol.all (fun id => id == protocol) &&
    rule.requiredCapability.all fun capability => hasCapability capability protocol grants

def PolicyEngine.withRules (rules : List PolicyRule) : PolicyEngine := ⟨rules⟩

def PolicyEngine.evaluate (engine : PolicyEngine) (networkId : NetworkId) (sourcePeer : PeerId)
    (protocol : ProtocolId) (grants : List CapabilityGrant) : Decision :=
  match engine.rules.find? fun rule => rule.applies networkId sourcePeer protocol grants with
  | some rule =>
    ⟨rule.effect = .allow, rule.effect.debug ++ " rule matched for " ++ protocol.text⟩
  | none => ⟨false, "no matching policy rule for " ++ protocol.text⟩

end QuipNet.Policy
