import QuipNet.RelayAccounting

/-!
# Admission to a relay

`open_session` asks ten things of a request, in a fixed order, and answers with the code
of the first one that fails. Nothing is written before all of them hold. The count of the
quota check is taken as a `u32`; along the calls of a relay it never reaches the size of
that type for a source that has a quota.
-/

open Std
namespace QuipNet.Relay
open QuipNet.Library

/-! ## The checks -/

structure AdmissionCheck where
  holds : Bool
  code : RelayRejectCode
deriving DecidableEq, Repr

def firstFailing (checks : List AdmissionCheck) : Option AdmissionCheck :=
  checks.find? fun check => !check.holds

theorem firstFailing_eq_none_iff {checks : List AdmissionCheck} :
    firstFailing checks = none ↔ ∀ check ∈ checks, check.holds = true := by
  simp [firstFailing]

def destinationEntry (node : RelayNode) (destination : PeerId) : Option RelayDestination :=
  node.destinations.find? fun candidate => candidate.peer == destination

theorem authorizeDestination_eq (node : RelayNode) (destination : PeerId)
    (protocol : Option ProtocolId) :
    authorizeDestination node.destinations destination protocol =
      match destinationEntry node destination with
      | none => .error (.destinationUnauthorized destination)
      | some entry =>
        if protocol.all entry.protocols.contains then .ok ()
        else .error (.destinationProtocolRejected destination) := by
  unfold authorizeDestination destinationEntry
  cases node.destinations.find? fun candidate => candidate.peer == destination with
  | none => rfl
  | some entry => cases protocol <;> simp

/-! ## Quotas -/

namespace RelayService

/-- No source holds more open sessions than its quota names. -/
def QuotasKept (service : RelayService) : Prop :=
  ∀ source quota, service.quotaFor source = some quota →
    service.activeForSource source ≤ quota.maxConcurrentSessions.toNat

theorem QuotasKept.overQuota_eq_none_iff {service : RelayService} (h : service.QuotasKept)
    (source : PeerId) :
    service.overQuota source = none ↔ ∀ quota, service.quotaFor source = some quota →
      service.activeForSource source < quota.maxConcurrentSessions.toNat := by
  refine RelayService.overQuota_eq_none_iff ?_
  intro quota hfound
  exact Nat.lt_of_le_of_lt (h source quota hfound) quota.maxConcurrentSessions.toNat_lt_size

theorem openIds_afterOpen (service : RelayService) (sessionId : SessionId)
    (request : RelayOpenRequest) (source : PeerId) :
    (service.afterOpen sessionId request).openIds source ⊆
      if request.source = source then sessionId :: service.openIds source
      else service.openIds source := by
  intro id hid
  obtain ⟨session, hentry, hsource, hopen⟩ := mem_openIds.1 hid
  rw [session_afterOpen] at hentry
  by_cases hdrawn : sessionId = id
  · rw [if_pos hdrawn, Option.some.injEq] at hentry
    have hsame : request.source = source := by
      rw [← hsource, ← hentry]
      rfl
    rw [if_pos hsame, hdrawn]
    exact List.mem_cons_self
  · rw [if_neg hdrawn] at hentry
    by_cases hattempt : request.attemptId = id
    · rw [if_pos hattempt, Option.some.injEq] at hentry
      rw [← hentry] at hopen
      cases hopen
    · rw [if_neg hattempt] at hentry
      have hold : id ∈ service.openIds source := mem_openIds.2 ⟨session, hentry, hsource, hopen⟩
      split_ifs
      · exact List.mem_cons_of_mem sessionId hold
      · exact hold

theorem openIds_close (service : RelayService) (sessionId : SessionId) (reason : String)
    (source : PeerId) :
    (applyFrame (.close sessionId reason) service).openIds source ⊆ service.openIds source := by
  intro id hid
  obtain ⟨session, hentry, hsource, hopen⟩ := mem_openIds.1 hid
  rw [session_applyFrame_close] at hentry
  by_cases hclosed : sessionId = id
  · rw [if_pos hclosed] at hentry
    obtain ⟨before, -, rfl⟩ := Option.map_eq_some_iff.1 hentry
    cases hopen
  · rw [if_neg hclosed] at hentry
    exact mem_openIds.2 ⟨session, hentry, hsource, hopen⟩

theorem activeForSource_le_of_subset {service : RelayService} {source : PeerId}
    {ids : List SessionId} (h : service.openIds source ⊆ ids) :
    service.activeForSource source ≤ ids.length := by
  rw [← length_openIds]
  exact (List.subperm_of_subset (nodup_openIds service source) h).length_le

end RelayService

section Checks
variable [Primitives]

def identityChecks (now : ℕ) (request : RelayOpenRequest) : List AdmissionCheck :=
  let credential := request.sourceCredential
  [⟨request.sourcePublicKey.peerId = request.source, .invalidIdentityProof⟩,
   ⟨(credential.verify request.sourcePublicKey).isOk, .invalidIdentityProof⟩,
   ⟨credential.peerId = request.source, .invalidIdentityProof⟩,
   ⟨credential.networkId = request.networkId, .invalidIdentityProof⟩,
   ⟨now ≤ credential.expiresAt, .invalidIdentityProof⟩,
   ⟨request.protocol.all fun protocol => credential.protocolVersions.contains protocol.text,
     .invalidIdentityProof⟩]

/-- All the checks of `open_session` on a drawn id that is not in the table. -/
def RelayService.admissionChecks (service : RelayService) (now : ℕ) (request : RelayOpenRequest) :
    List AdmissionCheck :=
  let entry := destinationEntry service.node request.destination
  identityChecks now request ++
    [⟨supportsTrafficClass service.node.announcement.trafficClasses request.trafficClass,
       .unsupportedTrafficClass⟩,
     ⟨entry.isSome, .destinationUnauthorized⟩,
     ⟨entry.all fun entry => request.protocol.all entry.protocols.contains,
       .destinationProtocolRejected⟩,
     ⟨(service.overQuota request.source).isNone, .capacityExceeded⟩]

theorem code_of_identityChecks {now : ℕ} {request : RelayOpenRequest} {check : AdmissionCheck}
    (h : check ∈ identityChecks now request) : check.code = .invalidIdentityProof := by
  simp only [identityChecks, List.mem_cons, List.not_mem_nil, or_false] at h
  rcases h with rfl | rfl | rfl | rfl | rfl | rfl <;> rfl

theorem verifySessionCredential_ok_iff (now : ℕ) (request : RelayOpenRequest) :
    verifySessionCredential now request = .ok () ↔
      (request.sourceCredential.verify request.sourcePublicKey).isOk = true ∧
        request.sourceCredential.peerId = request.source ∧
        request.sourceCredential.networkId = request.networkId ∧
        now ≤ request.sourceCredential.expiresAt ∧
        request.protocol.all (fun protocol =>
          request.sourceCredential.protocolVersions.contains protocol.text) = true := by
  unfold verifySessionCredential
  simp only [bind, Except.bind, throw, throwThe, MonadExceptOf.throw, pure, Except.pure]
  cases request.sourceCredential.verify request.sourcePublicKey with
  | error error => simp [Except.isOk, Except.toBool]
  | ok _ =>
    by_cases hpeer : request.sourceCredential.peerId = request.source
    · by_cases hnetwork : request.sourceCredential.networkId = request.networkId
      · by_cases hexpires : now ≤ request.sourceCredential.expiresAt
        · have hcurrent : ¬ request.sourceCredential.expiresAt < now := Nat.not_lt.2 hexpires
          cases request.protocol with
          | none => simp [Except.isOk, Except.toBool, hpeer, hnetwork, hexpires]
          | some protocol =>
            by_cases hlisted : protocol.text ∈ request.sourceCredential.protocolVersions <;>
              simp [Except.isOk, Except.toBool, hpeer, hnetwork, hexpires, hcurrent, hlisted]
        · simp [hpeer, hnetwork, hexpires, Nat.lt_of_not_le hexpires]
      · simp [hpeer, hnetwork]
    · simp [hpeer]

theorem verifyOpenRequest_ok_iff (now : ℕ) (request : RelayOpenRequest) :
    verifyOpenRequest now request = .ok () ↔ firstFailing (identityChecks now request) = none := by
  have hcredential := verifySessionCredential_ok_iff now request
  rw [firstFailing_eq_none_iff]
  simp only [identityChecks, List.forall_mem_cons, decide_eq_true_eq, List.not_mem_nil,
    false_implies, implies_true, and_true]
  unfold verifyOpenRequest verifySourceKeyBinding
  by_cases hkey : request.sourcePublicKey.peerId = request.source
  · rw [← hcredential]
    cases verifySessionCredential now request <;>
      simp [hkey, bind, Except.bind, throw, throwThe, MonadExceptOf.throw, pure, Except.pure]
  · simp [hkey, bind, Except.bind]

theorem refusal_code (service : RelayService) (now : ℕ) {sessionId : SessionId}
    (request : RelayOpenRequest) (hfresh : service.session sessionId = none) :
    (service.refusal now sessionId request).map RelaySessionRejected.code =
      (firstFailing (service.admissionChecks now request)).map AdmissionCheck.code := by
  have hverified := verifyOpenRequest_ok_iff now request
  have hnew : sessionId ∉ service.runtime.sessions := by
    simpa [RelayService.session, RelayRuntime.session] using hfresh
  unfold RelayService.refusal RelayService.admissionChecks firstFailing
  rw [List.find?_append, ← firstFailing]
  cases hverify : verifyOpenRequest now request with
  | error error =>
    have hfails : firstFailing (identityChecks now request) ≠ none := by
      rw [ne_eq, ← hverified, hverify]
      simp
    obtain ⟨check, hcheck⟩ := Option.ne_none_iff_exists'.1 hfails
    rw [hcheck]
    simp [RelayOpenRequest.reject, code_of_identityChecks (List.mem_of_find?_eq_some hcheck)]
  | ok _ =>
    rw [hverified.1 hverify, Option.none_or, authorizeDestination_eq]
    by_cases hclass : supportsTrafficClass service.node.announcement.trafficClasses
        request.trafficClass = true
    · cases hentry : destinationEntry service.node request.destination with
      | none => simp [hclass, RelayOpenRequest.reject]
      | some entry =>
        by_cases hserves : request.protocol.all entry.protocols.contains = true
        · cases service.overQuota request.source <;>
            simp [hclass, hserves, hnew, RelayOpenRequest.reject]
        · simp [hclass, hserves, RelayOpenRequest.reject]
    · simp [hclass, RelayOpenRequest.reject]

/-! ## The calls of a relay -/

namespace RelayService

def serve (service : RelayService) : RelayCall → RelayService
  | .openSession now sessionId request => Effect.final (openSession now sessionId request) service
  | .closeSession sessionId reason => Effect.final (closeSession sessionId reason) service

/-- What a call does to the table: nothing, or the two frames of an admitted request, or
the frame of a close. -/
theorem serve_cases (service : RelayService) (call : RelayCall) :
    service.serve call = service ∨
      (∃ now sessionId request, call = .openSession now sessionId request ∧
        service.Admits now sessionId request ∧
        service.serve call = service.afterOpen sessionId request) ∨
      ∃ sessionId reason, call = .closeSession sessionId reason ∧
        service.serve call = applyFrame (.close sessionId reason) service := by
  cases call with
  | openSession now sessionId request =>
    cases hrefusal : service.refusal now sessionId request with
    | some rejected => exact .inl (Effect.final_of_error (openSession_of_refused hrefusal))
    | none =>
      have hadmits := (refusal_eq_none_iff service now sessionId request).1 hrefusal
      exact .inr (.inl ⟨now, sessionId, request, rfl, hadmits,
        Effect.final_of_ok (openSession_of_admits hadmits)⟩)
  | closeSession sessionId reason =>
    by_cases hnone : service.session sessionId = none
    · exact .inl (Effect.final_of_error ((closeSession_eq _ _ _).trans (if_pos hnone)))
    · exact .inr (.inr ⟨sessionId, reason, rfl,
        Effect.final_of_ok ((closeSession_eq _ _ _).trans (if_neg hnone))⟩)

theorem serve_quotasKept {service : RelayService} (h : service.QuotasKept) (call : RelayCall) :
    (service.serve call).QuotasKept := by
  rcases serve_cases service call with hsame | ⟨now, sessionId, request, -, hadmits, hafter⟩ |
    ⟨sessionId, reason, -, hafter⟩
  · rw [hsame]
    exact h
  · intro source quota hquota
    rw [hafter] at hquota ⊢
    have hsubset := openIds_afterOpen service sessionId request source
    split_ifs at hsubset with hsource
    · have hroom := (h.overQuota_eq_none_iff request.source).1 hadmits.underQuota quota
        (hsource ▸ hquota)
      have hcount := activeForSource_le_of_subset hsubset
      rw [List.length_cons, length_openIds] at hcount
      rw [hsource] at hroom
      omega
    · have hcount := activeForSource_le_of_subset hsubset
      rw [length_openIds] at hcount
      exact hcount.trans (h source quota hquota)
  · intro source quota hquota
    rw [hafter] at hquota ⊢
    have hcount := activeForSource_le_of_subset (openIds_close service sessionId reason source)
    rw [length_openIds] at hcount
    exact hcount.trans (h source quota hquota)

theorem run_quotasKept (node : RelayNode) (calls : List RelayCall) :
    (calls.foldl serve (.new node)).QuotasKept := by
  have hkept : ∀ service : RelayService, service.QuotasKept →
      (calls.foldl serve service).QuotasKept := by
    induction calls with
    | nil => exact fun _ h => h
    | cons call rest ih => exact fun service h => ih _ (serve_quotasKept h call)
  apply hkept
  intro source quota _
  have hempty : (RelayService.new node).activeForSource source = 0 := by
    simp [activeForSource, RelayService.new]
  rw [hempty]
  exact Nat.zero_le _

theorem openSession_of_checks (service : RelayService) (now : ℕ) (sessionId : SessionId)
    (request : RelayOpenRequest) (hfresh : service.session sessionId = none)
    (h : ∀ check ∈ service.admissionChecks now request, check.holds = true) :
    openSession now sessionId request service =
      .ok (request.accept sessionId) (service.afterOpen sessionId request) := by
  have hcode := refusal_code service now request hfresh
  rw [firstFailing_eq_none_iff.2 h, Option.map_none, Option.map_eq_none_iff] at hcode
  exact openSession_of_admits ((refusal_eq_none_iff service now sessionId request).1 hcode)

/-- A request with a fresh drawn id is accepted exactly when all the checks hold. It is
refused with the code of the first one that fails and nothing is written; accepted, it
is entered as an open session under the drawn id. The last check reads the count of open
sessions as a `u32`, which on a table that the calls of a relay can make is the count. -/
theorem open_session_exact (service : RelayService) (now : ℕ) (sessionId : SessionId)
    (request : RelayOpenRequest) (hfresh : service.session sessionId = none) :
    ((∃ accepted after, openSession now sessionId request service = .ok accepted after) ↔
      ∀ check ∈ service.admissionChecks now request, check.holds = true) ∧
    (∀ failing, firstFailing (service.admissionChecks now request) = some failing →
      ∃ rejected, openSession now sessionId request service = .error rejected service ∧
        rejected.code = failing.code) ∧
    (∀ accepted after, openSession now sessionId request service = .ok accepted after →
      after.node = service.node ∧ after.session sessionId = some
        ⟨sessionId, request.source, request.destination, request.protocol, request.trafficClass,
          .open⟩) ∧
    ((service.activeForSource request.source < UInt32.size ∨
        ∃ calls : List RelayCall, service = calls.foldl serve (.new service.node)) →
      (service.overQuota request.source = none ↔
        ∀ quota, service.quotaFor request.source = some quota →
          service.activeForSource request.source < quota.maxConcurrentSessions.toNat)) := by
  have hcode := refusal_code service now request hfresh
  refine ⟨?_, ?_, ?_, ?_⟩
  · constructor
    · intro ⟨accepted, after, hopen⟩
      rw [← firstFailing_eq_none_iff]
      cases hrefusal : service.refusal now sessionId request with
      | none =>
        rw [hrefusal, Option.map_none, eq_comm, Option.map_eq_none_iff] at hcode
        exact hcode
      | some rejected =>
        rw [openSession_of_refused hrefusal] at hopen
        cases hopen
    · intro hchecks
      exact ⟨_, _, openSession_of_checks service now sessionId request hfresh hchecks⟩
  · intro failing hfailing
    rw [hfailing, Option.map_some, Option.map_eq_some_iff] at hcode
    obtain ⟨rejected, hrefusal, hrejected⟩ := hcode
    exact ⟨rejected, openSession_of_refused hrefusal, hrejected⟩
  · intro accepted after hopen
    cases hrefusal : service.refusal now sessionId request with
    | some rejected =>
      rw [openSession_of_refused hrefusal] at hopen
      cases hopen
    | none =>
      have hadmits := (refusal_eq_none_iff service now sessionId request).1 hrefusal
      rw [openSession_of_admits hadmits] at hopen
      cases hopen
      refine ⟨rfl, ?_⟩
      rw [session_afterOpen, if_pos rfl]
      rfl
  · intro hcount
    rcases hcount with hsmall | ⟨calls, hcalls⟩
    · exact overQuota_eq_none_iff fun _ _ => hsmall
    · rw [hcalls]
      exact (run_quotasKept service.node calls).overQuota_eq_none_iff request.source

end RelayService

end Checks

section Closed
attribute [local instance] Primitives.transparent

theorem limited_source_admitted_once :
    (∃ accepted after, RelayService.openSession 100 (.fill 101)
        (requestOf (keypairOf 1) (.fill 1)) (.new oneSessionNode) = .ok accepted after) ∧
      ∃ rejected, RelayService.openSession 100 (.fill 102) (requestOf (keypairOf 1) (.fill 2))
          oneSessionService = .error rejected oneSessionService ∧
        rejected.code = .capacityExceeded := by
  have hadmitted := RelayService.open_session_exact (.new oneSessionNode) 100 (.fill 101)
    (requestOf (keypairOf 1) (.fill 1)) rfl
  have hlimited := RelayService.open_session_exact oneSessionService 100 (.fill 102)
    (requestOf (keypairOf 1) (.fill 2)) rfl
  refine ⟨hadmitted.1.2 ?_, ?_⟩
  · decide
  · exact hlimited.2.1 ⟨false, .capacityExceeded⟩ (by decide)

end Closed

/-! ## Keys and their labels -/

section Identities
variable [Primitives]

theorem fromPublicKey_inj {a b : KeyAlgorithm} {bytes : List UInt8}
    (h : PeerId.fromPublicKey a bytes = PeerId.fromPublicKey b bytes) : a = b := by
  have hcodec : u64Varint a.codec = u64Varint b.codec :=
    List.append_cancel_right (PeerId.mk.inj h)
  cases a <;> cases b <;> first | rfl | exact absurd hcodec (by decide)

/-- A signature verifies under no key but the signer's. -/
def SignaturesExclusive : Prop := ∀ (secret key : Vector UInt8 32) (payload : List UInt8),
  Primitives.ed25519Verify key payload (Primitives.ed25519Sign secret payload) = true →
    key = Primitives.ed25519Public secret

def SignedBy (signer : IdentityKeypair) (credential : SessionCredential) : Prop :=
  credential.identitySignature = signer.sign (canonicalJson credential.unsigned)

theorem bytes_of_signedBy (hexclusive : SignaturesExclusive) {signer : IdentityKeypair}
    {credential : SessionCredential} (hsigned : SignedBy signer credential)
    {key : PublicIdentityKey} (hverify : (credential.verify key).isOk = true) :
    key.bytes = signer.publicKey.bytes := by
  unfold SessionCredential.verify SignatureBytes.verify at hverify
  rw [hsigned] at hverify
  have hlength : (signer.sign (canonicalJson credential.unsigned)).bytes.length = 64 :=
    Vector.length_toList
  rw [dif_pos hlength] at hverify
  by_cases hkey : key.bytes.length = 32
  · rw [dif_pos hkey] at hverify
    by_cases hholds : Primitives.ed25519Verify ⟨⟨key.bytes⟩, hkey⟩
        (canonicalJson credential.unsigned)
        (Primitives.ed25519Sign signer.secret (canonicalJson credential.unsigned)) = true
    · exact congrArg Vector.toList (hexclusive signer.secret _ _ hholds)
    · have hfails : Primitives.ed25519Verify ⟨⟨key.bytes⟩, hkey⟩
          (canonicalJson credential.unsigned)
          ⟨⟨(signer.sign (canonicalJson credential.unsigned)).bytes⟩, hlength⟩ ≠ true := hholds
      rw [if_neg hfails] at hverify
      cases hverify
  · rw [dif_neg hkey] at hverify
    cases hverify

theorem source_of_accepted {service after : RelayService} {now : ℕ} {sessionId : SessionId}
    {request : RelayOpenRequest} {accepted : RelaySessionAccepted}
    (h : RelayService.openSession now sessionId request service = .ok accepted after) :
    request.source = request.sourcePublicKey.peerId ∧
      (request.sourceCredential.verify request.sourcePublicKey).isOk = true := by
  cases hrefusal : service.refusal now sessionId request with
  | some rejected =>
    rw [RelayService.openSession_of_refused hrefusal] at h
    cases h
  | none =>
    have hadmits := (RelayService.refusal_eq_none_iff service now sessionId request).1 hrefusal
    have hchecks := firstFailing_eq_none_iff.1 ((verifyOpenRequest_ok_iff now request).1
      hadmits.verified)
    have hkey := hchecks _ List.mem_cons_self
    exact ⟨(of_decide_eq_true hkey).symm,
      hchecks _ (List.mem_cons_of_mem _ List.mem_cons_self)⟩

theorem source_eq_signer_iff (hexclusive : SignaturesExclusive) {signer : IdentityKeypair}
    {service after : RelayService} {now : ℕ} {sessionId : SessionId} {request : RelayOpenRequest}
    {accepted : RelaySessionAccepted}
    (h : RelayService.openSession now sessionId request service = .ok accepted after)
    (hsigned : SignedBy signer request.sourceCredential) :
    request.source = signer.peerId ↔ request.sourcePublicKey.algorithm = .ed25519 := by
  obtain ⟨hsource, hverify⟩ := source_of_accepted h
  have hbytes := bytes_of_signedBy hexclusive hsigned hverify
  rw [hsource, PublicIdentityKey.peerId, hbytes]
  constructor
  · exact fromPublicKey_inj
  · intro hlabel
    rw [hlabel]
    rfl

/-- Two accepted requests that one key signed have the peer id of that key exactly when
both label it as an Ed25519 key. -/
theorem one_identity_iff (hexclusive : SignaturesExclusive) (signer : IdentityKeypair)
    {service after service' after' : RelayService} {now now' : ℕ} {sessionId sessionId' : SessionId}
    {request request' : RelayOpenRequest} {accepted accepted' : RelaySessionAccepted}
    (h : RelayService.openSession now sessionId request service = .ok accepted after)
    (h' : RelayService.openSession now' sessionId' request' service' = .ok accepted' after')
    (hsigned : SignedBy signer request.sourceCredential)
    (hsigned' : SignedBy signer request'.sourceCredential) :
    (request.source = request'.source ∧ request.source = signer.peerId) ↔
      request.sourcePublicKey.algorithm = .ed25519 ∧
        request'.sourcePublicKey.algorithm = .ed25519 := by
  rw [← source_eq_signer_iff hexclusive h hsigned, ← source_eq_signer_iff hexclusive h' hsigned']
  constructor
  · intro ⟨hsame, hsource⟩
    exact ⟨hsource, hsame.symm.trans hsource⟩
  · intro ⟨hsource, hsource'⟩
    exact ⟨hsource.trans hsource'.symm, hsource⟩

theorem signedBy_of_unsigned {signer : IdentityKeypair} {credential : SessionCredential}
    {unsigned : Json} (hunsigned : credential.unsigned = unsigned)
    (hsignature : credential.identitySignature = signer.sign (canonicalJson unsigned)) :
    SignedBy signer credential := by
  rw [SignedBy, hsignature, hunsigned]

def relabelledCredential (signer : IdentityKeypair) (peerId : PeerId) : SessionCredential :=
  let credential : SessionCredential := ⟨relayedNetwork, peerId, Vector.replicate 32 1, 100, 700,
    [relayedProtocol.text], 1, Vector.replicate 16 0, ⟨[]⟩⟩
  { credential with identitySignature := signer.sign (canonicalJson credential.unsigned) }

def relabelledRequest (signer : IdentityKeypair) (attemptId : SessionId) : RelayOpenRequest :=
  let key : PublicIdentityKey := ⟨.x25519, signer.publicKey.bytes⟩
  { requestOf signer attemptId with
    source := key.peerId
    sourcePublicKey := key
    sourceCredential := relabelledCredential signer key.peerId }

theorem requestOf_signedBy (signer : IdentityKeypair) (attemptId : SessionId) :
    SignedBy signer (requestOf signer attemptId).sourceCredential :=
  signedBy_of_unsigned rfl rfl

theorem relabelledRequest_signedBy (signer : IdentityKeypair) (attemptId : SessionId) :
    SignedBy signer (relabelledRequest signer attemptId).sourceCredential :=
  signedBy_of_unsigned rfl rfl

end Identities

section Closed
attribute [local instance] Primitives.transparent

theorem transparent_exclusive : SignaturesExclusive := by
  intro secret key payload h
  have hsame : secret ++ secret = key ++ key := of_decide_eq_true h
  exact (Vector.append_inj hsame).1.symm

theorem same_key_same_identity :
    (requestOf (keypairOf 1) (.fill 1)).source = (requestOf (keypairOf 1) (.fill 2)).source := by
  have hfirst := RelayService.openSession_of_checks (.new oneSessionNode) 100 (.fill 101)
    (requestOf (keypairOf 1) (.fill 1)) rfl (by decide)
  have hsecond := RelayService.openSession_of_checks (.new oneSessionNode) 100 (.fill 102)
    (requestOf (keypairOf 1) (.fill 2)) rfl (by decide)
  exact ((one_identity_iff transparent_exclusive (keypairOf 1) hfirst hsecond
    (requestOf_signedBy (keypairOf 1) (.fill 1))
    (requestOf_signedBy (keypairOf 1) (.fill 2))).2 ⟨rfl, rfl⟩).1

/-- The source is at its quota of one session and opens a second one with the same key
under another label. -/
theorem relabelled_key_admitted :
    SignedBy (keypairOf 1) (requestOf (keypairOf 1) (.fill 1)).sourceCredential ∧
    SignedBy (keypairOf 1) (relabelledRequest (keypairOf 1) (.fill 2)).sourceCredential ∧
    (∃ accepted, RelayService.openSession 100 (.fill 101) (requestOf (keypairOf 1) (.fill 1))
      (.new oneSessionNode) = .ok accepted oneSessionService) ∧
    (∃ accepted after, RelayService.openSession 100 (.fill 102)
      (relabelledRequest (keypairOf 1) (.fill 2)) oneSessionService = .ok accepted after) ∧
    (requestOf (keypairOf 1) (.fill 1)).source ≠
      (relabelledRequest (keypairOf 1) (.fill 2)).source := by
  have hfirst := RelayService.openSession_of_checks (.new oneSessionNode) 100 (.fill 101)
    (requestOf (keypairOf 1) (.fill 1)) rfl (by decide)
  have hone : oneSessionService = (RelayService.new oneSessionNode).afterOpen (.fill 101)
      (requestOf (keypairOf 1) (.fill 1)) := Effect.final_of_ok hfirst
  have hchecks : ∀ check ∈ oneSessionService.admissionChecks 100
      (relabelledRequest (keypairOf 1) (.fill 2)), check.holds = true := by
    decide
  have hfresh : oneSessionService.session (.fill 102) = none := by
    rw [hone, RelayService.session_afterOpen]
    decide
  have hsecond := RelayService.openSession_of_checks oneSessionService 100 (.fill 102)
    (relabelledRequest (keypairOf 1) (.fill 2)) hfresh hchecks
  refine ⟨requestOf_signedBy (keypairOf 1) (.fill 1),
    relabelledRequest_signedBy (keypairOf 1) (.fill 2),
    ⟨(requestOf (keypairOf 1) (.fill 1)).accept (.fill 101), ?_⟩, ⟨_, _, hsecond⟩, ?_⟩
  · rw [hone]
    exact hfirst
  · intro hsame
    have hlabels : PeerId.fromPublicKey .ed25519 (keypairOf 1).publicKey.bytes =
      PeerId.fromPublicKey .x25519 (keypairOf 1).publicKey.bytes := hsame
    cases fromPublicKey_inj hlabels

end Closed

end QuipNet.Relay
