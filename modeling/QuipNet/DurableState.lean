import QuipNet.DaemonState
import QuipNet.Library.Text

/-!
# The durable state as a JSON value

What the state file decodes to before it is read as a daemon state: its schema version, the
check of its fields, and the migration of the first schema. An object lists its fields in the
order of their keys, as the map of the decoder does.
-/

namespace QuipNet.Fabric
open QuipNet.Library

inductive Number
  | posInt (value : UInt64)
  | negInt (value : Int64)
  | float (value : Float)

inductive Value
  | null
  | bool (value : Bool)
  | number (value : Number)
  | string (text : String)
  | array (items : List Value)
  | object (fields : List (String × Value))

namespace Value

def asObject : Value → Option (List (String × Value))
  | .object fields => some fields
  | _ => none

def asU64 : Value → Option ℕ
  | .number (.posInt value) => some value.toNat
  | _ => none

def ofU64 (n : ℕ) : Value := .number (.posInt (UInt64.ofNat n))

end Value

def minMigratableDaemonStateSchemaVersion : ℕ := 1

def durableStateSchemaVersion (value : Value) : Option ℕ :=
  (value.asObject.bind fun object => object.lookup "schema_version").bind Value.asU64

def allowedFields : List String :=
  ["schema_version", "network", "local_peer_id", "roles", "membership", "capability_grants",
    "revocations", "denied_peers", "bootstrap", "relay_map", "peers", "netcheck",
    "queue_policies", "path_candidates"]

def validateDurableStateValue (value : Value) : Except DaemonStateError Unit :=
  match value.asObject with
  | none => .error (.invalidSession "durable state must be a JSON object")
  | some object =>
    match object.lookup "schema_version" with
    | none => .error .missingSchemaVersion
    | some version =>
      match version.asU64 with
      | none =>
        .error (.invalidSession "durable state schema version must be an unsigned integer")
      | some schemaVersion =>
        if schemaVersion < daemonStateSchemaVersion ∧
            minMigratableDaemonStateSchemaVersion ≤ schemaVersion then
          .error (.migrationRequired schemaVersion daemonStateSchemaVersion)
        else if schemaVersion ≠ daemonStateSchemaVersion then
          .error (.unsupportedSchemaVersion schemaVersion daemonStateSchemaVersion)
        else match object.find? fun field => field.1 ∉ allowedFields with
          | some field => .error (.unsupportedDurableField field.1)
          | none => .ok ()

theorem validateDurableStateValue_eq_ok_iff {value : Value} :
    validateDurableStateValue value = .ok () ↔
      durableStateSchemaVersion value = some daemonStateSchemaVersion ∧
        ∀ object, value.asObject = some object → ∀ field ∈ object, field.1 ∈ allowedFields := by
  unfold validateDurableStateValue durableStateSchemaVersion
  cases hobject : value.asObject with
  | none => simp
  | some object =>
    simp only [Option.bind_some]
    cases hversion : object.lookup "schema_version" with
    | none => simp
    | some version =>
      simp only [Option.bind_some]
      cases hnumber : version.asU64 with
      | none => simp
      | some schemaVersion =>
        simp only [Option.some.injEq, forall_eq']
        by_cases hcurrent : schemaVersion = daemonStateSchemaVersion
        · rw [if_neg (by omega), if_neg (not_not.2 hcurrent)]
          cases hfield : object.find? fun field => decide (field.1 ∉ allowedFields) with
          | none =>
            rw [List.find?_eq_none] at hfield
            simpa [hcurrent] using hfield
          | some field =>
            have hbad := List.find?_some hfield
            rw [decide_eq_true_eq] at hbad
            simp only [reduceCtorEq, false_iff, not_and]
            exact fun _ hall => hbad (hall field (List.mem_of_find?_eq_some hfield))
        · simp only [hcurrent, false_and, iff_false]
          split_ifs <;> simp

/-! ## Migration -/

/-- A match is replaced by what it is, as the two calls of the source do. -/
def rewriteText (text : String) : String × Bool :=
  let slashed := contains text "/quip/"
  let first := if slashed then
      String.ofList (replaceAll "/quip/".toList "/quip/".toList text.toList) else text
  let schemed := contains first "quip:"
  let second := if schemed then
      String.ofList (replaceAll "quip:".toList "quip:".toList first.toList) else first
  (second, slashed || schemed)

mutual
/-- The rewritten value, and the paths that are pushed to the report. -/
def rewriteLegacyProtocols (path : String) : Value → Value × List String
  | .string text =>
    (.string (rewriteText text).1, if (rewriteText text).2 then [path] else [])
  | .array items =>
    (.array (rewriteItems path 0 items).1, (rewriteItems path 0 items).2)
  | .object fields =>
    (.object (rewriteFields path fields).1, (rewriteFields path fields).2)
  | .null => (.null, [])
  | .bool value => (.bool value, [])
  | .number value => (.number value, [])

def rewriteItems (path : String) (index : ℕ) : List Value → List Value × List String
  | [] => ([], [])
  | entry :: rest =>
    let entry := rewriteLegacyProtocols (path ++ "[" ++ Nat.repr index ++ "]") entry
    let rest := rewriteItems path (index + 1) rest
    (entry.1 :: rest.1, entry.2 ++ rest.2)

def rewriteFields (path : String) : List (String × Value) → List (String × Value) × List String
  | [] => ([], [])
  | (key, entry) :: rest =>
    let entry := rewriteLegacyProtocols (path ++ "." ++ key) entry
    let rest := rewriteFields path rest
    ((key, entry.1) :: rest.1, entry.2 ++ rest.2)
end

def insertField (key : String) (value : Value) (fields : List (String × Value)) :
    List (String × Value) :=
  if (fields.lookup key).isSome then
    fields.map fun field => if field.1 = key then (key, value) else field
  else fields.takeWhile (fun field => field.1 < key) ++
    (key, value) :: fields.dropWhile fun field => field.1 < key

def withSchemaVersion (value : Value) : Value :=
  match value with
  | .object fields =>
    .object (insertField "schema_version" (Value.ofU64 daemonStateSchemaVersion) fields)
  | _ => value

def migrateDurableStateValueWithReport (value : Value) (migratedFields : List String) :
    Except DaemonStateError (Value × List String) :=
  match durableStateSchemaVersion value with
  | none => .error .missingSchemaVersion
  | some schemaVersion =>
    if schemaVersion = daemonStateSchemaVersion then .ok (value, migratedFields)
    else if schemaVersion < minMigratableDaemonStateSchemaVersion ∨
        daemonStateSchemaVersion < schemaVersion then
      .error (.unsupportedSchemaVersion schemaVersion daemonStateSchemaVersion)
    else if schemaVersion = 1 then
      let rewritten := rewriteLegacyProtocols "$" value
      .ok (withSchemaVersion rewritten.1, migratedFields ++ rewritten.2 ++ ["$.schema_version"])
    else .error (.unsupportedSchemaVersion schemaVersion daemonStateSchemaVersion)

end QuipNet.Fabric
