import QuipNet.DurableState

/-!
# What the migration of a state changes and reports

The rewrite of the legacy names replaces them by themselves, so that only the schema version
changes. A path is reported all the same for each string that holds such a name.
-/

namespace QuipNet.Fabric
open QuipNet.Library

namespace Value

mutual
def strings : Value → List String
  | .string text => [text]
  | .array items => stringsOfItems items
  | .object fields => stringsOfFields fields
  | .null | .bool _ | .number _ => []

def stringsOfItems : List Value → List String
  | [] => []
  | entry :: rest => entry.strings ++ stringsOfItems rest

def stringsOfFields : List (String × Value) → List String
  | [] => []
  | (_, entry) :: rest => entry.strings ++ stringsOfFields rest
end

end Value

/-- The text holds one of the names that the migration looks for. -/
def HoldsLegacyName (text : String) : Prop :=
  contains text "/quip/" = true ∨ contains text "quip:" = true

theorem rewriteText_eq (text : String) :
    rewriteText text = (text, contains text "/quip/" || contains text "quip:") := by
  have hslash : String.ofList (replaceAll "/quip/".toList "/quip/".toList text.toList) = text := by
    rw [replaceAll_self (by decide), String.ofList_toList]
  have hscheme : String.ofList (replaceAll "quip:".toList "quip:".toList text.toList) = text := by
    rw [replaceAll_self (by decide), String.ofList_toList]
  simp only [rewriteText, hslash, ite_self, hscheme]

mutual
theorem rewriteLegacyProtocols_spec (path : String) (value : Value) :
    (rewriteLegacyProtocols path value).1 = value ∧
      ((rewriteLegacyProtocols path value).2 = [] ↔ ∀ text ∈ value.strings, ¬ HoldsLegacyName text) := by
  match value with
  | .null | .bool _ | .number _ => simp [rewriteLegacyProtocols, Value.strings]
  | .string text =>
    rw [rewriteLegacyProtocols, rewriteText_eq]
    refine ⟨rfl, ?_⟩
    simp [Value.strings, HoldsLegacyName]
  | .array items =>
    obtain ⟨hitems, hreport⟩ := rewriteItems_spec path 0 items
    rw [rewriteLegacyProtocols, Value.strings]
    exact ⟨by rw [hitems], hreport⟩
  | .object fields =>
    obtain ⟨hfields, hreport⟩ := rewriteFields_spec path fields
    rw [rewriteLegacyProtocols, Value.strings]
    exact ⟨by rw [hfields], hreport⟩

theorem rewriteItems_spec (path : String) (index : ℕ) (items : List Value) :
    (rewriteItems path index items).1 = items ∧
      ((rewriteItems path index items).2 = [] ↔
        ∀ text ∈ Value.stringsOfItems items, ¬ HoldsLegacyName text) := by
  match items with
  | [] => simp [rewriteItems, Value.stringsOfItems]
  | entry :: rest =>
    obtain ⟨hentry, hentryReport⟩ :=
      rewriteLegacyProtocols_spec (path ++ "[" ++ Nat.repr index ++ "]") entry
    obtain ⟨hrest, hrestReport⟩ := rewriteItems_spec path (index + 1) rest
    rw [rewriteItems, Value.stringsOfItems]
    refine ⟨by rw [hentry, hrest], ?_⟩
    rw [List.append_eq_nil_iff, hentryReport, hrestReport, List.forall_mem_append]

theorem rewriteFields_spec (path : String) (fields : List (String × Value)) :
    (rewriteFields path fields).1 = fields ∧
      ((rewriteFields path fields).2 = [] ↔
        ∀ text ∈ Value.stringsOfFields fields, ¬ HoldsLegacyName text) := by
  match fields with
  | [] => simp [rewriteFields, Value.stringsOfFields]
  | (key, entry) :: rest =>
    obtain ⟨hentry, hentryReport⟩ := rewriteLegacyProtocols_spec (path ++ "." ++ key) entry
    obtain ⟨hrest, hrestReport⟩ := rewriteFields_spec path rest
    rw [rewriteFields, Value.stringsOfFields]
    refine ⟨by rw [hentry, hrest], ?_⟩
    rw [List.append_eq_nil_iff, hentryReport, hrestReport, List.forall_mem_append]
end

/-! ## Paths into a value -/

inductive Step
  | key (name : String)
  | index (i : ℕ)
deriving DecidableEq, Repr

def Step.text : Step → String
  | .key name => "." ++ name
  | .index i => "[" ++ Nat.repr i ++ "]"

def pathText (path : List Step) : String := path.foldl (fun text step => text ++ step.text) "$"

def Value.find? : Value → List Step → Option Value
  | value, [] => some value
  | .object fields, .key name :: rest => (fields.lookup name).bind fun entry => entry.find? rest
  | .array items, .index i :: rest => items[i]?.bind fun entry => entry.find? rest
  | _, _ :: _ => none

inductive Skeleton
  | null
  | bool (value : Bool)
  | number (value : Number)
  | string
  | array (length : ℕ)
  | object (keys : List String)

def Value.skeleton : Value → Skeleton
  | .null => .null
  | .bool value => .bool value
  | .number value => .number value
  | .string _ => .string
  | .array items => .array items.length
  | .object fields => .object (fields.map Prod.fst)

def Value.IsScalar : Value → Prop
  | .array _ | .object _ => False
  | .null | .bool _ | .number _ | .string _ => True

/-- The scalars at the path are not the same. -/
def DiffersAt (input result : Value) (path : List Step) : Prop :=
  ∃ before after, input.find? path = some before ∧ result.find? path = some after ∧
    before.IsScalar ∧ before ≠ after

def versionPath : List Step := [.key "schema_version"]

/-- The migration keeps what it must, settles, and reports each changed path once. -/
structure MigratesFaithfully (input result : Value) (migratedFields : List String) : Prop where
  version : durableStateSchemaVersion result = some daemonStateSchemaVersion
  shape : ∀ path ≠ versionPath,
    (result.find? path).map Value.skeleton = (input.find? path).map Value.skeleton
  settled : migrateDurableStateValueWithReport result [] = .ok (result, [])
  report : ∃ paths : List (List Step), paths.Nodup ∧
    (∀ path, path ∈ paths ↔ DiffersAt input result path) ∧
    migratedFields.Perm (paths.map pathText)

/-! ## The migrated value -/

theorem lookup_replaced (fields : List (String × Value)) (key name : String) (value : Value) :
    (fields.map fun field => if field.1 = key then (key, value) else field).lookup name =
      if name = key then (fields.lookup name).map fun _ => value else fields.lookup name := by
  induction fields with
  | nil => simp
  | cons field rest ih =>
    obtain ⟨first, entry⟩ := field
    rw [List.map_cons]
    by_cases hfirst : first = key
    · rw [if_pos hfirst, List.lookup_cons, List.lookup_cons, ih, hfirst]
      by_cases hname : name = key
      · simp [hname]
      · simp [hname, beq_eq_false_iff_ne.2 hname]
    · rw [if_neg hfirst, List.lookup_cons, List.lookup_cons, ih]
      by_cases hname : name = first
      · have hother : ¬ first = key := hfirst
        simp [hname, hother]
      · simp [beq_eq_false_iff_ne.2 hname]

theorem keys_replaced (fields : List (String × Value)) (key : String) (value : Value) :
    (fields.map fun field => if field.1 = key then (key, value) else field).map Prod.fst =
      fields.map Prod.fst := by
  rw [List.map_map]
  refine List.map_congr_left fun field _ => ?_
  rw [Function.comp_apply]
  split_ifs with hkey
  · exact hkey.symm
  · rfl

section Migrated
variable {value : Value}

theorem exists_fields_of_version (h : durableStateSchemaVersion value = some 1) :
    ∃ fields number, value = .object fields ∧
      fields.lookup "schema_version" = some (.number (.posInt number)) ∧ number.toNat = 1 := by
  unfold durableStateSchemaVersion at h
  obtain ⟨version, hversion, hnumber⟩ := Option.bind_eq_some_iff.1 h
  obtain ⟨fields, hfields, hlookup⟩ := Option.bind_eq_some_iff.1 hversion
  cases value with
  | object object =>
    cases hfields
    cases version with
    | number number =>
      cases number with
      | posInt number =>
        rw [Value.asU64, Option.some.injEq] at hnumber
        exact ⟨fields, number, rfl, hlookup, hnumber⟩
      | negInt number => cases hnumber
      | float number => cases hnumber
    | null => cases hnumber
    | bool flag => cases hnumber
    | string text => cases hnumber
    | array items => cases hnumber
    | object fields => cases hnumber
  | null => cases hfields
  | bool flag => cases hfields
  | number number => cases hfields
  | string text => cases hfields
  | array items => cases hfields

theorem lookup_insertField {fields : List (String × Value)} {key : String}
    (h : (fields.lookup key).isSome = true) (entry : Value) (name : String) :
    (insertField key entry fields).lookup name =
      if name = key then some entry else fields.lookup name := by
  rw [insertField, if_pos h, lookup_replaced]
  split_ifs with hname
  · obtain ⟨old, hold⟩ := Option.isSome_iff_exists.1 h
    rw [hname, hold, Option.map_some]
  · rfl

theorem migrate_eq (h : durableStateSchemaVersion value = some 1) :
    migrateDurableStateValueWithReport value [] =
      .ok (withSchemaVersion value,
        (rewriteLegacyProtocols "$" value).2 ++ ["$.schema_version"]) := by
  unfold migrateDurableStateValueWithReport
  rw [h]
  simp only [(rewriteLegacyProtocols_spec "$" value).1, List.nil_append]
  rfl

theorem durableStateSchemaVersion_migrated (h : durableStateSchemaVersion value = some 1) :
    durableStateSchemaVersion (withSchemaVersion value) = some daemonStateSchemaVersion := by
  obtain ⟨fields, number, rfl, hlookup, -⟩ := exists_fields_of_version h
  simp only [durableStateSchemaVersion, withSchemaVersion, Value.asObject, Option.bind_some]
  rw [lookup_insertField (by rw [hlookup]; rfl), if_pos rfl]
  rfl

theorem find?_migrated (h : durableStateSchemaVersion value = some 1) {path : List Step}
    (hroot : path ≠ []) (hversion : path ≠ versionPath) :
    (withSchemaVersion value).find? path = value.find? path := by
  obtain ⟨fields, number, rfl, hlookup, -⟩ := exists_fields_of_version h
  rw [withSchemaVersion]
  cases path with
  | nil => exact absurd rfl hroot
  | cons step rest =>
    cases step with
    | index i => rfl
    | key name =>
      rw [Value.find?, Value.find?, lookup_insertField (by rw [hlookup]; rfl)]
      split_ifs with hname
      · rw [hname, hlookup]
        cases rest with
        | nil => exact absurd (by rw [hname]; rfl) hversion
        | cons step rest => cases step <;> rfl
      · rfl

theorem differsAt_iff (h : durableStateSchemaVersion value = some 1) (path : List Step) :
    DiffersAt value (withSchemaVersion value) path ↔ path = versionPath := by
  have hmigrated : path ≠ [] → path ≠ versionPath → _ := find?_migrated h
  obtain ⟨fields, number, rfl, hlookup, hnumber⟩ := exists_fields_of_version h
  constructor
  · rintro ⟨before, after, hbefore, hafter, hscalar, hdiffers⟩
    by_contra hpath
    by_cases hroot : path = []
    · rw [hroot, Value.find?, Option.some.injEq] at hbefore
      rw [← hbefore] at hscalar
      exact hscalar
    · rw [hmigrated hroot hpath, hbefore, Option.some.injEq] at hafter
      exact hdiffers hafter
  · rintro rfl
    refine ⟨.number (.posInt number), Value.ofU64 daemonStateSchemaVersion, ?_, ?_, trivial, ?_⟩
    · rw [versionPath, Value.find?, hlookup]
      rfl
    · rw [versionPath, withSchemaVersion, Value.find?, lookup_insertField (by rw [hlookup]; rfl),
        if_pos rfl]
      rfl
    · intro hsame
      have hversion := congrArg Value.asU64 hsame
      rw [Value.asU64, hnumber] at hversion
      exact absurd hversion (by decide)

theorem differing_paths_perm (h : durableStateSchemaVersion value = some 1)
    {paths : List (List Step)} (hnodup : paths.Nodup)
    (hpaths : ∀ path, path ∈ paths ↔ DiffersAt value (withSchemaVersion value) path) :
    paths.Perm [versionPath] := by
  rw [List.perm_ext_iff_of_nodup hnodup (List.nodup_singleton _)]
  intro path
  rw [hpaths, differsAt_iff h, List.mem_singleton]

theorem skeleton_migrated (h : durableStateSchemaVersion value = some 1) {path : List Step}
    (hversion : path ≠ versionPath) :
    ((withSchemaVersion value).find? path).map Value.skeleton =
      (value.find? path).map Value.skeleton := by
  by_cases hroot : path = []
  · obtain ⟨fields, number, rfl, hlookup, -⟩ := exists_fields_of_version h
    rw [hroot, Value.find?, Value.find?, Option.map_some, Option.map_some, withSchemaVersion,
      insertField, if_pos (by rw [hlookup]; rfl), Value.skeleton, Value.skeleton, keys_replaced]
  · rw [find?_migrated h hroot hversion]

/-- A state of the first schema is migrated faithfully exactly when none of its strings holds
one of the names that the rewrite looks for. -/
theorem migration_report_exact_iff {result : Value} {migratedFields : List String}
    (hversion : durableStateSchemaVersion value = some 1)
    (h : migrateDurableStateValueWithReport value [] = .ok (result, migratedFields)) :
    MigratesFaithfully value result migratedFields ↔
      ∀ text ∈ value.strings, ¬ HoldsLegacyName text := by
  rw [migrate_eq hversion, Except.ok.injEq, Prod.mk.injEq] at h
  obtain ⟨rfl, rfl⟩ := h
  rw [← (rewriteLegacyProtocols_spec "$" value).2]
  constructor
  · intro hfaithful
    obtain ⟨paths, hnodup, hpaths, hreport⟩ := hfaithful.report
    have hlength := hreport.length_eq
    rw [List.length_map, (differing_paths_perm hversion hnodup hpaths).length_eq, List.length_append, List.length_singleton,
      List.length_singleton] at hlength
    exact List.eq_nil_of_length_eq_zero (by omega)
  · intro hnone
    refine ⟨durableStateSchemaVersion_migrated hversion, fun path => skeleton_migrated hversion, ?_, ?_⟩
    · rw [migrateDurableStateValueWithReport, durableStateSchemaVersion_migrated hversion]
      exact if_pos rfl
    · refine ⟨[versionPath], List.nodup_singleton _, ?_, ?_⟩
      · intro path
        rw [List.mem_singleton, differsAt_iff hversion]
      · rw [hnone]
        exact .refl _

end Migrated

section Closed

def firstSchema (protocol : String) : Value :=
  .object [("peers", .array [.string protocol]), ("schema_version", Value.ofU64 1)]

theorem plain_state_migrates_faithfully :
    MigratesFaithfully (firstSchema "mesh") (withSchemaVersion (firstSchema "mesh"))
      ["$.schema_version"] :=
  have hversion : durableStateSchemaVersion (firstSchema "mesh") = some 1 := rfl
  (migration_report_exact_iff hversion (by rfl)).2 (by
    intro text htext
    rw [List.mem_singleton.1 htext]
    unfold HoldsLegacyName
    decide)

theorem legacy_name_reported :
    migrateDurableStateValueWithReport (firstSchema "/quip/control/1") [] =
        .ok (withSchemaVersion (firstSchema "/quip/control/1"),
          ["$.peers[0]", "$.schema_version"]) ∧
      (withSchemaVersion (firstSchema "/quip/control/1")).find? [.key "peers", .index 0] =
        (firstSchema "/quip/control/1").find? [.key "peers", .index 0] ∧
      ¬ MigratesFaithfully (firstSchema "/quip/control/1")
        (withSchemaVersion (firstSchema "/quip/control/1")) ["$.peers[0]", "$.schema_version"] := by
  have hmigrated : migrateDurableStateValueWithReport (firstSchema "/quip/control/1") [] =
      .ok (withSchemaVersion (firstSchema "/quip/control/1"),
        ["$.peers[0]", "$.schema_version"]) := by rfl
  refine ⟨hmigrated, rfl, ?_⟩
  intro hfaithful
  obtain ⟨paths, hnodup, hpaths, hreport⟩ := hfaithful.report
  have hlength := hreport.length_eq
  rw [List.length_map, (differing_paths_perm (by rfl) hnodup hpaths).length_eq] at hlength
  cases hlength

end Closed

end QuipNet.Fabric
