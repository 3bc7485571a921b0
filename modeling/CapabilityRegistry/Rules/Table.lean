import CapabilityRegistry.Rules
import CapabilityRegistry.Toml.Document

/-!
# Rules as a TOML table

A table may set any of the rules; the others keep their defaults. Entries of other names are ignored,
and a rule of the wrong type makes the table invalid.
-/

namespace CapabilityRegistry.Rules

/-- The names of the rules in a table. -/
def fieldNames : List String :=
  ["capability_prefix", "aggregators", "restricted_api", "supported_platform", "feature_apis",
    "growable_enum", "always_disabled", "standalone_structs", "device_structs"]

/-- The rules that the entries of a table set. -/
def ofEntries? (entries : Toml.Entries) : Option Rules := do
  let text := entries.field? Toml.Value.string?
  let texts := entries.field? Toml.Value.strings?
  let standard : Rules := {}
  return {
    capabilityStart := ← text "capability_prefix" standard.capabilityStart
    aggregators := ← texts "aggregators" standard.aggregators
    restrictedApi := ← text "restricted_api" standard.restrictedApi
    supportedPlatform := ← text "supported_platform" standard.supportedPlatform
    featureApis := ← texts "feature_apis" standard.featureApis
    growableEnum := ← text "growable_enum" standard.growableEnum
    alwaysDisabled := ← texts "always_disabled" standard.alwaysDisabled
    standaloneStructs := ← texts "standalone_structs" standard.standaloneStructs
    deviceStructs := ← texts "device_structs" standard.deviceStructs }

/-- The rules that a value sets. -/
def ofValue? (value : Toml.Value) : Option Rules := do
  ofEntries? (← value.fields? fieldNames)

/-- The rules that a document sets. -/
def parse? (document : String) : Option Rules := do
  ofEntries? (← Toml.parse? document)

end CapabilityRegistry.Rules
