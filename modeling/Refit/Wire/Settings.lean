import Refit.Json.Outline
import Refit.Settings.Basic
import Refit.Wire.Shape

/-!
# Settings as JSON

Every setting has a default, so any part of them may be given.
-/

namespace Refit.Wire

def generation : Json → Read Generation := word Generation.all Generation.word

def settingsField (s : Settings) (key : String) (value : Json) : Read Settings :=
  match key with
  | "generation" => (generation value).map fun m => { s with generation := m }
  | "method_max" => (natural value).map fun n => { s with methodMax := n }
  | "candidate_max" => (natural value).map fun n => { s with candidateMax := n }
  | "permutation_ceiling" => (natural value).map fun n => { s with permutationCeiling := n }
  | "truncate_on_overflow" => (bool value).map fun b => { s with truncateOnOverflow := b }
  | "adapter_limit" => (natural value).map fun n => { s with adapterLimit := n }
  | "max_params_length" => (natural value).map fun n => { s with maxParamsLength := n }
  | "filter_accessors" => (bool value).map fun b => { s with filterAccessors := b }
  | "include_private" => (bool value).map fun b => { s with includePrivate := b }
  | "invocation_timeout_ms" =>
    (optional natural value).map fun t => { s with invocationTimeout := t }
  | "cache_capacity" => (natural value).map fun n => { s with cacheCapacity := n }
  | _ => .ok s

def settingNames : List String :=
  ["generation", "method_max", "candidate_max", "permutation_ceiling", "truncate_on_overflow",
   "adapter_limit", "max_params_length", "filter_accessors", "include_private",
   "invocation_timeout_ms", "cache_capacity"]

def settingsOutline : Json.Outline := .fields settingNames

def settings : Json → Read Settings :=
  structure_ settingNames 0 ({} : Settings) settingsField some

def writeSettings (s : Settings) : Json :=
  .record [("generation", .text s.generation.word), ("method_max", .nat s.methodMax),
    ("candidate_max", .nat s.candidateMax), ("permutation_ceiling", .nat s.permutationCeiling),
    ("truncate_on_overflow", .bool s.truncateOnOverflow), ("adapter_limit", .nat s.adapterLimit),
    ("max_params_length", .nat s.maxParamsLength), ("filter_accessors", .bool s.filterAccessors),
    ("include_private", .bool s.includePrivate),
    ("invocation_timeout_ms", Json.orNull .nat s.invocationTimeout),
    ("cache_capacity", .nat s.cacheCapacity)]

end Refit.Wire
