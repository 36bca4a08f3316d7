import Refit.Fitting.Adapter
import Refit.Matching.Rule
import Refit.Wire.Settings
import Refit.Wire.Values

/-!
# Candidates and adapters as JSON
-/

namespace Refit.Wire

/-- The texts of all conversions between primitives, and of the others. -/
def allConversions : List Conversion :=
  let pairs (make : Primitive → Primitive → Conversion) : List Conversion :=
    Primitive.all.flatMap fun a => Primitive.all.map (make a)
  [.identity, .discard, .textToChars, .charsToText, .listToArray, .arrayToList] ++
    Primitive.all.map .box ++ Primitive.all.map .unbox ++ pairs .widen ++ pairs .narrow

def conversion? (s : String) : Option Conversion := allConversions.find? (·.text == s)

def conversion (name : String) (value : Json) : Reading Conversion :=
  orMalformed name (value.text?.bind conversion?)

def typeAt (value : Json) : Reading ValueType := ofRead (type value)

def memberAt (value : Json) : Reading Member := ofRead (member value)

/-- Reads a list of things, in order. -/
def each (read : Json → Reading α) : List Json → Reading (List α)
  | [] => pure []
  | value :: rest => do
    let a ← read value
    let as ← each read rest
    pure (a :: as)

def candidate (value : Json) : Reading Candidate := do
  let f ← fields "candidate" value
  let operation ← natOr f "operation" 0
  let member ← memberAt (shapeIn f "member")
  let positions ←
    match given? f "positions" with
    | some value => do
      each (fun p => orMalformed "positions" (natural? p)) (← orMalformed "positions" value.list?)
    | none => pure (List.range member.arity)
  let conversions ←
    match given? f "conversions" with
    | some value => do
      each (conversion "conversions") (← orMalformed "conversions" value.list?)
    | none => pure (List.replicate member.arity .identity)
  let returnConversion ←
    match given? f "return" with
    | some value => conversion "return" value
    | none => pure .identity
  let distance ←
    match given? f "distance" with
    | some value => orMalformed "distance" ((value.text?.bind doubleBits?).map Distance.mk)
    | none => pure .zero
  pure { operation, member, positions, conversions, returnConversion, distance }

def writeCandidate (c : Candidate) : Json :=
  .record [("operation", .nat c.operation), ("member", .text c.member.text),
    ("positions", .list (c.positions.map .nat)),
    ("conversions", .texts (c.conversions.map (·.text))),
    ("return", .text c.returnConversion.text), ("distance", writeDouble c.distance.toFloat),
    ("direct", .bool c.isDirect), ("displaced", .nat c.displaced),
    ("converted", .nat c.convertedCount)]

def initializer (value : Json) : Reading Initializer :=
  if value.isNull then pure .static else do pure (.constructor (← candidate value))

def writeInitializer (i : Initializer) : Json :=
  Json.orNull (fun c : Candidate => .text c.brief) i.candidate?

def adapter (value : Json) : Reading Adapter := do
  let f ← fields "adapted" value
  pure
    { adapterId := ← natOr f "adapter_id" 0, candidateId := ← textOr f "candidate_id" "manual"
      component := ← textOr f "component" "", interface := ← textOr f "interface" ""
      initializers := ← each initializer (← listOf f "initializers")
      methods := ← each candidate (← listOf f "methods") }

/-- A text is an interface as it is written, anything else a record. -/
def interfaceAt : Json → Reading Interface
  | .text s => ofResult ((Interface.parse s).mapError .parse)
  | value => ofRead (interface value)

def components (values : List Json) : Reading (List Component) :=
  each (fun value => ofRead (component value)) values

/-- The settings in a field, the defaults when it is missing. -/
def settingsIn (f : Fields) (name : String) : Reading Settings :=
  match given? f name with
  | some value => ofRead (settings value)
  | none => pure {}

def memberRule? : Json → Option MemberRule
  | .text "accessor" => some .accessor
  | .text "private" => some (.visibility true)
  | .text "visibility" => some (.visibility false)
  | _ => none

/-- The rules that are listed, or those of the settings. -/
def memberRules (f : Fields) (s : Settings) : Reading (List MemberRule) :=
  match given? f "filters" with
  | some value => do
    each (fun v => orMalformed "filters" (memberRule? v)) (← orMalformed "filters" value.list?)
  | none => pure (MemberRule.ofSettings s)

end Refit.Wire
