import Refit.Signature.Component
import Refit.Signature.Interface
import Refit.Wire.Shape

/-!
# Declarations as JSON

Types, members, components and interfaces, read and written.
-/

namespace Refit.Wire

def type (value : Json) : Read ValueType :=
  match text value with
  | .error why => .error why
  | .ok s => parsed (ValueType.parse s)

def types : Json → Read (List ValueType) := list type

def writeTypes (types : List ValueType) : Json := .texts (types.map (·.text))

def visibility : Json → Read Visibility := word Visibility.all Visibility.word

def memberKind : Json → Read MemberKind := word MemberKind.all MemberKind.word

def componentKind : Json → Read ComponentKind := word ComponentKind.all ComponentKind.word

/-- A record in the making: the required fields that have been read, and the rest with defaults. -/
structure MemberDraft where
  name : Option String := none
  rest : Member := { name := "" }

def memberField (d : MemberDraft) (key : String) (value : Json) : Read MemberDraft :=
  match key with
  | "name" => (text value).map fun s => { d with name := some s }
  | "params" => (types value).map fun ts => { d with rest := { d.rest with params := ts } }
  | "return_type" => (type value).map fun t => { d with rest := { d.rest with returnType := t } }
  | "visibility" =>
    (visibility value).map fun v => { d with rest := { d.rest with visibility := v } }
  | "is_static" => (bool value).map fun b => { d with rest := { d.rest with isStatic := b } }
  | "kind" => (memberKind value).map fun k => { d with rest := { d.rest with kind := k } }
  | "declaring" => (text value).map fun s => { d with rest := { d.rest with declaring := s } }
  | _ => .ok d

def member : Json → Read Member :=
  structure_ ["name", "params", "return_type", "visibility", "is_static", "kind", "declaring"] 1
    ({} : MemberDraft) memberField fun d => d.name.map fun name => { d.rest with name }

def writeMember (m : Member) : Json :=
  .record [("name", .text m.name), ("params", writeTypes m.params),
    ("return_type", .text m.returnType.text), ("visibility", .text m.visibility.word),
    ("is_static", .bool m.isStatic), ("kind", .text m.kind.word),
    ("declaring", .text m.declaring)]

structure ComponentDraft where
  name : Option String := none
  id : Option String := none
  kind : ComponentKind := .concrete
  superName : Option String := none
  interfaces : List String := []
  members : List Member := []

def componentField (d : ComponentDraft) (key : String) (value : Json) : Read ComponentDraft :=
  match key with
  | "name" => (text value).map fun s => { d with name := some s }
  | "id" => (text value).map fun s => { d with id := some s }
  | "kind" => (componentKind value).map fun k => { d with kind := k }
  | "super" => (optional text value).map fun s => { d with superName := s }
  | "interfaces" => (list text value).map fun names => { d with interfaces := names }
  | "members" => (list member value).map fun ms => { d with members := ms }
  | _ => .ok d

/-- The component with its members, which it declares unless they say otherwise. -/
def ComponentDraft.finish? (d : ComponentDraft) : Option Component :=
  match d.name, d.id with
  | some name, some id =>
    let bare : Component :=
      { name, id, kind := d.kind, superName := d.superName, interfaces := d.interfaces }
    some (d.members.foldl Component.withMember bare)
  | _, _ => none

def component : Json → Read Component :=
  structure_ ["name", "id", "kind", "super", "interfaces", "members"] 2 ({} : ComponentDraft)
    componentField ComponentDraft.finish?

def writeComponent (c : Component) : Json :=
  let superField :=
    match c.superName with
    | some name => [("super", Json.text name)]
    | none => []
  .record
    ([("name", .text c.name), ("id", .text c.id), ("kind", .text c.kind.word)] ++ superField ++
      [("interfaces", .texts c.interfaces), ("members", .list (c.members.map writeMember))])

structure OperationDraft where
  name : Option String := none
  params : List ValueType := []
  returnType : Option ValueType := none

def operationField (d : OperationDraft) (key : String) (value : Json) : Read OperationDraft :=
  match key with
  | "name" => (text value).map fun s => { d with name := some s }
  | "params" => (types value).map fun ts => { d with params := ts }
  | "return_type" => (type value).map fun t => { d with returnType := some t }
  | _ => .ok d

def operation : Json → Read Operation :=
  structure_ ["name", "params", "return_type"] 3 ({} : OperationDraft) operationField fun d =>
    match d.name, d.returnType with
    | some name, some returnType => some ⟨name, d.params, returnType⟩
    | _, _ => none

def writeOperation (op : Operation) : Json :=
  .record [("name", .text op.name), ("params", writeTypes op.params),
    ("return_type", .text op.returnType.text)]

structure InterfaceDraft where
  name : Option String := none
  constructors : List Operation := []
  methods : List Operation := []

def interfaceField (d : InterfaceDraft) (key : String) (value : Json) : Read InterfaceDraft :=
  match key with
  | "name" => (text value).map fun s => { d with name := some s }
  | "constructors" => (list operation value).map fun ops => { d with constructors := ops }
  | "methods" => (list operation value).map fun ops => { d with methods := ops }
  | _ => .ok d

def interface : Json → Read Interface :=
  structure_ ["name", "constructors", "methods"] 1 ({} : InterfaceDraft) interfaceField fun d =>
    d.name.map fun name => ⟨name, d.constructors, d.methods⟩

def writeInterface (i : Interface) : Json :=
  .record [("name", .text i.name), ("constructors", .list (i.constructors.map writeOperation)),
    ("methods", .list (i.methods.map writeOperation))]

end Refit.Wire
