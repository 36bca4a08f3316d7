import Refit.Execution.Script
import Refit.Execution.Sequence
import Refit.Signature.Interface

/-!
# Sample stacks

Five components around one interface: two plain stacks, a bean that is none, a stack whose `size`
never comes back, and a stack whose `push` stays closed; with the host that runs them.
-/

namespace Refit.Samples

/-- A stack of any objects. -/
def stack : Interface :=
  (((Interface.mk "Stack" [] []).withMethod "push" [.object] .object).withMethod "pop" [] .object)
    |>.withMethod "size" [] (.primitive .int)

/-- Makes a stack, pushes a text and asks for the size. -/
def pushSize : Except Error Sequence :=
  Sequence.build "push_size"
    [(.construct "Stack", []),
     (.call "Stack" "push" (some 0), [.literal (.text "hi")]),
     (.call "Stack" "size" (some 0), [])]

def constructor : Member := { name := Member.constructorName, kind := .constructor }

def method (name : String) (params : List ValueType) (returnType : ValueType) : Member :=
  { name, params, returnType }

def push : Member := method "push" [.object] .object

def pop : Member := method "pop" [] .object

def peek : Member := method "peek" [] .object

def size : Member := method "size" [] (.primitive .int)

/-- A class with these members. -/
def component (name id : String) (members : List Member) : Component :=
  members.foldl Component.withMember { name, id }

def listStack : Component :=
  component "demo.ListStack" "list-stack" [constructor, push, pop, peek, size]

def linkedStack : Component :=
  component "demo.LinkedStack" "linked-stack" [constructor, push, pop, size]

/-- Shows accessors only; what looks like a push is private. -/
def bean : Component :=
  component "demo.Bean" "bean"
    [constructor, method "getValue" [] .object, method "setValue" [.object] .void,
     method "isEmpty" [] (.primitive .boolean),
     { method "pushAll" [.object] .object with visibility := .nowhere }]

def stuckStack : Component :=
  component "demo.StuckStack" "stuck-stack" [constructor, push, pop, size]

def sealedStack : Component :=
  component "demo.SealedStack" "sealed-stack" [constructor, push, pop, size]

/-- The sample with a short name. -/
def ofName? : String → Option Component
  | "list_stack" => some listStack
  | "linked_stack" => some linkedStack
  | "bean" => some bean
  | "stuck_stack" => some stuckStack
  | "sealed_stack" => some sealedStack
  | _ => none

/-- The code of a stack that keeps its items in a list. -/
def stackScripts (typeName : String) : List MemberScript :=
  [⟨typeName, Member.constructorName, [], .never, .new, false⟩,
   ⟨typeName, "push", [.object], .always, .push, false⟩,
   ⟨typeName, "pop", [], .always, .pop, false⟩,
   ⟨typeName, "size", [], .always, .size, false⟩]

/-- The code of all samples. -/
def host : HostScript :=
  let scripts :=
    stackScripts listStack.name ++ [⟨listStack.name, "peek", [], .always, .peek, false⟩] ++
      stackScripts linkedStack.name ++ stackScripts sealedStack.name ++
      stackScripts stuckStack.name ++ [⟨stuckStack.name, "size", [], .asGiven, .hang, false⟩]
  (scripts.foldl HostScript.register {}).close sealedStack.name "push"

end Refit.Samples
