import Refit.Settings.Basic
import Refit.Signature.Interface
import Refit.Signature.Member

/-!
# Rules on members

Which members are considered for an operation at all.
-/

namespace Refit

inductive MemberRule where
  /-- Accessors serve accessors only. -/
  | accessor
  | visibility (includePrivate : Bool)
  deriving DecidableEq, Repr

namespace MemberRule

def accepts (wanted : Operation) (m : Member) : MemberRule → Bool
  | accessor => wanted.isAccessor || !isAccessorName m.name
  | visibility includePrivate => includePrivate || m.visibility ≠ .nowhere

/-- All rules must accept. -/
def allAccept (rules : List MemberRule) (wanted : Operation) (m : Member) : Bool :=
  rules.all (accepts wanted m)

def ofSettings (s : Settings) : List MemberRule :=
  visibility s.includePrivate :: if s.filterAccessors then [accessor] else []

end MemberRule

end Refit
