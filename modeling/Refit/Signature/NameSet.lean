/-!
# Sets of names

A set of names is the ascending list of its members.  Main statement: inserting a name adds exactly
that name.
-/

namespace Refit

abbrev NameSet := List String

namespace NameSet

/-- Puts a name in its place; one that is there already stays alone. -/
def insert (name : String) : NameSet → NameSet
  | [] => [name]
  | other :: rest =>
    if name = other then other :: rest
    else if name < other then name :: other :: rest
    else other :: insert name rest

def ofList (names : List String) : NameSet := names.foldl (fun set name => set.insert name) []

def erase (name : String) (set : NameSet) : NameSet := set.filter (· ≠ name)

@[simp] theorem mem_insert {x name : String} {set : NameSet} :
    x ∈ insert name set ↔ x = name ∨ x ∈ set := by
  induction set with
  | nil => simp [insert]
  | cons other rest ih =>
    unfold insert
    split
    · next h => simp [h]
    · split
      · simp
      · simp only [List.mem_cons, ih]
        constructor
        · rintro (h | h | h)
          · exact .inr (.inl h)
          · exact .inl h
          · exact .inr (.inr h)
        · rintro (h | h | h)
          · exact .inr (.inl h)
          · exact .inl h
          · exact .inr (.inr h)

@[simp] theorem mem_erase {x name : String} {set : NameSet} :
    x ∈ erase name set ↔ x ∈ set ∧ x ≠ name := by
  simp [erase]

end NameSet

end Refit
