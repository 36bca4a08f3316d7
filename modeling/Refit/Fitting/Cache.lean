import Refit.Digest
import Refit.Fitting.Fitter

/-!
# A cache of adapters

Remembers the adapters found for a component and an interface.  The key is a digest of a text that
names what they depend on.  The cache holds a limited number of entries and forgets the one that has
not been asked for longest.
-/

namespace Refit

namespace Fingerprint

def line (opening text : String) : String := opening ++ text ++ "\n"

/-- The text that the key of an entry is the digest of. -/
def text (c : Component) (i : Interface) (catalog : Catalog) (s : Settings) : String :=
  let inherited :=
    match c.hierarchy with
    | some h => h.inherited
    | none => []
  "".intercalate
    ([line "" c.id, line "" c.name] ++ c.members.map (fun m => line "" m.text) ++
      inherited.map (fun m => line "^ " m.text) ++ [line "" i.describe] ++
      catalog.names.map (line "~ ") ++ [s.searchKey])

def digest (c : Component) (i : Interface) (catalog : Catalog) (s : Settings) : String :=
  Digest.md5 (text c i catalog s)

end Fingerprint

structure AdapterCache where
  capacity : Nat
  /-- The entries by key, the one asked for last in front. -/
  entries : List (String × List Adapter) := []
  hits : Nat := 0
  misses : Nat := 0

namespace AdapterCache

/-- An empty cache; it has room for one entry at least. -/
def empty (capacity : Nat) : AdapterCache := { capacity := max capacity 1 }

def get? (cache : AdapterCache) (key : String) : Option (List Adapter) :=
  (cache.entries.find? (·.1 == key)).map (·.2)

/-- The entry moves to the front; the last one is forgotten when there are too many. -/
def use (cache : AdapterCache) (key : String) (adapters : List Adapter) : AdapterCache :=
  { cache with
    entries := ((key, adapters) :: cache.entries.filter (·.1 ≠ key)).take cache.capacity }

/-- The adapters for these arguments, remembered or found now. -/
def fetch (cache : AdapterCache) (fitter : Fitter) (c : Component) (i : Interface)
    (catalog : Catalog) (s : Settings) : List Adapter × AdapterCache :=
  let key := Fingerprint.digest c i catalog s
  match cache.get? key with
  | some adapters => (adapters, { cache.use key adapters with hits := cache.hits + 1 })
  | none =>
    let adapters := fitter.adapters catalog c i s.adapterLimit
    (adapters, { cache.use key adapters with misses := cache.misses + 1 })

def clear (cache : AdapterCache) : AdapterCache := { cache with entries := [] }

end AdapterCache

end Refit
