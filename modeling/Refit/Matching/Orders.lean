/-!
# Orders of parameters

The orders in which the inputs of an operation may be handed to the parameters of a member.  They
are found by backtracking: each free position is taken next, all orders that begin so are gone
through, and the position is given back.
-/

namespace Refit

/-- A search for orders: the order begun, which positions it uses, and the orders found. -/
structure OrderSearch where
  current : List Nat
  used : List Bool
  found : Array (List Nat)

namespace OrderSearch

def start (arity : Nat) : OrderSearch := ⟨[], List.replicate arity false, #[]⟩

def isFree (s : OrderSearch) (i : Nat) : Bool := s.used[i]? == some false

def take (s : OrderSearch) (i : Nat) : OrderSearch :=
  { s with current := s.current ++ [i], used := s.used.set i true }

def giveBack (s : OrderSearch) (i : Nat) : OrderSearch :=
  { s with current := s.current.dropLast, used := s.used.set i false }

def record (s : OrderSearch) : OrderSearch := { s with found := s.found.push s.current }

/-- Takes a position next if it is free, goes on by `search` and gives the position back. -/
def visit (search : OrderSearch → OrderSearch) (s : OrderSearch) (i : Nat) : OrderSearch :=
  if s.isFree i then (search (s.take i)).giveBack i else s

/-- Visits all positions from the first to the last. -/
def visitAll (search : OrderSearch → OrderSearch) (s : OrderSearch) : OrderSearch :=
  (List.range s.used.length).foldl (visit search) s

/-- Goes through the orders that begin like the one begun.  Each position taken leaves one free
position less, and where none is left there is nothing to visit. -/
def extend : Nat → OrderSearch → OrderSearch
  | 0, s => if s.current.length = s.used.length then s.record else s
  | free + 1, s =>
    if s.current.length = s.used.length then s.record else s.visitAll (extend free)

def run (s : OrderSearch) : OrderSearch := extend (s.used.count false) s

end OrderSearch

/-- The orders to try, the given one first.  Reordering is for two parameters up to `longest`. -/
def orderings (arity longest : Nat) : List (List Nat) :=
  if arity < 2 || longest < arity then [List.range arity]
  else (OrderSearch.start arity).run.found.toList

end Refit
