import ChangeSieve.Record.Basic

/-!
The order of map entries. What is read is sorted, but in memory the entries of a map lie in an order that differs
from map to map and from run to run, and they are written in this order.
-/
namespace ChangeSieve

/-- For every map, by its place in what was read, the order in which its entries are gone through: any order. -/
structure MapOrder where
  entriesAt : List Nat → List (String × Attribute) → List (String × Attribute)
  perm : ∀ place entries, (entriesAt place entries).Perm entries

/-- The order of the names. -/
def MapOrder.sorted : MapOrder := ⟨fun _ entries => entries, fun _ _ => .refl _⟩

namespace Attribute
variable (order : MapOrder)

mutual

/-- A value with the entries of its maps in order. A place is told by the positions that lead to it, innermost first. -/
def arrange (place : List Nat) : Attribute → Attribute
  | .list items => .list (arrangeItems place 0 items)
  | .map entries => .map (order.entriesAt place (arrangeEntries place 0 entries))
  | a => a
  termination_by structural a => a

def arrangeItems (place : List Nat) (position : Nat) : List Attribute → List Attribute
  | [] => []
  | a :: rest => a.arrange (position :: place) :: arrangeItems place (position + 1) rest
  termination_by structural items => items

def arrangeEntries (place : List Nat) (position : Nat) : List (String × Attribute) → List (String × Attribute)
  | [] => []
  | (key, a) :: rest => (key, a.arrange (position :: place)) :: arrangeEntries place (position + 1) rest
  termination_by structural entries => entries

end

end Attribute

namespace Record
variable (order : MapOrder)

mutual

/-- A record with the entries of its maps in order; the fields of objects stay sorted. -/
def arrange (place : List Nat) : Record → Record
  | .list items => .list (arrangeItems place 0 items)
  | .typed a => .typed (a.arrange order place)
  | .object fields => .object (arrangeFields place 0 fields)
  | r => r
  termination_by structural r => r

def arrangeItems (place : List Nat) (position : Nat) : List Record → List Record
  | [] => []
  | r :: rest => r.arrange (position :: place) :: arrangeItems place (position + 1) rest
  termination_by structural items => items

def arrangeFields (place : List Nat) (position : Nat) : List (String × Record) → List (String × Record)
  | [] => []
  | (key, r) :: rest => (key, r.arrange (position :: place)) :: arrangeFields place (position + 1) rest
  termination_by structural fields => fields

end

end Record

/-- Records as they lie in memory once they are read. -/
def MapOrder.arrange (order : MapOrder) (rs : List Record) : List Record := Record.arrangeItems order [] 0 rs

end ChangeSieve
