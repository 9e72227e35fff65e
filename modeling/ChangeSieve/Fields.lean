/-! Lists of keyed values in increasing key order, by code point. -/
namespace ChangeSieve.Fields

variable {α : Type}

def Sorted (fields : List (String × α)) : Prop := fields.Pairwise fun a b => a.1 < b.1

/-- Puts a value under its key, in place of an earlier value of that key. -/
def insert (key : String) (value : α) : List (String × α) → List (String × α)
  | [] => [(key, value)]
  | (k, v) :: rest =>
    if key < k then (key, value) :: (k, v) :: rest
    else if key = k then (key, value) :: rest
    else (k, v) :: insert key value rest

/-- Sorts by key; of values under one key the last one stays. -/
def ofList (pairs : List (String × α)) : List (String × α) :=
  pairs.foldl (fun fields pair => insert pair.1 pair.2 fields) []

def get? (key : String) (fields : List (String × α)) : Option α := fields.lookup key

end ChangeSieve.Fields
