/-! Named fields, kept in the order of their names. Names are ordered by code
points, which is also the order of their encoded bytes. -/

namespace Projections.Fields

variable {α : Type}

/-- Puts a field in its place; a field of that name is replaced. -/
def insert (key : String) (value : α) : List (String × α) → List (String × α)
  | [] => [(key, value)]
  | (k, v) :: rest =>
    if key < k then (key, value) :: (k, v) :: rest
    else if key = k then (key, value) :: rest
    else (k, v) :: insert key value rest

/-- The last of several fields of one name is kept. -/
def ofList (entries : List (String × α)) : List (String × α) :=
  entries.foldl (fun fields entry => insert entry.1 entry.2 fields) []

def get? (key : String) (fields : List (String × α)) : Option α := fields.lookup key

/-- Names strictly ascend. -/
def Ordered (fields : List (String × α)) : Prop := fields.Pairwise fun a b => a.1 < b.1

end Projections.Fields
