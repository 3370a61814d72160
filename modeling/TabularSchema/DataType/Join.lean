import TabularSchema.DataType.Widening

/-!
# The join of two types

`DataType.join` combines two types observed for one field into the most specific type that
describes both. Types with a tightest common type have that one; two structs join field by field,
where a field only one of them has keeps its type; two arrays join their elements and contain null
if either does. All other pairs of shapes conflict and become a string.
-/

namespace TabularSchema.DataType

mutual

/-- The most specific type that describes what either type describes. -/
def join (a b : DataType) : DataType :=
  match tightestCommon? a b with
  | some t => t
  | none =>
    match a, b with
    | .struct fs, .struct gs => .struct (joinFields fs gs)
    | .array e n, .array f m => .array (join e f) (n || m)
    | _, _ => string
termination_by structural a

/-- Merges two lists of fields sorted by name, and joins the types of the names both have. -/
def joinFields : List (String × DataType) → List (String × DataType) → List (String × DataType)
  | [], gs => gs
  | (n, t) :: fs, gs =>
    gs.takeWhile (fun g => g.1 < n) ++
      match gs.dropWhile (fun g => g.1 < n) with
      | [] => (n, t) :: fs
      | (m, u) :: rest =>
        if m = n then (n, join t u) :: joinFields fs rest
        else (n, t) :: joinFields fs ((m, u) :: rest)
termination_by structural fs => fs

end

def joinsFrom (acc : DataType) : List DataType → List DataType
  | [] => [acc]
  | t :: ts => acc :: joinsFrom (join acc t) ts

/-- The types a running join passes through: the first type, then the join with each next one. -/
def runningJoin : List DataType → List DataType
  | [] => []
  | t :: ts => joinsFrom t ts

end TabularSchema.DataType
