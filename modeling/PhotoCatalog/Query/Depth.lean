import PhotoCatalog.Query.Condition

/-!
How deeply a query is nested.  A catalog reads the conditions of a query as a tree of operations,
in which every further member of a chain of alternatives or of conjunctions adds a level, and it
refuses trees of too many levels.
-/

namespace PhotoCatalog.Query

/-- The greatest number of levels. -/
def depthLimit : Nat := 1000

/-- The levels of a comparison: the operation, a column, and the two names that the column is
written with. -/
def comparisonDepth : Nat := 3

/-- The levels of the distance formula compared with a distance. -/
def distanceDepth : Nat := 13

/-- The levels of a chain whose members have these levels; an empty chain is written as a number. -/
def chainDepth : List Nat → Nat
  | [] => 1
  | first :: rest => rest.foldl (fun depth member => max depth member + 1) first

mutual

/-- The levels of a condition. -/
def Condition.depth : Condition → Nat
  | .exact .. | .like .. | .flag .. => comparisonDepth
  | .range _ _ high upperExclusive =>
    let count := if high.isSome && upperExclusive then 3 else 2
    chainDepth (List.replicate count comparisonDepth)
  | .anyOf items => chainDepth (depthsOf items)
  | .allOf items => chainDepth (depthsOf items)
  | .existsIn _ condition => chainDepth [comparisonDepth, condition.depth] + 1
  | .within region =>
    let boxes := chainDepth (region.lonBoxes.map fun _ => comparisonDepth)
    chainDepth [comparisonDepth, comparisonDepth, comparisonDepth, boxes, distanceDepth]
  | .unknown => 1

def depthsOf : List Condition → List Nat
  | [] => []
  | condition :: rest => condition.depth :: depthsOf rest

end

mutual

/-- The levels of the inner queries of a condition, those of a query within a query counted
together. -/
def Condition.innerDepth : Condition → Nat
  | .anyOf items => innerDepthOf items
  | .allOf items => innerDepthOf items
  | .existsIn _ condition =>
    chainDepth [comparisonDepth, condition.depth] + condition.innerDepth
  | _ => 0

/-- The greatest number of levels in an inner query of several conditions. -/
def innerDepthOf : List Condition → Nat
  | [] => 0
  | condition :: rest => max condition.innerDepth (innerDepthOf rest)

end

/-- Whether the conditions of a query are nested too deeply; an inner query counts on top of the
query that it belongs to. -/
def isTooDeep (conditions : List Condition) : Bool :=
  !conditions.isEmpty && depthLimit < chainDepth (depthsOf conditions) + innerDepthOf conditions

end PhotoCatalog.Query
