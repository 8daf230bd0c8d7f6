import PhotoCatalog.Geo.Bounds
import PhotoCatalog.Pattern.Like
import PhotoCatalog.Schema

/-!
Conditions on an image.  Column names are unqualified: they belong to the images table, or inside
`existsIn` to the child table.
-/

namespace PhotoCatalog.Query

/-- A condition that the catalog can check. -/
inductive Condition where
  /-- The column equals the value, up to the case of ASCII letters when `noCase`. -/
  | exact (column : String) (value : Value) (noCase : Bool)
  /-- The column matches the pattern. -/
  | like (column pattern : String) (prefixOptimizable : Bool)
  /-- The column lies between the bounds, or equals the only one. -/
  | range (column : String) (low : Value) (high : Option Value) (upperExclusive : Bool)
  /-- The column equals a whole number. -/
  | flag (column : String) (value : Value)
  | anyOf (items : List Condition)
  | allOf (items : List Condition)
  /-- Some row of the child table belongs to the image and satisfies the condition. -/
  | existsIn (table : ChildTable) (condition : Condition)
  /-- The place of the image lies in the region. -/
  | within (region : Geo.Region)
  /-- Something that is no condition. -/
  | unknown
deriving Inhabited

/-- Alternatives, of which a single one stands for itself. -/
def Condition.group : List Condition → Condition
  | [item] => item
  | items => .anyOf items

mutual

/-- The columns that are compared with a pattern that no index helps with. -/
def Condition.fullScanColumns : Condition → List String
  | .like column _ prefixOptimizable => if prefixOptimizable then [] else [column]
  | .anyOf items => fullScansOf items
  | .allOf items => fullScansOf items
  | .existsIn table condition =>
    condition.fullScanColumns.map fun column => table.name ++ "." ++ column
  | _ => []

/-- The columns of all conditions of a list that no index helps with. -/
def fullScansOf : List Condition → List String
  | [] => []
  | condition :: rest => condition.fullScanColumns ++ fullScansOf rest

end

end PhotoCatalog.Query
