import PhotoCatalog.Proofs.Sql.Meaning
import PhotoCatalog.Query.Statement

/-!
What conditions mean.  The truth of a tree of conditions is that of its members together, in the
logic of three values; each comparison is about a column of the table whose rows the innermost inner
query goes through.
-/

namespace PhotoCatalog.Query

open PhotoCatalog.Catalog PhotoCatalog.Sql

section Truth

variable {Row : Type} (world : World Row)

/-- A whole number as it is written. -/
def wholeNumber : Int → Expr
  | .ofNat n => .number (toString n)
  | .negSucc n => .negated (.number (toString (n + 1)))

/-- The distance in kilometers between the places of two coordinates. -/
def distanceExpr (lat lon originLat originLon : Expr) : Expr :=
  let radians (e : Expr) : Expr := .call "radians" e
  let cos (e : Expr) : Expr := .call "cos" (radians e)
  let halfSine (a b : Expr) : Expr :=
    .call "sin" (.binary .over (.binary .minus (radians a) (radians b)) (.number "2"))
  let sinLat := halfSine lat originLat
  let sinLon := halfSine lon originLon
  let product (a b : Expr) : Expr := .binary .times a b
  let hav := .binary .plus (product sinLat sinLat)
    (product (product (product (cos originLat) (cos lat)) sinLon) sinLon)
  product (product (.number "2") (.number "6371.0")) (.call "asin" (.call "sqrt" hav))

def allTrue (truths : List Truth) : Truth := truths.foldr Truth.and (some true)

def someTrue (truths : List Truth) : Truth := truths.foldr Truth.or (some false)

/-- The truth of a range: its column has a value, which lies between the bounds. -/
def rangeTruth (scope : Scope Row) (column : Expr) (low : Value) (high : Option Value)
    (upperExclusive : Bool) : Truth :=
  let isSet := world.compares scope (.isNotNull column)
  match high with
  | none => allTrue [isSet, world.compares scope (.binary .equal column (.value low))]
  | some high =>
    if upperExclusive then
      allTrue [isSet, world.compares scope (.binary .atLeast column (.value low)),
        world.compares scope (.binary .less column (.value high))]
    else allTrue [isSet, world.compares scope (.between column (.value low) (.value high))]

def boxTruth (scope : Scope Row) (column : Expr) (box : Float × Float) : Truth :=
  world.compares scope (.between column (.value (.float box.1)) (.value (.float box.2)))

/-- The truth of a region: a place is known, lies in the latitudes and in some of the longitudes, if
there are any, and is near enough. -/
def regionTruth (scope : Scope Row) (name : String) (region : Geo.Region) : Truth :=
  let lat : Expr := .column name region.latColumn
  let lon : Expr := .column name region.lonColumn
  let distance := distanceExpr lat lon (.value region.latitude) (.value region.longitude)
  allTrue
    ([world.compares scope (.isNotNull lat), world.compares scope (.isNotNull lon),
        boxTruth world scope lat region.latBox]
      ++ (if region.lonBoxes.isEmpty then []
        else [someTrue (region.lonBoxes.map (boxTruth world scope lon))])
      ++ [world.compares scope (.binary .atMost distance (.value (.float region.maxKm)))])

mutual

/-- The truth of a tree of conditions; `name` stands for the row that its columns belong to. -/
def Condition.truth : Scope Row → String → Condition → Truth
  | scope, name, .exact column value noCase =>
    world.compares scope (.binary .equal (.column name column)
      (if noCase then .collated (.value value) "NOCASE" else .value value))
  | scope, name, .like column pattern _ =>
    world.compares scope (.like (.column name column) (.value (.text pattern)) (.quoted "\\"))
  | scope, name, .range column low high upperExclusive =>
    rangeTruth world scope (.column name column) low high upperExclusive
  | scope, name, .flag column value =>
    match value.toInt with
    | .ok n => world.compares scope (.binary .equal (.column name column) (wholeNumber n))
    | .error _ => none
  | scope, name, .anyOf items => someTrue (truthsOf scope name items)
  | scope, name, .allOf items => allTrue (truthsOf scope name items)
  | scope, name, .existsIn table condition =>
    some ((world.rows table.name).any fun row =>
      let scope := (table.shortName, row) :: scope
      let belongs := world.compares scope (.binary .equal (.column table.shortName "image_id")
        (.column name "id"))
      belongs.and (condition.truth scope table.shortName) == some true)
  | scope, name, .within region => regionTruth world scope name region
  | _, _, .unknown => none

def truthsOf : Scope Row → String → List Condition → List Truth
  | _, _, [] => []
  | scope, name, condition :: rest => condition.truth scope name :: truthsOf scope name rest

end

end Truth

mutual

/-- A tree over columns with names, all of whose flags are compared with whole numbers. -/
def Condition.IsTree : Condition → Prop
  | .exact column _ _ | .like column _ _ | .range column _ _ _ => isName column = true
  | .flag column value => isName column = true ∧ ∃ n, value.toInt = .ok n
  | .anyOf items => AreTrees items
  | .allOf items => AreTrees items
  | .existsIn _ condition => condition.IsTree
  | .within region => isName region.latColumn = true ∧ isName region.lonColumn = true
  | .unknown => False

def AreTrees : List Condition → Prop
  | [] => True
  | condition :: rest => condition.IsTree ∧ AreTrees rest

end

end PhotoCatalog.Query
