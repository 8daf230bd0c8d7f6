import PhotoCatalog.Address.FileUri
import PhotoCatalog.Query.DateRange
import PhotoCatalog.Query.Render

/-!
From criteria to one query.  Every active facet becomes one condition, and an image has to satisfy
all of them; rows come in the order of their paths.
-/

namespace PhotoCatalog.Query

open PhotoCatalog.Pattern

/-- The condition that a column satisfies a token. -/
def tokenCondition (column token : String) (substring : Bool) : Condition :=
  let like := LikePattern.ofToken token substring
  if like.exact then .exact column (.text like.pattern) true
  else .like column like.pattern like.prefixOptimizable

/-- The condition that one of the columns satisfies one of the tokens. -/
def textCondition (columns tokens : List String) (substring : Bool) : Condition :=
  .group (tokens.flatMap fun token => columns.map fun column =>
    tokenCondition column token substring)

/-- The condition that a row of a child table satisfies one of the tokens. -/
def childCondition (table : ChildTable) (tokens : List String) (substring : Bool) : Condition :=
  .existsIn table (.group (tokens.map fun token =>
    tokenCondition table.matchColumn token substring))

/-- The condition of a token facet.  Paths are searched for substrings, and file addresses among
their tokens become plain paths. -/
def listCondition (facet : ListFacet) (tokens : List String) : Except Fault Condition := do
  let tokens ← if facet = .pathLike then tokens.mapM Address.plainPath else pure tokens
  match facet.target with
  | .child table => return childCondition table tokens false
  | .columns names => return textCondition names tokens (facet = .pathLike)

def rangeCondition (facet : RangeFacet) (bounds : Bounds) : Except Fault Condition :=
  if facet = .dateTaken then dateRange facet.column bounds else numericRange facet.column bounds

/-- The conditions of one free-text token: one for every text column and every child table. -/
def freeTextItems (token : String) : List Condition :=
  freeTextColumns.map (tokenCondition · token true)
    ++ ChildTable.all.map fun table => childCondition table [token] true

/-- The condition that some text of the image satisfies one of the tokens. -/
def freeTextCondition (tokens : List String) : Condition := .anyOf (tokens.flatMap freeTextItems)

/-- The region that a place asks for. -/
def placeCondition (place : Place) : Except Fault Condition :=
  (Geo.Region.around latitudeColumn longitudeColumn (.float place.latitude)
    (.float place.longitude) (.float place.meters)).map .within

/-- The condition of a facet, unless the facet is not set. -/
def facetCondition (criteria : Criteria) : Facet → Except Fault (Option Condition)
  | .list facet => (criteria.tokens facet).mapM (listCondition facet)
  | .range facet => (criteria.bounds facet).mapM (rangeCondition facet)
  | .flag facet =>
    .ok (if criteria.flags facet then some (.flag facet.column (.int facet.wanted)) else none)
  | .geoLocation => criteria.place.mapM placeCondition
  | .any => .ok (criteria.any.map freeTextCondition)

def conditionsFor (criteria : Criteria) : List Facet → Except Fault (List (Facet × Condition))
  | [] => .ok []
  | facet :: rest => do
    match ← facetCondition criteria facet with
    | some condition => return (facet, condition) :: (← conditionsFor criteria rest)
    | none => conditionsFor criteria rest

def conditionsOf (criteria : Criteria) : Except Fault (List (Facet × Condition)) :=
  conditionsFor criteria Facet.all

/-- The columns of a child table that are collected into one document per image. -/
def rowsColumn (table : ChildTable) (name result : String) : String :=
  let column (c : String) := name ++ "." ++ c
  let pair (c : String) := "'" ++ c ++ "', " ++ column c
  "(SELECT json_group_array(json_object("
    ++ ", ".intercalate
      (([table.matchColumn, "confidence", "x_min", "y_min", "x_max", "y_max"]).map pair)
    ++ ")) FROM " ++ table.name ++ " " ++ name ++ " WHERE " ++ name ++ ".image_id = " ++ imageName
    ++ ".id) AS " ++ result

def selectColumns : String :=
  ",\n       ".intercalate
    [imageName ++ ".*", rowsColumn .people "pr" peopleRowsColumn,
      rowsColumn .objects "orow" objectRowsColumn]

def statementText (conditions : List String) : String :=
  "SELECT " ++ selectColumns ++ "\nFROM " ++ imagesTable ++ " " ++ imageName
    ++ (if conditions.isEmpty then "" else "\nWHERE " ++ "\n  AND ".intercalate conditions)
    ++ "\nORDER BY " ++ imageName ++ ".path"

/-- Insert a text into a sorted list, unless it is there. -/
def insertSorted (s : String) : List String → List String
  | [] => [s]
  | t :: rest => if s < t then s :: t :: rest else if s = t then t :: rest
    else t :: insertSorted s rest

/-- The texts of a list in order, each once. -/
def sortedSet (texts : List String) : List String := texts.foldr insertSorted []

/-- A query: the conditions and their texts, the values bound to its parameters, and the columns
that no index helps with. -/
structure Statement where
  conditions : List Condition
  texts : List String
  params : List (String × Value)
  fullScanColumns : List String

def Statement.sql (statement : Statement) : String := statementText statement.texts

/-- The query that criteria ask for. -/
def compile (criteria : Criteria) : Except Fault Statement := do
  let conditions := (← conditionsOf criteria).map (·.2)
  let (texts, bindings) := (renderAll imageName conditions).run (Bindings.start "p")
  return {
    conditions := conditions
    texts := ← texts
    params := bindings.params
    fullScanColumns := sortedSet (fullScansOf conditions) }

end PhotoCatalog.Query
