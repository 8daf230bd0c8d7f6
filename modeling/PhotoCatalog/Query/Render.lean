import PhotoCatalog.Query.Condition

/-!
Conditions as SQL text.  No value ever enters the text: each one is bound to a parameter of its own,
and the text holds the parameter's name.
-/

namespace PhotoCatalog.Query

/-- The parameters bound so far, in order; their names are the stem and a running number. -/
structure Bindings where
  stem : String
  params : List (String × Value)

/-- No parameters yet. -/
def Bindings.start (stem : String) : Bindings := ⟨stem, []⟩

def Bindings.nextName (b : Bindings) : String := b.stem ++ toString b.params.length

def Bindings.push (b : Bindings) (value : Value) : Bindings :=
  ⟨b.stem, b.params ++ [(b.nextName, value)]⟩

/-- Writing text while parameters are bound; what has been bound stays bound when writing fails. -/
abbrev Writing := ExceptT Fault (StateM Bindings)

/-- Bind a value; the answer is the placeholder. -/
def bind (value : Value) : StateM Bindings String := fun b => (":" ++ b.nextName, b.push value)

def renderRange (column : String) (low : Value) (high : Option Value) (upperExclusive : Bool) :
    StateM Bindings String := do
  let guard := column ++ " IS NOT NULL"
  match high with
  | none =>
    let value ← bind low
    return "(" ++ guard ++ " AND " ++ column ++ " = " ++ value ++ ")"
  | some high =>
    let first ← bind low
    let second ← bind high
    if upperExclusive then
      return "(" ++ guard ++ " AND " ++ column ++ " >= " ++ first ++ " AND " ++ column ++ " < "
        ++ second ++ ")"
    else
      return "(" ++ guard ++ " AND " ++ column ++ " BETWEEN " ++ first ++ " AND " ++ second ++ ")"

def renderBetween (column : String) (box : Float × Float) : StateM Bindings String := do
  let low ← bind (.float box.1)
  let high ← bind (.float box.2)
  return column ++ " BETWEEN " ++ low ++ " AND " ++ high

/-- The texts that a column lies between two numbers, for each of the boxes. -/
def renderBoxes (column : String) : List (Float × Float) → StateM Bindings (List String)
  | [] => return []
  | box :: rest => do
    let first ← renderBetween column box
    return first :: (← renderBoxes column rest)

/-- The longitude test: none without boxes, alternatives when there are several. -/
def longitudeTest : List String → List String
  | [] => []
  | [test] => [test]
  | tests => ["(" ++ " OR ".intercalate tests ++ ")"]

/-- The text of a region: boxes first, then the distance formula. -/
def renderRegion (name : String) (region : Geo.Region) : StateM Bindings String := do
  let lat := name ++ "." ++ region.latColumn
  let lon := name ++ "." ++ region.lonColumn
  let latTest ← renderBetween lat region.latBox
  let lonTests ← renderBoxes lon region.lonBoxes
  let originLat ← bind region.latitude
  let originLon ← bind region.longitude
  let dlat := "(radians(" ++ lat ++ ") - radians(" ++ originLat ++ "))"
  let dlon := "(radians(" ++ lon ++ ") - radians(" ++ originLon ++ "))"
  let hav := "sin(" ++ dlat ++ " / 2) * sin(" ++ dlat ++ " / 2) + cos(radians(" ++ originLat
    ++ ")) * cos(radians(" ++ lat ++ ")) * sin(" ++ dlon ++ " / 2) * sin(" ++ dlon ++ " / 2)"
  let maxKm ← bind (.float region.maxKm)
  let tests := [lat ++ " IS NOT NULL", lon ++ " IS NOT NULL", latTest] ++ longitudeTest lonTests
    ++ ["2 * 6371.0 * asin(sqrt(" ++ hav ++ ")) <= " ++ maxKm]
  return "(" ++ " AND ".intercalate tests ++ ")"

mutual

/-- The text of a condition; `name` is the short name of the table that its columns belong to. -/
def Condition.render (name : String) : Condition → Writing String
  | .exact column value noCase => do
    let value ← bind value
    return name ++ "." ++ column ++ " = " ++ value ++ (if noCase then " COLLATE NOCASE" else "")
  | .like column pattern _ => do
    let pattern ← bind (.text pattern)
    return name ++ "." ++ column ++ " LIKE " ++ pattern ++ " ESCAPE '\\'"
  | .range column low high upperExclusive =>
    renderRange (name ++ "." ++ column) low high upperExclusive
  | .flag column value => do
    let n ← value.toInt
    return name ++ "." ++ column ++ " = " ++ toString n
  | .anyOf items => do
    let texts ← renderAll name items
    return if texts.isEmpty then "0" else "(" ++ " OR ".intercalate texts ++ ")"
  | .allOf items => do
    let texts ← renderAll name items
    return if texts.isEmpty then "1" else "(" ++ " AND ".intercalate texts ++ ")"
  | .existsIn table condition => do
    let inner ← condition.render table.shortName
    return "EXISTS (SELECT 1 FROM " ++ table.name ++ " " ++ table.shortName ++ " WHERE "
      ++ table.shortName ++ ".image_id = " ++ name ++ ".id AND " ++ inner ++ ")"
  | .within region => renderRegion name region
  | .unknown => throw .wrongKind

def renderAll (name : String) : List Condition → Writing (List String)
  | [] => return []
  | condition :: rest => do
    let first ← condition.render name
    return first :: (← renderAll name rest)

end

end PhotoCatalog.Query
