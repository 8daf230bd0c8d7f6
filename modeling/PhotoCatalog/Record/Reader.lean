import PhotoCatalog.Record.Document
import PhotoCatalog.Record.Lookup
import PhotoCatalog.Number.Decimal
import PhotoCatalog.Schema
import PhotoCatalog.Value.Convert

/-!
Records from rows and from documents.  The catalog has kept the same things in two ways: in
documents and in plain columns with child tables.  A document goes first, field by field; a field
that it does not give comes from its column, and after that from what the detections tell.
-/

namespace PhotoCatalog

open PhotoCatalog.Text

/-- A value as a whole number; a text may spell any number, which is rounded toward zero. -/
def Value.toCount : Value → Except Fault Int
  | .text s => do intOfFloat (← (Value.text s).toFloat)
  | v => v.toInt

/-- A value as a truth value; a text has to be one of the words for it. -/
def Value.toBool : Value → Except Fault Bool
  | .text s =>
    let word := lower (trim s)
    if ["true", "yes", "1"].contains word then .ok true
    else if ["false", "no", "0", ""].contains word then .ok false
    else .error .malformedNumber
  | v => .ok v.truthy

/-- A value as a text; every value has one. -/
def Value.toText (v : Value) : Except Fault String := .ok v.shown

/-- The texts of the items of a list, null left out. -/
def textsOf : Value → Except Fault (List String)
  | .list items => .ok ((items.filter (!·.isNull)).map Value.shown)
  | _ => .error .wrongKind

/-- A value as a list of texts; a text has to spell the list as a document. -/
def Value.toTexts : Value → Except Fault (List String)
  | .text s => do textsOf (← Json.read s)
  | v => textsOf v

def FieldKind.read : (kind : FieldKind) → Value → Except Fault kind.Carrier
  | .text => Value.toText
  | .real => Value.toFloat
  | .whole => Value.toCount

/-- The first thing that two readings give; the second one is not begun when the first one gives
something. -/
def Reading.orElse {α : Type} (first second : Reading (Option α)) : Reading (Option α) := do
  match ← first with
  | some a => return some a
  | none => second

/-- A value from a document, or else from a column. -/
def merged {α : Type} (convert : Value → Except Fault α) (place : String) (inDocument : Value)
    (column : String) (row : Row) : Reading (Option α) :=
  (usable convert place inDocument).orElse (usable convert column (row.get column))

/-- A field of metadata from the document of its group, or else from its column. -/
def MetadataField.read (document : Value) (row : Row) (field : MetadataField) :
    Reading (Option field.kind.Carrier) :=
  merged field.kind.read (field.shape.group.title ++ "." ++ field.shape.key)
    (document.entry field.shape.key) field.shape.column row

/-- The result of a reading that has been seen to have one. -/
def Reading.resultD {α : Type} (reading : Reading α) (fallback : α) : α :=
  match reading.result with
  | .ok a => a
  | .error _ => fallback

def MetadataField.all : List MetadataField := MetadataGroup.all.flatMap MetadataGroup.fields

def Metadata.read (document : Value) (row : Row) : Reading Metadata := do
  let read (field : MetadataField) := field.read (document.entry field.shape.group.key) row
  MetadataField.all.forM fun field => discard (read field)
  return ⟨fun field => (read field).resultD none⟩

/-- A list of keywords or faces; null is an empty one, and so is, with a warning, a value that is
none. -/
def readTexts (value : Value) : Reading (List String) :=
  match value with
  | .null => pure []
  | value =>
    match value.toTexts with
    | .ok texts => pure texts
    | .error fault =>
      if fault.isMisfit then do
        Reading.warn .keywords
        return []
      else Reading.fail fault

/-- The first of two values that is not null. -/
def Value.orElse (v w : Value) : Value := if v.isNull then w else v

def Description.read (document : Value) (row : Row) : Reading Description := do
  let field {α : Type} (convert : Value → Except Fault α) (key column : String) :=
    merged convert ("DescriptionInfo." ++ key) (document.entry key) column row
  let hasExplicitContent ← field Value.toBool "HasExplicitContent" "has_explicit_content"
  let hasNudity ← field Value.toBool "HasNudity" "has_nudity"
  let pictureType ← field Value.toText "PictureType" "picture_type"
  let overallMood ← field Value.toText "OverallMood" "overall_mood"
  let styleType ← field Value.toText "StyleType" "style_type"
  let shortDescription ← field Value.toText "ShortDescription" "short_description"
  let longDescription ← field Value.toText "LongDescription" "long_description"
  let keywords ← readTexts ((document.entry "Keywords").orElse (row.get "keywords"))
  return ⟨hasExplicitContent.getD false, hasNudity.getD false, pictureType, overallMood, styleType,
    keywords, shortDescription, longDescription⟩

/-- The four corner coordinates of a detection: a list of four, or four entries of their own. -/
def cornersOf (item : Value) : List Value :=
  let single := ["x_min", "y_min", "x_max", "y_max"].map item.entry
  match item.entry "BBox" with
  | .list corners => if corners.length = 4 then corners else single
  | _ => single

def readBox (item : Value) : Reading (Option (List Int)) :=
  let corners := cornersOf item
  if corners.any Value.isNull then pure none
  else match corners.mapM Value.toInt with
    | .ok box => pure (some box)
    | .error fault =>
      if fault.isMisfit then do
        Reading.warn .box
        return none
      else Reading.fail fault

def Detection.read (label item : Value) : Reading Detection := do
  let confidence ← usable Value.toFloat "Confidence" (item.entry "Confidence")
  let box ← readBox item
  return ⟨confidence.getD 0.0, box, if label.isNull then none else some label.shown⟩

/-- A detected face. -/
def readFace (item : Value) : Reading Detection :=
  Detection.read ((item.entry faceKey).orElse (item.entry "name")) item

/-- A detected object. -/
def readObject (item : Value) : Reading Detection := Detection.read (item.entry objectKey) item

def readItems (read : Value → Reading Detection) : List Value → Reading (List Detection)
  | [] => pure []
  | item :: rest =>
    if item.isMap then do
      let first ← read item
      return first :: (← readItems read rest)
    else readItems read rest

/-- The detections that a document lists, or else those of the child rows. -/
def readDetections (read : Value → Reading Detection) (document childRows : Value) :
    Reading (List Detection) :=
  match document.entry "Predictions", childRows with
  | .list items, _ => readItems read items
  | _, .list items => readItems read items
  | _, _ => pure []

def People.read (document : Value) (row : Row) (childRows : Value) : Reading People := do
  let detections ← readDetections readFace document childRows
  let faces := document.entry "Faces"
  let faces ← if faces.isNull then pure (labelsOf detections) else readTexts faces
  let count ← merged Value.toCount "People.Count" (document.entry "Count") "people_count" row
  let success ← usable Value.toBool "People.Success" (document.entry "Success")
  let counted := !(row.get "people_count").isNull || !detections.isEmpty
  return ⟨count.getD detections.length, faces, detections, success.getD counted⟩

/-- The number of objects of each label, as a document tells it; a number that is none is left
out. -/
def readCounts (counts : List (String × Int)) : List (String × Value) →
    Reading (List (String × Int))
  | [] => pure counts
  | (label, value) :: rest => do
    match ← usable Value.toCount ("Objects.LabelCounts[" ++ label ++ "]") value with
    | some n => readCounts (setEntry label n counts) rest
    | none => readCounts counts rest

def Objects.read (document : Value) (row : Row) (childRows : Value) : Reading Objects := do
  let detections ← readDetections readObject document childRows
  let count ← merged Value.toCount "Objects.Count" (document.entry "Count") "objects_count" row
  let labelCounts ← match document.entry "LabelCounts" with
    | .map entries => readCounts [] entries
    | _ => pure (tally (labelsOf detections))
  return ⟨count.getD detections.length, detections, labelCounts⟩

/-- The percentage that belongs to a confidence, to two places. -/
def percentageOf (confidence : Float) : Float := Number.roundPlaces 2 (confidence * 100.0)

/-- The scene of an image; it is unknown without a label. -/
def Scene.read (document : Value) (row : Row) : Reading Scene := do
  match ← merged Value.toText "Scenes.Label" (document.entry "Label") "scene_label" row with
  | none => return .unknown
  | some label =>
    let confidence ← merged Value.toFloat "Scenes.Confidence" (document.entry "Confidence")
      "scene_confidence" row
    let confidence := confidence.getD 0.0
    let percentage ← usable Value.toFloat "Scenes.ConfidencePercentage"
      (document.entry "ConfidencePercentage")
    let success ← usable Value.toBool "Scenes.Success" (document.entry "Success")
    return ⟨label, confidence, percentage.getD (percentageOf confidence),
      success.getD (label != "unknown")⟩

/-- The text of a path; null is the empty path. -/
def pathText (value : Value) : String := if value.isNull then "" else value.shown

def Record.ofRow (row : Row) : Reading Record := do
  let path := row.get "path"
  let document (column : String) := loadDocument (column ++ " of " ++ path.shown) (row.get column)
  let metadata ← Metadata.read (← document "metadata_json") row
  let description ← Description.read (← document "description_json") row
  let peopleDocument ← document "people_json"
  let people ← People.read peopleDocument row (← document peopleRowsColumn)
  let objectsDocument ← document "objects_json"
  let objects ← Objects.read objectsDocument row (← document objectRowsColumn)
  let scene ← Scene.read (← document "scenes_json") row
  let width ← usable Value.toCount "width" (row.get "width")
  let height ← usable Value.toCount "height" (row.get "height")
  return ⟨pathText path, width.orElse fun _ => metadata.get .width,
    height.orElse fun _ => metadata.get .height, metadata, description, people, objects, scene⟩

def Record.ofDocument (document : Value) : Reading Record := do
  let metadata ← Metadata.read (document.entry "Metadata") []
  let width ← usable Value.toCount "Width" (document.entry "Width")
  let height ← usable Value.toCount "Height" (document.entry "Height")
  let description ← Description.read (document.entry "Description") []
  let people ← People.read (document.entry "People") [] .null
  let objects ← Objects.read (document.entry "Objects") [] .null
  let scene ← Scene.read (document.entry "Scenes") []
  return ⟨pathText (document.entry "Path"), width.orElse fun _ => metadata.get .width,
    height.orElse fun _ => metadata.get .height, metadata, description, people, objects, scene⟩

end PhotoCatalog
