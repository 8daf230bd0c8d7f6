import PhotoCatalog.Record.Basic

/-!
Records as documents.  Every key is present, and what is not known is null.
-/

namespace PhotoCatalog

def Value.ofOption {α : Type} (toValue : α → Value) : Option α → Value
  | some a => toValue a
  | none => .null

def Value.ofTexts (texts : List String) : Value := .list (texts.map .text)

def Metadata.entry (m : Metadata) (field : MetadataField) : String × Value :=
  (field.shape.key, .ofOption field.kind.toValue (m.get field))

def Metadata.groupDocument (m : Metadata) (group : MetadataGroup) : Value :=
  .map (group.fields.map m.entry)

def Metadata.document (m : Metadata) : Value :=
  .map (MetadataGroup.all.map fun group => (group.key, m.groupDocument group))

def Description.document (d : Description) : Value := .map [
  ("HasExplicitContent", .bool d.hasExplicitContent),
  ("HasNudity", .bool d.hasNudity),
  ("PictureType", .ofOption .text d.pictureType),
  ("OverallMood", .ofOption .text d.overallMood),
  ("StyleType", .ofOption .text d.styleType),
  ("Keywords", .ofTexts d.keywords),
  ("ShortDescription", .ofOption .text d.shortDescription),
  ("LongDescription", .ofOption .text d.longDescription)]

/-- The document of a detection; faces and objects have different keys for their label. -/
def Detection.document (labelKey : String) (d : Detection) : Value := .map [
  ("Confidence", .float d.confidence),
  ("BBox", .ofOption (fun corners => .list (corners.map .int)) d.box),
  (labelKey, .ofOption .text d.label)]

def faceKey : String := "UserId"

def objectKey : String := "Label"

def People.document (p : People) : Value := .map [
  ("Count", .int p.count),
  ("Faces", .ofTexts p.faces),
  ("Predictions", .list (p.detections.map (Detection.document faceKey))),
  ("Success", .bool p.success)]

def Objects.document (o : Objects) : Value := .map [
  ("Count", .int o.count),
  ("Predictions", .list (o.detections.map (Detection.document objectKey))),
  ("LabelCounts", .map (o.labelCounts.map fun (label, n) => (label, .int n)))]

def Scene.document (s : Scene) : Value := .map [
  ("Label", .text s.label),
  ("Confidence", .float s.confidence),
  ("ConfidencePercentage", .float s.percentage),
  ("Success", .bool s.success)]

def Record.document (r : Record) : Value := .map [
  ("Path", .text r.path),
  ("Width", .ofOption .int r.width),
  ("Height", .ofOption .int r.height),
  ("Metadata", r.metadata.document),
  ("Description", r.description.document),
  ("People", r.people.document),
  ("Objects", r.objects.document),
  ("Scenes", r.scene.document)]

end PhotoCatalog
