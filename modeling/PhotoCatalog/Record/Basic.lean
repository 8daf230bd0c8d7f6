import PhotoCatalog.Record.Metadata

/-!
Records: what a search returns for one image.
-/

namespace PhotoCatalog

structure Description where
  hasExplicitContent : Bool
  hasNudity : Bool
  pictureType : Option String
  overallMood : Option String
  styleType : Option String
  keywords : List String
  shortDescription : Option String
  longDescription : Option String
deriving Repr, DecidableEq

/-- A detected face or object: how sure the detection is, where it is, and who or what it is. -/
structure Detection where
  confidence : Float
  box : Option (List Int)
  label : Option String
deriving Repr

/-- A label, unless it is empty. -/
def properLabel? (label : Option String) : Option String := label.filter (!·.isEmpty)

/-- The people on an image.  `count` and `faces` may differ from the detections. -/
structure People where
  count : Int
  faces : List String
  detections : List Detection
  success : Bool
deriving Repr

/-- The objects on an image, with the number of objects of each label. -/
structure Objects where
  count : Int
  detections : List Detection
  labelCounts : List (String × Int)
deriving Repr

structure Scene where
  label : String
  confidence : Float
  percentage : Float
  success : Bool
deriving Repr

/-- The scene of an image whose scene is not known. -/
def Scene.unknown : Scene := ⟨"unknown", 0.0, 0.0, false⟩

structure Record where
  path : String
  width : Option Int
  height : Option Int
  metadata : Metadata
  description : Description
  people : People
  objects : Objects
  scene : Scene

/-- The labels that detections have, empty ones left out. -/
def labelsOf (detections : List Detection) : List String :=
  detections.filterMap fun d => properLabel? d.label

def countLabel (counts : List (String × Int)) (label : String) : List (String × Int) :=
  setEntry label ((counts.lookup label).getD 0 + 1) counts

/-- How often each label occurs, in the order of first occurrence. -/
def tally (labels : List String) : List (String × Int) := labels.foldl countLabel []

def Record.hasDetections (r : Record) : Bool :=
  !r.people.detections.isEmpty || !r.objects.detections.isEmpty || r.scene.success

end PhotoCatalog
