/-!
The facets that a search can ask for, and the tables and columns of the catalog that answer them.
-/

namespace PhotoCatalog

/-- Facets that are asked for with tokens. -/
inductive ListFacet where
  | descriptionSearch | keywords | people | objects | scenes | pictureType | styleType
  | overallMood | pathLike | cameraMake | cameraModel
deriving Repr, DecidableEq

/-- All token facets, in the order in which they are compiled. -/
def ListFacet.all : List ListFacet :=
  [.descriptionSearch, .keywords, .people, .objects, .scenes, .pictureType, .styleType,
    .overallMood, .pathLike, .cameraMake, .cameraModel]

def ListFacet.name : ListFacet → String
  | .descriptionSearch => "description_search"
  | .keywords => "keywords"
  | .people => "people"
  | .objects => "objects"
  | .scenes => "scenes"
  | .pictureType => "picture_type"
  | .styleType => "style_type"
  | .overallMood => "overall_mood"
  | .pathLike => "path_like"
  | .cameraMake => "camera_make"
  | .cameraModel => "camera_model"

/-- Facets that are asked for with one or two bounds. -/
inductive RangeFacet where
  | latitude | longitude | altitude | exposureTime | fNumber | iso | focalLength | width | height
  | dateTaken
deriving Repr, DecidableEq

/-- All range facets, in the order in which they are compiled. -/
def RangeFacet.all : List RangeFacet :=
  [.latitude, .longitude, .altitude, .exposureTime, .fNumber, .iso, .focalLength, .width, .height,
    .dateTaken]

def RangeFacet.name : RangeFacet → String
  | .latitude => "gps_latitude"
  | .longitude => "gps_longitude"
  | .altitude => "gps_altitude"
  | .exposureTime => "exposure_time"
  | .fNumber => "f_number"
  | .iso => "iso"
  | .focalLength => "focal_length"
  | .width => "width"
  | .height => "height"
  | .dateTaken => "date_taken"

/-- The column of images that a range facet looks at. -/
def RangeFacet.column : RangeFacet → String
  | .dateTaken => "date_time_original"
  | facet => facet.name

/-- Facets that are asked for by being set. -/
inductive FlagFacet where
  | hasNudity | noNudity | hasExplicitContent | noExplicitContent
deriving Repr, DecidableEq

/-- All flags, in the order in which they are compiled. -/
def FlagFacet.all : List FlagFacet :=
  [.hasNudity, .noNudity, .hasExplicitContent, .noExplicitContent]

def FlagFacet.name : FlagFacet → String
  | .hasNudity => "has_nudity"
  | .noNudity => "no_nudity"
  | .hasExplicitContent => "has_explicit_content"
  | .noExplicitContent => "no_explicit_content"

def FlagFacet.column : FlagFacet → String
  | .hasNudity | .noNudity => "has_nudity"
  | .hasExplicitContent | .noExplicitContent => "has_explicit_content"

/-- The value that a flag wants its column to have. -/
def FlagFacet.wanted : FlagFacet → Int
  | .hasNudity | .hasExplicitContent => 1
  | .noNudity | .noExplicitContent => 0

inductive Facet where
  | list (facet : ListFacet)
  | range (facet : RangeFacet)
  | flag (facet : FlagFacet)
  | geoLocation
  | any
deriving Repr, DecidableEq

/-- All facets, in the order in which they are compiled. -/
def Facet.all : List Facet :=
  ListFacet.all.map .list ++ RangeFacet.all.map .range ++ FlagFacet.all.map .flag
    ++ [.geoLocation, .any]

def Facet.name : Facet → String
  | .list facet => facet.name
  | .range facet => facet.name
  | .flag facet => facet.name
  | .geoLocation => "geo_location"
  | .any => "any"

def Facet.ofName? (name : String) : Option Facet :=
  Facet.all.find? (·.name == name)

/-- Facets whose matches are detections with a confidence of their own. -/
def Facet.isDetection : Facet → Bool
  | .list .people | .list .objects | .list .scenes => true
  | _ => false

/-- The tables whose rows belong to an image. -/
inductive ChildTable where
  | keywords | people | objects | scenes
deriving Repr, DecidableEq

/-- All child tables, in the order in which free text searches them. -/
def ChildTable.all : List ChildTable := [.keywords, .people, .objects, .scenes]

def ChildTable.facetName : ChildTable → String
  | .keywords => "keywords"
  | .people => "people"
  | .objects => "objects"
  | .scenes => "scenes"

def ChildTable.name : ChildTable → String
  | .keywords => "image_keywords"
  | .people => "image_people"
  | .objects => "image_objects"
  | .scenes => "image_scenes"

/-- The short name of a child table in a query. -/
def ChildTable.shortName : ChildTable → String
  | .keywords => "k"
  | .people => "p"
  | .objects => "o"
  | .scenes => "s"

/-- The column of a child table that tokens are compared with. -/
def ChildTable.matchColumn : ChildTable → String
  | .keywords => "keyword"
  | .people => "name"
  | .objects => "label"
  | .scenes => "label"

def imagesTable : String := "images"

/-- The short name of the table of images in a query. -/
def imageName : String := "i"

def latitudeColumn : String := "gps_latitude"

def longitudeColumn : String := "gps_longitude"

/-- The column of a result that holds the people of the child table, as a document. -/
def peopleRowsColumn : String := "people_rows"

/-- The column of a result that holds the objects of the child table, as a document. -/
def objectRowsColumn : String := "object_rows"

/-- How a token facet reaches the catalog: through a child table, or through columns of images. -/
inductive FacetTarget where
  | child (table : ChildTable)
  | columns (names : List String)
deriving Repr, DecidableEq

def ListFacet.target : ListFacet → FacetTarget
  | .descriptionSearch => .columns ["short_description", "long_description"]
  | .keywords => .child .keywords
  | .people => .child .people
  | .objects => .child .objects
  | .scenes => .child .scenes
  | .pictureType => .columns ["picture_type"]
  | .styleType => .columns ["style_type"]
  | .overallMood => .columns ["overall_mood"]
  | .pathLike => .columns ["path"]
  | .cameraMake => .columns ["camera_make"]
  | .cameraModel => .columns ["camera_model"]

/-- The columns of images that free text is compared with. -/
def freeTextColumns : List String :=
  ["short_description", "long_description", "picture_type", "style_type", "overall_mood",
    "camera_make", "camera_model", "path"]

end PhotoCatalog
