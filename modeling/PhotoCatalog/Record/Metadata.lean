import PhotoCatalog.Value.Basic

/-!
What is known about an image file and about the camera that took it.  The table of fields says for
each of them where documents and the catalog keep it, and of which kind it is; metadata hold a value
of that kind, or nothing, for every field.
-/

namespace PhotoCatalog

inductive FieldKind where
  | text | real | whole
deriving Repr, DecidableEq

/-- The values of a kind. -/
abbrev FieldKind.Carrier : FieldKind → Type
  | .text => String
  | .real => Float
  | .whole => Int

/-- A value of a kind as a value of a document. -/
def FieldKind.toValue : (kind : FieldKind) → kind.Carrier → Value
  | .text, s => .text s
  | .real, x => .float x
  | .whole, n => .int n

inductive MetadataGroup where
  | camera | gps | exposure | basic | author | dateTime | other
deriving Repr, DecidableEq

def MetadataGroup.all : List MetadataGroup :=
  [.camera, .gps, .exposure, .basic, .author, .dateTime, .other]

/-- The key of a group in documents. -/
def MetadataGroup.key : MetadataGroup → String
  | .camera => "Camera"
  | .gps => "GPS"
  | .exposure => "Exposure"
  | .basic => "Basic"
  | .author => "Author"
  | .dateTime => "DateTime"
  | .other => "Other"

/-- The name of a group in warnings. -/
def MetadataGroup.title : MetadataGroup → String
  | .camera => "CameraInfo"
  | .gps => "GpsInfo"
  | .exposure => "ExposureInfo"
  | .basic => "BasicInfo"
  | .author => "AuthorInfo"
  | .dateTime => "DateTimeInfo"
  | .other => "OtherInfo"

inductive MetadataField where
  | make | model
  | latitude | longitude | altitude
  | exposureTime | fNumber | iso | focalLength | flash | program | metering
  | bitsPerSample | orientation | xResolution | yResolution | fileSize | fileName | extension
  | pixelFormat | format | width | height
  | artist | copyright
  | taken | digitized
  | software | colorSpace | resolutionUnit
deriving Repr, DecidableEq

/-- The fields of a group, in the order of documents. -/
def MetadataGroup.fields : MetadataGroup → List MetadataField
  | .camera => [.make, .model]
  | .gps => [.latitude, .longitude, .altitude]
  | .exposure => [.exposureTime, .fNumber, .iso, .focalLength, .flash, .program, .metering]
  | .basic =>
    [.bitsPerSample, .orientation, .xResolution, .yResolution, .fileSize, .fileName, .extension,
      .pixelFormat, .format, .width, .height]
  | .author => [.artist, .copyright]
  | .dateTime => [.taken, .digitized]
  | .other => [.software, .colorSpace, .resolutionUnit]

/-- Where a field is kept, and of which kind it is. -/
structure FieldShape where
  group : MetadataGroup
  key : String
  column : String
  kind : FieldKind
deriving Repr, DecidableEq

def MetadataField.shape : MetadataField → FieldShape
  | .make => ⟨.camera, "Make", "camera_make", .text⟩
  | .model => ⟨.camera, "Model", "camera_model", .text⟩
  | .latitude => ⟨.gps, "Latitude", "gps_latitude", .real⟩
  | .longitude => ⟨.gps, "Longitude", "gps_longitude", .real⟩
  | .altitude => ⟨.gps, "Altitude", "gps_altitude", .real⟩
  | .exposureTime => ⟨.exposure, "ExposureTime", "exposure_time", .real⟩
  | .fNumber => ⟨.exposure, "FNumber", "f_number", .real⟩
  | .iso => ⟨.exposure, "ISO", "iso", .whole⟩
  | .focalLength => ⟨.exposure, "FocalLength", "focal_length", .real⟩
  | .flash => ⟨.exposure, "Flash", "flash", .whole⟩
  | .program => ⟨.exposure, "ExposureProgram", "exposure_program", .whole⟩
  | .metering => ⟨.exposure, "MeteringMode", "metering_mode", .whole⟩
  | .bitsPerSample => ⟨.basic, "BitsPerSample", "bits_per_sample", .whole⟩
  | .orientation => ⟨.basic, "Orientation", "orientation", .whole⟩
  | .xResolution => ⟨.basic, "XResolution", "x_resolution", .real⟩
  | .yResolution => ⟨.basic, "YResolution", "y_resolution", .real⟩
  | .fileSize => ⟨.basic, "FileSize", "file_size", .whole⟩
  | .fileName => ⟨.basic, "FileName", "file_name", .text⟩
  | .extension => ⟨.basic, "FileExtension", "file_extension", .text⟩
  | .pixelFormat => ⟨.basic, "PixelFormat", "pixel_format", .text⟩
  | .format => ⟨.basic, "Format", "format", .text⟩
  | .width => ⟨.basic, "Width", "width", .whole⟩
  | .height => ⟨.basic, "Height", "height", .whole⟩
  | .artist => ⟨.author, "Artist", "artist", .text⟩
  | .copyright => ⟨.author, "Copyright", "copyright", .text⟩
  | .taken => ⟨.dateTime, "DateTimeOriginal", "date_time_original", .text⟩
  | .digitized => ⟨.dateTime, "DateTimeDigitized", "date_time_digitized", .text⟩
  | .software => ⟨.other, "Software", "software", .text⟩
  | .colorSpace => ⟨.other, "ColorSpace", "color_space", .text⟩
  | .resolutionUnit => ⟨.other, "ResolutionUnit", "resolution_unit", .whole⟩

abbrev MetadataField.kind (field : MetadataField) : FieldKind := field.shape.kind

/-- Metadata: for every field a value of its kind, or nothing. -/
structure Metadata where
  get : (field : MetadataField) → Option field.kind.Carrier

/-- Metadata of which nothing is known. -/
def Metadata.empty : Metadata := ⟨fun _ => none⟩

end PhotoCatalog
