import PhotoCatalog.Value.Written

/-!
Why an operation fails.  Each constructor names one cause; the causes that concern the search itself
carry what their message needs.
-/

namespace PhotoCatalog

inductive CriteriaFault where
  | unknownCriterion (name : String)
  | boundCount (name : String) (count : Nat)
  | nullBound (name : String)
  | nudityConflict
  | explicitConflict
  | ratioOutOfRange (ratio : Float)
  | malformedPlace
  | placeOutOfRange (latitude longitude : Float)
  | distanceNotPositive
  | malformedDate (value : Value)
  | unknownFacet (name : String)
  | malformedNumbers (option text : String)
  | malformedPlaceText (text : String)

def CriteriaFault.message : CriteriaFault → String
  | .unknownCriterion name => "Unknown search criterion: " ++ name
  | .boundCount name count =>
    name ++ ": expected a single value or a [min, max] pair, got " ++ toString count ++ " values"
  | .nullBound name => name ++ ": range bounds cannot be null"
  | .nudityConflict => "has_nudity and no_nudity are mutually exclusive"
  | .explicitConflict => "has_explicit_content and no_explicit_content are mutually exclusive"
  | .ratioOutOfRange ratio =>
    "min_confidence_ratio must be within [0, 1], got " ++ Number.floatText ratio
  | .malformedPlace => "geo_location must be (latitude, longitude, max_distance_meters)"
  | .placeOutOfRange latitude longitude =>
    "geo_location coordinates out of range: " ++ Number.floatText latitude ++ ", "
      ++ Number.floatText longitude
  | .distanceNotPositive => "geo_location distance must be positive"
  | .malformedDate value => "date_taken: cannot parse " ++ value.quoted ++ " as a date"
  | .unknownFacet name => "Unknown facet: " ++ name
  | .malformedNumbers option text =>
    "--" ++ option ++ ": expected MIN[,MAX] numbers, got " ++ Text.quoted text
  | .malformedPlaceText text => "--geo: expected LAT,LON,METERS, got " ++ Text.quoted text

/-- What is wrong with a query while the catalog answers it. -/
inductive QueryFault where
  /-- The query names a table that the catalog does not have. -/
  | missingTable (name : String)
  /-- A function of the query was given a value that it has no result for. -/
  | undefinedFunction
  /-- A sequence of bytes cannot stand in a document. -/
  | bytesInDocument
  /-- A pattern is longer than patterns may be. -/
  | patternTooLong
  /-- The conditions of the query are nested too deeply. -/
  | tooDeep
  /-- A list or a mapping cannot be bound to a parameter. -/
  | unsupportedParameter
  /-- The file is no catalog. -/
  | notACatalog
deriving Repr, DecidableEq

inductive OpenFault where
  | missing | notAFolder | isAFolder | nameTooLong
deriving Repr, DecidableEq

/-- The number and the wording of a fault that keeps a file from being opened. -/
def OpenFault.message : OpenFault → String
  | .missing => "[Errno 2] No such file or directory"
  | .notAFolder => "[Errno 20] Not a directory"
  | .isAFolder => "[Errno 21] Is a directory"
  | .nameTooLong => "[Errno 36] File name too long"

inductive Fault where
  | criteria (cause : CriteriaFault)
  | query (cause : QueryFault)
  /-- There is no catalog at this path. -/
  | catalogMissing (path : String)
  /-- The file at this path cannot be opened. -/
  | cannotOpen (path : String) (cause : OpenFault)
  /-- A text that should spell a number does not. -/
  | malformedNumber
  /-- A value is of a kind that the operation is not defined on. -/
  | wrongKind
  /-- A number or a day lies outside of the range that can be represented. -/
  | outOfRange
  | divisionByZero
  /-- A function of real numbers was applied outside of its domain. -/
  | outsideDomain
  /-- Something that is no mapping was used as one. -/
  | notAMapping
  /-- A text is not a JSON document. -/
  | malformedDocument
  /-- The lists and mappings of a JSON document are nested too deeply. -/
  | nestedTooDeeply
  /-- A resource address has an unbalanced bracket in its host. -/
  | malformedAddress
  /-- A path holds a character that no path can hold. -/
  | malformedPath
  /-- The home directory of a user is not known. -/
  | unknownHome
  /-- A file that should hold UTF-8 text does not. -/
  | malformedText
  /-- There is no log level of this name. -/
  | unknownLogLevel (name : String)

/-- The message of a fault that concerns the search itself; other faults have none. -/
def Fault.message? : Fault → Option String
  | .criteria cause => some cause.message
  | .catalogMissing path => some ("Image catalog not found: " ++ path)
  | _ => none

end PhotoCatalog
