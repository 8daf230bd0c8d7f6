import PhotoCatalog.Schema

/-!
The options of commands.  An option is named in full after two hyphens or with one letter after a
single one; letters may share a hyphen.  A value follows as the next argument, behind an equals
sign, or directly behind a letter.
-/

namespace PhotoCatalog.Command

/-- What an option is about. -/
inductive Topic where
  | tokens (facet : ListFacet)
  | bounds (facet : RangeFacet)
  | any
  | place
  | nudity
  | explicitContent
  | minConfidence
  | catalog
  | language
  | embedding
  | json
  | append
  | showSql
  | verbose
deriving Repr, DecidableEq

/-- One name of an option.  A switch says which way it switches; any other option takes a value. -/
structure OptionName where
  name : String
  topic : Topic
  switch : Option Bool
deriving Repr, DecidableEq

/-- An option that takes a value, by all its names. -/
def valued (topic : Topic) (names : List String) : List OptionName :=
  names.map fun name => ⟨name, topic, none⟩

/-- A switch that can only be set, by all its names. -/
def setting (topic : Topic) (names : List String) : List OptionName :=
  names.map fun name => ⟨name, topic, some true⟩

/-- A switch with a name for either way. -/
def switching (topic : Topic) (on off : String) : List OptionName :=
  [⟨on, topic, some true⟩, ⟨off, topic, some false⟩]

/-- The name of the option for a range facet, without its hyphens. -/
def rangeOption : RangeFacet → String
  | .latitude => "latitude"
  | .longitude => "longitude"
  | .altitude => "altitude"
  | .exposureTime => "exposure-time"
  | .fNumber => "f-number"
  | .iso => "iso"
  | .focalLength => "focal-length"
  | .width => "width"
  | .height => "height"
  | .dateTaken => "date-taken"

def tokenOptions : ListFacet → List String
  | .descriptionSearch => ["--description", "-d"]
  | .keywords => ["--keyword", "-k"]
  | .people => ["--person", "-p"]
  | .objects => ["--object", "-o"]
  | .scenes => ["--scene", "-s"]
  | .pictureType => ["--picture-type"]
  | .styleType => ["--style-type"]
  | .overallMood => ["--mood"]
  | .pathLike => ["--path-like"]
  | .cameraMake => ["--camera-make"]
  | .cameraModel => ["--camera-model"]

def criteriaOptions : List OptionName :=
  ListFacet.all.flatMap (fun facet => valued (.tokens facet) (tokenOptions facet))
    ++ RangeFacet.all.flatMap (fun facet => valued (.bounds facet) ["--" ++ rangeOption facet])
    ++ valued .any ["--any", "-a"] ++ valued .place ["--geo"]
    ++ switching .nudity "--has-nudity" "--no-nudity"
    ++ switching .explicitContent "--has-explicit-content" "--no-explicit-content"

def catalogOptions : List OptionName := valued .catalog ["--db"] ++ valued .language ["--language"]

/-- The options that say how to search, and what to print. -/
def resultOptions : List OptionName :=
  valued .minConfidence ["--min-confidence"] ++ valued .append ["--append"]
    ++ switching .embedding "--embed-images" "--no-embed-images"
    ++ setting .json ["--json"] ++ setting .showSql ["--show-sql"]
    ++ setting .verbose ["--verbose", "-v"]

inductive Name where
  | find | sql | info
deriving Repr, DecidableEq

def Name.ofText? : String → Option Name
  | "find" => some .find
  | "sql" => some .sql
  | "info" => some .info
  | _ => none

def Name.options : Name → List OptionName
  | .find => criteriaOptions ++ catalogOptions ++ resultOptions
  | .sql => criteriaOptions
  | .info => catalogOptions

/-- What is given for an option. -/
inductive Given where
  | value (text : String)
  | switch (on : Bool)
deriving Repr, DecidableEq

/-- The options that have been given, in order. -/
abbrev Givens := List (Topic × Given)

/-- The options in one argument.  The last of them may still want its value, which is then the next
argument. -/
structure Parsed where
  givens : Givens
  wanting : Option Topic

/-- The options that the letters behind a hyphen name; none when a letter names no option. -/
def parseLetters (options : List OptionName) : List Char → Option Parsed
  | [] => some ⟨[], none⟩
  | c :: rest =>
    match options.find? (·.name == String.ofList ['-', c]) with
    | none => none
    | some option =>
      match option.switch with
      | some on =>
        (parseLetters options rest).map fun parsed =>
          { parsed with givens := (option.topic, .switch on) :: parsed.givens }
      | none =>
        if rest.isEmpty then some ⟨[], some option.topic⟩
        else some ⟨[(option.topic, .value (String.ofList rest))], none⟩

/-- The option that a full name names, perhaps with its value behind an equals sign. -/
def parseFull (options : List OptionName) (cs : List Char) : Option Parsed := do
  let name := String.ofList (cs.takeWhile (· ≠ '='))
  let behind := cs.dropWhile (· ≠ '=')
  let option ← options.find? (·.name == name)
  match option.switch, behind with
  | some on, [] => some ⟨[(option.topic, .switch on)], none⟩
  | some _, _ => none
  | none, [] => some ⟨[], some option.topic⟩
  | none, _ :: value => some ⟨[(option.topic, .value (String.ofList value))], none⟩

/-- The options that one argument stands for; none when the command has no such option. -/
def parseArgument (options : List OptionName) (argument : String) : Option Parsed :=
  match argument.toList with
  | '-' :: '-' :: rest => parseFull options ('-' :: '-' :: rest)
  | '-' :: c :: rest => parseLetters options (c :: rest)
  | _ => none

/-- What stands in a list of arguments: options, and arguments that are none. -/
structure Arguments where
  givens : Givens
  extra : List String

/-- The same arguments with options before them. -/
def Arguments.after (arguments : Arguments) (givens : Givens) : Arguments :=
  { arguments with givens := givens ++ arguments.givens }

def isOption (argument : String) : Bool :=
  argument.toList.head? == some '-' && argument != "-"

/-- Read a list of arguments; none when an option has an unknown name, or when the last option
lacks its value.  Two hyphens alone end the options. -/
def parseArguments (options : List OptionName) : Option Topic → List String → Option Arguments
  | none, [] => some ⟨[], []⟩
  | some _, [] => none
  | some topic, value :: rest =>
    (parseArguments options none rest).map (·.after [(topic, .value value)])
  | none, argument :: rest =>
    if argument = "--" then some ⟨[], rest⟩
    else if isOption argument then do
      let parsed ← parseArgument options argument
      return (← parseArguments options parsed.wanting rest).after parsed.givens
    else (parseArguments options none rest).map fun arguments =>
      { arguments with extra := argument :: arguments.extra }

def Givens.values (givens : Givens) (topic : Topic) : List String :=
  givens.filterMap fun (t, given) =>
    match given with
    | .value text => if t = topic then some text else none
    | .switch _ => none

def Givens.value? (givens : Givens) (topic : Topic) : Option String :=
  (givens.values topic).getLast?

def Givens.switch? (givens : Givens) (topic : Topic) : Option Bool :=
  (givens.filterMap fun (t, given) =>
    match given with
    | .switch on => if t = topic then some on else none
    | .value _ => none).getLast?

end PhotoCatalog.Command
