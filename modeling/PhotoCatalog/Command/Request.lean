import PhotoCatalog.Command.Argument
import PhotoCatalog.Command.Option
import PhotoCatalog.Criteria.Reader
import PhotoCatalog.Settings

/-!
What a command asks for: the criteria and the settings that its options give.
-/

namespace PhotoCatalog.Command

open PhotoCatalog.Address PhotoCatalog.Number

/-- The bounds that are given for a range facet, or null. -/
def Givens.boundsValue (givens : Givens) (facet : RangeFacet) : Except Fault Value :=
  match givens.value? (.bounds facet) with
  | none => .ok .null
  | some text => do
    return .list (← readRange (rangeOption facet) (facet ≠ .dateTaken) text)

def Givens.placeValue (givens : Givens) : Except Fault Value :=
  match givens.value? .place with
  | none => .ok .null
  | some text => do return .list ((← readPlace text).map .float)

def textsValue (texts : List String) : Value := .list (texts.map .text)

def switchEntries (switch : Option Bool) (on off : FlagFacet) : List (String × Value) :=
  [(on.name, .bool (switch == some true)), (off.name, .bool (switch == some false))]

/-- Whether a confidence may be given for an option; what is not a number is let pass here. -/
def isRatio (x : Float) : Bool := !(x < 0.0) && !(1.0 < x)

def ratio? (text : String) : Option Float := (float? text).filter isRatio

def Givens.ratioValue (givens : Givens) : Value :=
  match (givens.value? .minConfidence).bind ratio? with
  | none => .null
  | some ratio => .float ratio

/-- The criteria that options give.  Ranges are read in the order of their facets, then the
place. -/
def Givens.criteria (givens : Givens) : Except Fault Criteria := do
  let ranges ← RangeFacet.all.mapM fun facet => do
    return (facet.name, ← givens.boundsValue facet)
  let place ← givens.placeValue
  let tokens := ListFacet.all.map fun facet =>
    (facet.name, textsValue (givens.values (.tokens facet)))
  let entries := tokens ++ ranges
    ++ switchEntries (givens.switch? .nudity) .hasNudity .noNudity
    ++ switchEntries (givens.switch? .explicitContent) .hasExplicitContent .noExplicitContent
    ++ [("geo_location", place), ("any", textsValue (givens.values .any)),
      ("min_confidence_ratio", givens.ratioValue)]
  Criteria.ofFields fun name => (entries.lookup name).getD .null

def Givens.settings (givens : Givens) : SettingsChoice where
  catalog := (givens.value? .catalog).map PathName.ofText
  language := givens.value? .language
  embedsImages := givens.switch? .embedding

/-- Why arguments spell no command with its options. -/
inductive Misuse where
  /-- The arguments are not in order, or one has a value that its option does not take. -/
  | usage
  /-- A path holds a character that no path can hold. -/
  | path
deriving Repr, DecidableEq

def Givens.check (givens : Givens) (topic : Topic) : Except Misuse Unit :=
  match topic, givens.value? topic with
  | .minConfidence, some text => if (ratio? text).isSome then .ok () else .error .usage
  | .catalog, some text | .append, some text =>
    if PathName.isMalformed text then .error .path else .ok ()
  | _, _ => .ok ()

structure Request where
  name : Name
  givens : Givens

/-- The command that arguments spell.  Options are checked in the order in which they first appear;
arguments that are no options are refused after that. -/
def Request.ofArguments (arguments : List String) : Except Misuse Request := do
  let arguments := match arguments with
    | "--" :: rest => rest
    | arguments => arguments
  match arguments with
  | [] => .error .usage
  | command :: rest =>
    let some name := Name.ofText? command | .error .usage
    let some arguments := parseArguments name.options none rest | .error .usage
    arguments.givens.forM fun (topic, _) => arguments.givens.check topic
    if arguments.extra.isEmpty then return ⟨name, arguments.givens⟩ else .error .usage

end PhotoCatalog.Command
