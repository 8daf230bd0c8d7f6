import PhotoCatalog.Criteria.Basic
import PhotoCatalog.Number.Order
import PhotoCatalog.Pattern.Glob
import PhotoCatalog.Record.Basic
import PhotoCatalog.Value.Order

/-!
The confidence threshold.  Confidences belong to single detections, which a query cannot filter, so
the threshold is applied to every record that the query found; a record that was found only because
of a detection that is now gone is dropped.
-/

namespace PhotoCatalog

open PhotoCatalog.Number PhotoCatalog.Pattern

/-- Whether a confidence reaches a threshold. -/
def reaches (confidence : Float) (threshold : Amount) : Bool :=
  match (Amount.float confidence).compare? threshold with
  | some .lt | none => false
  | _ => true

/-- Whether a confidence falls short of a threshold. -/
def fallsShort (confidence : Float) (threshold : Amount) : Bool :=
  (Amount.float confidence).compare? threshold == some .lt

/-- The threshold that a value holds; null asks for none, and only numbers are thresholds. -/
def thresholdOf (value : Value) : Except Fault (Option Amount) :=
  match value, value.amount? with
  | .null, _ => .ok none
  | _, some n => .ok (some n)
  | _, none => .error .wrongKind

def confident (threshold : Amount) (detections : List Detection) : List Detection :=
  detections.filter fun d => reaches d.confidence threshold

/-- The people that are left, with count and faces to match. -/
def People.restrict (threshold : Amount) (p : People) : People :=
  let detections := confident threshold p.detections
  { p with count := detections.length, faces := labelsOf detections, detections := detections }

/-- The objects that are left, with counts to match. -/
def Objects.restrict (threshold : Amount) (o : Objects) : Objects :=
  let detections := confident threshold o.detections
  ⟨detections.length, detections, tally (labelsOf detections)⟩

/-- The scene, which is unknown when its confidence falls short. -/
def Scene.restrict (threshold : Amount) (s : Scene) : Scene :=
  if fallsShort s.confidence threshold then .unknown else s

/-- The record without the detections that fall short of a threshold; without a threshold nothing
changes. -/
def Record.restrict (threshold : Option Amount) (r : Record) : Record :=
  match threshold with
  | none => r
  | some t =>
    { r with
      people := r.people.restrict t, objects := r.objects.restrict t, scene := r.scene.restrict t }

/-- The labels that answer a detection facet. -/
def Record.detected (r : Record) : ListFacet → List String
  | .people => labelsOf r.people.detections
  | .objects => labelsOf r.objects.detections
  | .scenes => if r.scene.success then [r.scene.label] else []
  | _ => []

/-- The facets whose matches are detections. -/
def detectionFacets : List ListFacet := [.people, .objects, .scenes]

def someMatch (tokens labels : List String) : Bool :=
  tokens.any fun token => labels.any fun label => wildcardMatch token (some label)

/-- Whether the detections of a record satisfy every detection facet that is asked for, of which
there has to be one. -/
def Record.stillMatches (r : Record) (c : Criteria) : Bool :=
  let requested := detectionFacets.filterMap fun facet => (c.tokens facet).map (facet, ·)
  !requested.isEmpty && requested.all fun (facet, tokens) => someMatch tokens (r.detected facet)

/-- Whether a record that the threshold has been applied to stays in the result.  Only detection
facets alone can drop it: with another facet beside them it stays. -/
def Record.isKept (r : Record) (c : Criteria) : Bool :=
  c.minConfidence.isNone || !c.activeFacets.any Facet.isDetection
    || c.activeFacets.any (!·.isDetection) || r.stillMatches c

end PhotoCatalog
