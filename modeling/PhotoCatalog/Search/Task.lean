import PhotoCatalog.Catalog.Answer
import PhotoCatalog.Image.Embedding
import PhotoCatalog.Record.Reader
import PhotoCatalog.Record.Threshold
import PhotoCatalog.Seen

/-!
Running a search.  First come the records that are carried over from an earlier search, then those
of the rows that the query delivers; whatever has been seen before is left out.  A search can be
taken up again where it was left, and searches that share what they have seen may alternate.
-/

namespace PhotoCatalog.Search

open PhotoCatalog.Catalog PhotoCatalog.Number

/-- What decides about the rows of a search: the criteria, whether images are embedded, and the
files that they are read from. -/
structure Task where
  criteria : Criteria
  embeds : Bool
  folder : Image.Folder

/-- A candidate for the result: a record of an earlier search, or a row of the answer. -/
inductive Candidate where
  | carried (record : Record)
  | row (row : Row)

/-- What becomes of a candidate: a record for the result, or nothing, and what is seen after it. -/
abbrev Verdict := Option Record × Seen

/-- A record that has passed the threshold enters the result, unless its path or its image has been
seen.  Its image is looked at when images are embedded, now or in what was seen before. -/
def Task.embedded (task : Task) (seen : Seen) (record : Record) : Reading Verdict :=
  if task.embeds || seen.hasEmbedded then do
    let address ← Image.embed task.folder record.path
    if seen.contains address then return (none, seen)
    let result := if task.embeds then { record with path := address } else record
    return (some result, (seen.insert address).insert record.path)
  else return (some record, seen.insert record.path)

def Task.judgeRow (task : Task) (seen : Seen) (row : Row) : Reading Verdict := do
  let record ← Record.ofRow row
  if seen.contains record.path then return (none, seen)
  let record := record.restrict (task.criteria.minConfidence.map Amount.float)
  if record.isKept task.criteria then task.embedded seen record else return (none, seen)

/-- What becomes of a candidate.  A carried record is taken as it is. -/
def Task.judge (task : Task) (seen : Seen) : Candidate → Reading Verdict
  | .carried record =>
    if seen.contains record.path then pure (none, seen)
    else pure (some record, seen.insert record.path)
  | .row row => task.judgeRow seen row

/-- A search under way: the candidates that are left, and the fault that comes after them. -/
structure Cursor where
  task : Task
  candidates : List Candidate
  ending : Option Fault

/-- A search that nothing more comes of. -/
def Cursor.closed (task : Task) : Cursor := ⟨task, [], none⟩

/-- What a part of a search comes to. -/
structure Progress where
  records : List Record
  warnings : List Warning
  fault : Option Fault
  seen : Seen
  cursor : Cursor

/-- A part of a search with another record, or with more warnings, before it. -/
def Progress.after (progress : Progress) (records : List Record) (warnings : List Warning) :
    Progress :=
  { progress with
    records := records ++ progress.records, warnings := warnings ++ progress.warnings }

/-- Go on with a search until `limit` records have been found; without a limit, to its end. -/
def Task.advance (task : Task) (ending : Option Fault) (seen : Seen) :
    Option Nat → List Candidate → Progress
  | some 0, candidates => ⟨[], [], none, seen, ⟨task, candidates, ending⟩⟩
  | _, [] => ⟨[], [], ending, seen, .closed task⟩
  | limit, candidate :: rest =>
    let reading := task.judge seen candidate
    match reading.result with
    | .error fault => ⟨[], reading.warnings, some fault, seen, .closed task⟩
    | .ok (none, seen) => (task.advance ending seen limit rest).after [] reading.warnings
    | .ok (some record, seen) =>
      (task.advance ending seen (limit.map (· - 1)) rest).after [record] reading.warnings

def Cursor.take (cursor : Cursor) (limit : Option Nat) (seen : Seen) : Progress :=
  cursor.task.advance cursor.ending seen limit cursor.candidates

def Cursor.next (cursor : Cursor) (seen : Seen) : Progress := cursor.take (some 1) seen

/-- Begin a search: the query is compiled, and the answer to it is what `ask` says. -/
def Task.start (task : Task) (ask : Query.Statement → Answer) (carried : List Record) :
    Except Fault Cursor := do
  let answer := ask (← Query.compile task.criteria)
  return ⟨task, carried.map .carried ++ answer.rows.map .row, answer.fault⟩

/-- Search until `limit` records have been found.  A search that no record is wanted of does not
begin. -/
def Task.stream (task : Task) (ask : Query.Statement → Answer) (carried : List Record) (seen : Seen)
    (limit : Option Nat) : Progress :=
  if limit = some 0 then ⟨[], [], none, seen, .closed task⟩
  else match task.start ask carried with
    | .error fault => ⟨[], [], some fault, seen, .closed task⟩
    | .ok cursor => cursor.take limit seen

/-- Search to the end; a fault leaves no records. -/
def Task.find (task : Task) (ask : Query.Statement → Answer) (carried : List Record) (seen : Seen) :
    Progress :=
  let progress := task.stream ask carried seen none
  if progress.fault.isSome then { progress with records := [] } else progress

end PhotoCatalog.Search
