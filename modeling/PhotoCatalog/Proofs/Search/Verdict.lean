import PhotoCatalog.Proofs.Record.Findings
import PhotoCatalog.Search.Task

/-!
What can become of a candidate, said once.  A candidate that has been judged went one of seven ways,
and everything that a search does to its result and to what has been seen follows from these ways.
-/

namespace PhotoCatalog

namespace Seen

theorem contains_eq_true_iff {seen : Seen} {path : String} :
    seen.contains path = true ↔ path ∈ seen.paths := by
  simp [contains]

theorem mem_insert {seen : Seen} {path other : String} :
    other ∈ (seen.insert path).paths ↔ other = path ∨ other ∈ seen.paths := by
  rw [insert]
  split
  · rename_i hseen
    have hmem := contains_eq_true_iff.mp hseen
    constructor
    · exact Or.inr
    · rintro (rfl | hother)
      · exact hmem
      · exact hother
  · exact List.mem_cons

theorem subset_insert (seen : Seen) (path : String) : seen.paths ⊆ (seen.insert path).paths :=
  fun _ hmem => mem_insert.mpr (Or.inr hmem)

end Seen

/-- The path of a row. -/
def rowPath (row : Row) : String := pathText (row.get "path")

/-- The record of a row has the path of the row. -/
theorem Record.path_of_ofRow {row : Row} {record : Record}
    (hread : (Record.ofRow row).result = .ok record) : record.path = rowPath row := by
  obtain ⟨f, hmake⟩ := Record.ofRow_eq_ok_iff.mp hread
  exact hmake.path

theorem Record.restrict_path (threshold : Option Number.Amount) (record : Record) :
    (record.restrict threshold).path = record.path := by
  cases threshold <;> rfl

namespace Search

open PhotoCatalog.Catalog PhotoCatalog.Number

/-- Whether the image of a row is looked at. -/
def Task.looks (task : Task) (seen : Seen) : Bool := task.embeds || seen.hasEmbedded

/-- Images are looked at only to embed them or to compare them with embedded ones. -/
theorem Task.looks_eq_false {task : Task} {seen : Seen} (hembeds : task.embeds = false)
    (hseen : seen.hasEmbedded = false) : task.looks seen = false := by
  rw [Task.looks, hembeds, hseen]
  rfl

/-- The record of a row once the threshold has been applied. -/
def Task.restricted (task : Task) (record : Record) : Record :=
  record.restrict (task.criteria.minConfidence.map Amount.float)

/-- Whether a record stays in the result once the threshold has been applied. -/
def Task.keeps (task : Task) (record : Record) : Bool :=
  (task.restricted record).isKept task.criteria

/-- The ways that a candidate can go: the record that comes of it, and what is seen after it. -/
inductive Task.Judged (task : Task) (seen : Seen) : Candidate → Option Record → Seen → Prop where
  | carriedSeen {record : Record} (hseen : record.path ∈ seen.paths) :
      Judged task seen (.carried record) none seen
  | carriedNew {record : Record} (hnew : record.path ∉ seen.paths) :
      Judged task seen (.carried record) (some record) (seen.insert record.path)
  | rowSeen {row : Row} {record : Record} (hread : (Record.ofRow row).result = .ok record)
      (hseen : record.path ∈ seen.paths) : Judged task seen (.row row) none seen
  | rowDropped {row : Row} {record : Record} (hread : (Record.ofRow row).result = .ok record)
      (hnew : record.path ∉ seen.paths) (hdropped : task.keeps record = false) :
      Judged task seen (.row row) none seen
  | imageSeen {row : Row} {record : Record} {address : String}
      (hread : (Record.ofRow row).result = .ok record) (hnew : record.path ∉ seen.paths)
      (hkept : task.keeps record = true) (hlooks : task.looks seen = true)
      (haddress : (Image.embed task.folder record.path).result = .ok address)
      (hseen : address ∈ seen.paths) : Judged task seen (.row row) none seen
  | imageNew {row : Row} {record : Record} {address : String}
      (hread : (Record.ofRow row).result = .ok record) (hnew : record.path ∉ seen.paths)
      (hkept : task.keeps record = true) (hlooks : task.looks seen = true)
      (haddress : (Image.embed task.folder record.path).result = .ok address)
      (hunseen : address ∉ seen.paths) :
      Judged task seen (.row row)
        (some { task.restricted record with
          path := if task.embeds then address else record.path })
        ((seen.insert address).insert record.path)
  | rowNew {row : Row} {record : Record} (hread : (Record.ofRow row).result = .ok record)
      (hnew : record.path ∉ seen.paths) (hkept : task.keeps record = true)
      (hlooks : task.looks seen = false) :
      Judged task seen (.row row) (some (task.restricted record)) (seen.insert record.path)

theorem Task.restricted_path (task : Task) (record : Record) :
    (task.restricted record).path = record.path :=
  Record.restrict_path _ record

variable {task : Task} {seen seen' : Seen} {outcome : Option Record}

theorem verdict_eq_ok {verdict : Verdict} :
    (pure verdict : Reading Verdict).result = .ok (outcome, seen') ↔
      verdict.1 = outcome ∧ verdict.2 = seen' := by
  simp [Prod.ext_iff]

/-- A row whose record is new and passes the threshold. -/
theorem Task.judged_of_embedded {row : Row} {record : Record}
    (hread : (Record.ofRow row).result = .ok record) (hnew : record.path ∉ seen.paths)
    (hkept : task.keeps record = true)
    (hjudge : (task.embedded seen (task.restricted record)).result = .ok (outcome, seen')) :
    task.Judged seen (.row row) outcome seen' := by
  have hpath := task.restricted_path record
  rw [Task.embedded, hpath] at hjudge
  by_cases hlooks : (task.embeds || seen.hasEmbedded) = true
  · rw [if_pos hlooks] at hjudge
    obtain ⟨address, haddress, hjudge⟩ := Reading.bind_result_eq_ok.mp hjudge
    by_cases hold : seen.contains address = true
    · rw [if_pos hold] at hjudge
      obtain ⟨rfl, rfl⟩ := verdict_eq_ok.mp hjudge
      exact .imageSeen hread hnew hkept hlooks haddress (Seen.contains_eq_true_iff.mp hold)
    · rw [if_neg hold] at hjudge
      obtain ⟨rfl, rfl⟩ := verdict_eq_ok.mp hjudge
      have hunseen : address ∉ seen.paths := fun hmem => hold (Seen.contains_eq_true_iff.mpr hmem)
      have hjudged := Task.Judged.imageNew hread hnew hkept hlooks haddress hunseen
      cases hembeds : task.embeds with
      | true => simpa [hembeds] using hjudged
      | false => simpa [hembeds, ← hpath] using hjudged
  · rw [if_neg hlooks] at hjudge
    obtain ⟨rfl, rfl⟩ := verdict_eq_ok.mp hjudge
    exact .rowNew hread hnew hkept (Bool.eq_false_iff.mpr hlooks)

theorem Task.judged_of_judgeRow {row : Row}
    (hjudge : (task.judgeRow seen row).result = .ok (outcome, seen')) :
    task.Judged seen (.row row) outcome seen' := by
  obtain ⟨record, hread, hjudge⟩ := Reading.bind_result_eq_ok.mp hjudge
  by_cases hseen : seen.contains record.path = true
  · rw [if_pos hseen] at hjudge
    obtain ⟨rfl, rfl⟩ := verdict_eq_ok.mp hjudge
    exact .rowSeen hread (Seen.contains_eq_true_iff.mp hseen)
  · rw [if_neg hseen] at hjudge
    have hnew : record.path ∉ seen.paths := fun hmem => hseen (Seen.contains_eq_true_iff.mpr hmem)
    change (if task.keeps record = true then task.embedded seen (task.restricted record)
      else pure (none, seen)).result = _ at hjudge
    by_cases hkept : task.keeps record = true
    · rw [if_pos hkept] at hjudge
      exact judged_of_embedded hread hnew hkept hjudge
    · rw [if_neg hkept] at hjudge
      obtain ⟨rfl, rfl⟩ := verdict_eq_ok.mp hjudge
      exact .rowDropped hread hnew (Bool.eq_false_iff.mpr hkept)

/-- A candidate that has been judged without a fault went one of the ways. -/
theorem Task.judged_of_judge {candidate : Candidate}
    (hjudge : (task.judge seen candidate).result = .ok (outcome, seen')) :
    task.Judged seen candidate outcome seen' := by
  cases candidate with
  | carried record =>
      rw [Task.judge] at hjudge
      by_cases hseen : seen.contains record.path = true
      · rw [if_pos hseen] at hjudge
        obtain ⟨rfl, rfl⟩ := verdict_eq_ok.mp hjudge
        exact .carriedSeen (Seen.contains_eq_true_iff.mp hseen)
      · rw [if_neg hseen] at hjudge
        obtain ⟨rfl, rfl⟩ := verdict_eq_ok.mp hjudge
        exact .carriedNew fun hmem => hseen (Seen.contains_eq_true_iff.mpr hmem)
  | row row => exact judged_of_judgeRow hjudge

section

variable {ending : Option Fault} {limit : Option Nat} {candidate : Candidate}
  {rest : List Candidate}

/-- A search ends at a candidate that cannot be judged. -/
theorem advance_failed {fault : Fault} (hlimit : limit ≠ some 0)
    (hjudge : (task.judge seen candidate).result = .error fault) :
    task.advance ending seen limit (candidate :: rest) =
      ⟨[], (task.judge seen candidate).warnings, some fault, seen, .closed task⟩ := by
  rw [Task.advance]
  · simp only [hjudge]
  all_goals simp [hlimit]

/-- A search goes on behind a candidate that no record comes of. -/
theorem advance_passed (hlimit : limit ≠ some 0)
    (hjudge : (task.judge seen candidate).result = .ok (none, seen')) :
    task.advance ending seen limit (candidate :: rest) =
      (task.advance ending seen' limit rest).after [] (task.judge seen candidate).warnings := by
  rw [Task.advance]
  · simp only [hjudge]
  all_goals simp [hlimit]

/-- A search goes on behind a candidate that a record comes of, with one record less to find. -/
theorem advance_found {record : Record} (hlimit : limit ≠ some 0)
    (hjudge : (task.judge seen candidate).result = .ok (some record, seen')) :
    task.advance ending seen limit (candidate :: rest) =
      (task.advance ending seen' (limit.map (· - 1)) rest).after [record]
        (task.judge seen candidate).warnings := by
  rw [Task.advance]
  · simp only [hjudge]
  all_goals simp [hlimit]

end

end Search

end PhotoCatalog
