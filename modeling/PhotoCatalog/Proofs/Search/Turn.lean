import PhotoCatalog.Proofs.Search.Verdict

/-!
One turn of a search: from one record to the next.  The candidates passed over on the way change
nothing and are accounted for by what has been seen; the record that ends the turn is new, and so is
every path that is seen from then on.
-/

namespace PhotoCatalog.Search

open PhotoCatalog.Catalog

/-- The path that a candidate brings along. -/
def Candidate.path : Candidate → String
  | .carried record => record.path
  | .row r => rowPath r

/-- The records that may come of a candidate: a carried record itself; for a row, its record after
the threshold, with the address of its image in place of the path when images are embedded. -/
def Task.Yields (task : Task) (record : Record) : Candidate → Prop
  | .carried carried => record = carried
  | .row row => ∃ read, (Record.ofRow row).result = .ok read ∧ task.keeps read = true ∧
      if task.embeds then
        ∃ address, (Image.embed task.folder read.path).result = .ok address ∧
          record = { task.restricted read with path := address }
      else record = task.restricted read

/-- A path is the path of a record, or belongs to the candidate that the record came of: its path in
the catalog, or the address of its image. -/
def Task.Belongs (task : Task) (path : String) (record : Record) (candidate : Candidate) : Prop :=
  path = record.path ∨ path = candidate.path ∨
    (Image.embed task.folder candidate.path).result = .ok path

/-- A candidate is accounted for: it has been seen, by its path or by its image, or it is a row that
does not pass the threshold. -/
def Task.Covered (task : Task) (seen : Seen) : Candidate → Prop
  | .carried record => record.path ∈ seen.paths
  | .row row => ∃ record, (Record.ofRow row).result = .ok record ∧
      (task.keeps record = true → record.path ∈ seen.paths ∨
        ∃ address, (Image.embed task.folder record.path).result = .ok address ∧
          address ∈ seen.paths)

variable {task : Task} {seen seen' : Seen} {candidate : Candidate} {record : Record}

/-- What has been seen stays seen, so a candidate stays accounted for. -/
theorem Task.Covered.mono (hcovered : task.Covered seen candidate)
    (hsub : seen.paths ⊆ seen'.paths) : task.Covered seen' candidate := by
  cases candidate with
  | carried record => exact hsub hcovered
  | row row =>
      obtain ⟨record, hread, hseen⟩ := hcovered
      refine ⟨record, hread, fun hkept => ?_⟩
      rcases hseen hkept with hpath | ⟨address, haddress, hmem⟩
      · exact Or.inl (hsub hpath)
      · exact Or.inr ⟨address, haddress, hsub hmem⟩

/-- A candidate that is passed over changes nothing, for it is accounted for already. -/
theorem Task.Judged.passed_over (hjudged : task.Judged seen candidate none seen') :
    seen' = seen ∧ task.Covered seen candidate := by
  cases hjudged with
  | carriedSeen hseen => exact ⟨rfl, hseen⟩
  | rowSeen hread hseen => exact ⟨rfl, _, hread, fun _ => Or.inl hseen⟩
  | rowDropped hread _ hdropped =>
      refine ⟨rfl, _, hread, fun hkept => ?_⟩
      rw [hdropped] at hkept
      exact absurd hkept Bool.false_ne_true
  | imageSeen hread _ _ _ haddress hseen =>
      exact ⟨rfl, _, hread, fun _ => Or.inr ⟨_, haddress, hseen⟩⟩

/-- A record that enters the result: it is new, it has been seen from then on, and so has everything
that belongs to it and nothing else. -/
theorem Task.Judged.found (hjudged : task.Judged seen candidate (some record) seen') :
    task.Yields record candidate ∧ record.path ∉ seen.paths ∧ record.path ∈ seen'.paths ∧
      seen.paths ⊆ seen'.paths ∧ task.Covered seen' candidate ∧
      ∀ path ∈ seen'.paths, path ∈ seen.paths ∨ task.Belongs path record candidate := by
  cases hjudged with
  | carriedNew hnew =>
      have hself : record.path ∈ (seen.insert record.path).paths :=
        Seen.mem_insert.mpr (Or.inl rfl)
      refine ⟨rfl, hnew, hself, seen.subset_insert _, hself, fun path hpath => ?_⟩
      rcases Seen.mem_insert.mp hpath with rfl | hold
      · exact Or.inr (Or.inl rfl)
      · exact Or.inl hold
  | @imageNew row read address hread hnew hkept hlooks haddress hunseen =>
      have hname : read.path = (Candidate.row row).path := Record.path_of_ofRow hread
      have hmem : ∀ path, path ∈ ((seen.insert address).insert read.path).paths ↔
          path = read.path ∨ path = address ∨ path ∈ seen.paths := by
        simp only [Seen.mem_insert, implies_true]
      refine ⟨⟨read, hread, hkept, ?_⟩, ?_, ?_, ?_, ?_, fun path hpath => ?_⟩
      · split
        · exact ⟨address, haddress, rfl⟩
        · rw [← task.restricted_path read]
      · change (if task.embeds then address else read.path) ∉ seen.paths
        split <;> assumption
      · change (if task.embeds then address else read.path) ∈ _
        rw [hmem]
        split
        · exact Or.inr (Or.inl rfl)
        · exact Or.inl rfl
      · exact fun path hold => (hmem path).mpr (Or.inr (Or.inr hold))
      · exact ⟨read, hread, fun _ => Or.inl ((hmem read.path).mpr (Or.inl rfl))⟩
      · rcases (hmem path).mp hpath with rfl | rfl | hold
        · exact Or.inr (Or.inr (Or.inl hname))
        · exact Or.inr (Or.inr (Or.inr (hname ▸ haddress)))
        · exact Or.inl hold
  | @rowNew row read hread hnew hkept hlooks =>
      have hname : read.path = (Candidate.row row).path := Record.path_of_ofRow hread
      have hself : read.path ∈ (seen.insert read.path).paths := Seen.mem_insert.mpr (Or.inl rfl)
      have hembeds : task.embeds = false := by
        simp only [Task.looks, Bool.or_eq_false_iff] at hlooks
        exact hlooks.1
      refine ⟨⟨read, hread, hkept, by simp [hembeds]⟩, ?_, ?_, seen.subset_insert _, ?_,
        fun path hpath => ?_⟩
      · rwa [task.restricted_path]
      · rwa [task.restricted_path]
      · exact ⟨read, hread, fun _ => Or.inl hself⟩
      · rcases Seen.mem_insert.mp hpath with rfl | hold
        · exact Or.inr (Or.inr (Or.inl hname))
        · exact Or.inl hold

/-- What a turn comes to: a fault, the end, or the next record. -/
inductive Task.Turned (task : Task) (ending : Option Fault) (seen : Seen)
    (candidates : List Candidate) (progress : Progress) : Prop where
  | failed (hfault : progress.fault ≠ none) (hrecords : progress.records = [])
      (hseen : progress.seen = seen)
  | ended (hfault : progress.fault = none) (hending : ending = none)
      (hrecords : progress.records = []) (hseen : progress.seen = seen)
      (hcovered : ∀ candidate ∈ candidates, task.Covered seen candidate)
  | found (hfault : progress.fault = none) {passed : List Candidate} {candidate : Candidate}
      {rest : List Candidate} {record : Record} (hrecords : progress.records = [record])
      (hcandidates : candidates = passed ++ candidate :: rest)
      (hcovered : ∀ candidate ∈ passed, task.Covered seen candidate)
      (hjudged : task.Judged seen candidate (some record) progress.seen)
      (hcursor : progress.cursor = ⟨task, rest, ending⟩)

/-- A candidate passed over at the beginning of a turn. -/
theorem Task.Turned.cons {ending : Option Fault} {candidates : List Candidate}
    {progress : Progress} (hturned : task.Turned ending seen candidates progress)
    (hcovered : task.Covered seen candidate) (warnings : List Warning) :
    task.Turned ending seen (candidate :: candidates) (progress.after [] warnings) := by
  cases hturned with
  | failed hfault hrecords hseen => exact .failed hfault hrecords hseen
  | ended hfault hending hrecords hseen hall =>
      exact .ended hfault hending hrecords hseen (List.forall_mem_cons.mpr ⟨hcovered, hall⟩)
  | @found hfault passed other rest record hrecords hcandidates hall hjudged hcursor =>
      have hsplit : candidate :: candidates = (candidate :: passed) ++ other :: rest := by
        rw [hcandidates, List.cons_append]
      exact .found hfault hrecords hsplit (List.forall_mem_cons.mpr ⟨hcovered, hall⟩) hjudged
        hcursor

theorem Task.turned_advance (task : Task) (ending : Option Fault) (seen : Seen)
    (candidates : List Candidate) :
    task.Turned ending seen candidates (task.advance ending seen (some 1) candidates) := by
  induction candidates with
  | nil =>
      cases hending : ending with
      | none => exact .ended rfl rfl rfl rfl (by simp)
      | some fault => exact .failed (by simp [Task.advance]) rfl rfl
  | cons candidate rest ih =>
      have hlimit : some 1 ≠ some 0 := by
        rintro ⟨⟩
      cases hjudge : (task.judge seen candidate).result with
      | error fault =>
          rw [advance_failed hlimit hjudge]
          exact .failed (by simp) rfl rfl
      | ok verdict =>
          obtain ⟨outcome, seen'⟩ := verdict
          have hjudged := Task.judged_of_judge hjudge
          cases outcome with
          | none =>
              rw [advance_passed hlimit hjudge]
              obtain ⟨rfl, hcovered⟩ := hjudged.passed_over
              exact ih.cons hcovered _
          | some record =>
              have hdone : task.advance ending seen' (some 0) rest =
                  ⟨[], [], none, seen', ⟨task, rest, ending⟩⟩ := by
                rw [Task.advance]
              rw [advance_found hlimit hjudge, Option.map_some, hdone]
              exact .found rfl rfl (List.nil_append _).symm (by simp) hjudged rfl

/-- A turn of a search that has begun. -/
theorem Cursor.turned_next (cursor : Cursor) (seen : Seen) :
    cursor.task.Turned cursor.ending seen cursor.candidates (cursor.next seen) :=
  cursor.task.turned_advance cursor.ending seen cursor.candidates

end PhotoCatalog.Search
