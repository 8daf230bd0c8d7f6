import PhotoCatalog.Proofs.Search.Fresh
import PhotoCatalog.Proofs.Search.Repeat

/-!
Searches that begin with the records of an earlier one.  The records recall every row that the
earlier search has dealt with, by its path or by its image, whether or not either search embeds
images; so the same search begun with its own records comes to these records and no others.
-/

namespace PhotoCatalog.Search

open PhotoCatalog.Catalog

variable {task : Task} {seen seen' : Seen} {candidates : List Candidate} {records : List Record}

/-- A search that does not embed images, and comes upon no path that looks like one, sees the paths
of its records alone. -/
theorem Task.Passes.plain (hpasses : task.Passes seen candidates records seen')
    (hembeds : task.embeds = false) (hseen : seen.hasEmbedded = false)
    (hplain : ∀ candidate ∈ candidates, isEmbedded candidate.path = false) :
    ∀ path ∈ seen'.paths, path ∈ seen.paths ∨ path ∈ records.map (·.path) := by
  induction hpasses with
  | nil => exact fun _ hpath => Or.inl hpath
  | @cons seen next last candidate outcome rest records hjudge _ ih =>
      obtain ⟨hcandidate, hrest⟩ := List.forall_mem_cons.mp hplain
      have hlooks := Task.looks_eq_false hembeds hseen
      -- What a record adds to what is seen is its own path, and that is the path of the candidate.
      have hadd : ∀ record : Record, record.path = candidate.path →
          next = seen.insert record.path → ∀ path ∈ last.paths,
            path ∈ seen.paths ∨ path ∈ (record :: records).map (·.path) := by
        rintro record hsame rfl path hpath
        have hnext := hasEmbedded_insert hseen (hsame ▸ hcandidate)
        rcases ih hnext hrest path hpath with hold | hnew
        · rcases Seen.mem_insert.mp hold with rfl | hold
          · exact Or.inr List.mem_cons_self
          · exact Or.inl hold
        · exact Or.inr (List.mem_cons_of_mem _ hnew)
      cases Task.judged_of_judge hjudge with
      | carriedSeen | rowSeen | rowDropped | imageSeen => exact ih hseen hrest
      | @carriedNew record _ => exact hadd record rfl rfl
      | imageNew _ _ _ hlooked => simp [hlooks] at hlooked
      | @rowNew row read hread =>
          have hpath := task.restricted_path read
          exact hadd (task.restricted read) (hpath.trans (Record.path_of_ofRow hread))
            (congrArg seen.insert hpath.symm)

/-- Records recall a path: one of them has it, or it has an image whose address one of them has. -/
def Task.Recalls (task : Task) (records : List Record) (path : String) : Prop :=
  path ∈ records.map (·.path) ∨ isEmbedded path = false ∧
    ∃ address ∈ records.map (·.path), (Image.embed task.folder path).result = .ok address

/-- The records of a fresh search recall every path that it has seen. -/
theorem Task.Passes.recalls {rows : List Row}
    (hpasses : task.Passes .empty (rows.map .row) records seen')
    (hplain : ∀ row ∈ rows, isEmbedded (rowPath row) = false) :
    ∀ path ∈ seen'.paths, task.Recalls records path := by
  intro path hpath
  cases hembeds : task.embeds with
  | false =>
      have hcandidates : ∀ candidate ∈ rows.map Candidate.row,
          isEmbedded candidate.path = false := by
        intro candidate hcandidate
        obtain ⟨row, hrow, rfl⟩ := List.mem_map.mp hcandidate
        exact hplain row hrow
      exact Or.inl ((hpasses.plain hembeds rfl hcandidates path hpath).resolve_left List.not_mem_nil)
  | true =>
      obtain ⟨record, hrecord, candidate, hcandidate, hyields, hbelongs⟩ :=
        (hpasses.explained path hpath).resolve_left List.not_mem_nil
      obtain ⟨row, hrow, rfl⟩ := List.mem_map.mp hcandidate
      obtain ⟨read, hread, -, hresult⟩ := hyields
      rw [if_pos hembeds] at hresult
      obtain ⟨address, haddress, rfl⟩ := hresult
      rw [Record.path_of_ofRow hread] at haddress
      have haddress' : address ∈ records.map (·.path) := List.mem_map.mpr ⟨_, hrecord, rfl⟩
      rcases hbelongs with rfl | rfl | hsame
      · exact Or.inl haddress'
      · exact Or.inr ⟨hplain row hrow, address, haddress', haddress⟩
      · rw [Candidate.path, haddress] at hsame
        cases hsame
        exact Or.inl haddress'

/-- A row that is accounted for by recalled paths is accounted for by the records that recall
them. -/
theorem Task.Covered.of_recalls {row : Row} (hcovered : task.Covered seen (.row row))
    (hrecalls : ∀ path ∈ seen.paths, task.Recalls records path)
    (hrecords : ∀ record ∈ records, record.path ∈ seen'.paths) (embeds : Bool) :
    { task with embeds := embeds }.Covered seen' (.row row) := by
  obtain ⟨read, hread, hkept⟩ := hcovered
  have hsub : ∀ path ∈ records.map (·.path), path ∈ seen'.paths := List.forall_mem_map.mpr hrecords
  have hrecalled : ∀ path, task.Recalls records path → path ∈ seen'.paths ∨
      ∃ address, (Image.embed task.folder path).result = .ok address ∧ address ∈ seen'.paths := by
    rintro path (hpath | ⟨-, address, hmem, haddress⟩)
    · exact Or.inl (hsub path hpath)
    · exact Or.inr ⟨address, haddress, hsub address hmem⟩
  refine ⟨read, hread, fun hkeeps => ?_⟩
  rcases hkept hkeeps with hpath | ⟨address, haddress, hmem⟩
  · exact hrecalled read.path (hrecalls _ hpath)
  · rcases hrecalls address hmem with hself | ⟨hplain, other, hother, himage⟩
    · exact Or.inr ⟨address, haddress, hsub address hself⟩
    · -- An address that has an image itself is the path, for the image could not be read then.
      rcases Image.isEmbedded_or_eq haddress with hembedded | rfl
      · rw [hembedded] at hplain
        cases hplain
      · exact Or.inr ⟨other, himage, hsub other hother⟩

/-- Records with new and distinct paths are carried over as they are. -/
theorem Task.exists_passes_carried (task : Task) (hnodup : (records.map (·.path)).Nodup)
    (hnew : ∀ record ∈ records, record.path ∉ seen.paths) :
    ∃ seen', task.Passes seen (records.map .carried) records seen' := by
  induction records generalizing seen with
  | nil => exact ⟨seen, .nil⟩
  | cons record records ih =>
      obtain ⟨hfirst, hnodup⟩ := List.nodup_cons.mp hnodup
      obtain ⟨hunseen, hrest⟩ := List.forall_mem_cons.mp hnew
      have hnext : ∀ other ∈ records, other.path ∉ (seen.insert record.path).paths := by
        intro other hother hmem
        rcases Seen.mem_insert.mp hmem with hsame | hold
        · exact hfirst (List.mem_map.mpr ⟨other, hother, hsame⟩)
        · exact hrest other hother hold
      obtain ⟨seen', hpasses⟩ := ih hnodup hnext
      have hjudge : (task.judge seen (.carried record)).result =
          .ok (some record, seen.insert record.path) := by
        rw [Task.judge, if_neg fun hseen => hunseen (Seen.contains_eq_true_iff.mp hseen)]
        rfl
      exact ⟨seen', .cons hjudge hpasses⟩

/-- A search that begins with the records of the same search, fresh, returns these records: nothing
is added and nothing is lost, whether or not either of the two embeds images. -/
theorem Task.find_again {ask : Query.Statement → Answer}
    (hplain : ∀ statement, (ask statement).fault = none →
      ∀ row ∈ (ask statement).rows, isEmbedded (rowPath row) = false)
    (hfault : (task.find ask [] .empty).fault = none) (embeds : Bool) :
    let first := (task.find ask [] .empty).records
    let second := { task with embeds := embeds }.find ask first .empty
    second.fault = none ∧ second.records = first := by
  intro first second
  obtain ⟨statement, hcompile, hanswer, hpasses⟩ := Task.passes_of_find hfault
  obtain ⟨carriedSeen, hcarried⟩ := Task.exists_passes_carried { task with embeds := embeds }
    hpasses.nodup fun record hrecord => (hpasses.recorded record hrecord).1
  have hrows : ∀ candidate ∈ (ask statement).rows.map Candidate.row,
      { task with embeds := embeds }.Covered carriedSeen candidate := by
    intro candidate hcandidate
    have hcovered := hpasses.covered candidate hcandidate
    obtain ⟨row, -, rfl⟩ := List.mem_map.mp hcandidate
    exact hcovered.of_recalls (hpasses.recalls (hplain statement hanswer))
      (fun record hrecord => (hcarried.recorded record hrecord).2) embeds
  have hall := hcarried.append (.of_covered hrows)
  rw [List.append_nil] at hall
  exact Task.find_of_passes hcompile hanswer hall

end PhotoCatalog.Search
