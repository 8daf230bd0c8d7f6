import PhotoCatalog.Proofs.Catalog.Accepted
import PhotoCatalog.Proofs.Record.RoundTrip
import PhotoCatalog.Proofs.Search.Append
import PhotoCatalog.Proofs.Search.Kept

/-!
Searches that go on from what has been seen and from records that are carried over.  Without images
such a search comes to the carried records whose paths are new, the first one of each path, and then
to the records of the fresh search whose paths are new beside both; it fails exactly when the fresh
search fails.
-/

namespace PhotoCatalog

open PhotoCatalog.Catalog

namespace Catalog

variable {catalog : Catalog} {statement : Query.Statement} {row : Row}

theorem mem_of_rowsUpToFault {results : List (Except Fault (Option Row))}
    (hrow : row ∈ (rowsUpToFault results).rows) : Except.ok (some row) ∈ results := by
  fun_induction rowsUpToFault results with
  | case1 => cases hrow
  | case2 fault rest => cases hrow
  | case3 rest ih => exact List.mem_cons_of_mem _ (ih hrow)
  | case4 first rest answer ih =>
      rcases List.mem_cons.mp hrow with rfl | hrow
      · exact List.mem_cons_self
      · exact List.mem_cons_of_mem _ (ih hrow)

/-- Every row of an answer, also of one that ends with a fault, is that of an image. -/
theorem exists_image_of_mem_answer (hrow : row ∈ (catalog.answer statement).rows) :
    ∃ image ∈ catalog.images, catalog.resultRow image = .ok row := by
  suffices hselected : Except.ok (some row) ∈
      catalog.byPath.map (catalog.select (checkOrder statement.conditions)) by
    obtain ⟨image, himage, hselect⟩ := List.mem_map.mp hselected
    exact ⟨image, mem_byPath.mp himage, (select_eq_some_iff.mp hselect).2⟩
  rw [answer] at hrow
  split at hrow
  · cases hrow
  · split at hrow
    · cases hrow
    · dsimp only at hrow
      split at hrow
      · split at hrow
        · rename_i outcomes houtcomes
          have hall := mapM_eq_ok.mp houtcomes
          rw [List.map_id] at hall
          obtain ⟨outcome, houtcome, hsome⟩ := List.mem_filterMap.mp hrow
          rw [hall]
          exact List.mem_map.mpr ⟨outcome, houtcome, congrArg Except.ok hsome⟩
        · cases hrow
      · apply mem_of_rowsUpToFault
        rw [Answer.fetchedAhead] at hrow
        split at hrow
        · exact List.dropLast_subset _ hrow
        · exact hrow

end Catalog

namespace Search

variable {task : Task} {seen other : Seen} {rows : List Row}
  {carried : List Record}

theorem judge_of_unreadable {row : Row} {fault : Fault}
    (hread : (Record.ofRow row).result = .error fault) :
    (task.judge seen (.row row)).result = .error fault := by
  change (task.judgeRow seen row).result = _
  rw [Task.judgeRow, Reading.result_bind, hread]
  rfl

/-- Two searches through the same rows, of which one has seen some paths more than the other.  They
fail alike, and the one that has seen more finds what the other one finds, except for these
paths. -/
theorem advance_beside {more : List String} (ending : Option Fault) (hembeds : task.embeds = false)
    (hseen : seen.hasEmbedded = false) (hother : other.hasEmbedded = false)
    (hplain : ∀ row ∈ rows, isEmbedded (rowPath row) = false)
    (hmore : ∀ path, path ∈ other.paths ↔ path ∈ more ∨ path ∈ seen.paths) :
    (task.advance ending other none (rows.map .row)).fault =
        (task.advance ending seen none (rows.map .row)).fault ∧
      (task.advance ending other none (rows.map .row)).records =
        (task.advance ending seen none (rows.map .row)).records.filter (·.path ∉ more) := by
  have hlimit : (none : Option Nat) ≠ some 0 := by
    rintro ⟨⟩
  induction rows generalizing seen other with
  | nil => simp [Task.advance]
  | cons row rows ih =>
      obtain ⟨hrow, hrows⟩ := List.forall_mem_cons.mp hplain
      rw [List.map_cons]
      cases hread : (Record.ofRow row).result with
      | error fault =>
          rw [advance_failed hlimit (judge_of_unreadable hread),
            advance_failed hlimit (judge_of_unreadable hread)]
          exact ⟨rfl, rfl⟩
      | ok record =>
          have hpath : isEmbedded record.path = false := Record.path_of_ofRow hread ▸ hrow
          -- Both pass the row over, only the first one finds it, or both find it.
          by_cases hpassed : record.path ∈ seen.paths ∨ task.keeps record = false
          · have hpassed' : record.path ∈ other.paths ∨ task.keeps record = false :=
              hpassed.imp_left fun hold => (hmore _).mpr (Or.inr hold)
            rw [advance_passed hlimit (judge_of_passed hread hpassed),
              advance_passed hlimit (judge_of_passed hread hpassed')]
            exact ih hseen hother hrows hmore
          rw [not_or, Bool.not_eq_false] at hpassed
          obtain ⟨hnew, hkept⟩ := hpassed
          have hjudge := judge_of_found hread hnew hkept (Task.looks_eq_false hembeds hseen)
          have hinsert := hasEmbedded_insert hseen hpath
          by_cases hknown : record.path ∈ more
          · have hold' : record.path ∈ other.paths := (hmore _).mpr (Or.inl hknown)
            rw [advance_passed hlimit (judge_of_passed hread (Or.inl hold')),
              advance_found hlimit hjudge]
            obtain ⟨hfault, hrecords⟩ := ih hinsert hother hrows fun path => by
              rw [Seen.mem_insert, hmore]
              constructor
              · exact Or.imp_right Or.inr
              · rintro (hmem | rfl | hmem)
                · exact Or.inl hmem
                · exact Or.inl hknown
                · exact Or.inr hmem
            refine ⟨hfault, hrecords.trans ?_⟩
            have hdropped : (task.restricted record).path ∈ more :=
              (task.restricted_path record).symm ▸ hknown
            exact (List.filter_cons_of_neg (by simpa using hdropped)).symm
          · have hnew' : record.path ∉ other.paths := fun hmem =>
              ((hmore _).mp hmem).elim hknown hnew
            have hjudge' := judge_of_found hread hnew' hkept (Task.looks_eq_false hembeds hother)
            rw [advance_found hlimit hjudge, advance_found hlimit hjudge']
            have hinsert' := hasEmbedded_insert hother hpath
            obtain ⟨hfault, hrecords⟩ := ih hinsert hinsert' hrows fun path => by
              rw [Seen.mem_insert, Seen.mem_insert, hmore]
              exact or_left_comm
            refine ⟨hfault, ?_⟩
            have hrest : (task.restricted record).path ∉ more :=
              (task.restricted_path record).symm ▸ hknown
            exact (congrArg (_ :: ·) hrecords).trans
              (List.filter_cons_of_pos (by simpa using hrest)).symm

/-- Of some records those whose paths have not been seen, the first one of each path. -/
def firstRecords (seen : Seen) (records : List Record) : List Record :=
  (records.filter (·.path ∉ seen.paths)).eraseDupsBy (·.path == ·.path)

/-- Of the carried records a search returns the first one of each path that is new. -/
theorem exists_passes_firstRecords (task : Task) (seen : Seen) (carried : List Record) :
    ∃ seen', task.Passes seen (carried.map .carried) (firstRecords seen carried) seen' := by
  induction carried generalizing seen with
  | nil => exact ⟨seen, .nil⟩
  | cons record carried ih =>
      by_cases hold : record.path ∈ seen.paths
      · obtain ⟨seen', hpasses⟩ := ih seen
        have hcovered : task.Covered seen (.carried record) := hold
        refine ⟨seen', ?_⟩
        rw [firstRecords, List.filter_cons_of_neg (by simpa using hold)]
        exact .cons hcovered.judge_eq hpasses
      · obtain ⟨seen', hpasses⟩ := ih (seen.insert record.path)
        have hjudge : (task.judge seen (.carried record)).result =
            .ok (some record, seen.insert record.path) := by
          rw [Task.judge, if_neg fun hseen => hold (Seen.contains_eq_true_iff.mp hseen)]
          rfl
        have hfirst : firstRecords seen (record :: carried) =
            record :: firstRecords (seen.insert record.path) carried := by
          rw [firstRecords, List.filter_cons_of_pos (by simpa using hold), List.eraseDupsBy_cons,
            List.filter_filter, firstRecords]
          congr 3
          funext next
          simp [Seen.mem_insert]
        refine ⟨seen', ?_⟩
        rw [hfirst]
        exact .cons hjudge hpasses

theorem hasEmbedded_eq_false_iff : seen.hasEmbedded = false ↔
    ∀ path ∈ seen.paths, isEmbedded path = false := by
  rw [Seen.hasEmbedded, List.any_eq_false]
  simp only [Bool.not_eq_true]

/-- After the carried records their paths have been seen, beside those that were seen before. -/
theorem mem_seen_of_carried {seen' : Seen} {records : List Record}
    (hpasses : task.Passes seen (carried.map .carried) records seen')
    (hembeds : task.embeds = false) (hseen : seen.hasEmbedded = false)
    (hcarried : ∀ record ∈ carried, isEmbedded record.path = false) (path : String) :
    path ∈ seen'.paths ↔ path ∈ seen.paths ∨ path ∈ carried.map (·.path) := by
  constructor
  · intro hmem
    refine (hpasses.plain hembeds hseen (List.forall_mem_map.mpr hcarried) path hmem).imp_right ?_
    intro hfound
    obtain ⟨record, hrecord, rfl⟩ := List.mem_map.mp hfound
    obtain ⟨candidate, hcandidate, hyields⟩ := hpasses.yields record hrecord
    obtain ⟨source, hsource, rfl⟩ := List.mem_map.mp hcandidate
    obtain rfl : record = source := hyields
    exact List.mem_map_of_mem hsource
  · rintro (hold | hmem)
    · exact hpasses.subset hold
    · obtain ⟨record, hrecord, rfl⟩ := List.mem_map.mp hmem
      exact hpasses.covered _ (List.mem_map_of_mem hrecord)

variable {ask : Query.Statement → Answer}

/-- Beside the fresh search for the same criteria, a search that goes on comes to the carried
records that are new and then to the records that the fresh search comes to and that are new beside
them. -/
theorem Task.stream_goes_on (hembeds : task.embeds = false) (hseen : seen.hasEmbedded = false)
    (hcarried : ∀ record ∈ carried, isEmbedded record.path = false)
    (hrows : ∀ statement, ∀ row ∈ (ask statement).rows, isEmbedded (rowPath row) = false) :
    (task.stream ask carried seen none).fault = (task.stream ask [] .empty none).fault ∧
      ((task.stream ask [] .empty none).fault = none →
        (task.stream ask carried seen none).records = firstRecords seen carried ++
          (task.stream ask [] .empty none).records.filter fun record =>
            record.path ∉ seen.paths ∧ record.path ∉ carried.map (·.path)) := by
  cases hcompile : Query.compile task.criteria with
  | error fault =>
      rw [task.stream_of_not_compile hcompile, task.stream_of_not_compile hcompile]
      exact ⟨rfl, nofun⟩
  | ok statement =>
      obtain ⟨carriedSeen, hpasses⟩ := exists_passes_firstRecords task seen carried
      obtain ⟨warnings, hadvance⟩ := hpasses.advance_eq (ask statement).fault
        ((ask statement).rows.map .row)
      have hmem := mem_seen_of_carried hpasses hembeds hseen hcarried
      have hplain : carriedSeen.hasEmbedded = false := by
        rw [hasEmbedded_eq_false_iff]
        intro path hpath
        rcases (hmem path).mp hpath with hold | hnew
        · exact hasEmbedded_eq_false_iff.mp hseen path hold
        · obtain ⟨record, hrecord, rfl⟩ := List.mem_map.mp hnew
          exact hcarried record hrecord
      have hempty : Seen.empty.hasEmbedded = false := rfl
      obtain ⟨hfault, hrecords⟩ := advance_beside (ask statement).fault hembeds hempty hplain
        (hrows statement) fun path => (or_iff_left List.not_mem_nil).symm
      rw [task.stream_of_compile hcompile, task.stream_of_compile hcompile, candidatesOf, hadvance]
      refine ⟨hfault, fun _ => congrArg (firstRecords seen carried ++ ·) (hrecords.trans ?_)⟩
      simp only [hmem, not_or]
      rfl

/-- What a search without images has seen at its end, where no path looks like an embedded image:
what was seen before it, and the paths of its records. -/
theorem Task.mem_seen_of_find (hembeds : task.embeds = false) (hseen : seen.hasEmbedded = false)
    (hcarried : ∀ record ∈ carried, isEmbedded record.path = false)
    (hrows : ∀ statement, ∀ row ∈ (ask statement).rows, isEmbedded (rowPath row) = false)
    (hfault : (task.find ask carried seen).fault = none) (path : String) :
    path ∈ (task.find ask carried seen).seen.paths ↔
      path ∈ seen.paths ∨ path ∈ (task.find ask carried seen).records.map (·.path) := by
  obtain ⟨statement, -, -, hpasses⟩ := Task.passes_of_find hfault
  have hplain : ∀ candidate ∈ candidatesOf carried (ask statement),
      isEmbedded candidate.path = false := by
    rw [candidatesOf, List.forall_mem_append]
    exact ⟨List.forall_mem_map.mpr hcarried, List.forall_mem_map.mpr (hrows statement)⟩
  constructor
  · exact hpasses.plain hembeds hseen hplain path
  · rintro (hold | hfound)
    · exact hpasses.subset hold
    · obtain ⟨record, hrecord, rfl⟩ := List.mem_map.mp hfound
      exact (hpasses.recorded record hrecord).2

/-- A search without images that goes on from what has been seen and from carried records, where no
path looks like an embedded image.  It fails exactly when the fresh search does.  Otherwise it
returns the carried records as they are, the first one of each path that has not been seen, and then
what the fresh search returns beside them and beside what has been seen, in its order; and the paths
of what it returns are what is seen in addition. -/
theorem search_goes_on {catalog : Catalog} (folder : Image.Folder) (c : Criteria)
    (hcatalog : ∀ image ∈ catalog.images, isEmbedded image.pathName = false)
    (hcarried : ∀ record ∈ carried, isEmbedded record.path = false)
    (hseen : ∀ path ∈ seen.paths, isEmbedded path = false) :
    let fresh := (Task.mk c false folder).find catalog.answer [] .empty
    let found := (Task.mk c false folder).find catalog.answer carried seen
    found.fault = fresh.fault ∧ (found.fault = none →
      found.records = firstRecords seen carried ++ (fresh.records.filter fun record =>
        record.path ∉ seen.paths ∧ record.path ∉ carried.map (·.path)) ∧
      ∀ path, path ∈ found.seen.paths ↔
        path ∈ seen.paths ∨ path ∈ found.records.map (·.path)) := by
  intro fresh found
  let task : Task := ⟨c, false, folder⟩
  have hplain := hasEmbedded_eq_false_iff.mpr hseen
  have hrows : ∀ statement, ∀ row ∈ (catalog.answer statement).rows,
      isEmbedded (rowPath row) = false := by
    intro statement row hrow
    obtain ⟨image, himage, hresult⟩ := exists_image_of_mem_answer hrow
    rw [rowPath, resultRow_path hresult]
    exact hcatalog image himage
  obtain ⟨hfresh, -, hfreshRecords⟩ := task.find_stream catalog.answer [] .empty
  obtain ⟨hfound, -, hfoundRecords⟩ := task.find_stream catalog.answer carried seen
  obtain ⟨hfault, hrecords⟩ := task.stream_goes_on rfl hplain hcarried hrows
  have hsame : found.fault = fresh.fault := hfound.trans (hfault.trans hfresh.symm)
  refine ⟨hsame, fun hnone => ⟨?_, Task.mem_seen_of_find rfl hplain hcarried hrows hnone⟩⟩
  have hstream := hfound.symm.trans hnone
  have hfreshStream := hfault.symm.trans hstream
  rw [hstream, if_neg (by simp), hrecords hfreshStream] at hfoundRecords
  rw [hfreshStream, if_neg (by simp)] at hfreshRecords
  change (task.find catalog.answer carried seen).records =
    firstRecords seen carried ++ (task.find catalog.answer [] .empty).records.filter _
  rw [hfoundRecords, hfreshRecords]

/-- Four images, of which nothing but the path is known; two of them have the same path. -/
def shelf : Catalog :=
  ⟨[⟨1, .text "c.jpg", []⟩, ⟨2, .text "a.jpg", []⟩, ⟨3, .text "b.jpg", []⟩, ⟨4, .text "a.jpg", []⟩],
    fun _ => [], []⟩

/-- Records that are carried over: two of one path, which differ in their width, and one whose path
is not on the shelf. -/
def carriedPortraits : List Record := [
  { Record.portrait with path := "b.jpg", width := some 1 },
  { Record.portrait with path := "x.jpg", width := some 2 },
  { Record.portrait with path := "b.jpg", width := some 3 }]

/-- With one of the shelf's paths seen, the first record of each carried path is returned as it is,
threshold or not, and then the only image that is left, once. -/
theorem search_goes_on_shelf :
    let c : Criteria := { Criteria.empty with minConfidence := some 0.99 }
    let found := (Task.mk c false (.ofList [])).find shelf.answer carriedPortraits ⟨["c.jpg"]⟩
    found.fault = none ∧ (found.records.map fun record => (record.path, record.width)) =
        [("b.jpg", some 1), ("x.jpg", some 2), ("a.jpg", none)] ∧
      ∀ path, path ∈ found.seen.paths ↔ path ∈ ["c.jpg"] ∨ path ∈ ["b.jpg", "x.jpg", "a.jpg"] := by
  intro c found
  have hcatalog : ∀ image ∈ shelf.images, isEmbedded image.pathName = false := by decide +kernel
  have hcarried : ∀ record ∈ carriedPortraits, isEmbedded record.path = false := by decide +kernel
  have hseen : ∀ path ∈ (Seen.mk ["c.jpg"]).paths, isEmbedded path = false := by decide +kernel
  obtain ⟨hsame, hfound⟩ := search_goes_on (.ofList []) c hcatalog hcarried hseen
  have hfault : found.fault = none := by
    rw [hsame]
    decide +kernel
  have hrecords : (found.records.map fun record => (record.path, record.width)) =
      [("b.jpg", some 1), ("x.jpg", some 2), ("a.jpg", none)] := by
    rw [(hfound hfault).1]
    decide +kernel
  have hpaths : found.records.map (·.path) = ["b.jpg", "x.jpg", "a.jpg"] := by
    have hfirst := congrArg (List.map Prod.fst) hrecords
    rwa [List.map_map] at hfirst
  refine ⟨hfault, hrecords, fun path => ?_⟩
  rw [(hfound hfault).2 path, hpaths]

end Search

end PhotoCatalog
