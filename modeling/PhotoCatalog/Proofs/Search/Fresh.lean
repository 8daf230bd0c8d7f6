import PhotoCatalog.Proofs.Catalog.Selection
import PhotoCatalog.Proofs.Search.Verdict

/-!
Searches that start fresh: nothing has been seen, nothing is carried over, and images are not
embedded.  Without a threshold, and where no path looks like an embedded image, such a search finds
exactly the images that its query selects.
-/

namespace PhotoCatalog.Search

open PhotoCatalog.Catalog

/-- A fresh search for some criteria. -/
def fresh (folder : Image.Folder) (catalog : Catalog) (c : Criteria) : Progress :=
  (Task.mk c false folder).find catalog.answer [] .empty

/-- A fresh search comes to its end without a fault. -/
def Succeeds (folder : Image.Folder) (catalog : Catalog) (c : Criteria) : Prop :=
  (fresh folder catalog c).fault = none

instance (folder : Image.Folder) (catalog : Catalog) (c : Criteria) :
    Decidable (Succeeds folder catalog c) :=
  inferInstanceAs (Decidable ((fresh folder catalog c).fault = none))

/-- The paths that a fresh search finds, in the order in which it finds them. -/
def foundPaths (folder : Image.Folder) (catalog : Catalog) (c : Criteria) : List String :=
  (fresh folder catalog c).records.map (·.path)

/-- The first step of a search that goes to its end without a fault. -/
theorem advance_cons_of_no_fault {task : Task} {ending : Option Fault} {seen : Seen}
    {candidate : Candidate} {rest : List Candidate}
    (hfault : (task.advance ending seen none (candidate :: rest)).fault = none) :
    ∃ outcome seen', task.Judged seen candidate outcome seen' ∧
      (task.advance ending seen' none rest).fault = none ∧
      (task.advance ending seen none (candidate :: rest)).records =
        outcome.toList ++ (task.advance ending seen' none rest).records := by
  have hlimit : (none : Option Nat) ≠ some 0 := by
    rintro ⟨⟩
  cases hjudge : (task.judge seen candidate).result with
  | error fault => simp [advance_failed hlimit hjudge] at hfault
  | ok verdict =>
      obtain ⟨outcome, seen'⟩ := verdict
      refine ⟨outcome, seen', Task.judged_of_judge hjudge, ?_⟩
      cases outcome with
      | none =>
          rw [advance_passed hlimit hjudge] at hfault ⊢
          exact ⟨hfault, rfl⟩
      | some record =>
          rw [advance_found hlimit hjudge] at hfault ⊢
          exact ⟨hfault, rfl⟩

theorem ending_of_no_fault {task : Task} {ending : Option Fault} {seen : Seen}
    {candidates : List Candidate}
    (hfault : (task.advance ending seen none candidates).fault = none) : ending = none := by
  induction candidates generalizing seen with
  | nil => simpa [Task.advance] using hfault
  | cons candidate rest ih =>
      obtain ⟨_, seen', _, hrest, _⟩ := advance_cons_of_no_fault hfault
      exact ih hrest

/-- A search that does not embed passes paths on in the order of its rows. -/
theorem advance_paths_sublist {task : Task} {ending : Option Fault} {seen : Seen}
    {rows : List Row} (hembeds : task.embeds = false)
    (hfault : (task.advance ending seen none (rows.map .row)).fault = none) :
    ((task.advance ending seen none (rows.map .row)).records.map (·.path)).Sublist
      (rows.map rowPath) := by
  induction rows generalizing seen with
  | nil => simp [Task.advance]
  | cons row rest ih =>
      rw [List.map_cons] at hfault ⊢
      obtain ⟨outcome, seen', hjudged, hrest, hrecords⟩ := advance_cons_of_no_fault hfault
      have htail := ih hrest
      rw [hrecords, List.map_append, List.map_cons]
      cases hjudged with
      | rowSeen | rowDropped | imageSeen => exact htail.cons _
      | imageNew hread | rowNew hread =>
          have hpath := Record.path_of_ofRow hread
          simpa [hembeds, Task.restricted_path, hpath] using htail

/-- Without a threshold every record stays. -/
theorem keeps_of_no_threshold {task : Task} (hthreshold : task.criteria.minConfidence = none)
    (record : Record) : task.keeps record = true := by
  simp [Task.keeps, Record.isKept, hthreshold]

theorem hasEmbedded_insert {seen : Seen} {path : String} (hseen : seen.hasEmbedded = false)
    (hpath : isEmbedded path = false) : (seen.insert path).hasEmbedded = false := by
  rw [Seen.insert]
  split
  · exact hseen
  · simpa [Seen.hasEmbedded, hpath] using hseen

/-- Where all rows are new, and neither they nor what has been seen look like embedded images, every
row is found. -/
theorem advance_paths_eq {task : Task} {ending : Option Fault} {seen : Seen} {rows : List Row}
    (hembeds : task.embeds = false) (hthreshold : task.criteria.minConfidence = none)
    (hseen : seen.hasEmbedded = false) (hplain : ∀ row ∈ rows, isEmbedded (rowPath row) = false)
    (hnew : ∀ row ∈ rows, rowPath row ∉ seen.paths) (hdistinct : (rows.map rowPath).Nodup)
    (hfault : (task.advance ending seen none (rows.map .row)).fault = none) :
    (task.advance ending seen none (rows.map .row)).records.map (·.path) = rows.map rowPath := by
  induction rows generalizing seen with
  | nil => simp [Task.advance]
  | cons row rest ih =>
      rw [List.map_cons] at hfault ⊢
      obtain ⟨outcome, seen', hjudged, hrest, hrecords⟩ := advance_cons_of_no_fault hfault
      rw [List.map_cons, List.nodup_cons] at hdistinct
      have hrow := hnew row List.mem_cons_self
      have hlooks := Task.looks_eq_false hembeds hseen
      rw [hrecords, List.map_append, List.map_cons]
      cases hjudged with
      | rowSeen hread hold =>
          rw [Record.path_of_ofRow hread] at hold
          exact absurd hold hrow
      | rowDropped _ _ hdropped => simp [keeps_of_no_threshold hthreshold] at hdropped
      | imageSeen _ _ _ hlooked | imageNew _ _ _ hlooked => simp [hlooks] at hlooked
      | @rowNew _ record hread =>
          have hpath : record.path = rowPath row := Record.path_of_ofRow hread
          have hseen' := hasEmbedded_insert hseen (hpath ▸ hplain row List.mem_cons_self)
          have hnew' : ∀ other ∈ rest, rowPath other ∉ (seen.insert record.path).paths := by
            intro other hother hold
            rcases Seen.mem_insert.mp hold with heq | hold
            · exact hdistinct.1 (List.mem_map.mpr ⟨other, hother, heq.trans hpath⟩)
            · exact hnew other (List.mem_cons_of_mem row hother) hold
          have hplain' : ∀ other ∈ rest, isEmbedded (rowPath other) = false :=
            fun other hother => hplain other (List.mem_cons_of_mem row hother)
          rw [ih hseen' hplain' hnew' hdistinct.2 hrest]
          simp [Task.restricted_path, hpath]

variable {folder : Image.Folder} {catalog : Catalog} {c : Criteria}

/-- A fresh search that succeeds is the way through the rows of an answer without a fault. -/
theorem fresh_eq_of_succeeds (hsucceeds : Succeeds folder catalog c) :
    ∃ statement, Query.compile c = .ok statement ∧
      (catalog.answer statement).fault = none ∧
      fresh folder catalog c = (Task.mk c false folder).advance none .empty none
        ((catalog.answer statement).rows.map .row) := by
  let task : Task := ⟨c, false, folder⟩
  have hfault : (task.find catalog.answer [] .empty).fault = none := hsucceeds
  cases hcompile : Query.compile c with
  | error fault =>
      have hstream : task.stream catalog.answer [] .empty none =
          ⟨[], [], some fault, .empty, .closed task⟩ := by
        simp [Task.stream, Task.start, task, hcompile, bind, Except.bind]
      simp [Task.find, hstream] at hfault
  | ok statement =>
      have hstream : task.stream catalog.answer [] .empty none =
          task.advance (catalog.answer statement).fault .empty none
            ((catalog.answer statement).rows.map .row) := by
        simp [Task.stream, Task.start, task, hcompile, bind, Except.bind, Cursor.take, pure,
          Except.pure]
      have hnone : (task.stream catalog.answer [] .empty none).fault = none := by
        by_contra hsome
        have hisSome := Option.isSome_iff_ne_none.mpr hsome
        rw [Task.find, if_pos hisSome] at hfault
        exact hsome hfault
      have hfind : task.find catalog.answer [] .empty =
          task.stream catalog.answer [] .empty none := by
        simp [Task.find, hnone]
      have hending := ending_of_no_fault (hstream ▸ hnone)
      rw [hending] at hstream
      exact ⟨statement, rfl, hending, hfind.trans hstream⟩

/-- A fresh search that succeeds goes through the rows of an answer without a fault. -/
theorem fresh_of_succeeds (hsucceeds : Succeeds folder catalog c) :
    ∃ statement, Query.compile c = .ok statement ∧
      (catalog.answer statement).fault = none ∧
      let progress := (Task.mk c false folder).advance none .empty none
        ((catalog.answer statement).rows.map .row)
      progress.fault = none ∧ foundPaths folder catalog c = progress.records.map (·.path) := by
  obtain ⟨statement, hcompile, hanswer, hfresh⟩ := fresh_eq_of_succeeds hsucceeds
  refine ⟨statement, hcompile, hanswer, hfresh ▸ hsucceeds, ?_⟩
  rw [foundPaths, hfresh]

/-- What a fresh search finds is in the order of the paths, code point by code point. -/
theorem foundPaths_increase (hpaths : catalog.HasTextPaths)
    (hsucceeds : Succeeds folder catalog c) :
    (foundPaths folder catalog c).Pairwise (· < ·) := by
  obtain ⟨statement, _, hanswer, hfault, hfound⟩ := fresh_of_succeeds hsucceeds
  obtain ⟨chosen, hchosen, hrows, _⟩ := answer_paths hanswer
  have hsub := advance_paths_sublist rfl hfault
  rw [← hfound] at hsub
  refine (byPath_strictly_increasing hpaths).sublist (hsub.trans ?_)
  rw [show (catalog.answer statement).rows.map rowPath = chosen.map ImageRow.pathName from hrows]
  exact hchosen.map ImageRow.pathName

/-- A fresh search finds exactly the images that its query selects. -/
theorem mem_foundPaths_iff (hpaths : catalog.HasPlainPaths) (hthreshold : c.minConfidence = none)
    (hsucceeds : Succeeds folder catalog c) :
    ∃ statement, Query.compile c = .ok statement ∧ (catalog.answer statement).fault = none ∧
      ∀ path, path ∈ foundPaths folder catalog c ↔
        ∃ image ∈ catalog.images, image.pathName = path ∧
          catalog.Selects statement.conditions image := by
  obtain ⟨statement, hcompile, hanswer, hfault, hfound⟩ := fresh_of_succeeds hsucceeds
  obtain ⟨chosen, hchosen, hrows, hmem⟩ := answer_paths hanswer
  change (catalog.answer statement).rows.map rowPath = chosen.map ImageRow.pathName at hrows
  have hnames : ∀ row ∈ (catalog.answer statement).rows,
      ∃ image ∈ chosen, image.pathName = rowPath row := by
    intro row hrow
    exact List.mem_map.mp (hrows ▸ List.mem_map_of_mem hrow)
  have hplain : ∀ row ∈ (catalog.answer statement).rows, isEmbedded (rowPath row) = false := by
    intro row hrow
    obtain ⟨image, himage, hname⟩ := hnames row hrow
    rw [← hname]
    exact hpaths.notEmbedded image ((hmem image).mp himage).1
  have hdistinct : ((catalog.answer statement).rows.map rowPath).Nodup := by
    rw [hrows]
    have hsub := hchosen.map ImageRow.pathName
    exact ((byPath_strictly_increasing hpaths.toHasTextPaths).sublist hsub).imp (ne_of_lt ·)
  have hall := advance_paths_eq rfl hthreshold rfl hplain (by simp [Seen.empty]) hdistinct hfault
  refine ⟨statement, hcompile, hanswer, fun path => ?_⟩
  rw [hfound, hall, hrows, List.mem_map]
  constructor
  · rintro ⟨image, himage, hname⟩
    exact ⟨image, ((hmem image).mp himage).1, hname, ((hmem image).mp himage).2⟩
  · rintro ⟨image, himage, hname, hselects⟩
    exact ⟨image, (hmem image).mpr ⟨himage, hselects⟩, hname⟩

end PhotoCatalog.Search
