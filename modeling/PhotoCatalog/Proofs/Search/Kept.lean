import PhotoCatalog.Proofs.Query.ChildTables
import PhotoCatalog.Proofs.Search.Fresh

/-!
Fresh searches with a threshold.  Where every row can be read as a record and no path looks like an
embedded image, a search finds those of the selected images whose records are kept once the
threshold has been applied.
-/

namespace PhotoCatalog

theorem someMatch_eq_true_iff {tokens labels : List String} :
    someMatch tokens labels = true ↔
      ∃ token ∈ tokens, ∃ label ∈ labels, Pattern.wildcardMatch token (some label) = true := by
  simp only [someMatch, List.any_eq_true]

/-- A record matches criteria about detections when each detection facet that is asked for has a
token that matches one of its labels. -/
theorem Record.stillMatches_eq_true_iff {r : Record} {c : Criteria} {facet : ListFacet}
    (hfacet : facet ∈ detectionFacets) (hasked : (c.tokens facet).isSome = true) :
    r.stillMatches c = true ↔ ∀ facet ∈ detectionFacets, ∀ tokens, c.tokens facet = some tokens →
      ∃ token ∈ tokens, ∃ label ∈ r.detected facet,
        Pattern.wildcardMatch token (some label) = true := by
  have hmem : ∀ pair, pair ∈ detectionFacets.filterMap (fun facet =>
      (c.tokens facet).map (facet, ·)) ↔ pair.1 ∈ detectionFacets ∧
        c.tokens pair.1 = some pair.2 := by
    rintro ⟨facet, tokens⟩
    simp only [List.mem_filterMap, Option.map_eq_some_iff, Prod.mk.injEq]
    constructor
    · rintro ⟨_, hfacet, _, htokens, rfl, rfl⟩
      exact ⟨hfacet, htokens⟩
    · rintro ⟨hfacet, htokens⟩
      exact ⟨facet, hfacet, tokens, htokens, rfl, rfl⟩
  obtain ⟨tokens, htokens⟩ := Option.isSome_iff_exists.mp hasked
  have hsome := (hmem (facet, tokens)).mpr ⟨hfacet, htokens⟩
  rw [Record.stillMatches]
  generalize detectionFacets.filterMap (fun facet => (c.tokens facet).map (facet, ·)) = requested
    at hmem hsome
  have hnonempty : requested.isEmpty = false := by
    cases requested with
    | nil => exact absurd hsome List.not_mem_nil
    | cons _ _ => rfl
  simp only [hnonempty, Bool.not_false, Bool.true_and, List.all_eq_true, hmem, Prod.forall,
    someMatch_eq_true_iff, and_imp]
  exact forall_congr' fun facet => forall_comm

/-- Criteria with a threshold that ask for detections and nothing else keep the records that match
them. -/
theorem Record.isKept_eq_stillMatches {r : Record} {c : Criteria} {threshold : Float}
    (hthreshold : c.minConfidence = some threshold) (hsome : ∃ facet, c.isActive facet = true)
    (honly : ∀ facet, c.isActive facet = true → facet.isDetection = true) :
    r.isKept c = r.stillMatches c := by
  have hdetection : c.activeFacets.any Facet.isDetection = true := by
    obtain ⟨facet, hactive⟩ := hsome
    exact List.any_eq_true.mpr
      ⟨facet, List.mem_filter.mpr ⟨facet.mem_all, hactive⟩, honly facet hactive⟩
  have hnoOther : c.activeFacets.any (!·.isDetection) = false := by
    rw [List.any_eq_false]
    intro facet hmem
    simp [honly facet (List.mem_filter.mp hmem).2]
  simp [Record.isKept, hthreshold, hdetection, hnoOther]

namespace Search

open PhotoCatalog.Catalog PhotoCatalog.Query

/-- An image has a record, and it stays in the result. -/
def Task.KeepsImage (task : Task) (catalog : Catalog) (image : ImageRow) : Prop :=
  ∃ row record, catalog.resultRow image = .ok row ∧ (Record.ofRow row).result = .ok record ∧
    task.keeps record = true

/-- A search with a threshold that asks for detections and nothing else keeps a record when each
detection facet that is asked for has a token that matches one of the labels that are left. -/
theorem Task.keeps_eq_true_iff {folder : Image.Folder} {c : Criteria} {threshold : Float}
    {record : Record} {facet : ListFacet} (hthreshold : c.minConfidence = some threshold)
    (honly : ∀ facet, c.isActive facet = true → facet.isDetection = true)
    (hfacet : facet ∈ detectionFacets) (hasked : (c.tokens facet).isSome = true) :
    (Task.mk c false folder).keeps record = true ↔
      ∀ facet ∈ detectionFacets, ∀ tokens, c.tokens facet = some tokens → ∃ token ∈ tokens,
        ∃ label ∈ (record.restrict (some (.float threshold))).detected facet,
          Pattern.wildcardMatch token (some label) = true := by
  have hrestricted : (Task.mk c false folder).restricted record =
      record.restrict (some (.float threshold)) := by
    rw [Task.restricted]
    simp only [hthreshold, Option.map_some]
  rw [Task.keeps, hrestricted,
    Record.isKept_eq_stillMatches hthreshold ⟨.list facet, hasked⟩ honly,
    Record.stillMatches_eq_true_iff hfacet hasked]

variable {task : Task} {seen : Seen} {ending : Option Fault} {row : Row} {record : Record}

/-- A row whose path is old, or whose record is not kept, is passed over. -/
theorem judge_of_passed (hread : (Record.ofRow row).result = .ok record)
    (hpassed : record.path ∈ seen.paths ∨ task.keeps record = false) :
    (task.judge seen (.row row)).result = .ok (none, seen) := by
  change (task.judgeRow seen row).result = _
  rw [Task.judgeRow, Reading.result_bind, hread, ok_bind]
  change (if seen.contains record.path = true then pure (none, seen)
    else if task.keeps record = true then task.embedded seen (task.restricted record)
    else pure (none, seen)).result = _
  rcases hpassed with hold | hdropped
  · rw [if_pos (Seen.contains_eq_true_iff.mpr hold)]
    rfl
  · rw [hdropped, if_neg Bool.false_ne_true, ite_self]
    rfl

/-- A row whose path is new and whose record is kept is found, unless images are looked at. -/
theorem judge_of_found (hread : (Record.ofRow row).result = .ok record)
    (hnew : record.path ∉ seen.paths) (hkept : task.keeps record = true)
    (hlooks : task.looks seen = false) :
    (task.judge seen (.row row)).result =
      .ok (some (task.restricted record), seen.insert record.path) := by
  change (task.judgeRow seen row).result = _
  rw [Task.judgeRow, Reading.result_bind, hread, ok_bind,
    if_neg fun hold => hnew (Seen.contains_eq_true_iff.mp hold)]
  change (if task.keeps record = true then task.embedded seen (task.restricted record)
    else pure (none, seen)).result = _
  rw [if_pos hkept, Task.embedded, if_neg (by rw [← Task.looks, hlooks]; decide),
    task.restricted_path]
  rfl

/-- A search through rows that can be read comes to its end, and finds the paths of the records that
are kept, each of them once, as far as they are new. -/
theorem advance_of_readable {rows : List Row} (hembeds : task.embeds = false)
    (hseen : seen.hasEmbedded = false) (hplain : ∀ row ∈ rows, isEmbedded (rowPath row) = false)
    (hread : ∀ row ∈ rows, ∃ record, (Record.ofRow row).result = .ok record) :
    (task.advance none seen none (rows.map .row)).fault = none ∧
      ((task.advance none seen none (rows.map .row)).records.map (·.path)).Nodup ∧
      ∀ path, path ∈ (task.advance none seen none (rows.map .row)).records.map (·.path) ↔
        path ∉ seen.paths ∧ ∃ row ∈ rows, rowPath row = path ∧
          ∃ record, (Record.ofRow row).result = .ok record ∧ task.keeps record = true := by
  -- What has been seen grows by the paths found, so none of them is found again.
  have hlimit : (none : Option Nat) ≠ some 0 := by
    rintro ⟨⟩
  induction rows generalizing seen with
  | nil => simp [Task.advance]
  | cons row rows ih =>
      obtain ⟨⟨record, hrecord⟩, hreadRest⟩ := List.forall_mem_cons.mp hread
      obtain ⟨hplainRow, hplainRest⟩ := List.forall_mem_cons.mp hplain
      have hpath := Record.path_of_ofRow hrecord
      have hkept : (∃ record, (Record.ofRow row).result = .ok record ∧ task.keeps record = true) ↔
          task.keeps record = true := by
        simp only [hrecord, Except.ok.injEq, exists_eq_left']
      simp only [List.exists_mem_cons_iff, hkept]
      rw [List.map_cons]
      by_cases hfound : record.path ∉ seen.paths ∧ task.keeps record = true
      · obtain ⟨hnew, hkeeps⟩ := hfound
        have hjudge := judge_of_found hrecord hnew hkeeps (Task.looks_eq_false hembeds hseen)
        rw [advance_found hlimit hjudge]
        obtain ⟨hfault, hnodup, hfound⟩ :=
          ih (hasEmbedded_insert hseen (hpath ▸ hplainRow)) hplainRest hreadRest
        simp only [Seen.mem_insert, not_or] at hfound
        refine ⟨hfault, ?_, fun path => ?_⟩
        · change ((task.restricted record).path :: _).Nodup
          rw [List.nodup_cons, task.restricted_path]
          exact ⟨fun hmem => ((hfound _).mp hmem).1.1 rfl, hnodup⟩
        · change path ∈ (task.restricted record).path :: _ ↔ _
          rw [List.mem_cons, task.restricted_path, and_iff_left hkeeps, ← hpath]
          by_cases hsame : path = record.path
          · exact iff_of_true (Or.inl hsame) ⟨hsame ▸ hnew, Or.inl hsame.symm⟩
          · rw [or_iff_right hsame, or_iff_right (Ne.symm hsame)]
            exact (hfound path).trans (and_congr_left fun _ => and_iff_right hsame)
      · have hpassed : record.path ∈ seen.paths ∨ task.keeps record = false := by
          rwa [not_and_or, not_not, Bool.not_eq_true] at hfound
        rw [advance_passed hlimit (judge_of_passed hrecord hpassed)]
        obtain ⟨hfault, hnodup, hfound⟩ := ih hseen hplainRest hreadRest
        refine ⟨hfault, hnodup, fun path => (hfound path).trans ?_⟩
        refine and_congr_right fun hnew => (or_iff_right ?_).symm
        rintro ⟨rfl, hkeeps⟩
        rcases hpassed with hold | hdropped
        · exact hnew (hpath ▸ hold)
        · exact Bool.false_ne_true (hdropped.symm.trans hkeeps)

variable {folder : Image.Folder} {catalog : Catalog} {c : Criteria}

/-- A fresh search whose query is answered to the end, with rows that can be read, succeeds and
finds the selected images whose records are kept. -/
theorem fresh_of_readable {statement : Statement}
    (hplain : ∀ image ∈ catalog.images, isEmbedded image.pathName = false)
    (hcompile : compile c = .ok statement) (hanswer : (catalog.answer statement).fault = none)
    (hread : ∀ image ∈ catalog.images, ∀ row, catalog.resultRow image = .ok row →
      ∃ record, (Record.ofRow row).result = .ok record) :
    Succeeds folder catalog c ∧ (foundPaths folder catalog c).Nodup ∧
      ∀ path, path ∈ foundPaths folder catalog c ↔
        ∃ image ∈ catalog.images, image.pathName = path ∧
          catalog.Selects statement.conditions image ∧
            (Task.mk c false folder).KeepsImage catalog image := by
  let task : Task := ⟨c, false, folder⟩
  have hrows := @mem_answer_rows catalog statement hanswer
  have hname : ∀ {image row}, catalog.resultRow image = .ok row →
      rowPath row = image.pathName := by
    intro image row hrow
    rw [rowPath, resultRow_path hrow, ImageRow.pathName]
  have hplainRows : ∀ row ∈ (catalog.answer statement).rows,
      isEmbedded (rowPath row) = false := by
    intro row hrow
    obtain ⟨image, himage, -, hrow⟩ := hrows.mp hrow
    rw [hname hrow]
    exact hplain image himage
  have hreadable : ∀ row ∈ (catalog.answer statement).rows,
      ∃ record, (Record.ofRow row).result = .ok record := by
    intro row hrow
    obtain ⟨image, himage, -, hrow⟩ := hrows.mp hrow
    exact hread image himage row hrow
  have hstream : task.stream catalog.answer [] .empty none =
      task.advance none .empty none ((catalog.answer statement).rows.map .row) := by
    rw [Task.stream, if_neg (by rintro ⟨⟩), Task.start, hcompile, ok_bind]
    change (Cursor.mk task _ (catalog.answer statement).fault).take none .empty = _
    rw [hanswer]
    rfl
  obtain ⟨hfault, hnodup, hfound⟩ := @advance_of_readable task .empty _ rfl rfl hplainRows hreadable
  have hfind : fresh folder catalog c =
      task.advance none .empty none ((catalog.answer statement).rows.map .row) := by
    change (task.find catalog.answer [] .empty) = _
    rw [Task.find, hstream]
    simp only [hfault, Option.isSome_none, Bool.false_eq_true, if_false]
  refine ⟨?_, ?_, fun path => ?_⟩
  · rw [Succeeds, hfind, hfault]
  · rw [foundPaths, hfind]
    exact hnodup
  · rw [foundPaths, hfind, hfound path]
    constructor
    · rintro ⟨-, row, hrow, rfl, record, hrecord, hkeeps⟩
      obtain ⟨image, himage, hselects, hrow⟩ := hrows.mp hrow
      exact ⟨image, himage, (hname hrow).symm, hselects, row, record, hrow, hrecord, hkeeps⟩
    · rintro ⟨image, himage, rfl, hselects, row, record, hrow, hrecord, hkeeps⟩
      refine ⟨List.not_mem_nil, row, hrows.mpr ⟨image, himage, hselects, hrow⟩, hname hrow, ?_⟩
      exact ⟨record, hrecord, hkeeps⟩

/-- The child tables that are asked hold a text for every label. -/
def HasLabels (catalog : Catalog) (c : Criteria) (image : ImageRow) : Prop :=
  ∀ facet table tokens, facet.target = .child table → c.tokens facet = some tokens →
    ∀ child ∈ catalog.childrenOf table image.id, ∃ s, child.label = .text s

/-- No token of the criteria makes a pattern that is too long. -/
def HasFittingPatterns (c : Criteria) : Prop :=
  ∀ facet tokens, c.tokens facet = some tokens → ∀ token ∈ tokens, FitsPattern token

theorem answers_asked {image : ImageRow} (hlabels : HasLabels catalog c image)
    (hfits : HasFittingPatterns c) {facet : ListFacet} {table : ChildTable} {tokens : List String}
    (htarget : facet.target = .child table) (htokens : c.tokens facet = some tokens) :
    (catalog.subject image).Answers (childCondition table tokens false) :=
  answers_childCondition (hlabels facet table tokens htarget htokens) (hfits facet tokens htokens)

/-- A search about child tables alone succeeds when the catalog accepts its query, and finds the
images that satisfy the condition of every facet and whose records are kept. -/
theorem search_of_child_tables (hasks : AsksChildTables c)
    (hlabels : ∀ image ∈ catalog.images, HasLabels catalog c image)
    (hfits : HasFittingPatterns c)
    (haccepts : ∀ statement, compile c = .ok statement → catalog.refusal? statement = none)
    (hplain : ∀ image ∈ catalog.images, isEmbedded image.pathName = false)
    (hread : ∀ image ∈ catalog.images, ∃ row record, catalog.resultRow image = .ok row ∧
      (Record.ofRow row).result = .ok record) :
    Succeeds folder catalog c ∧ (foundPaths folder catalog c).Nodup ∧
      ∀ path, path ∈ foundPaths folder catalog c ↔
        ∃ image ∈ catalog.images, image.pathName = path ∧
          (∀ facet table tokens, facet.target = .child table → c.tokens facet = some tokens →
            (catalog.subject image).Holds (childCondition table tokens false)) ∧
          (Task.mk c false folder).KeepsImage catalog image := by
  obtain ⟨statement, hcompile, hconditions, hparams⟩ := hasks.compile
  have hanswer : (catalog.answer statement).fault = none := by
    refine answer_of_accepted (haccepts statement hcompile) ?_ ?_
    · intro p hp
      obtain ⟨text, htext⟩ := hparams p hp
      exact ⟨.text text, by rw [htext]; rfl⟩
    · intro image himage
      obtain ⟨row, -, hrow, -⟩ := hread image himage
      refine exists_select (fun condition hmem => ?_) ⟨row, hrow⟩
      obtain ⟨f, table, tokens, htarget, htokens, rfl⟩ :=
        (hconditions condition).mp (mem_checkOrder.mp hmem)
      exact answers_asked (hlabels image himage) hfits htarget htokens
  have hreadable : ∀ image ∈ catalog.images, ∀ row, catalog.resultRow image = .ok row →
      ∃ record, (Record.ofRow row).result = .ok record := by
    intro image himage row hrow
    obtain ⟨row', record, hrow', hrecord⟩ := hread image himage
    obtain rfl := Except.ok.inj (hrow'.symm.trans hrow)
    exact ⟨record, hrecord⟩
  obtain ⟨hsucceeds, hnodup, hfound⟩ := fresh_of_readable hplain hcompile hanswer hreadable
  refine ⟨hsucceeds, hnodup, fun path => (hfound path).trans ?_⟩
  refine exists_congr fun image => and_congr_right fun _ => and_congr_right fun _ =>
    and_congr_left fun _ => ?_
  constructor
  · intro hselects facet table tokens htarget htokens
    exact hselects _ ((hconditions _).mpr ⟨facet, table, tokens, htarget, htokens, rfl⟩)
  · intro hall condition hmem
    obtain ⟨f, table, tokens, htarget, htokens, rfl⟩ := (hconditions condition).mp hmem
    exact hall f table tokens htarget htokens

end Search

end PhotoCatalog
