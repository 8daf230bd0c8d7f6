import PhotoCatalog.Proofs.Search.Turn

/-!
Searches that are repeated.  A candidate that is accounted for is passed over by every search with
the same criteria and files.  So a search that fails and is repeated with what it has seen returns
what it had not come to, and the records that it had found before the fault are lost: what it has
seen stays as it was exactly when there are no such records.
-/

namespace PhotoCatalog

/-- An image is looked at under a `data:` address, or else under its path. -/
theorem Image.isEmbedded_or_eq {folder : Image.Folder} {path address : String}
    (haddress : (Image.embed folder path).result = .ok address) :
    isEmbedded address = true ∨ address = path := by
  rw [Image.embed] at haddress
  split at haddress
  · cases haddress
  · split at haddress
    · cases haddress
      left
      simp [isEmbedded, Image.dataAddress]
    · cases haddress
      exact Or.inr rfl

namespace Search

open PhotoCatalog.Catalog

variable {task : Task} {seen seen' : Seen} {candidate : Candidate} {candidates : List Candidate}
  {ending : Option Fault} {records : List Record}

/-- A candidate that is accounted for is passed over. -/
theorem Task.Covered.judge_eq (hcovered : task.Covered seen candidate) :
    (task.judge seen candidate).result = .ok (none, seen) := by
  cases candidate with
  | carried record =>
      have hseen : record.path ∈ seen.paths := hcovered
      rw [Task.judge, if_pos (Seen.contains_eq_true_iff.mpr hseen)]
      rfl
  | row row =>
      obtain ⟨record, hread, hkept⟩ := hcovered
      rw [Task.judge, Task.judgeRow, Reading.result_bind, hread, ok_bind]
      split
      · rfl
      · rename_i hnew
        have hpath : record.path ∉ seen.paths :=
          fun hmem => hnew (Seen.contains_eq_true_iff.mpr hmem)
        change (if task.keeps record = true then task.embedded seen (task.restricted record)
          else pure (none, seen)).result = _
        split
        · rename_i hkeeps
          -- The path is new, so it is the image that has been seen, under a `data:` address.
          obtain ⟨address, haddress, hmem⟩ := (hkept hkeeps).resolve_left hpath
          have hembedded : isEmbedded address = true := by
            refine (Image.isEmbedded_or_eq haddress).resolve_right ?_
            rintro rfl
            exact hpath hmem
          have hlooks : (task.embeds || seen.hasEmbedded) = true := by
            rw [Bool.or_eq_true, Seen.hasEmbedded, List.any_eq_true]
            exact Or.inr ⟨address, hmem, hembedded⟩
          rw [Task.embedded, if_pos hlooks, Reading.result_bind, task.restricted_path, haddress,
            ok_bind, if_pos (Seen.contains_eq_true_iff.mpr hmem)]
          rfl
        · rfl

/-- Candidates judged one after the other without a fault, the records that come of them, and what
is seen after them. -/
inductive Task.Passes (task : Task) : Seen → List Candidate → List Record → Seen → Prop where
  | nil {seen : Seen} : Passes task seen [] [] seen
  | cons {seen seen' seen'' : Seen} {candidate : Candidate} {outcome : Option Record}
      {rest : List Candidate} {records : List Record}
      (hjudge : (task.judge seen candidate).result = .ok (outcome, seen'))
      (hrest : Passes task seen' rest records seen'') :
      Passes task seen (candidate :: rest) (outcome.toList ++ records) seen''

/-- One judgement only adds to what is seen, and accounts for its candidate. -/
theorem Task.Judged.covered {outcome : Option Record}
    (hjudged : task.Judged seen candidate outcome seen') :
    seen.paths ⊆ seen'.paths ∧ task.Covered seen' candidate := by
  cases outcome with
  | none =>
      obtain ⟨rfl, hcovered⟩ := hjudged.passed_over
      exact ⟨List.Subset.refl _, hcovered⟩
  | some record =>
      obtain ⟨_, _, _, hsub, hcovered, _⟩ := hjudged.found
      exact ⟨hsub, hcovered⟩

namespace Task.Passes

theorem subset (hpasses : task.Passes seen candidates records seen') :
    seen.paths ⊆ seen'.paths := by
  induction hpasses with
  | nil => exact List.Subset.refl _
  | cons hjudge _ ih => exact List.Subset.trans (Task.judged_of_judge hjudge).covered.1 ih

/-- What has been dealt with is accounted for. -/
theorem covered (hpasses : task.Passes seen candidates records seen') :
    ∀ candidate ∈ candidates, task.Covered seen' candidate := by
  induction hpasses with
  | nil => exact List.forall_mem_nil _
  | cons hjudge hrest ih =>
      have hfirst := (Task.judged_of_judge hjudge).covered.2.mono hrest.subset
      exact List.forall_mem_cons.mpr ⟨hfirst, ih⟩

/-- Records that have been found are new, and they are seen from then on. -/
theorem recorded (hpasses : task.Passes seen candidates records seen') :
    ∀ record ∈ records, record.path ∉ seen.paths ∧ record.path ∈ seen'.paths := by
  induction hpasses with
  | nil => exact List.forall_mem_nil _
  | @cons seen next last candidate outcome rest records hjudge hrest ih =>
      have hjudged := Task.judged_of_judge hjudge
      intro record hmem
      rcases List.mem_append.mp hmem with hmem | hmem
      · cases outcome with
        | none => contradiction
        | some found =>
            obtain rfl := List.mem_singleton.mp hmem
            obtain ⟨_, hnew, hself, _⟩ := hjudged.found
            exact ⟨hnew, hrest.subset hself⟩
      · obtain ⟨hnew, hself⟩ := ih record hmem
        exact ⟨fun hold => hnew (hjudged.covered.1 hold), hself⟩

/-- Whatever is seen was seen before, or it belongs to a record that has been found. -/
theorem explained (hpasses : task.Passes seen candidates records seen') :
    ∀ path ∈ seen'.paths, path ∈ seen.paths ∨ ∃ record ∈ records, ∃ candidate ∈ candidates,
      task.Yields record candidate ∧ task.Belongs path record candidate := by
  induction hpasses with
  | nil => exact fun _ hpath => Or.inl hpath
  | @cons seen next last candidate outcome rest records hjudge hrest ih =>
      have hjudged := Task.judged_of_judge hjudge
      intro path hpath
      rcases ih path hpath with hold | ⟨record, hrecord, other, hother, hbelongs⟩
      · cases outcome with
        | none =>
            obtain ⟨rfl, _⟩ := hjudged.passed_over
            exact Or.inl hold
        | some record =>
            obtain ⟨hyields, _, _, _, _, hbelongs⟩ := hjudged.found
            rcases hbelongs path hold with hold | hbelongs
            · exact Or.inl hold
            · exact Or.inr ⟨record, List.mem_cons_self, candidate, List.mem_cons_self, hyields,
                hbelongs⟩
      · exact Or.inr ⟨record, List.mem_append_right _ hrecord, other,
          List.mem_cons_of_mem candidate hother, hbelongs⟩

/-- Every record that has been found came of one of the candidates. -/
theorem yields (hpasses : task.Passes seen candidates records seen') :
    ∀ record ∈ records, ∃ candidate ∈ candidates, task.Yields record candidate := by
  induction hpasses with
  | nil => exact List.forall_mem_nil _
  | @cons seen next last candidate outcome rest records hjudge hrest ih =>
      intro record hmem
      rcases List.mem_append.mp hmem with hmem | hmem
      · cases outcome with
        | none => contradiction
        | some found =>
            obtain rfl := List.mem_singleton.mp hmem
            exact ⟨candidate, List.mem_cons_self, (Task.judged_of_judge hjudge).found.1⟩
      · obtain ⟨other, hother, hyields⟩ := ih record hmem
        exact ⟨other, List.mem_cons_of_mem candidate hother, hyields⟩

/-- Without a record nothing more is seen. -/
theorem seen_eq (hpasses : task.Passes seen candidates [] seen') : seen' = seen := by
  generalize hrecords : ([] : List Record) = records at hpasses
  induction hpasses with
  | nil => rfl
  | @cons seen next last candidate outcome rest records hjudge _ ih =>
      obtain ⟨houtcome, hrest⟩ := List.append_eq_nil_iff.mp hrecords.symm
      obtain rfl : outcome = none := by
        cases outcome with
        | none => rfl
        | some record => cases houtcome
      obtain ⟨rfl, _⟩ := (Task.judged_of_judge hjudge).passed_over
      exact ih hrest.symm

/-- What is accounted for is passed over as a whole. -/
theorem of_covered (hcovered : ∀ candidate ∈ candidates, task.Covered seen candidate) :
    task.Passes seen candidates [] seen := by
  induction candidates with
  | nil => exact .nil
  | cons candidate rest ih =>
      obtain ⟨hfirst, hrest⟩ := List.forall_mem_cons.mp hcovered
      exact .cons hfirst.judge_eq (ih hrest)

/-- Two lists of candidates dealt with one after the other. -/
theorem append {after : Seen} {left : List Candidate} {others : List Record}
    (hpasses : task.Passes seen candidates records seen')
    (hleft : task.Passes seen' left others after) :
    task.Passes seen (candidates ++ left) (records ++ others) after := by
  induction hpasses with
  | nil => exact hleft
  | cons hjudge _ ih =>
      rw [List.append_assoc]
      exact .cons hjudge (ih hleft)

/-- Records that have been found have distinct paths. -/
theorem nodup (hpasses : task.Passes seen candidates records seen') :
    (records.map (·.path)).Nodup := by
  induction hpasses with
  | nil => exact List.nodup_nil
  | @cons seen next last candidate outcome rest records hjudge hrest ih =>
      cases outcome with
      | none => exact ih
      | some record =>
          obtain ⟨_, _, hself, _⟩ := (Task.judged_of_judge hjudge).found
          refine List.nodup_cons.mpr ⟨fun hagain => ?_, ih⟩
          obtain ⟨other, hother, hpath⟩ := List.mem_map.mp hagain
          exact (hrest.recorded other hother).1 (hpath ▸ hself)

/-- A search goes on behind what has been dealt with. -/
theorem advance_eq (hpasses : task.Passes seen candidates records seen') (ending : Option Fault)
    (left : List Candidate) :
    ∃ warnings, task.advance ending seen none (candidates ++ left) =
      (task.advance ending seen' none left).after records warnings := by
  have hlimit : (none : Option Nat) ≠ some 0 := by
    rintro ⟨⟩
  induction hpasses with
  | nil => exact ⟨[], rfl⟩
  | @cons seen next last candidate outcome rest records hjudge _ ih =>
      obtain ⟨warnings, hrest⟩ := ih
      refine ⟨(task.judge seen candidate).warnings ++ warnings, ?_⟩
      rw [List.cons_append]
      cases outcome with
      | none =>
          rw [advance_passed hlimit hjudge, hrest]
          simp [Progress.after]
      | some record =>
          rw [advance_found hlimit hjudge, Option.map_none, hrest]
          simp [Progress.after]

end Task.Passes

/-- Where a search stops: at a candidate that cannot be judged, or at its end. -/
inductive Task.Stops (task : Task) (ending : Option Fault) (seen : Seen) (fault : Option Fault) :
    List Candidate → Prop where
  | atCandidate {candidate : Candidate} {rest : List Candidate} {cause : Fault}
      (hjudge : (task.judge seen candidate).result = .error cause) (hfault : fault = some cause) :
      Stops task ending seen fault (candidate :: rest)
  | atEnd (hfault : fault = ending) : Stops task ending seen fault []

/-- A search deals with candidates until it stops. -/
theorem Task.exists_passes (task : Task) (ending : Option Fault) (seen : Seen)
    (candidates : List Candidate) :
    let progress := task.advance ending seen none candidates
    ∃ dealt left, candidates = dealt ++ left ∧
      task.Passes seen dealt progress.records progress.seen ∧
      task.Stops ending progress.seen progress.fault left := by
  have hlimit : (none : Option Nat) ≠ some 0 := by
    rintro ⟨⟩
  induction candidates generalizing seen with
  | nil => exact ⟨[], [], rfl, .nil, .atEnd rfl⟩
  | cons candidate rest ih =>
      cases hjudge : (task.judge seen candidate).result with
      | error cause =>
          rw [advance_failed hlimit hjudge]
          exact ⟨[], candidate :: rest, rfl, .nil, .atCandidate hjudge rfl⟩
      | ok verdict =>
          obtain ⟨outcome, next⟩ := verdict
          obtain ⟨dealt, left, hsplit, hpasses, hstops⟩ := ih next
          have hpasses' := Task.Passes.cons hjudge hpasses
          refine ⟨candidate :: dealt, left, by rw [hsplit, List.cons_append], ?_⟩
          cases outcome with
          | none =>
              rw [advance_passed hlimit hjudge]
              exact ⟨hpasses', hstops⟩
          | some record =>
              rw [advance_found hlimit hjudge]
              exact ⟨hpasses', hstops⟩

/-- The candidates of a search that begins with some records and has some answer to its query. -/
def candidatesOf (carried : List Record) (answer : Answer) : List Candidate :=
  carried.map .carried ++ answer.rows.map .row

variable {ask : Query.Statement → Answer} {carried : List Record}

/-- A search to the end has the fault of its stream and has seen what its stream has; without a
fault it has the records of its stream. -/
theorem Task.find_stream (task : Task) (ask : Query.Statement → Answer) (carried : List Record)
    (seen : Seen) :
    (task.find ask carried seen).fault = (task.stream ask carried seen none).fault ∧
      (task.find ask carried seen).seen = (task.stream ask carried seen none).seen ∧
      (task.find ask carried seen).records =
        if (task.stream ask carried seen none).fault.isSome then []
        else (task.stream ask carried seen none).records := by
  rw [Task.find]
  split
  · exact ⟨rfl, rfl, rfl⟩
  · exact ⟨rfl, rfl, rfl⟩

/-- A search whose query compiles goes through its candidates. -/
theorem Task.stream_of_compile {statement : Query.Statement}
    (hcompile : Query.compile task.criteria = .ok statement) :
    task.stream ask carried seen none =
      task.advance (ask statement).fault seen none (candidatesOf carried (ask statement)) := by
  simp [Task.stream, Task.start, hcompile, ok_bind, pure, Except.pure, Cursor.take, candidatesOf]

/-- A search whose query does not compile has not begun. -/
theorem Task.stream_of_not_compile {fault : Fault}
    (hcompile : Query.compile task.criteria = .error fault) :
    task.stream ask carried seen none = ⟨[], [], some fault, seen, .closed task⟩ := by
  simp [Task.stream, Task.start, hcompile, bind, Except.bind]

/-- A search that succeeds deals with all its candidates. -/
theorem Task.passes_of_find (hfault : (task.find ask carried seen).fault = none) :
    ∃ statement, Query.compile task.criteria = .ok statement ∧ (ask statement).fault = none ∧
      task.Passes seen (candidatesOf carried (ask statement)) (task.find ask carried seen).records
        (task.find ask carried seen).seen := by
  obtain ⟨hfind, hseen, hrecords⟩ := task.find_stream ask carried seen
  rw [hfind] at hfault
  rw [if_neg (by simp [hfault])] at hrecords
  rw [hseen, hrecords]
  cases hcompile : Query.compile task.criteria with
  | error fault =>
      rw [task.stream_of_not_compile hcompile] at hfault
      cases hfault
  | ok statement =>
      rw [task.stream_of_compile hcompile] at hfault ⊢
      obtain ⟨dealt, left, hsplit, hpasses, hstops⟩ :=
        task.exists_passes (ask statement).fault seen (candidatesOf carried (ask statement))
      cases hstops with
      | atCandidate _ hcause =>
          rw [hfault] at hcause
          cases hcause
      | atEnd hending =>
          rw [List.append_nil] at hsplit
          exact ⟨statement, rfl, hending.symm.trans hfault, hsplit ▸ hpasses⟩

/-- A search that can deal with all its candidates succeeds. -/
theorem Task.find_of_passes {statement : Query.Statement}
    (hcompile : Query.compile task.criteria = .ok statement) (hanswer : (ask statement).fault = none)
    (hpasses : task.Passes seen (candidatesOf carried (ask statement)) records seen') :
    (task.find ask carried seen).fault = none ∧
      (task.find ask carried seen).records = records := by
  obtain ⟨hfind, -, hrecords⟩ := task.find_stream ask carried seen
  obtain ⟨warnings, hstream⟩ := hpasses.advance_eq (ask statement).fault []
  rw [List.append_nil, ← task.stream_of_compile hcompile, hanswer] at hstream
  rw [hfind, hrecords, hstream]
  simp [Task.advance, Progress.after]

end Search

end PhotoCatalog
