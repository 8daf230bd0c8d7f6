import PhotoCatalog.Proofs.Search.Repeat

/-!
Searches that fail.  A search that ends with a fault returns no records, but what it has seen stays
seen.  The records that it had found are lost: repeated with what has been seen once the cause of
the fault is removed, the search returns the full result without them.
-/

namespace PhotoCatalog.Search

open PhotoCatalog.Catalog PhotoCatalog.Number

variable {task : Task} {ask : Query.Statement → Answer} {carried : List Record} {seen : Seen}

/-- Repeated from what has been seen, a search returns what comes behind the candidates that have
been dealt with. -/
theorem Task.Passes.find_eq {dealt left : List Candidate} {lost : List Record} {after : Seen}
    (hpasses : task.Passes seen dealt lost after) {statement : Query.Statement}
    (hcompile : Query.compile task.criteria = .ok statement)
    (hcandidates : candidatesOf carried (ask statement) = dealt ++ left)
    (hfault : (task.find ask carried seen).fault = none) :
    (task.find ask carried after).fault = none ∧
      (task.find ask carried seen).records =
        lost ++ (task.find ask carried after).records := by
  obtain ⟨warnings, hfull⟩ := hpasses.advance_eq (ask statement).fault left
  obtain ⟨passed, hrepeated⟩ :=
    (Task.Passes.of_covered hpasses.covered).advance_eq (ask statement).fault left
  rw [← hcandidates] at hfull hrepeated
  obtain ⟨hfault₁, -, hrecords₁⟩ := task.find_stream ask carried seen
  obtain ⟨hfault₂, -, hrecords₂⟩ := task.find_stream ask carried after
  have hstream₁ : task.stream ask carried seen none = _ :=
    (task.stream_of_compile hcompile).trans hfull
  have hstream₂ : task.stream ask carried after none = _ :=
    (task.stream_of_compile hcompile).trans hrepeated
  rw [hfault₁, hstream₁] at hfault
  have hrest : (task.advance (ask statement).fault after none left).fault = none := hfault
  rw [hfault₂, hrecords₁, hrecords₂, hstream₁, hstream₂]
  simp [Progress.after, hrest]

/-- A search that fails returns nothing, and nothing more is seen after it exactly when it had found
no record before the fault.  Otherwise the records it had found are lost: they are seen, and once
the rows up to the fault are followed by others, the search repeated from there returns the full
result without them. -/
theorem failed_search_loses_records (hfault : (task.find ask carried seen).fault ≠ none) :
    let lost := (task.stream ask carried seen none).records
    let after := (task.find ask carried seen).seen
    (task.find ask carried seen).records = [] ∧ (after = seen ↔ lost = []) ∧
      (∀ record ∈ lost, record.path ∉ seen.paths ∧ record.path ∈ after.paths) ∧
      ∀ statement, Query.compile task.criteria = .ok statement →
        ∃ dealt left, candidatesOf carried (ask statement) = dealt ++ left ∧
          task.Stops (ask statement).fault after (task.find ask carried seen).fault left ∧
          (∀ path ∈ after.paths, path ∈ seen.paths ∨ ∃ record ∈ lost, ∃ candidate ∈ dealt,
            task.Yields record candidate ∧ task.Belongs path record candidate) ∧
          ∀ mended others, candidatesOf carried (mended statement) = dealt ++ others →
            (task.find mended carried seen).fault = none →
              (task.find mended carried after).fault = none ∧
              (task.find mended carried seen).records =
                lost ++ (task.find mended carried after).records := by
  intro lost after
  obtain ⟨hfind, hseen, hrecords⟩ := task.find_stream ask carried seen
  have hsome : (task.stream ask carried seen none).fault.isSome = true :=
    Option.isSome_iff_ne_none.mpr (hfind ▸ hfault)
  rw [if_pos hsome] at hrecords
  refine ⟨hrecords, ?_⟩
  cases hcompile : Query.compile task.criteria with
  | error fault =>
      have hstream : task.stream ask carried seen none = _ := task.stream_of_not_compile hcompile
      have hlost : lost = [] := congrArg Progress.records hstream
      have hafter : after = seen := hseen.trans (congrArg Progress.seen hstream)
      rw [hlost, hafter]
      exact ⟨iff_of_true rfl rfl, List.forall_mem_nil _, nofun⟩
  | ok statement =>
      obtain ⟨dealt, left, hsplit, hpasses, hstops⟩ :=
        task.exists_passes (ask statement).fault seen (candidatesOf carried (ask statement))
      have hstream : task.stream ask carried seen none = _ := task.stream_of_compile hcompile
      rw [← hstream, ← hseen] at hpasses
      rw [← hstream, ← hseen, ← hfind] at hstops
      refine ⟨⟨fun hsame => ?_, fun hlost => ?_⟩, hpasses.recorded, ?_⟩
      · rw [List.eq_nil_iff_forall_not_mem]
        intro record hrecord
        obtain ⟨hnew, hself⟩ := hpasses.recorded record hrecord
        exact hnew (hsame ▸ hself)
      · have hnothing : (task.stream ask carried seen none).records = [] := hlost
        rw [hnothing] at hpasses
        exact hpasses.seen_eq
      · rintro _ ⟨⟩
        refine ⟨dealt, left, hsplit, hstops, hpasses.explained, ?_⟩
        intro mended others hcandidates hnone
        exact hpasses.find_eq hcompile hcandidates hnone

/-- A search for all images. -/
def everything : Task := ⟨.empty, false, ⟨[]⟩⟩

/-- An answer of two rows, of which the second one cannot be read: the sensitivity of its image is
infinite. -/
def spoiled : Answer :=
  ⟨[[("path", .text "a.jpg")], [("path", .text "b.jpg"), ("iso", .float infinity)]], none⟩

/-- The answer without the sensitivity. -/
def mended : Answer := ⟨[[("path", .text "a.jpg")], [("path", .text "b.jpg")]], none⟩

/-- A search that stops behind the first row at the earliest, and not at the end, has dealt with that
row. -/
theorem Task.Stops.dealt_eq {ending fault : Option Fault} {after : Seen} {first second : Candidate}
    {dealt left : List Candidate} (hstops : task.Stops ending after fault left)
    (hsplit : [first, second] = dealt ++ left) (hending : fault ≠ ending)
    (hfirst : (task.judge after first).result.isOk = true) : dealt = [first] := by
  cases hstops with
  | atEnd hfault => exact absurd hfault hending
  | atCandidate hjudge _ =>
      rcases dealt with _ | ⟨head, _ | ⟨next, rest⟩⟩
      · obtain ⟨rfl, -⟩ := List.cons.inj hsplit
        rw [hjudge] at hfirst
        cases hfirst
      · obtain ⟨rfl, -⟩ := List.cons.inj hsplit
        rfl
      · simp at hsplit

/-- A search that fails at the second row has lost the record of the first one. -/
theorem failed_search_loses_first_row :
    (everything.find (fun _ => spoiled) [] .empty).fault ≠ none ∧
      (everything.find (fun _ => mended) [] .empty).fault = none ∧
      (everything.find (fun _ => mended) [] .empty).records =
        (everything.stream (fun _ => spoiled) [] .empty none).records ++
          (everything.find (fun _ => mended) []
            (everything.find (fun _ => spoiled) [] .empty).seen).records := by
  have hfault : (everything.find (fun _ => spoiled) [] .empty).fault ≠ none := by decide +kernel
  have hmended : (everything.find (fun _ => mended) [] .empty).fault = none := by decide +kernel
  have hfirst : (everything.judge (everything.find (fun _ => spoiled) [] .empty).seen
      (.row [("path", .text "a.jpg")])).result.isOk = true := by decide +kernel
  obtain ⟨statement, hcompile, -⟩ := Task.passes_of_find hmended
  obtain ⟨-, -, -, hrepeated⟩ := failed_search_loses_records hfault
  obtain ⟨dealt, left, hsplit, hstops, -, hrest⟩ := hrepeated statement hcompile
  obtain rfl := hstops.dealt_eq hsplit hfault hfirst
  exact ⟨hfault, hmended,
    (hrest (fun _ => mended) [.row [("path", .text "b.jpg")]] rfl hmended).2⟩

/-- It is not as if the search had not been: its first row stays seen, and repeated with an answer
that can be read it returns the second row alone. -/
theorem failed_search_keeps_first_row :
    let first := everything.find (fun _ => spoiled) [] .empty
    first.fault ≠ none ∧ first.seen ≠ .empty ∧
      (everything.find (fun _ => mended) [] .empty).records.map (·.path) = ["a.jpg", "b.jpg"] ∧
      (everything.find (fun _ => mended) [] first.seen).records.map (·.path) = ["b.jpg"] := by
  decide +kernel

end PhotoCatalog.Search
