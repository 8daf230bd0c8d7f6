import Mathlib.Data.List.Nodup
import Mathlib.Logic.Function.Basic
import PhotoCatalog.Proofs.Search.Turn

/-!
Searches that share what they have seen.  Any number of searches over one catalog may take turns in
any order, and each of them may be closed at any time.  Still no path is returned twice, nothing is
taken for seen that does not belong to a returned record, and a search that has come to its end has
lost nothing.
-/

namespace PhotoCatalog.Search

open PhotoCatalog.Catalog

/-- A search to take part: what it looks for, whether it embeds images, and the records that it
begins with. -/
structure Plan where
  criteria : Criteria
  embeds : Bool
  carried : List Record

/-- How far a search has come.  One that ended with a fault is closed. -/
inductive Stage where
  | waiting
  | running (cursor : Cursor)
  | exhausted
  | closed

/-- What a search answers when it is asked for its next record. -/
structure Turn where
  record : Option Record
  seen : Seen
  stage : Stage

/-- The turn that a part of a search up to its next record amounts to. -/
def Turn.ofProgress (progress : Progress) : Turn :=
  match progress.fault, progress.records with
  | some _, _ => ⟨none, progress.seen, .closed⟩
  | none, [] => ⟨none, progress.seen, .exhausted⟩
  | none, record :: _ => ⟨some record, progress.seen, .running progress.cursor⟩

/-- A search in the middle is closed; one that has ended has ended. -/
def Stage.close : Stage → Stage
  | .exhausted => .exhausted
  | _ => .closed

/-- What can be asked of one of the searches. -/
inductive Action (ι : Type) where
  | next (i : ι)
  | close (i : ι)

/-- Searches that share what they have seen, with the records that they have returned so far, first
one first. -/
structure Shared (ι : Type) where
  seen : Seen
  stage : ι → Stage
  returned : List (ι × Record)

section

variable (ask : Query.Statement → Answer) (folder : Image.Folder)

/-- The task of a search. -/
def Plan.task (plan : Plan) : Task := ⟨plan.criteria, plan.embeds, folder⟩

/-- Ask a search for its next record.  It begins when it is asked for the first time. -/
def Plan.turn (plan : Plan) (seen : Seen) : Stage → Turn
  | .waiting =>
    match (plan.task folder).start ask plan.carried with
    | .error _ => ⟨none, seen, .closed⟩
    | .ok cursor => .ofProgress (cursor.next seen)
  | .running cursor => .ofProgress (cursor.next seen)
  | stage => ⟨none, seen, stage⟩

variable {ι : Type} [DecidableEq ι] (plan : ι → Plan)

/-- Ask something of one of the searches. -/
def Shared.step (s : Shared ι) : Action ι → Shared ι
  | .next i =>
    let turn := (plan i).turn ask folder s.seen (s.stage i)
    { seen := turn.seen
      stage := Function.update s.stage i turn.stage
      returned := s.returned ++ turn.record.toList.map fun record => (i, record) }
  | .close i => { s with stage := Function.update s.stage i (s.stage i).close }

/-- Ask one thing after the other, beginning with some paths seen. -/
def Shared.run (seen : Seen) (actions : List (Action ι)) : Shared ι :=
  actions.foldl (Shared.step ask folder plan) ⟨seen, fun _ => .waiting, []⟩

/-- A candidate of a search: a record that it begins with, or a row of the answer to its query. -/
def Plan.Considers (plan : Plan) (candidate : Candidate) : Prop :=
  ∃ cursor, (plan.task folder).start ask plan.carried = .ok cursor ∧ candidate ∈ cursor.candidates

/-- A path belongs to a record that a search has returned, or to the candidate that it came of. -/
def Plan.Explains (plan : Plan) (path : String) (record : Record) : Prop :=
  ∃ candidate, plan.Considers ask folder candidate ∧ (plan.task folder).Yields record candidate ∧
    (plan.task folder).Belongs path record candidate

/-- A search that has come to its end has lost nothing. -/
def Plan.Complete (plan : Plan) (seen : Seen) : Prop :=
  ∃ statement, Query.compile plan.criteria = .ok statement ∧ (ask statement).fault = none ∧
    (∀ record ∈ plan.carried, record.path ∈ seen.paths) ∧
    ∀ row ∈ (ask statement).rows, ∃ record, (Record.ofRow row).result = .ok record ∧
      ((plan.task folder).keeps record = true → record.path ∈ seen.paths ∨
        ∃ address, (Image.embed folder record.path).result = .ok address ∧ address ∈ seen.paths)

/-- A search in the middle: the candidates it has dealt with are accounted for. -/
def Plan.Underway (plan : Plan) (seen : Seen) (cursor : Cursor) : Prop :=
  ∃ start passed, (plan.task folder).start ask plan.carried = .ok start ∧
    start.candidates = passed ++ cursor.candidates ∧ cursor.ending = start.ending ∧
    cursor.task = plan.task folder ∧
    ∀ candidate ∈ passed, (plan.task folder).Covered seen candidate

/-- What is known of a search at each stage. -/
def Plan.Sound (plan : Plan) (seen : Seen) : Stage → Prop
  | .running cursor => plan.Underway ask folder seen cursor
  | .exhausted => plan.Complete ask folder seen
  | _ => True

/-- What holds however the searches are interleaved. -/
structure Shared.Consistent (initial : Seen) (s : Shared ι) : Prop where
  distinct : (s.returned.map (·.2.path)).Nodup
  unseen : ∀ i record, (i, record) ∈ s.returned → record.path ∉ initial.paths
  kept : initial.paths ⊆ s.seen.paths
  recorded : ∀ i record, (i, record) ∈ s.returned → record.path ∈ s.seen.paths
  explained : ∀ path ∈ s.seen.paths, path ∈ initial.paths ∨
    ∃ i record, (i, record) ∈ s.returned ∧ (plan i).Explains ask folder path record
  sound : ∀ i, (plan i).Sound ask folder s.seen (s.stage i)

end

variable {ask : Query.Statement → Answer} {folder : Image.Folder}

theorem start_eq_ok {plan : Plan} {cursor : Cursor}
    (hstart : (plan.task folder).start ask plan.carried = .ok cursor) :
    cursor.task = plan.task folder ∧ ∃ statement, Query.compile plan.criteria = .ok statement ∧
      cursor.candidates = plan.carried.map .carried ++ (ask statement).rows.map .row ∧
      cursor.ending = (ask statement).fault := by
  obtain ⟨statement, hcompile, hstart⟩ := bind_eq_ok.mp hstart
  simp only [pure_eq_ok] at hstart
  subst hstart
  exact ⟨rfl, statement, hcompile, rfl, rfl⟩

/-- More may be seen without harm. -/
theorem Plan.Sound.mono {plan : Plan} {seen seen' : Seen} {stage : Stage}
    (hsound : plan.Sound ask folder seen stage) (hsub : seen.paths ⊆ seen'.paths) :
    plan.Sound ask folder seen' stage := by
  cases stage with
  | waiting | closed => trivial
  | running cursor =>
      obtain ⟨start, passed, hstart, hsplit, hending, htask, hcovered⟩ := hsound
      exact ⟨start, passed, hstart, hsplit, hending, htask,
        fun candidate hmem => (hcovered candidate hmem).mono hsub⟩
  | exhausted =>
      obtain ⟨statement, hcompile, hfault, hcarried, hrows⟩ := hsound
      refine ⟨statement, hcompile, hfault, fun record hmem => hsub (hcarried record hmem), ?_⟩
      intro row hrow
      have hcovered : (plan.task folder).Covered seen (.row row) := hrows row hrow
      exact hcovered.mono hsub

/-- A search whose candidates are all accounted for has lost nothing. -/
theorem Plan.complete_of_covered {plan : Plan} {seen : Seen} {cursor : Cursor}
    (hstart : (plan.task folder).start ask plan.carried = .ok cursor)
    (hending : cursor.ending = none)
    (hcovered : ∀ candidate ∈ cursor.candidates, (plan.task folder).Covered seen candidate) :
    plan.Complete ask folder seen := by
  obtain ⟨_, statement, hcompile, hcandidates, hfault⟩ := start_eq_ok hstart
  refine ⟨statement, hcompile, hfault ▸ hending, fun record hrecord => ?_, fun row hrow => ?_⟩
  · exact hcovered (.carried record)
      (hcandidates ▸ List.mem_append_left _ (List.mem_map_of_mem hrecord))
  · exact hcovered (.row row) (hcandidates ▸ List.mem_append_right _ (List.mem_map_of_mem hrow))

/-- What a turn may do: nothing but end the search, or return a new record. -/
structure Plan.Fair (ask : Query.Statement → Answer) (folder : Image.Folder) (plan : Plan)
    (seen : Seen) (turn : Turn) : Prop where
  sound : plan.Sound ask folder turn.seen turn.stage
  silent : turn.record = none → turn.seen = seen
  found : ∀ record, turn.record = some record → record.path ∉ seen.paths ∧
    record.path ∈ turn.seen.paths ∧ seen.paths ⊆ turn.seen.paths ∧
    ∀ path ∈ turn.seen.paths, path ∈ seen.paths ∨ plan.Explains ask folder path record

/-- Nothing that has been seen is forgotten. -/
theorem Plan.Fair.subset {plan : Plan} {seen : Seen} {turn : Turn}
    (hfair : plan.Fair ask folder seen turn) : seen.paths ⊆ turn.seen.paths := by
  cases hrecord : turn.record with
  | none =>
      rw [hfair.silent hrecord]
      exact List.Subset.refl _
  | some record => exact (hfair.found record hrecord).2.2.1

/-- A turn of a search in the middle. -/
theorem Plan.fair_next {plan : Plan} {seen : Seen} {cursor : Cursor}
    (hunderway : plan.Underway ask folder seen cursor) :
    plan.Fair ask folder seen (.ofProgress (cursor.next seen)) := by
  obtain ⟨start, passed, hstart, hsplit, hending, htask, hcovered⟩ := hunderway
  have hturned := cursor.turned_next seen
  rw [htask] at hturned
  cases hturned with
  | failed hfault hrecords hseen =>
      obtain ⟨fault, hfault⟩ := Option.ne_none_iff_exists'.mp hfault
      exact ⟨by simp [Turn.ofProgress, hfault, Plan.Sound],
        by simp [Turn.ofProgress, hfault, hseen],
        by simp [Turn.ofProgress, hfault]⟩
  | ended hfault hnone hrecords hseen hrest =>
      have hcomplete : plan.Complete ask folder seen := by
        refine Plan.complete_of_covered hstart (hending ▸ hnone) fun candidate hmem => ?_
        rw [hsplit] at hmem
        rcases List.mem_append.mp hmem with hmem | hmem
        · exact hcovered candidate hmem
        · exact hrest candidate hmem
      refine ⟨?_, by simp [Turn.ofProgress, hfault, hrecords, hseen],
        by simp [Turn.ofProgress, hfault, hrecords]⟩
      simpa [Turn.ofProgress, hfault, hrecords, hseen, Plan.Sound] using hcomplete
  | @found hfault skipped candidate rest record hrecords hcandidates hskipped hjudged hcursor =>
      obtain ⟨hyields, hnew, hself, hsub, hdone, hbelongs⟩ := hjudged.found
      have hturn : Turn.ofProgress (cursor.next seen) =
          ⟨some record, (cursor.next seen).seen,
            .running ⟨plan.task folder, rest, cursor.ending⟩⟩ := by
        simp [Turn.ofProgress, hfault, hrecords, hcursor]
      have hconsiders : plan.Considers ask folder candidate := by
        refine ⟨start, hstart, ?_⟩
        rw [hsplit, hcandidates]
        simp
      rw [hturn]
      refine ⟨⟨start, passed ++ (skipped ++ [candidate]), hstart, ?_, hending, rfl, ?_⟩, by simp,
        ?_⟩
      · simp [hsplit, hcandidates]
      · intro other hmem
        simp only [List.mem_append, List.mem_singleton] at hmem
        rcases hmem with hmem | hmem | rfl
        · exact (hcovered other hmem).mono hsub
        · exact (hskipped other hmem).mono hsub
        · exact hdone
      · intro other hother
        obtain rfl := Option.some.inj hother
        refine ⟨hnew, hself, hsub, fun path hpath => ?_⟩
        rcases hbelongs path hpath with hold | hbelongs
        · exact Or.inl hold
        · exact Or.inr ⟨candidate, hconsiders, hyields, hbelongs⟩

/-- Every turn is fair. -/
theorem Plan.fair_turn {plan : Plan} {seen : Seen} {stage : Stage}
    (hsound : plan.Sound ask folder seen stage) :
    plan.Fair ask folder seen (plan.turn ask folder seen stage) := by
  cases stage with
  | waiting =>
      rw [Plan.turn]
      split
      · exact ⟨trivial, fun _ => rfl, by simp⟩
      · rename_i cursor hstart
        have htask := (start_eq_ok hstart).1
        exact Plan.fair_next ⟨cursor, [], hstart, rfl, rfl, htask, by simp⟩
  | running cursor => exact Plan.fair_next hsound
  | exhausted => exact ⟨hsound, fun _ => rfl, by simp [Plan.turn]⟩
  | closed => exact ⟨trivial, fun _ => rfl, by simp [Plan.turn]⟩

variable {ι : Type} [DecidableEq ι] {plan : ι → Plan} {initial : Seen}

/-- Closing a search keeps what holds. -/
theorem Shared.close_consistent {s : Shared ι} (h : s.Consistent ask folder plan initial) (i : ι) :
    (s.step ask folder plan (.close i)).Consistent ask folder plan initial := by
  refine { h with sound := fun j => ?_ }
  change (plan j).Sound ask folder s.seen (Function.update s.stage i (s.stage i).close j)
  by_cases hsame : j = i
  · subst hsame
    rw [Function.update_self]
    have hsound := h.sound j
    cases hstage : s.stage j with
    | exhausted => rwa [hstage] at hsound
    | waiting | running _ | closed => trivial
  · rw [Function.update_of_ne hsame]
    exact h.sound j

/-- A fair turn of one search leaves what is known of all of them sound. -/
theorem Shared.Consistent.sound_update {s : Shared ι} (h : s.Consistent ask folder plan initial)
    {i : ι} {turn : Turn} (hfair : (plan i).Fair ask folder s.seen turn) (j : ι) :
    (plan j).Sound ask folder turn.seen (Function.update s.stage i turn.stage j) := by
  by_cases hsame : j = i
  · subst hsame
    rw [Function.update_self]
    exact hfair.sound
  · rw [Function.update_of_ne hsame]
    exact (h.sound j).mono hfair.subset

/-- Returning a new record keeps what holds. -/
theorem Shared.Consistent.returning {s : Shared ι} (h : s.Consistent ask folder plan initial)
    {i : ι} {turn : Turn} {record : Record} (hfair : (plan i).Fair ask folder s.seen turn)
    (hrecord : turn.record = some record) :
    Shared.Consistent ask folder plan initial
      ⟨turn.seen, Function.update s.stage i turn.stage, s.returned ++ [(i, record)]⟩ := by
  obtain ⟨hnew, hself, hsub, hexplained⟩ := hfair.found record hrecord
  have hmem : ∀ j other, (j, other) ∈ s.returned ++ [(i, record)] ↔
      (j, other) ∈ s.returned ∨ j = i ∧ other = record := by
    simp
  refine ⟨?_, fun j other hother => ?_, fun path hpath => hsub (h.kept hpath),
    fun j other hother => ?_, fun path hpath => ?_, h.sound_update hfair⟩
  · rw [List.map_append, List.nodup_append]
    refine ⟨h.distinct, List.nodup_singleton _, ?_⟩
    intro path hpath other hother
    obtain ⟨⟨j, old⟩, hold, rfl⟩ := List.mem_map.mp hpath
    rw [List.mem_singleton.mp hother]
    intro hsame
    have hpath : old.path = record.path := hsame
    exact hnew (hpath ▸ h.recorded j old hold)
  · rcases (hmem j other).mp hother with hold | ⟨_, rfl⟩
    · exact h.unseen j other hold
    · exact fun hinitial => hnew (h.kept hinitial)
  · rcases (hmem j other).mp hother with hold | ⟨_, rfl⟩
    · exact hsub (h.recorded j other hold)
    · exact hself
  · rcases hexplained path hpath with hold | hexplains
    · rcases h.explained path hold with hinitial | ⟨j, other, hother, hexplains⟩
      · exact Or.inl hinitial
      · exact Or.inr ⟨j, other, (hmem j other).mpr (Or.inl hother), hexplains⟩
    · exact Or.inr ⟨i, record, (hmem i record).mpr (Or.inr ⟨rfl, rfl⟩), hexplains⟩

/-- One action keeps what holds. -/
theorem Shared.step_consistent {s : Shared ι} (h : s.Consistent ask folder plan initial)
    (action : Action ι) : (s.step ask folder plan action).Consistent ask folder plan initial := by
  cases action with
  | close i => exact s.close_consistent h i
  | next i =>
      have hfair := Plan.fair_turn (h.sound i)
      rw [Shared.step]
      generalize (plan i).turn ask folder s.seen (s.stage i) = turn at hfair
      cases hrecord : turn.record with
      | none =>
          have hsound := h.sound_update hfair
          rw [hfair.silent hrecord] at hsound
          simp only [hfair.silent hrecord, Option.toList_none, List.map_nil, List.append_nil]
          exact { h with sound := hsound }
      | some record => exact h.returning hfair hrecord

/-- Whatever is asked of the searches and in which order, it stays so. -/
theorem Shared.run_consistent (initial : Seen) (actions : List (Action ι)) :
    (Shared.run ask folder plan initial actions).Consistent ask folder plan initial := by
  have hfold : ∀ s : Shared ι, s.Consistent ask folder plan initial →
      (actions.foldl (Shared.step ask folder plan) s).Consistent ask folder plan initial := by
    -- What one step keeps, a run keeps.
    induction actions with
    | nil => exact fun s h => h
    | cons action rest ih => exact fun s h => ih _ (s.step_consistent h action)
  refine hfold _ ⟨List.nodup_nil, by simp, List.Subset.refl _, by simp, ?_, fun i => trivial⟩
  exact fun path hpath => Or.inl hpath

/-- Searches over one catalog that share what they have seen, interleaved in any way: no path is
returned twice or although it had been seen before, whatever is seen belongs to a returned record,
and a search that has come to its end has lost nothing. -/
theorem interleaved_searches_share_paths (ask : Query.Statement → Answer) (folder : Image.Folder)
    (plan : ι → Plan) (initial : Seen) (actions : List (Action ι)) :
    let s := Shared.run ask folder plan initial actions
    (s.returned.map (·.2.path)).Nodup ∧
      (∀ i record, (i, record) ∈ s.returned → record.path ∉ initial.paths) ∧
      (∀ path ∈ s.seen.paths, path ∈ initial.paths ∨
        ∃ i record, (i, record) ∈ s.returned ∧ (plan i).Explains ask folder path record) ∧
      ∀ i, s.stage i = .exhausted → (plan i).Complete ask folder s.seen := by
  intro s
  have h : s.Consistent ask folder plan initial := Shared.run_consistent initial actions
  refine ⟨h.distinct, h.unseen, h.explained, fun i hexhausted => ?_⟩
  have hsound := h.sound i
  rwa [hexhausted] at hsound

end PhotoCatalog.Search
