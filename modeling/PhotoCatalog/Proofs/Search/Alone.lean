import PhotoCatalog.Proofs.Search.Sharing

/-!
A search that is asked for its next record again and again, while no other search is asked for
anything, returns what a stream of as many records returns, and leaves the same paths seen.
-/

namespace PhotoCatalog.Search

open PhotoCatalog.Catalog

/-- A part of a search is its first turn and, after a record, what follows it. -/
theorem advance_succ (task : Task) (ending : Option Fault) (n : Nat) (seen : Seen)
    (candidates : List Candidate) :
    let first := task.advance ending seen (some 1) candidates
    let whole := task.advance ending seen (some (n + 1)) candidates
    if first.records = [] then whole.records = [] ∧ whole.seen = first.seen
    else whole.records = first.records ++ (first.cursor.take (some n) first.seen).records ∧
      whole.seen = (first.cursor.take (some n) first.seen).seen := by
  -- A candidate that is passed over changes nothing, so that the rest decides.
  induction candidates with
  | nil => simp [Task.advance]
  | cons candidate rest ih =>
      have hlimit : ∀ m : Nat, some (m + 1) ≠ some 0 := by
        rintro m ⟨⟩
      cases hjudge : (task.judge seen candidate).result with
      | error fault =>
          simp [advance_failed (hlimit n) hjudge, advance_failed (hlimit 0) hjudge]
      | ok verdict =>
          obtain ⟨outcome, seen'⟩ := verdict
          cases outcome with
          | none =>
              rw [advance_passed (hlimit n) hjudge, advance_passed (hlimit 0) hjudge]
              obtain ⟨rfl, _⟩ := (Task.judged_of_judge hjudge).passed_over
              simpa [Progress.after] using ih
          | some record =>
              rw [advance_found (hlimit n) hjudge, advance_found (hlimit 0) hjudge]
              simp [Progress.after, Task.advance, Cursor.take]

theorem Cursor.take_succ (cursor : Cursor) (n : Nat) (seen : Seen) :
    if (cursor.next seen).records = [] then
      (cursor.take (some (n + 1)) seen).records = [] ∧
        (cursor.take (some (n + 1)) seen).seen = (cursor.next seen).seen
    else (cursor.take (some (n + 1)) seen).records = (cursor.next seen).records ++
        ((cursor.next seen).cursor.take (some n) (cursor.next seen).seen).records ∧
      (cursor.take (some (n + 1)) seen).seen =
        ((cursor.next seen).cursor.take (some n) (cursor.next seen).seen).seen :=
  advance_succ cursor.task cursor.ending n seen cursor.candidates

variable {ask : Query.Statement → Answer} {folder : Image.Folder}
variable {ι : Type} [DecidableEq ι] {plan : ι → Plan}

/-- What the searches come to when only one of them is asked, `n` times. -/
def Shared.runAlone (ask : Query.Statement → Answer) (folder : Image.Folder) (plan : ι → Plan)
    (s : Shared ι) (i : ι) (n : Nat) : Shared ι :=
  (List.replicate n (Action.next i)).foldl (Shared.step ask folder plan) s

/-- The searches have returned some more records of one of them, and have seen what a part of it
has seen. -/
def Shared.Extends (s' s : Shared ι) (i : ι) (progress : Progress) : Prop :=
  s'.returned = s.returned ++ progress.records.map (fun record => (i, record)) ∧
    s'.seen = progress.seen

theorem Shared.runAlone_succ (s : Shared ι) (i : ι) (n : Nat) :
    s.runAlone ask folder plan i (n + 1) =
      (s.step ask folder plan (.next i)).runAlone ask folder plan i n := by
  simp [runAlone, List.replicate_succ]

/-- A search that has ended is asked in vain. -/
theorem Shared.runAlone_of_over {s : Shared ι} (i : ι)
    (hover : s.stage i = .exhausted ∨ s.stage i = .closed) (n : Nat) :
    (s.runAlone ask folder plan i n).returned = s.returned ∧
      (s.runAlone ask folder plan i n).seen = s.seen := by
  induction n generalizing s with
  | zero => exact ⟨rfl, rfl⟩
  | succ n ih =>
      rw [runAlone_succ]
      have hturn : (plan i).turn ask folder s.seen (s.stage i) = ⟨none, s.seen, s.stage i⟩ := by
        rcases hover with hstage | hstage <;> rw [hstage] <;> rfl
      have hstep : s.step ask folder plan (.next i) = s := by
        simp [Shared.step, hturn]
      rw [hstep]
      exact ih hover

/-- A turn of a search, and those after it. -/
theorem Shared.extends_succ {s : Shared ι} {i : ι} {n : Nat} {cursor : Cursor}
    (hturn : (plan i).turn ask folder s.seen (s.stage i) = .ofProgress (cursor.next s.seen))
    (ih : ∀ (s' : Shared ι) cursor', s'.stage i = .running cursor' →
      (s'.runAlone ask folder plan i n).Extends s' i (cursor'.take (some n) s'.seen)) :
    (s.runAlone ask folder plan i (n + 1)).Extends s i (cursor.take (some (n + 1)) s.seen) := by
  have hwhole := cursor.take_succ n s.seen
  have hturned := cursor.turned_next s.seen
  rw [runAlone_succ]
  generalize cursor.take (some (n + 1)) s.seen = whole at hwhole ⊢
  generalize cursor.next s.seen = first at hwhole hturned hturn
  -- A turn without a record ends the search, and all later turns are idle.
  have hover : ∀ stage, stage = .exhausted ∨ stage = .closed →
      Turn.ofProgress first = ⟨none, first.seen, stage⟩ → first.records = [] →
      ((s.step ask folder plan (.next i)).runAlone ask folder plan i n).Extends s i whole := by
    intro stage hstage hfirst hrecords
    rw [if_pos hrecords] at hwhole
    have hstep : s.step ask folder plan (.next i) =
        ⟨first.seen, Function.update s.stage i stage, s.returned⟩ := by
      simp [Shared.step, hturn, hfirst]
    rw [hstep]
    obtain ⟨hreturned, hseen⟩ :=
      (show Shared ι from
        ⟨first.seen, Function.update s.stage i stage, s.returned⟩).runAlone_of_over i
          (by simpa using hstage) n
    exact ⟨by simpa [hwhole.1] using hreturned, by simpa [hwhole.2] using hseen⟩
  cases hturned with
  | failed hfault hrecords hseen =>
      obtain ⟨fault, hfault⟩ := Option.ne_none_iff_exists'.mp hfault
      exact hover .closed (Or.inr rfl) (by simp [Turn.ofProgress, hfault]) hrecords
  | ended hfault _ hrecords hseen =>
      exact hover .exhausted (Or.inl rfl) (by simp [Turn.ofProgress, hfault, hrecords]) hrecords
  | @found hfault _ _ _ record hrecords =>
      have hfirst : Turn.ofProgress first = ⟨some record, first.seen, .running first.cursor⟩ := by
        simp [Turn.ofProgress, hfault, hrecords]
      have hstep : s.step ask folder plan (.next i) = ⟨first.seen,
          Function.update s.stage i (.running first.cursor), s.returned ++ [(i, record)]⟩ := by
        simp [Shared.step, hturn, hfirst]
      rw [hrecords, if_neg (List.cons_ne_nil _ _)] at hwhole
      obtain ⟨hreturned, hseen⟩ := ih (s.step ask folder plan (.next i)) first.cursor
        (by simp [hstep])
      rw [Extends, hreturned, hseen, hstep, hwhole.1, hwhole.2]
      simp

theorem Shared.extends_running {s : Shared ι} {i : ι} {cursor : Cursor}
    (hstage : s.stage i = .running cursor) (n : Nat) :
    (s.runAlone ask folder plan i n).Extends s i (cursor.take (some n) s.seen) := by
  -- Every turn leaves another state and another cursor: the claim is about all of them.
  induction n generalizing s cursor with
  | zero => simp [runAlone, Extends, Cursor.take, Task.advance]
  | succ n ih =>
      refine extends_succ (by rw [hstage]; rfl) ?_
      exact fun s' cursor' hstage' => ih hstage'

/-- Asked alone, a search does what its stream does. -/
theorem Shared.extends_stream {s : Shared ι} {i : ι} (hstage : s.stage i = .waiting) (n : Nat) :
    (s.runAlone ask folder plan i n).Extends s i
      (((plan i).task folder).stream ask (plan i).carried s.seen (some n)) := by
  cases n with
  | zero => simp [runAlone, Extends, Task.stream]
  | succ n =>
      rw [Task.stream, if_neg (by simp)]
      cases hstart : ((plan i).task folder).start ask (plan i).carried with
      | error fault =>
          have hstep : s.step ask folder plan (.next i) =
              ⟨s.seen, Function.update s.stage i .closed, s.returned⟩ := by
            simp [Shared.step, Plan.turn, hstage, hstart]
          rw [runAlone_succ, hstep]
          obtain ⟨hreturned, hseen⟩ :=
            (show Shared ι from
              ⟨s.seen, Function.update s.stage i .closed, s.returned⟩).runAlone_of_over i
                (by simp) n
          exact ⟨by simpa using hreturned, hseen⟩
      | ok cursor =>
          refine extends_succ (by simp [Plan.turn, hstage, hstart]) ?_
          exact fun s' cursor' hstage' => extends_running hstage' n

end PhotoCatalog.Search
