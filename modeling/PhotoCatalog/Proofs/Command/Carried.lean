import Mathlib.Data.List.SplitBy
import PhotoCatalog.Command.Run
import PhotoCatalog.Proofs.Json.Plain
import PhotoCatalog.Proofs.Record.RoundTrip
import PhotoCatalog.Proofs.Text.Padded
import PhotoCatalog.Proofs.Text.Utf8

/-!
Records carried from one command to another.  The records that a search prints as documents, one on
each line, are read back from the bytes of these lines, as long as their whole numbers keep to the
digit limit.
-/

namespace PhotoCatalog.Command

open PhotoCatalog.Json PhotoCatalog.Text

/-- Texts that stand on a line as they are: they have no line end, no blanks at their ends, and they
are not empty. -/
structure IsLine (text : String) : Prop where
  within : ∀ c ∈ text.toList, endsCarriedLine c = false
  nonempty : text ≠ ""
  trimmed : trim text = text

variable {line : String} {lines : List String}

/-- Whether two characters stand on one line. -/
def areOnOneLine (c d : Char) : Bool := !endsCarriedLine c && !endsCarriedLine d

theorem carriedLines_eq (text : String) : carriedLines text =
    ((text.toList.splitBy areOnOneLine).map fun cs => trim (String.ofList cs)).filter
      (!·.isEmpty) := rfl

/-- A line is split off with the end of line behind it. -/
theorem splitBy_line (hline : IsLine line) (rest : List Char) :
    ((line ++ "\n").toList ++ rest).splitBy areOnOneLine =
      line.toList :: ['\n'] :: rest.splitBy areOnOneLine := by
  have hend : ∀ c, areOnOneLine '\n' c = false := fun _ => rfl
  have hbefore : ∀ c, areOnOneLine c '\n' = false := fun c => Bool.and_false _
  have hchars : line.toList ≠ [] := mt String.toList_eq_nil_iff.mp hline.nonempty
  have hchain : line.toList.IsChain fun c d => areOnOneLine c d = true := by
    refine (List.pairwise_of_forall_mem_list fun c hc d hd => ?_).isChain
    rw [areOnOneLine, hline.within c hc, hline.within d hd]
    rfl
  have hnext : ('\n' :: rest).splitBy areOnOneLine = ['\n'] :: rest.splitBy areOnOneLine :=
    List.splitBy_append (l := ['\n']) fun c hc d _ => by
      cases hc
      exact hend d
  rw [String.toList_append, List.append_assoc]
  change (line.toList ++ '\n' :: rest).splitBy areOnOneLine = _
  rw [List.splitBy_append_cons rest fun c _ => hbefore c, hnext,
    List.splitBy_of_isChain hchars hchain]
  rfl

/-- Lines are read back from the text that they make up. -/
theorem carriedLines_join (hlines : ∀ line ∈ lines, IsLine line) :
    carriedLines (String.join (lines.map (· ++ "\n"))) = lines := by
  induction lines with
  | nil => rfl
  | cons line lines ih =>
      obtain ⟨hline, hrest⟩ := List.forall_mem_cons.mp hlines
      have hkept : (!line.isEmpty) = true := by simpa using hline.nonempty
      have hends : (!(trim (String.ofList ['\n'])).isEmpty) = false := by decide +kernel
      rw [carriedLines_eq, List.map_cons, String.join_cons, String.toList_append,
        splitBy_line hline]
      simp only [List.map_cons, String.ofList_toList, hline.trimmed, List.filter_cons, hkept, hends,
        if_true, Bool.false_eq_true, if_false]
      rw [← carriedLines_eq, ih hrest]

/-- The written form of a record is a line. -/
theorem isLine_document {r : Record} (hr : r.WellFormed) : IsLine (Json.write r.document) := by
  obtain ⟨xs, hxs⟩ : ∃ xs, (Json.write r.document).toList = '\x7b' :: (xs ++ ['\x7d']) := by
    rw [Record.document, write, writeWith]
    exact ⟨_, by rw [String.toList_append, String.toList_append]; rfl⟩
  have hplain := hr.readable_document.plain_write
  refine ⟨fun c hc => ?_, ?_, ?_⟩
  · have hcontrol := hplain c hc
    rw [endsCarriedLine, Bool.or_eq_false_iff, beq_eq_false_iff_ne, beq_eq_false_iff_ne]
    constructor
    · rintro rfl
      exact absurd hcontrol (by decide)
    · rintro rfl
      exact absurd hcontrol (by decide)
  · intro hempty
    rw [hempty] at hxs
    cases hxs
  · rw [trim, hxs, trimBy_eq_self rfl rfl, ← hxs, String.ofList_toList]

/-- Records are read from the lines of their documents, when these are short. -/
theorem recordsOfLines_documents {records : List Record} (hrecords : ∀ r ∈ records, r.WellFormed)
    (hshort : ∀ r ∈ records, r.document.Short) :
    (recordsOfLines (records.map fun r => Json.write r.document)).2 = .ok records := by
  induction records with
  | nil => rfl
  | cons r records ih =>
      obtain ⟨hr, hrecords⟩ := List.forall_mem_cons.mp hrecords
      obtain ⟨hfirst, hshort⟩ := List.forall_mem_cons.mp hshort
      have hread : Json.read (Json.write r.document) = .ok r.document := by
        rw [Json.write, hr.readable_document.read_writeWith faithful_escapedChar, if_pos hfirst]
      rw [List.map_cons, recordsOfLines]
      simp only [hread, hr.ofDocument_document, ih hrecords hshort]
      rfl

/-- What a search prints as documents is read back as its records. -/
theorem recordsOfBytes_documentLines {progress : Search.Progress}
    (hrecords : ∀ r ∈ progress.records, r.WellFormed)
    (hshort : ∀ r ∈ progress.records, r.document.Short) (hfault : progress.fault = none)
    (criteria : Criteria) (seconds : String) :
    (recordsOfBytes (encode ((documentLines criteria progress).outputText seconds))).2 =
      .ok progress.records := by
  have houtput : (documentLines criteria progress).outputText seconds =
      String.join ((progress.records.map fun r => Json.write r.document).map (· ++ "\n")) := by
    rw [documentLines, hfault]
    simp only [Outcome.done, Outcome.outputText, List.map_map]
    rfl
  have hlines : ∀ line ∈ progress.records.map fun r => Json.write r.document, IsLine line := by
    intro line hline
    obtain ⟨r, hr, rfl⟩ := List.mem_map.mp hline
    exact isLine_document (hrecords r hr)
  rw [recordsOfBytes, decode?_encode, houtput]
  dsimp only
  rw [carriedLines_join hlines]
  exact recordsOfLines_documents hrecords hshort

end PhotoCatalog.Command
