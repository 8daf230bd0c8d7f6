import PhotoCatalog.Proofs.Query.Renumbered
import PhotoCatalog.Proofs.Query.Writes
import PhotoCatalog.Proofs.Sql.Placeholders

/-!
Placeholders and the values behind them.  Writing a condition binds its values in the order in which
they stand in it, and its text mentions the parameters of these values and no others, the first time
in the order in which they are bound; so it is with any conditions written one after the other, also
behind one whose writing failed half way.
-/

namespace PhotoCatalog.Query

open PhotoCatalog.Sql

/-- The names, each taken once, are those of `k` parameters behind `n` others, in order. -/
def InOrder (stem : String) (n k : Nat) (names : List String) : Prop :=
  names.eraseDups = (List.range' n k).map (stem ++ toString ·)

section InOrder

variable {stem : String} {n k l : Nat} {names others : List String}

theorem inOrder_nil : InOrder stem n 0 [] := rfl

/-- A parameter that is mentioned again and again. -/
theorem inOrder_replicate (times : Nat) :
    InOrder stem n 1 (List.replicate (times + 1) (stem ++ toString n)) := by
  simp [InOrder, List.replicate_succ, List.eraseDups_cons]

theorem inOrder_one : InOrder stem n 1 [stem ++ toString n] := inOrder_replicate 0

theorem InOrder.mem (hnames : InOrder stem n k names) {name : String} (hmem : name ∈ names) :
    ∃ i, n ≤ i ∧ i < n + k ∧ stem ++ toString i = name := by
  rw [← List.mem_eraseDups, hnames, List.mem_map] at hmem
  obtain ⟨i, hrange, hname⟩ := hmem
  obtain ⟨hleast, hless⟩ := List.mem_range'_1.mp hrange
  exact ⟨i, hleast, hless, hname⟩

theorem InOrder.append (hnames : InOrder stem n k names)
    (hothers : InOrder stem (n + k) l others) : InOrder stem n (k + l) (names ++ others) := by
  have hfresh : others.removeAll names = others := by
    rw [List.removeAll, List.filter_eq_self]
    intro name hmem
    rw [Bool.not_eq_true', List.elem_eq_mem, decide_eq_false_iff_not]
    intro hold
    obtain ⟨i, -, hless, hname⟩ := hnames.mem hold
    obtain ⟨j, hleast, -, hname'⟩ := hothers.mem hmem
    have hsame := name_injective (hname.trans hname'.symm)
    omega
  rw [InOrder, List.eraseDups_append, hfresh, hnames, hothers, ← List.map_append,
    List.range'_append_1]

end InOrder

/-- The text mentions `k` parameters behind `n` others, the first time in order. -/
def Cites (stem : String) (n k : Nat) (text : String) : Prop :=
  ∃ names, Mentions text names ∧ InOrder stem n k names

/-- The texts, one after the other, mention `k` parameters behind `n` others. -/
def CitesAll (stem : String) (n k : Nat) (texts : List String) : Prop :=
  ∃ names, List.Forall₂ Mentions texts names ∧ InOrder stem n k names.flatten

section Texts

variable {stem name column text : String} {n k l : Nat} {texts : List String}

theorem mentions_parameter (hstem : stem.toList.all isWordChar = true) (n : Nat) :
    Mentions (":" ++ (stem ++ toString n)) [stem ++ toString n] :=
  mentions_placeholder (all_isWordChar_name hstem n)

theorem isPlain_toString (n : Nat) : isPlain (toString n) = true := by
  obtain ⟨-, hall⟩ := Bool.and_eq_true_iff.mp (isNumeral_toString n)
  rw [isPlain, List.all_eq_true]
  intro c hc
  have hnumeral := List.all_eq_true.mp hall c hc
  rw [Bool.and_eq_true, bne_iff_ne, bne_iff_ne]
  constructor <;> (rintro rfl; exact absurd hnumeral (by decide))

theorem isPlain_toString_int (n : Int) : isPlain (toString n) = true := by
  cases n with
  | ofNat n => exact isPlain_toString n
  | negSucc n =>
      change isPlain ("-" ++ toString (n + 1)) = true
      rw [isPlain_append, isPlain_toString]
      rfl

theorem isPlain_column (hname : isPlain name = true) (hcolumn : isPlain column = true) :
    isPlain (name ++ "." ++ column) = true := by
  rw [isPlain_append, isPlain_append, hname, hcolumn]
  rfl

theorem cites_of_isPlain (htext : isPlain text = true) : Cites stem n 0 text :=
  ⟨[], (silent_of_isPlain htext).closed.mentions, inOrder_nil⟩

theorem separates_closing : Separates ")" := .of_isPlain (by decide) (by decide)

theorem separates_and : Separates " AND " := .of_isPlain (by decide) (by decide)

theorem separates_or : Separates " OR " := .of_isPlain (by decide) (by decide)

/-- What is enclosed mentions what it mentions without the parentheses. -/
theorem Cites.enclosed (htext : Cites stem n k text) : Cites stem n k ("(" ++ text ++ ")") := by
  obtain ⟨names, hmentions, horder⟩ := htext
  have hopening : Silent "(" := silent_of_isPlain (by decide)
  exact ⟨names, ((hopening.closed.append hmentions).separated separates_closing).mentions, horder⟩

theorem CitesAll.nil : CitesAll stem n 0 [] := ⟨[], .nil, inOrder_nil⟩

theorem CitesAll.cons (htext : Cites stem n k text) (htexts : CitesAll stem (n + k) l texts) :
    CitesAll stem n (k + l) (text :: texts) := by
  obtain ⟨names, hmentions, horder⟩ := htext
  obtain ⟨others, hall, hothers⟩ := htexts
  exact ⟨names :: others, .cons hmentions hall, horder.append hothers⟩

theorem CitesAll.append {texts' : List String} (htexts : CitesAll stem n k texts)
    (htexts' : CitesAll stem (n + k) l texts') : CitesAll stem n (k + l) (texts ++ texts') := by
  obtain ⟨names, hall, horder⟩ := htexts
  obtain ⟨names', hall', horder'⟩ := htexts'
  refine ⟨names ++ names', List.rel_append hall hall', ?_⟩
  rw [List.flatten_append]
  exact horder.append horder'

theorem CitesAll.intercalate {piece : String} (hpiece : Separates piece)
    (htexts : CitesAll stem n k texts) : Cites stem n k (piece.intercalate texts) := by
  obtain ⟨names, hall, horder⟩ := htexts
  exact ⟨names.flatten, .intercalate hpiece hall, horder⟩

/-- A group, and what is written for one without members. -/
theorem CitesAll.group {piece empty : String} (hpiece : Separates piece)
    (hempty : isPlain empty = true) (htexts : CitesAll stem n k texts) :
    Cites stem n k (if texts.isEmpty then empty else "(" ++ piece.intercalate texts ++ ")") := by
  cases texts with
  | nil =>
      obtain ⟨names, hall, horder⟩ := htexts
      cases hall
      exact ⟨[], (silent_of_isPlain hempty).closed.mentions, horder⟩
  | cons => exact (htexts.intercalate hpiece).enclosed

theorem CitesAll.longitudeTest (htexts : CitesAll stem n k texts) :
    CitesAll stem n k (longitudeTest texts) := by
  match texts, htexts with
  | [], htexts => exact htexts
  | [_], htexts => exact htexts
  | first :: second :: rest, htexts =>
      exact .cons (htexts.intercalate separates_or).enclosed .nil

end Texts

section Writing

variable {stem name column : String} {n : Nat}

/-- Two values that are bound one after the other. -/
theorem cites_pair (hstem : stem.toList.all isWordChar = true) {opening middle : String}
    (hopening : Silent opening) (hmiddle : Separates middle) :
    Cites stem n 2 (opening ++ (":" ++ (stem ++ toString n)) ++ middle ++
      (":" ++ (stem ++ toString (n + 1)))) := by
  have hfirst := hopening.closed.append (mentions_parameter hstem n)
  exact ⟨_, (hfirst.separated hmiddle).append (mentions_parameter hstem (n + 1)),
    inOrder_one.append inOrder_one⟩

theorem renderRange_binds (hstem : stem.toList.all isWordChar = true)
    (hcolumn : isPlain column = true) (low : Value) (high : Option Value)
    (upperExclusive : Bool) :
    Binds stem n (low :: high.toList) (Cites stem n (low :: high.toList).length)
      (renderRange column low high upperExclusive) := by
  cases high with
  | none =>
      refine (binds_bind low).result ?_
      rintro _ rfl
      have htest : Silent ("(" ++ (column ++ " IS NOT NULL") ++ " AND " ++ column ++ " = ") := by
        apply silent_of_isPlain
        simp only [isPlain_append, hcolumn]
        decide
      exact ⟨_, ((htest.closed.append (mentions_parameter hstem n)).separated
        separates_closing).mentions, inOrder_one⟩
  | some high =>
      refine (binds_bind low).bind ?_
      rintro _ rfl
      cases upperExclusive with
      | true =>
          refine (binds_bind high).result ?_
          rintro _ rfl
          have htest : Silent (column ++ " IS NOT NULL" ++ " AND " ++ column ++ " >= ") := by
            apply silent_of_isPlain
            simp only [isPlain_append, hcolumn]
            decide
          have hmiddle : Separates (" AND " ++ column ++ " < ") := by
            refine .of_isPlain ?_ ?_
            · simp only [isPlain_append, hcolumn]
              decide
            · rw [String.append_assoc, String.toList_append]
              rfl
          have hpair := (cites_pair (n := n) hstem htest hmiddle).enclosed
          change Cites stem n 2 _
          simpa only [String.append_assoc, List.length_singleton] using hpair
      | false =>
          refine (binds_bind high).result ?_
          rintro _ rfl
          have htest : Silent (column ++ " IS NOT NULL" ++ " AND " ++ column ++ " BETWEEN ") := by
            apply silent_of_isPlain
            simp only [isPlain_append, hcolumn]
            decide
          have hpair := (cites_pair (n := n) hstem htest separates_and).enclosed
          change Cites stem n 2 _
          simpa only [String.append_assoc, List.length_singleton] using hpair

theorem renderBetween_binds (hstem : stem.toList.all isWordChar = true)
    (hcolumn : isPlain column = true) (box : Float × Float) :
    Binds stem n (boxValues box) (Cites stem n 2) (renderBetween column box) := by
  change Binds stem n ([Value.float box.1] ++ [Value.float box.2]) _ _
  refine (binds_bind _).bind ?_
  rintro _ rfl
  refine (binds_bind _).result ?_
  rintro _ rfl
  have htest : Silent (column ++ " BETWEEN ") := by
    apply silent_of_isPlain
    rw [isPlain_append, hcolumn]
    decide
  exact cites_pair hstem htest separates_and

theorem renderBoxes_binds (hstem : stem.toList.all isWordChar = true)
    (hcolumn : isPlain column = true) (boxes : List (Float × Float)) :
    Binds stem n (boxes.flatMap boxValues) (CitesAll stem n (boxes.flatMap boxValues).length)
      (renderBoxes column boxes) := by
  induction boxes generalizing n with
  | nil => exact .pure .nil
  | cons box boxes ih =>
      refine (renderBetween_binds hstem hcolumn box).bind fun first hfirst => ?_
      refine ih.result fun texts htexts => ?_
      have hall := CitesAll.cons hfirst htexts
      rwa [List.flatMap_cons, List.length_append]

section Region

variable {lat lon : String}

theorem mentions_angle (hlat : isPlain lat = true) {origin : String} {names : List String}
    (horigin : Mentions origin names) : Mentions (angleText lat origin) names := by
  have hopening : Silent ("(radians(" ++ lat ++ ") - radians(") := by
    apply silent_of_isPlain
    simp only [isPlain_append, hlat]
    decide
  have hrest : Separates "))" := .of_isPlain (by decide) (by decide)
  exact ((hopening.closed.append horigin).separated hrest).mentions

/-- The origin is bound once and mentioned again and again. -/
theorem cites_distance (hstem : stem.toList.all isWordChar = true) (hlat : isPlain lat = true)
    (hlon : isPlain lon = true) :
    Cites stem n 3 (distanceText lat lon (":" ++ (stem ++ toString n))
      (":" ++ (stem ++ toString (n + 1))) ++ " <= " ++ (":" ++ (stem ++ toString (n + 2)))) := by
  have horiginLat := mentions_parameter hstem n
  have hdlat := mentions_angle hlat horiginLat
  have hdlon := mentions_angle hlon (mentions_parameter hstem (n + 1))
  have hopening : Silent ("2 * 6371.0 * asin(sqrt(" ++ "sin(") := silent_of_isPlain (by decide)
  have hsine : Separates " / 2) * sin(" := .of_isPlain (by decide) (by decide)
  have hcosine : Separates " / 2) + cos(radians(" := .of_isPlain (by decide) (by decide)
  have hplain : Separates (")) * cos(radians(" ++ lat ++ ")) * sin(") := by
    refine .of_isPlain ?_ ?_
    · simp only [isPlain_append, hlat]
      decide
    · rw [String.append_assoc, String.toList_append]
      rfl
  have hatMost : Separates (" / 2)" ++ "))" ++ " <= ") := .of_isPlain (by decide) (by decide)
  have hlats := ((hopening.closed.append hdlat).separated hsine).append hdlat
  have hcosines := (hlats.separated hcosine).append horiginLat
  have hlons := (((hcosines.separated hplain).append hdlon).separated hsine).append hdlon
  have hall := (hlons.separated hatMost).append (mentions_parameter hstem (n + 2))
  refine ⟨_, ?_, (inOrder_replicate 2).append ((inOrder_replicate 1).append inOrder_one)⟩
  delta distanceText
  simpa only [String.append_assoc, List.replicate, List.nil_append, List.cons_append] using hall

theorem renderRegion_binds (hstem : stem.toList.all isWordChar = true) {region : Geo.Region}
    (hlat : isPlain (name ++ "." ++ region.latColumn) = true)
    (hlon : isPlain (name ++ "." ++ region.lonColumn) = true) :
    Binds stem n (Condition.within region).values
      (Cites stem n (Condition.within region).values.length) (renderRegion name region) := by
  have hvalues : (Condition.within region).values = boxValues region.latBox ++
      (region.lonBoxes.flatMap boxValues ++ ([region.latitude] ++ ([region.longitude] ++
        [.float region.maxKm]))) := by
    simp [Condition.values]
  have hisSet : ∀ {column : String}, isPlain column = true →
      Cites stem n 0 (column ++ " IS NOT NULL") := by
    intro column hcolumn
    apply cites_of_isPlain
    rw [isPlain_append, hcolumn]
    decide
  rw [hvalues, renderRegion_eq]
  refine (renderBetween_binds hstem hlat _).bind fun latTest hlatTest => ?_
  refine (renderBoxes_binds hstem hlon _).bind fun lonTests hlonTests => ?_
  refine (binds_bind _).bind ?_
  rintro _ rfl
  refine (binds_bind _).bind ?_
  rintro _ rfl
  refine (binds_bind _).result ?_
  rintro _ rfl
  let boxed := n + (boxValues region.latBox).length + (region.lonBoxes.flatMap boxValues).length
  have hdistance := cites_distance (n := boxed) hstem hlat hlon
  have htests : CitesAll stem n _ _ := .cons (hisSet hlat) (.cons (hisSet hlon) (.cons hlatTest
    (hlonTests.longitudeTest.append (.cons hdistance .nil))))
  have hall := (htests.intercalate separates_and).enclosed
  have hlength : 0 + (0 + (2 + ((region.lonBoxes.flatMap boxValues).length + (3 + 0)))) =
      (boxValues region.latBox ++ (region.lonBoxes.flatMap boxValues ++ ([region.latitude] ++
        ([region.longitude] ++ [Value.float region.maxKm])))).length := by
    simp [boxValues]
    omega
  rw [hlength] at hall
  exact hall

end Region

end Writing

mutual

/-- A tree whose columns hold neither a colon nor a quote, as names do not. -/
def Condition.IsPlain : Condition → Prop
  | .exact column _ _ | .like column _ _ | .range column _ _ _ | .flag column _ =>
    Sql.isPlain column = true
  | .anyOf items => ArePlain items
  | .allOf items => ArePlain items
  | .existsIn _ condition => condition.IsPlain
  | .within region => Sql.isPlain region.latColumn = true ∧ Sql.isPlain region.lonColumn = true
  | .unknown => True

def ArePlain : List Condition → Prop
  | [] => True
  | condition :: rest => condition.IsPlain ∧ ArePlain rest

end

section Conditions

variable {stem : String}

theorem isPlain_tableName (table : ChildTable) : isPlain table.name = true := by
  cases table <;> decide

theorem isPlain_shortName (table : ChildTable) : isPlain table.shortName = true := by
  cases table <;> decide

theorem cites_exact {n : Nat} {column : String} (hstem : stem.toList.all isWordChar = true)
    (hcolumn : isPlain column = true) (noCase : Bool) :
    Cites stem n 1 (column ++ " = " ++ (":" ++ (stem ++ toString n)) ++
      (if noCase then " COLLATE NOCASE" else "")) := by
  have htest : Silent (column ++ " = ") := by
    apply silent_of_isPlain
    rw [isPlain_append, hcolumn]
    decide
  have hmentions := htest.closed.append (mentions_parameter hstem n)
  cases noCase with
  | true =>
      have hcollation : Separates " COLLATE NOCASE" := .of_isPlain (by decide) (by decide)
      exact ⟨_, (hmentions.separated hcollation).mentions, inOrder_one⟩
  | false =>
      rw [if_neg Bool.false_ne_true, String.append_empty]
      exact ⟨_, hmentions, inOrder_one⟩

theorem Cites.existsIn {n count : Nat} {name inner : String} (hinner : Cites stem n count inner)
    (hname : isPlain name = true) (table : ChildTable) :
    Cites stem n count ("EXISTS (SELECT 1 FROM " ++ table.name ++ " " ++ table.shortName ++
      " WHERE " ++ table.shortName ++ ".image_id = " ++ name ++ ".id AND " ++ inner ++ ")") := by
  obtain ⟨names, hmentions, horder⟩ := hinner
  have hopening : Silent ("EXISTS (SELECT 1 FROM " ++ table.name ++ " " ++ table.shortName ++
      " WHERE " ++ table.shortName ++ ".image_id = " ++ name ++ ".id AND ") := by
    apply silent_of_isPlain
    simp only [isPlain_append, isPlain_tableName, isPlain_shortName, hname]
    decide
  exact ⟨_, ((hopening.closed.append hmentions).separated separates_closing).mentions, horder⟩

mutual

/-- Writing a tree binds its values in order, and its text mentions their parameters; when it fails,
it has bound the first of them. -/
theorem render_writes (hstem : stem.toList.all isWordChar = true) (n : Nat) (name : String)
    (hname : isPlain name = true) : (condition : Condition) → condition.IsPlain →
    Writes stem n condition.values (Cites stem n condition.values.length) (condition.render name)
  | .exact column value noCase, hplain => by
      rw [Condition.IsPlain] at hplain
      rw [Condition.render, Condition.values]
      refine (binds_bind value).lift.result ?_
      rintro _ rfl
      exact cites_exact hstem (isPlain_column hname hplain) noCase
  | .like column pattern _, hplain => by
      rw [Condition.IsPlain] at hplain
      rw [Condition.render, Condition.values]
      refine (binds_bind _).lift.result ?_
      rintro _ rfl
      have htest : Silent (name ++ "." ++ column ++ " LIKE ") := by
        apply silent_of_isPlain
        rw [isPlain_append, isPlain_column hname hplain]
        decide
      have hescape : Separates " ESCAPE '\\'" := ⟨fun _ => rfl, ' ', rfl, rfl⟩
      exact ⟨_, ((htest.closed.append (mentions_parameter hstem n)).separated hescape).mentions,
        inOrder_one⟩
  | .range column low high upperExclusive, hplain => by
      rw [Condition.IsPlain] at hplain
      rw [Condition.render, Condition.values]
      exact (renderRange_binds hstem (isPlain_column hname hplain) low high upperExclusive).lift
  | .flag column value, hplain => by
      rw [Condition.IsPlain] at hplain
      rw [Condition.render, Condition.values]
      refine (writes_liftExcept (P := fun _ => True) fun _ _ => trivial).result fun k _ => ?_
      apply cites_of_isPlain
      rw [isPlain_append, isPlain_append, isPlain_column hname hplain, isPlain_toString_int]
      decide
  | .anyOf items, hplain => by
      rw [Condition.IsPlain] at hplain
      rw [Condition.render, Condition.values]
      exact (renderAll_writes hstem n name hname items hplain).result fun texts htexts =>
        htexts.group separates_or (by decide)
  | .allOf items, hplain => by
      rw [Condition.IsPlain] at hplain
      rw [Condition.render, Condition.values]
      exact (renderAll_writes hstem n name hname items hplain).result fun texts htexts =>
        htexts.group separates_and (by decide)
  | .existsIn table condition, hplain => by
      rw [Condition.IsPlain] at hplain
      rw [Condition.render, Condition.values]
      have hinner := render_writes hstem n table.shortName (isPlain_shortName table) condition
        hplain
      exact hinner.result fun inner hcites => hcites.existsIn hname table
  | .within region, hplain => by
      rw [Condition.IsPlain] at hplain
      rw [Condition.render]
      exact (renderRegion_binds hstem (isPlain_column hname hplain.1)
        (isPlain_column hname hplain.2)).lift
  | .unknown, _ => by
      rw [Condition.render, Condition.values]
      exact writes_throw _

theorem renderAll_writes (hstem : stem.toList.all isWordChar = true) (n : Nat) (name : String)
    (hname : isPlain name = true) : (conditions : List Condition) → ArePlain conditions →
    Writes stem n (valuesOf conditions) (CitesAll stem n (valuesOf conditions).length)
      (renderAll name conditions)
  | [], _ => by
      rw [renderAll, valuesOf]
      exact .pure .nil
  | condition :: rest, hplain => by
      rw [ArePlain] at hplain
      rw [renderAll, valuesOf]
      refine (render_writes hstem n name hname condition hplain.1).bind fun first hfirst => ?_
      refine (renderAll_writes hstem _ name hname rest hplain.2).result fun texts htexts => ?_
      rw [List.length_append]
      exact .cons hfirst htexts

end

end Conditions

/-- What is asked of one writer, time after time: to bind a value, or to write a condition. -/
inductive Call where
  | bind (value : Value)
  | render (name : String) (condition : Condition)

def Call.run : Call → Writing String
  | .bind value => liftM (Query.bind value)
  | .render name condition => condition.render name

def Call.values : Call → List Value
  | .bind value => [value]
  | .render _ condition => condition.values

def Call.IsPlain : Call → Prop
  | .bind _ => True
  | .render name condition => Sql.isPlain name = true ∧ condition.IsPlain

/-- What is bound after one call after the other, whether they fail or not. -/
def runCalls (b : Bindings) (calls : List Call) : Bindings :=
  calls.foldl (fun b call => (call.run.run b).2) b

section Calls

variable {stem : String} {call : Call}

theorem run_writes (hstem : stem.toList.all isWordChar = true) (n : Nat) (hplain : call.IsPlain) :
    Writes stem n call.values (Cites stem n call.values.length) call.run := by
  cases call with
  | bind value =>
      refine (show Binds stem n [value] (Cites stem n 1) (Query.bind value) from ?_).lift
      rintro before rfl
      exact ⟨_, bind_of stem before value, _, mentions_parameter hstem _, inOrder_one⟩
  | render name condition =>
      exact render_writes hstem n name hplain.1 condition hplain.2

/-- After any calls the parameters are numbered from zero on. -/
theorem runCalls_eq_of (hstem : stem.toList.all isWordChar = true) {calls : List Call}
    (hplain : ∀ call ∈ calls, call.IsPlain) (before : List Value) :
    ∃ values, runCalls (.of stem before) calls = .of stem (before ++ values) := by
  induction calls generalizing before with
  | nil => exact ⟨[], by rw [List.append_nil]; rfl⟩
  | cons call calls ih =>
      obtain ⟨hcall, hcalls⟩ := List.forall_mem_cons.mp hplain
      obtain ⟨result, bound, hrun, -, -⟩ := run_writes hstem before.length hcall before rfl
      obtain ⟨values, hvalues⟩ := ih hcalls (before ++ bound)
      refine ⟨bound ++ values, ?_⟩
      rw [runCalls, List.foldl_cons, hrun, ← List.append_assoc]
      exact hvalues

/-- The parameters of values that are bound behind `n` others. -/
def numbered (stem : String) (n : Nat) (values : List Value) : List (String × Value) :=
  (values.zipIdx n).map fun (value, i) => (stem ++ toString i, value)

theorem Bindings.params_of_append (stem : String) (values more : List Value) :
    (Bindings.of stem (values ++ more)).params =
      (Bindings.of stem values).params ++ numbered stem values.length more := by
  simp [Bindings.of, numbered, List.zipIdx_append]

theorem names_numbered (stem : String) (n : Nat) (values : List Value) :
    (numbered stem n values).map (·.1) =
      (List.range' n values.length).map (stem ++ toString ·) := by
  rw [numbered, List.map_map, ← List.zipIdx_map_snd, List.map_map]
  rfl

theorem values_numbered (stem : String) (n : Nat) (values : List Value) :
    (numbered stem n values).map (·.2) = values := by
  rw [numbered, List.map_map]
  exact List.zipIdx_map_fst n values

end Calls

/-- Whatever has been asked before: the parameters have the stem with the numbers from zero on as
their names, and a call leaves those bound before it as they are.  The text that a call gives has
the parameters bound during the call as its placeholders, the first time in order, and the values
behind them are those of what is written, each once. -/
theorem placeholders_are_bound_in_order {stem : String}
    (hstem : stem.toList.all isWordChar = true) (before : List Call) (call : Call)
    (hplain : ∀ call' ∈ call :: before, call'.IsPlain) :
    let b := runCalls (.start stem) before
    let b' := (call.run.run b).2
    (∃ n, b'.params.map (·.1) = (List.range n).map (stem ++ toString ·)) ∧
      ∃ bound, b'.params = b.params ++ bound ∧
        ∀ text, (call.run.run b).1 = .ok text →
          bound.map (·.2) = call.values ∧ (placeholders text).eraseDups = bound.map (·.1) := by
  obtain ⟨hcall, hbefore⟩ := List.forall_mem_cons.mp hplain
  obtain ⟨values, hvalues⟩ := runCalls_eq_of hstem hbefore []
  rw [List.nil_append, ← Bindings.start_eq_of] at hvalues
  obtain ⟨result, bound, hrun, -, hok⟩ := run_writes hstem values.length hcall values rfl
  simp only [hvalues, hrun]
  refine ⟨⟨(values ++ bound).length, ?_⟩, numbered stem values.length bound,
    Bindings.params_of_append stem values bound, fun text htext => ?_⟩
  · rw [List.range_eq_range']
    exact names_numbered stem 0 (values ++ bound)
  · obtain ⟨rfl, names, hmentions, horder⟩ := hok text htext
    exact ⟨values_numbered stem values.length call.values,
      by rw [hmentions.placeholders_eq, names_numbered]; exact horder⟩

/-- A list of alternatives that fails behind its first member, which mentions values of its own more
than once. -/
def failedCalls : List Call :=
  [.render imageName (.anyOf [.within {
      latColumn := latitudeColumn
      lonColumn := longitudeColumn
      latitude := .float 0.5
      longitude := .float 179.5
      maxKm := 111.0
      latBox := (-0.5, 1.5)
      lonBoxes := [(178.5, 180.0), (-180.0, -179.5)] }, .unknown, .flag "width" (.int 0)]),
    .bind (.int 7)]

def widthCall : Call := .render imageName (.range "width" (.int 1) (some (.int 9)) true)

/-- Behind a failed call, `:p1` is another parameter than `:p10`. -/
theorem placeholders_behind_failed_call :
    "p".toList.all isWordChar = true ∧ (∀ call ∈ widthCall :: failedCalls, call.IsPlain) ∧
      ∃ bound : List (String × Value),
        (widthCall.run.run (runCalls (.start "p") failedCalls)).2.params =
          (runCalls (.start "p") failedCalls).params ++ bound ∧
        bound.map (·.2) = [.int 1, .int 9] ∧
        (placeholders "(i.width IS NOT NULL AND i.width >= :p10 AND i.width < :p11)").eraseDups =
          bound.map (·.1) := by
  have hstem : "p".toList.all isWordChar = true := by decide
  have hplain : ∀ call ∈ widthCall :: failedCalls, call.IsPlain := by
    rw [failedCalls, List.forall_mem_cons, List.forall_mem_cons, List.forall_mem_singleton]
    simp only [widthCall, Call.IsPlain, Condition.IsPlain, ArePlain]
    decide
  obtain ⟨-, bound, hparams, hok⟩ :=
    placeholders_are_bound_in_order hstem failedCalls widthCall hplain
  obtain ⟨hvalues, hnames⟩ := hok _ rfl
  exact ⟨hstem, hplain, bound, hparams, hvalues, hnames⟩

end PhotoCatalog.Query
