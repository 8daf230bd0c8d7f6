import PhotoCatalog.Proofs.Query.Truth
import PhotoCatalog.Proofs.Query.Writes

/-!
The expressions that conditions spell.  Every tree of conditions stands for one expression, in which
its values stand where its text has their placeholders, and the text of the tree is read as that
expression; so what the catalog is asked is told by the tree, comparison by comparison.
-/

namespace PhotoCatalog.Query

open PhotoCatalog.Sql

/-- The expression of a group; without members it is a number that is its truth. -/
def groupExpr (op : Operator) (empty : String) : List Expr → Expr
  | [] => .number empty
  | e :: others => chain op e others

def conjunction (es : List Expr) : Expr := groupExpr .and "1" es

def alternatives (es : List Expr) : Expr := groupExpr .or "0" es

def rangeExpr (column : Expr) (low : Value) (high : Option Value) (upperExclusive : Bool) : Expr :=
  match high with
  | none => conjunction [.isNotNull column, .binary .equal column (.value low)]
  | some high =>
    if upperExclusive then
      conjunction [.isNotNull column, .binary .atLeast column (.value low),
        .binary .less column (.value high)]
    else conjunction [.isNotNull column, .between column (.value low) (.value high)]

def boxExpr (column : Expr) (box : Float × Float) : Expr :=
  .between column (.value (.float box.1)) (.value (.float box.2))

/-- The longitude test: none without boxes, alternatives when there are several. -/
def longitudeExprs : List Expr → List Expr
  | [] => []
  | e :: others => [alternatives (e :: others)]

def regionExpr (name : String) (region : Geo.Region) : Expr :=
  let lat : Expr := .column name region.latColumn
  let lon : Expr := .column name region.lonColumn
  let distance := distanceExpr lat lon (.value region.latitude) (.value region.longitude)
  conjunction ([.isNotNull lat, .isNotNull lon, boxExpr lat region.latBox]
    ++ longitudeExprs (region.lonBoxes.map (boxExpr lon))
    ++ [.binary .atMost distance (.value (.float region.maxKm))])

mutual

/-- The expression of a tree; `name` is the short name of the table that its columns belong to. -/
def Condition.expr (name : String) : Condition → Expr
  | .exact column value noCase =>
    .binary .equal (.column name column)
      (if noCase then .collated (.value value) "NOCASE" else .value value)
  | .like column pattern _ =>
    .like (.column name column) (.value (.text pattern)) (.quoted "\\")
  | .range column low high upperExclusive =>
    rangeExpr (.column name column) low high upperExclusive
  | .flag column value =>
    .binary .equal (.column name column)
      (match value.toInt with | .ok n => wholeNumber n | .error _ => .number "0")
  | .anyOf items => alternatives (exprsOf name items)
  | .allOf items => conjunction (exprsOf name items)
  | .existsIn table condition =>
    .existsRow table.name table.shortName
      (.binary .and
        (.binary .equal (.column table.shortName "image_id") (.column name "id"))
        (condition.expr table.shortName))
  | .within region => regionExpr name region
  | .unknown => .number "0"

def exprsOf (name : String) : List Condition → List Expr
  | [] => []
  | condition :: rest => condition.expr name :: exprsOf name rest

end

/-- The values are bound to the parameters that are numbered from `n` on. -/
def Stored (stem : String) (n : Nat) (values : List Value) (params : List (String × Value)) :
    Prop :=
  ∀ i value, values[i]? = some value → params.lookup (stem ++ toString (n + i)) = some value

section Stored

variable {stem : String} {n : Nat} {values more : List Value} {params : List (String × Value)}

theorem Stored.left (hstored : Stored stem n (values ++ more) params) :
    Stored stem n values params := by
  intro i value hvalue
  have hless := (List.getElem?_eq_some_iff.mp hvalue).1
  exact hstored i value (by rw [List.getElem?_append_left hless, hvalue])

theorem Stored.right (hstored : Stored stem n (values ++ more) params) :
    Stored stem (n + values.length) more params := by
  intro i value hvalue
  rw [Nat.add_assoc]
  refine hstored (values.length + i) value ?_
  rw [List.getElem?_append_right (Nat.le_add_right _ _), Nat.add_sub_cancel_left, hvalue]

theorem stored_of (stem : String) (values : List Value) :
    Stored stem 0 values (Bindings.of stem values).params := by
  intro i value hvalue
  obtain ⟨hless, hget⟩ := List.getElem?_eq_some_iff.mp hvalue
  have hsplit : values = values.take i ++ value :: values.drop (i + 1) := by
    rw [← hget, ← List.drop_eq_getElem_cons hless, List.take_append_drop]
  have hlookup := Bindings.lookup_of stem (values.take i) (values.drop (i + 1)) value
  rw [← hsplit, List.length_take_of_le (Nat.le_of_lt hless)] at hlookup
  rwa [Nat.zero_add]

end Stored

/-- Where the values are bound, the text is read as this expression of them. -/
def Spelled (stem : String) (n : Nat) (values : List Value) (power : Nat) (text : String)
    (e : Expr) : Prop :=
  ∀ params, Stored stem n values params → Written params power text e

/-- Where the values are bound, the texts are read as these expressions of them, one by one. -/
def SpelledAll (stem : String) (n : Nat) (values : List Value) (texts : List String)
    (es : List Expr) : Prop :=
  ∀ params, Stored stem n values params → List.Forall₂ (Written params testPower) texts es

section Groups

variable {params : List (String × Value)} {texts : List String} {es : List Expr}

theorem written_conjunction (hall : List.Forall₂ (Written params testPower) texts es) :
    Written params testPower
      (if texts.isEmpty then "1" else "(" ++ " AND ".intercalate texts ++ ")")
      (conjunction es) := by
  cases hall with
  | nil => exact (written_number (by decide)).weaken (by decide)
  | cons hfirst hrest =>
      have hchain := (hfirst.weaken (show Operator.and.power ≤ testPower by decide)).chain
        Operator.and.joins hrest
      exact (hchain.enclosed (by decide)).weaken (by decide)

theorem written_alternatives (hall : List.Forall₂ (Written params testPower) texts es) :
    Written params testPower
      (if texts.isEmpty then "0" else "(" ++ " OR ".intercalate texts ++ ")")
      (alternatives es) := by
  cases hall with
  | nil => exact (written_number (by decide)).weaken (by decide)
  | cons hfirst hrest =>
      have hothers := hrest.imp fun _ _ hwritten =>
        hwritten.weaken (show Operator.or.power + 1 ≤ testPower by decide)
      have hchain := (hfirst.weaken (show Operator.or.power ≤ testPower by decide)).chain
        Operator.or.joins hothers
      exact (hchain.enclosed (by decide)).weaken (by decide)

theorem written_longitudeTest (hall : List.Forall₂ (Written params testPower) texts es) :
    List.Forall₂ (Written params testPower) (longitudeTest texts) (longitudeExprs es) := by
  match hall with
  | .nil => exact .nil
  | .cons hfirst .nil => exact .cons hfirst .nil
  | .cons hfirst (.cons hsecond hrest) =>
      have hgroup := written_alternatives (.cons hfirst (.cons hsecond hrest))
      rw [List.isEmpty_cons, if_neg Bool.false_ne_true] at hgroup
      exact .cons hgroup .nil

end Groups

section Pieces

variable {params : List (String × Value)}

theorem isNumeral_toString (n : Nat) : isNumeral (toString n).toList = true := by
  have hdigits : (toString n).toList = Text.digitsOf n := by
    rw [Nat.toString_eq_repr, Nat.toList_repr]
    rfl
  have hall := Text.digitsOf_allDigits n
  rw [hdigits, isNumeral, Bool.and_eq_true, List.all_eq_true]
  refine ⟨?_, fun c hc => by simp [hall c hc]⟩
  cases hlist : Text.digitsOf n with
  | nil => exact absurd hlist Nat.toDigits_ne_nil
  | cons c cs => simpa using hall c (by simp [hlist])

theorem written_wholeNumber (n : Int) :
    Written params Operator.times.power (toString n) (wholeNumber n) := by
  cases n with
  | ofNat n => exact (written_number (isNumeral_toString n)).weaken (by decide)
  | negSucc n => exact written_negated (isNumeral_toString (n + 1))

theorem isName_tableName (table : ChildTable) : isName table.name = true := by
  cases table <;> decide

theorem isName_shortName (table : ChildTable) : isName table.shortName = true := by
  cases table <;> decide

/-- The text of the difference of two angles given in degrees. -/
def angleText (a b : String) : String := "(radians(" ++ a ++ ") - radians(" ++ b ++ "))"

/-- The text of the distance between the places of two coordinates. -/
def distanceText (lat lon originLat originLon : String) : String :=
  let dlat := angleText lat originLat
  let dlon := angleText lon originLon
  let hav := "sin(" ++ dlat ++ " / 2) * sin(" ++ dlat ++ " / 2) + cos(radians(" ++ originLat
    ++ ")) * cos(radians(" ++ lat ++ ")) * sin(" ++ dlon ++ " / 2) * sin(" ++ dlon ++ " / 2)"
  "2 * 6371.0 * asin(sqrt(" ++ hav ++ "))"

/-- The tests of a region, with the text of the distance in the last of them. -/
theorem renderRegion_eq (name : String) (region : Geo.Region) :
    renderRegion name region = (do
      let lat := name ++ "." ++ region.latColumn
      let lon := name ++ "." ++ region.lonColumn
      let latTest ← renderBetween lat region.latBox
      let lonTests ← renderBoxes lon region.lonBoxes
      let originLat ← bind region.latitude
      let originLon ← bind region.longitude
      let maxKm ← bind (.float region.maxKm)
      return "(" ++ " AND ".intercalate ([lat ++ " IS NOT NULL", lon ++ " IS NOT NULL", latTest]
        ++ longitudeTest lonTests
        ++ [distanceText lat lon originLat originLon ++ " <= " ++ maxKm]) ++ ")") := by
  have hclose : ∀ s : String, s ++ "))" ++ " <= " = s ++ ")) <= " := by
    intro s
    simp [String.append_assoc]
  unfold renderRegion distanceText angleText
  simp only [hclose]

variable {a b lat lon originLat originLon : String}
  {ea eb eLat eLon eOriginLat eOriginLon : Expr}

theorem written_angle (ha : Written params operandPower a ea)
    (hb : Written params operandPower b eb) :
    Written params operandPower (angleText a b)
      (.binary .minus (.call "radians" ea) (.call "radians" eb)) := by
  have hminus : Joins .minus " - " := Operator.minus.joins
  have hradians : isName "radians" = true := by decide
  have hangle := ha.call hradians (by decide)
  have hangle' := hb.call hradians (by decide)
  have hdifference := (hangle.binary hminus hangle' (by decide) (by decide)).enclosed (by decide)
  refine hdifference.of_toList ?_
  delta angleText
  simp

/-- The sine of half an angle. -/
theorem written_halfSine (ha : Written params operandPower a ea) :
    Written params operandPower ("sin" ++ "(" ++ (a ++ " / " ++ "2") ++ ")")
      (.call "sin" (.binary .over ea (.number "2"))) := by
  have hover : Joins .over " / " := Operator.over.joins
  have htwo : Written params operandPower "2" (.number "2") := written_number (by decide)
  exact (ha.binary hover htwo (by decide) (by decide)).call (by decide) (by decide)

theorem written_cosine (ha : Written params operandPower a ea) :
    Written params operandPower ("cos" ++ "(" ++ ("radians" ++ "(" ++ a ++ ")") ++ ")")
      (.call "cos" (.call "radians" ea)) :=
  (ha.call (by decide) (by decide)).call (by decide) (by decide)

theorem written_distance (hlat : Written params operandPower lat eLat)
    (hlon : Written params operandPower lon eLon)
    (horiginLat : Written params operandPower originLat eOriginLat)
    (horiginLon : Written params operandPower originLon eOriginLon) :
    Written params Operator.times.power (distanceText lat lon originLat originLon)
      (distanceExpr eLat eLon eOriginLat eOriginLon) := by
  have htimes : Joins .times " * " := Operator.times.joins
  have hplus : Joins .plus " + " := Operator.plus.joins
  have hsinLat := written_halfSine (written_angle hlat horiginLat)
  have hsinLon := written_halfSine (written_angle hlon horiginLon)
  have hfirst := hsinLat.binary htimes hsinLat (by decide) (by decide)
  have hcosines := (written_cosine horiginLat).binary htimes (written_cosine hlat) (by decide)
    (by decide)
  have honce := hcosines.binary htimes hsinLon (by decide) (by decide)
  have hsecond := honce.binary htimes hsinLon (by decide) (by decide)
  have hsum := hfirst.binary hplus hsecond (by decide) (by decide)
  have hroot := hsum.call (show isName "sqrt" = true by decide) (by decide)
  have harc := hroot.call (show isName "asin" = true by decide) (by decide)
  have htwo : Written params operandPower "2" (.number "2") := written_number (by decide)
  have hradius : Written params operandPower "6371.0" (.number "6371.0") :=
    written_number (by decide)
  have hdiameter := htwo.binary htimes hradius (by decide) (by decide)
  have hall := hdiameter.binary htimes harc (by decide) (by decide)
  refine hall.of_toList ?_
  delta distanceText
  simp

end Pieces

section Writing

variable {stem name column : String} {n : Nat}

theorem Stored.written (hstem : stem.toList.all isWordChar = true) {value : Value}
    {params : List (String × Value)} (hstored : Stored stem n [value] params) :
    Written params operandPower (":" ++ (stem ++ toString n)) (.value value) :=
  written_parameter (all_isWordChar_name hstem n) (hstored 0 value rfl)

theorem written_isSet {params : List (String × Value)} (hname : isName name = true)
    (hcolumn : isName column = true) :
    Written params testPower (name ++ "." ++ column ++ " IS NOT NULL")
      (.isNotNull (.column name column)) :=
  (written_column hname hcolumn).isNotNull (by decide)

theorem written_exact {params : List (String × Value)} {text : String} {value : Value}
    (hname : isName name = true) (hcolumn : isName column = true)
    (hvalue : Written params operandPower text (.value value)) (noCase : Bool) :
    Written params testPower
      (name ++ "." ++ column ++ " = " ++ text ++ (if noCase then " COLLATE NOCASE" else ""))
      (.binary .equal (.column name column)
        (if noCase then .collated (.value value) "NOCASE" else .value value)) := by
  cases noCase with
  | true =>
      have hequal := (written_column hname hcolumn).binary Operator.equal.joins
        (hvalue.collated (by decide)) (by decide) (by decide)
      exact hequal.of_toList (by simp [Operator.written])
  | false =>
      rw [if_neg Bool.false_ne_true, String.append_empty]
      exact (written_column hname hcolumn).binary Operator.equal.joins hvalue (by decide)
        (by decide)

/-- A row of an inner query belongs to the row of the outer one, and satisfies the condition. -/
theorem written_existsIn {params : List (String × Value)} {inner : String} {e : Expr}
    (hname : isName name = true) (table : ChildTable)
    (hinner : Written params testPower inner e) :
    Written params testPower
      ("EXISTS (SELECT 1 FROM " ++ table.name ++ " " ++ table.shortName ++ " WHERE "
        ++ table.shortName ++ ".image_id = " ++ name ++ ".id AND " ++ inner ++ ")")
      (.existsRow table.name table.shortName (.binary .and
        (.binary .equal (.column table.shortName "image_id") (.column name "id")) e)) := by
  have hshort := isName_shortName table
  have howner : Written params operandPower (table.shortName ++ "." ++ "image_id")
      (.column table.shortName "image_id") := written_column hshort (by decide)
  have hbelongs := howner.binary Operator.equal.joins
    (written_column hname (show isName "id" = true by decide)) (by decide) (by decide)
  have hboth := hbelongs.binary Operator.and.joins hinner (by decide) (by decide)
  have hrow := hboth.existsRow (isName_tableName table) hshort (by decide)
  exact (hrow.weaken (show testPower ≤ operandPower by decide)).of_toList
    (by simp [Operator.written])

theorem renderRange_spells (hstem : stem.toList.all isWordChar = true) (hname : isName name = true)
    (hcolumn : isName column = true) (low : Value) (high : Option Value)
    (upperExclusive : Bool) :
    Binds stem n (low :: high.toList)
      (fun text => Spelled stem n (low :: high.toList) testPower text
        (rangeExpr (.column name column) low high upperExclusive))
      (renderRange (name ++ "." ++ column) low high upperExclusive) := by
  cases high with
  | none =>
      refine (binds_bind low).result ?_
      rintro _ rfl params hstored
      have hlow := hstored.written hstem
      have hequal := (written_column hname hcolumn).binary Operator.equal.joins hlow (by decide)
        (by decide)
      have hall := written_conjunction (.cons (written_isSet hname hcolumn) (.cons hequal .nil))
      exact hall.of_toList (by simp [String.intercalate_cons_cons, Operator.written])
  | some high =>
      refine (binds_bind low).bind ?_
      rintro _ rfl
      cases upperExclusive with
      | true =>
          refine (binds_bind high).result ?_
          rintro _ rfl params hstored
          have hboth : Stored stem n ([low] ++ [high]) params := hstored
          have hlow := hboth.left.written hstem
          have hhigh := hboth.right.written hstem
          have hatLeast := (written_column hname hcolumn).binary Operator.atLeast.joins hlow
            (by decide) (by decide)
          have hless := (written_column hname hcolumn).binary Operator.less.joins hhigh
            (by decide) (by decide)
          have hall := written_conjunction (.cons (written_isSet hname hcolumn) (.cons
            (hatLeast.weaken (show testPower ≤ Operator.atLeast.power by decide)) (.cons
              (hless.weaken (show testPower ≤ Operator.less.power by decide)) .nil)))
          exact hall.of_toList (by simp [String.intercalate_cons_cons, Operator.written])
      | false =>
          refine (binds_bind high).result ?_
          rintro _ rfl params hstored
          have hboth : Stored stem n ([low] ++ [high]) params := hstored
          have hlow := hboth.left.written hstem
          have hhigh := hboth.right.written hstem
          have hbetween := (written_column hname hcolumn).between hlow hhigh (by decide) (by decide)
          have hall := written_conjunction
            (.cons (written_isSet hname hcolumn) (.cons hbetween .nil))
          exact hall.of_toList (by simp [String.intercalate_cons_cons])

theorem renderBetween_spells (hstem : stem.toList.all isWordChar = true)
    (hname : isName name = true) (hcolumn : isName column = true) (box : Float × Float) :
    Binds stem n (boxValues box)
      (fun text => Spelled stem n (boxValues box) testPower text
        (boxExpr (.column name column) box))
      (renderBetween (name ++ "." ++ column) box) := by
  change Binds stem n ([Value.float box.1] ++ [Value.float box.2]) _ _
  refine (binds_bind (.float box.1)).bind ?_
  rintro _ rfl
  refine (binds_bind (.float box.2)).result ?_
  rintro _ rfl params hstored
  have hboth : Stored stem n ([.float box.1] ++ [.float box.2]) params := hstored
  have hlow := hboth.left.written hstem
  have hhigh := hboth.right.written hstem
  exact (written_column hname hcolumn).between hlow hhigh (by decide) (by decide)

theorem renderBoxes_spells (hstem : stem.toList.all isWordChar = true) (hname : isName name = true)
    (hcolumn : isName column = true) (boxes : List (Float × Float)) :
    Binds stem n (boxes.flatMap boxValues)
      (fun texts => SpelledAll stem n (boxes.flatMap boxValues) texts
        (boxes.map (boxExpr (.column name column))))
      (renderBoxes (name ++ "." ++ column) boxes) := by
  induction boxes generalizing n with
  | nil => exact .pure fun _ _ => .nil
  | cons box boxes ih =>
      refine (renderBetween_spells hstem hname hcolumn box).bind fun first hfirst => ?_
      exact ih.result fun texts htexts params hstored =>
        .cons (hfirst params hstored.left) (htexts params hstored.right)

theorem renderRegion_spells (hstem : stem.toList.all isWordChar = true)
    (hname : isName name = true) {region : Geo.Region} (hlat : isName region.latColumn = true)
    (hlon : isName region.lonColumn = true) :
    Binds stem n (Condition.within region).values
      (fun text => Spelled stem n (Condition.within region).values testPower text
        (regionExpr name region))
      (renderRegion name region) := by
  have hvalues : (Condition.within region).values = boxValues region.latBox ++
      (region.lonBoxes.flatMap boxValues ++ ([region.latitude] ++ ([region.longitude] ++
        [.float region.maxKm]))) := by
    simp [Condition.values]
  rw [hvalues, renderRegion_eq]
  refine (renderBetween_spells hstem hname hlat _).bind fun latTest hlatTest => ?_
  refine (renderBoxes_spells hstem hname hlon _).bind fun lonTests hlonTests => ?_
  refine (binds_bind region.latitude).bind ?_
  rintro _ rfl
  refine (binds_bind region.longitude).bind ?_
  rintro _ rfl
  refine (binds_bind (.float region.maxKm)).result ?_
  rintro _ rfl params hstored
  have hdistance := written_distance (written_column hname hlat) (written_column hname hlon)
    (hstored.right.right.left.written hstem) (hstored.right.right.right.left.written hstem)
  have hnear := (hdistance.binary Operator.atMost.joins
    (hstored.right.right.right.right.written hstem) (by decide) (by decide)).weaken
      (show testPower ≤ Operator.atMost.power by decide)
  have htests := List.rel_append (List.rel_append
    (.cons (written_isSet hname hlat) (.cons (written_isSet hname hlon)
      (.cons (hlatTest params hstored.left) .nil)))
    (written_longitudeTest (hlonTests params hstored.right.left))) (.cons hnear .nil)
  have hall := written_conjunction htests
  unfold Operator.written at hall
  exact hall

end Writing

section Conditions

variable {stem : String}

mutual

/-- The text of a tree spells the expression of the tree. -/
theorem render_spells (hstem : stem.toList.all isWordChar = true) (n : Nat) (name : String)
    (hname : isName name = true) : (condition : Condition) → condition.IsTree →
    WritesFully stem n condition.values
      (fun text => Spelled stem n condition.values testPower text (condition.expr name))
      (condition.render name)
  | .exact column value noCase, htree => by
      rw [Condition.IsTree] at htree
      rw [Condition.render, Condition.values, Condition.expr]
      refine (binds_bind value).writesFully.result ?_
      rintro _ rfl params hstored
      exact written_exact hname htree (hstored.written hstem) noCase
  | .like column pattern _, htree => by
      rw [Condition.IsTree] at htree
      rw [Condition.render, Condition.values, Condition.expr]
      refine (binds_bind _).writesFully.result ?_
      rintro _ rfl params hstored
      exact (written_column hname htree).like (hstored.written hstem) (by decide) (by decide)
  | .range column low high upperExclusive, htree => by
      rw [Condition.IsTree] at htree
      rw [Condition.render, Condition.values, Condition.expr]
      exact (renderRange_spells hstem hname htree low high upperExclusive).writesFully
  | .flag column value, htree => by
      rw [Condition.IsTree] at htree
      obtain ⟨hcolumn, k, hvalue⟩ := htree
      rw [Condition.render, Condition.values, Condition.expr, hvalue]
      refine WritesFully.pure fun params _ => ?_
      exact (written_column hname hcolumn).binary Operator.equal.joins
        (written_wholeNumber k) (by decide) (by decide)
  | .anyOf items, htree => by
      rw [Condition.IsTree] at htree
      rw [Condition.render, Condition.values, Condition.expr]
      exact (renderAll_spells hstem n name hname items htree).result
        fun texts htexts params hstored => written_alternatives (htexts params hstored)
  | .allOf items, htree => by
      rw [Condition.IsTree] at htree
      rw [Condition.render, Condition.values, Condition.expr]
      exact (renderAll_spells hstem n name hname items htree).result
        fun texts htexts params hstored => written_conjunction (htexts params hstored)
  | .existsIn table condition, htree => by
      rw [Condition.IsTree] at htree
      rw [Condition.render, Condition.values, Condition.expr]
      have hinner := render_spells hstem n table.shortName (isName_shortName table) condition htree
      exact hinner.result fun inner hspelled params hstored =>
        written_existsIn hname table (hspelled params hstored)
  | .within region, htree => by
      rw [Condition.IsTree] at htree
      rw [Condition.render, Condition.expr]
      exact (renderRegion_spells hstem hname htree.1 htree.2).writesFully
  | .unknown, htree => by
      rw [Condition.IsTree] at htree
      exact htree.elim

theorem renderAll_spells (hstem : stem.toList.all isWordChar = true) (n : Nat) (name : String)
    (hname : isName name = true) : (conditions : List Condition) → AreTrees conditions →
    WritesFully stem n (valuesOf conditions)
      (fun texts => SpelledAll stem n (valuesOf conditions) texts (exprsOf name conditions))
      (renderAll name conditions)
  | [], _ => by
      rw [renderAll, valuesOf, exprsOf]
      exact .pure fun _ _ => .nil
  | condition :: rest, htrees => by
      rw [AreTrees] at htrees
      rw [renderAll, valuesOf, exprsOf]
      refine (render_spells hstem n name hname condition htrees.1).bind fun first hfirst => ?_
      exact (renderAll_spells hstem _ name hname rest htrees.2).result
        fun texts htexts params hstored =>
          .cons (hfirst params hstored.left) (htexts params hstored.right)

end

end Conditions

end PhotoCatalog.Query
