import PhotoCatalog.Proofs.Catalog.Holds
import PhotoCatalog.Proofs.Query.Facets

/-!
What tokens mean.  The tokens of a facet are alternatives: whether they are compared with columns of
a row, with the rows of a child table, or with everything at once, the condition of a facet holds of
a row exactly when the row matches one of the tokens.
-/

namespace PhotoCatalog.Query

open PhotoCatalog.Catalog

/-- What a condition means for rows, as far as its check has an answer. -/
def Condition.Means (condition : Condition) (meaning : Subject → Prop) : Prop :=
  ∀ (s : Subject) (truth : Truth), s.satisfies condition = .ok truth →
    (truth = some true ↔ meaning s)

theorem Condition.Means.holds_iff {condition : Condition} {meaning : Subject → Prop} {s : Subject}
    (hmeans : condition.Means meaning) (hanswers : s.Answers condition) :
    s.Holds condition ↔ meaning s := by
  obtain ⟨truth, htruth⟩ := hanswers
  rw [← hmeans s truth htruth, Subject.Holds, htruth, Except.ok.injEq]

theorem Condition.Means.congr {condition : Condition} {meaning meaning' : Subject → Prop}
    (hmeans : condition.Means meaning) (hsame : ∀ s, meaning s ↔ meaning' s) :
    condition.Means meaning' :=
  fun s truth htruth => (hmeans s truth htruth).trans (hsame s)

theorem anyOf_means (items : List Condition) :
    (Condition.anyOf items).Means fun s => ∃ item ∈ items, s.Holds item := by
  intro s truth htruth
  rw [Subject.satisfies] at htruth
  exact Subject.satisfiesAny_eq_true_iff htruth

theorem group_means (items : List Condition) :
    (Condition.group items).Means fun s => ∃ item ∈ items, s.Holds item :=
  fun _ _ htruth => Subject.group_eq_true_iff htruth

/-- A child table is searched row by row; a row that was passed over has been answered, so it does
not hide an item that holds. -/
theorem existsIn_group_means (table : ChildTable) (items : List Condition) :
    (Condition.existsIn table (.group items)).Means fun s =>
      ∃ child ∈ s.children table, ∃ item ∈ items, child.Holds item := by
  intro s truth htruth
  constructor
  · intro htrue
    obtain ⟨child, hchild, hholds⟩ := (Subject.existsIn_eq_true_iff htruth).mp htrue
    exact ⟨child, hchild, (group_means items child _ hholds).mp rfl⟩
  · rintro ⟨child, hchild, hitem⟩
    by_contra hnot
    have hanswers := Subject.answers_of_existsIn htruth hnot child hchild
    have hholds := ((group_means items).holds_iff hanswers).mpr hitem
    exact hnot ((Subject.existsIn_eq_true_iff htruth).mpr ⟨child, hchild, hholds⟩)

/-- The token that a facet compares with: among the tokens for paths, file addresses become plain
paths. -/
def plainToken (facet : ListFacet) (token : String) : Except Fault String :=
  if facet = .pathLike then Address.plainPath token else .ok token

/-- A row matches a token that has been made plain. -/
def MatchesPlain (facet : ListFacet) (token : String) (s : Subject) : Prop :=
  match facet.target with
  | .child table =>
    ∃ child ∈ s.children table, child.Holds (tokenCondition table.matchColumn token false)
  | .columns names =>
    ∃ column ∈ names, s.Holds (tokenCondition column token (facet = .pathLike))

/-- A row matches a token of a facet. -/
def Matches (facet : Facet) (token : String) (s : Subject) : Prop :=
  match facet with
  | .list f => ∃ plain, plainToken f token = .ok plain ∧ MatchesPlain f plain s
  | .any => ∃ item ∈ freeTextItems token, s.Holds item
  | _ => False

theorem childCondition_means (table : ChildTable) (tokens : List String) :
    (childCondition table tokens false).Means fun s => ∃ token ∈ tokens,
      ∃ child ∈ s.children table, child.Holds (tokenCondition table.matchColumn token false) := by
  refine (existsIn_group_means table _).congr fun s => ?_
  simp only [List.mem_map, exists_exists_and_eq_and]
  constructor
  · rintro ⟨child, hchild, token, htoken, hholds⟩
    exact ⟨token, htoken, child, hchild, hholds⟩
  · rintro ⟨token, htoken, child, hchild, hholds⟩
    exact ⟨child, hchild, token, htoken, hholds⟩

theorem textCondition_means (columns tokens : List String) (substring : Bool) :
    (textCondition columns tokens substring).Means fun s => ∃ token ∈ tokens,
      ∃ column ∈ columns, s.Holds (tokenCondition column token substring) := by
  refine (group_means _).congr fun s => ?_
  simp only [List.mem_flatMap, List.mem_map]
  constructor
  · rintro ⟨_, ⟨token, htoken, column, hcolumn, rfl⟩, hholds⟩
    exact ⟨token, htoken, column, hcolumn, hholds⟩
  · rintro ⟨token, htoken, column, hcolumn, hholds⟩
    exact ⟨_, ⟨token, htoken, column, hcolumn, rfl⟩, hholds⟩

theorem freeTextCondition_means (tokens : List String) :
    (freeTextCondition tokens).Means fun s => ∃ token ∈ tokens, Matches .any token s := by
  refine (anyOf_means _).congr fun s => ?_
  simp only [List.mem_flatMap, Matches]
  constructor
  · rintro ⟨item, ⟨token, htoken, hitem⟩, hholds⟩
    exact ⟨token, htoken, item, hitem, hholds⟩
  · rintro ⟨token, htoken, item, hitem, hholds⟩
    exact ⟨item, ⟨token, htoken, hitem⟩, hholds⟩

/-- The condition of plain tokens. -/
def plainCondition (facet : ListFacet) (plain : List String) : Condition :=
  match facet.target with
  | .child table => childCondition table plain false
  | .columns names => textCondition names plain (facet = .pathLike)

theorem plainCondition_means (facet : ListFacet) (plain : List String) :
    (plainCondition facet plain).Means fun s => ∃ token ∈ plain, MatchesPlain facet token s := by
  cases htarget : facet.target with
  | child table =>
      simpa only [plainCondition, MatchesPlain, htarget] using childCondition_means table plain
  | columns names =>
      simpa only [plainCondition, MatchesPlain, htarget] using
        textCondition_means names plain (facet = .pathLike)

/-- The condition of a token facet is that of its plain tokens. -/
theorem listCondition_eq_ok {facet : ListFacet} {tokens : List String} {condition : Condition}
    (hlist : listCondition facet tokens = .ok condition) :
    ∃ plain : List String, tokens.map (plainToken facet) = plain.map .ok ∧
      plainCondition facet plain = condition := by
  have htarget : ∀ plain : List String,
      (match facet.target with
        | .child table => pure (childCondition table plain false)
        | .columns names => pure (textCondition names plain (facet = .pathLike)) :
        Except Fault Condition) = .ok (plainCondition facet plain) := by
    intro plain
    rw [plainCondition]
    cases facet.target <;> rfl
  rw [listCondition] at hlist
  by_cases hpath : facet = .pathLike
  · rw [if_pos hpath] at hlist
    obtain ⟨plain, hplain, hlist⟩ := bind_eq_ok.mp hlist
    have hsame : plainToken facet = Address.plainPath := by
      funext token
      simp [plainToken, hpath]
    exact ⟨plain, hsame ▸ mapM_eq_ok.mp hplain,
      Except.ok.inj ((htarget plain).symm.trans hlist)⟩
  · rw [if_neg hpath] at hlist
    have hsame : plainToken facet = .ok := by
      funext token
      simp [plainToken, hpath]
    exact ⟨tokens, by rw [hsame], Except.ok.inj ((htarget tokens).symm.trans hlist)⟩

/-- The condition of several tokens holds exactly where one of them matches. -/
theorem asking_means {c : Criteria} {facet : Facet} {tokens : List String} {condition : Condition}
    (htakes : facet.takesTokens = true)
    (hcondition : facetCondition (c.asking facet tokens) facet = .ok (some condition)) :
    condition.Means fun s => ∃ token ∈ tokens, Matches facet token s := by
  cases facet with
  | list f =>
      simp only [facetCondition, Criteria.asking, Function.update_self] at hcondition
      obtain ⟨_, hasked, hlist⟩ := mapM_eq_ok_some_iff.mp hcondition
      obtain rfl := Option.some.inj hasked
      obtain ⟨plain, hplain, hsame⟩ := listCondition_eq_ok hlist
      refine (hsame ▸ plainCondition_means f plain).congr fun s => ?_
      have hmem : ∀ p, p ∈ plain ↔ ∃ token ∈ tokens, plainToken f token = .ok p := by
        intro p
        have hmap : Except.ok p ∈ tokens.map (plainToken f) ↔ p ∈ plain := by
          simp [hplain]
        simpa using hmap.symm
      simp only [Matches, hmem]
      constructor
      · rintro ⟨p, ⟨token, htoken, hp⟩, hmatches⟩
        exact ⟨token, htoken, p, hp, hmatches⟩
      · rintro ⟨token, htoken, p, hp, hmatches⟩
        exact ⟨p, ⟨token, htoken, hp⟩, hmatches⟩
  | any =>
      simp only [facetCondition, Criteria.asking, Option.map_some, Except.ok.injEq,
        Option.some.injEq] at hcondition
      rw [← hcondition]
      exact freeTextCondition_means tokens
  | range _ | flag _ | geoLocation => simp [Facet.takesTokens] at htakes

end PhotoCatalog.Query
