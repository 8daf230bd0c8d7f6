import Mathlib.Data.List.Basic
import PhotoCatalog.Proofs.Search.Repeat

/-!
Embedded images.  The address of an embedded image holds its kind and all of its bytes, and nothing
of the two is lost: the bytes are read back from the address, and two addresses are the same only
for files of the same bytes and the same kind.  So a search that leaves an image out because its
address has been seen has seen an image that looks the same.
-/

namespace PhotoCatalog.Image

open PhotoCatalog.Address

namespace Base64

theorem valueOf?_charOf : ∀ value < 64, valueOf? (charOf value) = some value := by decide

/-- No digit is a mark of an address or fills up a group. -/
theorem charOf_ne (value : Nat) : charOf value ≠ '=' ∧ charOf value ≠ ',' ∧ charOf value ≠ ';' := by
  by_cases hvalue : value < 64
  · have hall : ∀ value < 64, charOf value ≠ '=' ∧ charOf value ≠ ',' ∧ charOf value ≠ ';' := by
      decide
    exact hall value hvalue
  · have hlast : charOf value = '/' := by
      rw [charOf, if_neg (by omega), if_neg (by omega), if_neg (by omega), if_neg (by omega)]
    rw [hlast]
    decide

/-- A group of four digits is three bytes, whatever follows it. -/
theorem decode?_group {n : Nat} (hn : n < 16777216) (rest : List Char) :
    decode? (charOf (n / 262144) :: charOf (n / 4096 % 64) :: charOf (n / 64 % 64) ::
        charOf (n % 64) :: rest) =
      (decode? rest).map fun bytes => UInt8.ofNat (n / 65536) :: UInt8.ofNat (n / 256 % 256) ::
        UInt8.ofNat (n % 256) :: bytes := by
  have hlast : charOf (n % 64) ≠ '=' := (charOf_ne _).1
  have hsum : ((n / 262144 * 64 + n / 4096 % 64) * 64 + n / 64 % 64) * 64 + n % 64 = n := by omega
  rw [decode?.eq_4 _ _ _ _ _ (by simp [hlast]) (by simp [hlast]), valueOf?_charOf _ (by omega),
    valueOf?_charOf _ (by omega), valueOf?_charOf _ (by omega), valueOf?_charOf _ (by omega)]
  simp only [Option.bind_eq_bind, Option.bind_some, Option.pure_def, hsum]
  cases decode? rest <;> rfl

/-- Decoding undoes encoding: one case for each number of bytes in the last group. -/
theorem decode?_encode (bytes : List UInt8) : decode? (encode bytes) = some bytes := by
  fun_induction encode bytes with
  | case1 => rfl
  | case2 a n =>
      have ha : a.toNat < 256 := a.toNat_lt
      have hsum : (n / 64 * 64 + n % 64) / 16 = a.toNat := by omega
      rw [decode?.eq_2, valueOf?_charOf _ (by omega), valueOf?_charOf _ (by omega)]
      simp only [Option.bind_eq_bind, Option.bind_some, Option.pure_def, hsum, UInt8.ofNat_toNat]
  | case3 a b n =>
      have ha : a.toNat < 256 := a.toNat_lt
      have hb : b.toNat < 256 := b.toNat_lt
      have hthird : charOf (n % 64) ≠ '=' := (charOf_ne _).1
      have hsum : (n / 4096 * 64 + n / 64 % 64) * 64 + n % 64 = n := by omega
      rw [decode?.eq_3 _ _ _ (by simp [hthird]), valueOf?_charOf _ (by omega),
        valueOf?_charOf _ (by omega), valueOf?_charOf _ (by omega)]
      have hfirst : n / 1024 = a.toNat := by omega
      have hsecond : n / 4 % 256 = b.toNat := by omega
      simp only [Option.bind_eq_bind, Option.bind_some, Option.pure_def, hsum, hfirst, hsecond,
        UInt8.ofNat_toNat]
  | case4 a b c rest n ih =>
      have ha : a.toNat < 256 := a.toNat_lt
      have hb : b.toNat < 256 := b.toNat_lt
      have hc : c.toNat < 256 := c.toNat_lt
      have hfirst : n / 65536 = a.toNat := by omega
      have hsecond : n / 256 % 256 = b.toNat := by omega
      have hthird : n % 256 = c.toNat := by omega
      rw [decode?_group (by omega), ih, Option.map_some, hfirst, hsecond, hthird]
      simp only [UInt8.ofNat_toNat]

theorem mark_not_mem_encode (bytes : List UInt8) : ',' ∉ encode bytes ∧ ';' ∉ encode bytes := by
  have hne := fun value => (charOf_ne value).2
  fun_induction encode bytes with
  | case1 => simp
  | case2 a n => simp [(hne _).1.symm, (hne _).2.symm]
  | case3 a b n => simp [(hne _).1.symm, (hne _).2.symm]
  | case4 a b c rest n ih => simp [(hne _).1.symm, (hne _).2.symm, ih]

end Base64

/-- The file at a path can be read and holds these bytes. -/
def Folder.Holds (folder : Folder) (path : String) (data : List UInt8) : Prop :=
  PathName.isMalformed path = false ∧ folder.read (PathName.ofText path) = .ok data

variable {folder : Folder} {path address : String} {data : List UInt8}

theorem Folder.Holds.embed_eq (hholds : folder.Holds path data) :
    embed folder path = pure (dataAddress (mimeType path) data) := by
  rw [embed, hholds.1, if_neg Bool.false_ne_true, hholds.2]

/-- An image is looked at under the address of its file, or else its path is kept. -/
theorem holds_or_kept (haddress : (embed folder path).result = .ok address) :
    (∃ data, folder.Holds path data ∧ address = dataAddress (mimeType path) data) ∨
      (∀ data, ¬folder.Holds path data) ∧ address = path := by
  rw [embed] at haddress
  split at haddress
  · cases haddress
  · rename_i hname
    split at haddress
    · rename_i data hread
      obtain rfl := Except.ok.inj haddress
      exact Or.inl ⟨data, ⟨by simpa using hname, hread⟩, rfl⟩
    · rename_i fault hread
      obtain rfl := Except.ok.inj haddress
      refine Or.inr ⟨fun data hholds => ?_, rfl⟩
      rw [hholds.2] at hread
      cases hread

/-- The kind of an image has no mark of an address in it. -/
theorem mark_not_mem_mimeType (path : String) :
    ',' ∉ (mimeType path).toList ∧ ';' ∉ (mimeType path).toList := by
  have htable : ∀ entry ∈ mimeTypes, ',' ∉ entry.2.toList ∧ ';' ∉ entry.2.toList := by decide
  rw [mimeType]
  cases hlookup : mimeTypes.lookup (PathName.ofText path).suffix with
  | none => decide
  | some mime =>
      obtain ⟨before, after, hentry, -⟩ := List.lookup_eq_some_iff.mp hlookup
      have hmem : ((PathName.ofText path).suffix, mime) ∈ mimeTypes := by simp [hentry]
      exact htable _ hmem

/-- The mark before the bytes of an image. -/
def bytesMark : String := "base64,"

/-- The bytes are read back from what stands behind their mark, wherever one finds it. -/
theorem decode?_behind_mark {before after : String}
    (hsplit : dataAddress (mimeType path) data = before ++ bytesMark ++ after) :
    Base64.decode? after.toList = some data := by
  have hcomma : ',' ∉ "data:".toList ++ (mimeType path).toList ++ ";base64".toList := by
    simp [(mark_not_mem_mimeType path).1]
  have hlists : ("data:".toList ++ (mimeType path).toList ++ ";base64".toList) ++
      ',' :: Base64.encode data = (before.toList ++ "base64".toList) ++ ',' :: after.toList := by
    have htexts := congrArg String.toList hsplit
    simpa [dataAddress, bytesMark] using htexts
  obtain ⟨-, -, hdata⟩ := (List.append_cons_inj_of_notMem hcomma
    (Base64.mark_not_mem_encode data).1).mp hlists
  rw [← hdata, Base64.decode?_encode]

theorem exists_mark (path : String) (data : List UInt8) :
    ∃ before after, dataAddress (mimeType path) data = before ++ bytesMark ++ after := by
  refine ⟨"data:" ++ mimeType path ++ ";", String.ofList (Base64.encode data), ?_⟩
  apply String.toList_inj.mp
  simp [dataAddress, bytesMark]

/-- An address tells the kind and the bytes of an image. -/
theorem dataAddress_inj {other : String} {data' : List UInt8} :
    dataAddress (mimeType path) data = dataAddress (mimeType other) data' ↔
      data = data' ∧ mimeType path = mimeType other := by
  constructor
  · intro hsame
    have hnone : ';' ∉ "data:".toList ++ (mimeType other).toList := by
      simp [(mark_not_mem_mimeType other).2]
    have hnone' : ';' ∉ bytesMark.toList ++ Base64.encode data' := by
      simp [bytesMark, (Base64.mark_not_mem_encode data').2]
    have hlists : ("data:".toList ++ (mimeType other).toList) ++
        ';' :: (bytesMark.toList ++ Base64.encode data') = ("data:".toList ++
          (mimeType path).toList) ++ ';' :: (bytesMark.toList ++ Base64.encode data) := by
      have htexts := congrArg String.toList hsame.symm
      simpa [dataAddress, bytesMark] using htexts
    obtain ⟨hkind, -, hdata⟩ := (List.append_cons_inj_of_notMem hnone hnone').mp hlists
    have hread := congrArg Base64.decode? (List.append_cancel_left hdata)
    rw [Base64.decode?_encode, Base64.decode?_encode] at hread
    exact ⟨(Option.some.inj hread).symm,
      (String.toList_inj.mp (List.append_cancel_left hkind)).symm⟩
  · rintro ⟨rfl, hkind⟩
    rw [hkind]

theorem isEmbedded_dataAddress (mime : String) (data : List UInt8) :
    isEmbedded (dataAddress mime data) = true := by
  simp [isEmbedded, dataAddress]

/-- An image that is looked at under the same address as a file holds the same bytes and is of the
same kind, for a path that is kept is no address. -/
theorem holds_of_same_address {other : String} (hother : isEmbedded other = false)
    (hsame : (embed folder other).result = .ok (dataAddress (mimeType path) data)) :
    folder.Holds other data ∧ mimeType other = mimeType path := by
  rcases holds_or_kept hsame with ⟨data', hdata', haddress⟩ | ⟨-, hkept⟩
  · obtain ⟨rfl, hkind⟩ := dataAddress_inj.mp haddress
    exact ⟨hdata', hkind.symm⟩
  · rw [← hkept, isEmbedded_dataAddress] at hother
    cases hother

end PhotoCatalog.Image

namespace PhotoCatalog.Search

open PhotoCatalog.Catalog PhotoCatalog.Image

/-- Records stand for the image at a path: one of them came of a row with this path, or of a row
with an image of the same bytes and the same kind. -/
def Task.StandFor (task : Task) (records : List Record) (rows : List Row) (path : String)
    (data : List UInt8) : Prop :=
  ∃ record ∈ records, ∃ row ∈ rows, task.Yields record (.row row) ∧
    (rowPath row = path ∨
      task.folder.Holds (rowPath row) data ∧ mimeType (rowPath row) = mimeType path)

variable {task : Task} {record : Record} {row : Row} {path : String} {data : List UInt8}

/-- What belongs to the record of a row is the path of the row, or the address of its image. -/
theorem Task.Yields.belongs_row (hyields : task.Yields record (.row row))
    (hbelongs : task.Belongs path record (.row row)) :
    path = rowPath row ∨ (embed task.folder (rowPath row)).result = .ok path := by
  obtain ⟨read, hread, -, hresult⟩ := hyields
  have hname : read.path = rowPath row := Record.path_of_ofRow hread
  rcases hbelongs with rfl | hpath | haddress
  · split at hresult
    · obtain ⟨address, haddress, rfl⟩ := hresult
      exact Or.inr (hname ▸ haddress)
    · rw [hresult, task.restricted_path, hname]
      exact Or.inl rfl
  · exact Or.inl hpath
  · exact Or.inr haddress

/-- A fresh search has a record for every image that passes the threshold, or for one of the same
bytes and the same kind. -/
theorem Task.Passes.standFor {rows : List Row} {records : List Record} {seen : Seen}
    (hpasses : task.Passes .empty (rows.map .row) records seen)
    (hplain : ∀ row ∈ rows, isEmbedded (rowPath row) = false) (hrow : row ∈ rows) {read : Record}
    (hread : (Record.ofRow row).result = .ok read) (hkeeps : task.keeps read = true)
    (hholds : task.folder.Holds read.path data) :
    task.StandFor records rows read.path data := by
  have hexplained : ∀ path ∈ seen.paths, ∃ record ∈ records, ∃ row ∈ rows,
      task.Yields record (.row row) ∧
        (path = rowPath row ∨ (embed task.folder (rowPath row)).result = .ok path) := by
    intro path hpath
    obtain ⟨record, hrecord, candidate, hcandidate, hyields, hbelongs⟩ :=
      (hpasses.explained path hpath).resolve_left List.not_mem_nil
    obtain ⟨row, hrow, rfl⟩ := List.mem_map.mp hcandidate
    exact ⟨record, hrecord, row, hrow, hyields, hyields.belongs_row hbelongs⟩
  obtain ⟨read', hread', hseen⟩ := hpasses.covered _ (List.mem_map_of_mem hrow)
  obtain rfl : read = read' := Except.ok.inj (hread.symm.trans hread')
  have hself : isEmbedded read.path = false := by
    rw [Record.path_of_ofRow hread]
    exact hplain row hrow
  rcases hseen hkeeps with hpath | ⟨address, haddress, hmem⟩
  · obtain ⟨record, hrecord, other, hother, hyields, hsame⟩ := hexplained _ hpath
    refine ⟨record, hrecord, other, hother, hyields, Or.inl ?_⟩
    rcases hsame with hsame | hsame
    · exact hsame.symm
    · exact ((isEmbedded_or_eq hsame).resolve_left (by simp [hself])).symm
  · rw [hholds.embed_eq] at haddress
    obtain rfl := Except.ok.inj haddress
    obtain ⟨record, hrecord, other, hother, hyields, hsame⟩ := hexplained _ hmem
    refine ⟨record, hrecord, other, hother, hyields, Or.inr ?_⟩
    rcases hsame with hsame | hsame
    · have hembedded := isEmbedded_dataAddress (mimeType read.path) data
      rw [hsame, hplain other hother] at hembedded
      cases hembedded
    · exact holds_of_same_address (hplain other hother) hsame

/-- The addresses of files that can be read tell exactly their kinds and their bytes, which are read
back from what stands behind the mark; none of them is a path that was kept because its file cannot
be read.  So a fresh search over paths that are no addresses leaves out a file that passes the
threshold only for a record of the same path, or of a file of the same bytes and the same kind. -/
theorem embed_tells_images_apart {folder : Folder} {p q : String} {a b : List UInt8}
    (hp : folder.Holds p a) (hq : folder.Holds q b) :
    ∃ u v, embed folder p = pure u ∧ embed folder q = pure v ∧
      (∃ before after, u = before ++ bytesMark ++ after) ∧
      (∀ before after, u = before ++ bytesMark ++ after → Base64.decode? after.toList = some a) ∧
      (u = v ↔ a = b ∧ mimeType p = mimeType q) ∧
      (∀ path address, isEmbedded path = false → (∀ data, ¬folder.Holds path data) →
        (embed folder path).result = .ok address → address = path ∧ u ≠ address) ∧
      ∀ (task : Task) (ask : Query.Statement → Answer), task.folder = folder →
        (task.find ask [] .empty).fault = none →
        ∃ statement, Query.compile task.criteria = .ok statement ∧
          ((∀ row ∈ (ask statement).rows, isEmbedded (rowPath row) = false) →
            ∀ row ∈ (ask statement).rows, ∀ read, (Record.ofRow row).result = .ok read →
              task.keeps read = true → read.path = p →
              task.StandFor (task.find ask [] .empty).records (ask statement).rows p a) := by
  refine ⟨_, _, hp.embed_eq, hq.embed_eq, exists_mark p a, fun _ _ => decode?_behind_mark,
    dataAddress_inj, ?_, ?_⟩
  · intro path address hplain hfails haddress
    have hkept : address = path := by
      rcases holds_or_kept haddress with ⟨data, hdata, -⟩ | ⟨-, hkept⟩
      · exact absurd hdata (hfails data)
      · exact hkept
    refine ⟨hkept, ?_⟩
    rintro rfl
    rw [← hkept, isEmbedded_dataAddress] at hplain
    cases hplain
  · rintro task ask rfl hfault
    obtain ⟨statement, hcompile, -, hpasses⟩ := Task.passes_of_find hfault
    refine ⟨statement, hcompile, ?_⟩
    rintro hplain row hrow read hread hkeeps rfl
    exact hpasses.standFor hplain hrow hread hkeeps hp

/-- Two files of different kinds that hold the same bytes. -/
def alikeFiles : Folder := .ofList [("a.png", [0xFF, 0xFF, 0xFE]), ("b.jpg", [0xFF, 0xFF, 0xFE])]

theorem embed_tells_images_apart_alike :
    alikeFiles.Holds "a.png" [0xFF, 0xFF, 0xFE] ∧ alikeFiles.Holds "b.jpg" [0xFF, 0xFF, 0xFE] ∧
      ∃ u v, embed alikeFiles "a.png" = pure u ∧ embed alikeFiles "b.jpg" = pure v ∧ u ≠ v ∧
        ∀ before after, u = before ++ bytesMark ++ after →
          Base64.decode? after.toList = some [0xFF, 0xFF, 0xFE] := by
  have hfirst : alikeFiles.Holds "a.png" [0xFF, 0xFF, 0xFE] := ⟨by decide +kernel, rfl⟩
  have hsecond : alikeFiles.Holds "b.jpg" [0xFF, 0xFF, 0xFE] := ⟨by decide +kernel, rfl⟩
  have hkinds : mimeType "a.png" ≠ mimeType "b.jpg" := by decide +kernel
  obtain ⟨u, v, hu, hv, -, hread, hsame, -⟩ := embed_tells_images_apart hfirst hsecond
  exact ⟨hfirst, hsecond, u, v, hu, hv, fun heq => hkinds (hsame.mp heq).2, hread⟩

end PhotoCatalog.Search
