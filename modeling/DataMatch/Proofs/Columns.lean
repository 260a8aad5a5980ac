import DataMatch.Format.Csv
import DataMatch.Proofs.Members
import DataMatch.Proofs.Traversal

/-! The objects that CSV records become. Each has the names of the header as its keys, every name
once and in the order of the columns, and under each name the cell of the last column that bears it.
A record is as long as the header, so no column is without a name. -/
namespace DataMatch.Csv

structure IsLastColumn (header : List String) (name : String) (column : Nat) : Prop where
  named : header[column]? = some name
  last : ∀ later, column < later → header[later]? ≠ some name

inductive ShowsRecord (header : List String) (row : Row) : Value → Prop
  | intro {texts : List String} {members : Members} (readable : cells row = .ok texts)
      (sameLength : texts.length = header.length)
      (named : ∀ column < texts.length, header[column]? = some (columnName header column))
      (keys : members.map (·.1) = header.eraseDups)
      (shown : ∀ member ∈ members, ∃ column text, IsLastColumn header member.1 column ∧
        texts[column]? = some text ∧ member.2 = .string text) :
      ShowsRecord header row (.object members)

/-- Objects show the records after the first one, which is the header. -/
inductive ShowsTable : List Row → List Value → Prop
  | empty : ShowsTable [] []
  | table {first : Row} {rest : List Row} {header : List String} {values : List Value}
      (named : cells first = .ok header) (each : List.Forall₂ (ShowsRecord header) rest values) :
      ShowsTable (first :: rest) values

section Columns

variable {header texts : List String} {name text : String} {column other : Nat} {row : Row}
  {v w : Value}

theorem IsLastColumn.unique (h : IsLastColumn header name column)
    (h' : IsLastColumn header name other) : column = other := by
  rcases Nat.lt_trichotomy column other with before | same | after
  · exact absurd h'.named (h.last other before)
  · exact same
  · exact absurd h.named (h'.last column after)

theorem columnName_of_lt (inside : column < header.length) :
    header[column]? = some (columnName header column) := by
  simp [columnName, inside]

theorem named_cells (sameLength : texts.length = header.length) :
    (texts.zipIdx.map fun (text, column) => (columnName header column, Value.string text)) =
      header.zip (texts.map .string) := by
  apply List.ext_getElem?
  intro column
  by_cases inside : column < header.length
  · simp [columnName, inside, sameLength]
  · have beyond : header.length ≤ column := Nat.not_lt.mp inside
    simp [beyond, sameLength]

theorem keys_object (sameLength : texts.length = header.length) :
    (Members.ofList (header.zip (texts.map Value.string))).map (·.1) = header.eraseDups := by
  rw [Members.keys_ofList, List.map_fst_zip]
  simp [sameLength]

theorem lookup_object (sameLength : texts.length = header.length)
    (found : (Members.ofList (header.zip (texts.map Value.string))).lookup name = some v) :
    ∃ column text, IsLastColumn header name column ∧ texts[column]? = some text ∧
      v = .string text := by
  rw [Members.lookup_ofList] at found
  obtain ⟨column, there, last⟩ := exists_last_of_lookup_reverse found
  obtain ⟨named, cell⟩ := List.getElem?_zip_eq_some.mp there
  rw [List.getElem?_map, Option.map_eq_some_iff] at cell
  obtain ⟨text, cell, rfl⟩ := cell
  refine ⟨column, text, ⟨named, fun later above same => ?_⟩, cell, rfl⟩
  obtain ⟨inside, _⟩ := List.getElem?_eq_some_iff.mp same
  have cell' : texts[later]? = some texts[later] := List.getElem?_eq_getElem (by omega)
  refine last later above (.string texts[later]) (List.getElem?_zip_eq_some.mpr ⟨same, ?_⟩)
  simp [cell']

theorem object_shows (readable : cells row = .ok texts)
    (sameLength : texts.length = header.length) : ShowsRecord header row (object header texts) := by
  rw [object, named_cells sameLength]
  refine .intro readable sameLength (fun column inside => columnName_of_lt (by omega))
    (keys_object sameLength) fun member inside => ?_
  have distinct := Members.nodup_keys_ofList (header.zip (texts.map Value.string))
  exact lookup_object sameLength ((lookup_eq_some_iff_mem distinct).mpr inside)

theorem members_ext {ms others : Members} (keys : ms.map (·.1) = others.map (·.1))
    (values : ∀ member ∈ ms, ∀ other ∈ others, member.1 = other.1 → member.2 = other.2) :
    ms = others := by
  induction ms generalizing others with
  | nil => exact (List.map_eq_nil_iff.mp keys.symm).symm
  | cons member ms ih =>
    cases others with
    | nil => contradiction
    | cons other others =>
      obtain ⟨key, keys⟩ := List.cons.inj keys
      have value := values member List.mem_cons_self other List.mem_cons_self key
      have rest := ih keys fun m inside o inside' =>
        values m (List.mem_cons_of_mem _ inside) o (List.mem_cons_of_mem _ inside')
      rw [rest, Prod.ext key value]

theorem ShowsRecord.unique (h : ShowsRecord header row v) (h' : ShowsRecord header row w) :
    v = w := by
  obtain ⟨readable, _, _, keys, shown⟩ := h
  obtain ⟨readable', _, _, keys', shown'⟩ := h'
  obtain rfl := Except.ok.inj (readable.symm.trans readable')
  refine congrArg Value.object (members_ext (keys.trans keys'.symm) ?_)
  intro member inside other inside' same
  obtain ⟨column, text, last, cell, value⟩ := shown member inside
  obtain ⟨column', text', last', cell', value'⟩ := shown' other inside'
  obtain rfl := last.unique (same ▸ last')
  rw [cell] at cell'
  rw [value, value', Option.some.inj cell']

theorem length_cells (readable : cells row = .ok texts) : texts.length = row.length := by
  unfold cells at readable
  split at readable
  · rename_i read
    cases readable
    induction row generalizing texts with
    | nil =>
      cases read
      rfl
    | cons cell row ih =>
      rw [List.mapM_cons] at read
      obtain ⟨text, _, read⟩ := Option.bind_eq_some_iff.mp read
      obtain ⟨others, rest, read⟩ := Option.bind_eq_some_iff.mp read
      cases read
      rw [List.length_cons, List.length_cons, ih rest]
  · contradiction

theorem readRow_eq_ok_iff :
    readRow header.length header row = .ok v ↔ ShowsRecord header row v := by
  by_cases fits : row.length = header.length
  · rw [readRow, if_neg (not_not.mpr fits)]
    constructor
    · intro read
      obtain ⟨texts, readable, rfl⟩ := map_eq_ok read
      exact object_shows readable ((length_cells readable).trans fits)
    · intro shows
      cases shows with
      | @intro texts members readable sameLength named keys shown =>
        have same := (object_shows readable sameLength).unique
          (.intro readable sameLength named keys shown)
        rw [readable, ← same]
        rfl
  · rw [readRow, if_pos fits]
    refine ⟨nofun, fun shows => ?_⟩
    cases shows with
    | intro readable sameLength => exact absurd ((length_cells readable).symm.trans sameLength) fits

end Columns

/-- A text is read exactly if its records, up to the header, can be shown as objects, and these
objects are what is read. -/
theorem read_shows_table (bytes : Bytes) (values : List Value) :
    read bytes = .ok values ↔ ShowsTable (rows bytes) values := by
  unfold read
  cases rows bytes with
  | nil =>
    constructor
    · intro read
      cases read
      exact .empty
    · intro shows
      cases shows
      rfl
  | cons first rest =>
    constructor
    · intro read
      obtain ⟨header, named, mapped⟩ := bind_eq_ok read
      rw [← length_cells named] at mapped
      have each := mapM_eq_ok_iff.mp mapped
      exact .table named (each.imp fun row v => readRow_eq_ok_iff.mp)
    · intro shows
      cases shows with
      | @table _ _ header _ named each =>
        have mapped := mapM_eq_ok_iff.mpr (each.imp fun row v => readRow_eq_ok_iff.mpr)
        rw [length_cells named] at mapped
        change (do let header ← cells first; rest.mapM (readRow first.length header)) = .ok values
        rw [named]
        exact mapped

example : read (Text.toBytes "a,b,a\n1,2,3\n") =
    .ok [.object [("a", .string "3"), ("b", .string "2")]] := by cbv

end DataMatch.Csv
