import SharedTables.Proofs.Text.Blank
import SharedTables.Proofs.Text.Split
import SharedTables.Table.Reference

/-! Paths of tables. A path is cut at its last number sign and the name after it
at its dots, so the name of a profile file may hold both. What is read is written
without the white space around its parts, and is then read as the same again. -/
namespace SharedTables

namespace TableReference

variable {cs : List Char}

/-- A piece of a name: it holds no dot, and not only white space. -/
structure Piece (cs : List Char) : Prop where
  undotted : '.' ∉ cs
  solid : ∃ c ∈ cs, Text.isBlank c = false

/-- A spelling of the name of a table: three pieces. -/
structure Spelling where
  share : List Char
  schema : List Char
  name : List Char
  pieces : ∀ piece ∈ [share, schema, name], Piece piece

/-- The pieces with dots between them. -/
def Spelling.chars (spelling : Spelling) : List Char :=
  spelling.share ++ '.' :: (spelling.schema ++ '.' :: spelling.name)

/-- The table that is spelled. White space around a piece does not count. -/
def Spelling.table (spelling : Spelling) : TableReference :=
  ⟨String.ofList (Text.trimChars spelling.share), String.ofList (Text.trimChars spelling.schema),
    String.ofList (Text.trimChars spelling.name)⟩

theorem Piece.trimmed (piece : Piece cs) : Piece (Text.trimChars cs) := by
  refine ⟨mt Text.mem_of_mem_trimChars piece.undotted, Text.trimChars_ne_nil_iff.mp ?_⟩
  rw [(Text.bare_trimChars cs).trimChars_eq]
  exact Text.trimChars_ne_nil_iff.mpr piece.solid

/-- The spelling without white space around the pieces. -/
def Spelling.trimmed (spelling : Spelling) : Spelling where
  share := Text.trimChars spelling.share
  schema := Text.trimChars spelling.schema
  name := Text.trimChars spelling.name
  pieces := by
    show ∀ piece ∈ [spelling.share, spelling.schema, spelling.name].map Text.trimChars, Piece piece
    exact List.forall_mem_map.mpr fun piece member => (spelling.pieces piece member).trimmed

theorem Spelling.trimmed_chars (spelling : Spelling) : spelling.trimmed.chars = spelling.table.text.toList := by
  simp [chars, trimmed, table, text]

theorem Spelling.mem_chars_of_trimmed {spelling : Spelling} {c : Char} (member : c ∈ spelling.trimmed.chars) :
    c ∈ spelling.chars := by
  simp only [chars, trimmed, List.mem_append, List.mem_cons] at member ⊢
  exact member.imp Text.mem_of_mem_trimChars
    (Or.imp_right (Or.imp Text.mem_of_mem_trimChars (Or.imp_right Text.mem_of_mem_trimChars)))

theorem Spelling.trimmed_table (spelling : Spelling) : spelling.trimmed.table = spelling.table := by
  simp only [table, trimmed, (Text.bare_trimChars _).trimChars_eq]

theorem splitAll_eq_pieces_iff {share schema name : List Char} : Text.splitAll '.' cs = [share, schema, name] ↔
    (∀ piece ∈ [share, schema, name], '.' ∉ piece) ∧ cs = share ++ '.' :: (schema ++ '.' :: name) := by
  simp [Text.splitAll_eq_iff, List.intercalate_cons_cons]

theorem ofChars?_eq_some_iff {table : TableReference} :
    ofChars? cs = some table ↔ ∃ spelling : Spelling, cs = spelling.chars ∧ table = spelling.table := by
  constructor
  · intro read
    unfold ofChars? at read
    split at read
    · rename_i parts
      obtain ⟨share, _, split, rfl, others⟩ := List.map_eq_cons_iff.mp parts
      obtain ⟨schema, _, rfl, rfl, last⟩ := List.map_eq_cons_iff.mp others
      obtain ⟨name, _, rfl, rfl, none_left⟩ := List.map_eq_cons_iff.mp last
      obtain rfl := List.map_eq_nil_iff.mp none_left
      obtain ⟨undotted, rfl⟩ := splitAll_eq_pieces_iff.mp split
      simp only [Bool.or_eq_true, List.isEmpty_iff, Option.ite_none_left_eq_some, not_or, Option.some.injEq] at read
      obtain ⟨⟨⟨shared, schemed⟩, named⟩, rfl⟩ := read
      have left : ∀ piece ∈ [share, schema, name], Text.trimChars piece ≠ [] := by simpa using ⟨shared, schemed, named⟩
      exact ⟨⟨share, schema, name, fun piece member =>
        ⟨undotted piece member, Text.trimChars_ne_nil_iff.mp (left piece member)⟩⟩, rfl, rfl⟩
    · cases read
  · rintro ⟨spelling, rfl, rfl⟩
    have split := splitAll_eq_pieces_iff.mpr ⟨fun piece member => (spelling.pieces piece member).undotted, rfl⟩
    have kept (piece : List Char) (member : piece ∈ [spelling.share, spelling.schema, spelling.name]) :
        Text.trimChars piece ≠ [] :=
      Text.trimChars_ne_nil_iff.mpr (spelling.pieces piece member).solid
    unfold ofChars?
    rw [Spelling.chars, split]
    simp [Spelling.table, kept]

/-- The name of a table is read as the table that it was read from. -/
theorem ofText_text (spelling : Spelling) : ofText spelling.table.text = .ok spelling.table := by
  have read : ofChars? spelling.table.text.toList = some spelling.table :=
    ofChars?_eq_some_iff.mpr ⟨spelling.trimmed, spelling.trimmed_chars.symm, spelling.trimmed_table.symm⟩
  rw [ofText, read]

theorem ofText_eq_ok_iff {s : String} {table : TableReference} :
    ofText s = .ok table ↔ ∃ spelling : Spelling, s.toList = spelling.chars ∧ table = spelling.table := by
  rw [← ofChars?_eq_some_iff, ofText]
  split <;> simp_all

end TableReference

namespace TablePath
open TableReference (Spelling)

/-- The texts that are paths of tables, and what they are read as. -/
theorem ofText_eq_ok_iff {s : String} {path : TablePath} : ofText s = .ok path ↔
    path.profileFile ≠ "" ∧ ∃ spelling : Spelling, '#' ∉ spelling.chars ∧
      s.toList = path.profileFile.toList ++ '#' :: spelling.chars ∧ path.table = spelling.table := by
  unfold ofText
  constructor
  · intro read
    split at read
    · rename_i file name parts
      obtain ⟨whole, unmarked⟩ := Text.splitLast?_eq_some_iff.mp parts
      split at read
      · cases read
      · rename_i filed
        split at read
        · rename_i table named
          cases read
          obtain ⟨spelling, rfl, rfl⟩ := TableReference.ofChars?_eq_some_iff.mp named
          exact ⟨by simpa using filed, spelling, unmarked, by simpa using whole, rfl⟩
        · cases read
    · cases read
  · rintro ⟨filed, spelling, unmarked, whole, tabled⟩
    have named := TableReference.ofChars?_eq_some_iff.mpr ⟨spelling, rfl, rfl⟩
    have file : path.profileFile.toList.isEmpty = false := by simpa using filed
    simp only [Text.splitLast?_eq_some_iff.mpr ⟨whole, unmarked⟩, file, Bool.false_eq_true, ↓reduceIte, named,
      String.ofList_toList, ← tabled]

/-- A profile file and a table, written with a number sign between them, are
read back, if the name of the table holds no number sign. -/
theorem ofText_text {file : String} (filed : file ≠ "") (spelling : Spelling)
    (unmarked : '#' ∉ spelling.table.text.toList) :
    ofText (text ⟨file, spelling.table⟩) = .ok ⟨file, spelling.table⟩ := by
  refine ofText_eq_ok_iff.mpr ⟨filed, spelling.trimmed, ?_, ?_, spelling.trimmed_table.symm⟩
  · rwa [spelling.trimmed_chars]
  · simp [text, spelling.trimmed_chars]

/-- A text is a path of a table exactly if something stands before its last
number sign and three pieces with dots between them stand after it, none of them
blank. It is read as the first part, unchanged, and the pieces without white
space around them. What was read is read again from its text, and so are any
profile file and any table of which no part holds a number sign. -/
theorem table_paths_split_exactly :
    (∀ s path, ofText s = .ok path ↔ path.profileFile ≠ "" ∧ ∃ spelling : Spelling, '#' ∉ spelling.chars ∧
      s.toList = path.profileFile.toList ++ '#' :: spelling.chars ∧ path.table = spelling.table) ∧
    (∀ s path, ofText s = .ok path →
      ofText path.text = .ok path ∧ TableReference.ofText path.table.text = .ok path.table) ∧
    ∀ file s table, file ≠ "" → TableReference.ofText s = .ok table →
      (∀ part ∈ [table.share, table.schema, table.name], '#' ∉ part.toList) →
      ofText (text ⟨file, table⟩) = .ok ⟨file, table⟩ ∧ TableReference.ofText table.text = .ok table := by
  refine ⟨fun s path => ofText_eq_ok_iff, fun s path read => ?_, fun file s table filed read unmarked => ?_⟩
  · obtain ⟨filed, spelling, unmarked, -, tabled⟩ := ofText_eq_ok_iff.mp read
    obtain ⟨file, _⟩ := path
    obtain rfl := tabled
    have clear : '#' ∉ spelling.table.text.toList := fun member =>
      unmarked (Spelling.mem_chars_of_trimmed (spelling.trimmed_chars ▸ member))
    exact ⟨ofText_text filed spelling clear, TableReference.ofText_text spelling⟩
  · obtain ⟨spelling, -, rfl⟩ := TableReference.ofText_eq_ok_iff.mp read
    have clear : '#' ∉ spelling.table.text.toList := by simpa [TableReference.text] using unmarked
    exact ⟨ofText_text filed spelling clear, TableReference.ofText_text spelling⟩

/-- A profile file with marks of its own in its name, and pieces with white
space of several kinds around them and inside. -/
theorem marked_profile_file_is_kept :
    let path : TablePath := ⟨"/my#a.share", ⟨"share 1", "schéma", "t"⟩⟩
    ofText "/my#a.share# share 1\u00a0.schéma\t.\u2003t\n" = .ok path ∧
      ofText path.text = .ok path ∧ TableReference.ofText path.table.text = .ok path.table ∧
      ofText (text ⟨"b#.c", path.table⟩) = .ok ⟨"b#.c", path.table⟩ := by
  intro path
  obtain ⟨-, again, composed⟩ := table_paths_split_exactly
  have read : ofText "/my#a.share# share 1\u00a0.schéma\t.\u2003t\n" = .ok path := by decide +kernel
  obtain ⟨whole, table⟩ := again _ path read
  have unmarked : [path.table.share, path.table.schema, path.table.name].all (!·.toList.contains '#') = true := by
    decide +kernel
  obtain ⟨other, -⟩ := composed "b#.c" _ path.table (by decide) table
    fun part member => by simpa using List.all_eq_true.mp unmarked part member
  exact ⟨read, whole, table, other⟩

end TablePath
end SharedTables
