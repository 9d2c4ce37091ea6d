import Mathlib.Data.List.Basic
import SharedTables.File.Reference
import SharedTables.Proofs.Number.Digits
import SharedTables.Proofs.Text.Percent
import SharedTables.Proofs.Text.Split

/-! The path of a file leads back to the file. The id is coded without slashes
and a version holds none, so the last two slashes are those that were written
between the parts. Texts that others have written are read in the same way, and
what they say can be written again. -/
namespace SharedTables

namespace FilePath

theorem slash_not_mem_int (n : Int) : '/' ∉ (toString n).toList := fun member => by
  rcases Text.int_text_chars member with digit | sign
  · exact absurd digit (by decide)
  · exact absurd sign (by decide)

theorem encode_chars {path : FilePath} (encoded : encode scheme path = .ok text) :
    path.fileId ≠ "" ∧ text.toList = (scheme.toList ++ [':', '/']) ++
      ((path.tableLocation.toList ++ '/' :: (Text.percentEncode path.fileId).toList) ++
        '/' :: (toString path.commitVersion).toList) := by
  unfold encode at encoded
  split at encoded
  · cases encoded
  · rename_i named
    refine ⟨named, ?_⟩
    rw [← Except.ok.inj encoded]
    simp

theorem afterScheme?_eq_some_iff {scheme text : String} {body : List Char} :
    afterScheme? scheme text = some body ↔ text.toList = (scheme.toList ++ [':', '/']) ++ body := by
  simp only [afterScheme?, Option.ite_none_right_eq_some, List.isPrefixOf_iff_prefix, Option.some.injEq]
  constructor
  · rintro ⟨⟨rest, chars⟩, rfl⟩
    rw [← chars, List.drop_left]
  · intro chars
    rw [chars]
    exact ⟨List.prefix_append _ _, List.drop_left⟩

theorem segments?_eq_some_iff {cs location id version : List Char} :
    segments? cs = some (location, id, version) ↔
      cs = (location ++ '/' :: id) ++ '/' :: version ∧ '/' ∉ version ∧ '/' ∉ id ∧ location ≠ [] ∧ id ≠ [] := by
  simp only [segments?, Option.bind_eq_bind, Option.bind_eq_some_iff, Prod.exists, Text.splitLast?_eq_some_iff]
  constructor
  · rintro ⟨before, version, ⟨rfl, unversioned⟩, location, id, ⟨rfl, plain⟩, parts⟩
    simp only [Option.ite_none_left_eq_some, Bool.or_eq_true, List.isEmpty_iff, not_or, Option.some.injEq,
      Prod.mk.injEq] at parts
    obtain ⟨⟨located, coded⟩, rfl, rfl, rfl⟩ := parts
    exact ⟨rfl, unversioned, plain, located, coded⟩
  · rintro ⟨rfl, unversioned, plain, located, coded⟩
    exact ⟨_, _, ⟨rfl, unversioned⟩, _, _, ⟨rfl, plain⟩, by simp [located, coded]⟩

/-- The texts that are paths, whoever wrote them: what stands between the last
two slashes is the coded id, and all before it is the location. -/
theorem decode_eq_ok_iff {scheme text : String} {path : FilePath} : decode scheme text = .ok path ↔
    ∃ id version, text.toList = (scheme.toList ++ [':', '/']) ++
        ((path.tableLocation.toList ++ '/' :: id) ++ '/' :: version) ∧
      '/' ∉ version ∧ '/' ∉ id ∧ path.tableLocation ≠ "" ∧ id ≠ [] ∧
      Text.percentDecode (String.ofList id) = path.fileId ∧
      readInt? (String.ofList version) = some path.commitVersion := by
  constructor
  · intro decoded
    unfold decode at decoded
    split at decoded
    · cases decoded
    · rename_i body schemed
      split at decoded
      · cases decoded
      · rename_i location id version parts
        split at decoded
        · cases decoded
        · rename_i number read
          cases decoded
          obtain ⟨rfl, unversioned, plain, located, coded⟩ := segments?_eq_some_iff.mp parts
          refine ⟨id, version, ?_, unversioned, plain, by simpa using located, coded, rfl, read⟩
          rw [afterScheme?_eq_some_iff.mp schemed, String.toList_ofList]
  · rintro ⟨id, version, chars, unversioned, plain, located, coded, decoded, read⟩
    have location : path.tableLocation.toList ≠ [] := by simpa using located
    simp only [decode, afterScheme?_eq_some_iff.mpr chars,
      segments?_eq_some_iff.mpr ⟨rfl, unversioned, plain, location, coded⟩, read, decoded, String.ofList_toList]

/-- The path of a file with an id, of a table with a location, is decoded to
what it was made from. -/
theorem decode_encode {path : FilePath} (located : path.tableLocation ≠ "")
    (encoded : encode scheme path = .ok text) : decode scheme text = .ok path := by
  obtain ⟨named, chars⟩ := encode_chars encoded
  refine decode_eq_ok_iff.mpr ⟨_, _, chars, slash_not_mem_int _, Text.slash_not_mem_percentEncode _, located,
    Text.percentEncode_ne_nil named, ?_, ?_⟩
  · rw [String.ofList_toList, Text.percentDecode_percentEncode]
  · rw [String.ofList_toList, readInt?_toString]

/-- A file that a path names has a location and an id. -/
theorem named_of_decode {path : FilePath} (decoded : decode scheme text = .ok path) :
    path.tableLocation ≠ "" ∧ path.fileId ≠ "" := by
  obtain ⟨id, version, -, -, -, located, coded, named, -⟩ := decode_eq_ok_iff.mp decoded
  refine ⟨located, named ▸ Text.percentDecode_ne_empty fun empty => coded ?_⟩
  simpa using congrArg String.toList empty

/-- Every file of a table with a location has a path that is decoded to it, if
it has an id. These are all the files that paths name: whatever a text that is
read as a path looks like, its file can be written, and is read as the same again. -/
theorem paths_round_trip (scheme : String) :
    (∀ path : FilePath, path.tableLocation ≠ "" → path.fileId ≠ "" →
      ∃ text, encode scheme path = .ok text ∧ decode scheme text = .ok path) ∧
    ∀ foreign path, decode scheme foreign = .ok path →
      ∃ text, encode scheme path = .ok text ∧ decode scheme text = .ok path := by
  have written (path : FilePath) (located : path.tableLocation ≠ "") (named : path.fileId ≠ "") :
      ∃ text, encode scheme path = .ok text ∧ decode scheme text = .ok path := by
    cases encoded : encode scheme path with
    | error e => simp [encode, named] at encoded
    | ok text => exact ⟨text, rfl, decode_encode located encoded⟩
  refine ⟨written, fun foreign path decoded => ?_⟩
  obtain ⟨located, named⟩ := named_of_decode decoded
  exact written path located named

/-- A location and an id with marks of their own, and a path of another writer
with a cut percent sign, half a character and a grouped version. -/
theorem unusual_paths_round_trip :
    let file : FilePath := ⟨"/home/a%2Fb#é\n/", "part 1/ü%00", -7⟩
    let foreign := "tables:/here//there/%ff%e2%82%4/ +1_0"
    let meant : FilePath := ⟨"here//there", "\ufffd\ufffd%4", 10⟩
    (∃ text, encode "tables" file = .ok text ∧ decode "tables" text = .ok file) ∧
      decode "tables" foreign = .ok meant ∧
      ∃ text, encode "tables" meant = .ok text ∧ decode "tables" text = .ok meant := by
  intro file foreign meant
  have decoded : decode "tables" foreign = .ok meant := by decide +kernel
  obtain ⟨written, rewritten⟩ := paths_round_trip "tables"
  exact ⟨written file (by decide) (by decide), decoded, rewritten foreign meant decoded⟩

end FilePath

namespace FileReference

/-- Every file with an id has a path, which leads back to its key, its id and
its version. -/
theorem decode_path {file : FileReference} (named : file.fileId ≠ "") (keyed : file.tableKey ≠ "") :
    ∃ path, file.path = .ok path ∧
      FilePath.decode file.scheme path = .ok ⟨file.tableKey, file.fileId, file.commitVersion⟩ := by
  have encoded : ∃ path, file.path = .ok path := by
    simp only [path, FilePath.encode, named, ↓reduceIte]
    exact ⟨_, rfl⟩
  obtain ⟨path, encoded⟩ := encoded
  exact ⟨path, encoded, FilePath.decode_encode keyed encoded⟩

end FileReference
end SharedTables
