import Mathlib.Data.List.Nodup
import SharedTables.Schema.Compatibility
import SharedTables.Schema.Reader

/-! The two ways of matching a live table with the plan. An exact match is
equality of schemas. A structural match looks every planned field up by its
name, and a name that occurs twice belongs to no field: a table that repeats a
name is refused even when nothing about it has changed. -/
namespace SharedTables

namespace ColumnType

mutual
/-- Two types are the same in every part exactly if they are equal. -/
theorem same_iff : (a b : ColumnType) → (a.same b = true ↔ a = b)
  | .plain _, .plain _ => by simp [same]
  | .decimal _ _, .decimal _ _ => by simp [same]
  | .list a _, .list b _ => by simp [same, same_iff a b]
  | .struct fs, .struct gs => by simp [same, sameFields_iff fs gs]
  | .map k v _, .map k' v' _ => by simp [same, same_iff k k', same_iff v v', and_assoc]
  | .plain _, .decimal _ _ | .plain _, .list _ _ | .plain _, .struct _ | .plain _, .map _ _ _
  | .decimal _ _, .plain _ | .decimal _ _, .list _ _ | .decimal _ _, .struct _ | .decimal _ _, .map _ _ _
  | .list _ _, .plain _ | .list _ _, .decimal _ _ | .list _ _, .struct _ | .list _ _, .map _ _ _
  | .struct _, .plain _ | .struct _, .decimal _ _ | .struct _, .list _ _ | .struct _, .map _ _ _
  | .map _ _ _, .plain _ | .map _ _ _, .decimal _ _ | .map _ _ _, .list _ _ | .map _ _ _, .struct _ => by
    simp [same]

/-- Two lists of fields agree exactly if they are equal. -/
theorem sameFields_iff : (fs gs : List (Field ColumnType)) → (sameFields fs gs = true ↔ fs = gs)
  | [], [] => by simp [sameFields]
  | [], _ :: _ => by simp [sameFields]
  | _ :: _, [] => by simp [sameFields]
  | ⟨_, type, _⟩ :: rest, ⟨_, type', _⟩ :: rest' => by
    simp [sameFields, same_iff type type', sameFields_iff rest rest', and_assoc]
end

end ColumnType

namespace Schema

/-- An exact match is equality of the schemas and of the partition columns. -/
theorem exact_ok_iff {planned live : Schema} {partitions partitions' : List String} :
    checkCompatible .exact planned live partitions partitions' = .ok () ↔
      partitions = partitions' ∧ planned = live := by
  simp only [checkCompatible, ← ColumnType.sameFields_iff planned live]
  by_cases partition : partitions = partitions' <;>
    cases ColumnType.sameFields planned live <;> simp [partition]

theorem checkFields_ok_iff {live fields : Schema} :
    checkFields live fields = .ok () ↔
      ∀ field ∈ fields, ∃ found, live.find? field.name = some found ∧ found.type = field.type := by
  induction fields with
  | nil => simp [checkFields]
  | cons field rest ih =>
    rw [checkFields, checkField, List.forall_mem_cons, ← ih]
    cases live.find? field.name with
    | none => simp
    | some found =>
      cases types : found.type.same field.type <;> simp [types, ← ColumnType.same_iff]

/-- A structural match finds every planned field under its name, with its type. -/
theorem structural_ok_iff {planned live : Schema} {partitions partitions' : List String} :
    checkCompatible .structural planned live partitions partitions' = .ok () ↔
      partitions = partitions' ∧
        ∀ field ∈ planned, ∃ found, live.find? field.name = some found ∧ found.type = field.type := by
  rw [checkCompatible, ← checkFields_ok_iff]
  by_cases partition : partitions = partitions' <;> simp [partition]

/-- Whether more than one field of a schema has a name. -/
def repeats (schema : Schema) (name : String) : Bool := 1 < (schema.map (·.name)).count name

theorem nodup_names_iff {schema : Schema} :
    (schema.map (·.name)).Nodup ↔ ∀ field ∈ schema, schema.repeats field.name = false := by
  simp only [List.nodup_iff_count_le_one, repeats, decide_eq_false_iff_not, Nat.not_lt]
  refine ⟨fun once field _ => once field.name, fun once name => ?_⟩
  by_cases named : name ∈ schema.map (·.name)
  · obtain ⟨field, member, rfl⟩ := List.mem_map.mp named
    exact once field member
  · simp [List.count_eq_zero_of_not_mem named]

/-- A field is found under its name exactly if no other field has the name. -/
theorem find?_of_mem {schema : Schema} {field : Field ColumnType} (member : field ∈ schema) :
    schema.find? field.name = if schema.repeats field.name then none else some field := by
  have named : field ∈ schema.filter (·.name = field.name) := by simpa using member
  have counted : (schema.map (·.name)).count field.name = (schema.filter (·.name = field.name)).length := by
    rw [List.count, List.countP_map, List.countP_eq_length_filter]
    rfl
  rw [Schema.find?, repeats, counted]
  generalize schema.filter (·.name = field.name) = found at named
  match found, named with
  | [only], named => simp [List.mem_singleton.mp named]
  | _ :: _ :: _, _ => simp

/-- Fields of a schema, looked up in the schema itself, are refused at the first
name that is repeated there. -/
theorem checkFields_of_subset {schema fields : Schema} (members : ∀ field ∈ fields, field ∈ schema) :
    checkFields schema fields =
      ((fields.map (·.name)).find? schema.repeats).elim (.ok ()) fun name => .error (.missingField name) := by
  induction fields with
  | nil => rfl
  | cons field rest ih =>
    obtain ⟨member, others⟩ := List.forall_mem_cons.mp members
    rw [checkFields, checkField, find?_of_mem member, ih others]
    cases repeated : schema.repeats field.name with
    | false => simp [repeated, (ColumnType.same_iff field.type field.type).mpr rfl]
    | true => simp [repeated]

/-- What is matched exactly is matched structurally exactly if no planned name
is repeated. If one is, the first such name is reported as gone, although its
fields are still there with the same types. -/
theorem structural_match_of_exact {planned live : Schema} {partitions partitions' : List String}
    (exact : checkCompatible .exact planned live partitions partitions' = .ok ()) :
    (checkCompatible .structural planned live partitions partitions' = .ok () ↔
        (planned.map (·.name)).Nodup) ∧
      ∀ name, (planned.map (·.name)).find? planned.repeats = some name →
        checkCompatible .structural planned live partitions partitions' = .error (.missingField name) := by
  obtain ⟨rfl, rfl⟩ := exact_ok_iff.mp exact
  constructor
  · rw [structural_ok_iff, nodup_names_iff, and_iff_right rfl]
    refine forall₂_congr fun field member => ?_
    rw [find?_of_mem member]
    cases planned.repeats field.name <;> simp
  · intro name first
    have checked := checkFields_of_subset fun field (member : field ∈ planned) => member
    rw [first] at checked
    rw [checkCompatible, if_neg (not_not_intro rfl)]
    exact checked

/-- Only the names of columns have to differ. Inside of a column they may repeat. -/
theorem unchanged_table_passes_structurally :
    let point : ColumnType := .struct [⟨"x", .plain .double, true⟩, ⟨"x", .plain .double, true⟩]
    let schema : Schema := [⟨"id", .plain .int64, false⟩, ⟨"place", point, true⟩]
    checkCompatible .exact schema schema ["id"] ["id"] = .ok () ∧
      checkCompatible .structural schema schema ["id"] ["id"] = .ok () := by
  intro point schema
  have exact : checkCompatible .exact schema schema ["id"] ["id"] = .ok () := exact_ok_iff.mpr ⟨rfl, rfl⟩
  exact ⟨exact, (structural_match_of_exact exact).1.mpr (by decide)⟩

/-- A text is read as a schema that agrees with what it is read as. -/
theorem ofText_of_sameFields {source : String} {schema : Schema}
    (read : (ofText source).toOption.any (ColumnType.sameFields schema) = true) : ofText source = .ok schema := by
  cases found : ofText source with
  | error e =>
    rw [found] at read
    cases read
  | ok other =>
    rw [found] at read
    rw [(ColumnType.sameFields_iff schema other).mp read]

/-- An unchanged table that has two columns of one name passes exactly and is
refused structurally. -/
theorem unchanged_table_refused_structurally :
    ∃ source schema, ofText source = .ok schema ∧ checkCompatible .exact schema schema [] [] = .ok () ∧
      checkCompatible .structural schema schema [] [] = .error (.missingField "id") :=
  ⟨"\x7b\"type\":\"struct\",\"fields\":[\x7b\"name\":\"id\",\"type\":\"long\"\x7d," ++
      "\x7b\"name\":\"id\",\"type\":\"long\"\x7d]\x7d",
    [⟨"id", .plain .int64, true⟩, ⟨"id", .plain .int64, true⟩],
    ofText_of_sameFields (by decide +kernel), exact_ok_iff.mpr ⟨rfl, rfl⟩, rfl⟩

end Schema
end SharedTables
