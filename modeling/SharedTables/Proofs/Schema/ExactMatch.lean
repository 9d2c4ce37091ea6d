import SharedTables.Proofs.Json.Members
import SharedTables.Proofs.Json.Spacing
import SharedTables.Proofs.Schema.Descriptions
import SharedTables.Proofs.Schema.Matching

/-! What an exact match compares. Two tables whose schemas were read from text
match exactly if their descriptions agree part by part. Nothing else in the
texts matters: not the order of members, not members that the reader does not
know, and not white space. -/
namespace SharedTables.Schema

/-- The members of descriptions that the reader knows. -/
def knownMembers : List String :=
  ["type", "fields", "name", "nullable", "elementType", "containsNull", "keyType", "valueType", "valueContainsNull"]

/-- The members that hold the description of a type. -/
def typeMembers : List String := ["type", "elementType", "keyType", "valueType"]

/-- One description is another one written differently: members stand in
another order, members that the reader does not know come or go, or a
description inside is written differently. -/
inductive Reworded : Json → Json → Prop
  | refl (value : Json) : Reworded value value
  | symm {value value' : Json} : Reworded value value' → Reworded value' value
  | trans {value value' value'' : Json} : Reworded value value' → Reworded value' value'' → Reworded value value''
  | order {members members' : List (String × Json)} (distinct : (members.map (·.1)).Nodup)
      (moved : members.Perm members') : Reworded (.obj members) (.obj members')
  | unknown {before after : List (String × Json)} {name : String} (other : name ∉ knownMembers) (value : Json) :
      Reworded (.obj (before ++ after)) (.obj (before ++ (name, value) :: after))
  | type {before after : List (String × Json)} {name : String} {value value' : Json} (part : name ∈ typeMembers)
      (inside : Reworded value value') :
      Reworded (.obj (before ++ (name, value) :: after)) (.obj (before ++ (name, value') :: after))
  | field {before after : List (String × Json)} {earlier later : List Json} {item item' : Json}
      (inside : Reworded item item') :
      Reworded (.obj (before ++ ("fields", .arr (earlier ++ item :: later)) :: after))
        (.obj (before ++ ("fields", .arr (earlier ++ item' :: later)) :: after))

/-- Two values are read alike, as types and as fields. -/
structure ReadAlike (value value' : Json) : Prop where
  type : typeOf value = typeOf value'
  field : fieldOf value = fieldOf value'
  text : ∀ s, value = .str s ↔ value' = .str s

theorem ReadAlike.refl (value : Json) : ReadAlike value value := ⟨rfl, rfl, fun _ => .rfl⟩

theorem ReadAlike.symm {value value' : Json} (alike : ReadAlike value value') : ReadAlike value' value :=
  ⟨alike.type.symm, alike.field.symm, fun s => (alike.text s).symm⟩

theorem ReadAlike.trans {value value' value'' : Json} (alike : ReadAlike value value')
    (alike' : ReadAlike value' value'') : ReadAlike value value'' :=
  ⟨alike.type.trans alike'.type, alike.field.trans alike'.field, fun s => (alike.text s).trans (alike'.text s)⟩

variable {members members' : List (String × Json)}

theorem bind_of_alike {α : Type} {member member' : Option Json} {read read' : Json → Option α}
    (alike : Option.Rel ReadAlike member member') (inside : ∀ value value', ReadAlike value value' → read value = read' value') :
    member.bind read = member'.bind read' := by
  cases alike with
  | none => rfl
  | some alike => exact inside _ _ alike

/-- Objects are read alike if the members that the reader knows are. -/
theorem readAlike_obj
    (plain : ∀ name ∈ ["name", "nullable", "containsNull", "valueContainsNull"],
      Json.member? name members = Json.member? name members')
    (types : ∀ name ∈ typeMembers, Option.Rel ReadAlike (Json.member? name members) (Json.member? name members'))
    (fields : structOf members = structOf members') : ReadAlike (.obj members) (.obj members') := by
  have flags {name : String} (known : name ∈ ["name", "nullable", "containsNull", "valueContainsNull"]) :
      flag name members = flag name members' := by
    rw [flag, flag, plain name known]
  have kind (s : String) : Json.member? "type" members = some (.str s) ↔ Json.member? "type" members' = some (.str s) := by
    have known := types "type" (by decide)
    generalize Json.member? "type" members = value, Json.member? "type" members' = value' at known
    cases known with
    | none => simp
    | some alike => simpa using alike.text s
  refine ⟨?_, ?_, fun s => ⟨(nomatch ·), (nomatch ·)⟩⟩
  · by_cases struct : Json.member? "type" members = some (.str "struct")
    · rw [typeOf_struct struct, typeOf_struct ((kind _).mp struct), fields]
    by_cases array : Json.member? "type" members = some (.str "array")
    · rw [typeOf_array array, typeOf_array ((kind _).mp array)]
      refine bind_of_alike (types _ (by decide)) fun element element' alike => ?_
      rw [alike.type, flags (by decide)]
    by_cases map : Json.member? "type" members = some (.str "map")
    · rw [typeOf_map map, typeOf_map ((kind _).mp map)]
      refine bind_of_alike (types _ (by decide)) fun key key' alike => ?_
      rw [alike.type]
      refine congrArg _ (funext fun keyType => bind_of_alike (types _ (by decide)) fun value value' alike => ?_)
      rw [alike.type, flags (by decide)]
    · have none {members : List (String × Json)} (kinds : ¬ (Json.member? "type" members = some (.str "struct") ∨
          Json.member? "type" members = some (.str "array") ∨ Json.member? "type" members = some (.str "map"))) :
          typeOf (.obj members) = none :=
        Option.eq_none_iff_forall_ne_some.mpr fun _ read => kinds (typeOf_obj read)
      rw [none (by simp [struct, array, map]), none (by simp [← kind, struct, array, map])]
  · rw [fieldOf_obj, fieldOf_obj, plain "name" (by decide)]
    refine congrArg _ (funext fun name => bind_of_alike (types _ (by decide)) fun value value' alike => ?_)
    rw [alike.type, flags (by decide)]

theorem rel_refl (member : Option Json) : Option.Rel ReadAlike member member := by
  cases member with
  | none => exact .none
  | some value => exact .some (.refl value)

/-- Objects in which the reader finds the same members are read alike. -/
theorem readAlike_of_member? (same : ∀ name ∈ knownMembers, Json.member? name members = Json.member? name members') :
    ReadAlike (.obj members) (.obj members') := by
  refine readAlike_obj (fun name known => same name ?_) (fun name known => ?_) ?_
  · revert name
    decide
  · have listed : name ∈ knownMembers := by
      revert name
      decide
    rw [same name listed]
    exact rel_refl _
  · rw [structOf, structOf, same "fields" (by decide)]

/-- Lists whose items are read alike describe the same fields. -/
theorem fieldsOf_changed {item item' : Json} (alike : fieldOf item = fieldOf item') (earlier later : List Json) :
    fieldsOf (earlier ++ item :: later) = fieldsOf (earlier ++ item' :: later) := by
  induction earlier with
  | nil => simp only [List.nil_append, fieldsOf_cons, alike]
  | cons first earlier ih => simp only [List.cons_append, fieldsOf_cons, ih]

/-- Descriptions that are written differently are read alike. -/
theorem Reworded.readAlike {value value' : Json} (reworded : Reworded value value') : ReadAlike value value' := by
  induction reworded with
  | refl value => exact .refl value
  | symm _ ih => exact ih.symm
  | trans _ _ ih ih' => exact ih.trans ih'
  | order distinct moved => exact readAlike_of_member? fun name _ => Json.member?_order distinct moved name
  | unknown other value =>
    refine readAlike_of_member? fun name known => (Json.member?_unknown ?_ value _ _).symm
    rintro rfl
    exact other known
  | @type before after name value value' part _ ih =>
    have others {key : String} (other : key ∉ typeMembers) :
        Json.member? key (before ++ (name, value) :: after) = Json.member? key (before ++ (name, value') :: after) :=
      (Json.member?_changed name key value value' before after).resolve_right fun found => other (found.1 ▸ part)
    refine readAlike_obj (fun key known => others ?_) (fun key _ => ?_) ?_
    · revert key
      decide
    · rcases Json.member?_changed name key value value' before after with same | ⟨-, found, found'⟩
      · rw [same]
        exact rel_refl _
      · rw [found, found']
        exact .some ih
    · rw [structOf, structOf, others (by decide)]
  | @field before after earlier later item item' _ ih =>
    have others {key : String} (other : key ≠ "fields") := (Json.member?_changed "fields" key
      (.arr (earlier ++ item :: later)) (.arr (earlier ++ item' :: later)) before after).resolve_right
        fun found => other found.1
    refine readAlike_obj (fun key known => others ?_) (fun key known => ?_) ?_
    · rintro rfl
      revert known
      decide
    · have other : key ≠ "fields" := by
        rintro rfl
        revert known
        decide
      rw [others other]
      exact rel_refl _
    · rcases Json.member?_changed "fields" "fields" (.arr (earlier ++ item :: later)) (.arr (earlier ++ item' :: later))
        before after with same | ⟨-, found, found'⟩
      · rw [structOf, structOf, same]
      · simp only [structOf, found, found', readFields]
        exact fieldsOf_changed ih.field earlier later

/-- What a text that is read as a schema looks like. -/
theorem exists_of_ofText {source : String} {schema : Schema} (accepted : ofText source = .ok schema) :
    ∃ members, Json.read source = .ok (.obj members) ∧ Json.member? "type" members = some (.str "struct") ∧
      structOf members = some schema := by
  unfold ofText at accepted
  split at accepted
  · rename_i value read
    unfold ofJson at accepted
    split at accepted
    · rename_i members
      split at accepted
      · rename_i kind
        refine ⟨members, read, kind, ?_⟩
        unfold structOf
        cases found : Json.member? "fields" members with
        | none =>
          simp only [found] at accepted ⊢
          cases accepted
          rfl
        | some fields =>
          simp only [found] at accepted ⊢
          rw [accepted]
          rfl
      · cases accepted
    · cases accepted
  · cases accepted

/-- For any two schemas read from text, an exact match is agreement of the
partition columns and of the fields, part by part. Two texts whose values are
one description written differently have one schema, and so have two texts that
agree but for white space. -/
theorem exact_match_iff_same_fields {source source' : String} {planned live : Schema}
    (accepted : ofText source = .ok planned) (accepted' : ofText source' = .ok live) :
    ∃ members members', Json.read source = .ok (.obj members) ∧ Json.read source' = .ok (.obj members') ∧
      (∀ partitions partitions', checkCompatible .exact planned live partitions partitions' = .ok () ↔
        partitions = partitions' ∧ SameFields (listedFields members) (listedFields members')) ∧
      (Reworded (.obj members) (.obj members') → planned = live) ∧
      (Json.withoutSpace false source.toList = Json.withoutSpace false source'.toList → planned = live) := by
  obtain ⟨members, read, kind, fields⟩ := exists_of_ofText accepted
  obtain ⟨members', read', kind', fields'⟩ := exists_of_ofText accepted'
  refine ⟨members, members', read, read', fun partitions partitions' => ?_, fun reworded => ?_, fun same => ?_⟩
  · rw [exact_ok_iff]
    refine and_congr_right fun _ => ⟨?_, fun same => same.eq (structOf_listed fields) (structOf_listed fields')⟩
    rintro rfl
    exact sameFields_of_fieldsOf planned (structOf_listed fields) (structOf_listed fields')
  · have types := reworded.readAlike.type
    rw [typeOf_struct kind, typeOf_struct kind', fields, fields'] at types
    simpa using types
  · cases Json.read_eq_of_withoutSpace read read' same
    rw [fields] at fields'
    exact Option.some.inj fields'

/-- Two texts that spell one schema differently: another order of members,
white space, capitals, a member that the reader does not know, and flags that
are written in one text only. -/
theorem same_fields_written_differently :
    let source := "\x7b\"type\":\"struct\",\"fields\":[\x7b\"name\":\"rates\",\"type\":" ++
      "\x7b\"type\":\"array\",\"elementType\":\"decimal(9,2)\"\x7d\x7d]\x7d"
    let source' := "\x7b\"fields\": [\x7b\"type\": " ++
      "\x7b\"containsNull\": true, \"elementType\": \" Decimal(9, 02)\", \"type\": \"array\"\x7d" ++
      ", \"name\": \"rates\", \"id\": 1\x7d], \"type\": \"struct\"\x7d"
    let schema : Schema := [⟨"rates", .list (.decimal 9 2) true, true⟩]
    ofText source = .ok schema ∧ ofText source' = .ok schema ∧
      ∃ members members', Json.read source = .ok (.obj members) ∧ Json.read source' = .ok (.obj members') ∧
        SameFields (listedFields members) (listedFields members') := by
  intro source source' schema
  have accepted : ofText source = .ok schema := ofText_of_sameFields (by decide +kernel)
  have accepted' : ofText source' = .ok schema := ofText_of_sameFields (by decide +kernel)
  obtain ⟨members, members', read, read', exact, _⟩ := exact_match_iff_same_fields accepted accepted'
  exact ⟨accepted, accepted', members, members', read, read', ((exact [] []).mp (exact_ok_iff.mpr ⟨rfl, rfl⟩)).2⟩

end SharedTables.Schema
