import SharedTables.Proofs.Schema.Names

/-! Types and fields as JSON describes them. Two descriptions that are read
give one type exactly if they agree part by part: names by their spelling,
arrays by their elements, maps by keys and values, structures by their fields
in order, and each of these by the flag that says whether null may occur. -/
namespace SharedTables.Schema

theorem toOption_eq_some_iff {ε α : Type} {result : Except ε α} {a : α} : result.toOption = some a ↔ result = .ok a := by
  cases result <;> simp [Except.toOption]

theorem toOption_map {ε α β : Type} (f : α → β) (result : Except ε α) :
    (result.map f).toOption = result.toOption.map f := by
  cases result <;> rfl

/-- The type that a value describes, if it describes one. -/
def typeOf (value : Json) : Option ColumnType := (readType value).toOption

/-- The fields that the items of a list describe, if each describes one. -/
def fieldsOf (items : List Json) : Option (List (Field ColumnType)) := (readItems items).toOption

/-- The fields that the members of a structure describe, if they do. -/
def structOf (members : List (String × Json)) : Option (List (Field ColumnType)) :=
  match Json.member? "fields" members with
  | some fields => (readFields fields).toOption
  | none => some []

variable {members : List (String × Json)}

attribute [local simp] readType readFields readItems readField

theorem typeOf_str (name : String) : typeOf (.str name) = (namedType name).toOption := by
  rw [typeOf, readType]

theorem typeOf_struct (kind : Json.member? "type" members = some (.str "struct")) :
    typeOf (.obj members) = (structOf members).map .struct := by
  rw [typeOf, readType, structOf]
  simp only [kind]
  split <;> rename_i found <;> simp only [found]
  · exact toOption_map _ _
  · rfl

theorem typeOf_array (kind : Json.member? "type" members = some (.str "array")) :
    typeOf (.obj members) = (Json.member? "elementType" members).bind fun element =>
      (typeOf element).map (.list · (flag "containsNull" members)) := by
  rw [typeOf, readType]
  simp only [kind]
  split <;> rename_i found <;> simp only [found]
  · exact toOption_map _ _
  · rfl

theorem typeOf_map (kind : Json.member? "type" members = some (.str "map")) :
    typeOf (.obj members) = (Json.member? "keyType" members).bind fun key => (typeOf key).bind fun keyType =>
      (Json.member? "valueType" members).bind fun value =>
        (typeOf value).map (.map keyType · (flag "valueContainsNull" members)) := by
  rw [typeOf, readType]
  simp only [kind]
  split <;> rename_i found <;> simp only [found]
  · rename_i key
    simp only [Option.bind_some, typeOf]
    cases readType key with
    | error e => rfl
    | ok keyType =>
      simp only [bind, Except.bind]
      split <;> rename_i found' <;> simp only [found']
      · exact toOption_map _ _
      · rfl
  · rfl

/-- A value of any other shape describes no type. -/
theorem typeOf_obj {type : ColumnType} (read : typeOf (.obj members) = some type) :
    Json.member? "type" members = some (.str "struct") ∨ Json.member? "type" members = some (.str "array") ∨
      Json.member? "type" members = some (.str "map") := by
  rw [typeOf, readType] at read
  split at read
  · exact .inl ‹_›
  · exact .inr (.inl ‹_›)
  · exact .inr (.inr ‹_›)
  · cases read

/-- The field that a value describes, if it describes one. -/
def fieldOf (item : Json) : Option (Field ColumnType) := (readField item).toOption

theorem fieldOf_obj : fieldOf (.obj members) =
    (Json.member? "name" members).bind fun name => (Json.member? "type" members).bind fun value =>
      (typeOf value).bind fun type =>
        match name with
        | .str name => some ⟨name, type, flag "nullable" members⟩
        | _ => none := by
  rw [fieldOf, readField]
  split
  · rename_i none
    simp only [none]
    rfl
  · rename_i named none
    simp only [named, none]
    rfl
  · rename_i name value named typed
    simp only [named, typed, Option.bind_some, typeOf]
    cases readType value with
    | error e => rfl
    | ok type => cases name <;> rfl

theorem fieldsOf_cons (item : Json) (items : List Json) :
    fieldsOf (item :: items) = (fieldOf item).bind fun field => (fieldsOf items).map (field :: ·) := by
  rw [fieldsOf, readItems, fieldOf, fieldsOf]
  cases readField item with
  | error e => rfl
  | ok field => cases readItems items <;> rfl

/-- The fields that a structure lists. -/
def listedFields (members : List (String × Json)) : List Json :=
  match Json.member? "fields" members with
  | some (.arr items) => items
  | _ => []

theorem fieldsOf_nil : fieldsOf [] = some [] := by
  rw [fieldsOf, readItems]
  rfl

theorem structOf_listed {fields : List (Field ColumnType)} (read : structOf members = some fields) :
    fieldsOf (listedFields members) = some fields := by
  unfold structOf at read
  unfold listedFields
  cases found : Json.member? "fields" members with
  | none => simpa only [found, fieldsOf_nil] using read
  | some value =>
    simp only [found] at read
    cases value with
    | arr items => simpa only [readFields, fieldsOf] using read
    | str s =>
      rw [readFields] at read
      split at read <;> cases read
      exact fieldsOf_nil
    | obj others =>
      rw [readFields] at read
      split at read <;> cases read
      exact fieldsOf_nil
    | null | bool _ | int _ | real _ => rw [readFields] at read <;> first | cases read | simp

/-- What a value that describes a type looks like. -/
inductive Described : Json → ColumnType → Prop
  | name {name : String} {type : ColumnType} (known : namedType name = .ok type) : Described (.str name) type
  | struct {members : List (String × Json)} {fields : List (Field ColumnType)}
      (kind : Json.member? "type" members = some (.str "struct"))
      (listed : fieldsOf (listedFields members) = some fields) : Described (.obj members) (.struct fields)
  | array {members : List (String × Json)} {value : Json} {element : ColumnType} {nullable : Bool}
      (kind : Json.member? "type" members = some (.str "array"))
      (part : Json.member? "elementType" members = some value) (inside : typeOf value = some element)
      (marked : flag "containsNull" members = nullable) : Described (.obj members) (.list element nullable)
  | map {members : List (String × Json)} {key value : Json} {keyType valueType : ColumnType} {nullable : Bool}
      (kind : Json.member? "type" members = some (.str "map"))
      (keyPart : Json.member? "keyType" members = some key) (keyInside : typeOf key = some keyType)
      (valuePart : Json.member? "valueType" members = some value) (valueInside : typeOf value = some valueType)
      (marked : flag "valueContainsNull" members = nullable) :
      Described (.obj members) (.map keyType valueType nullable)

theorem described {value : Json} {type : ColumnType} (read : typeOf value = some type) : Described value type := by
  cases value with
  | str name => exact .name (toOption_eq_some_iff.mp (typeOf_str name ▸ read))
  | obj members =>
    rcases typeOf_obj read with kind | kind | kind
    · rw [typeOf_struct kind, Option.map_eq_some_iff] at read
      obtain ⟨fields, read, rfl⟩ := read
      exact .struct kind (structOf_listed read)
    · simp only [typeOf_array kind, Option.bind_eq_some_iff, Option.map_eq_some_iff] at read
      obtain ⟨value, part, element, inside, rfl⟩ := read
      exact .array kind part inside rfl
    · simp only [typeOf_map kind, Option.bind_eq_some_iff, Option.map_eq_some_iff] at read
      obtain ⟨key, keyPart, keyType, keyInside, value, valuePart, valueType, valueInside, rfl⟩ := read
      exact .map kind keyPart keyInside valuePart valueInside rfl
  | null | bool _ | int _ | real _ | arr _ =>
    rw [typeOf, readType] at read <;> first | cases read | simp

/-- What a value that describes a field looks like. -/
theorem exists_of_fieldOf {item : Json} {field : Field ColumnType} (read : fieldOf item = some field) :
    ∃ members value, item = .obj members ∧ Json.member? "name" members = some (.str field.name) ∧
      Json.member? "type" members = some value ∧ typeOf value = some field.type ∧
      flag "nullable" members = field.nullable := by
  cases item with
  | obj members =>
    simp only [fieldOf_obj, Option.bind_eq_some_iff] at read
    obtain ⟨name, named, value, typed, type, inside, read⟩ := read
    cases name <;> cases read
    exact ⟨members, value, rfl, named, typed, inside, rfl⟩
  | null | bool _ | int _ | real _ | str _ | arr _ =>
    rw [fieldOf, readField] at read <;> first | cases read | simp

theorem exists_of_fieldsOf_cons {items : List Json} {field : Field ColumnType} {fields : List (Field ColumnType)}
    (read : fieldsOf items = some (field :: fields)) :
    ∃ item rest, items = item :: rest ∧ fieldOf item = some field ∧ fieldsOf rest = some fields := by
  cases items with
  | nil =>
    rw [fieldsOf_nil] at read
    cases read
  | cons item rest =>
    simp only [fieldsOf_cons, Option.bind_eq_some_iff, Option.map_eq_some_iff] at read
    obtain ⟨_, first, _, others, same⟩ := read
    cases same
    exact ⟨item, rest, rfl, first, others⟩

mutual
/-- Two descriptions of types agree in every part. -/
inductive SameType : Json → Json → Prop
  | name {name name' : String} (same : SameName name name') : SameType (.str name) (.str name')
  | struct {members members' : List (String × Json)}
      (kind : Json.member? "type" members = some (.str "struct"))
      (kind' : Json.member? "type" members' = some (.str "struct"))
      (fields : SameFields (listedFields members) (listedFields members')) : SameType (.obj members) (.obj members')
  | array {members members' : List (String × Json)} {element element' : Json}
      (kind : Json.member? "type" members = some (.str "array"))
      (kind' : Json.member? "type" members' = some (.str "array"))
      (part : Json.member? "elementType" members = some element)
      (part' : Json.member? "elementType" members' = some element')
      (elements : SameType element element')
      (marked : flag "containsNull" members = flag "containsNull" members') : SameType (.obj members) (.obj members')
  | map {members members' : List (String × Json)} {key key' value value' : Json}
      (kind : Json.member? "type" members = some (.str "map"))
      (kind' : Json.member? "type" members' = some (.str "map"))
      (keyPart : Json.member? "keyType" members = some key)
      (keyPart' : Json.member? "keyType" members' = some key')
      (keys : SameType key key')
      (valuePart : Json.member? "valueType" members = some value)
      (valuePart' : Json.member? "valueType" members' = some value')
      (values : SameType value value')
      (marked : flag "valueContainsNull" members = flag "valueContainsNull" members') :
      SameType (.obj members) (.obj members')

/-- Two lists of fields agree: they are equally long, and fields at one place
agree in name, type and whether null may occur. -/
inductive SameFields : List Json → List Json → Prop
  | nil : SameFields [] []
  | cons {members members' : List (String × Json)} {name : String} {type type' : Json} {rest rest' : List Json}
      (named : Json.member? "name" members = some (.str name))
      (named' : Json.member? "name" members' = some (.str name))
      (typed : Json.member? "type" members = some type)
      (typed' : Json.member? "type" members' = some type')
      (types : SameType type type')
      (marked : flag "nullable" members = flag "nullable" members')
      (others : SameFields rest rest') : SameFields (.obj members :: rest) (.obj members' :: rest')
end

mutual
/-- Descriptions that agree give one type. -/
theorem SameType.eq {value value' : Json} {type type' : ColumnType} (same : SameType value value')
    (read : typeOf value = some type) (read' : typeOf value' = some type') : type = type' := by
  cases same with
  | name same =>
    rw [typeOf_str] at read read'
    exact (namedType_eq_iff (toOption_eq_some_iff.mp read) (toOption_eq_some_iff.mp read')).mpr same
  | struct kind kind' fields =>
    rw [typeOf_struct kind, Option.map_eq_some_iff] at read
    rw [typeOf_struct kind', Option.map_eq_some_iff] at read'
    obtain ⟨_, read, rfl⟩ := read
    obtain ⟨_, read', rfl⟩ := read'
    rw [fields.eq (structOf_listed read) (structOf_listed read')]
  | array kind kind' part part' elements marked =>
    rw [typeOf_array kind, part, Option.bind_some, Option.map_eq_some_iff] at read
    rw [typeOf_array kind', part', Option.bind_some, Option.map_eq_some_iff] at read'
    obtain ⟨_, read, rfl⟩ := read
    obtain ⟨_, read', rfl⟩ := read'
    rw [elements.eq read read', marked]
  | map kind kind' keyPart keyPart' keys valuePart valuePart' values marked =>
    simp only [typeOf_map kind, keyPart, valuePart, Option.bind_some, Option.bind_eq_some_iff,
      Option.map_eq_some_iff] at read
    simp only [typeOf_map kind', keyPart', valuePart', Option.bind_some, Option.bind_eq_some_iff,
      Option.map_eq_some_iff] at read'
    obtain ⟨_, keyRead, _, valueRead, rfl⟩ := read
    obtain ⟨_, keyRead', _, valueRead', rfl⟩ := read'
    rw [keys.eq keyRead keyRead', values.eq valueRead valueRead', marked]

/-- Lists of fields that agree give the same fields. -/
theorem SameFields.eq {items items' : List Json} {fields fields' : List (Field ColumnType)}
    (same : SameFields items items') (read : fieldsOf items = some fields) (read' : fieldsOf items' = some fields') :
    fields = fields' := by
  cases same with
  | nil =>
    rw [read] at read'
    exact Option.some.inj read'
  | cons named named' typed typed' types marked others =>
    simp only [fieldsOf_cons, fieldOf_obj, named, typed, Option.bind_some, Option.bind_eq_some_iff,
      Option.map_eq_some_iff] at read
    simp only [fieldsOf_cons, fieldOf_obj, named', typed', Option.bind_some, Option.bind_eq_some_iff,
      Option.map_eq_some_iff] at read'
    obtain ⟨_, ⟨_, first, this⟩, _, read, rfl⟩ := read
    obtain ⟨_, ⟨_, first', this'⟩, _, read', rfl⟩ := read'
    cases this
    cases this'
    rw [types.eq first first', marked, others.eq read read']
end

/-- A name is that of a type without parts or of a decimal type. -/
theorem namedType_flat {name : String} {type : ColumnType} (known : namedType name = .ok type) :
    (∃ plain, type = .plain plain) ∨ ∃ precision scale, type = .decimal precision scale := by
  obtain ⟨plain, _, rfl⟩ | ⟨precision, scale, _, rfl⟩ := namedType_ok known
  · exact .inl ⟨plain, rfl⟩
  · exact .inr ⟨precision, scale, rfl⟩

mutual
/-- Descriptions of one type agree. -/
theorem sameType_of_typeOf : (type : ColumnType) → {value value' : Json} → typeOf value = some type →
    typeOf value' = some type → SameType value value'
  | .plain _, _, _, read, read' | .decimal _ _, _, _, read, read' => by
    cases described read with | name known =>
    cases described read' with | name known' =>
    exact .name ((namedType_eq_iff known known').mp rfl)
  | .struct fields, _, _, read, read' => by
    cases described read with
    | name known => simpa using namedType_flat known
    | struct kind listed =>
      cases described read' with
      | name known' => simpa using namedType_flat known'
      | struct kind' listed' => exact .struct kind kind' (sameFields_of_fieldsOf fields listed listed')
  | .list element _, _, _, read, read' => by
    cases described read with
    | name known => simpa using namedType_flat known
    | array kind part inside marked =>
      cases described read' with
      | name known' => simpa using namedType_flat known'
      | array kind' part' inside' marked' =>
        exact .array kind kind' part part' (sameType_of_typeOf element inside inside') (marked.trans marked'.symm)
  | .map keyType valueType _, _, _, read, read' => by
    cases described read with
    | name known => simpa using namedType_flat known
    | map kind keyPart keyInside valuePart valueInside marked =>
      cases described read' with
      | name known' => simpa using namedType_flat known'
      | map kind' keyPart' keyInside' valuePart' valueInside' marked' =>
        exact .map kind kind' keyPart keyPart' (sameType_of_typeOf keyType keyInside keyInside') valuePart valuePart'
          (sameType_of_typeOf valueType valueInside valueInside') (marked.trans marked'.symm)

/-- Lists that describe the same fields agree. -/
theorem sameFields_of_fieldsOf : (fields : List (Field ColumnType)) → {items items' : List Json} →
    fieldsOf items = some fields → fieldsOf items' = some fields → SameFields items items'
  | [], items, items', read, read' => by
    have empty {items : List Json} (read : fieldsOf items = some []) : items = [] := by
      cases items with
      | nil => rfl
      | cons item items =>
        simp only [fieldsOf_cons, Option.bind_eq_some_iff, Option.map_eq_some_iff] at read
        obtain ⟨_, _, _, _, same⟩ := read
        cases same
    rw [empty read, empty read']
    exact .nil
  | ⟨name, type, nullable⟩ :: fields, items, items', read, read' => by
    obtain ⟨_, _, rfl, first, others⟩ := exists_of_fieldsOf_cons read
    obtain ⟨_, _, rfl, first', others'⟩ := exists_of_fieldsOf_cons read'
    obtain ⟨_, _, rfl, named, typed, inside, marked⟩ := exists_of_fieldOf first
    obtain ⟨_, _, rfl, named', typed', inside', marked'⟩ := exists_of_fieldOf first'
    exact .cons named named' typed typed' (sameType_of_typeOf type inside inside') (marked.trans marked'.symm)
      (sameFields_of_fieldsOf fields others others')
end

end SharedTables.Schema
