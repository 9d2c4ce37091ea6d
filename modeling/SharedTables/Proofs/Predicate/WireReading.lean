import SharedTables.Proofs.Json.Reading
import SharedTables.Proofs.Predicate.WireText
import SharedTables.Schema.Reader

/-! Hints as a service reads them: the text is JSON, and the members of each
object say by their names which part of a wire form it is. What is read is the
wire form that was sent. -/
namespace SharedTables

/-- The operator with a given name. -/
def WireOperator.named? (name : String) : Option WireOperator :=
  WireOperator.all.find? (·.name = name)

theorem WireOperator.named_name (op : WireOperator) : WireOperator.named? op.name = some op := by
  rcases op with (_ | _) | (_ | _) | _ <;> decide +kernel

namespace WireForm
open Json (Reads Reading deliver member? stringChars itemChars)

/-- The text of a member of an object. -/
def text? (name : String) (members : List (String × Json)) : Option String :=
  match member? name members with
  | some (.str s) => some s
  | _ => none

/-- A leaf, which has a text and a type. -/
def leaf? (leaf : String → WireTag → WireForm) (name : String) (members : List (String × Json)) :
    Option WireForm := do
  let text ← text? name members
  let type ← text? "valueType" members
  let tag ← WireTag.named? type
  pure (leaf text tag)

mutual
/-- The wire form that a decoded value describes. -/
def ofJson? : Json → Option WireForm
  | .obj members =>
    match text? "op" members with
    | some "column" => leaf? .column "name" members
    | some "literal" => leaf? .literal "value" members
    | some name =>
      match _children : member? "children" members with
      | some (.arr children) => do
        let op ← WireOperator.named? name
        let forms ← ofJsons? children
        pure (.apply op forms)
      | _ => none
    | none => none
  | _ => none
termination_by value => sizeOf value
decreasing_by have smaller := Schema.sizeOf_member? _children; simp at smaller ⊢; omega

/-- The wire forms that several decoded values describe. -/
def ofJsons? : List Json → Option (List WireForm)
  | [] => some []
  | value :: rest => do
    let form ← ofJson? value
    let forms ← ofJsons? rest
    pure (form :: forms)
termination_by values => sizeOf values
end

/-- The wire form that a text describes. -/
def ofText? (text : String) : Option WireForm :=
  match Json.read text with
  | .ok value => ofJson? value
  | .error _ => none

/-- A wire form is described by the value that it is sent as. -/
theorem ofJson?_toJson (form : WireForm) : ofJson? form.toJson = some form := by
  induction form with
  | column name tag | literal text tag =>
    simp [toJson, ofJson?, leaf?, text?, member?, WireTag.named_name]
  | apply op children ih =>
    have each : ofJsons? (toJsons children) = some children := by
      induction children with
      | nil => simp [toJsons, ofJsons?]
      | cons child children tail =>
        have head := ih child List.mem_cons_self
        have rest := tail fun form member => ih form (List.mem_cons_of_mem _ member)
        simp [toJsons, ofJsons?, head, rest]
    have unleaf := op.name_ne_leaf
    simp [toJson, ofJson?, text?, member?, unleaf, WireOperator.named_name, each]

/-- A member with a text, where the reader expects a name. -/
theorem reads_field {before : Reading} {opened : List Json.Open} {members : List (String × Json)}
    {name value : String} (named : before.step (.text name) = .ok ⟨opened, .colon members name⟩) :
    Reads before (field name value) ⟨opened, .memberEnd (Json.setMember name (.str value) members)⟩ := by
  have colon : Reads ⟨opened, .colon members name⟩ [':'] ⟨.object members name :: opened, .value⟩ :=
    .mark rfl rfl
  have text : Reads ⟨.object members name :: opened, .value⟩ (stringChars value)
      ⟨opened, .memberEnd (Json.setMember name (.str value) members)⟩ := .string rfl
  exact (Reads.string named).append (colon.append text)

/-- Further items of an array, each of which is read as a whole. -/
theorem reads_further_items {opened : List Json.Open} {forms : List WireForm}
    (each : ∀ form ∈ forms, ∀ seen, Reads ⟨.array seen :: opened, .value⟩ form.chars
      ⟨opened, .itemEnd (form.toJson :: seen)⟩) (seen : List Json) :
    Reads ⟨opened, .itemEnd seen⟩ (forms.flatMap fun form => ',' :: form.chars)
      ⟨opened, .itemEnd ((toJsons forms).reverse ++ seen)⟩ := by
  induction forms generalizing seen with
  | nil => exact .refl _
  | cons form forms ih =>
    have comma : Reads ⟨opened, .itemEnd seen⟩ [','] ⟨.array seen :: opened, .value⟩ :=
      .mark rfl rfl
    have head := each form List.mem_cons_self seen
    have tail := ih (fun form member => each form (List.mem_cons_of_mem _ member)) (form.toJson :: seen)
    simpa [toJsons] using (comma.append head).append tail

/-- An object with a first member that names it, up to the comma after it. -/
theorem reads_heading {before : Reading} {opened : List Json.Open}
    (begins : before.step .openObject = .ok ⟨opened, .firstName⟩) (head : String) :
    Reads before ('\x7b' :: (field "op" head ++ [','])) ⟨opened, .name [("op", .str head)]⟩ := by
  have start : Reads before ['\x7b'] ⟨opened, .firstName⟩ := .mark rfl begins
  have named : Reads ⟨opened, .firstName⟩ (field "op" head)
      ⟨opened, .memberEnd (Json.setMember "op" (.str head) [])⟩ := reads_field rfl
  have comma : Reads ⟨opened, .memberEnd [("op", .str head)]⟩ [','] ⟨opened, .name [("op", .str head)]⟩ :=
    .mark rfl rfl
  exact start.append (named.append comma)

/-- A leaf, whose second member is named for what the leaf is. -/
theorem reads_leaf {before : Reading} {opened : List Json.Open}
    (begins : before.step .openObject = .ok ⟨opened, .firstName⟩) (op : String) {name : String}
    (known : name = "name" ∨ name = "value") (text type : String) :
    Reads before ('\x7b' :: (field "op" op ++ ',' :: (field name text ++ ',' :: field "valueType" type)) ++ ['\x7d'])
      (deliver (.obj [("op", .str op), (name, .str text), ("valueType", .str type)]) opened) := by
  have twoMembers : Json.setMember name (.str text) [("op", .str op)] = [("op", .str op), (name, .str text)] := by
    rcases known with rfl | rfl <;> simp [Json.setMember]
  have threeMembers : Json.setMember "valueType" (.str type) [("op", .str op), (name, .str text)] =
      [("op", .str op), (name, .str text), ("valueType", .str type)] := by
    rcases known with rfl | rfl <;> simp [Json.setMember]
  have first : Reads ⟨opened, .name [("op", .str op)]⟩ (field name text)
      ⟨opened, .memberEnd [("op", .str op), (name, .str text)]⟩ := by
    rw [← twoMembers]
    exact reads_field rfl
  have comma : Reads ⟨opened, .memberEnd [("op", .str op), (name, .str text)]⟩ [',']
      ⟨opened, .name [("op", .str op), (name, .str text)]⟩ := .mark rfl rfl
  have second : Reads ⟨opened, .name [("op", .str op), (name, .str text)]⟩ (field "valueType" type)
      ⟨opened, .memberEnd [("op", .str op), (name, .str text), ("valueType", .str type)]⟩ := by
    rw [← threeMembers]
    exact reads_field rfl
  have done : Reads ⟨opened, .memberEnd [("op", .str op), (name, .str text), ("valueType", .str type)]⟩ ['\x7d']
      (deliver (.obj [("op", .str op), (name, .str text), ("valueType", .str type)]) opened) := .mark rfl rfl
  simpa using ((reads_heading begins op).append (first.append (comma.append second))).append done

/-- The array of the children of an operator. -/
theorem reads_children (opened : List Json.Open) {children : List WireForm}
    (each : ∀ form ∈ children, ∀ opened before, before.step .openObject = .ok ⟨opened, .firstName⟩ →
      Reads before form.chars (deliver form.toJson opened)) :
    Reads ⟨opened, .value⟩ ('[' :: (itemChars (toJsons children) ++ [']']))
      (deliver (.arr (toJsons children)) opened) := by
  have start : Reads ⟨opened, .value⟩ ['['] ⟨opened, .firstItem⟩ := .mark rfl rfl
  cases children with
  | nil =>
    have done : Reads ⟨opened, .firstItem⟩ [']'] (deliver (.arr []) opened) := .mark rfl rfl
    exact start.append done
  | cons form forms =>
    have first : Reads ⟨opened, .firstItem⟩ form.chars ⟨opened, .itemEnd [form.toJson]⟩ :=
      each form List.mem_cons_self (.array [] :: opened) _ rfl
    have further : Reads ⟨opened, .itemEnd [form.toJson]⟩ (forms.flatMap fun form => ',' :: form.chars)
        ⟨opened, .itemEnd ((toJsons forms).reverse ++ [form.toJson])⟩ :=
      reads_further_items (fun form member seen =>
        each form (List.mem_cons_of_mem _ member) (.array seen :: opened) _ rfl) _
    have done : Reads ⟨opened, .itemEnd ((toJsons forms).reverse ++ [form.toJson])⟩ [']']
        (deliver (.arr (toJsons (form :: forms))) opened) := .mark rfl (by simp [Reading.step, toJsons])
    rw [itemChars_cons]
    simpa using start.append ((first.append further).append done)

/-- What is sent for a wire form is read as one value, wherever a value may begin. -/
theorem reads_chars (form : WireForm) : ∀ opened before,
    before.step .openObject = .ok ⟨opened, .firstName⟩ → Reads before form.chars (deliver form.toJson opened) := by
  induction form with
  | column name tag =>
    intro opened before begins
    simpa [chars_eq, head, body, toJson] using reads_leaf begins "column" (.inl rfl) name tag.name
  | literal text tag =>
    intro opened before begins
    simpa [chars_eq, head, body, toJson] using reads_leaf begins "literal" (.inr rfl) text tag.name
  | apply op children ih =>
    intro opened before begins
    let named : List (String × Json) := [("op", .str op.name)]
    have name : Reads ⟨opened, .name named⟩ (stringChars "children") ⟨opened, .colon named "children"⟩ :=
      .string rfl
    have colon : Reads ⟨opened, .colon named "children"⟩ [':'] ⟨.object named "children" :: opened, .value⟩ :=
      .mark rfl rfl
    have array := reads_children (.object named "children" :: opened) ih
    have done : Reads (deliver (.arr (toJsons children)) (.object named "children" :: opened)) ['\x7d']
        (deliver (WireForm.apply op children).toJson opened) := .mark rfl rfl
    simpa [chars_eq, head, body] using
      ((reads_heading begins op.name).append (name.append (colon.append array))).append done

/-- The text that is sent describes the wire form that was meant. -/
theorem ofText?_text (form : WireForm) : ofText? form.toJson.text = some form := by
  have begins : Reading.step ⟨[], .value⟩ .openObject = .ok ⟨[], .firstName⟩ := rfl
  have whole : Json.readChars form.chars = .ok form.toJson := (form.reads_chars [] _ begins).whole
  have read : Json.read form.toJson.text = .ok form.toJson := by
    rw [chars_eq] at whole
    rw [Json.read, Json.text, String.toList_ofList, ← chars, chars_eq]
    exact whole
  simp only [ofText?, read, ofJson?_toJson]

end WireForm
end SharedTables
