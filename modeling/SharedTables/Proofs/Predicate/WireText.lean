import SharedTables.Proofs.Json.Strings
import SharedTables.Proofs.Predicate.CanonicalMeaning

/-! Hints as text. Each wire form has a text of its own, so what a listing
request carries determines the wire form that was meant. -/
namespace SharedTables

theorem WireTag.name_injective {tag tag' : WireTag} (same : tag.name = tag'.name) : tag = tag' :=
  Option.some.inj (by rw [← named_name, same, named_name])

/-- No operator has the name of a leaf. -/
theorem WireOperator.name_ne_leaf (op : WireOperator) : op.name ≠ "column" ∧ op.name ≠ "literal" := by
  have differ : ∀ op ∈ WireOperator.all, op.name ≠ "column" ∧ op.name ≠ "literal" := by decide +kernel
  exact differ op op.mem_all

namespace WireForm
open Json (stringChars itemChars stringText_selfDelimiting)

/-- Induction on a wire form. What is to be shown may be assumed of every child. -/
@[induction_eliminator]
theorem wire_induction {motive : WireForm → Prop} (column : ∀ name tag, motive (.column name tag))
    (literal : ∀ text tag, motive (.literal text tag))
    (apply : ∀ op children, (∀ form ∈ children, motive form) → motive (.apply op children))
    (form : WireForm) : motive form :=
  @WireForm.rec motive (fun forms => ∀ form ∈ forms, motive form) column literal apply
    (fun _ absent => absurd absent List.not_mem_nil)
    (fun _ _ head tail => List.forall_mem_cons.mpr ⟨head, tail⟩) form

/-- The characters of a wire form in a request. -/
def chars (form : WireForm) : List Char := form.toJson.chars

/-- What a wire form names first: its operator, or which kind of leaf it is. -/
def head : WireForm → String
  | .column _ _ => "column"
  | .literal _ _ => "literal"
  | .apply op _ => op.name

/-- A named text in a wire form. -/
def field (name value : String) : List Char := stringChars name ++ ':' :: stringChars value

/-- What follows the operator or the kind of a leaf. -/
def body : WireForm → List Char
  | .column name tag => field "name" name ++ ',' :: field "valueType" tag.name
  | .literal text tag => field "value" text ++ ',' :: field "valueType" tag.name
  | .apply _ children => stringChars "children" ++ ':' :: '[' :: (itemChars (toJsons children) ++ [']'])

theorem chars_eq (form : WireForm) :
    form.chars = '\x7b' :: (field "op" form.head ++ ',' :: (form.body ++ ['\x7d'])) := by
  cases form <;> simp [chars, toJson, Json.chars, Json.memberChars, field, head, body]

theorem string_inj {s t : String} (same : stringChars s ++ rest = stringChars t ++ rest') :
    s = t ∧ rest = rest' :=
  stringText_selfDelimiting s t rest rest' (by simpa using same)

theorem field_inj {name s t : String} (same : field name s ++ rest = field name t ++ rest') :
    s = t ∧ rest = rest' := by
  simp only [field, List.append_assoc, List.append_cancel_left_eq, List.cons_append, List.cons.injEq,
    true_and] at same
  exact string_inj same

/-- Items are separated by commas. -/
theorem itemChars_cons (form : WireForm) (forms : List WireForm) :
    itemChars (toJsons (form :: forms)) = form.chars ++ forms.flatMap fun form => ',' :: form.chars := by
  induction forms generalizing form with
  | nil => simp [toJsons, itemChars, chars]
  | cons next forms ih =>
    have more := ih next
    simp only [toJsons, itemChars, List.flatMap_cons] at more ⊢
    rw [more]
    rfl

/-- Further items that can each be told apart from what follows can be told
apart from what follows them all, up to the closing bracket. -/
theorem further_items_inj {forms forms' : List WireForm}
    (each : ∀ form ∈ forms, ∀ (form' : WireForm) (rest rest' : List Char),
      form.chars ++ rest = form'.chars ++ rest' → form = form' ∧ rest = rest')
    (same : (forms.flatMap fun form => ',' :: form.chars) ++ ']' :: rest =
      (forms'.flatMap fun form => ',' :: form.chars) ++ ']' :: rest') : forms = forms' ∧ rest = rest' := by
  induction forms generalizing forms' with
  | nil =>
    cases forms' with
    | nil => exact ⟨rfl, (List.cons.inj same).2⟩
    | cons form' forms' => simp at same
  | cons form forms ih =>
    cases forms' with
    | nil => simp at same
    | cons form' forms' =>
      simp only [List.flatMap_cons, List.cons_append, List.append_assoc, List.cons.injEq, true_and] at same
      obtain ⟨rfl, tails⟩ := each form List.mem_cons_self form' _ _ same
      obtain ⟨rfl, rests⟩ := ih (fun form member => each form (List.mem_cons_of_mem _ member)) tails
      exact ⟨rfl, rests⟩

theorem items_inj {forms forms' : List WireForm}
    (each : ∀ form ∈ forms, ∀ (form' : WireForm) (rest rest' : List Char),
      form.chars ++ rest = form'.chars ++ rest' → form = form' ∧ rest = rest')
    (same : itemChars (toJsons forms) ++ ']' :: rest = itemChars (toJsons forms') ++ ']' :: rest') :
    forms = forms' ∧ rest = rest' := by
  cases forms with
  | nil =>
    cases forms' with
    | nil => exact ⟨rfl, (List.cons.inj same).2⟩
    | cons form' forms' =>
      rw [itemChars_cons, chars_eq] at same
      simp [toJsons, itemChars] at same
  | cons form forms =>
    cases forms' with
    | nil =>
      rw [itemChars_cons, chars_eq] at same
      simp [toJsons, itemChars] at same
    | cons form' forms' =>
      rw [itemChars_cons, itemChars_cons, List.append_assoc, List.append_assoc] at same
      obtain ⟨rfl, tails⟩ := each form List.mem_cons_self form' _ _ same
      obtain ⟨rfl, rests⟩ := further_items_inj (fun form member => each form (List.mem_cons_of_mem _ member)) tails
      exact ⟨rfl, rests⟩

private theorem same_head_and_body {form form' : WireForm} (same : form.chars ++ rest = form'.chars ++ rest') :
    form.head = form'.head ∧ form.body ++ '\x7d' :: rest = form'.body ++ '\x7d' :: rest' := by
  simp only [chars_eq, List.cons_append, List.append_assoc, List.cons.injEq, true_and] at same
  obtain ⟨heads, tails⟩ := field_inj same
  exact ⟨heads, (List.cons.inj tails).2⟩

/-- A wire form in a request can be told apart from whatever follows it. -/
theorem chars_inj (form : WireForm) : ∀ (form' : WireForm) (rest rest' : List Char),
    form.chars ++ rest = form'.chars ++ rest' → form = form' ∧ rest = rest' := by
  induction form with
  | column name tag =>
    intro form' rest rest' same
    obtain ⟨heads, bodies⟩ := same_head_and_body same
    cases form' with
    | column name' tag' =>
      simp only [body, List.append_assoc, List.cons_append] at bodies
      obtain ⟨rfl, tails⟩ := field_inj bodies
      obtain ⟨tags, ends⟩ := field_inj (List.cons.inj tails).2
      exact ⟨by rw [WireTag.name_injective tags], (List.cons.inj ends).2⟩
    | literal text' tag' => simp [head] at heads
    | apply op' children' => exact absurd heads.symm op'.name_ne_leaf.1
  | literal text tag =>
    intro form' rest rest' same
    obtain ⟨heads, bodies⟩ := same_head_and_body same
    cases form' with
    | column name' tag' => simp [head] at heads
    | literal text' tag' =>
      simp only [body, List.append_assoc, List.cons_append] at bodies
      obtain ⟨rfl, tails⟩ := field_inj bodies
      obtain ⟨tags, ends⟩ := field_inj (List.cons.inj tails).2
      exact ⟨by rw [WireTag.name_injective tags], (List.cons.inj ends).2⟩
    | apply op' children' => exact absurd heads.symm op'.name_ne_leaf.2
  | apply op children ih =>
    intro form' rest rest' same
    obtain ⟨heads, bodies⟩ := same_head_and_body same
    cases form' with
    | column name' tag' => exact absurd heads op.name_ne_leaf.1
    | literal text' tag' => exact absurd heads op.name_ne_leaf.2
    | apply op' children' =>
      obtain rfl := WireOperator.name_injective heads
      simp only [body, List.append_assoc, List.cons_append, List.append_cancel_left_eq, List.cons.injEq,
        true_and, List.nil_append] at bodies
      obtain ⟨rfl, ends⟩ := items_inj ih bodies
      exact ⟨rfl, (List.cons.inj ends).2⟩

/-- Different wire forms have different texts. -/
theorem text_injective {form form' : WireForm} (same : form.toJson.text = form'.toJson.text) : form = form' := by
  refine (chars_inj form form' [] [] ?_).1
  have lists := congrArg String.toList same
  simpa [Json.text, chars] using lists

end WireForm
end SharedTables
