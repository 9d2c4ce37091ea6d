import SharedTables.Proofs.Predicate.Truth
import SharedTables.Proofs.Text.Codes

/-! Canonical forms: what a canonical text says about a predicate and what it
leaves out. A text determines its form, and a form determines the value of
every predicate that can be sent. -/
namespace SharedTables

/-- A predicate without the order and grouping of operands that may be
swapped, without repeated values, and with types by the name they count under. -/
inductive CanonicalForm
  | column (name type : String)
  | literal (type text : String)
  | apply (op : WireOperator) (operands : List CanonicalForm)
  | unsupported (description : String)

/-- The letter of an operator in a canonical text. -/
def WireOperator.letter : WireOperator → Char
  | .not | .isNull => 'U'
  | .compare _ | .join _ => 'B'
  | .isIn => 'I'

/-- The parts of a canonical text before the operands. A membership test has
a letter of its own and needs no name. -/
def WireOperator.heading (op : WireOperator) : List String :=
  if op = .isIn then [] else [atom op.name]

/-- All operators. -/
def WireOperator.all : List WireOperator :=
  Predicate.comparisons.map .compare ++ [.join .and, .join .or, .not, .isNull, .isIn]

theorem WireOperator.mem_all (op : WireOperator) : op ∈ WireOperator.all := by
  rcases op with (_ | _) | (_ | _) | _ <;> decide +revert

theorem WireOperator.name_injective {op op' : WireOperator} (same : op.name = op'.name) : op = op' := by
  have distinct : ∀ op ∈ WireOperator.all, ∀ op' ∈ WireOperator.all, op.name = op'.name → op = op' := by
    decide +kernel
  exact distinct op op.mem_all op' op'.mem_all same

namespace CanonicalForm
open Predicate (node)

mutual
/-- The text of a canonical form. -/
def text : CanonicalForm → String
  | .column name type => node "C" [atom name, atom type]
  | .literal type text => node "L" [atom type, atom text]
  | .apply op operands => node (String.singleton op.letter) (op.heading ++ texts operands)
  | .unsupported description => node "X" [atom description]

/-- The texts of several canonical forms. -/
def texts : List CanonicalForm → List String
  | [] => []
  | form :: rest => form.text :: texts rest
end

theorem texts_eq_map (forms : List CanonicalForm) : texts forms = forms.map text := by
  induction forms with
  | nil => rfl
  | cons form forms ih => simp [texts, ih]

theorem text_apply (op : WireOperator) (operands : List CanonicalForm) :
    (CanonicalForm.apply op operands).text =
      node (String.singleton op.letter) (op.heading ++ operands.map text) := by
  rw [text, texts_eq_map]

/-- Induction on a form. What is to be shown may be assumed of every operand. -/
@[induction_eliminator]
theorem form_induction {motive : CanonicalForm → Prop}
    (column : ∀ name type, motive (.column name type))
    (literal : ∀ type text, motive (.literal type text))
    (apply : ∀ op operands, (∀ form ∈ operands, motive form) → motive (.apply op operands))
    (unsupported : ∀ description, motive (.unsupported description))
    (form : CanonicalForm) : motive form :=
  @CanonicalForm.rec motive (fun forms => ∀ form ∈ forms, motive form)
    column literal apply unsupported (fun _ absent => absurd absent List.not_mem_nil)
    (fun _ _ head tail => List.forall_mem_cons.mpr ⟨head, tail⟩) form

/-- The first letter of a form's text. -/
def letter : CanonicalForm → Char
  | .column _ _ => 'C'
  | .literal _ _ => 'L'
  | .apply op _ => op.letter
  | .unsupported _ => 'X'

/-- The parts of a form's text that stand in brackets after the letter. -/
def parts : CanonicalForm → List String
  | .column name type => [atom name, atom type]
  | .literal type text => [atom type, atom text]
  | .apply op operands => op.heading ++ operands.map text
  | .unsupported description => [atom description]

theorem text_chars (form : CanonicalForm) :
    form.text.toList = form.letter :: '(' :: (form.parts.flatMap String.toList ++ [')']) := by
  cases form <;> simp [text, letter, parts, node, String.toList_join, texts_eq_map]

theorem letter_ne_closing (form : CanonicalForm) : form.letter ≠ ')' := by
  rcases form with _ | _ | (_ | _) | _ <;> simp [letter, WireOperator.letter]

/-- Operators are told apart by their letters and names, whatever follows. -/
theorem heading_inj {op op' : WireOperator} (letters : op.letter = op'.letter)
    (same : op.heading.flatMap String.toList ++ rest = op'.heading.flatMap String.toList ++ rest') :
    op = op' ∧ rest = rest' := by
  have membership (op : WireOperator) : op = .isIn ↔ op.letter = 'I' := by
    cases op <;> simp [WireOperator.letter]
  by_cases unnamed : op = .isIn
  · have unnamed' := (membership op').mpr (letters ▸ (membership op).mp unnamed)
    subst unnamed unnamed'
    exact ⟨rfl, same⟩
  · have named : op' ≠ .isIn := fun unnamed' =>
      unnamed ((membership op).mpr (letters ▸ (membership op').mp unnamed'))
    simp only [WireOperator.heading, unnamed, named, ↓reduceIte, List.flatMap_singleton] at same
    obtain ⟨names, rests⟩ := atom_selfDelimiting _ _ _ _ same
    exact ⟨WireOperator.name_injective names, rests⟩

/-- Where a list of operands is over: before a closing bracket, or where the
text ends. -/
def Closes (rest : List Char) : Prop := ∀ c ∈ rest.head?, c = ')'

private theorem not_closes_text (form : CanonicalForm) (tail : List Char) :
    ¬ Closes (form.text.toList ++ tail) := fun closes =>
  letter_ne_closing form (closes form.letter (by simp [text_chars]))

/-- Operands whose texts can each be told apart from what follows can be told
apart from what follows them all, if it closes the list of operands. -/
theorem operands_inj {forms forms' : List CanonicalForm}
    (each : ∀ form ∈ forms, ∀ (form' : CanonicalForm) (rest rest' : List Char),
      form.text.toList ++ rest = form'.text.toList ++ rest' → form = form' ∧ rest = rest')
    (closes : Closes rest) (closes' : Closes rest')
    (same : (forms.map text).flatMap String.toList ++ rest =
      (forms'.map text).flatMap String.toList ++ rest') : forms = forms' ∧ rest = rest' := by
  induction forms generalizing forms' with
  | nil =>
    cases forms' with
    | nil => exact ⟨rfl, same⟩
    | cons form' forms' =>
      simp only [List.map_nil, List.flatMap_nil, List.nil_append, List.map_cons, List.flatMap_cons,
        List.append_assoc] at same
      exact absurd (same ▸ closes) (not_closes_text form' _)
  | cons form forms ih =>
    cases forms' with
    | nil =>
      simp only [List.map_nil, List.flatMap_nil, List.nil_append, List.map_cons, List.flatMap_cons,
        List.append_assoc] at same
      exact absurd (same ▸ closes') (not_closes_text form _)
    | cons form' forms' =>
      simp only [List.map_cons, List.flatMap_cons, List.append_assoc] at same
      obtain ⟨rfl, tails⟩ := each form List.mem_cons_self form' _ _ same
      obtain ⟨rfl, rests⟩ := ih (fun form member => each form (List.mem_cons_of_mem _ member)) tails
      exact ⟨rfl, rests⟩

private theorem same_letter_and_parts {form form' : CanonicalForm}
    (same : form.text.toList ++ rest = form'.text.toList ++ rest') :
    form.letter = form'.letter ∧ form.parts.flatMap String.toList ++ ')' :: rest =
      form'.parts.flatMap String.toList ++ ')' :: rest' := by
  simpa [text_chars] using same

/-- A form's text can be told apart from whatever follows it. -/
theorem text_selfDelimiting : SelfDelimiting text := by
  intro form
  induction form with
  | column name type =>
    intro form' rest rest' same
    obtain ⟨letters, sameParts⟩ := same_letter_and_parts same
    cases form' with
    | column name' type' =>
      simp only [parts, List.flatMap_cons, List.append_assoc] at sameParts
      obtain ⟨rfl, tails⟩ := atom_selfDelimiting _ _ _ _ sameParts
      obtain ⟨rfl, ends⟩ := atom_selfDelimiting _ _ _ _ tails
      exact ⟨rfl, (List.cons.inj ends).2⟩
    | apply op' operands' => cases op' <;> simp [letter, WireOperator.letter] at letters
    | _ => simp [letter] at letters
  | literal type text =>
    intro form' rest rest' same
    obtain ⟨letters, sameParts⟩ := same_letter_and_parts same
    cases form' with
    | literal type' text' =>
      simp only [parts, List.flatMap_cons, List.append_assoc] at sameParts
      obtain ⟨rfl, tails⟩ := atom_selfDelimiting _ _ _ _ sameParts
      obtain ⟨rfl, ends⟩ := atom_selfDelimiting _ _ _ _ tails
      exact ⟨rfl, (List.cons.inj ends).2⟩
    | apply op' operands' => cases op' <;> simp [letter, WireOperator.letter] at letters
    | _ => simp [letter] at letters
  | apply op operands ih =>
    intro form' rest rest' same
    obtain ⟨letters, sameParts⟩ := same_letter_and_parts same
    cases form' with
    | apply op' operands' =>
      simp only [parts, List.flatMap_append, List.append_assoc] at sameParts
      obtain ⟨rfl, tails⟩ := heading_inj letters sameParts
      obtain ⟨rfl, ends⟩ := operands_inj ih (by simp [Closes]) (by simp [Closes]) tails
      exact ⟨rfl, (List.cons.inj ends).2⟩
    | _ => cases op <;> simp [letter, WireOperator.letter] at letters
  | unsupported description =>
    intro form' rest rest' same
    obtain ⟨letters, sameParts⟩ := same_letter_and_parts same
    cases form' with
    | unsupported description' =>
      simp only [parts, List.flatMap_cons, List.append_assoc] at sameParts
      obtain ⟨rfl, ends⟩ := atom_selfDelimiting _ _ _ _ sameParts
      exact ⟨rfl, (List.cons.inj ends).2⟩
    | apply op' operands' => cases op' <;> simp [letter, WireOperator.letter] at letters
    | _ => simp [letter] at letters

/-- Texts that follow one another to the end determine their forms. -/
theorem join_text_injective {forms forms' : List CanonicalForm}
    (same : String.join (forms.map text) = String.join (forms'.map text)) : forms = forms' := by
  have closes : Closes [] := by simp [Closes]
  refine (operands_inj (fun form _ => text_selfDelimiting form) closes closes ?_).1
  simpa [String.toList_join] using congrArg String.toList same

end CanonicalForm
end SharedTables
