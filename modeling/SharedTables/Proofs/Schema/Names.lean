import SharedTables.Proofs.Text.Blank
import SharedTables.Schema.Reader

/-! The names of types. A name is read after trimming and in lower case; a
decimal type is read by the two numbers in it, however they are written. Two
names that are read give one type exactly if they agree in this sense. -/
namespace SharedTables.Schema

/-- A number in decimal digits of any script, with white space around it. -/
def SpellsNumber (cs : List Char) (n : Nat) : Prop :=
  ∃ before digits after values, cs = before ++ digits ++ after ∧
    (∀ c ∈ before, Text.isBlank c = true) ∧ (∀ c ∈ after, Text.isBlank c = true) ∧
    digits ≠ [] ∧ digits.mapM Text.digitValue? = some values ∧ ofDigits values = n

/-- No white space is a digit. -/
theorem isBlank_of_digitValue? {c : Char} {d : Nat} (digit : Text.digitValue? c = some d) : Text.isBlank c = false := by
  refine Bool.eq_false_iff.mpr fun blank => ?_
  rw [Text.forall_blank (P := fun c => Text.digitValue? c = none) (by decide +kernel) blank] at digit
  cases digit

/-- The characters of a number are digits. -/
theorem digits_of_mapM {digits : List Char} {values : List Nat}
    (read : digits.mapM Text.digitValue? = some values) : ∀ c ∈ digits, ∃ d, Text.digitValue? c = some d := by
  induction digits generalizing values with
  | nil => simp
  | cons c digits ih =>
    simp only [List.mapM_cons, Option.bind_eq_bind, Option.bind_eq_some_iff] at read
    obtain ⟨d, first, others, rest, _⟩ := read
    exact List.forall_mem_cons.mpr ⟨⟨d, first⟩, ih rest⟩

theorem paddedNumber?_eq_some_iff {cs : List Char} {n : Nat} : paddedNumber? cs = some n ↔ SpellsNumber cs n := by
  constructor
  · intro read
    obtain ⟨before, after, split, front, back⟩ := Text.exists_padding cs
    unfold paddedNumber? at read
    dsimp only at read
    split at read
    · cases read
    · rename_i some_digit
      obtain ⟨values, digits, rfl⟩ := Option.map_eq_some_iff.mp read
      exact ⟨before, _, after, values, split, front, back, by simpa using some_digit, digits, rfl⟩
  · rintro ⟨before, digits, after, values, rfl, front, back, some_digit, read, rfl⟩
    have solid : ∀ c ∈ digits, Text.isBlank c = false := fun c member =>
      let ⟨_, digit⟩ := digits_of_mapM read c member
      isBlank_of_digitValue? digit
    rw [paddedNumber?, Text.trimChars_padded front solid back]
    simp [some_digit, read]

/-- No comma stands in a number. -/
theorem SpellsNumber.no_comma {cs : List Char} {n : Nat} (spelled : SpellsNumber cs n) : ∀ c ∈ cs, c ≠ ',' := by
  obtain ⟨before, digits, after, values, rfl, front, back, _, read, _⟩ := spelled
  have blank : Text.isBlank ',' = false := by decide
  have digit : Text.digitValue? ',' = none := by decide +kernel
  rintro c member rfl
  simp only [List.mem_append] at member
  rcases member with (member | member) | member
  · rw [front _ member] at blank
    cases blank
  · obtain ⟨d, known⟩ := digits_of_mapM read _ member
    rw [digit] at known
    cases known
  · rw [back _ member] at blank
    cases blank

/-- A text is split at the first of its marks. -/
theorem splitFirst_eq_some_iff {mark : Char} {cs first second : List Char} :
    splitFirst (· = mark) cs = (first, some second) ↔ cs = first ++ mark :: second ∧ ∀ c ∈ first, c ≠ mark := by
  unfold splitFirst
  constructor
  · intro split
    split at split
    · cases split
    · rename_i c rest found
      obtain ⟨rfl, rfl⟩ : cs.takeWhile (fun c => !decide (c = mark)) = first ∧ rest = second := by simpa using split
      have stopped : decide (c = mark) = true := by
        have := List.head?_dropWhile_not (fun c => !decide (c = mark)) cs
        simpa [found] using this
      refine ⟨?_, fun c member => by simpa using List.mem_takeWhile_imp member⟩
      calc cs = cs.takeWhile (fun c => !decide (c = mark)) ++ cs.dropWhile (fun c => !decide (c = mark)) :=
            List.takeWhile_append_dropWhile.symm
        _ = cs.takeWhile (fun c => !decide (c = mark)) ++ mark :: rest := by rw [found, of_decide_eq_true stopped]
  · rintro ⟨rfl, others⟩
    have front : ∀ c ∈ first, (!decide (c = mark)) = true := by simpa using others
    rw [List.dropWhile_append_of_pos front, List.takeWhile_append_of_pos front]
    simp

/-- The name of a decimal type in lower case: two numbers between parentheses. -/
def SpellsDecimal (name : List Char) (precision scale : Nat) : Prop :=
  ∃ first second, name = "decimal(".toList ++ (first ++ ',' :: second ++ [')']) ∧
    SpellsNumber first precision ∧ SpellsNumber second scale

/-- What stands between the parentheses of a decimal type. -/
theorem enclosed_iff {name inner : List Char} :
    ("decimal(".toList.isPrefixOf name && name.getLast? = some ')') = true ∧
        (name.drop "decimal(".toList.length).dropLast = inner ↔
      name = "decimal(".toList ++ (inner ++ [')']) := by
  constructor
  · rintro ⟨both, rfl⟩
    obtain ⟨lead, last⟩ := Bool.and_eq_true_iff.mp both
    obtain ⟨rest, rfl⟩ := List.isPrefixOf_iff_prefix.mp lead
    rw [List.drop_left]
    have closing := of_decide_eq_true last
    rcases List.eq_nil_or_concat rest with rfl | ⟨init, c, rfl⟩
    · rw [List.append_nil] at closing
      exact absurd closing (by decide)
    · rw [List.concat_eq_append, ← List.append_assoc, List.getLast?_concat] at closing
      rw [List.concat_eq_append, List.dropLast_concat, Option.some.inj closing]
  · rintro rfl
    rw [List.drop_left, List.dropLast_concat, ← List.append_assoc, List.getLast?_concat]
    simp

theorem decimalNumbers?_eq_some_iff {name : List Char} {precision scale : Nat} :
    decimalNumbers? name = some (precision, scale) ↔ SpellsDecimal name precision scale := by
  unfold decimalNumbers?
  dsimp only
  constructor
  · intro read
    split at read
    · rename_i both
      have spelled := enclosed_iff.mp ⟨both, rfl⟩
      obtain ⟨first, rest, same⟩ : ∃ first rest,
          splitFirst (· = ',') ((name.drop "decimal(".toList.length).dropLast) = (first, rest) := ⟨_, _, rfl⟩
      rw [same] at read
      cases rest with
      | none => cases read
      | some second =>
        simp only [Option.bind_eq_bind, Option.bind_eq_some_iff] at read
        obtain ⟨_, firstRead, _, secondRead, numbers⟩ := read
        cases numbers
        rw [(splitFirst_eq_some_iff.mp same).1] at spelled
        exact ⟨first, second, spelled, paddedNumber?_eq_some_iff.mp firstRead, paddedNumber?_eq_some_iff.mp secondRead⟩
    · cases read
  · rintro ⟨first, second, spelled, firstNumber, secondNumber⟩
    obtain ⟨both, between⟩ := enclosed_iff.mpr spelled
    rw [if_pos both, between, splitFirst_eq_some_iff.mpr ⟨rfl, firstNumber.no_comma⟩]
    simp [paddedNumber?_eq_some_iff.mpr firstNumber, paddedNumber?_eq_some_iff.mpr secondNumber]

/-- The two numbers of a decimal type are found in its name. -/
theorem SpellsDecimal.unique {name : List Char} {precision precision' scale scale' : Nat}
    (spelled : SpellsDecimal name precision scale) (spelled' : SpellsDecimal name precision' scale') :
    precision = precision' ∧ scale = scale' := by
  have read := decimalNumbers?_eq_some_iff.mpr spelled
  rw [decimalNumbers?_eq_some_iff.mpr spelled'] at read
  obtain ⟨rfl, rfl⟩ := Prod.mk.inj (Option.some.inj read)
  exact ⟨rfl, rfl⟩

/-- The spelling by which a name counts. -/
def spelling (name : String) : String := Text.lower (Text.trim name)

/-- Two names agree: they are spelled alike, or are decimal types of the same
two numbers. -/
def SameName (name name' : String) : Prop :=
  spelling name = spelling name' ∨
    ∃ precision scale, SpellsDecimal (spelling name).toList precision scale ∧
      SpellsDecimal (spelling name').toList precision scale

/-- A name that is read is that of a type without parts or of a decimal type. -/
theorem namedType_ok {name : String} {type : ColumnType} (known : namedType name = .ok type) :
    (∃ plain, (spelling name, plain) ∈ plainTypes ∧ type = .plain plain) ∨
      ∃ precision scale, SpellsDecimal (spelling name).toList precision scale ∧ type = .decimal precision scale := by
  unfold namedType at known
  dsimp only at known
  split at known
  · rename_i plain found
    cases known
    obtain ⟨before, after, split, -⟩ := List.lookup_eq_some_iff.mp found
    exact .inl ⟨plain, by rw [spelling, split]; simp, rfl⟩
  · split at known
    · rename_i precision scale found
      split at known
      · cases known
      · split at known <;> cases known
        exact .inr ⟨precision, scale, decimalNumbers?_eq_some_iff.mp found, rfl⟩
    · cases known

/-- Different types without parts have different names. -/
theorem plainTypes_unique : ∀ one ∈ plainTypes, ∀ other ∈ plainTypes, one.1 = other.1 ↔ one.2 = other.2 := by
  decide +kernel

/-- No type without parts is named like a decimal type. -/
theorem not_spellsDecimal {name : String} {plain : PlainType} (known : (name, plain) ∈ plainTypes) (precision scale : Nat) :
    ¬ SpellsDecimal name.toList precision scale := by
  rintro ⟨first, second, spelled, -⟩
  have apart : ∀ one ∈ plainTypes, "decimal(".toList.isPrefixOf one.1.toList = false := by decide +kernel
  have prefixed : "decimal(".toList.isPrefixOf name.toList = true := by
    rw [spelled, List.isPrefixOf_iff_prefix]
    exact List.prefix_append _ _
  rw [apart _ known] at prefixed
  cases prefixed

/-- Two names give one type exactly if they agree. -/
theorem namedType_eq_iff {name name' : String} {type type' : ColumnType} (known : namedType name = .ok type)
    (known' : namedType name' = .ok type') : type = type' ↔ SameName name name' := by
  obtain ⟨plain, listed, rfl⟩ | ⟨precision, scale, spelled, rfl⟩ := namedType_ok known <;>
    obtain ⟨plain', listed', rfl⟩ | ⟨precision', scale', spelled', rfl⟩ := namedType_ok known'
  · rw [ColumnType.plain.injEq, ← plainTypes_unique _ listed _ listed']
    refine ⟨.inl, fun same => same.resolve_right ?_⟩
    rintro ⟨_, _, decimal, _⟩
    exact not_spellsDecimal listed _ _ decimal
  · refine ⟨(nomatch ·), ?_⟩
    rintro (same | ⟨_, _, decimal, _⟩)
    · rw [← same] at spelled'
      exact absurd spelled' (not_spellsDecimal listed _ _)
    · exact absurd decimal (not_spellsDecimal listed _ _)
  · refine ⟨(nomatch ·), ?_⟩
    rintro (same | ⟨_, _, _, decimal⟩)
    · rw [same] at spelled
      exact absurd spelled (not_spellsDecimal listed' _ _)
    · exact absurd decimal (not_spellsDecimal listed' _ _)
  · rw [ColumnType.decimal.injEq]
    constructor
    · rintro ⟨rfl, rfl⟩
      exact .inr ⟨precision, scale, spelled, spelled'⟩
    · rintro (same | ⟨_, _, decimal, decimal'⟩)
      · rw [← same] at spelled'
        exact spelled.unique spelled'
      · obtain ⟨rfl, rfl⟩ := spelled.unique decimal
        exact decimal'.unique spelled'

end SharedTables.Schema
