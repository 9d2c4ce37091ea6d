import SharedTables.File.Path
import SharedTables.Proofs.Predicate.CanonicalMeaning
import SharedTables.Scan.Fingerprint

/-! Requests that share a batch of links want the same rows. The text that is
digested for a request can be read back field by field, and a canonical text
keeps all that decides the truth of the conditions in it. -/
namespace SharedTables

/-- The truth of conditions that all have to hold, as far as they can be sent. -/
def Row.conjunctionTruth (row : Row α) (ps : List Predicate) : Option Bool :=
  Connective.and.combineAll ((ps.filterMap Predicate.toWire?).map fun form => (form.value row).toTruth)

namespace Predicate

/-- The canonical forms of the conjuncts of conditions, as far as they can be sent. -/
def conjunctForms (ps : List Predicate) : List CanonicalForm :=
  (ps.filterMap (prune false)).flatMap (canonicalForms (some .and))

theorem canonicalConjunction_eq_join (ps : List Predicate) :
    canonicalConjunction ps =
      String.join ((CanonicalForm.distinctSorted (conjunctForms ps)).map CanonicalForm.text) := by
  rw [canonicalConjunction, CanonicalForm.map_text_distinctSorted, conjunctForms, List.map_flatMap,
    funext (canonicalIn_eq_map_text (some .and))]

/-- The canonical forms of the conjuncts hold together where the conditions do. -/
theorem conjunctForms_truth {row : Row α} (symmetric : row.Symmetric) (ps : List Predicate) :
    Connective.and.combineAll ((conjunctForms ps).map (CanonicalForm.truth row)) =
      row.conjunctionTruth ps := by
  induction ps with
  | nil => rfl
  | cons p ps ih =>
    cases kept : prune false p with
    | none =>
      simpa [conjunctForms, Row.conjunctionTruth, toWire?, kept] using ih
    | some part =>
      obtain ⟨form, sent⟩ := pruned_has_wire_form kept
      have head := (canonicalForms_mean symmetric sent).2 .and
      have wire : p.toWire? = some form := by simp [toWire?, kept, sent]
      have split : conjunctForms (p :: ps) = part.canonicalForms (some .and) ++ conjunctForms ps := by
        simp [conjunctForms, kept]
      rw [split, List.map_append, Connective.combineAll_append, head, ih, Row.conjunctionTruth,
        Row.conjunctionTruth, List.filterMap_cons_some wire]
      rfl

/-- Conditions with one canonical text hold together in the same rows. -/
theorem conjunction_truth_of_same_text {row : Row α} (symmetric : row.Symmetric)
    (same : canonicalConjunction ps = canonicalConjunction qs) :
    row.conjunctionTruth ps = row.conjunctionTruth qs := by
  rw [canonicalConjunction_eq_join, canonicalConjunction_eq_join] at same
  have forms := CanonicalForm.join_text_injective same
  rw [← conjunctForms_truth symmetric, ← conjunctForms_truth symmetric]
  apply Connective.combineAll_congr
  have members (form : CanonicalForm) : form ∈ conjunctForms ps ↔ form ∈ conjunctForms qs := by
    rw [← CanonicalForm.mem_distinctSorted, forms, CanonicalForm.mem_distinctSorted]
  simp only [List.mem_map, members, implies_true]

end Predicate

namespace Fingerprint

/-- The value of a field ends where its length says, so fields can be read
back one after the other. -/
theorem fieldsText_cons_inj {name : String}
    (same : fieldsText ((name, value) :: fields) = fieldsText ((name, value') :: fields')) :
    value = value' ∧ fieldsText fields = fieldsText fields' := by
  have lists := congrArg String.toList same
  simp only [fieldsText, List.map_cons, String.join_cons, String.toList_append, List.append_assoc,
    List.append_cancel_left_eq] at lists
  obtain ⟨values, tails⟩ := atom_selfDelimiting _ _ _ _ lists
  exact ⟨values, String.toList_inj.mp (List.append_cancel_left tails)⟩

theorem limitText_injective (same : limitText limit = limitText limit') : limit = limit' := by
  have number (n : Int) : toString n ≠ "none" := fun text => by
    rcases Text.int_text_chars (n := n) (c := 'n') (by rw [text]; decide) with digit | sign
    · exact absurd digit (by decide)
    · exact absurd sign (by decide)
  cases limit with
  | none =>
    cases limit' with
    | none => rfl
    | some n => exact absurd same.symm (number n)
  | some m =>
    cases limit' with
    | none => exact absurd same (number m)
    | some n => exact congrArg some (Text.int_text_injective same)

theorem rangeKey_injective (same : Version.rangeKey start last = Version.rangeKey start' last') :
    start = start' ∧ last = last' := by
  have key (start : Int) (last : Option Int) : (Version.rangeKey start last).toList =
      "range:".toList ++ ((toString start).toList ++ ':' :: (limitText last).toList) := by
    cases last <;> simp [Version.rangeKey, limitText]
  have noColon (n : Int) : ':' ∉ (toString n).toList := fun member => by
    rcases Text.int_text_chars member with digit | sign
    · exact absurd digit (by decide)
    · exact absurd sign (by decide)
  have lists := congrArg String.toList same
  rw [key, key, List.append_cancel_left_eq] at lists
  obtain ⟨starts, lasts⟩ := Text.marked_inj (noColon start) (noColon start') lists
  exact ⟨Text.int_text_injective (String.toList_inj.mp starts),
    limitText_injective (String.toList_inj.mp lasts)⟩

/-- A point in time: no selector, a version or a timestamp. -/
def IsPoint : Option Version → Prop
  | none | some (.asOf _) | some (.atTime _) => True
  | some (.range _ _) | some (.foreign _) => False

theorem key_injective (point : IsPoint version) (point' : IsPoint version')
    (same : Version.key version = Version.key version') : version = version' := by
  have lists := congrArg (fun key => key.toOption.map String.toList) same
  -- Texts of different kinds of selectors differ in their first letters.
  rcases version with _ | (n | timestamp | _ | _) <;>
    rcases version' with _ | (n' | timestamp' | _ | _) <;>
    simp [Version.key, IsPoint, Except.toOption] at lists point point' ⊢
  · exact Text.int_text_injective (String.toList_inj.mp lists)
  · exact String.toList_inj.mp lists

/-- Each selector that has a key has one of its own. -/
theorem eq_of_key (keyed : Version.key version = .ok key) (keyed' : Version.key version' = .ok key) :
    version = version' := by
  have same := keyed.trans keyed'.symm
  by_cases points : IsPoint version ∧ IsPoint version'
  · exact key_injective points.1 points.2 same
  · -- Two ranges are left; any other pair differs in the first letters again.
    have lists := congrArg (fun key => key.toOption.map String.toList) same
    rcases version with _ | (n | timestamp | ⟨start, last⟩ | kind) <;>
      rcases version' with _ | (n' | timestamp' | ⟨start', last'⟩ | kind') <;>
      simp [Version.key, Version.rangeKey, IsPoint, Except.toOption] at lists points keyed keyed'
    obtain ⟨rfl, rfl⟩ := rangeKey_injective (Except.ok.inj same)
    rfl

/-- What a batch of links is asked for. -/
inductive Request
  | snapshot (predicates : List Predicate) (limit : Option Int) (version : Option Version)
  | changes (start : Int) (last : Option Int)

namespace Request

/-- Whether a request can be made: of one point in time, or of a checked range. -/
def Valid : Request → Prop
  | .snapshot _ _ version => IsPoint version
  | .changes start last => ∃ range, Version.range? start last = .ok range

/-- The text that is digested for a request. -/
def text : Request → Except Error String
  | .snapshot predicates limit version => snapshotText predicates limit version
  | .changes start last =>
    match Version.range? start last with
    | .ok _ => .ok (rangeText start last)
    | .error e => .error (.version e)

/-- The fingerprint of a request. -/
def fingerprint : Request → Except Error String
  | .snapshot predicates limit version => Fingerprint.snapshot predicates limit version
  | .changes start last => range start last

/-- Whether two requests want the same: the same changes, or of the same
version as many of the rows for which the same conditions are true. -/
def Equivalent : Request → Request → Prop
  | .snapshot ps limit version, .snapshot qs limit' version' =>
    limit = limit' ∧ version = version' ∧ ∀ (α : Type) (row : Row α), row.Symmetric →
      row.conjunctionTruth ps = row.conjunctionTruth qs
  | .changes start last, .changes start' last' => start = start' ∧ last = last'
  | .snapshot _ _ _, .changes _ _ | .changes _ _, .snapshot _ _ _ => False

theorem fingerprint_eq_digest (a : Request) : a.fingerprint = a.text.map digest := by
  cases a with
  | snapshot predicates limit version => rfl
  | changes start last =>
    simp only [fingerprint, range, text]
    cases Version.range? start last <;> rfl

/-- Every valid request has a text, which lists its fields. -/
theorem text_of_valid {a : Request} (valid : a.Valid) : ∃ fields, a.text = .ok (fieldsText fields) ∧
    match a with
    | .snapshot ps limit version => ∃ key, Version.key version = .ok key ∧
        fields = snapshotFields ps limit key
    | .changes start last => fields = rangeFields start last := by
  cases a with
  | snapshot ps limit version =>
    rcases version with _ | (n | timestamp | _ | _) <;> simp only [Valid, IsPoint] at valid <;>
      exact ⟨_, rfl, _, rfl, rfl⟩
  | changes start last =>
    obtain ⟨checked, ok⟩ := valid
    exact ⟨_, by simp only [text, ok, rangeText], rfl⟩

/-- One text is digested for equivalent requests only. -/
theorem equivalent_of_same_text {a b : Request} (valid : a.Valid) (valid' : b.Valid)
    (same : a.text = b.text) : a.Equivalent b := by
  obtain ⟨fields, text, shape⟩ := text_of_valid valid
  obtain ⟨fields', text', shape'⟩ := text_of_valid valid'
  have texts : fieldsText fields = fieldsText fields' := by simpa [text, text'] using same
  cases a with
  | snapshot ps limit version =>
    obtain ⟨key, keyed, rfl⟩ := shape
    cases b with
    | snapshot qs limit' version' =>
      obtain ⟨key', keyed', rfl⟩ := shape'
      obtain ⟨-, afterMode⟩ := fieldsText_cons_inj texts
      obtain ⟨predicates, afterPredicates⟩ := fieldsText_cons_inj afterMode
      obtain ⟨limits, afterLimit⟩ := fieldsText_cons_inj afterPredicates
      obtain ⟨rfl, -⟩ := fieldsText_cons_inj afterLimit
      exact ⟨limitText_injective limits, key_injective valid valid' (keyed.trans keyed'.symm),
        fun α row symmetric => Predicate.conjunction_truth_of_same_text symmetric predicates⟩
    | changes start last =>
      subst shape'
      exact absurd (fieldsText_cons_inj texts).1 (by decide)
  | changes start last =>
    subst shape
    cases b with
    | snapshot qs limit version =>
      obtain ⟨key, keyed, rfl⟩ := shape'
      exact absurd (fieldsText_cons_inj texts).1 (by decide)
    | changes start' last' =>
      subst shape'
      obtain ⟨-, afterMode⟩ := fieldsText_cons_inj texts
      exact rangeKey_injective (fieldsText_cons_inj afterMode).1

end Request

/-- A fingerprint has sixty-four characters. -/
theorem digest_length (text : String) : (digest text).length = 64 := by
  have pair (b : UInt8) : (Text.hexFixed 2 b.toNat).length = 2 := rfl
  have word (w : UInt32) : (Sha256.bytesOfWord w).length = 4 := rfl
  simp [digest, Sha256.hexDigest, Text.hexOfBytes, Sha256.digest, Sha256.State.words, pair, word]

theorem digest_ne_empty (text : String) : digest text ≠ "" := by
  intro empty
  have length := digest_length text
  rw [empty] at length
  exact absurd length (by decide)

theorem range_ne_empty (fingerprinted : range start last = .ok fingerprint) : fingerprint ≠ "" := by
  unfold range at fingerprinted
  split at fingerprinted
  · cases fingerprinted
    exact digest_ne_empty _
  · cases fingerprinted

theorem snapshot_ne_empty (fingerprinted : snapshot predicates limit version = .ok fingerprint) :
    fingerprint ≠ "" := by
  unfold snapshot at fingerprinted
  cases text : snapshotText predicates limit version with
  | error e =>
    rw [text] at fingerprinted
    cases fingerprinted
  | ok text' =>
    rw [text] at fingerprinted
    cases fingerprinted
    exact digest_ne_empty _

/-- The location of a table and a fingerprint can be read back from the two
together, since all fingerprints have one length. -/
theorem locationWithFingerprint_inj
    (same : locationWithFingerprint location (digest s) = locationWithFingerprint location' (digest t)) :
    location = location' ∧ digest s = digest t := by
  simp only [locationWithFingerprint, digest_ne_empty, ↓reduceIte] at same
  have lists := congrArg String.toList same
  simp only [String.toList_append] at lists
  obtain ⟨starts, digests⟩ := List.append_inj' lists (by
    rw [String.length_toList, String.length_toList, digest_length, digest_length])
  exact ⟨String.toList_inj.mp (List.append_cancel_right starts), String.toList_inj.mp digests⟩

/-- Two requests for which one byte string is digested want the same rows of
the same version, or the same changes. So unless two different byte strings
have one digest, tables share a batch only at one location and for equivalent
requests. -/
theorem shared_batches_serve_equivalent_requests {a b : Request} (valid : a.Valid) (valid' : b.Valid) :
    ∃ s t, a.text = .ok s ∧ b.text = .ok t ∧
      a.fingerprint = .ok (digest s) ∧ b.fingerprint = .ok (digest t) ∧
      (s.toUTF8 = t.toUTF8 → a.Equivalent b) ∧
      ((digest s = digest t → s.toUTF8 = t.toUTF8) → ∀ location location',
        locationWithFingerprint location (digest s) = locationWithFingerprint location' (digest t) →
          location = location' ∧ a.Equivalent b) := by
  obtain ⟨fields, text, -⟩ := Request.text_of_valid valid
  obtain ⟨fields', text', -⟩ := Request.text_of_valid valid'
  have equivalent (same : (fieldsText fields).toUTF8 = (fieldsText fields').toUTF8) : a.Equivalent b := by
    refine Request.equivalent_of_same_text valid valid' ?_
    rw [text, text', String.toByteArray_inj.mp same]
  refine ⟨_, _, text, text', by rw [Request.fingerprint_eq_digest, text]; rfl,
    by rw [Request.fingerprint_eq_digest, text']; rfl, equivalent, ?_⟩
  intro noCollision location location' same
  obtain ⟨locations, digests⟩ := locationWithFingerprint_inj same
  exact ⟨locations, equivalent (noCollision digests)⟩

/-- A repeated condition is no different request. -/
theorem repeated_condition_shares_batch :
    let p := Predicate.column "paid" "boolean"
    let a := Request.snapshot [p, p] (some 5) none
    let b := Request.snapshot [p] (some 5) none
    a.Valid ∧ b.Valid ∧ a ≠ b ∧ a.Equivalent b := by
  intro p a b
  have known : WireTag.ofEngine? "boolean" = some .boolean := by decide +kernel
  have kept : p.prune false = some p := by simp [p, Predicate.prune, known]
  have same : a.text = b.text := by
    simp [a, b, Request.text, snapshotText, snapshotFields, Predicate.canonicalConjunction, kept,
      Predicate.canonicalIn, p, Text.distinctSorted, List.eraseDups_cons]
  obtain ⟨s, t, text, text', -, -, equivalent, -⟩ :=
    shared_batches_serve_equivalent_requests (a := a) (b := b) trivial trivial
  refine ⟨trivial, trivial, by simp [a, b], equivalent ?_⟩
  rw [text, text'] at same
  rw [Except.ok.inj same]

end Fingerprint
end SharedTables
