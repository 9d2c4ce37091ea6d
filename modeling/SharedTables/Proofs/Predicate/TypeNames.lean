import SharedTables.Proofs.Predicate.WireText
import SharedTables.Proofs.Text.Blank

/-! The names under which types count. A name that requests do not know counts
by its spelling in lower case, white space included, and no such spelling is
the name of a wire tag: names with a tag and names without are never mixed up. -/
namespace SharedTables

namespace Text

/-- Lower case leaves white space as it is. -/
theorem lowerChar_blank {c : Char} (blank : isBlank c = true) : lowerChar c = c ∧ c ≠ 'Σ' ∧ c ≠ 'İ' := by
  have known := forall_blank (P := fun c => lowerDistance? c = none ∧ c ≠ 'Σ' ∧ c ≠ 'İ') (by decide +kernel) blank
  exact ⟨by rw [lowerChar, known.1], known.2⟩

/-- White space is still there in lower case. -/
theorem mem_lowerAfter_of_blank {c : Char} {before cs : List Char} (blank : isBlank c = true) (member : c ∈ cs) :
    c ∈ lowerAfter before cs := by
  induction cs generalizing before with
  | nil => cases member
  | cons d cs ih =>
    rw [lowerAfter]
    rcases List.mem_cons.mp member with rfl | member
    · obtain ⟨same, notSigma, notDotted⟩ := lowerChar_blank blank
      simp [same, notSigma, notDotted]
    · exact List.mem_append_right _ (ih member)

end Text

/-- A name that is spelled like a tag, but for case, is a name of its type. -/
theorem WireTag.ofEngine_of_lower {type : String} {tag : WireTag} (spelled : Text.lower type = tag.name) :
    WireTag.ofEngine? type = some tag := by
  have solid : tag.name.toList.all (!Text.isBlank ·) = true := by cases tag <;> decide +kernel
  have named : engineNames.lookup tag.name = some tag := by cases tag <;> decide +kernel
  have trimmed : Text.trim type = type := by
    refine Text.trim_eq_self fun c member => Bool.eq_false_iff.mpr fun blank => ?_
    have there : c ∈ tag.name.toList := by
      rw [← spelled, Text.lower, String.toList_ofList]
      exact Text.mem_lowerAfter_of_blank blank member
    exact absurd blank (by simpa using List.all_eq_true.mp solid c there)
  rw [ofEngine?, trimmed, spelled, named]

namespace Predicate

/-- Two names of types that count as one: both have the same wire tag, or both
have none and are spelled alike but for case. -/
def SameType (type type' : String) : Prop :=
  WireTag.ofEngine? type = WireTag.ofEngine? type' ∧
    (WireTag.ofEngine? type = none → Text.lower type = Text.lower type')

theorem typeKey_eq_iff {type type' : String} : typeKey type = typeKey type' ↔ SameType type type' := by
  unfold typeKey SameType
  cases known : WireTag.ofEngine? type with
  | none =>
    cases known' : WireTag.ofEngine? type' with
    | none => simp
    | some tag' =>
      have apart : Text.lower type ≠ tag'.name := fun spelled => by
        rw [WireTag.ofEngine_of_lower spelled] at known
        cases known
      simp [apart]
  | some tag =>
    cases known' : WireTag.ofEngine? type' with
    | none =>
      have apart : tag.name ≠ Text.lower type' := fun spelled => by
        rw [WireTag.ofEngine_of_lower spelled.symm] at known'
        cases known'
      simp [apart]
    | some tag' => simpa using ⟨WireTag.name_injective, congrArg WireTag.name⟩

end Predicate
end SharedTables
