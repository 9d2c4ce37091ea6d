import Mathlib.Data.List.Nodup
import SharedTables.Json.Basic

/-! Members of objects. What is found under a name does not depend on the order
of members with different names, nor on members of other names. -/
namespace SharedTables.Json

variable {members members' : List (String × Json)}

/-- A member is found under its name, wherever it stands. -/
theorem member?_eq_some_iff (distinct : (members.map (·.1)).Nodup) {name : String} {value : Json} :
    member? name members = some value ↔ (name, value) ∈ members := by
  induction members with
  | nil => simp [member?]
  | cons member rest ih =>
    obtain ⟨key, other⟩ := member
    obtain ⟨apart, distinct⟩ := List.nodup_cons.mp distinct
    rw [member?]
    split
    · rename_i same
      subst same
      have absent : (key, value) ∉ rest := fun there => apart (List.mem_map.mpr ⟨_, there, rfl⟩)
      simp [absent, eq_comm]
    · rename_i different
      simp [ih distinct, Ne.symm different]

theorem member?_order (distinct : (members.map (·.1)).Nodup) (moved : members.Perm members') (name : String) :
    member? name members = member? name members' := by
  have distinct' : (members'.map (·.1)).Nodup := (moved.map _).nodup_iff.mp distinct
  ext value
  rw [member?_eq_some_iff distinct, member?_eq_some_iff distinct', moved.mem_iff]

theorem member?_unknown {name other : String} (different : other ≠ name) (value : Json)
    (before after : List (String × Json)) :
    member? name (before ++ (other, value) :: after) = member? name (before ++ after) := by
  induction before with
  | nil => exact if_neg different
  | cons member before ih => simp only [List.cons_append, member?, ih]

/-- Of two objects that differ in the value of one member, the reader finds
this member in both, or it finds the same. -/
theorem member?_changed (name key : String) (value value' : Json) (before after : List (String × Json)) :
    member? key (before ++ (name, value) :: after) = member? key (before ++ (name, value') :: after) ∨
      key = name ∧ member? key (before ++ (name, value) :: after) = some value ∧
        member? key (before ++ (name, value') :: after) = some value' := by
  induction before with
  | nil =>
    by_cases same : name = key
    · exact .inr ⟨same.symm, if_pos same, if_pos same⟩
    · exact .inl (by simp [member?, same])
  | cons member before ih =>
    simp only [List.cons_append, member?]
    split
    · exact .inl rfl
    · exact ih

end SharedTables.Json
