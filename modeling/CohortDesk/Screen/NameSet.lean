import CohortDesk.Cohort
/-!
# Sets of names

Names without repetition in ascending order, so that equal sets are equal values.
-/
namespace CohortDesk

structure NameSet where
  names : List CohortName
  ascending : names.Pairwise (· < ·)
  deriving DecidableEq

namespace NameSet

def empty : NameSet := ⟨[], .nil⟩

instance : Membership CohortName NameSet := ⟨fun set name => name ∈ set.names⟩

instance (name : CohortName) (set : NameSet) : Decidable (name ∈ set) :=
  inferInstanceAs (Decidable (name ∈ set.names))

def insertName (name : CohortName) : List CohortName → List CohortName
  | [] => [name]
  | other :: rest =>
    if name < other then name :: other :: rest
    else if name = other then other :: rest
    else other :: insertName name rest

theorem mem_insert_name {name other : CohortName} {names : List CohortName} :
    other ∈ insertName name names ↔ other = name ∨ other ∈ names := by
  induction names with
  | nil => simp [insertName]
  | cons first rest ih =>
    simp only [insertName]
    split
    · simp
    · split
      · rename_i same
        simp [same]
      · simp only [List.mem_cons, ih]
        grind

theorem ascending_insert_name {name : CohortName} {names : List CohortName}
    (ascending : names.Pairwise (· < ·)) : (insertName name names).Pairwise (· < ·) := by
  induction names with
  | nil => simp [insertName]
  | cons first rest ih =>
    have below := (List.pairwise_cons.1 ascending).1
    have tail := (List.pairwise_cons.1 ascending).2
    simp only [insertName]
    split
    · rename_i before
      refine List.pairwise_cons.2 ⟨?_, ascending⟩
      intro other member
      rcases List.mem_cons.1 member with rfl | later
      · exact before
      · exact String.lt_trans before (below other later)
    · split
      · exact ascending
      · rename_i notBefore different
        refine List.pairwise_cons.2 ⟨?_, ih tail⟩
        intro other member
        rcases mem_insert_name.1 member with rfl | later
        · have atMost : first ≤ other := String.not_lt.1 notBefore
          exact Decidable.byContradiction fun notLess =>
            different (String.le_antisymm (String.not_lt.1 notLess) atMost)
        · exact below other later

def insert (name : CohortName) (set : NameSet) : NameSet :=
  ⟨insertName name set.names, ascending_insert_name set.ascending⟩

def erase (name : CohortName) (set : NameSet) : NameSet :=
  ⟨set.names.filter (· ≠ name), set.ascending.filter _⟩

def isEmpty (set : NameSet) : Bool := set.names.isEmpty

@[simp] theorem not_mem_empty (name : CohortName) : name ∉ empty := List.not_mem_nil

@[simp] theorem mem_insert {name other : CohortName} {set : NameSet} :
    other ∈ set.insert name ↔ other = name ∨ other ∈ set := mem_insert_name

@[simp] theorem mem_erase {name other : CohortName} {set : NameSet} :
    other ∈ set.erase name ↔ other ∈ set ∧ other ≠ name := by
  change other ∈ set.names.filter (· ≠ name) ↔ other ∈ set.names ∧ other ≠ name
  simp

theorem is_empty_iff {set : NameSet} : set.isEmpty = true ↔ ∀ name, name ∉ set := by
  change set.names.isEmpty = true ↔ ∀ name, name ∉ set.names
  rw [List.isEmpty_iff, List.eq_nil_iff_forall_not_mem]

theorem eq_empty {set : NameSet} (none : ∀ name, name ∉ set) : set = .empty := by
  obtain ⟨names, ascending⟩ := set
  have nil : names = [] := List.eq_nil_iff_forall_not_mem.2 none
  subst nil
  rfl

end NameSet

end CohortDesk
