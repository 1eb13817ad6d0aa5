import CohortDesk.Json.Record
import Mathlib.Data.List.Basic
import Mathlib.Logic.Relation

/-!
# Records read from objects

A record takes the values of its own fields from an object and looks at nothing else. So its
members may come in any order, among any others, and a field that may be missing may be null
instead; what is read stays the same.
-/

namespace CohortDesk.Json

set_option autoImplicit false

namespace Value

/-- The members of one name, in their order. -/
def named (members : List (Option String × Value)) (name : String) :
    List (Option String × Value) :=
  members.filter fun member => member.1 == some name

def present? (members : List (Option String × Value)) (field : String) : Option Value :=
  (named members field).head?.map (·.2)

/-- What an object gives for a field; null where it has no such member. -/
def given (members : List (Option String × Value)) (field : String) : Value :=
  (present? members field).getD .null

/-- An object that may be read as a record of these fields: every name is text, and none of the
fields occurs twice. -/
structure IsRecord (fields : List String) (members : List (Option String × Value)) : Prop where
  text : ∀ member ∈ members, member.1.isSome = true
  once : ∀ field ∈ fields, (named members field).length ≤ 1

/-- Changes of an object that mean nothing to a record: another order, one more member that is no
field of it, and null for a field that was missing and may be. -/
inductive Rewording (fields optional : List String) :
    List (Option String × Value) → List (Option String × Value) → Prop
  | reordered {members others : List (Option String × Value)} (same : members.Perm others) :
      Rewording fields optional members others
  | added {before after : List (Option String × Value)} {name : String} (value : Value)
      (unknown : name ∉ fields) :
      Rewording fields optional (before ++ after) (before ++ (some name, value) :: after)
  | nulled {before after : List (Option String × Value)} {field : String}
      (allowed : field ∈ optional) (missing : ∀ member ∈ before ++ after, member.1 ≠ some field) :
      Rewording fields optional (before ++ after) (before ++ (some field, .null) :: after)

variable {fields optional : List String} {members others : List (Option String × Value)}

/-- What is given for a field, null apart, is a member of the object. -/
theorem mem_of_given {field : String} {value : Value} (gives : given members field = value)
    (present : value ≠ .null) : (some field, value) ∈ members := by
  unfold given present? at gives
  cases found : (named members field).head? with
  | none =>
      rw [found] at gives
      exact absurd gives.symm present
  | some member =>
      rw [found] at gives
      obtain ⟨name, content⟩ := member
      obtain ⟨kept, called⟩ := List.mem_filter.1 (List.mem_of_head? found)
      have same : content = value := gives
      have named : name = some field := eq_of_beq called
      rwa [named, same] at kept

theorem named_insert_of_ne {before after : List (Option String × Value)} {name field : String}
    (other : name ≠ field) (value : Value) :
    named (before ++ (some name, value) :: after) field = named (before ++ after) field := by
  have passed : ((some name, value).1 == some field) = false := by simp [other]
  rw [named, named, List.filter_append, List.filter_append,
    List.filter_cons_of_neg (by simp [passed])]

theorem named_of_missing {field : String} (missing : ∀ member ∈ members, member.1 ≠ some field) :
    named members field = [] :=
  List.filter_eq_nil_iff.2 fun member present => by simp [missing member present]

/-- Of the members of a field a rewording changes the order, or it adds a null to none. -/
theorem Rewording.named (rewording : Rewording fields optional members others) {field : String}
    (known : field ∈ fields) :
    (Value.named members field).Perm (Value.named others field) ∨
      (Value.named members field = [] ∧ Value.named others field = [(some field, .null)]) := by
  cases rewording with
  | reordered same => exact .inl (same.filter _)
  | @added before after name value unknown =>
      have other : name ≠ field := fun same => unknown (same ▸ known)
      rw [named_insert_of_ne other]
      exact .inl (.refl _)
  | @nulled before after name allowed missing =>
      by_cases same : name = field
      · subst same
        refine .inr ⟨named_of_missing missing, ?_⟩
        have first := named_of_missing fun member present =>
          missing member (List.mem_append_left _ present)
        have last := named_of_missing fun member present =>
          missing member (List.mem_append_right _ present)
        unfold Value.named at first last ⊢
        rw [List.filter_append, List.filter_cons_of_pos (by simp), first, last, List.nil_append]
      · rw [named_insert_of_ne same]
        exact .inl (.refl _)

theorem Rewording.text_iff (rewording : Rewording fields optional members others) :
    (∀ member ∈ members, member.1.isSome = true) ↔ ∀ member ∈ others, member.1.isSome = true := by
  cases rewording with
  | reordered same => simp only [same.mem_iff]
  | added value unknown => simp only [List.forall_mem_append, List.forall_mem_cons,
      Option.isSome_some, true_and]
  | nulled allowed missing => simp only [List.forall_mem_append, List.forall_mem_cons,
      Option.isSome_some, true_and]

/-- Two objects from which the same record is read. -/
structure SameRecord (fields : List String) (members others : List (Option String × Value)) :
    Prop where
  isRecord_iff : IsRecord fields members ↔ IsRecord fields others
  given : IsRecord fields members → ∀ field ∈ fields,
    Value.given members field = Value.given others field

theorem given_eq_of_perm {field : String} (once : (named members field).length ≤ 1)
    (same : (named members field).Perm (named others field)) :
    given members field = given others field := by
  have equal : named members field = named others field := by
    cases found : named members field with
    | nil =>
        rw [found] at same
        exact same.nil_eq
    | cons member rest =>
        rw [found] at once same
        have alone : rest = [] := List.length_eq_zero_iff.1 (by simpa using once)
        rw [alone] at same ⊢
        exact List.singleton_perm.1 same
  rw [given, present?, equal, ← present?, ← given]

theorem Rewording.same_record (rewording : Rewording fields optional members others) :
    SameRecord fields members others := by
  constructor
  · have once (field : String) (known : field ∈ fields) :
        (Value.named members field).length ≤ 1 ↔ (Value.named others field).length ≤ 1 := by
      rcases rewording.named known with same | ⟨missing, null⟩
      · rw [same.length_eq]
      · simp [missing, null]
    constructor
    · rintro ⟨text, single⟩
      exact ⟨rewording.text_iff.1 text, fun field known =>
        (once field known).1 (single field known)⟩
    · rintro ⟨text, single⟩
      exact ⟨rewording.text_iff.2 text, fun field known =>
        (once field known).2 (single field known)⟩
  · intro record field known
    rcases rewording.named known with same | ⟨missing, null⟩
    · exact given_eq_of_perm (record.once field known) same
    · simp [Value.given, present?, missing, null]

theorem same_record_of_rewordings
    (rewordings : Relation.EqvGen (Rewording fields optional) members others) :
    SameRecord fields members others := by
  -- Being a record goes along, in both directions: of a field that occurs twice, another member may
  -- come first in another order.
  induction rewordings with
  | rel members others rewording => exact rewording.same_record
  | refl members => exact ⟨.rfl, fun _ _ _ => rfl⟩
  | symm members others _ ih =>
      exact ⟨ih.isRecord_iff.symm, fun record field known =>
        (ih.given (ih.isRecord_iff.2 record) field known).symm⟩
  | trans members between others _ _ first second =>
      exact ⟨first.isRecord_iff.trans second.isRecord_iff, fun record field known =>
        (first.given record field known).trans
          (second.given (first.isRecord_iff.1 record) field known)⟩

section Reading

theorem member?_eq_present? {field : String} (once : (named members field).length ≤ 1) :
    member? members field = some (present? members field) := by
  unfold named at once
  unfold member? present? named
  cases found : members.filter fun member => member.1 == some field with
  | nil => rfl
  | cons member rest =>
      rw [found] at once
      have alone : rest = [] := List.length_eq_zero_iff.1 (by simpa using once)
      rw [alone]
      rfl

theorem fields?_object (record : IsRecord fields members) :
    fields? fields (.object members) = some (fields.map (present? members)) := by
  have text : (members.all fun member => member.1.isSome) = true := List.all_eq_true.2 record.text
  rw [fields?, if_pos text]
  have once := record.once
  clear record
  induction fields with
  | nil => rfl
  | cons field others ih =>
      obtain ⟨first, later⟩ := List.forall_mem_cons.1 once
      rw [List.mapM_cons, member?_eq_present? first, ih later]
      rfl

/-- A field that may be missing: null says nothing, and any other value has to mean something. -/
inductive Holds {α : Type} (Means : Value → α → Prop) : Value → Option α → Prop
  | nothing : Holds Means .null none
  | content {value : Value} {found : α} (means : Means value found) :
      Holds Means value (some found)

variable {α : Type} {read : Value → Option α} {Means : Value → α → Prop}

theorem optional?_eq_some_iff (means : ∀ value found, read value = some found ↔ Means value found)
    (blank : read .null = none) {field : Option Value} {found : Option α} :
    optional? read field = some found ↔ Holds Means (field.getD .null) found := by
  have silent : some none = some found ↔ Holds Means .null found := by
    constructor
    · rintro ⟨⟩
      exact .nothing
    · intro holds
      cases holds with
      | nothing => rfl
      | content meant =>
          rw [← means, blank] at meant
          cases meant
  cases field with
  | none => exact silent
  | some value =>
      by_cases null : value = .null
      · subst null
        exact silent
      · rw [optional?, Option.map_eq_some_iff, Option.getD_some]
        · constructor
          · rintro ⟨inner, reads, rfl⟩
            exact .content ((means value inner).1 reads)
          · intro holds
            cases holds with
            | nothing => exact absurd rfl null
            | content meant => exact ⟨_, (means value _).2 meant, rfl⟩
        · exact null

theorem required?_eq_some_iff (means : ∀ value found, read value = some found ↔ Means value found)
    (blank : read .null = none) {field : Option Value} {found : α} :
    required? read field = some found ↔ Means (field.getD .null) found := by
  rw [← means]
  cases field with
  | none => simp [required?, blank]
  | some value => rfl

end Reading

end Value

end CohortDesk.Json
