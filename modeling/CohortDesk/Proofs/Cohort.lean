import CohortDesk.Proofs.Json.Record
import CohortDesk.Proofs.Wire

/-!
# Cohorts read from objects

Of a JSON object a cohort is read by the values of five members. The name has to be there, the
others may be missing or null; their order, other members of any depth, and the spelling of all of
it do not matter.
-/

namespace CohortDesk

set_option autoImplicit false

open Json

section Kinds

def Json.Value.IsText (value : Value) (text : String) : Prop := value = .string (some text)

def Json.Value.IsLongWord (value : Value) (word : Int64) : Prop := value = .number (some word.toInt)

/-- The value is text that is read as this instant. -/
def Json.Value.IsInstant (value : Value) (instant : Instant) : Prop :=
  ∃ text, value.IsText text ∧ Instant.read? text.toList = some instant

theorem text?_eq_some_iff (value : Value) (text : String) :
    value.text? = some text ↔ value.IsText text := by
  cases value <;> simp [Value.text?, Value.IsText]

theorem toInt_ofInt_of_fits {whole : Int} (fits : Text.fitsSigned whole = true) :
    (Int64.ofInt whole).toInt = whole := by
  simp only [Text.fitsSigned, Bool.and_eq_true, decide_eq_true_eq] at fits
  exact Int64.toInt_ofInt_of_le (by omega) (by omega)

theorem long_word?_eq_some_iff (value : Value) (word : Int64) :
    value.longWord? = some word ↔ value.IsLongWord word := by
  constructor
  · intro reads
    cases value with
    | number whole =>
        cases whole with
        | none => cases reads
        | some whole =>
            simp only [Value.longWord?, Value.whole?, Option.bind_eq_bind, Option.bind_some,
              Option.ite_none_right_eq_some, Option.some.injEq] at reads
            obtain ⟨fits, rfl⟩ := reads
            rw [Value.IsLongWord, toInt_ofInt_of_fits fits]
    | _ => cases reads
  · rintro rfl
    exact long_word?_toInt word

theorem Instant.of_json?_eq_some_iff (value : Value) (instant : Instant) :
    ofJson? value = some instant ↔ value.IsInstant instant := by
  simp only [ofJson?, Option.bind_eq_bind, Option.bind_eq_some_iff, text?_eq_some_iff,
    Value.IsInstant]

end Kinds

theorem decode?_spelled {α : Type} (ofJson? : Value → Option α) {value : Value} {text : String}
    (spelled : value.Spelled text.toList) : decode? ofJson? text = ofJson? value := by
  rw [decode?, read?_spelled spelled, Option.bind_some]

namespace Cohort

/-- The fields that may be missing. -/
def optionalNames : List String := ["id", "description", "type", "created_at"]

/-- What the members of an object say of a cohort. -/
structure DescribedBy (members : List (Option String × Value)) (cohort : Cohort) : Prop where
  id : Value.Holds Value.IsLongWord (Value.given members "id") cohort.id
  name : (Value.given members "name").IsText cohort.name
  description : Value.Holds Value.IsText (Value.given members "description") cohort.description
  kind : Value.Holds Value.IsText (Value.given members "type") cohort.kind
  createdAt : Value.Holds Value.IsInstant (Value.given members "created_at") cohort.createdAt

variable {members others : List (Option String × Value)} {cohort : Cohort}

theorem of_json?_object (record : Value.IsRecord fieldNames members) :
    ofJson? (.object members) = some cohort ↔ DescribedBy members cohort := by
  have ids {field : Option Value} {found : Option Int64} :
      Value.optional? Value.longWord? field = some found ↔ _ :=
    Value.optional?_eq_some_iff long_word?_eq_some_iff rfl
  have texts {field : Option Value} {found : Option String} :
      Value.optional? Value.text? field = some found ↔ _ :=
    Value.optional?_eq_some_iff text?_eq_some_iff rfl
  have instants {field : Option Value} {found : Option Instant} :
      Value.optional? Instant.ofJson? field = some found ↔ _ :=
    Value.optional?_eq_some_iff Instant.of_json?_eq_some_iff rfl
  have names {field : Option Value} {found : String} :
      Value.required? Value.text? field = some found ↔ _ :=
    Value.required?_eq_some_iff text?_eq_some_iff rfl
  rw [ofJson?, Value.fields?_object record]
  simp only [fieldNames, List.map_cons, List.map_nil, Option.bind_eq_bind, Option.bind_some,
    Option.bind_eq_some_iff, Option.pure_def, Option.some.injEq, ids, texts, instants, names]
  constructor
  · rintro ⟨id, ofId, name, ofName, description, ofDescription, kind, ofKind, createdAt,
      ofCreatedAt, rfl⟩
    exact ⟨ofId, ofName, ofDescription, ofKind, ofCreatedAt⟩
  · intro described
    exact ⟨_, described.id, _, described.name, _, described.description, _, described.kind, _,
      described.createdAt, rfl⟩

theorem DescribedBy.of_given (same : ∀ field ∈ fieldNames,
    Value.given others field = Value.given members field) (described : DescribedBy others cohort) :
    DescribedBy members cohort where
  id := same "id" (by decide) ▸ described.id
  name := same "name" (by decide) ▸ described.name
  description := same "description" (by decide) ▸ described.description
  kind := same "type" (by decide) ▸ described.kind
  createdAt := same "created_at" (by decide) ▸ described.createdAt

/-- Two objects that give the same for each field of a cohort are read alike. -/
theorem of_json?_congr (record : Value.IsRecord fieldNames members)
    (another : Value.IsRecord fieldNames others)
    (same : ∀ field ∈ fieldNames, Value.given others field = Value.given members field) :
    ofJson? (.object others) = ofJson? (.object members) := by
  apply Option.ext
  intro cohort
  rw [of_json?_object another, of_json?_object record]
  exact ⟨.of_given same, .of_given fun field known => (same field known).symm⟩

/-- How a text of an object is read as a cohort. It is one exactly if the values of the five fields
describe one, which takes a name. Any text of any object that gives the same for the five fields is
read alike, with blanks wherever they may stand; among them are all the objects that come about by
rewording this one. -/
structure ReadByFields (members : List (Option String × Value)) (text : String) : Prop where
  read_iff : ∀ cohort, decode? ofJson? text = some cohort ↔ DescribedBy members cohort
  named : ∀ cohort, decode? ofJson? text = some cohort →
    (some "name", .string (some cohort.name)) ∈ members
  alike : ∀ others (otherText : String), Value.IsRecord fieldNames others →
    (∀ field ∈ fieldNames, Value.given others field = Value.given members field) →
    (Value.object others).Spelled otherText.toList →
    decode? ofJson? otherText = decode? ofJson? text
  reworded : ∀ others (otherText : String),
    Relation.EqvGen (Value.Rewording fieldNames optionalNames) members others →
    (Value.object others).Spelled otherText.toList →
    decode? ofJson? otherText = decode? ofJson? text

/-- A JSON text of an object, all of whose names are text and in which none of the five fields
occurs twice, is read as a cohort by the values of these fields alone. -/
theorem object_text_is_read_by_its_fields {members : List (Option String × Value)} {text : String}
    (record : Value.IsRecord fieldNames members)
    (spelled : (Value.object members).Spelled text.toList) : ReadByFields members text := by
  have read_iff (cohort : Cohort) :
      decode? ofJson? text = some cohort ↔ DescribedBy members cohort := by
    rw [decode?_spelled ofJson? spelled]
    exact of_json?_object record
  have alike (others : List (Option String × Value)) (otherText : String)
      (another : Value.IsRecord fieldNames others)
      (same : ∀ field ∈ fieldNames, Value.given others field = Value.given members field)
      (written : (Value.object others).Spelled otherText.toList) :
      decode? ofJson? otherText = decode? ofJson? text := by
    rw [decode?_spelled ofJson? spelled, decode?_spelled ofJson? written]
    exact of_json?_congr record another same
  refine ⟨read_iff, ?_, alike, ?_⟩
  · intro cohort read
    exact Value.mem_of_given ((read_iff cohort).1 read).name nofun
  · intro others otherText rewordings written
    have same := Value.same_record_of_rewordings rewordings
    exact alike others otherText (same.isRecord_iff.1 record)
      (fun field known => (same.given record field known).symm) written

def plain : List (Option String × Value) :=
  [(some "name", .string (some "a")), (some "id", .number (some 7))]

def plainText : String := "\x7b\"name\":\"a\",\"id\":7\x7d"

/-- The same two fields in the other order, with a null and a member of another record. -/
def adorned : List (Option String × Value) :=
  [(some "of", .object [(some "name", .array [.array []])]), (some "id", .number (some 7)),
    (some "type", .null), (some "name", .string (some "a"))]

def adornedText : String :=
  "\n\x7b \"of\":\x7b\"name\":[[]]\x7d,\"id\":7,\"type\":null,\"name\":\"a\"\x7d"

theorem adorned_text_is_read_as_the_plain_one :
    Value.IsRecord fieldNames plain ∧ (Value.object plain).Spelled plainText.toList ∧
      Relation.EqvGen (Value.Rewording fieldNames optionalNames) plain adorned ∧
      (Value.object adorned).Spelled adornedText.toList ∧
      decode? ofJson? adornedText = decode? ofJson? plainText ∧
      decode? ofJson? plainText = some { named "a" with id := some 7 } := by
  have record : Value.IsRecord fieldNames plain := ⟨by decide, by decide⟩
  have spelled : (Value.object plain).Spelled plainText.toList := spells_flatMap (by decide)
  have reordered : Value.Rewording fieldNames optionalNames plain plain.reverse :=
    .reordered plain.reverse_perm.symm
  have added : Value.Rewording fieldNames optionalNames ([] ++ plain.reverse)
      (adorned.take 1 ++ plain.reverse) := .added _ (by decide)
  have nulled : Value.Rewording fieldNames optionalNames (adorned.take 2 ++ adorned.drop 3)
      adorned := .nulled (by decide) (by decide)
  have rewordings : Relation.EqvGen (Value.Rewording fieldNames optionalNames) plain adorned :=
    .trans _ _ _ (.rel _ _ reordered) (.trans _ _ _ (.rel _ _ added) (.rel _ _ nulled))
  have written : (Value.object adorned).Spelled adornedText.toList := by
    have blank : ['\n'].all isSpace = true := rfl
    have gap : [' '].all isSpace = true := rfl
    have name : (Token.string (some "of")).Spelled "\"of\"".toList := Token.spelled_text rfl
    have later : Spells ((Value.object adorned).tokens.drop 2) (adornedText.toList.drop 7) :=
      spells_flatMap (by decide)
    exact .cons blank (.mark rfl) (.cons gap name later)
  have read := object_text_is_read_by_its_fields record spelled
  have value := (read.read_iff { named "a" with id := some 7 }).2
    ⟨.content rfl, rfl, .nothing, .nothing, .nothing⟩
  exact ⟨record, spelled, rewordings, written, read.reworded _ _ rewordings written, value⟩

end Cohort

end CohortDesk
