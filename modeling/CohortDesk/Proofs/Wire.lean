import CohortDesk.Proofs.Instant.Text
import CohortDesk.Proofs.Json.Value
import CohortDesk.Proofs.Text.Utf8
import CohortDesk.Wire

/-!
# Round trips of the service's JSON

Cohorts, listings, queries and refusals are what their own JSON is read as. So any text that is read
as one of them can be replaced by the text written for it: offsets, spellings, order and unknown
members get lost, the value does not.
-/

namespace CohortDesk

set_option autoImplicit false

open Json Text

/-- What is written for a value has a text, and is read as that value. -/
structure ReadsBack {α : Type} (ofJson? : Value → Option α) (toJson : α → Value) : Prop where
  exact : ∀ value, (toJson value).Exact
  restores : ∀ value, ofJson? (toJson value) = some value

/-- The text of a value is decoded to it, and re-encoding a text does not change what it is decoded
to. -/
structure RoundTrips {α : Type} (ofJson? : Value → Option α) (toJson : α → Value) : Prop where
  restores : ∀ value, decode? ofJson? (encode toJson value) = some value
  reencodes : ∀ text value, decode? ofJson? text = some value →
    decode? ofJson? (encode toJson value) = decode? ofJson? text

theorem ReadsBack.round_trips {α : Type} {ofJson? : Value → Option α} {toJson : α → Value}
    (back : ReadsBack ofJson? toJson) : RoundTrips ofJson? toJson := by
  have restores : ∀ value, decode? ofJson? (encode toJson value) = some value := by
    intro value
    rw [decode?, encode, String.toList_ofList, read?_write (back.exact value), Option.bind_some]
    exact back.restores value
  constructor
  · exact restores
  · intro text value decoded
    rw [restores, decoded]

/-- The bytes of a text are read like the text. -/
theorem decode_bytes?_encode {α : Type} (ofJson? : Value → Option α) (text : String) :
    decodeBytes? ofJson? (Utf8.encode text.toList) = decode? ofJson? text := by
  rw [decodeBytes?, readBytes?, Utf8.decode_marking_encode, decode?]

section Fields

theorem long_word?_toInt (id : Int64) : Value.longWord? (.number (some id.toInt)) = some id := by
  have fits : fitsSigned id.toInt = true := by
    have lower := id.le_toInt
    have upper := id.toInt_lt
    simp only [fitsSigned, Bool.and_eq_true, decide_eq_true_eq]
    omega
  simp only [Value.longWord?, Value.whole?, Option.bind_eq_bind, Option.bind_some, fits, if_true,
    Int64.ofInt_toInt]

theorem word?_toNat (word : UInt32) : Value.word? (.number (some word.toNat)) = some word := by
  have below : (word.toNat : Int) < UInt32.size := Int.ofNat_lt.2 word.toNat_lt_size
  have fits : 0 ≤ (word.toNat : Int) ∧ (word.toNat : Int) < UInt32.size :=
    ⟨Int.natCast_nonneg _, below⟩
  rw [Value.word?, Value.whole?, Option.bind_eq_bind, Option.bind_some, if_pos fits,
    Int.toNat_natCast, UInt32.ofNat_toNat]

theorem required?_some {α : Type} {read : Value → Option α} {value : Value} {found : α}
    (restores : read value = some found) : Value.required? read (some value) = some found :=
  restores

theorem Instant.reads_back : ReadsBack Instant.ofJson? Instant.toJson where
  exact _ := Value.exact_string _
  restores instant := by
    simp only [toJson, ofJson?, Value.text?, Option.bind_eq_bind, Option.bind_some,
      String.toList_ofList, read?_text]

theorem text_reads_back : ReadsBack Value.text? fun text => .string (some text) where
  exact _ := Value.exact_string _
  restores _ := rfl

theorem RefusalCode.reads_back : ReadsBack RefusalCode.ofJson? RefusalCode.toJson where
  exact _ := Value.exact_string _
  restores code := congrArg some (of_name_name code)

variable {α : Type} {ofJson? : Value → Option α} {toJson : α → Value}

theorem ReadsBack.or_null_exact (back : ReadsBack ofJson? toJson) (field : Option α) :
    (Cohort.orNull toJson field).Exact := by
  cases field with
  | none => exact Value.exact_null
  | some value => exact back.exact value

theorem ReadsBack.optional?_or_null (back : ReadsBack ofJson? toJson)
    (present : ∀ value, toJson value ≠ .null) (field : Option α) :
    Value.optional? ofJson? (some (Cohort.orNull toJson field)) = some field := by
  cases field with
  | none => rfl
  | some value =>
      rw [Cohort.orNull, Value.optional?, back.restores, Option.map_some]
      exact present value

theorem ReadsBack.mapM (back : ReadsBack ofJson? toJson) (values : List α) :
    (values.map toJson).mapM ofJson? = some values := by
  induction values with
  | nil => rfl
  | cons value others ih =>
      rw [List.map_cons, List.mapM_cons, back.restores, ih]
      rfl

end Fields

theorem Cohort.fields?_to_json (cohort : Cohort) :
    cohort.toJson.fields? fieldNames =
      some [cohort.id.map fun id => .number (some id.toInt), some (.string (some cohort.name)),
        some (orNull (fun text => .string (some text)) cohort.description),
        some (orNull (fun text => .string (some text)) cohort.kind),
        some (orNull Instant.toJson cohort.createdAt)] := by
  cases present : cohort.id <;>
    simp [toJson, present, Value.fields?, Value.member?, fieldNames]

theorem Cohort.reads_back : ReadsBack Cohort.ofJson? Cohort.toJson where
  exact cohort := by
    apply Value.exact_object
    cases cohort.id <;> simp [Value.exact_number, Value.exact_string,
      text_reads_back.or_null_exact, Instant.reads_back.or_null_exact]
  restores cohort := by
    have id : Value.optional? Value.longWord?
        (cohort.id.map fun id => .number (some id.toInt)) = some cohort.id := by
      cases cohort.id with
      | none => rfl
      | some id => exact congrArg (Option.map some) (long_word?_toInt id)
    have texts := text_reads_back.optional?_or_null fun _ => nofun
    have instants := Instant.reads_back.optional?_or_null fun _ => nofun
    rw [ofJson?, fields?_to_json]
    simp only [id, texts, instants, Value.required?, Value.text?, Option.bind_eq_bind,
      Option.bind_some, Option.pure_def]

theorem Cohort.listing_reads_back : ReadsBack Cohort.listOfJson? Cohort.listToJson where
  exact cohorts := by
    apply Value.exact_array
    simp [Cohort.reads_back.exact]
  restores cohorts := Cohort.reads_back.mapM cohorts

theorem Query.fields?_to_json (query : Query) :
    query.toJson.fields? fieldNames =
      some [some (.string (some query.filter)), some (.string (some query.order)),
        some (.number (some query.limit.toNat)), some (.number (some query.page.toNat))] := by
  simp [toJson, Value.fields?, Value.member?, fieldNames]

theorem Query.of_json?_of_fields {value : Value} {query : Query}
    {filter order limit page : Option Value}
    (fields : value.fields? fieldNames = some [filter, order, limit, page])
    (filters : Value.required? Value.text? filter = some query.filter)
    (orders : Value.required? Value.text? order = some query.order)
    (limits : Value.required? Value.word? limit = some query.limit)
    (pages : Value.required? Value.word? page = some query.page) :
    ofJson? value = some query := by
  rw [ofJson?, fields]
  simp only [filters, orders, limits, pages, Option.bind_eq_bind, Option.bind_some,
    Option.pure_def]

theorem Query.reads_back : ReadsBack Query.ofJson? Query.toJson where
  exact query := by
    apply Value.exact_object
    simp [Value.exact_number, Value.exact_string]
  restores query := by
    apply of_json?_of_fields query.fields?_to_json rfl rfl
    · exact required?_some (word?_toNat query.limit)
    · exact required?_some (word?_toNat query.page)

theorem Refusal.fields?_to_json (refusal : Refusal) :
    refusal.toJson.fields? fieldNames =
      some [some refusal.code.toJson, some (.string (some refusal.message))] := by
  simp [toJson, Value.fields?, Value.member?, fieldNames]

theorem Refusal.reads_back : ReadsBack Refusal.ofJson? Refusal.toJson where
  exact refusal := by
    apply Value.exact_object
    simp [Value.exact_string, RefusalCode.reads_back.exact]
  restores refusal := by
    rw [ofJson?, fields?_to_json]
    simp only [Value.required?, Value.text?, RefusalCode.reads_back.restores, Option.bind_eq_bind,
      Option.bind_some, Option.pure_def]

/-- Cohorts with any id, texts and instant, listings of them, queries and refusals are read back
from their text; and a text that is read as one of these, whatever its form, is read like the text
written for what it says. -/
theorem wire_round_trips :
    RoundTrips Cohort.ofJson? Cohort.toJson ∧
      RoundTrips Cohort.listOfJson? Cohort.listToJson ∧
      RoundTrips Query.ofJson? Query.toJson ∧
      RoundTrips Refusal.ofJson? Refusal.toJson :=
  ⟨Cohort.reads_back.round_trips, Cohort.listing_reads_back.round_trips,
    Query.reads_back.round_trips, Refusal.reads_back.round_trips⟩

/-- A row with an offset and a leap second, as the record with an instant of UTC. -/
example :
    (decode? Cohort.ofJson? "[7,\"a\",null,null,\"2017-01-01 01:59:60.50+02:00\"]").map
        (encode Cohort.toJson) =
      some ("\x7b\"id\":7,\"name\":\"a\",\"description\":null,\"type\":null," ++
        "\"created_at\":\"2016-12-31T23:59:60.500Z\"\x7d") := by
  decide +kernel

end CohortDesk
