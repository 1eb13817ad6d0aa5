import CohortDesk.Proofs.Settings.Layers
import CohortDesk.Proofs.Text.Utf8

/-!
# Written settings files

How a settings file is written line by line: entries with bare or quoted keys, texts on one line
with their escapes, whole numbers with or without a sign, blanks, comments and both kinds of line
breaks. Every text that is written so is read as its entries. Texts in blocks, numbers of other
bases and digits in groups can be read as well, but nothing is said of them here.
-/

namespace CohortDesk.Settings

set_option autoImplicit false

section Texts

/-- What stands behind the backslash of an escape, and the character that is meant. -/
inductive EscapeFor : Char → List Char → Prop
  | backspace : EscapeFor '\x08' ['b']
  | tab : EscapeFor '\t' ['t']
  | lineFeed : EscapeFor '\n' ['n']
  | formFeed : EscapeFor '\x0C' ['f']
  | carriageReturn : EscapeFor '\r' ['r']
  | quote : EscapeFor '"' ['"']
  | backslash : EscapeFor '\\' ['\\']
  | short {c : Char} {code : List Char} (four : code.length = 4)
      (spells : Text.numeral? 16 code = some c.toNat) : EscapeFor c ('u' :: code)
  | long {c : Char} {code : List Char} (eight : code.length = 8)
      (spells : Text.numeral? 16 code = some c.toNat) : EscapeFor c ('U' :: code)

theorem named_char_code {c : Char} {code : List Char}
    (spells : Text.numeral? 16 code = some c.toNat) (rest : List Char) :
    namedChar? code.length (code ++ rest) = some ([c], code.length + 1) := by
  have valid : c.toNat.isValidChar := c.valid
  simp [namedChar?, spells, valid]

theorem EscapeFor.read {c : Char} {escape : List Char} (means : EscapeFor c escape)
    (rest : List Char) : escape? false (escape ++ rest) = some ([c], escape.length) := by
  cases means with
  | backspace | tab | lineFeed | formFeed | carriageReturn | quote | backslash => rfl
  | short four spells =>
      rw [List.cons_append, escape?, ← four]
      exact named_char_code spells rest
  | long eight spells =>
      rw [List.cons_append, escape?, ← eight]
      exact named_char_code spells rest

/-- How a text is spelled between two marks on one line. Between quotes a backslash starts an
escape. -/
inductive Spelled (mark : Char) : List Char → List Char → Prop
  | nil : Spelled mark [] []
  | plain {c : Char} {content spelling : List Char} (ordinary : isTextChar c = true)
      (inside : c ≠ mark) (unescaped : mark = Settings.quote → c ≠ '\\')
      (rest : Spelled mark content spelling) : Spelled mark (c :: content) (c :: spelling)
  | escaped {c : Char} {escape content spelling : List Char} (escapes : mark = Settings.quote)
      (means : EscapeFor c escape) (rest : Spelled mark content spelling) :
      Spelled mark (c :: content) ('\\' :: (escape ++ spelling))

def IsMark (mark : Char) : Prop := mark = quote ∨ mark = apostrophe

instance (mark : Char) : Decidable (IsMark mark) := inferInstanceAs (Decidable (_ ∨ _))

/-- The characters of an escape are passed over once it is understood. -/
theorem body_skip (quoting : Quoting) (skipped rest : List Char) :
    body? quoting skipped.length (skipped ++ rest) = body? quoting 0 rest := by
  induction skipped with
  | nil => rfl
  | cons c others ih =>
      rw [List.length_cons, List.cons_append, body?]
      exact ih

theorem body_spelled {mark : Char} {content spelling : List Char}
    (spelled : Spelled mark content spelling) (rest : List Char) :
    body? ⟨mark, mark == quote, false⟩ 0 (spelling ++ mark :: rest) = some (content, rest) := by
  induction spelled with
  | nil => simp [body?]
  | @plain c content spelling ordinary inside unescaped _ ih =>
      have sameLine : c ≠ '\n' ∧ c ≠ '\r' := by
        constructor
        · rintro rfl
          cases ordinary
        · rintro rfl
          cases ordinary
      have literal : ¬(c = '\\' ∧ (mark == quote) = true) := fun ⟨backslash, between⟩ =>
        unescaped (beq_iff_eq.1 between) backslash
      rw [List.cons_append, body?, if_neg inside, if_neg literal, if_neg sameLine.1,
        if_neg sameLine.2, if_pos ordinary]
      simp only [ih]
      rfl
  | @escaped c escape content spelling escapes means _ ih =>
      subst escapes
      have inside : '\\' ≠ quote := by decide
      have starts : '\\' = '\\' ∧ (quote == quote) = true := ⟨rfl, rfl⟩
      rw [List.cons_append, List.append_assoc, body?, if_neg inside, if_pos starts, means.read]
      simp only [body_skip, ih]
      rfl

theorem line_text_spelled {mark : Char} {content spelling : List Char} (isMark : IsMark mark)
    (spelled : Spelled mark content spelling) (rest : List Char) :
    lineText? (mark :: (spelling ++ mark :: rest)) = some (content, rest) := by
  rw [lineText?]
  refine (if_pos isMark).trans ?_
  exact body_spelled spelled rest

theorem quoted_line {text : List Char}
    (single : ∀ mark rest, text ≠ mark :: mark :: mark :: rest) :
    quoted? text = lineText? text := by
  unfold quoted?
  split
  · rename_i first second third rest
    refine if_neg ?_
    rintro ⟨-, rfl, rfl⟩
    exact single _ _ rfl
  · rfl

/-- A third mark would make an empty text the start of a block. -/
theorem quoted_spelled {mark : Char} {content spelling rest : List Char} (isMark : IsMark mark)
    (spelled : Spelled mark content spelling) (single : rest.head? ≠ some mark) :
    quoted? (mark :: (spelling ++ mark :: rest)) = some (content, rest) := by
  rw [quoted_line, line_text_spelled isMark spelled rest]
  intro other behind same
  obtain ⟨rfl, same⟩ := List.cons.inj same
  cases spelled with
  | nil =>
      rw [(List.cons.inj same).2] at single
      exact single rfl
  | plain ordinary inside unescaped others => exact inside (List.cons.inj same).1
  | escaped escapes means others =>
      rw [escapes] at same
      exact absurd (List.cons.inj same).1 (by decide)

end Texts

section Keys

/-- A key stands bare or between marks. -/
inductive KeyWritten : List Char → List Char → Prop
  | bare {key : List Char} (present : key ≠ []) (plain : key.all isKeyChar = true) :
      KeyWritten key key
  | quoted {mark : Char} {key spelling : List Char} (isMark : IsMark mark)
      (spelled : Spelled mark key spelling) : KeyWritten key (mark :: (spelling ++ [mark]))

def startsKey (c : Char) : Bool := isKeyChar c || c == quote || c == apostrophe

theorem KeyWritten.head {key written : List Char} (writes : KeyWritten key written) :
    ∃ c tail, written = c :: tail ∧ startsKey c = true := by
  cases writes with
  | bare present plain =>
      cases key with
      | nil => exact absurd rfl present
      | cons c tail =>
          rw [List.all_cons, Bool.and_eq_true] at plain
          exact ⟨c, tail, rfl, by simp [startsKey, plain.1]⟩
  | quoted isMark spelled =>
      refine ⟨_, _, rfl, ?_⟩
      rcases isMark with rfl | rfl <;> decide

theorem key_written {key written rest : List Char} (writes : KeyWritten key written)
    (stops : Text.StopsBefore isKeyChar rest) : key? (written ++ rest) = some (key, rest) := by
  cases writes with
  | bare present plain =>
      simp only [key?, Text.takeWhile_append plain stops, present, if_false, List.drop_left]
  | @quoted mark key spelling isMark spelled =>
      have noKey : isKeyChar mark = false := by
        rcases isMark with rfl | rfl <;> decide
      have bare : (mark :: (spelling ++ mark :: rest)).takeWhile isKeyChar = [] :=
        List.takeWhile_cons_of_neg (by simp [noKey])
      rw [List.cons_append, List.append_assoc, List.singleton_append, key?]
      simp only [bare, if_true]
      exact line_text_spelled isMark spelled rest

end Keys

section Numbers

theorem numeral_of_digits {text : List Char} (all : text.all Char.isDigit = true) :
    Text.numeral? 10 text = some (Nat.ofDigitChars 10 text 0) := by
  unfold Text.numeral?
  generalize 0 = value
  induction text generalizing value with
  | nil => rfl
  | cons c rest ih =>
      rw [List.all_cons, Bool.and_eq_true] at all
      obtain ⟨digit, later⟩ := all
      have small : c.toNat - '0'.toNat < 10 := by
        have upper := (Text.is_digit_bounds digit).2
        have zero : '0'.toNat = 48 := rfl
        omega
      rw [List.foldlM_cons, Nat.ofDigitChars_cons, Nat.mul_comm 10 value, ← ih later]
      simp only [Text.hexDigit?, digit, small, if_true, Option.bind_eq_bind, Option.bind_some]

theorem not_mem_digits {c : Char} (other : c.isDigit = false) {value : Nat} :
    c ∉ Text.digits value := by
  intro member
  rw [List.all_eq_true.1 (Text.all_is_digit_digits value) c member] at other
  cases other

theorem decimal_digits (value : Nat) : decimal? (Text.digits value) = some value := by
  have all := Text.all_is_digit_digits value
  have plain : ¬((Text.digits value).length > 1 ∧ (Text.digits value).head? = some '0') := by
    rintro ⟨long, zero⟩
    obtain ⟨rest, written⟩ := List.head?_eq_some_iff.1 zero
    cases value with
    | zero => exact absurd long (by decide)
    | succ value => exact Text.head_digits value.succ_pos rest written
  have spells : Text.numeral? 10 (Text.digits value) = some value := by
    rw [numeral_of_digits all, Text.digits, Nat.ofDigitChars_ten_toDigits]
  rw [decimal?, if_neg plain, grouped?, List.splitOn_eq_singleton (not_mem_digits (by decide))]
  simp [Text.digits_ne_nil, spells]

/-- A whole number with or without a sign. -/
inductive NumberWritten : Int → List Char → Prop
  | unsigned (size : Nat) : NumberWritten size (Text.digits size)
  | positive (size : Nat) : NumberWritten size ('+' :: Text.digits size)
  | negative (size : Nat) : NumberWritten (-size) ('-' :: Text.digits size)

/-- Digits alone are a decimal number: those of another base have a letter in front. -/
theorem number_digits (size : Nat) :
    number? (Text.digits size) =
      ((decimal? (Text.digits size)).map Int.ofNat).filter Text.fitsSigned := by
  have foreign (before : List Char) {c : Char} {after : List Char}
      (same : Text.digits size = before ++ c :: after) (other : c.isDigit = false) : False := by
    have member : c ∈ Text.digits size := by
      rw [same]
      exact List.mem_append_right before List.mem_cons_self
    exact not_mem_digits other member
  unfold number?
  split
  · rename_i same
    exact (foreign ['0'] same rfl).elim
  · rename_i same
    exact (foreign ['0'] same rfl).elim
  · rename_i same
    exact (foreign ['0'] same rfl).elim
  · rename_i same
    exact (foreign [] same rfl).elim
  · rename_i same
    exact (foreign [] same rfl).elim
  · rfl

theorem number_written {value : Int} {written : List Char} (writes : NumberWritten value written)
    (fits : Text.fitsSigned value = true) : number? written = some value := by
  cases writes with
  | unsigned size => simp [number_digits, decimal_digits, fits]
  | positive size => simp [number?, decimal_digits, fits]
  | negative size => simp [number?, decimal_digits, fits]

theorem wordy_of_is_digit {c : Char} (digit : c.isDigit = true) :
    endsWord c = false ∧ ¬IsMark c := by
  have bounds := Text.is_digit_bounds digit
  have other {d : Char} (outside : d.toNat < 48) : c ≠ d := by
    rintro rfl
    omega
  constructor
  · simp [endsWord, isBlank, other (d := ' '), other (d := '\t'), other (d := '\n'),
      other (d := '\r'), other (d := '#')]
  · rintro (rfl | rfl)
    · cases digit
    · cases digit

/-- All characters of a number belong to one word, and no mark is in front. -/
theorem NumberWritten.wordy {value : Int} {written : List Char}
    (writes : NumberWritten value written) :
    written ≠ [] ∧ ∀ c ∈ written, endsWord c = false ∧ ¬IsMark c := by
  have digits (size : Nat) : ∀ c ∈ Text.digits size, endsWord c = false ∧ ¬IsMark c :=
    fun c member => wordy_of_is_digit (List.all_eq_true.1 (Text.all_is_digit_digits size) c member)
  cases writes with
  | unsigned size => exact ⟨Text.digits_ne_nil size, digits size⟩
  | positive size =>
      exact ⟨List.cons_ne_nil _ _, List.forall_mem_cons.2 ⟨⟨rfl, by decide⟩, digits size⟩⟩
  | negative size =>
      exact ⟨List.cons_ne_nil _ _, List.forall_mem_cons.2 ⟨⟨rfl, by decide⟩, digits size⟩⟩

end Numbers

section Lines

/-- The end of a line, and what follows it. -/
inductive LineEnds : List Char → List Char → Prop
  | feed (rest : List Char) : LineEnds ('\n' :: rest) rest
  | carriageReturn (rest : List Char) : LineEnds ('\r' :: '\n' :: rest) rest
  | last : LineEnds [] []

/-- A line on which only blanks and a comment are left, and what follows it. -/
inductive Trails : List Char → List Char → Prop
  | plain {blanks ending rest : List Char} (blank : blanks.all isBlank = true)
      (ends : LineEnds ending rest) : Trails (blanks ++ ending) rest
  | comment {blanks remark ending rest : List Char} (blank : blanks.all isBlank = true)
      (oneLine : remark.all isTextChar = true) (ends : LineEnds ending rest) :
      Trails (blanks ++ '#' :: (remark ++ ending)) rest

theorem stops_behind_blanks {kind : Char → Bool} {blanks rest : List Char}
    (blank : blanks.all isBlank = true) (foreign : ∀ c, isBlank c = true → kind c = false)
    (stops : Text.StopsBefore kind rest) : Text.StopsBefore kind (blanks ++ rest) := by
  cases blanks with
  | nil => exact stops
  | cons c others =>
      rw [List.all_cons, Bool.and_eq_true] at blank
      exact Text.stops_before_cons (foreign c blank.1) _

/-- A word of an entry ends where nothing but a remark is left of its line. -/
theorem Trails.stops {text rest : List Char} (trails : Trails text rest) :
    Text.StopsBefore (fun c => !endsWord c) text := by
  have atEnd {ending : List Char} (ends : LineEnds ending rest) :
      Text.StopsBefore (fun c => !endsWord c) ending := by
    cases ends with
    | feed => exact Text.stops_before_cons rfl _
    | carriageReturn => exact Text.stops_before_cons rfl _
    | last => exact Text.stops_before_nil _
  have foreign (c : Char) (blank : isBlank c = true) : (!endsWord c) = false := by
    simp [endsWord, blank]
  cases trails with
  | plain blank ends => exact stops_behind_blanks blank foreign (atEnd ends)
  | comment blank oneLine ends =>
      exact stops_behind_blanks blank foreign (Text.stops_before_cons rfl _)

theorem LineEnds.read {ending rest : List Char} (ends : LineEnds ending rest) :
    lineEnd? ending = some rest ∧ Text.StopsBefore isBlank ending ∧
      Text.StopsBefore isTextChar ending ∧ ending.head? ≠ some '#' := by
  cases ends with
  | feed => exact ⟨rfl, Text.stops_before_cons rfl _, Text.stops_before_cons rfl _, nofun⟩
  | carriageReturn => exact ⟨rfl, Text.stops_before_cons rfl _, Text.stops_before_cons rfl _, nofun⟩
  | last => exact ⟨rfl, Text.stops_before_nil _, Text.stops_before_nil _, nofun⟩

theorem Trails.read {text rest : List Char} (trails : Trails text rest) :
    remainder? text = some rest := by
  cases trails with
  | plain blank ends =>
      obtain ⟨read, noBlank, -, noRemark⟩ := ends.read
      rw [remainder?, Text.dropWhile_append blank noBlank]
      split
      · exact absurd rfl noRemark
      · exact read
  | comment blank oneLine ends =>
      obtain ⟨read, -, noText, -⟩ := ends.read
      rw [remainder?, Text.dropWhile_append blank (Text.stops_before_cons rfl _)]
      simp only [Text.dropWhile_append oneLine noText, read]

theorem LineEnds.length_le {ending rest : List Char} (ends : LineEnds ending rest) :
    rest.length ≤ ending.length ∧ (ending ≠ [] → rest.length < ending.length) := by
  cases ends with
  | feed | carriageReturn =>
      simp only [List.length_cons]
      exact ⟨by omega, fun _ => by omega⟩
  | last => exact ⟨Nat.le_refl 0, fun present => absurd rfl present⟩

theorem Trails.length_le {text rest : List Char} (trails : Trails text rest) :
    rest.length ≤ text.length ∧ (text ≠ [] → rest.length < text.length) := by
  cases trails with
  | @plain blanks ending _ blank ends =>
      have below := ends.length_le
      rw [List.length_append]
      refine ⟨by omega, fun present => ?_⟩
      cases blanks with
      | nil => simpa using below.2 present
      | cons c others => rw [List.length_cons]; omega
  | comment blank oneLine ends =>
      have below := ends.length_le.1
      simp only [List.length_append, List.length_cons]
      exact ⟨by omega, fun _ => by omega⟩

end Lines

section Entries

/-- A value of an entry: a text on one line, or a number that fits 64 bits with sign. -/
inductive ValueWritten : Value → List Char → Prop
  | text {mark : Char} {content spelling : List Char} (isMark : IsMark mark)
      (spelled : Spelled mark content spelling) :
      ValueWritten (.text content) (mark :: (spelling ++ [mark]))
  | number {value : Int} {written : List Char} (writes : NumberWritten value written)
      (fits : Text.fitsSigned value = true) : ValueWritten (.number value) written

theorem value_written {value : Value} {written rest : List Char}
    (writes : ValueWritten value written) (stops : Text.StopsBefore (fun c => !endsWord c) rest) :
    value? (written ++ rest) = some (value, rest) := by
  cases writes with
  | @text mark content spelling isMark spelled =>
      have single : rest.head? ≠ some mark := by
        intro same
        have goesOn := stops mark same
        rcases isMark with rfl | rfl <;> cases goesOn
      have opens : mark = quote ∨ mark = apostrophe := isMark
      rw [List.cons_append, List.append_assoc, List.singleton_append, value?]
      simp only [opens, if_true, quoted_spelled isMark spelled single, Option.map_some]
  | number writes fits =>
      obtain ⟨present, wordy⟩ := writes.wordy
      have inWord : written.all (fun c => !endsWord c) = true :=
        List.all_eq_true.2 fun c member => by simp [(wordy c member).1]
      have word : (written ++ rest).takeWhile (fun c => !endsWord c) = written :=
        Text.takeWhile_append inWord stops
      cases written with
      | nil => exact absurd rfl present
      | cons c tail =>
          have unmarked : ¬(c = quote ∨ c = apostrophe) := (wordy c List.mem_cons_self).2
          rw [List.cons_append, value?]
          simp only [unmarked, if_false]
          rw [← List.cons_append, word, number_written writes fits, Option.map_some,
            List.drop_left]

/-- The text of a settings file and its entries. Line after line is empty, a remark or an entry. -/
inductive Written : List Char → List Entry → Prop
  | nil : Written [] []
  | remark {line rest : List Char} {entries : List Entry} (present : line ≠ [])
      (trails : Trails line rest) (others : Written rest entries) : Written line entries
  | entry {first : Entry} {indent key before after value line rest : List Char}
      {entries : List Entry} (blank : (indent ++ before ++ after).all isBlank = true)
      (keyed : KeyWritten first.key key) (valued : ValueWritten first.value value)
      (trails : Trails line rest) (others : Written rest entries) :
      Written (indent ++ (key ++ (before ++ '=' :: (after ++ (value ++ line))))) (first :: entries)

theorem ValueWritten.stops_blank {value : Value} {written : List Char}
    (writes : ValueWritten value written) (rest : List Char) :
    Text.StopsBefore isBlank (written ++ rest) := by
  cases writes with
  | text isMark spelled =>
      refine Text.stops_before_cons ?_ _
      rcases isMark with rfl | rfl <;> decide
  | number writes fits =>
      obtain ⟨present, wordy⟩ := writes.wordy
      cases written with
      | nil => exact absurd rfl present
      | cons c tail =>
          have inWord := (wordy c List.mem_cons_self).1
          simp only [endsWord, Bool.or_eq_false_iff] at inWord
          exact Text.stops_before_cons inWord.1.1.1 _

/-- Where a key starts, a line is no remark. -/
theorem no_remark {indent : List Char} (blank : indent.all isBlank = true) {c : Char}
    (starts : startsKey c = true) (rest : List Char) :
    (indent ++ c :: rest).dropWhile isBlank = c :: rest ∧
      remainder? (indent ++ c :: rest) = none := by
  have other {d : Char} (noKey : startsKey d = false) : c ≠ d := by
    rintro rfl
    rw [starts] at noKey
    cases noKey
  have visible : isBlank c = false := by
    simp only [isBlank, Bool.or_eq_false_iff, beq_eq_false_iff_ne]
    exact ⟨other rfl, other rfl⟩
  have found := Text.dropWhile_append blank (Text.stops_before_cons visible rest)
  refine ⟨found, ?_⟩
  rw [remainder?, found]
  split
  · rename_i same
    exact absurd (List.cons.inj same).1 (other rfl)
  · unfold lineEnd?
    split
    · rename_i same
      cases same
    · rename_i same
      exact absurd (List.cons.inj same).1 (other rfl)
    · rename_i same
      exact absurd (List.cons.inj same).1 (other rfl)
    · rfl

theorem entry_written {first : Entry} {key before after value line rest : List Char}
    (blankBefore : before.all isBlank = true) (blankAfter : after.all isBlank = true)
    (keyed : KeyWritten first.key key) (valued : ValueWritten first.value value)
    (trails : Trails line rest) :
    entry? (key ++ (before ++ '=' :: (after ++ (value ++ line)))) = some (first, rest) := by
  have keyEnds : Text.StopsBefore isKeyChar (before ++ '=' :: (after ++ (value ++ line))) := by
    refine stops_behind_blanks blankBefore (fun c blank => ?_) (Text.stops_before_cons rfl _)
    have space : c = ' ' ∨ c = '\t' := by simpa [isBlank] using blank
    rcases space with rfl | rfl <;> rfl
  have equals : (before ++ '=' :: (after ++ (value ++ line))).dropWhile isBlank =
      '=' :: (after ++ (value ++ line)) :=
    Text.dropWhile_append blankBefore (Text.stops_before_cons rfl _)
  have toValue : (after ++ (value ++ line)).dropWhile isBlank = value ++ line :=
    Text.dropWhile_append blankAfter (valued.stops_blank line)
  unfold entry?
  simp only [key_written keyed keyEnds, equals, toValue, value_written valued trails.stops,
    trails.read, Option.bind_eq_bind, Option.bind_some, Option.pure_def]

theorem entries_within_written {text : List Char} {entries : List Entry}
    (written : Written text entries) {bound : Nat} (enough : text.length ≤ bound) :
    entriesWithin bound text = some entries := by
  induction written generalizing bound with
  | nil => cases bound <;> rfl
  | remark present trails others ih =>
      have shorter := trails.length_le.2 present
      cases bound with
      | zero => omega
      | succ bound =>
          rw [entriesWithin, if_neg present, trails.read]
          exact ih (by omega)
  | @entry first indent key before after value line rest entries blank keyed valued trails others
      ih =>
      simp only [List.all_append, Bool.and_eq_true] at blank
      have shorter := trails.length_le.1
      simp only [List.length_append, List.length_cons] at enough
      have read := entry_written blank.1.2 blank.2 keyed valued trails
      obtain ⟨c, tail, rfl, starts⟩ := keyed.head
      cases bound with
      | zero => omega
      | succ bound =>
          obtain ⟨found, noRemark⟩ := no_remark blank.1.1 starts
            (tail ++ (before ++ '=' :: (after ++ (value ++ line))))
          rw [List.cons_append] at read ⊢
          rw [entriesWithin, if_neg (by simp), noRemark]
          simp only [found, read, ih (show rest.length ≤ bound by omega), Option.bind_eq_bind,
            Option.bind_some, Option.pure_def]

/-- A mark of byte order may stand in front. -/
theorem Written.no_mark_in_front {text : List Char} {entries : List Entry}
    (written : Written text entries) : text.head? ≠ some '\uFEFF' := by
  cases written with
  | nil => nofun
  | remark present trails others =>
      intro same
      cases trails.stops _ same
  | @entry first indent key before after value line rest entries blank keyed valued trails others =>
      simp only [List.all_append, Bool.and_eq_true] at blank
      obtain ⟨c, tail, rfl, starts⟩ := keyed.head
      intro same
      cases indent with
      | nil =>
          cases same
          cases starts
      | cons d others =>
          cases same
          cases blank.1.1

/-- A file that is written line by line is read as its entries, also behind a mark of byte order. -/
theorem entries_written {text : List Char} {entries : List Entry} (written : Written text entries) :
    entries? text = some entries ∧ entries? ('\uFEFF' :: text) = some entries := by
  have read := entries_within_written written (Nat.le_refl text.length)
  constructor
  · rw [entries?, if_neg written.no_mark_in_front]
    exact read
  · rw [entries?, List.head?_cons, if_pos rfl]
    exact read

/-- What the file of settings offers goes by its entries. -/
theorem offers_of_written {text : List Char} {entries : List Entry} {file : File}
    (written : Written text entries) (reads : File.Reads entries file) :
    Offers (.bytes (Text.Utf8.encode text)) file :=
  .file (Text.Utf8.decode?_encode text) (entries_written written).1 reads

example :
    entries? ("# view\n\npage_size = 20\r\n" ++ "\"default_order\"='-name'\t# newest last\n" ++
        "server_url = \"http://a\\u002Fb\"").toList =
      some [⟨"page_size".toList, .number 20⟩, ⟨"default_order".toList, .text "-name".toList⟩,
        ⟨"server_url".toList, .text "http://a/b".toList⟩] := by
  decide +kernel

end Entries

end CohortDesk.Settings
