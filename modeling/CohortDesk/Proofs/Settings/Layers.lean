import CohortDesk.Proofs.Text.Blank
import CohortDesk.Settings.Basic
import Mathlib.Data.List.ReduceOption

/-!
# Layers of settings

Each setting is looked up on its own: the server URL in the last layer that gives one, a number in
its variable, if that spells one, the order in its variable, and otherwise both in the entry of the
settings file and in the standard values. A settings file that cannot be read stops everything.
-/

namespace CohortDesk.Settings

set_option autoImplicit false

/-- The values that a settings file gives to a key. -/
def valuesOf (entries : List Entry) (key : String) : List Value :=
  (entries.filter fun entry => entry.key == key.toList).map (·.value)

/-- A key may be missing. Otherwise it is given once, and its value is of the kind that is read. -/
inductive KeyReads {α : Type} (read : Value → Option α) : List Value → Option α → Prop
  | missing : KeyReads read [] none
  | given {value : Value} {meant : α} (meaning : read value = some meant) :
      KeyReads read [value] (some meant)

/-- How the entries of a settings file are understood: no key is unknown, and each setting depends
on the entry of its own key only. -/
structure File.Reads (entries : List Entry) (file : File) : Prop where
  known : ∀ entry ∈ entries, ∃ key ∈ keys, entry.key = key.toList
  serverUrl : KeyReads Value.text? (valuesOf entries "server_url") file.serverUrl
  pageSize : KeyReads Value.word? (valuesOf entries "page_size") file.pageSize
  defaultOrder : KeyReads Value.text? (valuesOf entries "default_order") file.defaultOrder
  filterDebounceMs :
    KeyReads Value.longWord? (valuesOf entries "filter_debounce_ms") file.filterDebounceMs
  requestTimeoutSecs :
    KeyReads Value.longWord? (valuesOf entries "request_timeout_secs") file.requestTimeoutSecs

/-- What the place of a settings file offers; without a file nothing is given there. -/
inductive Offers : Place → File → Prop
  | nothing : Offers .missing ⟨none, none, none, none, none⟩
  | file {content : List UInt8} {text : List Char} {entries : List Entry} {file : File}
      (decoded : Text.Utf8.decode? content = some text) (parsed : entries? text = some entries)
      (reads : File.Reads entries file) : Offers (.bytes content) file

/-- A number is what its variable spells, if that is set and spells one below the bound, and else
what the layers below it say. -/
inductive NumberResolves (bound : Nat) (given : Option String) (lower : Nat) : Nat → Prop
  | spelled {text : String} {value : Nat} (set : given = some text)
      (spells : Text.SpellsBelow bound text.toList value) : NumberResolves bound given lower value
  | passedOver
      (senseless : ∀ text, given = some text → ∀ value,
        ¬Text.SpellsBelow bound text.toList value) : NumberResolves bound given lower lower

theorem number_resolves {α : Type} {bound : Nat} {ofNat : Nat → α} {toNat : α → Nat}
    (exact : ∀ value < bound, toNat (ofNat value) = value) (given : Option String) (lower : α) :
    NumberResolves bound given (toNat lower)
      (toNat ((given.bind fun text => (numberOf bound text).map ofNat).getD lower)) := by
  cases given with
  | none => exact .passedOver fun _ set => nomatch set
  | some text =>
      cases read : numberOf bound text with
      | none =>
          rw [Option.bind_some, read]
          refine .passedOver fun other set value spells => ?_
          cases set
          have found := Text.unsigned?_eq_some_iff.2 spells
          exact absurd (read.symm.trans found) (by simp)
      | some value =>
          have spells := Text.unsigned?_eq_some_iff.1 read
          rw [Option.bind_some, read, Option.map_some, Option.getD_some, exact value spells.small]
          exact .spelled rfl spells

/-- The last of the layers that gives something. -/
def lastGiven (layers : List (Option String)) : Option String := layers.reduceOption.getLast?

/-- The server URL is the given text without the blanks around it, if anything is left of it. -/
inductive UrlResolves : Option String → Option String → Prop
  | absent : UrlResolves none none
  | blank {given : String} (empty : given.toList.all Text.isBlank = true) :
      UrlResolves (some given) none
  | trimmed {given url : String} (trims : Text.TrimsTo given.toList url.toList) (left : url ≠ "") :
      UrlResolves (some given) (some url)

theorem url_resolves (given : Option String) : UrlResolves given (given.bind urlOf) := by
  cases given with
  | none => exact .absent
  | some text =>
      have trims := Text.trim_trims_to text.toList
      rw [Option.bind_some, urlOf]
      split
      · rename_i empty
        exact .blank (trims.eq_nil_iff.1 empty)
      · rename_i left
        refine .trimmed ?_ ?_
        · rw [String.toList_ofList]
          exact trims
        · intro empty
          have nil := congrArg String.toList empty
          rw [String.toList_ofList] at nil
          exact left nil

theorem UrlResolves.tidy {given : Option String} {url : String}
    (resolves : UrlResolves given (some url)) :
    url ≠ "" ∧ Text.StopsBefore Text.isBlank url.toList ∧
      Text.StopsBefore Text.isBlank url.toList.reverse := by
  cases resolves with
  | trimmed trims left => exact ⟨left, trims.front, trims.back⟩

theorem override_url_eq (settings : Settings) (given : Option String) :
    settings.overrideUrl given =
      { settings with serverUrl := given.elim settings.serverUrl urlOf } := by
  cases given <;> rfl

/-- Each layer that gives a server URL overrides those before it, so the last of them counts. -/
theorem foldl_layers (layers : List (Option String)) (url : Option String) :
    layers.foldl (fun below layer => layer.elim below urlOf) url =
      (lastGiven layers).elim url urlOf := by
  induction layers generalizing url with
  | nil => rfl
  | cons layer rest ih =>
      rw [List.foldl_cons, ih]
      unfold lastGiven
      cases layer with
      | none => rw [List.reduceOption_cons_of_none, Option.elim_none]
      | some given =>
          rw [List.reduceOption_cons_of_some, List.getLast?_cons]
          cases rest.reduceOption.getLast? <;> rfl

/-- Settings as they come from a settings file, the environment and the command line. -/
structure Resolves (file : File) (environment : Environment) (commandLine : Option String)
    (settings : Settings) : Prop where
  serverUrl :
    UrlResolves
      (lastGiven [file.serverUrl, environment "COHORTS_SERVER_URL", environment "APP__SERVER_URL",
        commandLine])
      settings.serverUrl
  pageSize :
    NumberResolves UInt32.size (environment "APP__PAGE_SIZE") (file.pageSize.getD 5).toNat
      settings.pageSize.toNat
  defaultOrder :
    settings.defaultOrder = ((environment "APP__DEFAULT_ORDER").or file.defaultOrder).getD "name"
  filterDebounceMs :
    NumberResolves UInt64.size (environment "APP__FILTER_DEBOUNCE_MS")
      (file.filterDebounceMs.getD 500).toNat settings.filterDebounceMs.toNat
  requestTimeoutSecs :
    NumberResolves UInt64.size (environment "APP__REQUEST_TIMEOUT_SECS")
      (file.requestTimeoutSecs.getD 30).toNat settings.requestTimeoutSecs.toNat
  tidyUrl : ∀ url, settings.serverUrl = some url →
    url ≠ "" ∧ Text.StopsBefore Text.isBlank url.toList ∧
      Text.StopsBefore Text.isBlank url.toList.reverse

theorem resolves (file : File) (environment : Environment) (commandLine : Option String) :
    Resolves file environment commandLine
      (((standard.applyFile file).applyEnvironment environment).overrideUrl commandLine) := by
  have located :
      (((standard.applyFile file).applyEnvironment environment).overrideUrl commandLine).serverUrl =
        (lastGiven [file.serverUrl, environment "COHORTS_SERVER_URL",
          environment "APP__SERVER_URL", commandLine]).bind urlOf := by
    have layered :=
      foldl_layers [file.serverUrl, environment "COHORTS_SERVER_URL",
        environment "APP__SERVER_URL", commandLine] none
    simp only [override_url_eq, applyEnvironment, applyFile]
    exact layered.trans (by cases lastGiven _ <;> rfl)
  have url := url_resolves
    (lastGiven [file.serverUrl, environment "COHORTS_SERVER_URL",
      environment "APP__SERVER_URL", commandLine])
  rw [← located] at url
  refine ⟨url, ?_, ?_, ?_, ?_, ?_⟩
  · rw [override_url_eq]
    exact number_resolves (fun _ small => UInt32.toNat_ofNat_of_lt' small) _ _
  · rw [override_url_eq]
    simp only [applyEnvironment, applyFile]
    cases environment "APP__DEFAULT_ORDER" <;> rfl
  · rw [override_url_eq]
    exact number_resolves (fun _ small => UInt64.toNat_ofNat_of_lt' small) _ _
  · rw [override_url_eq]
    exact number_resolves (fun _ small => UInt64.toNat_ofNat_of_lt' small) _ _
  · intro shown present
    rw [present] at url
    exact url.tidy

/-- A blank variable takes away the server URL that another one gave. -/
example :
    let environment : Environment := fun name =>
      if name = "COHORTS_SERVER_URL" then some "http://a"
      else if name = "APP__SERVER_URL" then some " \u00A0"
      else if name = "APP__PAGE_SIZE" then some "+007"
      else none
    load "settings.toml" .missing environment = .ok { standard with pageSize := 7 } := by
  decide +kernel

end CohortDesk.Settings
