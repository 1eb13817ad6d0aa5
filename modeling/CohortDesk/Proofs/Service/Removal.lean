import CohortDesk.Proofs.Service.Request
import CohortDesk.Proofs.Url.Path

/-!
# What the removal of a name addresses

A removal is meant to go to the collection's path and one segment more that spells the name. A name
of one or two dots and a name with tabs or line breaks go elsewhere; every other name goes there, so
no two of them meet.
-/

namespace CohortDesk

set_option autoImplicit false

open Text

/-- A name that a path can end with as it is. -/
def CohortName.IsPlain (name : CohortName) : Prop :=
  name ≠ "." ∧ name ≠ ".." ∧ ∀ c ∈ name.toList, Url.isSkipped c = false

theorem CohortName.is_plain_iff (name : CohortName) :
    name.IsPlain ↔ name ≠ "." ∧ name ≠ ".." ∧ name.toList.all (!Url.isSkipped ·) = true := by
  simp only [CohortName.IsPlain, List.all_eq_true, Bool.not_eq_true']

instance (name : CohortName) : Decidable name.IsPlain :=
  decidable_of_iff _ (CohortName.is_plain_iff name).symm

theorem CohortName.is_plain_kept {name : CohortName} (noDot : Url.kept name.toList ≠ ['.'])
    (noDots : Url.kept name.toList ≠ ['.', '.']) :
    CohortName.IsPlain (String.ofList (Url.kept name.toList)) := by
  refine ⟨?_, ?_, ?_⟩
  · intro same
    have chars := congrArg String.toList same
    rw [String.toList_ofList] at chars
    exact noDot chars
  · intro same
    have chars := congrArg String.toList same
    rw [String.toList_ofList] at chars
    exact noDots chars
  · rw [String.toList_ofList]
    exact Url.none_skipped_kept _

namespace Client

def removalRequest (client : Client) (name : CohortName) : Request :=
  { method := .delete
    target := (client.cohortUrl name).bare
    credentials := (client.cohortUrl name).credentials? }

/-- The path is that of the listing and one segment that spells the name. -/
def Addresses (client : Client) (path : List Char) (name : CohortName) : Prop :=
  ∃ segment, path = Url.pathText client.listingUrl.path ++ '/' :: segment ∧ '/' ∉ segment ∧
    Percent.decodeText? segment = some name.toList

/-- Removing the name sends one request, whatever comes back. It deletes what the name addresses,
and its target is that of the listing but for the path. -/
def RemovesByName (client : Client) (name : CohortName) : Prop :=
  ∃ request, (∀ peer, client.removalRequests peer name = [request]) ∧ request.method = .delete ∧
    { request.target with path := client.listingUrl.path } = client.listingUrl.bare ∧
    client.Addresses (Url.pathText request.target.path) name

/-- Where the removal of a name that is not plain goes: to the collection itself, to an empty
segment in it or beside it, or to the name without its tabs and line breaks. -/
def strayPath (client : Client) (name : CohortName) : List (List Char) :=
  if name = "." ∨ name = ".." then client.listingUrl.path
  else if Url.kept name.toList = ['.'] then client.listingUrl.path ++ [[]]
  else if Url.kept name.toList = ['.', '.'] then client.listingUrl.path.dropLast ++ [[]]
  else (client.cohortUrl (String.ofList (Url.kept name.toList))).path

theorem addresses_unique {client : Client} {path : List Char} {name other : CohortName}
    (first : client.Addresses path name) (second : client.Addresses path other) :
    name = other := by
  obtain ⟨segment, here, -, spelled⟩ := first
  obtain ⟨another, there, -, spelledOther⟩ := second
  rw [here] at there
  have same : segment = another := (List.cons.inj (List.append_cancel_left there)).2
  rw [same, spelledOther] at spelled
  exact String.toList_inj.mp (Option.some.inj spelled).symm

theorem not_addresses_of_length {client : Client} {path : List Char} (name : CohortName)
    (short : path.length ≤ (Url.pathText client.listingUrl.path).length) :
    ¬client.Addresses path name := by
  rintro ⟨segment, rfl, -, -⟩
  rw [List.length_append, List.length_cons] at short
  omega

section Web

variable {client : Client} (web : client.base.isWeb = true)

include web

theorem special_family : ∃ port, Url.familyOf client.base.scheme = .special port := by
  rw [Url.isWeb, Bool.or_eq_true, beq_iff_eq, beq_iff_eq] at web
  rcases web with plain | secure
  · exact ⟨80, by rw [plain]; rfl⟩
  · exact ⟨443, by rw [secure]; rfl⟩

theorem listing_path :
    client.listingUrl.path =
      Url.rooted (Url.withoutTrailing client.base.path) ++ [collection] := by
  obtain ⟨port, family⟩ := special_family web
  have step : client.listingUrl.path =
      Url.push (Url.familyOf client.base.scheme) (Url.withoutTrailing client.base.path)
        collection := rfl
  have whole : Url.kept collection = collection := by decide
  have spelled : (Url.Part.segment true).encode collection = collection := by decide
  rw [step, family, Url.push_segment _ (by simp) (by decide) (by decide), whole]
  exact congrArg (fun segment => _ ++ [segment]) spelled

theorem listing_last : client.listingUrl.path.getLast? = some collection := by
  rw [listing_path web, List.getLast?_concat]

theorem listing_rooted : Url.rooted client.listingUrl.path = client.listingUrl.path := by
  have noRoot : client.listingUrl.path ≠ [[]] := by
    intro root
    have last := listing_last web
    rw [root] at last
    exact absurd last (by decide)
  rw [Url.rooted, if_neg noRoot]

theorem listing_parent :
    Url.parent client.listingUrl.path = client.listingUrl.path.dropLast := by
  have noDrive : Url.opensDrive collection = false := by decide
  rw [Url.parent, listing_last web, Option.any_some, noDrive, if_neg Bool.false_ne_true]

omit web in
theorem cohort_path (client : Client) (name : CohortName) :
    (client.cohortUrl name).path =
      Url.push (Url.familyOf client.base.scheme) client.listingUrl.path name.toList := rfl

omit web in
theorem cohort_bare (client : Client) (name : CohortName) :
    { (client.cohortUrl name).bare with path := client.listingUrl.path } =
      client.listingUrl.bare := by
  have shared : (client.cohortUrl name).credentials? = client.listingUrl.credentials? := rfl
  unfold Url.bare
  rw [shared]
  split <;> rfl

/-- A name of which something other than dots is left goes to what is left. -/
theorem kept_path {name : CohortName} (noDot : Url.kept name.toList ≠ ['.'])
    (noDots : Url.kept name.toList ≠ ['.', '.']) :
    (client.cohortUrl name).path =
      client.listingUrl.path ++ [(Url.Part.segment true).encode (Url.kept name.toList)] := by
  obtain ⟨port, family⟩ := special_family web
  rw [cohort_path, family, Url.push_segment _ (by simp) noDot noDots, listing_rooted web]
  rfl

theorem stray_path (name : CohortName) : (client.cohortUrl name).path = client.strayPath name := by
  unfold strayPath
  by_cases dotted : name = "." ∨ name = ".."
  · have dots : name.toList = ['.'] ∨ name.toList = ['.', '.'] := by
      rcases dotted with rfl | rfl
      · exact Or.inl rfl
      · exact Or.inr rfl
    rw [if_pos dotted, cohort_path, Url.push_dots _ dots]
  · have noDots : ¬(name.toList = ['.'] ∨ name.toList = ['.', '.']) := by
      rintro (one | two)
      · exact dotted (Or.inl (String.toList_inj.mp one))
      · exact dotted (Or.inr (String.toList_inj.mp two))
    rw [if_neg dotted]
    by_cases one : Url.kept name.toList = ['.']
    · rw [if_pos one, cohort_path, Url.push_kept_dot _ noDots one, listing_rooted web]
    · by_cases two : Url.kept name.toList = ['.', '.']
      · rw [if_neg one, if_pos two, cohort_path, Url.push_kept_dots _ noDots two,
          listing_rooted web, listing_parent web]
      · have again : Url.kept (String.ofList (Url.kept name.toList)).toList =
            Url.kept name.toList := by
          rw [String.toList_ofList]
          exact Url.kept_of_none_skipped (Url.none_skipped_kept _)
        rw [if_neg one, if_neg two, kept_path web one two,
          kept_path web (by rwa [again]) (by rwa [again]), again]

theorem plain_addresses {name : CohortName} (plain : name.IsPlain) :
    client.Addresses (Url.pathText (client.cohortUrl name).path) name := by
  obtain ⟨noDot, noDots, counts⟩ := plain
  have whole := Url.kept_of_none_skipped counts
  have one : Url.kept name.toList ≠ ['.'] := by
    rw [whole]
    intro same
    exact noDot (String.toList_inj.mp same)
  have two : Url.kept name.toList ≠ ['.', '.'] := by
    rw [whole]
    intro same
    exact noDots (String.toList_inj.mp same)
  refine ⟨(Url.Part.segment true).encode name.toList, ?_, Url.Part.slash_not_mem_segment _ _,
    Url.Part.decode_text?_segment _ _⟩
  rw [kept_path web one two, whole, Url.path_text_append, Url.path_text_singleton]

theorem plain_of_addresses {name : CohortName}
    (found : client.Addresses (Url.pathText (client.cohortUrl name).path) name) :
    name.IsPlain := by
  -- A path that loses the name is too short for it, ends with nothing, or spells what is left.
  rw [stray_path web name, strayPath] at found
  by_cases dotted : name = "." ∨ name = ".."
  · rw [if_pos dotted] at found
    exact absurd found (not_addresses_of_length name (Nat.le_refl _))
  rw [if_neg dotted] at found
  by_cases one : Url.kept name.toList = ['.']
  · rw [if_pos one, Url.path_text_append, Url.path_text_singleton] at found
    obtain ⟨segment, same, -, spelled⟩ := found
    have empty : [] = segment := (List.cons.inj (List.append_cancel_left same)).2
    have nothing : name.toList = [] := by
      rw [← empty] at spelled
      exact (Option.some.inj spelled).symm
    rw [nothing] at one
    cases one
  rw [if_neg one] at found
  by_cases two : Url.kept name.toList = ['.', '.']
  · have short : (Url.pathText (client.listingUrl.path.dropLast ++ [[]])).length ≤
        (Url.pathText client.listingUrl.path).length := by
      rw [listing_path web, List.dropLast_concat, Url.path_text_append, Url.path_text_append,
        Url.path_text_singleton, Url.path_text_singleton]
      simp
    rw [if_pos two] at found
    exact absurd found (not_addresses_of_length name short)
  rw [if_neg two] at found
  have left := plain_addresses web (CohortName.is_plain_kept one two)
  have same := addresses_unique found left
  refine ⟨fun dot => dotted (Or.inl dot), fun dots => dotted (Or.inr dots), ?_⟩
  rw [same, String.toList_ofList]
  exact Url.none_skipped_kept _

theorem removal_request?_eq_ok_iff {name : CohortName}
    (short : (Utf8.encode (client.cohortUrl name).bare.text).length ≤ Url.longest)
    (request : Request) :
    client.removalRequest? name = .ok request ↔
      client.base.hostFits = true ∧ request = client.removalRequest name := by
  have sendable : (client.cohortUrl name).bare.canBeSent = client.base.hostFits :=
    Url.bare_can_be_sent (client.cohortUrl name) web short
  rw [removalRequest?, Request.of?_none_eq_ok_iff, sendable, removalRequest]

theorem removes_by_name_iff {name : CohortName}
    (short : (Utf8.encode (client.cohortUrl name).bare.text).length ≤ Url.longest) :
    client.RemovesByName name ↔ name.IsPlain ∧ client.base.hostFits = true := by
  constructor
  · rintro ⟨request, sent, -, -, addressed⟩
    have built : client.removalRequest? name = .ok request := by
      have one := sent fun _ => .broken
      rw [removal_requests_eq] at one
      cases made : client.removalRequest? name with
      | error fault =>
          rw [made] at one
          cases one
      | ok other =>
          rw [made] at one
          rw [(List.cons.inj one).1]
    obtain ⟨fits, rfl⟩ := (removal_request?_eq_ok_iff web short request).mp built
    rw [removalRequest, Url.bare_path] at addressed
    exact ⟨plain_of_addresses web addressed, fits⟩
  · rintro ⟨plain, fits⟩
    have built : client.removalRequest? name = .ok (client.removalRequest name) :=
      (removal_request?_eq_ok_iff web short _).mpr ⟨fits, rfl⟩
    have sent (peer : Request → Exchange) :
        client.removalRequests peer name = [client.removalRequest name] := by
      rw [removal_requests_eq, built]
      rfl
    refine ⟨client.removalRequest name, sent, rfl, cohort_bare client name, ?_⟩
    rw [removalRequest, Url.bare_path]
    exact plain_addresses web plain

end Web

/-- A removal goes to its name alone for the plain names, on every host that can be asked. Plain
names have paths of their own, none of them the collection's; any other name strays from its
path. -/
theorem removal_addresses_exactly_the_plain_names (client : Client) (name : CohortName)
    (web : client.base.isWeb = true)
    (short : (Utf8.encode (client.cohortUrl name).bare.text).length ≤ Url.longest) :
    (client.RemovesByName name ↔ name.IsPlain ∧ client.base.hostFits = true) ∧
      (name.IsPlain →
        Url.pathText (client.cohortUrl name).path ≠ Url.pathText client.listingUrl.path ∧
          ∀ other : CohortName, other.IsPlain →
            Url.pathText (client.cohortUrl other).path =
              Url.pathText (client.cohortUrl name).path → other = name) ∧
      (¬name.IsPlain → (client.cohortUrl name).path = client.strayPath name) := by
  refine ⟨removes_by_name_iff web short, ?_, fun _ => stray_path web name⟩
  intro plain
  have here := plain_addresses web plain
  constructor
  · intro same
    exact not_addresses_of_length name (Nat.le_of_eq (congrArg List.length same)) here
  · intro other plainOther same
    have there := plain_addresses web plainOther
    rw [same] at there
    exact addresses_unique there here

/-- The client of `http://cohorts.test/api`. -/
def sample : Client where
  base :=
    { scheme := "http".toList
      authority := some
        { user := [], password := [], host := some (.name "cohorts.test".toList),
          portNumber := none }
      dotted := false
      path := ["api".toList]
      query := none
      fragment := none }

theorem sample_removes_spaced_name :
    sample.base.isWeb = true ∧
      (Utf8.encode (sample.cohortUrl "a b/é%.").bare.text).length ≤ Url.longest ∧
      sample.RemovesByName "a b/é%." := by
  have web : sample.base.isWeb = true := by decide
  have short : (Utf8.encode (sample.cohortUrl "a b/é%.").bare.text).length ≤ Url.longest := by
    decide +kernel
  have plain : CohortName.IsPlain "a b/é%." := by decide
  have settled := removal_addresses_exactly_the_plain_names sample "a b/é%." web short
  exact ⟨web, short, settled.1.mpr ⟨plain, by decide⟩⟩

set_option maxRecDepth 4000 in
/-- A tab is lost on the way, so the removal asks for what a removal of another name asks for. -/
theorem sample_removes_another_than_tabbed_name :
    Client.of? "http://cohorts.test/api" = .ok sample ∧
      (Utf8.encode (sample.cohortUrl "a\tb").bare.text).length ≤ Url.longest ∧
      ¬sample.RemovesByName "a\tb" ∧
      sample.removalRequest? "a\tb" = sample.removalRequest? "ab" := by
  have short : (Utf8.encode (sample.cohortUrl "a\tb").bare.text).length ≤ Url.longest := by
    decide +kernel
  have notPlain : ¬CohortName.IsPlain "a\tb" := by decide
  refine ⟨rfl, short, ?_, rfl⟩
  rw [removes_by_name_iff (by decide) short]
  exact fun both => notPlain both.1

end Client

end CohortDesk
