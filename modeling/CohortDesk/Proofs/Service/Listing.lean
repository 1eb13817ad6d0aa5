import CohortDesk.Proofs.Service.Removal
import CohortDesk.Proofs.Text.Form
import CohortDesk.Proofs.Url.Reader

/-!
# What asking for a listing sends

A base URL that was accepted is asked for its collection, with its own query and then the pairs of
the query given. The pairs can be read back whatever texts they hold, so no two queries ask for the
same. A host that an accepted URL may have but a request may not is never asked for anything.
-/

namespace CohortDesk

set_option autoImplicit false

open Text

namespace Query

/-- The pairs of a query as texts. -/
def formPairs (query : Query) : List (List Char × List Char) :=
  [("filter".toList, query.filter.toList), ("order".toList, query.order.toList),
    ("limit".toList, digits query.limit.toNat), ("page".toList, digits query.page.toNat)]

theorem digits_inj {value other : Nat} (same : digits value = digits other) : value = other := by
  have read := natural?_digits value
  rw [same, natural?_digits] at read
  exact (Option.some.inj read).symm

theorem form_pairs_inj {query other : Query} (same : query.formPairs = other.formPairs) :
    query = other := by
  obtain ⟨filter, order, limit, page⟩ := query
  obtain ⟨filterOther, orderOther, limitOther, pageOther⟩ := other
  simp only [formPairs, List.cons.injEq, Prod.mk.injEq, true_and, and_true] at same
  obtain ⟨sameFilter, sameOrder, sameLimit, samePage⟩ := same
  rw [String.toList_inj.mp sameFilter, String.toList_inj.mp sameOrder,
    UInt32.toNat_inj.mp (digits_inj sameLimit), UInt32.toNat_inj.mp (digits_inj samePage)]

end Query

namespace Url

/-- A path's text with the collection behind it: one slash at the end is dropped, and the root
stands for nothing. -/
def collectionPath (path : List Char) : List Char :=
  let left := if path ≠ ['/'] ∧ path.getLast? = some '/' then path.dropLast else path
  (if left = ['/'] then [] else left) ++ "/cohorts".toList

theorem path_text_eq_root_iff {path : List (List Char)} (whole : ∀ segment ∈ path, '/' ∉ segment) :
    pathText path = ['/'] ↔ path = [[]] := by
  constructor
  · intro root
    exact path_text_inj whole (by simp) root
  · rintro rfl
    rfl

theorem without_trailing_concat_nil {front : List (List Char)} (more : front ≠ []) :
    withoutTrailing (front ++ [[]]) = front := by
  have long : 2 ≤ (front ++ [[]]).length := by
    have positive := List.length_pos_iff.mpr more
    rw [List.length_append, List.length_singleton]
    omega
  rw [withoutTrailing, if_pos ⟨long, List.getLast?_concat⟩, List.dropLast_concat]

theorem without_trailing_of_getLast? {path : List (List Char)} (ends : path.getLast? ≠ some []) :
    withoutTrailing path = path := by
  rw [withoutTrailing, if_neg fun both => ends both.2]

theorem path_text_rooted {path : List (List Char)} (whole : ∀ segment ∈ path, '/' ∉ segment) :
    pathText (rooted path) = if pathText path = ['/'] then [] else pathText path := by
  rw [rooted]
  by_cases root : path = [[]]
  · rw [if_pos root, if_pos ((path_text_eq_root_iff whole).mpr root), pathText, List.flatMap_nil]
  · rw [if_neg root, if_neg fun same => root ((path_text_eq_root_iff whole).mp same)]

theorem mem_without_trailing {path : List (List Char)} {segment : List Char}
    (member : segment ∈ withoutTrailing path) : segment ∈ path := by
  unfold withoutTrailing at member
  split at member
  next => exact (List.dropLast_sublist path).subset member
  next => exact member

theorem path_text_without_trailing {path : List (List Char)} (present : path ≠ [])
    (whole : ∀ segment ∈ path, '/' ∉ segment) :
    pathText (withoutTrailing path) =
      if pathText path ≠ ['/'] ∧ (pathText path).getLast? = some '/' then (pathText path).dropLast
      else pathText path := by
  obtain ⟨front, last, rfl⟩ := (List.eq_nil_or_concat path).resolve_left present
  rw [List.concat_eq_append] at whole ⊢
  have lastWhole : '/' ∉ last := whole last (List.mem_append_right _ (List.mem_singleton_self _))
  have ends := getLast?_path_text_concat front lastWhole
  by_cases empty : last = []
  · subst empty
    by_cases root : front = []
    · subst root
      decide
    · have more : pathText (front ++ [[]]) ≠ ['/'] := by
        rw [ne_eq, path_text_eq_root_iff whole]
        simpa using root
      rw [without_trailing_concat_nil root, if_pos ⟨more, ends.mpr rfl⟩, path_text_concat,
        List.dropLast_concat]
  · rw [if_neg fun both => empty (ends.mp both.2), without_trailing_of_getLast?]
    rw [List.getLast?_concat]
    exact fun same => empty (Option.some.inj same)

/-- The collection behind a path, segment by segment and as text. -/
theorem path_text_collection {path : List (List Char)} (present : path ≠ [])
    (whole : ∀ segment ∈ path, '/' ∉ segment) :
    pathText (rooted (withoutTrailing path) ++ [Client.collection]) =
      collectionPath (pathText path) := by
  have spelled : "/cohorts".toList = '/' :: Client.collection := by decide
  have wholeLeft : ∀ segment ∈ withoutTrailing path, '/' ∉ segment := fun segment member =>
    whole segment (mem_without_trailing member)
  rw [path_text_concat, path_text_rooted wholeLeft, path_text_without_trailing present whole,
    collectionPath, spelled]

def portNumber? (url : Url) : Option UInt16 := url.authority.bind (·.portNumber)

theorem bare_port_number? (url : Url) : url.bare.portNumber? = url.portNumber? :=
  bare_authority_bind (fun _ => rfl) url

theorem bare_query (url : Url) : url.bare.query = url.query := by
  unfold bare
  split <;> rfl

/-- Without its fragment a URL ends with its query. -/
theorem text_without_fragment (url : Url) :
    url.withoutFragment.text =
      ({ url with query := none } : Url).withoutFragment.text ++ marked '?' url.query := by
  unfold withoutFragment text
  simp only [marked, List.append_nil]
  rfl

/-- The pairs of a URL's query, in their order. -/
def queryPairs (url : Url) : List (List Char × List Char) :=
  Form.decodePairs (url.query.getD [])

/-- Pairs are put behind those that the URL has, whatever those are. -/
theorem query_pairs_with_pairs (url : Url) (pairs : List (List Char × List Char)) :
    (url.withPairs pairs).queryPairs = url.queryPairs ++ pairs := by
  have joined : (url.withPairs pairs).query = joinQuery url.query pairs := rfl
  rw [queryPairs, queryPairs, joined]
  cases own : url.query with
  | none => exact Form.decode_pairs_encode_pairs pairs
  | some text =>
      cases text with
      | nil => exact Form.decode_pairs_encode_pairs pairs
      | cons c rest =>
          simp only [joinQuery, Option.getD_some, List.append_assoc, List.cons_append,
            List.nil_append]
          rw [← List.cons_append, Form.decode_pairs_append, Form.decode_pairs_encode_pairs]

end Url

namespace Client

def listingTarget (client : Client) (query : Option Query) : Url :=
  (query.map Query.formPairs).elim client.listingUrl.bare client.listingUrl.bare.withPairs

def listingRequest (client : Client) (query : Option Query) : Request :=
  { method := .get
    target := client.listingTarget query
    credentials := client.listingUrl.credentials? }

def listingRequests (client : Client) (peer : Request → Exchange) (query : Option Query) :
    List Request :=
  ((client.list (recording peer) query).run []).2

theorem listing_requests_eq (client : Client) (peer : Request → Exchange) (query : Option Query) :
    client.listingRequests peer query = (client.listingRequest? query).toOption.toList := by
  unfold listingRequests list exchange
  cases client.listingRequest? query with
  | error fault => rfl
  | ok request => rfl

/-- The target with this query is not too long to be asked for. -/
def Admits (client : Client) (query : Option Query) : Prop :=
  (Utf8.encode (client.listingTarget query).text).length ≤ Url.longest

instance (client : Client) (query : Option Query) : Decidable (client.Admits query) :=
  inferInstanceAs (Decidable (_ ≤ _))

theorem listing_target_scheme (client : Client) (query : Option Query) :
    (client.listingTarget query).scheme = client.base.scheme := by
  cases query <;> exact Url.bare_scheme client.listingUrl

theorem listing_target_host? (client : Client) (query : Option Query) :
    (client.listingTarget query).host? = client.base.host? := by
  cases query <;> exact Url.bare_host? client.listingUrl

theorem listing_target_port_number? (client : Client) (query : Option Query) :
    (client.listingTarget query).portNumber? = client.base.portNumber? := by
  cases query <;> exact Url.bare_port_number? client.listingUrl

theorem listing_target_path (client : Client) (query : Option Query) :
    (client.listingTarget query).path = client.listingUrl.path := by
  cases query <;> exact Url.bare_path client.listingUrl

theorem listing_target_query_none (client : Client) :
    (client.listingTarget none).query = client.base.query := Url.bare_query client.listingUrl

theorem query_pairs_listing_target (client : Client) (query : Option Query) :
    (client.listingTarget query).queryPairs =
      client.base.queryPairs ++ (query.map Query.formPairs).getD [] := by
  have own : client.listingUrl.bare.queryPairs = client.base.queryPairs :=
    congrArg (fun (text : Option (List Char)) => Form.decodePairs (text.getD []))
      (Url.bare_query client.listingUrl)
  cases query with
  | none =>
      rw [Option.map_none, Option.getD_none, List.append_nil]
      exact own
  | some given =>
      rw [Option.map_some, Option.getD_some, ← own]
      exact Url.query_pairs_with_pairs client.listingUrl.bare given.formPairs

theorem form_pairs_of_pairs (given : Query) :
    (given.pairs.map fun pair => (pair.1.toList, pair.2.toList)) = given.formPairs := by
  simp only [Query.pairs, Query.formPairs, List.map_cons, List.map_nil, String.toList_ofList]

theorem listing_request?_eq (client : Client) (query : Option Query) :
    client.listingRequest? query =
      if client.listingUrl.host? = none then
        .error (.unbuildable (String.ofList client.listingUrl.text))
      else if (client.listingTarget query).canBeSent then .ok (client.listingRequest query)
      else .error (.unbuildable (String.ofList (client.listingTarget query).text)) := by
  have pairs : (query.map fun given => given.pairs.map fun pair => (pair.1.toList, pair.2.toList)) =
      query.map Query.formPairs := by
    cases query with
    | none => rfl
    | some given => rw [Option.map_some, Option.map_some, form_pairs_of_pairs]
  rw [listingRequest?, pairs]
  rfl

theorem host_fits_listing_target (client : Client) (query : Option Query) :
    (client.listingTarget query).hostFits = client.base.hostFits := by
  rw [Url.hostFits, listing_target_host?, Url.hostFits]

theorem listing_request?_ok {client : Client} (web : client.base.isWeb = true)
    (fits : client.base.hostFits = true) {query : Option Query} (short : client.Admits query) :
    client.listingRequest? query = .ok (client.listingRequest query) := by
  have hosted : client.listingUrl.host? ≠ none := @Url.host?_of_host_fits client.base fits
  have webTarget : (client.listingTarget query).isWeb = true := by
    rw [Url.isWeb, listing_target_scheme, ← Url.isWeb, web]
  have counted : decide ((Utf8.encode (client.listingTarget query).text).length ≤ Url.longest) =
      true := decide_eq_true short
  have sendable : (client.listingTarget query).canBeSent = true := by
    rw [Url.canBeSent, webTarget, host_fits_listing_target, fits, counted]
    rfl
  rw [listing_request?_eq, if_neg hosted, if_pos sendable]

theorem listing_request?_error {client : Client} (unfit : client.base.hostFits = false)
    (query : Option Query) : ∃ fault, client.listingRequest? query = .error fault := by
  have stuck : ¬(client.listingTarget query).canBeSent = true := by
    rw [Url.canBeSent, host_fits_listing_target, unfit, Bool.and_false, Bool.false_and]
    exact Bool.false_ne_true
  rw [listing_request?_eq, if_neg stuck]
  split
  next => exact ⟨_, rfl⟩
  next => exact ⟨_, rfl⟩

/-- Targets of one base differ in their queries only, and those tell the pairs. -/
theorem listing_target_text_inj {client : Client} {query other : Option Query}
    (same : (client.listingTarget query).withoutFragment.text =
      (client.listingTarget other).withoutFragment.text) : query = other := by
  have front (query : Option Query) :
      ({ client.listingTarget query with query := none } : Url) =
        { client.listingUrl.bare with query := none } := by
    cases query <;> rfl
  have marked : Url.marked '?' (client.listingTarget query).query =
      Url.marked '?' (client.listingTarget other).query := by
    rw [Url.text_without_fragment, front, Url.text_without_fragment (client.listingTarget other),
      front] at same
    exact List.append_cancel_left same
  have queries : (client.listingTarget query).query.getD [] =
      (client.listingTarget other).query.getD [] := by
    cases first : (client.listingTarget query).query <;>
      cases second : (client.listingTarget other).query <;>
      simp_all [Url.marked]
  have pairs := congrArg Form.decodePairs queries
  rw [← Url.queryPairs, ← Url.queryPairs, query_pairs_listing_target,
    query_pairs_listing_target] at pairs
  have added := List.append_cancel_left pairs
  cases query with
  | none =>
      cases other with
      | none => rfl
      | some given => cases added
  | some given =>
      cases other with
      | none => cases added
      | some another => rw [Query.form_pairs_inj added]

/-- One request goes out for the listing, whatever comes back: the collection below the base is
asked for with the base's own query and the pairs of the query given. -/
structure AsksForListing (client : Client) (query : Option Query) (request : Request) : Prop where
  once : ∀ peer, client.listingRequests peer query = [request]
  method : request.method = .get
  scheme : request.target.scheme = client.base.scheme
  host : request.target.host? = client.base.host?
  portNumber : request.target.portNumber? = client.base.portNumber?
  path : Url.pathText request.target.path = Url.collectionPath (Url.pathText client.base.path)
  unasked : query = none → request.target.query = client.base.query
  pairs : request.target.queryPairs =
    client.base.queryPairs ++ (query.map Query.formPairs).getD []

section Accepted

variable {given : String} {client : Client} (accepted : Client.of? given = .ok client)
  (web : client.base.isWeb = true)

include accepted web

theorem segmented_of_accepted : client.base.Segmented := by
  obtain ⟨port, special⟩ := special_family web
  unfold of? at accepted
  split at accepted
  next base read =>
    cases accepted
    exact Url.segmented_of_read read special
  next => cases accepted

theorem asks_for_listing {query : Option Query} (fits : client.base.hostFits = true)
    (short : client.Admits query) :
    client.AsksForListing query (client.listingRequest query) := by
  have segmented := segmented_of_accepted accepted web
  refine ⟨?_, rfl, listing_target_scheme client query, listing_target_host? client query,
    listing_target_port_number? client query, ?_, ?_, query_pairs_listing_target client query⟩
  · intro peer
    rw [listing_requests_eq, listing_request?_ok web fits short]
    rfl
  · have target : (client.listingRequest query).target.path = client.listingUrl.path :=
      listing_target_path client query
    rw [target, listing_path web, Url.path_text_collection segmented.path segmented.whole]
  · rintro rfl
    exact listing_target_query_none client

end Accepted

/-- A slash more at the end of the base's path is dropped again, so the same is asked for. -/
theorem requests_of_slashed {given again : String} {client slashed : Client}
    (accepted : Client.of? given = .ok client) (acceptedAgain : Client.of? again = .ok slashed)
    (web : client.base.isWeb = true)
    (base : slashed.base = { client.base with path := slashed.base.path })
    (bare : (Url.pathText client.base.path).getLast? ≠ some '/')
    (more : Url.pathText slashed.base.path = Url.pathText client.base.path ++ ['/']) :
    (∀ query, slashed.listingRequest? query = client.listingRequest? query) ∧
      ∀ name, slashed.removalRequest? name = client.removalRequest? name := by
  have scheme : slashed.base.scheme = client.base.scheme := by rw [base]
  have webAgain : slashed.base.isWeb = true := by
    rw [Url.isWeb, scheme, ← Url.isWeb, web]
  have segmented := segmented_of_accepted accepted web
  have segmentedAgain := segmented_of_accepted acceptedAgain webAgain
  have wholeMore : ∀ segment ∈ client.base.path ++ [[]], '/' ∉ segment := by
    intro segment member
    rcases List.mem_append.mp member with before | empty
    · exact segmented.whole segment before
    · rw [List.mem_singleton.mp empty]
      exact List.not_mem_nil
  have path : slashed.base.path = client.base.path ++ [[]] := by
    refine Url.path_text_inj segmentedAgain.whole wholeMore ?_
    rw [more, Url.path_text_concat]
  have ends : client.base.path.getLast? ≠ some [] := by
    intro empty
    obtain ⟨front, split⟩ := List.getLast?_eq_some_iff.mp empty
    rw [split] at bare
    exact bare ((Url.getLast?_path_text_concat front List.not_mem_nil).mpr rfl)
  rw [path] at base
  have extended (segments : List (List Char)) :
      slashed.base.extend segments = client.base.extend segments := by
    rw [base, Url.extend, Url.without_trailing_concat_nil segmented.path, Url.extend,
      Url.without_trailing_of_getLast? ends]
  constructor
  · intro query
    rw [listingRequest?, listingUrl, extended, listingRequest?, listingUrl]
  · intro name
    rw [removalRequest?, cohortUrl, extended, removalRequest?, cohortUrl]

/-- The collection below an accepted base is asked for with the base's own query and the pairs of
the query given, in one request, as long as the host is one that a request may have; any other host
is asked for nothing. No two queries have the same target, and a slash at the end of the base's path
makes no difference. -/
theorem listing_asks_below_the_base_with_its_query {given : String} {client : Client}
    (accepted : Client.of? given = .ok client) (web : client.base.isWeb = true) :
    (client.base.hostFits = true → ∀ query, client.Admits query →
        client.AsksForListing query (client.listingRequest query)) ∧
      (client.base.hostFits = false → ∀ query peer, client.listingRequests peer query = []) ∧
      (∀ query other,
        (client.listingRequest query).target.withoutFragment.text =
            (client.listingRequest other).target.withoutFragment.text → query = other) ∧
      ∀ (again : String) (slashed : Client), Client.of? again = .ok slashed →
        slashed.base = { client.base with path := slashed.base.path } →
        (Url.pathText client.base.path).getLast? ≠ some '/' →
        Url.pathText slashed.base.path = Url.pathText client.base.path ++ ['/'] →
          (∀ query, slashed.listingRequest? query = client.listingRequest? query) ∧
            ∀ name, slashed.removalRequest? name = client.removalRequest? name := by
  refine ⟨fun fits query short => asks_for_listing accepted web fits short, ?_,
    fun query other same => listing_target_text_inj same,
    fun again slashed acceptedAgain base bare more =>
      requests_of_slashed accepted acceptedAgain web base bare more⟩
  intro unfit query peer
  obtain ⟨fault, refused⟩ := listing_request?_error unfit query
  rw [listing_requests_eq, refused]
  rfl

/-- The client of `http://u:p@cohorts.test:8080/api?tenant=1`. -/
def tenant : Client where
  base :=
    { scheme := "http".toList
      authority := some
        { user := ['u'], password := ['p'], host := some (.name "cohorts.test".toList),
          portNumber := some 8080 }
      dotted := false
      path := ["api".toList]
      query := some "tenant=1".toList
      fragment := none }

/-- A filter full of marks that have a meaning in a query. -/
def marks : Query := { Query.initial with filter := "a&b=c+d %é\n" }

set_option maxRecDepth 4000 in
theorem tenant_asks_with_marks :
    Client.of? "http://u:p@cohorts.test:8080/api?tenant=1" = .ok tenant ∧
      tenant.base.isWeb = true ∧ tenant.Admits (some marks) ∧
      tenant.AsksForListing (some marks) (tenant.listingRequest (some marks)) := by
  have accepted : Client.of? "http://u:p@cohorts.test:8080/api?tenant=1" = .ok tenant := by rfl
  have web : tenant.base.isWeb = true := by decide
  have short : tenant.Admits (some marks) := by decide +kernel
  have settled := listing_asks_below_the_base_with_its_query accepted web
  exact ⟨accepted, web, short, settled.1 (by decide) (some marks) short⟩

/-- The client of a host that no request may have. -/
def braced : Client where
  base :=
    { scheme := "http".toList
      authority := some
        { user := [], password := [], host := some (.name "a\x7bb".toList), portNumber := none }
      dotted := false
      path := ["api".toList]
      query := none
      fragment := none }

set_option maxRecDepth 4000 in
theorem braced_host_is_never_asked :
    Client.of? "http://a\x7bb/api" = .ok braced ∧ braced.base.scheme = "http".toList ∧
      braced.Admits none ∧ (∀ peer, braced.listingRequests peer none = []) ∧
      ¬∃ request, braced.AsksForListing none request := by
  have refused (peer : Request → Exchange) : braced.listingRequests peer none = [] := by
    have unfit : braced.base.hostFits = false := by decide
    obtain ⟨fault, error⟩ := listing_request?_error unfit none
    rw [listing_requests_eq, error]
    rfl
  refine ⟨rfl, rfl, by decide +kernel, refused, ?_⟩
  rintro ⟨request, asks⟩
  have sent := asks.once fun _ => .broken
  rw [refused] at sent
  cases sent

end Client

end CohortDesk
