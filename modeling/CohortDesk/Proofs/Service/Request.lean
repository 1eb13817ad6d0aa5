import CohortDesk.Service.Client

/-!
# Requests that are sent

A request without pairs is built exactly for a URL that can be sent once its credentials are taken
out. Building it leaves the path alone, and a call sends the request it built, once.
-/

namespace CohortDesk

set_option autoImplicit false

namespace Url

theorem bare_path (url : Url) : url.bare.path = url.path := by
  unfold bare
  split <;> rfl

theorem bare_scheme (url : Url) : url.bare.scheme = url.scheme := by
  unfold bare
  split <;> rfl

/-- What an authority has beside its user stays. -/
theorem bare_authority_bind {α : Type} {field : Authority → Option α}
    (apart : ∀ authority, field { authority with user := [], password := [] } = field authority)
    (url : Url) : url.bare.authority.bind field = url.authority.bind field := by
  unfold bare
  split
  next =>
    cases owner : url.authority with
    | none => simp only [withoutUser, owner, Option.map_none, Option.bind_none]
    | some authority => simp only [withoutUser, owner, Option.map_some, Option.bind_some, apart]
  next => rfl

theorem bare_host? (url : Url) : url.bare.host? = url.host? :=
  bare_authority_bind (fun _ => rfl) url

theorem bare_host_fits (url : Url) : url.bare.hostFits = url.hostFits := by
  rw [hostFits, bare_host?, hostFits]

theorem bare_can_be_sent (url : Url) (web : url.isWeb = true)
    (short : (Text.Utf8.encode url.bare.text).length ≤ longest) :
    url.bare.canBeSent = url.hostFits := by
  have webBare : url.bare.isWeb = true := by
    rw [isWeb, bare_scheme, ← isWeb, web]
  rw [canBeSent, webBare, bare_host_fits, decide_eq_true short, Bool.true_and, Bool.and_true]

theorem host?_of_host_fits {url : Url} (fits : url.hostFits = true) : url.host? ≠ none := by
  intro missing
  rw [hostFits, missing] at fits
  cases fits

theorem path_text_append (path more : List (List Char)) :
    pathText (path ++ more) = pathText path ++ pathText more := List.flatMap_append

theorem path_text_singleton (segment : List Char) : pathText [segment] = '/' :: segment := by
  rw [pathText, List.flatMap_singleton]

end Url

namespace Request

/-- The host need not be looked at: a URL without one cannot be sent. -/
theorem of?_none_eq_ok_iff (method : Method) (url : Url) (request : Request) :
    of? method url none = .ok request ↔
      url.bare.canBeSent = true ∧
        request = { method, target := url.bare, credentials := url.credentials? } := by
  have hosted (sendable : url.bare.canBeSent = true) : url.host? ≠ none := by
    rw [Url.canBeSent, Bool.and_eq_true, Bool.and_eq_true] at sendable
    have found := Url.host?_of_host_fits sendable.1.2
    rwa [Url.bare_host?] at found
  have unfolded : of? method url none =
      if url.host? = none then .error (.unbuildable (String.ofList url.text))
      else if url.bare.canBeSent then
        .ok { method, target := url.bare, credentials := url.credentials? }
      else .error (.unbuildable (String.ofList url.bare.text)) := rfl
  rw [unfolded]
  constructor
  · intro built
    split at built
    next => cases built
    next =>
      split at built
      next sendable => exact ⟨sendable, (Except.ok.inj built).symm⟩
      next => cases built
  · rintro ⟨sendable, rfl⟩
    rw [if_neg (hosted sendable), if_pos sendable]

end Request

/-- A peer that keeps the requests it is sent, in their order. -/
def recording (peer : Request → Exchange) (request : Request) :
    StateM (List Request) Exchange := do
  modify fun sent => sent ++ [request]
  pure (peer request)

namespace Client

def removalRequests (client : Client) (peer : Request → Exchange) (name : CohortName) :
    List Request :=
  ((client.remove (recording peer) name).run []).2

theorem removal_requests_eq (client : Client) (peer : Request → Exchange) (name : CohortName) :
    client.removalRequests peer name = (client.removalRequest? name).toOption.toList := by
  unfold removalRequests remove exchange
  cases client.removalRequest? name with
  | error fault => rfl
  | ok request => rfl

end Client

end CohortDesk
