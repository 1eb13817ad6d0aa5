import CohortDesk.Query
import CohortDesk.Service.Reply
import CohortDesk.Service.Request
import CohortDesk.Url.Reader
/-!
# The service's client

Listing and removal as requests below a base URL, and the meaning of what comes back. How a request
is exchanged for a reply is the caller's choice.
-/
namespace CohortDesk

structure Client where
  base : Url
  deriving DecidableEq

/-- How an exchange with the service ends: with a reply, or without one. An exchange is one request
of the program and all that the sender does for it; redirects that it follows are inside, and
requests are counted as the program makes them. -/
inductive Exchange
  | answered (reply : Reply)
  | broken
  deriving DecidableEq, Repr

namespace Client

/-- Blanks around the URL do not count, but a failure shows them. -/
def of? (given : String) : Except Failure Client :=
  match Url.read (Text.trim given.toList) with
  | .ok base => .ok ⟨base⟩
  | .error fault => .error (.invalidUrl given fault.message)

def collection : List Char := "cohorts".toList

def listingUrl (client : Client) : Url := client.base.extend [collection]

def cohortUrl (client : Client) (name : CohortName) : Url :=
  client.base.extend [collection, name.toList]

def listingRequest? (client : Client) (query : Option Query) : Except TransportFault Request :=
  Request.of? .get client.listingUrl
    (query.map fun given => given.pairs.map fun pair => (pair.1.toList, pair.2.toList))

def removalRequest? (client : Client) (name : CohortName) : Except TransportFault Request :=
  Request.of? .delete (client.cohortUrl name) none

/-- What an exchange brings, where `read` says what a reply brings. -/
def outcome {α : Type} (request : Request) (read : Reply → Except Failure α) :
    Exchange → Except Failure α
  | .answered reply => read reply
  | .broken => .error (.transport request.unsent)

/-- Sends a request that could be built and reads what comes back. -/
def exchange {m : Type → Type} [Monad m] {α : Type} (send : Request → m Exchange)
    (request? : Except TransportFault Request) (read : Reply → Except Failure α) :
    m (Except Failure α) :=
  match request? with
  | .error fault => pure (.error (.transport fault))
  | .ok request => do
    let exchange ← send request
    pure (outcome request read exchange)

def list {m : Type → Type} [Monad m] (client : Client) (send : Request → m Exchange)
    (query : Option Query) : m (Except Failure (List Cohort)) :=
  exchange send (client.listingRequest? query) Reply.listing

def remove {m : Type → Type} [Monad m] (client : Client) (send : Request → m Exchange)
    (name : CohortName) : m (Except Failure Unit) :=
  exchange send (client.removalRequest? name) Reply.removal

end Client

end CohortDesk
