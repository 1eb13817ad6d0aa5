import CohortDesk.Text.Decimal
/-!
# Listing queries

Filter, order and page of a listing. The service gives them their meaning; here they are passed on
as they stand.
-/
namespace CohortDesk

structure Query where
  filter : String
  order : String
  limit : UInt32
  page : UInt32
  deriving DecidableEq, Repr

namespace Query

def defaultOrder : String := "name"
def defaultLimit : UInt32 := 5
def firstPage : UInt32 := 1

def initial : Query :=
  { filter := "", order := defaultOrder, limit := defaultLimit, page := firstPage }

def withLimit (limit : UInt32) : Query := { initial with limit }

/-- The pairs of the request's query string, in their order. -/
def pairs (query : Query) : List (String × String) :=
  [("filter", query.filter), ("order", query.order),
    ("limit", String.ofList (Text.digits query.limit.toNat)),
    ("page", String.ofList (Text.digits query.page.toNat))]

end Query

end CohortDesk
