import CohortDesk.Instant.Basic
/-!
# Cohorts

A named set of records that the cohort service keeps. The name is the key for removal; two cohorts
of one listing may still share it.
-/
namespace CohortDesk

abbrev CohortName := String

structure Cohort where
  id : Option Int64
  name : CohortName
  description : Option String
  kind : Option String
  createdAt : Option Instant
  deriving DecidableEq

def Cohort.named (name : CohortName) : Cohort :=
  { id := none, name, description := none, kind := none, createdAt := none }

end CohortDesk
