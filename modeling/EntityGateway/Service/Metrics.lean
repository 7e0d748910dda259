import EntityGateway.Store.Dialogue

/-!
# Metrics

What a service counts: the calls that succeeded, those that failed, and the requests for tokens and
for data that were attempted. The counters have names under which they are registered, and a name
can be registered once only.
-/

namespace EntityGateway

/-- The counters of a service. -/
structure Metrics where
  succeeded : Nat := 0
  failed : Nat := 0
  tokenRequests : Nat := 0
  dataRequests : Nat := 0
  deriving DecidableEq, Repr

namespace Metrics

/-- Counts one more. -/
def increment (m : Metrics) : Counter → Metrics
  | .succeeded => { m with succeeded := m.succeeded + 1 }
  | .failed => { m with failed := m.failed + 1 }
  | .tokenRequests => { m with tokenRequests := m.tokenRequests + 1 }
  | .dataRequests => { m with dataRequests := m.dataRequests + 1 }

/-- The counters once more has been counted. -/
def after (m : Metrics) (counted : List Counter) : Metrics :=
  counted.foldl increment m

/-- The names of the counters. -/
def names : List String := [
  "virtual_entity_query_total",
  "virtual_entity_query_error_total",
  "virtual_entity_token_request_total",
  "virtual_entity_request_duration_seconds"]

/-- The counters with their names. -/
def entries (m : Metrics) : List (String × Nat) :=
  names.zip [m.succeeded, m.failed, m.tokenRequests, m.dataRequests]

end Metrics

/-- The names that are taken. -/
structure Registry where
  taken : List String := []
  deriving DecidableEq, Repr

/-- Takes the names of the counters, unless one of them is taken already. -/
def Registry.register? (r : Registry) : Option Registry :=
  if Metrics.names.any r.taken.contains then none else some ⟨r.taken ++ Metrics.names⟩

end EntityGateway
