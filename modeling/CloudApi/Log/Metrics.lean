import CloudApi.Decimal.Binary
import CloudApi.Json.Value

/-!
# Request counters

What the client counts: requests finished, successful and failed, retries and answers from the
cache. A retry and a cache hit do not count as requests. The success rate is the share of
successful requests, one when none has finished.
-/

namespace CloudApi.Log

/-- Counters of finished requests, retries and cache hits. -/
structure Metrics where
  total : Nat := 0
  successful : Nat := 0
  failed : Nat := 0
  retries : Nat := 0
  cacheHits : Nat := 0
  deriving Repr, BEq, Inhabited

namespace Metrics

/-- Count a successful request. -/
def recordSuccess (m : Metrics) : Metrics :=
  { m with total := m.total + 1, successful := m.successful + 1 }

/-- Count a failed request. -/
def recordFailure (m : Metrics) : Metrics :=
  { m with total := m.total + 1, failed := m.failed + 1 }

/-- Count a retry. -/
def recordRetry (m : Metrics) : Metrics := { m with retries := m.retries + 1 }

/-- Count an answer from the cache. -/
def recordCacheHit (m : Metrics) : Metrics := { m with cacheHits := m.cacheHits + 1 }

/-- The share of successful requests, as the double nearest the quotient of the two counts. -/
def successRate (m : Metrics) : Float :=
  if m.total == 0 then 1.0
  else Decimal.Binary.nearest m.successful / Decimal.Binary.nearest m.total

/-- The counters as JSON, with the success rate. -/
def toJson (m : Metrics) : Json :=
  .mkObj [("total", .nat m.total), ("successful", .nat m.successful), ("failed", .nat m.failed),
    ("retries", .nat m.retries), ("cache_hits", .nat m.cacheHits),
    ("success_rate", .float m.successRate)]

end Metrics

end CloudApi.Log
