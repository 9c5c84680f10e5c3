import SignedBlog.Number.Binary64
import SignedBlog.Value.Basic

/-!
Counters of a node, and the latencies of its last thousand requests.
-/

namespace SignedBlog

set_option autoImplicit false

structure Metrics where
  postsCreated : Nat := 0
  postsRejected : Nat := 0
  remotePostsRejected : Nat := 0
  listingsServed : Nat := 0
  requestsTotal : Nat := 0
  requestsFailed : Nat := 0
  /-- Latencies in milliseconds, oldest first. -/
  latencies : List Int := []
deriving DecidableEq

namespace Metrics

/-- How many latencies are kept. -/
def window : Nat := 1000

/-- The last so many items of a list. -/
def lastItems {α : Type} (count : Nat) (items : List α) : List α := items.drop (items.length - count)

def recordRequest (metrics : Metrics) (latency : Int) (success : Bool) : Metrics :=
  { metrics with
    requestsTotal := metrics.requestsTotal + 1
    requestsFailed := if success then metrics.requestsFailed else metrics.requestsFailed + 1
    latencies := lastItems window (metrics.latencies ++ [latency]) }

/-- A half, as a double-precision number. -/
def half : Binary64 := .ofDecimal false 5 (-1)

/-- The double-precision number nearest to 0.95. -/
def nineteenTwentieths : Binary64 := .ofDecimal false 95 (-2)

/-- The place, in order of size, of the latency that a share of the kept ones does not exceed. -/
def place (share : Binary64) (count : Nat) : Nat := min (share.timesNat count).wholePart (count - 1)

/-- The latency that a share of the kept ones does not exceed, if any is kept. -/
def percentile (share : Binary64) (latencies : List Int) : Option Int :=
  let sorted := latencies.mergeSort fun a b => decide (a ≤ b)
  sorted[place share sorted.length]?

def median (metrics : Metrics) : Option Int := percentile half metrics.latencies

def percentile95 (metrics : Metrics) : Option Int := percentile nineteenTwentieths metrics.latencies

/-- A number that may be missing, as a value. -/
def optionalInt : Option Int → Value
  | none => .null
  | some n => .int n

/-- The counters and percentiles by name. -/
def summary (metrics : Metrics) : List (Text × Value) :=
  [("posts_created", .int metrics.postsCreated),
   ("posts_rejected", .int metrics.postsRejected),
   ("remote_posts_rejected", .int metrics.remotePostsRejected),
   ("listings_served", .int metrics.listingsServed),
   ("requests_total", .int metrics.requestsTotal),
   ("requests_failed", .int metrics.requestsFailed),
   ("request_latency_p50_ms", optionalInt metrics.median),
   ("request_latency_p95_ms", optionalInt metrics.percentile95)]

end Metrics

end SignedBlog
