import SignedBlog.Metrics
import SignedBlog.Proofs.Rounding

/-!
What the counters of requests and the percentiles of their latencies say.

Requests are recorded and summaries are read in any order. What is kept follows from the recorded requests
alone (`Metrics.Follows`), and a percentile is the kept latency that has its place in the order of size,
the place being that of the exact fraction (`Metrics.place_eq`): `Metrics.performAll_fresh`.
-/

namespace SignedBlog.Metrics

set_option autoImplicit false

/-! ## Recorded requests -/

inductive Call where
  | record (latency : Int) (success : Bool)
  | read
deriving DecidableEq

/-- The counters after a call, and the summary if it is read. -/
def perform (metrics : Metrics) : Call → Metrics × Option (List (Text × Value))
  | .record latency success => (metrics.recordRequest latency success, none)
  | .read => (metrics, some metrics.summary)

def performAll (metrics : Metrics) : List Call → Metrics × List (List (Text × Value))
  | [] => (metrics, [])
  | call :: calls =>
    let (after, shown) := metrics.perform call
    let (last, more) := after.performAll calls
    (last, shown.toList ++ more)

/-- The latencies of requests, and whether they went well. -/
def recorded (calls : List Call) : List (Int × Bool) :=
  calls.filterMap fun
    | .record latency success => some (latency, success)
    | .read => none

theorem performAll_append (metrics : Metrics) (calls more : List Call) :
    metrics.performAll (calls ++ more)
      = (((metrics.performAll calls).1.performAll more).1,
          (metrics.performAll calls).2 ++ ((metrics.performAll calls).1.performAll more).2) := by
  induction calls generalizing metrics with
  | nil => rfl
  | cons call calls ih =>
    simp only [List.cons_append, performAll, ih, List.append_assoc]

theorem lastItems_concat {α : Type} (count : Nat) (items : List α) (item : α) :
    lastItems count (lastItems count items ++ [item]) = lastItems count (items ++ [item]) := by
  unfold lastItems
  rw [← List.drop_append_of_le_length (Nat.sub_le _ _), List.drop_drop]
  congr 1
  simp only [List.length_append, List.length_drop, List.length_singleton]
  omega

/-- The counters of a node that has answered the given requests, and done nothing else. -/
structure Follows (requests : List (Int × Bool)) (metrics : Metrics) : Prop where
  latencies : metrics.latencies = (requests.map Prod.fst).drop (requests.length - window)
  total : metrics.requestsTotal = requests.length
  failed : metrics.requestsFailed = requests.countP fun request => !request.2
  created : metrics.postsCreated = 0
  rejected : metrics.postsRejected = 0
  remoteRejected : metrics.remotePostsRejected = 0
  listings : metrics.listingsServed = 0

variable {requests : List (Int × Bool)} {metrics : Metrics}

theorem follows_nil : Follows [] {} := ⟨rfl, rfl, rfl, rfl, rfl, rfl, rfl⟩

theorem Follows.record (h : Follows requests metrics) (latency : Int) (success : Bool) :
    Follows (requests ++ [(latency, success)]) (metrics.recordRequest latency success) where
  latencies := by
    have hkept : metrics.latencies = lastItems window (requests.map Prod.fst) := by
      rw [h.latencies, lastItems, List.length_map]
    unfold recordRequest
    rw [hkept, lastItems_concat, lastItems, List.map_append, List.length_append, List.length_append,
      List.length_map]
    simp only [List.length_singleton, List.map_cons, List.map_nil]
  total := by simp [recordRequest, h.total]
  failed := by
    cases success <;> simp [recordRequest, h.failed]
  created := h.created
  rejected := h.rejected
  remoteRejected := h.remoteRejected
  listings := h.listings

theorem follows_performAll (h : Follows requests metrics) (calls : List Call) :
    Follows (requests ++ recorded calls) (metrics.performAll calls).1 := by
  -- the invariant holds of the requests so far, to which a call adds at the end
  induction calls generalizing requests metrics with
  | nil => simpa [recorded, performAll] using h
  | cons call calls ih =>
    cases call with
    | record latency success =>
      have hrest := ih (h.record latency success)
      rwa [List.append_assoc] at hrest
    | read => exact ih h

theorem Follows.length_latencies (h : Follows requests metrics) :
    metrics.latencies.length = min requests.length window := by
  rw [h.latencies, List.length_drop, List.length_map]
  omega

/-! ## Places in order of size -/

/-- A latency that has its place at a share of the given ones, in order of size. -/
structure IsRanked (num den : Nat) (latencies : List Int) (value : Int) : Prop where
  mem : value ∈ latencies
  smaller : (latencies.countP fun latency => latency < value) ≤ latencies.length * num / den
  at_most : latencies.length * num / den < latencies.countP fun latency => latency ≤ value

/-- In order of size, what is smaller than an item stands before it, and what stands before it is at most as
large. -/
theorem countP_of_sorted {front back : List Int} {value : Int}
    (hsorted : (front ++ value :: back).Pairwise (· ≤ ·)) :
    ((front ++ value :: back).countP fun item => item < value) ≤ front.length ∧
      front.length < (front ++ value :: back).countP fun item => item ≤ value := by
  obtain ⟨-, hback, hfront⟩ := List.pairwise_append.mp hsorted
  have hnone : ((value :: back).countP fun item => item < value) = 0 := by
    rw [List.countP_eq_zero]
    intro item hitem
    have hge : value ≤ item := by
      obtain rfl | hrest := List.mem_cons.mp hitem
      · exact Int.le_refl item
      · exact List.rel_of_pairwise_cons hback hrest
    simpa using hge
  have hall : (front.countP fun item => item ≤ value) = front.length := by
    rw [List.countP_eq_length]
    intro item hitem
    simpa using hfront item hitem value List.mem_cons_self
  have hfew := List.countP_le_length (p := fun item : Int => decide (item < value)) (l := front)
  rw [List.countP_append, List.countP_append, hnone, hall,
    List.countP_cons_of_pos (by simp)]
  omega

/-! ## The place of a share -/

theorem place_eq {share : Binary64} {num den : Nat} (hshare : share.JustUnder num den) (hlt : num < den)
    {count : Nat} (hpos : 0 < count) (hcount : count * num < 2 ^ 52) :
    place share count = count * num / den := by
  unfold place
  rw [Binary64.wholePart_timesNat hshare (by omega) hcount]
  have hless : count * num / den < count := by
    rw [Nat.div_lt_iff_lt_mul (by omega)]
    exact Nat.mul_lt_mul_of_pos_left hlt hpos
  omega

theorem justUnder_half : half.JustUnder 1 2 where
  normal := by decide +kernel
  le := by decide +kernel
  near := by decide +kernel

theorem justUnder_nineteenTwentieths : nineteenTwentieths.JustUnder 95 100 where
  normal := by decide +kernel
  le := by decide +kernel
  near := by decide +kernel

section

variable {share : Binary64} {num den : Nat} {latencies : List Int}

theorem percentile_nil (share : Binary64) : percentile share [] = none := by
  simp [percentile]

/-- Of kept latencies there is one at the place of the exact fraction. -/
theorem percentile_ranked (hshare : share.JustUnder num den) (hlt : num < den)
    (hsize : latencies.length * num < 2 ^ 52) (hfilled : latencies ≠ []) :
    ∃ value, percentile share latencies = some value ∧ IsRanked num den latencies value := by
  have hsorted := @List.pairwise_mergeSort Int (fun a b => decide (a ≤ b))
    (fun a b c => by simpa using Int.le_trans) (fun a b => by simpa using Int.le_total a b) latencies
  have hperm := List.mergeSort_perm latencies fun a b => decide (a ≤ b)
  unfold percentile
  dsimp only
  -- only that the list is in order and has the same items matters from here on
  generalize (latencies.mergeSort fun a b => decide (a ≤ b)) = sorted at hsorted hperm
  have hpos : 0 < latencies.length := List.length_pos_iff.mpr hfilled
  rw [hperm.length_eq, place_eq hshare hlt hpos hsize]
  have hplace : latencies.length * num / den < sorted.length := by
    rw [hperm.length_eq, Nat.div_lt_iff_lt_mul (by omega)]
    exact Nat.mul_lt_mul_of_pos_left hlt hpos
  obtain ⟨front, value, back, rfl, hfront⟩ : ∃ front value back,
      sorted = front ++ value :: back ∧ front.length = latencies.length * num / den := by
    refine ⟨sorted.take (latencies.length * num / den), sorted[latencies.length * num / den],
      sorted.drop (latencies.length * num / den + 1), ?_, List.length_take_of_le (Nat.le_of_lt hplace)⟩
    rw [← List.drop_eq_getElem_cons hplace, List.take_append_drop]
  obtain ⟨hsmaller, hatMost⟩ := countP_of_sorted (hsorted.imp fun h => by simpa using h)
  refine ⟨value, by rw [← hfront]; simp, ?_, ?_, ?_⟩
  · exact hperm.subset (by simp)
  · rw [← hfront, ← hperm.countP_eq]
    exact hsmaller
  · rw [← hfront, ← hperm.countP_eq]
    exact hatMost

theorem percentile_eq_none_iff (hshare : share.JustUnder num den) (hlt : num < den)
    (hsize : latencies.length * num < 2 ^ 52) : percentile share latencies = none ↔ latencies = [] := by
  by_cases hempty : latencies = []
  · rw [hempty, percentile_nil]
    exact iff_of_true rfl rfl
  · obtain ⟨value, hvalue, -⟩ := percentile_ranked hshare hlt hsize hempty
    rw [hvalue]
    exact iff_of_false (Option.some_ne_none value) hempty

theorem ranked_of_percentile (hshare : share.JustUnder num den) (hlt : num < den)
    (hsize : latencies.length * num < 2 ^ 52) {value : Int}
    (h : percentile share latencies = some value) : IsRanked num den latencies value := by
  have hfilled : latencies ≠ [] := by
    rintro rfl
    rw [percentile_nil] at h
    cases h
  obtain ⟨value', hvalue', hranked⟩ := percentile_ranked hshare hlt hsize hfilled
  rw [hvalue'] at h
  cases h
  exact hranked

/-- A smaller place has no larger latency. -/
theorem IsRanked.le {num' den' : Nat} {value value' : Int} (h : IsRanked num den latencies value)
    (h' : IsRanked num' den' latencies value')
    (hplace : latencies.length * num / den ≤ latencies.length * num' / den') : value ≤ value' := by
  apply Int.not_lt.mp
  intro hless
  have hfew : (latencies.countP fun latency => latency ≤ value')
      ≤ latencies.countP fun latency => latency < value := by
    apply List.countP_mono_left
    intro latency _ hle
    simp only [decide_eq_true_eq] at hle ⊢
    omega
  have hsmaller := h.smaller
  have hatMost := h'.at_most
  omega

end

/-! ## Summaries -/

/-- Whatever is recorded and read, in any order, the last thousand latencies are kept, the requests are
counted, and the percentiles are latencies at the places of a half and of 95 in a hundred, if there are
any. Reading changes nothing. -/
theorem performAll_fresh (calls : List Call) :
    let requests := recorded calls
    let after := (performAll {} calls).1
    let failed := requests.countP fun request => !request.2
    after.latencies = (requests.map Prod.fst).drop (requests.length - 1000) ∧
    after.latencies.length = min requests.length 1000 ∧
    after.requestsTotal = requests.length ∧ after.requestsFailed = failed ∧
    (∃ p50 p95,
      after.summary =
        ([("posts_created", .int 0), ("posts_rejected", .int 0), ("remote_posts_rejected", .int 0),
          ("listings_served", .int 0), ("requests_total", .int requests.length),
          ("requests_failed", .int failed), ("request_latency_p50_ms", optionalInt p50),
          ("request_latency_p95_ms", optionalInt p95)] : List (Text × Value)) ∧
      (p50 = none ↔ requests = []) ∧ (p95 = none ↔ requests = []) ∧
      (∀ value, p50 = some value → IsRanked 1 2 after.latencies value) ∧
      (∀ value, p95 = some value → IsRanked 95 100 after.latencies value) ∧
      ∀ a b, p50 = some a → p95 = some b → a ≤ b) ∧
    performAll {} (calls ++ [.read]) = (after, (performAll {} calls).2 ++ [after.summary]) ∧
    ∀ more, (performAll {} (calls ++ .read :: more)).1 = (performAll {} (calls ++ more)).1 := by
  intro requests after failed
  have hafter : Follows requests after := by
    have hfollows := follows_performAll follows_nil calls
    rwa [List.nil_append] at hfollows
  have hlength : after.latencies.length = min requests.length 1000 := hafter.length_latencies
  have hempty : after.latencies = [] ↔ requests = [] := by
    rw [← List.length_eq_zero_iff, ← List.length_eq_zero_iff, hlength]
    omega
  have h50 : after.latencies.length * 1 < 2 ^ 52 := by omega
  have h95 : after.latencies.length * 95 < 2 ^ 52 := by omega
  have hranked : ∀ value, after.median = some value → IsRanked 1 2 after.latencies value :=
    fun _ => ranked_of_percentile justUnder_half (by decide) h50
  have hranked' : ∀ value, after.percentile95 = some value → IsRanked 95 100 after.latencies value :=
    fun _ => ranked_of_percentile justUnder_nineteenTwentieths (by decide) h95
  refine ⟨hafter.latencies, hlength, hafter.total, hafter.failed, ⟨after.median, after.percentile95,
    ?summary, ?none, ?none', hranked, hranked', ?ordered⟩, ?read, ?unread⟩
  case summary =>
    unfold summary
    rw [hafter.total, hafter.failed, hafter.created, hafter.rejected, hafter.remoteRejected,
      hafter.listings]
    rfl
  case read => rw [performAll_append]; rfl
  case unread =>
    intro more
    rw [performAll_append, performAll_append]
    rfl
  case none => exact (percentile_eq_none_iff justUnder_half (by decide) h50).trans hempty
  case none' => exact (percentile_eq_none_iff justUnder_nineteenTwentieths (by decide) h95).trans hempty
  case ordered =>
    intro a b ha hb
    exact (hranked a ha).le (hranked' b hb) (by omega)

end SignedBlog.Metrics
