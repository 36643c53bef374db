import OpenTimeline.Library.SlidingWindow
import OpenTimeline.Library.Transition

/-! The rate limit of the service.

Three limiters stand before the requests, each with a limit of its own for the requests of a key in a minute. While
the clock does not go back, no minute has more requests served of a key than its limiter allows, and a request is
refused exactly when the minute up to it has that many (`served_within_limit`): keys do not weigh on one another.
A refusal names the seconds until the oldest of them is a minute old, cut to a whole number. One second more, and
the next request of the key is served (`served_after_wait`). -/
namespace OpenTimeline
open Library SlidingWindow

/-! ### The limiter -/

structure RateLimitDecision where
  allowed : Bool
  remaining : Nat
  resetInSeconds : Nat
deriving DecidableEq

structure InMemoryRateLimiter where
  limit : Nat
  windowSeconds : Nat
  events : String → List ℚ

namespace InMemoryRateLimiter

def fresh (limit windowSeconds : Int) : InMemoryRateLimiter :=
  ⟨(max 1 limit).toNat, (max 1 windowSeconds).toNat, fun _ => []⟩

def keep (l : InMemoryRateLimiter) (key : String) (times : List ℚ) : InMemoryRateLimiter :=
  { l with events := fun k => if k = key then times else l.events k }

def allow (l : InMemoryRateLimiter) (key : String) (now : ℚ) : RateLimitDecision × InMemoryRateLimiter :=
  let bucket := (l.events key).dropWhile (· ≤ now - l.windowSeconds)
  if l.limit ≤ bucket.length then
    (⟨false, 0, ⌊max 0 (l.windowSeconds - (now - bucket.headD now))⌋₊⟩, l.keep key bucket)
  else
    (⟨true, l.limit - (bucket ++ [now]).length, l.windowSeconds⟩, l.keep key (bucket ++ [now]))

end InMemoryRateLimiter

/-! ### The middleware -/

inductive LimiterGroup
  | takeoverStep
  | takeoverLifecycle
  | default
deriving DecidableEq

namespace LimiterGroup

def name : LimiterGroup → String
  | .takeoverStep => "takeover_step"
  | .takeoverLifecycle => "takeover_lifecycle"
  | .default => "default"

/-- The group of a path. -/
def ofPath (path : String) : LimiterGroup :=
  if "/v1/takeover/step".toList.isPrefixOf path.toList then .takeoverStep
  else if "/v1/takeover/permit/".toList.isPrefixOf path.toList ||
      "/v1/takeover/execution/".toList.isPrefixOf path.toList then .takeoverLifecycle
  else .default

end LimiterGroup

structure Request where
  path : String
  /-- the header `X-TCE-Consumer`, `anonymous` where there is none -/
  consumer : String
  time : ℚ

namespace Request

def isLimited (r : Request) : Bool :=
  "/v1".toList.isPrefixOf r.path.toList && r.path ≠ "/v1/health" && r.path ≠ "/v1/metrics"

def group (r : Request) : LimiterGroup := .ofPath r.path

def limiterKey (r : Request) : String :=
  if r.consumer ≠ "anonymous" then r.consumer ++ ":" ++ r.group.name
  else r.consumer ++ ":" ++ r.group.name ++ ":" ++ r.path

end Request

structure Served where
  group : LimiterGroup
  key : String
  time : ℚ

/-- The limiters, the time of the last request, and what was served under a limit, oldest first. -/
structure Gate where
  limiters : LimiterGroup → InMemoryRateLimiter
  now : ℚ
  served : List Served := []

namespace Gate

/-- What the limiter of a request decides. -/
def decision (s : Gate) (r : Request) : RateLimitDecision := ((s.limiters r.group).allow r.limiterKey r.time).1

/-- `apply_rate_limit`: `none` where the request is passed on, else the header `Retry-After`. -/
def retryAfter (s : Gate) (r : Request) : Option Nat :=
  if r.isLimited && !(s.decision r).allowed then some (max 1 (s.decision r).resetInSeconds) else none

/-- The limiter of a request, and what was served, are other ones after it. -/
def after (s : Gate) (r : Request) (limiter : InMemoryRateLimiter) (served : List Served) : Gate where
  limiters group := if group = r.group then limiter else s.limiters group
  now := r.time
  served := s.served ++ served

def next (s : Gate) (r : Request) : Option Gate :=
  if r.time < s.now then none
  else if r.isLimited then
    some (s.after r ((s.limiters r.group).allow r.limiterKey r.time).2
      (if (s.decision r).allowed then [⟨r.group, r.limiterKey, r.time⟩] else []))
  else some { s with now := r.time }

/-- The times at which requests of a key were served. -/
def times (s : Gate) (group : LimiterGroup) (key : String) : List ℚ :=
  (s.served.filter fun served => served.group = group ∧ served.key = key).map (·.time)

end Gate

/-- The requests of a service with three limits a minute, on a clock that does not go back. -/
def gates (limit : LimiterGroup → Int) : System Gate Request where
  init s := ∃ now, s = { limiters := fun group => .fresh (limit group) 60, now := now }
  next := Gate.next

/-! ### What the limiters keep -/

section Kept
variable {limit : LimiterGroup → Int} {s s' : Gate} {r : Request}

/-- Each limiter keeps of each key what the window needs of the times served. -/
structure Gate.Kept (limit : LimiterGroup → Int) (s : Gate) : Prop where
  limits : ∀ group, (s.limiters group).limit = (max 1 (limit group)).toNat ∧ (s.limiters group).windowSeconds = 60
  keeps : ∀ group key,
    Keeps (s.limiters group).limit (60 : ℚ) s.now (s.times group key) ((s.limiters group).events key)

theorem Gate.times_after (limiter : InMemoryRateLimiter) (served : List Served) (group : LimiterGroup)
    (key : String) : (s.after r limiter served).times group key =
      s.times group key ++ (served.filter fun one => one.group = group ∧ one.key = key).map (·.time) := by
  rw [times, times, after, List.filter_append, List.map_append]

/-- Another bucket for the key of a request: the window of every other key is as it was. -/
theorem Gate.Kept.after (h : s.Kept limit) (htime : s.now ≤ r.time) {bucket : List ℚ} {served : List Served}
    (hserved : ∀ one ∈ served, one.group = r.group ∧ one.key = r.limiterKey)
    (hkeeps : Keeps (s.limiters r.group).limit 60 r.time
      (s.times r.group r.limiterKey ++ served.map (·.time)) bucket) :
    (s.after r ((s.limiters r.group).keep r.limiterKey bucket) served).Kept limit where
  limits group := by
    dsimp only [Gate.after]
    split_ifs with hgroup
    · rw [hgroup]
      exact h.limits r.group
    · exact h.limits group
  keeps group key := by
    rw [times_after]
    dsimp only [Gate.after]
    by_cases hown : group = r.group ∧ key = r.limiterKey
    · obtain ⟨rfl, rfl⟩ := hown
      rw [List.filter_eq_self.mpr (by simpa using hserved), if_pos rfl]
      simpa [InMemoryRateLimiter.keep] using hkeeps
    · have hnone : served.filter (fun one => one.group = group ∧ one.key = key) = [] := by
        rw [List.filter_eq_nil_iff]
        intro one hone hpair
        obtain ⟨hgroup, hkey⟩ := hserved one hone
        obtain ⟨hgroup', hkey'⟩ := of_decide_eq_true hpair
        exact hown ⟨hgroup'.symm.trans hgroup, hkey'.symm.trans hkey⟩
      rw [hnone, List.map_nil, List.append_nil]
      have hlater := (h.keeps group key).later htime
      split_ifs with hgroup
      · subst hgroup
        simpa [InMemoryRateLimiter.keep, show key ≠ r.limiterKey from fun hkey => hown ⟨rfl, hkey⟩] using hlater
      · exact hlater

/-- The decision is the window's. -/
theorem Gate.Kept.allow (h : s.Kept limit) (htime : s.now ≤ r.time) (group : LimiterGroup) (key : String) :
    let bucket := inside 60 r.time (s.times group key)
    (s.limiters group).allow key r.time =
      if (s.limiters group).limit ≤ bucket.length then
        (⟨false, 0, ⌊max 0 (60 - (r.time - bucket.headD r.time))⌋₊⟩, (s.limiters group).keep key bucket)
      else (⟨true, (s.limiters group).limit - (bucket ++ [r.time]).length, 60⟩,
        (s.limiters group).keep key (bucket ++ [r.time])) := by
  have hdrop := (h.keeps group key).dropWhile_kept htime
  have hsixty : ((60 : Nat) : ℚ) = 60 := by norm_num
  rw [InMemoryRateLimiter.allow, (h.limits group).2, hsixty, hdrop]

theorem Gate.Kept.allowed_iff (h : s.Kept limit) (htime : s.now ≤ r.time) :
    (s.decision r).allowed = true ↔
      (inside 60 r.time (s.times r.group r.limiterKey)).length < (max 1 (limit r.group)).toNat := by
  rw [Gate.decision, h.allow htime, (h.limits r.group).1]
  split_ifs with hfull
  · exact iff_of_false (by simp) (not_lt.mpr hfull)
  · exact iff_of_true rfl (not_le.mp hfull)

theorem Gate.Kept.next (h : s.Kept limit) (hnext : s.next r = some s') : s'.Kept limit := by
  rw [Gate.next] at hnext
  by_cases hback : r.time < s.now
  · simp [hback] at hnext
  rw [if_neg hback] at hnext
  have htime := le_of_not_gt hback
  have hkeeps := h.keeps r.group r.limiterKey
  cases hlimited : r.isLimited with
  | false =>
    rw [hlimited, if_neg (by simp)] at hnext
    cases hnext
    exact ⟨h.limits, fun group key => (h.keeps group key).later htime⟩
  | true =>
    rw [hlimited, if_pos rfl, Gate.decision, h.allow htime] at hnext
    split_ifs at hnext with hfull hallowed hallowed
    · cases hallowed
    · cases hnext
      exact h.after htime (by simp) (by simpa using hkeeps.refused htime)
    · cases hnext
      exact h.after htime (by simp) (by simpa using hkeeps.admitted htime (by norm_num) (not_le.mp hfull))
    · exact absurd rfl hallowed

theorem Gate.kept_of_reachable (h : (gates limit).Reachable s) : s.Kept limit := by
  refine h.invariant ?_ (fun _ _ _ _ hkept hnext => hkept.next hnext)
  rintro s ⟨now, rfl⟩
  exact ⟨fun group => ⟨rfl, rfl⟩, fun group key => .empty _ _ _⟩

/-- At most as many served of a key in a minute as its limiter allows; and a request is refused exactly when so many
were served of its key in the minute before it. -/
theorem served_within_limit (h : (gates limit).Reachable s) (group : LimiterGroup) (key : String) (now : ℚ) :
    (inside 60 now (s.times group key)).length ≤ (max 1 (limit group)).toNat ∧
    ∀ r : Request, s.now ≤ r.time → r.isLimited → ((s.retryAfter r).isSome ↔
      (inside 60 r.time (s.times r.group r.limiterKey)).length = (max 1 (limit r.group)).toNat) := by
  have hkept := Gate.kept_of_reachable h
  refine ⟨(hkept.limits group).1 ▸ (hkept.keeps group key).sparse now, fun r htime hlimited => ?_⟩
  have hle := (hkept.limits r.group).1 ▸ (hkept.keeps r.group r.limiterKey).sparse r.time
  have hallowed := hkept.allowed_iff htime
  rw [Gate.retryAfter, hlimited]
  cases hcase : (s.decision r).allowed with
  | false =>
    rw [hcase] at hallowed
    simp only [Bool.false_eq_true, false_iff, not_lt] at hallowed
    exact iff_of_true rfl (hle.antisymm hallowed)
  | true =>
    rw [hcase] at hallowed
    exact iff_of_false (by simp) (hallowed.mp rfl).ne

/-- The header names at least the whole seconds until the oldest served request is a minute old. -/
theorem Gate.Kept.retryAfter_spec (h : s.Kept limit) (htime : s.now ≤ r.time) {seconds : Nat}
    (hrefused : s.retryAfter r = some seconds) : ∃ oldest rest,
      inside 60 r.time (s.times r.group r.limiterKey) = oldest :: rest ∧
      (inside 60 r.time (s.times r.group r.limiterKey)).length = (max 1 (limit r.group)).toNat ∧
      oldest + 60 < r.time + seconds + 1 := by
  have hle := (h.limits r.group).1 ▸ (h.keeps r.group r.limiterKey).sparse r.time
  rw [Gate.retryAfter, Gate.decision, h.allow htime, (h.limits r.group).1] at hrefused
  by_cases hfull : (max 1 (limit r.group)).toNat ≤ (inside 60 r.time (s.times r.group r.limiterKey)).length
  · simp only [hfull, if_true, Bool.not_false, Bool.and_true] at hrefused
    split_ifs at hrefused
    obtain rfl := Option.some.inj hrefused
    cases hbucket : inside 60 r.time (s.times r.group r.limiterKey) with
    | nil => simp [hbucket] at hfull
    | cons oldest rest =>
      refine ⟨oldest, rest, rfl, hbucket ▸ hle.antisymm hfull, ?_⟩
      have hfloor := Nat.lt_floor_add_one (max 0 (60 - (r.time - oldest)))
      have hmax := le_max_right (0 : ℚ) (60 - (r.time - oldest))
      have hcast : (⌊max 0 (60 - (r.time - oldest))⌋₊ : ℚ) ≤ (max 1 ⌊max 0 (60 - (r.time - oldest))⌋₊ : Nat) := by
        exact_mod_cast le_max_right _ _
      rw [List.headD_cons]
      linarith
  · simp [hfull] at hrefused

/-- A client that waits for the seconds named and one more is served, if nobody was served under its key since. -/
theorem served_after_wait (h : (gates limit).Reachable s) (htime : s.now ≤ r.time) {seconds : Nat}
    (hrefused : s.retryAfter r = some seconds) {requests : List Request}
    (hrun : (gates limit).run s requests = some s')
    (hsame : s'.times r.group r.limiterKey = s.times r.group r.limiterKey) {again : Request}
    (hgroup : again.group = r.group) (hkey : again.limiterKey = r.limiterKey) (hafter : s'.now ≤ again.time)
    (hwait : r.time + seconds + 1 ≤ again.time) : s'.retryAfter again = none := by
  have hkept := Gate.kept_of_reachable h
  obtain ⟨oldest, rest, hbucket, hfull, hend⟩ := hkept.retryAfter_spec htime hrefused
  have hlater : r.time ≤ again.time := by
    have : (0 : ℚ) ≤ seconds := Nat.cast_nonneg _
    linarith
  have hroom := (hkept.keeps r.group r.limiterKey).room_later htime hlater hbucket (by linarith)
  have hallowed := (Gate.kept_of_reachable (h.run hrun)).allowed_iff hafter
  rw [hgroup, hkey, hsame, ← hfull] at hallowed
  simp [Gate.retryAfter, hallowed.mpr hroom]

end Kept

/-! ### An example -/

def exampleRequest (time : ℚ) : Request := ⟨"/v1/takeover/step", "codex", time⟩

/-- Two steps a minute. The third is refused for 49 seconds. -/
def exampleGate : Gate where
  limiters _ := .fresh 2 60
  now := 0

def exampleRequests : List Request := [exampleRequest 0, exampleRequest 10]

theorem exampleGate_reachable {s : Gate} (hs : (gates fun _ => 2).run exampleGate exampleRequests = some s) :
    (gates fun _ => 2).Reachable s := by
  have hinit : (gates fun _ => 2).init exampleGate := ⟨0, rfl⟩
  exact (System.Reachable.init hinit).run hs

theorem served_within_limit_example : ∃ s, (gates fun _ => 2).run exampleGate exampleRequests = some s ∧
    (s.retryAfter (exampleRequest (21 / 2))).isSome := by
  have hrun : ((gates fun _ => 2).run exampleGate exampleRequests).map (fun s =>
      (s.now, (inside 60 (21 / 2) (s.times .takeoverStep "codex:takeover_step")).length)) = some (10, 2) := by
    decide +kernel
  obtain ⟨s, hs, hseen⟩ := Option.map_eq_some_iff.mp hrun
  obtain ⟨hnow, hlength⟩ := Prod.mk.inj hseen
  have hserved := (served_within_limit (exampleGate_reachable hs) .takeoverStep "codex:takeover_step" 0).2
  exact ⟨s, hs, (hserved (exampleRequest (21 / 2)) (by rw [hnow]; decide +kernel) (by decide +kernel)).mpr hlength⟩

theorem served_after_wait_example : ∃ s, (gates fun _ => 2).run exampleGate exampleRequests = some s ∧
    s.retryAfter (exampleRequest (21 / 2)) = some 49 ∧ s.retryAfter (exampleRequest (121 / 2)) = none := by
  have hrun : ((gates fun _ => 2).run exampleGate exampleRequests).map (fun s =>
      (s.now, s.retryAfter (exampleRequest (21 / 2)))) = some (10, some 49) := by
    decide +kernel
  obtain ⟨s, hs, hseen⟩ := Option.map_eq_some_iff.mp hrun
  obtain ⟨hnow, hrefused⟩ := Prod.mk.inj hseen
  have hafter : s.now ≤ (exampleRequest (21 / 2)).time := by
    rw [hnow]
    decide +kernel
  have hnone : (gates fun _ => 2).run s [] = some s := rfl
  refine ⟨s, hs, hrefused, ?_⟩
  exact served_after_wait (exampleGate_reachable hs) hafter hrefused hnone rfl rfl rfl
    (hafter.trans (by decide +kernel)) (by decide +kernel)

end OpenTimeline
