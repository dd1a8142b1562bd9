import Mathlib.Data.List.Chain
import Mathlib.Logic.Function.Basic
import Orignabase.Lib.Histories
import Orignabase.Lib.Windows

/-
  The rate limiter of the authentication routes.

  Source: `crates/ob-auth/src/rate_limit.rs`.

  The limiter is documented as a sliding window. It counts the
  checks of an address from the first one on, and starts again
  with the first check after the window has passed: what it
  let through before is then forgotten.

  Key definitions include:
    * `RateLimiter.check`
    * `RateLimiter.cleanup`
    * `periods`
    * `Clear`

  Main results:
    * `RateLimiter.answersTo_eq`
    * `RateLimiter.allowed_sliding_iff`
    * `cleanup_unseen`
-/

--------
-- The Limiter
--------

namespace Orignabase

variable {times : List ℤ}

namespace Auth

/- Instants are counted in nanoseconds. -/
structure RateLimiter where
  maxRequests : ℕ
  window : ℕ
  fits : maxRequests < 2 ^ 64

/- What the map holds for an address. -/
structure Counter where
  count : ℕ
  windowStart : ℤ
deriving DecidableEq

abbrev Counters (Ip : Type) := Ip → Option Counter

namespace RateLimiter

variable {Ip : Type} [DecidableEq Ip]
variable (limiter : RateLimiter)

/- `now.duration_since(start) >= self.window` -/
def expired
    (entry : Counter)
    (now : ℤ) : Bool :=
  decide (limiter.window ≤ (now - entry.windowStart).toNat)

/- The entry after a check; the count is a `u64` that wraps. -/
def hit
    (entry : Counter)
    (now : ℤ) : Counter :=
  let entry := if limiter.expired entry now = true
    then { count := 0, windowStart := now } else entry
  { entry with count := (entry.count + 1) % 2 ^ 64 }

def check
    (state : Counters Ip)
    (ip : Ip)
    (now : ℤ) : Counters Ip × Bool :=
  let entry := (state ip).getD
    { count := 0, windowStart := now }
  let entry := limiter.hit entry now
  (Function.update state ip (some entry),
    decide (entry.count ≤ limiter.maxRequests))

def cleanup
    (state : Counters Ip)
    (now : ℤ) : Counters Ip :=
  fun ip => (state ip).filter fun entry =>
    !limiter.expired entry now

end RateLimiter

--------
-- Sequences of Calls
--------

inductive LimiterCall (Ip : Type) where
  | check (ip : Ip) (now : ℤ)
  | cleanup (now : ℤ)

namespace LimiterCall

variable {Ip : Type} [DecidableEq Ip]

def time : LimiterCall Ip → ℤ
  | .check _ now => now
  | .cleanup now => now

/- Whether the call is not a check of another address. -/
def concerns
    (ip : Ip) : LimiterCall Ip → Bool
  | .check other _ => decide (other = ip)
  | .cleanup _ => true

/- The times at which the address is checked. -/
def checkTimes
    (ip : Ip)
    (calls : List (LimiterCall Ip)) : List ℤ :=
  calls.filterMap fun
    | .check other now => if other = ip then some now else none
    | .cleanup _ => none

end LimiterCall

namespace RateLimiter

variable {Ip : Type} [DecidableEq Ip]
variable (limiter : RateLimiter)

def step
    (state : Counters Ip) : LimiterCall Ip → Counters Ip
  | .check ip now => (limiter.check state ip now).1
  | .cleanup now => limiter.cleanup state now

/- What a check answers, with its address and its time. -/
def answer
    (state : Counters Ip) :
    LimiterCall Ip → Option (Ip × ℤ × Bool)
  | .check ip now =>
    some (ip, now, (limiter.check state ip now).2)
  | .cleanup _ => none

/- The answers to the checks of one address, in their order. -/
def answersTo
    (state : Counters Ip)
    (ip : Ip)
    (calls : List (LimiterCall Ip)) : List (ℤ × Bool) :=
  (History.observed limiter.step limiter.answer state
    calls).filterMap fun given =>
      if given.1 = ip then some given.2 else none

/- The times of the checks that return `true`. -/
def allowed
    (answers : List (ℤ × Bool)) : List ℤ :=
  (answers.filter fun given => given.2).map Prod.fst

/-
  No half-open interval as long as the window holds more
  allowed checks of an address than the maximum.
-/
def Sliding
    (calls : List (LimiterCall Ip)) : Prop :=
  ∀ ip, Windows.Bounded (fun t : ℤ => t) (fun _ => 1)
      limiter.window limiter.maxRequests
      (allowed (limiter.answersTo (fun _ => none) ip calls))

/-
  An address is answered as if no other address had been
  checked.
-/
def Isolated
    (calls : List (LimiterCall Ip)) : Prop :=
  ∀ ip, limiter.answersTo (fun _ => none) ip calls =
      limiter.answersTo (fun _ => none) ip
        (calls.filter (LimiterCall.concerns ip))

end RateLimiter

--------
-- One Address
--------

namespace RateLimiter

variable {Ip : Type} [DecidableEq Ip]
variable (limiter : RateLimiter)

/- The answers to checks of an address at the given times. -/
def hits : Option Counter → List ℤ → List (ℤ × Bool)
  | _, [] => []
  | entry, t :: rest =>
    let next := limiter.hit
      (entry.getD { count := 0, windowStart := t }) t
    (t, decide (next.count ≤ limiter.maxRequests)) ::
      hits (some next) rest

variable {now : ℤ}

/- An expired entry counts as little as none. -/
theorem hit_expired
    {entry : Counter}
    (hExpired : limiter.expired entry now = true) :
    limiter.hit entry now =
      limiter.hit { count := 0, windowStart := now } now := by
  rw [hit, hit, if_pos hExpired, ite_self]

theorem expired_mono
    {entry : Counter}
    {later : ℤ}
    (hExpired : limiter.expired entry now = true)
    (hLater : now ≤ later) :
    limiter.expired entry later = true := by
  rw [expired, decide_eq_true_iff] at hExpired ⊢
  omega

/- What a cleanup drops no later check misses. -/
theorem hits_cleanup
    (entry : Option Counter)
    (hLater : ∀ t ∈ times, now ≤ t) :
    limiter.hits
        (entry.filter fun e => !limiter.expired e now)
        times =
      limiter.hits entry times := by
  cases entry with
  | none => rfl
  | some entry =>
    rw [Option.filter_some]
    cases hExpired : limiter.expired entry now with
    | false => rfl
    | true =>
      cases times with
      | nil => rfl
      | cons t rest =>
        have hNow : limiter.expired entry t = true :=
          limiter.expired_mono hExpired
            (hLater t List.mem_cons_self)
        have hHit := limiter.hit_expired hNow
        simp only [Bool.not_true, Bool.false_eq_true,
          if_false, hits, Option.getD_none,
          Option.getD_some, hHit]

/-
  In any sequence of calls an address is answered by the
  times of its own checks alone.
-/
theorem answersTo_eq
    (ip : Ip)
    {calls : List (LimiterCall Ip)}
    (hTimes : calls.Pairwise fun c d => c.time ≤ d.time)
    (state : Counters Ip) :
    limiter.answersTo state ip calls =
      limiter.hits (state ip)
        (LimiterCall.checkTimes ip calls) := by
  induction calls generalizing state with
  | nil => rfl
  | cons call rest ih =>
    rcases List.pairwise_cons.mp hTimes with ⟨hFirst, hRest⟩
    have hNext := ih hRest (limiter.step state call)
    rw [answersTo] at hNext ⊢
    rw [History.observed, List.filterMap_append, hNext]
    cases call with
    | check other now =>
      by_cases hOther : other = ip
      · subst hOther
        simp [answer, step, check, hits,
          LimiterCall.checkTimes]
      · have hKept :
            limiter.step state (.check other now) ip =
              state ip :=
          Function.update_of_ne (Ne.symm hOther) _ _
        simp [answer, hOther, hKept, LimiterCall.checkTimes]
    | cleanup now =>
      have hLater : ∀ t ∈
          LimiterCall.checkTimes ip rest, now ≤ t := by
        intro t hMem
        rcases List.mem_filterMap.mp hMem with
          ⟨call, hCall, hTime⟩
        have hBefore := hFirst call hCall
        cases call with
        | check other at_ =>
          simp only [Option.ite_none_right_eq_some,
            Option.some.injEq] at hTime
          rw [← hTime.2]
          exact hBefore
        | cleanup _ => cases hTime
      have hSame := limiter.hits_cleanup (state ip) hLater
      simpa [answer, step, cleanup,
        LimiterCall.checkTimes] using hSame

/- The checks of one address do not influence another. -/
theorem isolated
    {calls : List (LimiterCall Ip)}
    (hTimes : calls.Pairwise fun c d => c.time ≤ d.time) :
    limiter.Isolated calls := by
  intro ip
  have hOwn : LimiterCall.checkTimes ip
      (calls.filter (LimiterCall.concerns ip)) =
        LimiterCall.checkTimes ip calls := by
    rw [LimiterCall.checkTimes, List.filterMap_filter]
    apply List.filterMap_congr
    intro call _
    cases call with
    | check other now =>
      by_cases hOther : other = ip <;>
        simp [LimiterCall.concerns, hOther]
    | cleanup now => rfl
  rw [limiter.answersTo_eq ip hTimes,
    limiter.answersTo_eq ip (hTimes.filter _), hOwn]

end RateLimiter

--------
-- Counting Periods
--------

variable (w n : ℕ)

/-
  Times cut into periods: one begins with the first time that
  is `w` or more after the beginning of the one before.
-/
def periodsFrom
    (start : ℤ)
    (current : List ℤ) : List ℤ → List (List ℤ)
  | [] => [current]
  | t :: rest =>
    if w ≤ (t - start).toNat then
      current :: periodsFrom t [t] rest
    else
      periodsFrom start (current ++ [t]) rest

def periods : List ℤ → List (List ℤ)
  | [] => []
  | t :: rest => periodsFrom w t [t] rest

/- Those of a period that come before `n` are counted. -/
def granted : ℕ → List ℤ → List ℤ
  | _, [] => []
  | k, t :: rest =>
    if (k + 1) % 2 ^ 64 ≤ n then
      t :: granted (k + 1) rest
    else
      granted (k + 1) rest

/-
  A period is clear of the one before it if the count does
  not run over and no more than `n` of the first `n` times of
  the two lie within `w` up to one of the later.
-/
def Clear
    (previous current : List ℤ) : Prop :=
  current.length < 2 ^ 64 ∧ ∀ t ∈ current.take n,
      Windows.total (fun t : ℤ => t) (fun _ => 1) w
        (t + 1 - w) (previous.take n ++ current.take n) ≤ n

instance
    (previous current : List ℤ) :
    Decidable (Clear w n previous current) :=
  inferInstanceAs (Decidable (_ ∧ _))

variable {w n}

theorem granted_append
    (k : ℕ)
    (front back : List ℤ) :
    granted n k (front ++ back) = granted n k front ++
        granted n (k + front.length) back := by
  induction front generalizing k with
  | nil => rfl
  | cons t rest ih =>
    rw [List.cons_append, granted, granted, ih (k + 1),
      List.length_cons, Nat.add_assoc k 1,
      Nat.add_comm 1]
    split
    · rfl
    · rfl

theorem granted_sublist
    (k : ℕ)
    (times : List ℤ) :
    (granted n k times).Sublist times := by
  induction times generalizing k with
  | nil => exact List.Sublist.refl []
  | cons t rest ih =>
    rw [granted]
    split
    · exact (ih (k + 1)).cons_cons t
    · exact (ih (k + 1)).cons t

/- As long as the count does not run over, the first `n`. -/
theorem granted_eq_take
    {k : ℕ}
    (hCount : k + times.length < 2 ^ 64) :
    granted n k times = times.take (n - k) := by
  induction times generalizing k with
  | nil => rw [granted, List.take_nil]
  | cons t rest ih =>
    rw [List.length_cons] at hCount
    have hNext : k + 1 + rest.length < 2 ^ 64 := by omega
    have hMod : (k + 1) % 2 ^ 64 = k + 1 :=
      Nat.mod_eq_of_lt (by omega)
    rw [granted, hMod, ih hNext]
    by_cases hLe : k + 1 ≤ n
    · have hSub : n - k = n - (k + 1) + 1 := by omega
      rw [if_pos hLe, hSub, List.take_succ_cons]
    · have hSub : n - (k + 1) = n - k := by omega
      have hZero : n - k = 0 := by omega
      rw [if_neg hLe, hSub, hZero, List.take_zero,
        List.take_zero]

/- A count that runs over lets one more through. -/
theorem length_granted
    (hFits : n < 2 ^ 64)
    (hLong : 2 ^ 64 ≤ times.length) :
    n < (granted n 0 times).length := by
  have hFront : (times.take (2 ^ 64 - 1)).length =
      2 ^ 64 - 1 := by
    rw [List.length_take]
    omega
  have hGranted :
      granted n 0 (times.take (2 ^ 64 - 1)) =
        (times.take (2 ^ 64 - 1)).take n := by
    rw [granted_eq_take (by omega), Nat.sub_zero]
  rw [← List.take_append_drop (2 ^ 64 - 1) times,
    granted_append, List.length_append, hGranted,
    List.length_take, hFront, Nat.zero_add,
    Nat.min_eq_left (by omega)]
  cases hBack : times.drop (2 ^ 64 - 1) with
  | nil =>
    have hLength := congrArg List.length hBack
    rw [List.length_drop, List.length_nil] at hLength
    omega
  | cons t rest =>
    have hOver : (2 ^ 64 - 1 + 1) % 2 ^ 64 ≤ n := by
      rw [Nat.sub_add_cancel (by decide), Nat.mod_self]
      exact Nat.zero_le n
    rw [granted, if_pos hOver, List.length_cons]
    omega

end Auth

--------
-- Periods and Intervals
--------

namespace Auth

variable {w n : ℕ}

/- The bound on the intervals of length `w`. -/
abbrev AtMost
    (w n : ℕ)
    (times : List ℤ) : Prop :=
  Windows.Bounded (fun t : ℤ => t) (fun _ => 1) w n times

variable {start : ℤ} {current : List ℤ}

/-
  Two periods together keep the bound exactly when the second
  is clear of the first.
-/
theorem atMost_pair_iff
    {previous : List ℤ}
    (hFits : n < 2 ^ 64)
    (hPrevious : previous.length < 2 ^ 64)
    (hBefore : ∀ t ∈ previous, t ≤ start)
    (hFrom : ∀ t ∈ current, start ≤ t)
    (hUpTo : 1 < current.length →
      ∀ t ∈ current, t < start + w) :
    AtMost w n
        (granted n 0 previous ++ granted n 0 current) ↔
      Clear w n previous current := by
  by_cases hCount : current.length < 2 ^ 64
  · have hTake : ∀ {times : List ℤ}, times.length < 2 ^ 64 →
          granted n 0 times = times.take n := by
      intro times hLength
      rw [granted_eq_take (by omega), Nat.sub_zero]
    rw [hTake hPrevious, hTake hCount, Clear, AtMost,
      Windows.bounded_iff]
    constructor
    · intro hAll
      refine ⟨hCount, ?_⟩
      intro t hMem
      exact hAll t (List.mem_append_right _ hMem)
    · rintro ⟨_, hEnds⟩ t hMem
      rcases List.mem_append.mp hMem with hMem | hMem
      · have hStart : t ≤ start :=
          hBefore t (List.mem_of_mem_take hMem)
        by_cases hSome : ∃ t' ∈ current.take n, t' ≤ t
        · rcases hSome with ⟨t', hMem', hLe⟩
          have hFrom' := hFrom t' (List.mem_of_mem_take hMem')
          have hEq : t = t' := by omega
          rw [hEq]
          exact hEnds t' hMem'
        · have hNone : Windows.total (fun t : ℤ => t)
              (fun _ => 1) w (t + 1 - w)
                (current.take n) = 0 := by
            apply Windows.total_eq_zero
            intro t' hMem' hInside
            exact hSome ⟨t', hMem', by omega⟩
          rw [Windows.total_append, hNone, Nat.add_zero,
            Windows.total_one]
          refine Nat.le_trans List.countP_le_length ?_
          rw [List.length_take]
          exact Nat.min_le_left _ _
      · exact hEnds t hMem
  · constructor
    · intro hBounded
      exfalso
      have hMany : n < (granted n 0 current).length :=
        length_granted hFits (by omega)
      have hCurrent : AtMost w n (granted n 0 current) :=
        Windows.Bounded.sublist hBounded
          (List.sublist_append_right _ _)
      have hAt := hCurrent start
      rw [Windows.total_one, List.countP_eq_length.mpr] at hAt
      · omega
      · intro t hMem
        have hIn := (granted_sublist 0 current).subset hMem
        rw [Windows.inside_iff]
        exact ⟨hFrom t hIn, hUpTo (by omega) t hIn⟩
    · intro hClear
      exact absurd hClear.1 hCount

theorem mem_of_mem_periodsFrom
    {t : ℤ}
    {period : List ℤ}
    (hPeriod : period ∈ periodsFrom w start current times)
    (hMem : t ∈ period) :
    t ∈ current ++ times := by
  induction times generalizing start current with
  | nil =>
    rw [periodsFrom, List.mem_singleton] at hPeriod
    rw [List.append_nil, ← hPeriod]
    exact hMem
  | cons t' rest ih =>
    rw [periodsFrom] at hPeriod
    split at hPeriod
    · rcases List.mem_cons.mp hPeriod with rfl | hPeriod
      · exact List.mem_append_left _ hMem
      · exact List.mem_append_right _ (ih hPeriod)
    · have hIn := ih hPeriod
      rw [List.append_assoc] at hIn
      exact hIn

/-
  The times let through in all periods keep the bound exactly
  when each period is clear of the one before it.
-/
theorem atMost_periodsFrom_iff
    {previous : List ℤ}
    (hFits : n < 2 ^ 64)
    (hPrevious : previous.length < 2 ^ 64)
    (hBefore : ∀ t ∈ previous, t ≤ start)
    (hFrom : ∀ t ∈ current, start ≤ t)
    (hUpTo : 1 < current.length →
      ∀ t ∈ current, t < start + w)
    (hReached : ∀ t ∈ times, start ≤ t)
    (hSorted : (current ++ times).Pairwise (· ≤ ·)) :
    AtMost w n (granted n 0 previous ++
        (periodsFrom w start current times).flatMap
          (granted n 0)) ↔
      List.IsChain (Clear w n)
        (previous :: periodsFrom w start current times) := by
  induction times generalizing start previous current with
  | nil =>
    rw [periodsFrom, List.flatMap_singleton,
      List.isChain_pair]
    exact atMost_pair_iff hFits hPrevious hBefore hFrom
      hUpTo
  | cons t rest ih =>
    rw [List.pairwise_append] at hSorted
    rcases hSorted with ⟨hCurrent, hRest, hAcross⟩
    rcases List.pairwise_cons.mp hRest with ⟨hFirst, hLater⟩
    have hTo : ∀ t' ∈ current, t' ≤ t := by
      intro t' hMem
      exact hAcross t' hMem t List.mem_cons_self
    rw [periodsFrom]
    split
    · rename_i hNew
      have hPair := atMost_pair_iff hFits hPrevious
        hBefore hFrom hUpTo
      rw [List.flatMap_cons, List.isChain_cons_cons,
        ← hPair, AtMost, Windows.bounded_append_iff]
      · apply and_congr_right
        intro hTwo
        apply ih
        · exact (hPair.mp hTwo).1
        · exact hTo
        · intro t' hMem
          rw [List.mem_singleton.mp hMem]
        · intro hMany
          simp at hMany
        · exact hFirst
        · exact hRest
      · intro t₁ hFirst₁ t₂ hSecond
        have hLe₁ := hBefore t₁
          ((granted_sublist 0 previous).subset hFirst₁)
        have hLe₂ : t ≤ t₂ := by
          rcases List.mem_flatMap.mp hSecond with
            ⟨period, hPeriod, hIn⟩
          have hMem := mem_of_mem_periodsFrom hPeriod
            ((granted_sublist 0 period).subset hIn)
          rw [List.singleton_append] at hMem
          rcases List.mem_cons.mp hMem with rfl | hMem
          · exact Int.le_refl _
          · exact hFirst t₂ hMem
        have hGap := hReached t List.mem_cons_self
        change t₁ + w ≤ t₂
        omega
    · rename_i hSame
      have hStart : ∀ t' ∈ current ++ [t],
          t' < start + w := by
        intro t' hMem
        rcases List.mem_append.mp hMem with hMem | hMem
        · have hLe := hTo t' hMem
          omega
        · rw [List.mem_singleton.mp hMem]
          omega
      apply ih hPrevious hBefore
      · intro t' hMem
        rcases List.mem_append.mp hMem with hMem | hMem
        · exact hFrom t' hMem
        · rw [List.mem_singleton.mp hMem]
          exact hReached t List.mem_cons_self
      · intro _
        exact hStart
      · intro t' hMem
        exact hReached t' (List.mem_cons_of_mem t hMem)
      · rw [List.append_assoc]
        exact List.pairwise_append.mpr
          ⟨hCurrent, hRest, hAcross⟩

end Auth

--------
-- The Sliding Window
--------

namespace Auth

namespace RateLimiter

variable {Ip : Type} [DecidableEq Ip]
variable (limiter : RateLimiter)

theorem allowed_cons
    (t : ℤ)
    (given : Bool)
    (answers : List (ℤ × Bool)) :
    allowed ((t, given) :: answers) =
      (if given = true then [t] else []) ++
        allowed answers := by
  cases given <;> rfl

theorem granted_singleton
    {n : ℕ}
    (k : ℕ)
    (t : ℤ) :
    granted n k [t] =
      if (k + 1) % 2 ^ 64 ≤ n then [t] else [] := rfl

/-
  The hits of a counter within its period, and those of the
  periods that follow.
-/
theorem allowed_hits
    {start : ℤ}
    (current times : List ℤ) :
    granted limiter.maxRequests 0 current ++
        allowed (limiter.hits
          (some ⟨current.length % 2 ^ 64, start⟩) times) =
      (periodsFrom limiter.window start current
        times).flatMap (granted limiter.maxRequests 0) := by
  induction times generalizing start current with
  | nil =>
    rw [periodsFrom, List.flatMap_singleton, hits]
    exact List.append_nil _
  | cons t rest ih =>
    rw [periodsFrom]
    split
    · rename_i hNew
      have hHit : limiter.hit
          ⟨current.length % 2 ^ 64, start⟩ t =
            ⟨[t].length % 2 ^ 64, t⟩ := by
        rw [hit, expired, if_pos (decide_eq_true hNew),
          List.length_singleton]
      rw [hits, Option.getD_some, hHit, allowed_cons,
        List.flatMap_cons, ← ih [t], granted_singleton]
      simp only [List.length_singleton, decide_eq_true_iff,
        Nat.zero_add]
    · rename_i hSame
      have hHit : limiter.hit
          ⟨current.length % 2 ^ 64, start⟩ t =
            ⟨(current ++ [t]).length % 2 ^ 64, start⟩ := by
        rw [hit, expired, if_neg (by simpa using hSame),
          List.length_append, List.length_singleton,
          Nat.mod_add_mod]
      rw [hits, Option.getD_some, hHit, allowed_cons,
        ← ih (current ++ [t]), granted_append,
        granted_singleton, List.append_assoc]
      simp only [List.length_append, List.length_singleton,
        decide_eq_true_iff, Nat.zero_add]

/- What an address is let through are the first of a period. -/
theorem allowed_hits_none
    (times : List ℤ) :
    allowed (limiter.hits none times) =
      (periods limiter.window times).flatMap
        (granted limiter.maxRequests 0) := by
  cases times with
  | nil => rfl
  | cons t rest =>
    have hHit : limiter.hit
        { count := 0, windowStart := t } t =
          ⟨[t].length % 2 ^ 64, t⟩ := by
      rw [hit, ite_self, List.length_singleton]
    rw [periods, ← limiter.allowed_hits [t] rest, hits,
      Option.getD_none, hHit, allowed_cons,
      granted_singleton]
    simp only [List.length_singleton, decide_eq_true_iff,
      Nat.zero_add]

/-
  At non-decreasing times, addresses do not influence each
  other; and no interval as long as the window lets more than
  the maximum through exactly when each counting period of an
  address is clear of the one before it.
-/
theorem allowed_sliding_iff
    {calls : List (LimiterCall Ip)}
    (hTimes : calls.Pairwise fun c d => c.time ≤ d.time) :
    (limiter.Sliding calls ∧ limiter.Isolated calls) ↔
      ∀ ip, List.IsChain
          (Clear limiter.window limiter.maxRequests)
          ([] :: periods limiter.window
            (LimiterCall.checkTimes ip calls)) := by
  rw [and_iff_left (limiter.isolated hTimes)]
  apply forall_congr'
  intro ip
  have hSorted :
      (LimiterCall.checkTimes ip calls).Pairwise (· ≤ ·) := by
    apply List.Pairwise.filterMap _ _ hTimes
    intro c d hLe t hT t' hT'
    cases c with
    | cleanup _ => cases hT
    | check other now =>
      cases d with
      | cleanup _ => cases hT'
      | check other' now' =>
        simp only [Option.ite_none_right_eq_some,
          Option.some.injEq] at hT hT'
        rw [← hT.2, ← hT'.2]
        exact hLe
  rw [limiter.answersTo_eq ip hTimes,
    limiter.allowed_hits_none]
  cases hCheck : LimiterCall.checkTimes ip calls with
  | nil =>
    apply iff_of_true
    · intro a
      exact Nat.zero_le _
    · exact List.isChain_singleton _
  | cons t rest =>
    rw [hCheck] at hSorted
    change AtMost _ _
      (granted limiter.maxRequests 0 [] ++ _) ↔ _
    rw [periods]
    apply atMost_periodsFrom_iff limiter.fits
    · exact Nat.two_pow_pos 64
    · rintro _ ⟨⟩
    · intro t' hMem
      rw [List.mem_singleton.mp hMem]
    · intro hMany
      simp at hMany
    · exact (List.pairwise_cons.mp hSorted).1
    · exact hSorted

end RateLimiter

/- Two requests in 50 milliseconds. -/
def twoInFifty : RateLimiter where
  maxRequests := 2
  window := 50000000
  fits := by decide

theorem three_checks_sliding :
    twoInFifty.Sliding
        [.check "10.0.0.1" 0, .check "10.0.0.2" 1000,
          .check "10.0.0.1" 50000000] ∧
      twoInFifty.Isolated
        [.check "10.0.0.1" 0, .check "10.0.0.2" 1000,
          .check "10.0.0.1" 50000000] := by
  apply (twoInFifty.allowed_sliding_iff (by decide)).mpr
  intro ip
  by_cases hFirst : "10.0.0.1" = ip
  · subst hFirst
    decide
  · by_cases hSecond : "10.0.0.2" = ip
    · subst hSecond
      decide
    · simp [LimiterCall.checkTimes, hFirst, hSecond, periods]

/-
  One request just before the counter starts again and two
  from then on: all are let through within 2 milliseconds.
-/
def aroundReset : List (LimiterCall String) :=
  [.check "10.0.0.1" 0, .check "10.0.0.1" 49000000,
    .check "10.0.0.1" 50000000, .check "10.0.0.1" 51000000]

theorem reset_lets_three_through :
    aroundReset.Pairwise (fun c d => c.time ≤ d.time) ∧
      ¬ twoInFifty.Sliding aroundReset := by
  constructor
  · decide
  · intro hSliding
    have hAt := hSliding "10.0.0.1" 49000000
    revert hAt
    decide

--------
-- Cleanups
--------

section

variable {Ip : Type} [DecidableEq Ip]

def LimiterCall.isCheck : LimiterCall Ip → Bool
  | .check .. => true
  | .cleanup _ => false

/-
  Cleanups only free memory: every check of an address is
  answered as if there had been none.
-/
theorem cleanup_unseen
    (limiter : RateLimiter)
    (state : Counters Ip)
    (ip : Ip)
    {calls : List (LimiterCall Ip)}
    (hTimes : calls.Pairwise fun c d => c.time ≤ d.time) :
    limiter.answersTo state ip calls =
      limiter.answersTo state ip
        (calls.filter LimiterCall.isCheck) := by
  have hOwn : LimiterCall.checkTimes ip
      (calls.filter LimiterCall.isCheck) =
        LimiterCall.checkTimes ip calls := by
    rw [LimiterCall.checkTimes, List.filterMap_filter]
    apply List.filterMap_congr
    intro call _
    cases call <;> rfl
  rw [limiter.answersTo_eq ip hTimes,
    limiter.answersTo_eq ip (hTimes.filter _), hOwn]

end

theorem cleanup_after_window_unseen :
    twoInFifty.answersTo (fun _ => none) "10.0.0.1"
        [.check "10.0.0.1" 0, .cleanup 60000000,
          .check "10.0.0.1" 61000000] =
      [(0, true), (61000000, true)] := by
  rw [cleanup_unseen _ _ _ (by decide)]
  decide

end Auth

end Orignabase
