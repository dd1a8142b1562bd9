import Orignabase.Core.Validate
import Orignabase.Lib.Replies

/-
  The rate limit of a user and an action, kept in the store.

  Source: `crates/ob-handlers/src/shared/rate_limiter.rs`.

  A check counts the requests recorded in the window and then
  records its own, in a second statement whose failure it
  ignores. Checks that count before the others have recorded
  let too many through.

  Key definitions include:
    * `checkUserRateLimit`
    * `Uncontended`
    * `granted`

  Main results:
    * `granted_limited`
-/

--------
-- Checks
--------

namespace Orignabase.Shared

open Conc

/- Times are seconds since the epoch. -/
inductive Op where
  | now
  | countSince
      (userId action : String)
      (windowStart : ℤ)
  | createDocument
      (userId action : String)
      (createdAt : ℤ)

abbrev Res : Op → Type
  | .now => ℤ
  | .countSince .. => Except Error ℕ
  | .createDocument .. => Except Error Unit

/- The seconds that pass before a step, and its failure. -/
structure Answer where
  elapsed : ℕ := 0
  fault : Option Error := none

/- A document of `rate_limits`. -/
structure Request where
  userId : String
  action : String
  createdAt : ℤ
deriving DecidableEq

structure World where
  now : ℤ
  requests : List Request

/- When a user was recorded with an action. -/
def World.times
    (w : World)
    (userId action : String) : List ℤ :=
  w.requests.filterMap fun request =>
    if request.userId = userId ∧ request.action = action then
      some request.createdAt
    else none

/- How often since the given time. -/
def World.countSince
    (w : World)
    (userId action : String)
    (windowStart : ℤ) : ℕ :=
  (w.times userId action).countP fun t =>
    decide (windowStart ≤ t)

def exec : Exec Res Answer World
  | .now, a, w =>
    (w.now + a.elapsed, { w with now := w.now + a.elapsed })
  | .countSince userId action windowStart, a, w =>
    (match a.fault with
      | some e => .error e
      | none =>
        .ok (w.countSince userId action windowStart),
      { w with now := w.now + a.elapsed })
  | .createDocument userId action createdAt, a, w =>
    match a.fault with
    | some e =>
      (.error e, { w with now := w.now + a.elapsed })
    | none =>
      (.ok (),
        { now := w.now + a.elapsed
          requests :=
            ⟨userId, action, createdAt⟩ :: w.requests })

/- The value of an `i64` after overflow. -/
def wrap (x : ℤ) : ℤ := Int.bmod x (2 ^ 64)

/- What a check is called with. -/
structure Check where
  userId : String
  action : String
  maxRequests : ℕ
  windowMinutes : ℤ
deriving DecidableEq

/- `test_mode` is `OB_TEST_MODE == "1"`. -/
def checkUserRateLimit
    (testMode : Bool)
    (userId action : String)
    (maxRequests : ℕ)
    (windowMinutes : ℤ) : Prog Res (Except Error Unit) :=
  if testMode then .ret (.ok ())
  else
    (Prog.perform Op.now).bind fun now =>
    let windowStart := wrap (now - wrap (windowMinutes * 60))
    (Prog.perform
      (Op.countSince userId action windowStart)).bind
        fun found =>
    match found with
    | .error e => .ret (.error e)
    | .ok count =>
      if maxRequests ≤ count then
        .ret (.error (.validation
          "Rate limit exceeded. Please try again later."))
      else
        (Prog.perform
          (Op.createDocument userId action now)).bind
            fun _ =>
        .ret (.ok ())

def Check.body
    (x : Check) : Prog Res (Except Error Unit) :=
  checkUserRateLimit false x.userId x.action x.maxRequests
    x.windowMinutes

--------
-- The Limit
--------

abbrev Trace := List (Event Res Answer)

abbrev Served :=
  Reply Check Res Answer World (Except Error Unit)

/- The time that a check read from the clock. -/
def reading : Trace → Option ℤ
  | [] => none
  | ⟨.now, _, now⟩ :: _ => some now
  | ⟨.countSince .., _, _⟩ :: rest => reading rest
  | ⟨.createDocument .., _, _⟩ :: rest => reading rest

/- The clock readings of the checks that return `Ok`. -/
def granted
    (x : Check)
    (rs : List Served) : List ℤ :=
  rs.filterMap fun r =>
    if r.call = x ∧ r.result.isOk = true then reading r.trace
    else none

/- At most so many of the times lie in a window. -/
def Check.Limits
    (x : Check)
    (times : List ℤ) : Prop :=
  ∀ first, (times.countP fun t =>
      decide (first ≤ t ∧ t ≤ first + x.windowMinutes * 60)) ≤
        x.maxRequests

/-
  A request is recorded without failure, and while there are
  still fewer requests in its window than the maximum.
-/
def Uncontended
    (x : Check) : StepCond Res Answer World :=
  fun _ o a w =>
    match o with
    | .createDocument userId action createdAt =>
      a.fault = none ∧ w.countSince userId action
          (createdAt - x.windowMinutes * 60) < x.maxRequests
    | _ => True

--------
-- Steps of a Check
--------

/- A check records itself with the time that it read. -/
def Check.can
    (x : Check)
    (tr : Trace) : Op → Prop
  | .now => True
  | .countSince .. => True
  | .createDocument userId action createdAt =>
    userId = x.userId ∧ action = x.action ∧
      reading tr = some createdAt

/- It returns `Ok` with the attempt to record itself. -/
def Check.post
    (x : Check)
    (tr : Trace)
    (r : Except Error Unit) : Prop :=
  r = .ok () → ∃ createdAt a res rest,
      tr = ⟨.createDocument x.userId x.action createdAt, a,
        res⟩ :: rest ∧ reading rest = some createdAt

theorem body_along (x : Check) :
    x.body.Along (fun _ => True) x.can x.post [] := by
  refine ⟨trivial, fun a now _ => ?_⟩
  refine ⟨trivial, fun b found _ => ?_⟩
  cases found with
  | error e => rintro ⟨⟩
  | ok count =>
    change (if x.maxRequests ≤ count then _
      else _ : Prog Res (Except Error Unit)).Along _ _ _ _
    split
    · rintro ⟨⟩
    · refine ⟨⟨rfl, rfl, rfl⟩, fun d res _ => ?_⟩
      intro _
      exact ⟨now, d, res, _, rfl, rfl⟩

/- Requests are never removed. -/
theorem times_exec
    (o : Op)
    (a : Answer)
    (w : World)
    (userId action : String) :
    (w.times userId action).Sublist
      ((exec o a w).2.times userId action) := by
  cases o with
  | now => exact List.Sublist.refl _
  | countSince _ _ _ => exact List.Sublist.refl _
  | createDocument userId' action' createdAt =>
    cases hFault : a.fault with
    | some e =>
      simp only [exec, hFault]
      exact List.Sublist.refl _
    | none =>
      simp only [exec, hFault]
      apply List.Sublist.filterMap
      exact List.sublist_cons_self _ _

/- A window with the new time holds the requests since. -/
theorem Check.Limits.cons
    {x : Check}
    {times recorded : List ℤ}
    {t : ℤ}
    (hLimits : x.Limits times)
    (hRecorded : times.Sublist recorded)
    (hFewer :
      (recorded.countP fun t' =>
        decide (t - x.windowMinutes * 60 ≤ t')) <
          x.maxRequests) :
    x.Limits (t :: times) := by
  intro first
  rw [List.countP_cons]
  split
  · rename_i hInside
    rw [decide_eq_true_iff] at hInside
    have hSince :
        (times.countP fun t' => decide (first ≤ t' ∧
            t' ≤ first + x.windowMinutes * 60)) ≤
          times.countP fun t' =>
            decide (t - x.windowMinutes * 60 ≤ t') := by
      apply List.countP_mono_left
      intro t' _ hIn
      rw [decide_eq_true_iff] at hIn ⊢
      omega
    have hAll := hRecorded.countP_le
      (p := fun t' => decide (t - x.windowMinutes * 60 ≤ t'))
    omega
  · exact hLimits first

--------
-- Runs of Checks
--------

/- What is granted is recorded, and within the limit. -/
structure Recorded
    (x : Check)
    (w : World)
    (rs : List Served) : Prop where
  recorded :
    (granted x rs).Sublist (w.times x.userId x.action)
  limited : x.Limits (granted x rs)

/- A check that returns `Ok` has recorded itself. -/
theorem recorded_done
    {x y : Check}
    {tr : Trace}
    {o : Op}
    {a : Answer}
    {w : World}
    {rs : List Served}
    {r : Except Error Unit}
    (hCond : Uncontended y tr o a w)
    (hRecorded : Recorded x w rs)
    (hPost : y.post (⟨o, a, (exec o a w).1⟩ :: tr) r) :
    Recorded x (exec o a w).2
      (⟨y, ⟨o, a, (exec o a w).1⟩ :: tr, r,
        (exec o a w).2⟩ :: rs) := by
  have hKept := times_exec o a w x.userId x.action
  by_cases hOk : y = x ∧ r = .ok ()
  · rcases hOk with ⟨rfl, rfl⟩
    rcases hPost rfl with
      ⟨createdAt, a', res, rest, hTrace, hReading⟩
    cases hTrace
    rcases hCond with ⟨hFault, hFewer⟩
    have hGranted : granted y
        (⟨y, ⟨.createDocument y.userId y.action createdAt, a,
          (exec (.createDocument y.userId y.action createdAt)
            a w).1⟩ :: tr, .ok (),
          (exec (.createDocument y.userId y.action createdAt)
            a w).2⟩ :: rs) = createdAt :: granted y rs := by
      rw [granted, List.filterMap_cons_some]
      · rfl
      · rw [if_pos ⟨rfl, rfl⟩, reading, hReading]
    have hTimes :
        (exec (.createDocument y.userId y.action createdAt) a
          w).2.times y.userId y.action =
            createdAt :: w.times y.userId y.action := by
      simp only [exec, hFault, World.times]
      rw [List.filterMap_cons_some]
      exact if_pos ⟨rfl, rfl⟩
    constructor
    · rw [hGranted, hTimes]
      exact hRecorded.recorded.cons_cons createdAt
    · rw [hGranted]
      exact hRecorded.limited.cons hRecorded.recorded hFewer
  · have hGranted : granted x
        (⟨y, ⟨o, a, (exec o a w).1⟩ :: tr, r,
          (exec o a w).2⟩ :: rs) = granted x rs := by
      rw [granted, List.filterMap_cons_none]
      · rfl
      · apply if_neg
        rintro ⟨hCall, hResult⟩
        cases r with
        | error e => cases hResult
        | ok u => exact hOk ⟨hCall, rfl⟩
    constructor
    · rw [hGranted]
      exact hRecorded.recorded.trans hKept
    · rw [hGranted]
      exact hRecorded.limited

/-
  However checks of any users and actions interleave, those
  with the same limit that return `Ok` keep to it in every
  window, as long as requests are recorded uncontended.
-/
theorem granted_limited
    {calls : List Check}
    {w : World}
    {rs : List Served}
    {c : Config Res Answer World (Except Error Unit)}
    (hServes :
      Serves exec Uncontended Check.body calls w rs c)
    (x : Check) :
    x.Limits (granted x rs) := by
  have hStart : Recorded x w [] := by
    constructor
    · exact List.nil_sublist _
    · intro first
      exact Nat.zero_le _
  have hHolds : Recorded x c.world rs := by
    refine hServes.invariant (fun y _ => body_along y) ?_ ?_
      hStart
    · intro y _ tr o a w rs _ _ hRecorded
      constructor
      · exact hRecorded.recorded.trans
          (times_exec o a w x.userId x.action)
      · exact hRecorded.limited
    · intro y _ tr o a w rs r _ hCond hRecorded hPost
      exact recorded_done hCond hRecorded hPost
  exact hHolds.limited

instance
    (x : Check)
    (tr : Trace)
    (o : Op)
    (a : Answer)
    (w : World) : Decidable (Uncontended x tr o a w) := by
  apply Op.casesOn
    (motive := fun o => Decidable (Uncontended x tr o a w))
    o <;>
  intros <;> dsimp only [Uncontended] <;> infer_instance

/- Three requests to return an order in an hour. -/
def returnRequest : Check where
  userId := "u1"
  action := "create_return_request"
  maxRequests := 3
  windowMinutes := 60

def nothingRecorded : World where
  now := 1000
  requests := []

/- Four checks, each in steps of a second. -/
def fourChecks : List Check := List.replicate 4 returnRequest

/- One check after the other; the fourth is refused. -/
def oneByOne : List (Nat × Answer) :=
  [0, 0, 0, 1, 1, 1, 2, 2, 2, 3, 3].map
    fun i => (i, { elapsed := 1 })

/- All count before any is recorded. -/
def together : List (Nat × Answer) :=
  [0, 1, 2, 3, 0, 1, 2, 3, 0, 1, 2, 3].map
    fun i => (i, { elapsed := 1 })

theorem three_requests_limited :
    ∃ rs c, Serves exec Uncontended Check.body fourChecks
          nothingRecorded rs c ∧
        rs.length = 4 ∧
        granted returnRequest rs = [1007, 1004, 1001] ∧
        returnRequest.Limits (granted returnRequest rs) := by
  have hRun :
      (serve exec fourChecks (Config.start nothingRecorded
            (fourChecks.map Check.body)) []
          oneByOne).any (fun out =>
            decide (out.2.length = 4 ∧
              granted returnRequest out.2 =
                [1007, 1004, 1001])) = true ∧
        Serves.Meets exec Uncontended fourChecks
          (Config.start nothingRecorded
            (fourChecks.map Check.body)) oneByOne := by
    decide
  rcases (Option.any_eq_true _ _).mp hRun.1 with
    ⟨⟨c, rs⟩, hSteps, hEnd⟩
  have hServes := Serves.of_serve hSteps hRun.2
  rw [decide_eq_true_iff] at hEnd
  exact ⟨rs, c, hServes, hEnd.1, hEnd.2,
    granted_limited hServes returnRequest⟩

theorem four_requests_granted :
    ∃ rs c,
      Serves exec (fun _ _ _ _ _ => True) Check.body fourChecks
          nothingRecorded rs c ∧
        granted returnRequest rs = [1004, 1003, 1002, 1001] ∧
        ¬ returnRequest.Limits (granted returnRequest rs) := by
  have hRun :
      (serve exec fourChecks (Config.start nothingRecorded
            (fourChecks.map Check.body)) []
          together).any (fun out =>
            decide (granted returnRequest out.2 =
              [1004, 1003, 1002, 1001])) = true := by
    decide
  rcases (Option.any_eq_true _ _).mp hRun with
    ⟨⟨c, rs⟩, hSteps, hEnd⟩
  rw [decide_eq_true_iff] at hEnd
  refine ⟨rs, c, Serves.of_serve hSteps
    (Serves.Meets.of_forall (fun _ _ _ _ _ => trivial) _ _),
    hEnd, ?_⟩
  rw [hEnd]
  intro hLimits
  have hAt := hLimits 1001
  revert hAt
  decide

end Orignabase.Shared
