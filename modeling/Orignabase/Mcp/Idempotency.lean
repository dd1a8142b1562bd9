import Orignabase.Lib.Histories
import Orignabase.Lib.Replies
import Orignabase.Mcp.SpendLimits

/-
  What the idempotency keys of the agent tools keep apart.

  The tracker holds the responses of both tools for all users
  by the text that the client has chosen, so a user who
  chooses the key of another one is given the response that
  was made for the other one.

  Key definitions include:
    * `Request`
    * `PerCaller`
    * `Independent`
    * `Separate`
    * `Request.Handled`
    * `Alike`

  Main results:
    * `Request.handled`
    * `Request.same`
    * `per_caller_and_operation`
-/

--------
-- Requests One at a Time
--------

namespace Orignabase.Mcp

open Conc

/-
  A tool call with the answers of the environment, whose clock
  does not go back.
-/
structure Request where
  call : Call
  env : ℕ → Answer
  done : ℤ
  clock : ∀ n,
    (env n).cleanupNow ≤ (env n).now ∧
      (env n).now ≤ (env (n + 1)).cleanupNow ∧
      (env n).now ≤ done

namespace Request

variable (x : Request)

def reply (w : World) : Except McpError Response :=
  (x.call.body.alone exec x.env 0 w).1

def step (w : World) : World :=
  (x.call.body.alone exec x.env 0 w).2.2

/- The first reading of the clock. -/
def begins : ℤ := (x.env 0).cleanupNow

end Request

/- The world after some requests. -/
abbrev served
    (start : World)
    (xs : List Request) : World :=
  History.after (fun w x => Request.step x w) start xs

/- What holds of every request when it begins. -/
abbrev Throughout
    (start : World)
    (P : World → Request → Prop)
    (xs : List Request) : Prop :=
  History.Throughout (fun w x => Request.step x w) start P xs

/- The requests come one after the other within 24 hours. -/
structure InOneDay
    (first : ℤ)
    (xs : List Request) : Prop where
  ordered : xs.Pairwise fun x y => x.done ≤ y.begins
  day : ∀ x ∈ xs,
    first ≤ x.begins ∧ x.done < first + 24 * 60 * 60

/- No more users have spent something than are kept. -/
def FewSpenders (w : World) : Prop :=
  (w.limit.userSpend.rows.filter fun row =>
    !row.2.isEmpty).length ≤ spendMaxUsers

/- Fewer keys than are kept. -/
def FewKeys (w : World) (_ : Request) : Prop :=
  w.tracker.cache.rows.length < maxEntries

--------
-- Isolation
--------

/- What a call does after the checks of its parameters. -/
def Call.operation
    (call : Call) : Except McpError (Handler Response) :=
  match call.tool with
  | .addToCart =>
    (cartParams call.params).map (addItem call.userId)
  | .createCheckout =>
    (checkoutParams call.params).map
      (checkoutItems call.userId)

/- Whether a call gets as far as the tracker. -/
def Call.Accepted (call : Call) : Prop :=
  ∃ operation, call.operation = .ok operation

/- A response is one for the user and of the tool. -/
def Response.IsFor
    (r : Response)
    (call : Call) : Prop :=
  r.userId = call.userId ∧ r.tool = call.tool

/-
  Every response was computed for the user that gets it by the
  tool that was called; and a later call of the user to the
  tool with the same key returns the same response and records
  nothing, unless its parameters are refused.
-/
structure PerCaller
    (start : World)
    (xs : List Request) : Prop where
  own : Throughout start
    (fun w x => ∀ r, x.reply w = .ok r → r.IsFor x.call) xs
  again : ∀ past x between y,
    past ++ x :: between ++ [y] <+: xs →
      x.call.userId = y.call.userId →
      x.call.tool = y.call.tool →
      ∀ key, idempotencyKey x.call.params = some key →
        idempotencyKey y.call.params = some key →
        ∀ r, x.reply (served start past) = .ok r →
          y.call.Accepted →
            y.reply (served start (past ++ x :: between)) =
                .ok r ∧
              (served start
                  (past ++ x :: between ++ [y])).spent =
                (served start (past ++ x :: between)).spent

/- The replies that a user gets. -/
def repliesTo
    (userId : String)
    (start : World)
    (xs : List Request) :
    List (Except McpError Response) :=
  History.observed (fun w x => Request.step x w) (fun w x =>
      if x.call.userId = userId then some (x.reply w)
      else none) start xs

/- The same requests of a user, among any of other users. -/
def SameFor
    (userId : String) : List Request → List Request → Prop :=
  List.Forall₂ fun x y =>
    x.call.userId = userId ∨ y.call.userId = userId → x = y

/-
  An accepted call finds under its key, if anything, a
  response for its user and of its tool; and no more users
  have spent something than are kept.
-/
structure Separate
    (w : World)
    (x : Request) : Prop where
  own : x.call.Accepted →
    ∀ key entry, idempotencyKey x.call.params = some key →
      w.tracker.cache.get key = some entry →
        entry.1.IsFor x.call
  spenders : FewSpenders w

/- What the other users do makes no difference to a user. -/
def Independent
    (first : ℤ)
    (start : World)
    (xs : List Request) : Prop :=
  ∀ userId ys, SameFor userId xs ys →
    InOneDay first ys → Throughout start FewKeys ys →
      Throughout start Separate ys →
        repliesTo userId start xs = repliesTo userId start ys

--------
-- Within a Day
--------

/- Nothing that is kept is older than the first reading. -/
structure Tidy
    (first : ℤ)
    (w : World) : Prop where
  begun : first ≤ w.now
  cached : ∀ row ∈ w.tracker.cache.rows, first ≤ row.2.2
  users : w.limit.userSpend.keys.Nodup
  spends : ∀ user, ∀ e ∈ w.limit.entries user,
    first ≤ e.time

/- The next readings of the clock are later and in the day. -/
structure Ready
    (first : ℤ)
    (w : World)
    (a : Answer) : Prop where
  cleanup : w.now ≤ a.cleanupNow
  later : a.cleanupNow ≤ a.now
  day : a.now < first + 24 * 60 * 60

variable {first : ℤ} {w : World} {a : Answer}

theorem Ready.reading_cleanup (hReady : Ready first w a) :
    w.reading a.cleanupNow = a.cleanupNow :=
  Int.max_eq_right hReady.cleanup

/- The second of the two readings of a step. -/
theorem Ready.max_eq (hReady : Ready first w a) :
    max a.cleanupNow a.now = a.now :=
  Int.max_eq_right hReady.later

/- No amount has expired. -/
theorem Tidy.unexpired_eq
    (hTidy : Tidy first w)
    {t : ℤ}
    (hDay : t < first + 24 * 60 * 60)
    (user : String) :
    unexpired t (w.limit.entries user) =
      w.limit.entries user := by
  rw [unexpired, List.filter_eq_self]
  intro e hMem
  have hTime := hTidy.spends user e hMem
  rw [decide_eq_true_iff, spendTtlSecs]
  omega

/- No cached response has expired, so a cleanup keeps all. -/
theorem Tidy.check_tracker
    (hTidy : Tidy first w)
    (hReady : Ready first w a)
    (key : String) :
    (w.tracker.check key a.cleanupNow a.now).1 =
        (w.tracker.cache.get key).map Prod.fst ∧
      (w.tracker.check key a.cleanupNow a.now).2.cache =
        w.tracker.cache := by
  have hDay := hReady.day
  have hLater := hReady.later
  have hAll : w.tracker.cache.rows.filter (fun row =>
      decide (a.cleanupNow - row.2.2 < idempotencyTtlSecs)) =
        w.tracker.cache.rows := by
    rw [List.filter_eq_self]
    intro row hMem
    have hTime := hTidy.cached row hMem
    rw [decide_eq_true_iff, idempotencyTtlSecs]
    omega
  have hCache :
      (w.tracker.check key a.cleanupNow a.now).2.cache =
        w.tracker.cache := by
    rw [IdempotencyTracker.check]
    dsimp only
    split
    · rw [IdempotencyTracker.cleanup]
      dsimp only
      rw [hAll]
    · rfl
  refine ⟨?_, hCache⟩
  have hFound : (w.tracker.check key a.cleanupNow a.now).1 =
      (w.tracker.cache.get key).bind fun entry =>
        if a.now - entry.2 < idempotencyTtlSecs then
          some entry.1
        else none := by
    rw [← hCache]
    rfl
  rw [hFound]
  cases hGet : w.tracker.cache.get key with
  | none => rfl
  | some entry =>
    have hTime := hTidy.cached _ (Table.mem_of_get hGet)
    change first ≤ entry.2 at hTime
    rw [Option.bind_some, Option.map_some, if_pos]
    rw [idempotencyTtlSecs]
    omega

/- Only users that have spent something are live. -/
theorem length_liveUsers_le
    (limit : SpendLimit)
    (now : ℤ) :
    (limit.liveUsers now).rows.length ≤
      (limit.userSpend.rows.filter fun row =>
        !row.2.isEmpty).length := by
  rw [SpendLimit.liveUsers, List.filter_map, List.length_map,
    ← List.countP_eq_length_filter,
    ← List.countP_eq_length_filter]
  apply List.countP_mono_left
  intro row _ hLive
  cases hRow : row.2 with
  | nil =>
    rw [Function.comp_apply, hRow] at hLive
    cases hLive
  | cons e rest => rfl

/- What a check decides for the entries of a user. -/
def SpendLimit.verdict
    (self : SpendLimit)
    (entries : List Spend)
    (amountCents : ℕ) : Except McpError Unit :=
  if self.maxAmountCents < amountCents then
    .error (.validationError
      ("Amount exceeds per-request limit of $" ++
        toString (self.maxAmountCents / 100)))
  else if self.maxPer24hCents <
      (sumCents entries + amountCents) % 2 ^ 64 then
    .error (.validationError "Amount exceeds 24h spend limit")
  else .ok ()

/- A check that nothing expires before. -/
theorem Tidy.check_limit
    (hTidy : Tidy first w)
    (hReady : Ready first w a)
    (hFew : FewSpenders w)
    (userId : String)
    (amountCents : ℕ) :
    let out := w.limit.check userId amountCents a.cleanupNow
      a.now a.order
    out.1 = w.limit.verdict (w.limit.entries userId)
        amountCents ∧
      out.2.maxAmountCents = w.limit.maxAmountCents ∧
      out.2.maxPer24hCents = w.limit.maxPer24hCents ∧
      out.2.userSpend.keys.Nodup ∧
      ∀ user, out.2.entries user = w.limit.entries user := by
  have hAll : (w.limit.liveUsers a.cleanupNow).rows.length ≤
      spendMaxUsers :=
    (length_liveUsers_le w.limit a.cleanupNow).trans hFew
  have hPrunes : w.limit.Prunes a.now _ :=
    w.limit.check_prunes hTidy.users userId amountCents
      a.order hReady.later (fun _ _ => hAll)
  have hCounted : w.limit.Prunes a.now
      (w.limit.counted a.cleanupNow a.order) :=
    w.limit.counted_prunes hTidy.users hReady.later
      (fun _ => hAll)
  have hSame : ∀ {limit : SpendLimit},
      w.limit.Prunes a.now limit →
        ∀ user, limit.entries user = w.limit.entries user := by
    intro limit hPruned user
    rcases hPruned.entries user with hEq | ⟨t, hT, hEq⟩
    · exact hEq
    · have hDay := hReady.day
      rw [hEq, hTidy.unexpired_eq (by omega)]
  refine ⟨?_, hPrunes.amount, hPrunes.per24h, hPrunes.users,
    hSame hPrunes⟩
  rw [SpendLimit.check, SpendLimit.verdict]
  split
  · rfl
  · dsimp only
    rw [hSame hCounted, hTidy.unexpired_eq hReady.day,
      hCounted.per24h]
    split
    · rfl
    · rfl

--------
-- Operations Alone
--------

variable {env : ℕ → Answer} {first : ℤ} {w : World}
variable {a : Answer} {userId : String}

/- The clock of a request within the day. -/
def InDay
    (first : ℤ)
    (env : ℕ → Answer) : Prop :=
  ∀ n, (env n).cleanupNow ≤ (env n).now ∧
    (env n).now ≤ (env (n + 1)).cleanupNow ∧
    (env n).now < first + 24 * 60 * 60

variable {n : ℕ}

theorem InDay.ready
    (hDay : InDay first env)
    (hNow : w.now ≤ (env n).cleanupNow) :
    Ready first w (env n) :=
  ⟨hNow, (hDay n).1, (hDay n).2.2⟩

/-
  What an operation of a user leaves: only the amounts of the
  user may change, and the response is for the user.
-/
structure Operated
    (first : ℤ)
    (env : ℕ → Answer)
    (userId : String)
    (tool : Tool)
    (w : World)
    (out : Except McpError Response × ℕ × World) : Prop where
  tidy : Tidy first out.2.2
  clock : out.2.2.now ≤ (env out.2.1).cleanupNow
  tracker : out.2.2.tracker = w.tracker
  amount :
    out.2.2.limit.maxAmountCents = w.limit.maxAmountCents
  per24h :
    out.2.2.limit.maxPer24hCents = w.limit.maxPer24hCents
  others : ∀ user, user ≠ userId →
    out.2.2.limit.entries user = w.limit.entries user
  response : ∀ r, out.1 = .ok r →
    r.userId = userId ∧ r.tool = tool

/- The loop over the items only reads documents. -/
theorem alone_totalOf
    (env : ℕ → Answer)
    (total : ℕ)
    (items : List Value)
    (n : ℕ) :
    ∃ r m, n ≤ m ∧ ∀ w,
      (totalOf total items).alone exec env n w =
        (r, m, w) := by
  induction items generalizing total n with
  | nil => exact ⟨.ok total, n, Nat.le_refl n, fun _ => rfl⟩
  | cons item rest ih =>
    rw [totalOf]
    split
    · exact ⟨_, n, Nat.le_refl n, fun _ => rfl⟩
    · rename_i productId hId
      split
      · exact ⟨_, n, Nat.le_refl n, fun _ => rfl⟩
      · rename_i quantity hQuantity
        cases hCents : itemCents productId quantity
            (env n).document with
        | error e =>
          refine ⟨.error e, n + 1, Nat.le_succ n, ?_⟩
          intro w
          simp [Prog.perform, Prog.bind, exec, hCents,
            Handler.fail]
        | ok cents =>
          rcases ih (saturatingAdd total cents) (n + 1)
            with ⟨r, m, hLe, hRest⟩
          refine ⟨r, m, by omega, ?_⟩
          intro w
          simp [Prog.perform, Prog.bind, exec, hCents,
            hRest]

/- The two steps of spending, and the response. -/
theorem alone_spend
    (totalCents : ℕ)
    (n : ℕ)
    (w : World) :
    (spend userId totalCents).alone exec env n w =
      let checked := exec (.spendCheck userId totalCents)
        (env n) w
      match checked.1 with
      | .error e => (.error e, n + 1, checked.2)
      | .ok _ =>
        let recorded :=
          exec (.spendRecord userId totalCents)
            (env (n + 1)) checked.2
        let told := exec .utcNow (env (n + 3)) recorded.2
        (.ok (.checkout (env (n + 2)).uuid userId totalCents
          (told.1 + 1800)), n + 4, told.2) := by
  cases hCheck :
      (exec (.spendCheck userId totalCents) (env n) w).1 with
  | error e =>
    simp only [spend, Handler.andThen, Prog.perform,
      Prog.bind, Prog.alone_call, hCheck]
    rfl
  | ok u =>
    simp only [spend, Handler.andThen, Prog.perform,
      Prog.bind, Prog.alone_call, hCheck]
    rfl

/- A check changes neither the entries nor the tracker. -/
theorem Tidy.spendCheck
    (hTidy : Tidy first w)
    (hReady : Ready first w a)
    (hFew : FewSpenders w)
    (totalCents : ℕ) :
    let out := exec (.spendCheck userId totalCents) a w
    out.1 = w.limit.verdict (w.limit.entries userId)
        totalCents ∧
      Tidy first out.2 ∧ out.2.now = a.now ∧
      out.2.tracker = w.tracker ∧
      out.2.limit.maxAmountCents = w.limit.maxAmountCents ∧
      out.2.limit.maxPer24hCents = w.limit.maxPer24hCents ∧
      ∀ user, out.2.limit.entries user =
        w.limit.entries user := by
  rcases hTidy.check_limit hReady hFew userId
    totalCents with
    ⟨hVerdict, hAmount, hPer24h, hUsers, hEntries⟩
  have hBegun := hTidy.begun
  have hCleanup := hReady.cleanup
  have hLater := hReady.later
  simp only [exec, hReady.reading_cleanup, hReady.max_eq]
  refine ⟨hVerdict, ?_, trivial, trivial, hAmount, hPer24h,
    hEntries⟩
  refine ⟨by simp only; omega, hTidy.cached, hUsers, ?_⟩
  intro user e hMem
  simp only [hEntries] at hMem
  exact hTidy.spends user e hMem

/- A recording adds to the entries of the user. -/
theorem Tidy.spendRecord
    (hTidy : Tidy first w)
    (hLater : w.now ≤ a.now)
    (hDay : a.now < first + 24 * 60 * 60)
    (totalCents : ℕ) :
    let out := exec (.spendRecord userId totalCents) a w
    Tidy first out.2 ∧ out.2.now = a.now ∧
      out.2.tracker = w.tracker ∧
      out.2.limit.maxAmountCents = w.limit.maxAmountCents ∧
      out.2.limit.maxPer24hCents = w.limit.maxPer24hCents ∧
      ∀ user, out.2.limit.entries user =
        if user = userId then
          w.limit.entries userId ++ [⟨totalCents, a.now⟩]
        else w.limit.entries user := by
  have hReading : w.reading a.now = a.now :=
    Int.max_eq_right hLater
  have hBegun := hTidy.begun
  have hEntries : ∀ user,
      (w.limit.record userId totalCents a.now).entries user =
        if user = userId then
          w.limit.entries userId ++ [⟨totalCents, a.now⟩]
        else w.limit.entries user := by
    intro user
    rw [w.limit.entries_upsert rfl, hTidy.unexpired_eq hDay]
  simp only [exec, hReading]
  refine ⟨?_, trivial, trivial, rfl, rfl, hEntries⟩
  refine ⟨by simp only; omega, hTidy.cached,
    Table.nodup_upsert hTidy.users _ _, ?_⟩
  intro user e hMem
  simp only [hEntries] at hMem
  split at hMem
  · rcases List.mem_append.mp hMem with hMem | hMem
    · exact hTidy.spends userId e hMem
    · rw [List.mem_singleton.mp hMem]
      dsimp only
      omega
  · exact hTidy.spends user e hMem

/- Time alone changes nothing that is kept. -/
theorem Tidy.utcNow
    (hTidy : Tidy first w)
    (hLater : w.now ≤ a.now) :
    exec .utcNow a w = (a.now, { w with now := a.now }) ∧
      Tidy first { w with now := a.now } := by
  have hReading : w.reading a.now = a.now :=
    Int.max_eq_right hLater
  have hBegun := hTidy.begun
  refine ⟨by simp only [exec, hReading], ?_⟩
  exact ⟨by simp only; omega, hTidy.cached, hTidy.users,
    hTidy.spends⟩

/- Spending, as the entries of the user decide. -/
theorem operated_spend
    (userId : String)
    (hTidy : Tidy first w)
    (hDay : InDay first env)
    (hNow : w.now ≤ (env n).cleanupNow)
    (hFew : FewSpenders w)
    (totalCents : ℕ) :
    let out := (spend userId totalCents).alone exec env n w
    let entries := w.limit.entries userId
    Operated first env userId .createCheckout w out ∧
      match w.limit.verdict entries totalCents with
      | .error e =>
        out.1 = .error e ∧ out.2.1 = n + 1 ∧
          out.2.2.limit.entries userId = entries
      | .ok _ =>
        out.1 = .ok (.checkout (env (n + 2)).uuid userId
            totalCents ((env (n + 3)).now + 1800)) ∧
          out.2.1 = n + 4 ∧
          out.2.2.limit.entries userId = entries ++
            [⟨totalCents, (env (n + 1)).now⟩] := by
  have hFirst : (env n).now ≤ (env (n + 1)).now :=
    (hDay n).2.1.trans (hDay (n + 1)).1
  have hSecond : (env (n + 1)).now ≤ (env (n + 2)).now :=
    (hDay (n + 1)).2.1.trans (hDay (n + 2)).1
  have hThird : (env (n + 2)).now ≤ (env (n + 3)).now :=
    (hDay (n + 2)).2.1.trans (hDay (n + 3)).1
  rcases hTidy.spendCheck (hDay.ready hNow)
    hFew totalCents with
    ⟨hVerdict, hChecked, hClock, hTracker, hAmount, hPer24h,
      hEntries⟩
  simp only [alone_spend]
  generalize exec (.spendCheck userId totalCents) (env n) w =
    checked at *
  rw [← hVerdict]
  cases hResult : checked.1 with
  | error e =>
    dsimp only
    refine ⟨?_, rfl, rfl, hEntries userId⟩
    refine ⟨hChecked, ?_, hTracker, hAmount, hPer24h,
      fun user _ => hEntries user, ?_⟩
    · rw [hClock]
      exact (hDay n).2.1
    · rintro _ ⟨⟩
  | ok u =>
    have hNow₁ : checked.2.now ≤ (env (n + 1)).now := by
      omega
    rcases hChecked.spendRecord hNow₁
      (hDay (n + 1)).2.2 totalCents with
      ⟨hRecorded, hClock₁, hTracker₁, hAmount₁, hPer24h₁,
        hEntries₁⟩
    generalize exec (.spendRecord userId totalCents)
      (env (n + 1)) checked.2 = recorded at *
    have hNow₃ : recorded.2.now ≤ (env (n + 3)).now := by
      omega
    rcases hRecorded.utcNow hNow₃ with ⟨hTold, hLast⟩
    rw [hTold]
    dsimp only
    refine ⟨?_, rfl, rfl, ?_⟩
    · refine ⟨hLast, ?_, hTracker₁.trans hTracker,
        hAmount₁.trans hAmount, hPer24h₁.trans hPer24h, ?_,
        ?_⟩
      · exact (hDay (n + 3)).2.1
      · intro user hOther
        dsimp only
        rw [hEntries₁, if_neg hOther, hEntries]
      · rintro _ ⟨⟩
        exact ⟨rfl, rfl⟩
    · rw [hEntries₁, if_pos rfl, hEntries]

theorem alone_checkoutItems
    (env : ℕ → Answer)
    (items : List Value)
    (n : ℕ) :
    (∃ e m, n ≤ m ∧ ∀ w,
      (checkoutItems userId items).alone exec env n w =
        (.error e, m, w)) ∨
      ∃ totalCents m, n ≤ m ∧ ∀ w,
        (checkoutItems userId items).alone exec env n w =
          (spend userId totalCents).alone exec env m w := by
  rcases alone_totalOf env 0 items n with
    ⟨r, m, hLe, hTotal⟩
  cases r with
  | error e =>
    refine .inl ⟨e, m, hLe, ?_⟩
    intro w
    rw [checkoutItems, Handler.andThen, Prog.alone_bind,
      hTotal]
    rfl
  | ok totalCents =>
    refine .inr ⟨totalCents, m, hLe, ?_⟩
    intro w
    rw [checkoutItems, Handler.andThen, Prog.alone_bind,
      hTotal]

theorem InDay.cleanupNow_mono
    (hDay : InDay first env)
    {m : ℕ}
    (hLe : n ≤ m) :
    (env n).cleanupNow ≤ (env m).cleanupNow := by
  induction hLe with
  | refl => exact Int.le_refl _
  | @step m _ ih =>
    exact ih.trans ((hDay m).1.trans (hDay m).2.1)

/- An operation that leaves the world as it is. -/
theorem operated_same
    {tool : Tool}
    (hTidy : Tidy first w)
    {r : Except McpError Response}
    {m : ℕ}
    (hNow : w.now ≤ (env m).cleanupNow)
    (hResponse : ∀ res, r = .ok res →
      res.userId = userId ∧ res.tool = tool) :
    Operated first env userId tool w (r, m, w) :=
  ⟨hTidy, hNow, rfl, rfl, rfl, fun _ _ => rfl, hResponse⟩

/-
  An operation either ends without touching the world or
  comes to spending an amount.
-/
theorem alone_operation
    (env : ℕ → Answer)
    {call : Call}
    {operation : Handler Response}
    (hOperation : call.operation = .ok operation)
    (n : ℕ) :
    (∃ r m, n ≤ m ∧ (∀ res, r = .ok res → res.IsFor call) ∧
      ∀ w, operation.alone exec env n w = (r, m, w)) ∨
    (call.tool = .createCheckout ∧
      ∃ totalCents m, n ≤ m ∧ ∀ w,
        operation.alone exec env n w =
          (spend call.userId totalCents).alone exec env m
            w) := by
  rw [Call.operation] at hOperation
  cases hTool : call.tool with
  | addToCart =>
    rw [hTool] at hOperation
    cases hItem : cartParams call.params with
    | error e =>
      rw [hItem] at hOperation
      cases hOperation
    | ok item =>
      rw [hItem] at hOperation
      cases hOperation
      refine .inl ⟨_, n, Nat.le_refl n, ?_, fun _ => rfl⟩
      rintro _ ⟨⟩
      exact ⟨rfl, hTool.symm⟩
  | createCheckout =>
    rw [hTool] at hOperation
    cases hItems : checkoutParams call.params with
    | error e =>
      rw [hItems] at hOperation
      cases hOperation
    | ok items =>
      rw [hItems] at hOperation
      cases hOperation
      rcases alone_checkoutItems env items n with
        ⟨e, m, hLe, hEq⟩ | hSpends
      · refine .inl ⟨.error e, m, hLe, ?_, hEq⟩
        rintro _ ⟨⟩
      · exact .inr ⟨rfl, hSpends⟩

/- What the operation of a call leaves. -/
theorem operated_operation
    {call : Call}
    {operation : Handler Response}
    (hOperation : call.operation = .ok operation)
    (hTidy : Tidy first w)
    (hDay : InDay first env)
    (hNow : w.now ≤ (env n).cleanupNow)
    (hFew : FewSpenders w) :
    Operated first env call.userId call.tool w
      (operation.alone exec env n w) := by
  rcases alone_operation env hOperation n with
    ⟨r, m, hLe, hIsFor, hEq⟩ | ⟨hTool, totalCents, m, hLe, hEq⟩
  · rw [hEq]
    exact operated_same hTidy
      (hNow.trans (hDay.cleanupNow_mono hLe)) hIsFor
  · rw [hEq, hTool]
    exact (operated_spend _ hTidy hDay
      (hNow.trans (hDay.cleanupNow_mono hLe)) hFew
      totalCents).1

--------
-- Two Runs of an Operation
--------

/- Two worlds with the same limits and amounts of a user. -/
structure SameLimit
    (userId : String)
    (w v : World) : Prop where
  amount : w.limit.maxAmountCents = v.limit.maxAmountCents
  per24h : w.limit.maxPer24hCents = v.limit.maxPer24hCents
  entries : w.limit.entries userId = v.limit.entries userId

variable {env : ℕ → Answer} {first : ℤ} {w v : World}
variable {userId : String}

theorem SameLimit.congr
    {w' v' : World}
    (hSame : SameLimit userId w v)
    (hLimit : w'.limit = w.limit)
    (hLimit' : v'.limit = v.limit) :
    SameLimit userId w' v' := by
  refine ⟨?_, ?_, ?_⟩
  · rw [hLimit, hLimit', hSame.amount]
  · rw [hLimit, hLimit', hSame.per24h]
  · rw [hLimit, hLimit', hSame.entries]

theorem SameLimit.verdict_eq
    (hSame : SameLimit userId w v)
    (totalCents : ℕ) :
    w.limit.verdict (w.limit.entries userId) totalCents =
      v.limit.verdict (v.limit.entries userId)
        totalCents := by
  rw [SpendLimit.verdict, SpendLimit.verdict, hSame.amount,
    hSame.per24h, hSame.entries]

theorem same_spend
    (hSame : SameLimit userId w v)
    (hTidy : Tidy first w)
    (hTidy' : Tidy first v)
    (hDay : InDay first env)
    {n : ℕ}
    (hNow : w.now ≤ (env n).cleanupNow)
    (hNow' : v.now ≤ (env n).cleanupNow)
    (hFew : FewSpenders w)
    (hFew' : FewSpenders v)
    (totalCents : ℕ) :
    let out := (spend userId totalCents).alone exec env n w
    let out' := (spend userId totalCents).alone exec env n v
    out.1 = out'.1 ∧ out.2.1 = out'.2.1 ∧
      SameLimit userId out.2.2 out'.2.2 := by
  rcases operated_spend userId hTidy hDay hNow
    hFew totalCents with ⟨hLeft, hOut⟩
  rcases operated_spend userId hTidy' hDay hNow'
    hFew' totalCents with ⟨hRight, hOut'⟩
  have hAmount := hLeft.amount.trans
    (hSame.amount.trans hRight.amount.symm)
  have hPer24h := hLeft.per24h.trans
    (hSame.per24h.trans hRight.per24h.symm)
  rw [← hSame.verdict_eq totalCents] at hOut'
  cases hVerdict : w.limit.verdict (w.limit.entries userId)
      totalCents with
  | error e =>
    rw [hVerdict] at hOut hOut'
    rcases hOut with ⟨hResult, hNext, hEntries⟩
    rcases hOut' with ⟨hResult', hNext', hEntries'⟩
    exact ⟨hResult.trans hResult'.symm,
      hNext.trans hNext'.symm, hAmount, hPer24h,
      hEntries.trans (hSame.entries.trans hEntries'.symm)⟩
  | ok u =>
    rw [hVerdict] at hOut hOut'
    rcases hOut with ⟨hResult, hNext, hEntries⟩
    rcases hOut' with ⟨hResult', hNext', hEntries'⟩
    refine ⟨hResult.trans hResult'.symm,
      hNext.trans hNext'.symm, hAmount, hPer24h, ?_⟩
    rw [hEntries, hEntries', hSame.entries]

/- The operation of a call goes the same way in both. -/
theorem same_operation
    {call : Call}
    {operation : Handler Response}
    (hOperation : call.operation = .ok operation)
    (hSame : SameLimit call.userId w v)
    (hTidy : Tidy first w)
    (hTidy' : Tidy first v)
    (hDay : InDay first env)
    {n : ℕ}
    (hNow : w.now ≤ (env n).cleanupNow)
    (hNow' : v.now ≤ (env n).cleanupNow)
    (hFew : FewSpenders w)
    (hFew' : FewSpenders v) :
    let out := operation.alone exec env n w
    let out' := operation.alone exec env n v
    out.1 = out'.1 ∧ out.2.1 = out'.2.1 ∧
      SameLimit call.userId out.2.2 out'.2.2 := by
  rcases alone_operation env hOperation n with
    ⟨r, m, _, _, hEq⟩ | ⟨_, totalCents, m, hLe, hEq⟩
  · rw [hEq, hEq]
    exact ⟨rfl, rfl, hSame⟩
  · rw [hEq, hEq]
    have hMono := hDay.cleanupNow_mono hLe
    exact same_spend hSame hTidy hTidy' hDay
      (hNow.trans hMono) (hNow'.trans hMono) hFew hFew'
      totalCents

--------
-- One Request
--------

variable {env : ℕ → Answer} {first : ℤ} {w : World}
variable {a : Answer}

theorem Call.body_eq (call : Call) :
    call.body =
      match call.operation with
      | .error e => Handler.fail e
      | .ok operation =>
        onceForKey (idempotencyKey call.params)
          operation := by
  cases hTool : call.tool with
  | addToCart =>
    rw [Call.body, Call.operation, hTool]
    dsimp only
    rw [addToCart]
    cases cartParams call.params with
    | error e => rfl
    | ok item => rfl
  | createCheckout =>
    rw [Call.body, Call.operation, hTool]
    dsimp only
    rw [createCheckout]
    cases checkoutParams call.params with
    | error e => rfl
    | ok items => rfl

/- An operation under a key that has a response. -/
theorem alone_cached
    {key : String}
    {r : Response}
    {operation : Handler Response}
    (hCached :
      (exec (.trackerCheck key) (env 0) w).1 = some r) :
    (onceForKey (some key) operation).alone exec env 0 w =
      (.ok r, 1,
        (exec (.trackerCheck key) (env 0) w).2) := by
  simp only [onceForKey, Prog.perform, Prog.bind,
    Prog.alone_call, hCached]
  rfl

/- An operation under a key that has none. -/
theorem alone_uncached
    {key : String}
    (operation : Handler Response)
    (hCached :
      (exec (.trackerCheck key) (env 0) w).1 = none) :
    (onceForKey (some key) operation).alone exec env 0 w =
      let out := operation.alone exec env 1
        (exec (.trackerCheck key) (env 0) w).2
      match out.1 with
      | .error e => (.error e, out.2.1, out.2.2)
      | .ok r =>
        (.ok r, out.2.1 + 1,
          (exec (.trackerMark key r) (env out.2.1)
            out.2.2).2) := by
  simp only [onceForKey, Prog.perform, Prog.bind,
    Prog.alone_call, hCached, Handler.andThen,
    Prog.alone_bind]
  split
  · rename_i hResult
    simp only [hResult]
    rfl
  · rename_i hResult
    simp only [hResult]
    rfl

/- A lookup in a world where nothing has expired. -/
theorem Tidy.trackerCheck
    (hTidy : Tidy first w)
    (hReady : Ready first w a)
    (key : String) :
    let out := exec (.trackerCheck key) a w
    out.1 = (w.tracker.cache.get key).map Prod.fst ∧
      Tidy first out.2 ∧ out.2.now = a.now ∧
      out.2.tracker.cache = w.tracker.cache ∧
      out.2.limit = w.limit ∧ out.2.spent = w.spent := by
  rcases hTidy.check_tracker hReady key with
    ⟨hFound, hCache⟩
  have hBegun := hTidy.begun
  have hCleanup := hReady.cleanup
  have hLater := hReady.later
  simp only [exec, hReady.reading_cleanup, hReady.max_eq]
  refine ⟨hFound, ?_, trivial, hCache, trivial, trivial⟩
  refine ⟨by simp only; omega, ?_, hTidy.users,
    hTidy.spends⟩
  simp only [hCache]
  exact hTidy.cached

/- A response that is noted pushes out none of few others. -/
theorem Tidy.trackerMark
    (hTidy : Tidy first w)
    (hLater : w.now ≤ a.now)
    (hFew : w.tracker.cache.rows.length < maxEntries)
    (key : String)
    (r : Response) :
    let out := exec (.trackerMark key r) a w
    Tidy first out.2 ∧ out.2.now = a.now ∧
      out.2.tracker.cache =
        w.tracker.cache.upsert key (r, a.now) ∧
      out.2.limit = w.limit := by
  have hReading : w.reading a.now = a.now :=
    Int.max_eq_right hLater
  have hBegun := hTidy.begun
  have hCache : (w.tracker.mark key r a.now a.order).cache =
      w.tracker.cache.upsert key (r, a.now) := by
    rw [IdempotencyTracker.mark]
    dsimp only
    rw [if_neg (by omega)]
  simp only [exec, hReading]
  refine ⟨?_, trivial, hCache, trivial⟩
  refine ⟨by simp only; omega, ?_, hTidy.users,
    hTidy.spends⟩
  simp only [hCache]
  intro row hMem
  rcases Table.mem_upsert hMem with rfl | hMem
  · dsimp only
    omega
  · exact hTidy.cached row hMem

--------
-- What a Request Leaves
--------

variable {first : ℤ} {w : World}

/- What a request of a day does to the tidy world it finds. -/
structure Request.Handled
    (first : ℤ)
    (x : Request)
    (w : World) : Prop where
  tidy : Tidy first (x.step w)
  clock : (x.step w).now ≤ x.done
  amount :
    (x.step w).limit.maxAmountCents = w.limit.maxAmountCents
  per24h :
    (x.step w).limit.maxPer24hCents = w.limit.maxPer24hCents
  others : ∀ user, user ≠ x.call.userId →
    (x.step w).limit.entries user = w.limit.entries user
  kept : ∀ key entry,
    w.tracker.cache.get key = some entry →
      (x.step w).tracker.cache.get key = some entry
  own : ∀ r, x.reply w = .ok r → r.IsFor x.call
  fresh : ∀ key entry,
    (x.step w).tracker.cache.get key = some entry →
      w.tracker.cache.get key = some entry ∨
        idempotencyKey x.call.params = some key ∧
          x.reply w = .ok entry.1
  stored : ∀ key r,
    idempotencyKey x.call.params = some key →
      x.reply w = .ok r →
        ∃ t, (x.step w).tracker.cache.get key = some (r, t)
  again : x.call.Accepted → ∀ key entry,
    idempotencyKey x.call.params = some key →
      w.tracker.cache.get key = some entry →
        x.reply w = .ok entry.1 ∧
          (x.step w).limit = w.limit ∧
          (x.step w).spent = w.spent

namespace Request

variable {x : Request}

theorem inDay
    (hDay : x.done < first + 24 * 60 * 60) :
    InDay first x.env := by
  intro n
  rcases x.clock n with ⟨hCleanup, hNext, hDone⟩
  exact ⟨hCleanup, hNext, by omega⟩

/- A request that leaves the world as it is. -/
theorem handled_error
    (hTidy : Tidy first w)
    (hBegins : w.now ≤ x.begins)
    {e : McpError}
    {m : ℕ}
    (hRefused : ¬ x.call.Accepted)
    (hAlone :
      x.call.body.alone exec x.env 0 w = (.error e, m, w)) :
    x.Handled first w := by
  have hStep : x.step w = w := by rw [step, hAlone]
  have hReply : x.reply w = .error e := by rw [reply, hAlone]
  have hClock : w.now ≤ x.done := by
    have hFirst := x.clock 0
    rw [begins] at hBegins
    omega
  constructor
  case tidy => rwa [hStep]
  case clock => rwa [hStep]
  case amount => rw [hStep]
  case per24h => rw [hStep]
  case others => exact fun user _ => by rw [hStep]
  case kept => exact fun key entry hGet => by rwa [hStep]
  case own =>
    intro r hOk
    rw [hReply] at hOk
    cases hOk
  case fresh =>
    intro key entry hGet
    rw [hStep] at hGet
    exact .inl hGet
  case stored =>
    intro key r _ hOk
    rw [hReply] at hOk
    cases hOk
  case again => exact fun hAccepted => absurd hAccepted hRefused

variable {operation : Handler Response}

/- A request without a key. -/
theorem handled_unkeyed
    (hOperation : x.call.operation = .ok operation)
    (hKey : idempotencyKey x.call.params = none)
    (hTidy : Tidy first w)
    (hBegins : w.now ≤ x.begins)
    (hDay : x.done < first + 24 * 60 * 60)
    (hFew : FewSpenders w) :
    x.Handled first w := by
  have hAlone : x.call.body.alone exec x.env 0 w =
      operation.alone exec x.env 0 w := by
    rw [Call.body_eq, hOperation, hKey]
    rfl
  have hOut := operated_operation hOperation hTidy
    (inDay hDay) hBegins hFew
  rw [← hAlone] at hOut
  have hClock : (x.step w).now ≤ x.done := by
    have hLast := x.clock (x.call.body.alone exec x.env 0 w).2.1
    exact hOut.clock.trans (hLast.1.trans hLast.2.2)
  have hTracker : (x.step w).tracker = w.tracker :=
    hOut.tracker
  constructor
  case tidy => exact hOut.tidy
  case clock => exact hClock
  case amount => exact hOut.amount
  case per24h => exact hOut.per24h
  case others => exact hOut.others
  case kept => exact fun key entry hGet => by rwa [hTracker]
  case own => exact hOut.response
  case fresh =>
    intro key entry hGet
    rw [hTracker] at hGet
    exact .inl hGet
  case stored =>
    intro key r hSome
    rw [hKey] at hSome
    cases hSome
  case again =>
    intro _ key entry hSome
    rw [hKey] at hSome
    cases hSome

/- A request whose key has a response. -/
theorem handled_cached
    (hOperation : x.call.operation = .ok operation)
    {key : String}
    {entry : Response × ℤ}
    (hKey : idempotencyKey x.call.params = some key)
    (hGet : w.tracker.cache.get key = some entry)
    (hIsFor : entry.1.IsFor x.call)
    (hTidy : Tidy first w)
    (hBegins : w.now ≤ x.begins)
    (hDay : x.done < first + 24 * 60 * 60) :
    x.Handled first w := by
  rcases hTidy.trackerCheck ((inDay hDay).ready hBegins) key
    with ⟨hFound, hTidy', hNow, hCache, hLimit, hSpent⟩
  rw [hGet, Option.map_some] at hFound
  have hAlone : x.call.body.alone exec x.env 0 w =
      (.ok entry.1, 1,
        (exec (.trackerCheck key) (x.env 0) w).2) := by
    rw [Call.body_eq, hOperation, hKey]
    exact alone_cached hFound
  have hReply : x.reply w = .ok entry.1 := by
    rw [reply, hAlone]
  have hStep : x.step w =
      (exec (.trackerCheck key) (x.env 0) w).2 := by
    rw [step, hAlone]
  rw [← hStep] at hTidy' hNow hCache hLimit hSpent
  constructor
  case tidy => exact hTidy'
  case clock =>
    rw [hNow]
    exact (x.clock 0).2.2
  case amount => rw [hLimit]
  case per24h => rw [hLimit]
  case others => exact fun user _ => by rw [hLimit]
  case kept => exact fun other old hOld => by rwa [hCache]
  case own =>
    intro r hOk
    rw [hReply] at hOk
    cases hOk
    exact hIsFor
  case fresh =>
    intro other old hOld
    rw [hCache] at hOld
    exact .inl hOld
  case stored =>
    intro other r hOther hOk
    rw [hKey] at hOther
    cases hOther
    rw [hReply] at hOk
    cases hOk
    exact ⟨entry.2, by rw [hCache, hGet]⟩
  case again =>
    intro _ other old hOther hOld
    rw [hKey] at hOther
    cases hOther
    rw [hGet] at hOld
    cases hOld
    exact ⟨hReply, hLimit, hSpent⟩

/- A request whose key has no response. -/
theorem handled_uncached
    (hOperation : x.call.operation = .ok operation)
    {key : String}
    (hKey : idempotencyKey x.call.params = some key)
    (hGet : w.tracker.cache.get key = none)
    (hTidy : Tidy first w)
    (hBegins : w.now ≤ x.begins)
    (hDay : x.done < first + 24 * 60 * 60)
    (hKeys : FewKeys w x)
    (hFew : FewSpenders w) :
    x.Handled first w := by
  have hInDay : InDay first x.env := inDay hDay
  rcases hTidy.trackerCheck (hInDay.ready hBegins) key with
    ⟨hFound, hTidy₁, hNow₁, hCache₁, hLimit₁, _⟩
  rw [hGet, Option.map_none] at hFound
  have hAlone := alone_uncached operation hFound
  generalize exec (.trackerCheck key) (x.env 0) w = checked
    at *
  have hNext : checked.2.now ≤ (x.env 1).cleanupNow := by
    rw [hNow₁]
    exact (hInDay 0).2.1
  have hFew₁ : FewSpenders checked.2 := by
    rwa [FewSpenders, hLimit₁]
  have hOut := operated_operation hOperation hTidy₁ hInDay
    hNext hFew₁
  have hBody : x.call.body =
      onceForKey (some key) operation := by
    rw [Call.body_eq, hOperation, hKey]
  rw [← hBody] at hAlone
  generalize operation.alone exec x.env 1 checked.2 = out
    at hAlone hOut
  dsimp only at hAlone
  have hAmount := hOut.amount
  have hPer24h := hOut.per24h
  have hOthers := hOut.others
  have hTracker : out.2.2.tracker.cache = w.tracker.cache := by
    rw [hOut.tracker, hCache₁]
  rw [hLimit₁] at hAmount hPer24h hOthers
  cases hResult : out.1 with
  | error e =>
    rw [hResult] at hAlone
    have hReply : x.reply w = .error e := by
      rw [reply, hAlone]
    have hStep : x.step w = out.2.2 := by rw [step, hAlone]
    constructor
    case tidy => rw [hStep]; exact hOut.tidy
    case clock =>
      rw [hStep]
      have hLast := x.clock out.2.1
      exact hOut.clock.trans (hLast.1.trans hLast.2.2)
    case amount => rwa [hStep]
    case per24h => rwa [hStep]
    case others => rwa [hStep]
    case kept => exact fun _ _ hOld => by rwa [hStep, hTracker]
    case own =>
      intro r hOk
      rw [hReply] at hOk
      cases hOk
    case fresh =>
      intro other old hOld
      rw [hStep, hTracker] at hOld
      exact .inl hOld
    case stored =>
      intro other r _ hOk
      rw [hReply] at hOk
      cases hOk
    case again =>
      intro _ other old hOther hOld
      rw [hKey] at hOther
      cases hOther
      rw [hGet] at hOld
      cases hOld
  | ok r =>
    rw [hResult] at hAlone
    have hLast := hInDay out.2.1
    have hKeys' : out.2.2.tracker.cache.rows.length <
        maxEntries := by
      rwa [hTracker]
    rcases hOut.tidy.trackerMark
      (hOut.clock.trans hLast.1) hKeys' key r with
      ⟨hTidy', hNow', hCache', hLimit'⟩
    have hReply : x.reply w = .ok r := by
      rw [reply, hAlone]
    have hStep : x.step w =
        (exec (.trackerMark key r) (x.env out.2.1)
          out.2.2).2 := by
      rw [step, hAlone]
    rw [← hStep, hTracker] at hCache'
    rw [← hStep] at hTidy' hNow' hLimit'
    constructor
    case tidy => exact hTidy'
    case clock =>
      rw [hNow']
      exact (x.clock out.2.1).2.2
    case amount => rwa [hLimit']
    case per24h => rwa [hLimit']
    case others => rwa [hLimit']
    case kept =>
      intro other old hOld
      rw [hCache', Table.get_upsert, if_neg]
      · exact hOld
      · rintro rfl
        rw [hGet] at hOld
        cases hOld
    case own =>
      intro res hOk
      rw [hReply] at hOk
      cases hOk
      exact hOut.response r hResult
    case fresh =>
      intro other old hOld
      rw [hCache', Table.get_upsert] at hOld
      split at hOld
      · rename_i hOther
        cases hOld
        exact .inr ⟨hOther ▸ hKey, hReply⟩
      · exact .inl hOld
    case stored =>
      intro other res hOther hOk
      rw [hKey] at hOther
      cases hOther
      rw [hReply] at hOk
      cases hOk
      exact ⟨_, by rw [hCache', Table.get_upsert, if_pos rfl]⟩
    case again =>
      intro _ other old hOther hOld
      rw [hKey] at hOther
      cases hOther
      rw [hGet] at hOld
      cases hOld

/- Every request that finds the world tidy. -/
theorem handled
    (hTidy : Tidy first w)
    (hBegins : w.now ≤ x.begins)
    (hDay : x.done < first + 24 * 60 * 60)
    (hKeys : FewKeys w x)
    (hSeparate : Separate w x) :
    x.Handled first w := by
  cases hOperation : x.call.operation with
  | error e =>
    have hAlone : x.call.body.alone exec x.env 0 w =
        (.error e, 0, w) := by
      rw [Call.body_eq, hOperation]
      rfl
    apply handled_error hTidy hBegins _ hAlone
    rintro ⟨operation, hOk⟩
    rw [hOperation] at hOk
    cases hOk
  | ok operation =>
    cases hKey : idempotencyKey x.call.params with
    | none =>
      exact handled_unkeyed hOperation hKey hTidy hBegins
        hDay hSeparate.spenders
    | some key =>
      cases hGet : w.tracker.cache.get key with
      | none =>
        exact handled_uncached hOperation hKey hGet
          hTidy hBegins hDay hKeys hSeparate.spenders
      | some entry =>
        have hIsFor := hSeparate.own
          ⟨operation, hOperation⟩ key entry hKey hGet
        exact handled_cached hOperation hKey hGet hIsFor
          hTidy hBegins hDay

end Request

--------
-- Two Runs of a Request
--------

variable {first : ℤ} {w v : World}

/- Two worlds that a user cannot tell apart. -/
structure Alike
    (userId : String)
    (w v : World) : Prop extends SameLimit userId w v where
  cached : ∀ key r, r.userId = userId →
    ((∃ t, w.tracker.cache.get key = some (r, t)) ↔
      ∃ t, v.tracker.cache.get key = some (r, t))

theorem Alike.symm
    {userId : String}
    (hAlike : Alike userId w v) :
    Alike userId v w where
  amount := hAlike.amount.symm
  per24h := hAlike.per24h.symm
  entries := hAlike.entries.symm
  cached key r hUser := (hAlike.cached key r hUser).symm

/- A response of the user is kept in both worlds or none. -/
theorem Alike.get_eq_none
    {x : Request}
    (hAlike : Alike x.call.userId w v)
    (hAccepted : x.call.Accepted)
    (hSeparate : Separate v x)
    {key : String}
    (hKey : idempotencyKey x.call.params = some key)
    (hGet : w.tracker.cache.get key = none) :
    v.tracker.cache.get key = none := by
  cases hGet' : v.tracker.cache.get key with
  | none => rfl
  | some entry =>
    have hUser :=
      (hSeparate.own hAccepted key entry hKey hGet').1
    rcases (hAlike.cached key entry.1 hUser).mpr
      ⟨entry.2, hGet'⟩ with ⟨t, hSome⟩
    rw [hGet] at hSome
    cases hSome

namespace Request

variable {x : Request}

/- A request whose key has no response is its operation. -/
theorem uncached_eq
    {operation : Handler Response}
    (hOperation : x.call.operation = .ok operation)
    {key : String}
    (hKey : idempotencyKey x.call.params = some key)
    (hFound :
      (exec (.trackerCheck key) (x.env 0) w).1 = none) :
    let out := operation.alone exec x.env 1
      (exec (.trackerCheck key) (x.env 0) w).2
    x.reply w = out.1 ∧ (x.step w).limit = out.2.2.limit := by
  have hAlone := alone_uncached operation hFound
  have hBody : x.call.body =
      onceForKey (some key) operation := by
    rw [Call.body_eq, hOperation, hKey]
  rw [← hBody] at hAlone
  rw [reply, step, hAlone]
  dsimp only
  split
  · rename_i hResult
    exact ⟨hResult.symm, rfl⟩
  · rename_i hResult
    exact ⟨hResult.symm, rfl⟩

/- What the user of a request gets in either world. -/
theorem same
    (hAlike : Alike x.call.userId w v)
    (hTidy : Tidy first w)
    (hTidy' : Tidy first v)
    (hBegins : w.now ≤ x.begins)
    (hBegins' : v.now ≤ x.begins)
    (hDay : x.done < first + 24 * 60 * 60)
    (hHandled : x.Handled first w)
    (hHandled' : x.Handled first v)
    (hSeparate : Separate w x)
    (hSeparate' : Separate v x) :
    x.reply w = x.reply v ∧
      SameLimit x.call.userId (x.step w) (x.step v) := by
  have hInDay : InDay first x.env := inDay hDay
  have hSame := hAlike.toSameLimit
  cases hOperation : x.call.operation with
  | error e =>
    have hAlone : ∀ u : World,
        x.call.body.alone exec x.env 0 u =
          (.error e, 0, u) := by
      intro u
      rw [Call.body_eq, hOperation]
      rfl
    rw [reply, reply, step, step, hAlone, hAlone]
    exact ⟨rfl, hSame⟩
  | ok operation =>
  have hAccepted : x.call.Accepted := ⟨operation, hOperation⟩
  cases hKey : idempotencyKey x.call.params with
  | none =>
    have hAlone : ∀ u : World,
        x.call.body.alone exec x.env 0 u =
          operation.alone exec x.env 0 u := by
      intro u
      rw [Call.body_eq, hOperation, hKey]
      rfl
    rcases same_operation hOperation hSame hTidy hTidy'
      hInDay hBegins hBegins' hSeparate.spenders
      hSeparate'.spenders with ⟨hReply, _, hLimit⟩
    rw [reply, reply, step, step, hAlone, hAlone]
    exact ⟨hReply, hLimit⟩
  | some key =>
  cases hGet : w.tracker.cache.get key with
  | some entry =>
    have hUser :=
      (hSeparate.own hAccepted key entry hKey hGet).1
    rcases (hAlike.cached key entry.1 hUser).mp
      ⟨entry.2, hGet⟩ with ⟨t, hGet'⟩
    rcases hHandled.again hAccepted key entry hKey hGet with
      ⟨hReply, hLimit, _⟩
    rcases hHandled'.again hAccepted key _ hKey hGet' with
      ⟨hReply', hLimit', _⟩
    exact ⟨hReply.trans hReply'.symm,
      hSame.congr hLimit hLimit'⟩
  | none =>
    have hGet' := hAlike.get_eq_none hAccepted hSeparate'
      hKey hGet
    rcases hTidy.trackerCheck (hInDay.ready hBegins) key with
      ⟨hFound, hTidy₁, hNow₁, _, hLimit₁, _⟩
    rcases hTidy'.trackerCheck (hInDay.ready hBegins') key
      with ⟨hFound', hTidy₁', hNow₁', _, hLimit₁', _⟩
    rw [hGet] at hFound
    rw [hGet'] at hFound'
    rcases uncached_eq hOperation hKey hFound with
      ⟨hReply, hLimit⟩
    rcases uncached_eq hOperation hKey hFound' with
      ⟨hReply', hLimit'⟩
    generalize exec (.trackerCheck key) (x.env 0) w = checked
      at *
    generalize exec (.trackerCheck key) (x.env 0) v =
      checked' at *
    have hNext : (x.env 0).now ≤ (x.env 1).cleanupNow :=
      (hInDay 0).2.1
    have hSame₁ :
        SameLimit x.call.userId checked.2 checked'.2 :=
      hSame.congr hLimit₁ hLimit₁'
    have hFew : FewSpenders checked.2 := by
      rw [FewSpenders, hLimit₁]
      exact hSeparate.spenders
    have hFew' : FewSpenders checked'.2 := by
      rw [FewSpenders, hLimit₁']
      exact hSeparate'.spenders
    rcases same_operation hOperation hSame₁ hTidy₁ hTidy₁'
      hInDay (by rwa [hNow₁]) (by rwa [hNow₁']) hFew hFew'
      with ⟨hResult, _, hLast⟩
    exact ⟨hReply.trans (hResult.trans hReply'.symm),
      hLast.congr hLimit hLimit'⟩

end Request

--------
-- Many Requests
--------

variable {first : ℤ} {w v : World} {x y : Request}
variable {xs ys : List Request}

/- A world that is ready for the requests of a day. -/
structure Expecting
    (first : ℤ)
    (w : World)
    (xs : List Request) : Prop where
  tidy : Tidy first w
  begins : ∀ x ∈ xs, w.now ≤ x.begins
  day : InOneDay first xs
  keys : Throughout w FewKeys xs
  separate : Throughout w Separate xs

theorem Expecting.handled
    (hExpecting : Expecting first w (x :: xs)) :
    x.Handled first w := by
  have hMem : x ∈ x :: xs := List.mem_cons_self
  exact Request.handled hExpecting.tidy
    (hExpecting.begins x hMem) (hExpecting.day.day x hMem).2
    (History.throughout_cons_iff.mp hExpecting.keys).1
    (History.throughout_cons_iff.mp hExpecting.separate).1

theorem Expecting.tail
    (hExpecting : Expecting first w (x :: xs)) :
    Expecting first (x.step w) xs := by
  have hHandled := hExpecting.handled
  rcases List.pairwise_cons.mp hExpecting.day.ordered with
    ⟨hNext, hRest⟩
  refine ⟨hHandled.tidy, ?_, ⟨hRest, ?_⟩,
    (History.throughout_cons_iff.mp hExpecting.keys).2,
    (History.throughout_cons_iff.mp hExpecting.separate).2⟩
  · intro y hMem
    exact hHandled.clock.trans (hNext y hMem)
  · intro y hMem
    exact hExpecting.day.day y (List.mem_cons_of_mem x hMem)

/- The requests that come after some others. -/
theorem Expecting.after
    {past later : List Request}
    (hExpecting : Expecting first w (past ++ later)) :
    Expecting first (served w past) later := by
  induction past generalizing w with
  | nil => exact hExpecting
  | cons x rest ih => exact ih hExpecting.tail

/- A response that is kept stays with its key. -/
theorem Expecting.kept
    {past later : List Request}
    (hExpecting : Expecting first w (past ++ later))
    {key : String}
    {entry : Response × ℤ}
    (hGet : w.tracker.cache.get key = some entry) :
    (served w past).tracker.cache.get key = some entry := by
  induction past generalizing w with
  | nil => exact hGet
  | cons x rest ih =>
    exact ih hExpecting.tail
      (hExpecting.handled.kept key entry hGet)

/- Each user gets what is computed for the user. -/
theorem Expecting.perCaller
    (hExpecting : Expecting first w xs) :
    PerCaller w xs where
  own := by
    intro past x hPast
    rcases hPast with ⟨rest, rfl⟩
    rw [List.append_assoc] at hExpecting
    exact hExpecting.after.handled.own
  again := by
    intro past x between y hPast hUser hTool key hKey hKey' r
      hReply hAccepted
    rcases hPast with ⟨rest, rfl⟩
    simp only [List.append_assoc, List.cons_append,
      List.nil_append] at hExpecting
    have hFirst := hExpecting.after
    rcases hFirst.handled.stored key r hKey hReply with
      ⟨t, hGet⟩
    have hKept := hFirst.tail.kept hGet
    have hSecond := hFirst.tail.after.handled
    have hServed : served w (past ++ x :: between) =
        served (x.step (served w past)) between := by
      rw [served, History.after_append, History.after_cons]
    rcases hSecond.again hAccepted key (r, t) hKey' hKept with
      ⟨hAgain, _, hSpent⟩
    have hLast :
        served w (past ++ x :: between ++ [y]) =
          y.step (served w (past ++ x :: between)) := by
      rw [served, History.after_append, History.after_cons,
        History.after_nil]
    rw [hLast, hServed]
    exact ⟨hAgain, hSpent⟩

/- A request of another user, in one of two worlds. -/
theorem Alike.other
    {userId : String}
    (hAlike : Alike userId w v)
    (hOther : x.call.userId ≠ userId)
    (hHandled : x.Handled first w) :
    Alike userId (x.step w) v where
  amount := hHandled.amount.trans hAlike.amount
  per24h := hHandled.per24h.trans hAlike.per24h
  entries :=
    (hHandled.others userId hOther.symm).trans hAlike.entries
  cached := by
    intro key r hUser
    rw [← hAlike.cached key r hUser]
    constructor
    · rintro ⟨t, hGet⟩
      rcases hHandled.fresh key _ hGet with
        hOld | ⟨_, hReply⟩
      · exact ⟨t, hOld⟩
      · have hIsFor := hHandled.own _ hReply
        exact absurd (hIsFor.1.symm.trans hUser) hOther
    · rintro ⟨t, hGet⟩
      exact ⟨t, hHandled.kept key _ hGet⟩

/- The responses that a request leaves in either world. -/
theorem Request.Handled.cached_of_same
    (hHandled : x.Handled first w)
    (hHandled' : x.Handled first v)
    (hAlike : Alike x.call.userId w v)
    (hReply : x.reply w = x.reply v)
    {key : String}
    {r : Response}
    (hUser : r.userId = x.call.userId)
    (hGet : ∃ t,
      (x.step w).tracker.cache.get key = some (r, t)) :
    ∃ t, (x.step v).tracker.cache.get key = some (r, t) := by
  rcases hGet with ⟨t, hGet⟩
  rcases hHandled.fresh key _ hGet with hOld | ⟨hKey, hOk⟩
  · rcases (hAlike.cached key r hUser).mp ⟨t, hOld⟩ with
      ⟨t', hOld'⟩
    exact ⟨t', hHandled'.kept key _ hOld'⟩
  · exact hHandled'.stored key r hKey (hReply ▸ hOk)

/- A request of the user itself, in both worlds. -/
theorem Alike.own
    (hAlike : Alike x.call.userId w v)
    (hExpecting : Expecting first w (x :: xs))
    (hExpecting' : Expecting first v (x :: ys)) :
    x.reply w = x.reply v ∧
      Alike x.call.userId (x.step w) (x.step v) := by
  have hHandled := hExpecting.handled
  have hHandled' := hExpecting'.handled
  have hMem : x ∈ x :: xs := List.mem_cons_self
  rcases Request.same hAlike hExpecting.tidy hExpecting'.tidy
    (hExpecting.begins x hMem)
    (hExpecting'.begins x List.mem_cons_self)
    (hExpecting.day.day x hMem).2 hHandled hHandled'
    (History.throughout_cons_iff.mp hExpecting.separate).1
    (History.throughout_cons_iff.mp hExpecting'.separate).1
    with
    ⟨hReply, hSame⟩
  refine ⟨hReply, hSame, ?_⟩
  intro key r hUser
  constructor
  · exact hHandled.cached_of_same hHandled' hAlike hReply
      hUser
  · exact hHandled'.cached_of_same hHandled hAlike.symm
      hReply.symm hUser

/- Two runs that are the same for a user look the same. -/
theorem repliesTo_eq
    {userId : String}
    (hSame : SameFor userId xs ys)
    (hAlike : Alike userId w v)
    (hExpecting : Expecting first w xs)
    (hExpecting' : Expecting first v ys) :
    repliesTo userId w xs = repliesTo userId v ys := by
  induction hSame generalizing w v with
  | nil => rfl
  | @cons x y xs ys hHead _ ih =>
    rw [repliesTo, repliesTo, History.observed,
      History.observed]
    by_cases hOurs :
        x.call.userId = userId ∨ y.call.userId = userId
    · cases hHead hOurs
      have hUser : x.call.userId = userId :=
        hOurs.elim id id
      rw [← hUser] at hAlike
      rcases hAlike.own hExpecting hExpecting' with
        ⟨hReply, hNext⟩
      rw [hUser] at hNext
      rw [if_pos hUser, if_pos hUser, hReply]
      congr 1
      exact ih hNext hExpecting.tail hExpecting'.tail
    · rcases not_or.mp hOurs with ⟨hUser, hUser'⟩
      rw [if_neg hUser, if_neg hUser']
      congr 1
      have hNext := hAlike.other hUser hExpecting.handled
      have hBoth :=
        hNext.symm.other hUser' hExpecting'.handled
      exact ih hBoth.symm hExpecting.tail hExpecting'.tail

--------
-- Per Caller and per Operation
--------

variable {first : ℤ} {maxAmountCents maxPer24hCents : ℕ}
variable {xs : List Request}

/- A server that has started is ready for a day. -/
theorem expecting_started
    (hDay : InOneDay first xs)
    (hKeys : Throughout
      (World.started first maxAmountCents maxPer24hCents)
      FewKeys xs)
    (hSeparate : Throughout
      (World.started first maxAmountCents maxPer24hCents)
      Separate xs) :
    Expecting first
      (World.started first maxAmountCents maxPer24hCents)
      xs where
  tidy := by
    refine ⟨Int.le_refl first, ?_, List.nodup_nil, ?_⟩
    · intro row hMem
      cases hMem
    · intro user e hMem
      cases hMem
  begins x hMem := (hDay.day x hMem).1
  day := hDay
  keys := hKeys
  separate := hSeparate

/-
  Where accepted calls find only responses of their own user
  and tool under their keys, the keys are per caller and per
  operation.
-/
theorem per_caller_and_operation
    (hDay : InOneDay first xs)
    (hKeys : Throughout
      (World.started first maxAmountCents maxPer24hCents)
      FewKeys xs)
    (hSeparate : Throughout
      (World.started first maxAmountCents maxPer24hCents)
      Separate xs) :
    PerCaller
      (World.started first maxAmountCents maxPer24hCents)
      xs ∧
    Independent first
      (World.started first maxAmountCents maxPer24hCents)
      xs := by
  have hExpecting := expecting_started hDay hKeys hSeparate
  refine ⟨hExpecting.perCaller, ?_⟩
  intro userId ys hSame hDay' hKeys' hSeparate'
  apply repliesTo_eq hSame _ hExpecting
    (expecting_started hDay' hKeys' hSeparate')
  exact ⟨⟨rfl, rfl, rfl⟩, fun _ _ _ => Iff.rfl⟩

/- A call at some time that all steps of it read. -/
def requestAt (call : Call) (time : ℤ) : Request where
  call := call
  env := fun _ =>
    { now := time
      cleanupNow := time
      document := .ok console
      uuid := "c1" }
  done := time
  clock := fun _ =>
    ⟨Int.le_refl time, Int.le_refl time, Int.le_refl time⟩

/- A checkout of a console under a key. -/
def checkoutUnder (userId key : String) : Call where
  userId := userId
  tool := .createCheckout
  params := .object [("items", .array [.object
          [("product_id", .string "products:p1"),
            ("quantity", .number { int := 1 })]]),
      ("shipping_address", .object []),
      ("idempotency_key", .string key)]

/- A user repeats a checkout after an hour. -/
theorem repeated_checkout_recorded_once :
    let start := World.started 1000 100000 100000
    let x := requestAt (checkoutUnder "users:u1" "k") 1000
    let y := requestAt (checkoutUnder "users:u1" "k") 4600
    PerCaller start [x, y] ∧ Independent 1000 start [x, y] ∧
      x.reply start =
        .ok (.checkout "c1" "users:u1" 60000 2800) := by
  intro start x y
  have hDay : InOneDay 1000 [x, y] := by
    refine ⟨?_, ?_⟩
    · simp [x, y, requestAt, Request.begins]
    · simp [x, y, requestAt, Request.begins]
  have hKeys : Throughout start FewKeys [x, y] := by
    simp only [Throughout, History.throughout_cons_iff]
    refine ⟨?_, ?_, History.throughout_nil⟩
    · unfold FewKeys
      decide
    · unfold FewKeys
      decide
  have hSeparate : Throughout start Separate [x, y] := by
    simp only [Throughout, History.throughout_cons_iff]
    refine ⟨⟨?_, ?_⟩, ⟨?_, ?_⟩, History.throughout_nil⟩
    · intro _ key entry _ hGet
      cases hGet
    · unfold FewSpenders
      decide
    · intro _ key entry hKey hGet
      have hFound : ((x.step start).tracker.cache.get "k") =
          some (.checkout "c1" "users:u1" 60000 2800, 1000) := by
        decide
      cases hKey
      rw [hFound] at hGet
      cases hGet
      exact ⟨rfl, rfl⟩
    · unfold FewSpenders
      decide
  rcases per_caller_and_operation hDay hKeys hSeparate with
    ⟨hPerCaller, hIndependent⟩
  exact ⟨hPerCaller, hIndependent, by decide⟩

/-
  A user checks out under a key that another user has given
  to the cart, and gets the response about that cart.
-/
theorem checkout_answered_with_other_cart :
    let start := World.started 1000 100000 100000
    let x := requestAt
      { userId := "users:u1"
        tool := .addToCart
        params := .object
          [("product_id", .string "products:p1"),
            ("quantity", .number { int := 1 }),
            ("idempotency_key", .string "k")] } 1000
    let y := requestAt (checkoutUnder "users:u2" "k") 1000
    InOneDay 1000 [x, y] ∧ Throughout start FewKeys [x, y] ∧
      y.reply (served start [x]) =
        .ok (.cart "users:u1" "products:p1" 1) ∧
      ¬ PerCaller start [x, y] := by
  intro start x y
  have hReply : y.reply (served start [x]) =
      .ok (.cart "users:u1" "products:p1" 1) := by
    decide
  refine ⟨⟨?_, ?_⟩, ?_, hReply, ?_⟩
  · simp [x, y, requestAt, Request.begins]
  · simp [x, y, requestAt, Request.begins]
  · simp only [Throughout, History.throughout_cons_iff]
    refine ⟨?_, ?_, History.throughout_nil⟩
    · unfold FewKeys
      decide
    · unfold FewKeys
      decide
  · intro hPerCaller
    have hOwn := hPerCaller.own [x] y ⟨[], rfl⟩ _ hReply
    revert hOwn
    unfold Response.IsFor
    decide

end Orignabase.Mcp
