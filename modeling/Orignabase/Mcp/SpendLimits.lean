import Orignabase.Lib.Windows
import Orignabase.Mcp.Tools

/-
  The amounts that a user checks out within a day.

  A checkout checks the limit and records its amount in two
  steps. Two checkouts that are checked before either is
  recorded can exceed the limit together, as can a user whose
  amounts a cleanup has evicted.

  Key definitions include:
    * `checkouts`
    * `Limited`
    * `Steady`

  Main results:
    * `kept_exec`
    * `checkouts_limited`
-/

--------
-- The Limit of a Day
--------

namespace Orignabase.Mcp

open Conc

abbrev Trace := List (Event Res Answer)

/- What a tool call has recorded for a user, and when. -/
def recordsOf (userId : String) : Trace → List Spend
  | [] => []
  | ⟨.spendRecord user amountCents, _, time⟩ :: rest =>
    (if user = userId then [⟨amountCents, time⟩] else []) ++
      recordsOf userId rest
  | ⟨.trackerCheck _, _, _⟩ :: rest
  | ⟨.trackerMark .., _, _⟩ :: rest
  | ⟨.spendCheck .., _, _⟩ :: rest
  | ⟨.getDocument _, _, _⟩ :: rest
  | ⟨.newUuid, _, _⟩ :: rest
  | ⟨.utcNow, _, _⟩ :: rest => recordsOf userId rest

/- The amounts of the calls that have succeeded. -/
def checkouts
    (userId : String)
    (c : Config Res Answer World (Except McpError Response)) :
    List Spend :=
  c.threads.flatMap fun t =>
    match t.prog with
    | .ret (.ok _) => recordsOf userId t.trace
    | _ => []

abbrev WithinDay
    (maxCents : ℕ)
    (entries : List Spend) : Prop :=
  Windows.Bounded Spend.time Spend.amountCents 86400 maxCents
    entries

/-
  No sum of a user's live amounts overflows, also with an
  amount that passes the limit of a request.
-/
def NoOverflow (w : World) : Prop :=
  ∀ userId t, w.now ≤ t →
    ((unexpired t (w.limit.entries userId)).map
        Spend.amountCents).sum + w.limit.maxAmountCents <
      2 ^ 64

/- No user exceeds the limit in a day, and no sum overflows. -/
structure Limited
    (maxPer24hCents : ℕ)
    (c : Config Res Answer World (Except McpError Response)) :
    Prop where
  day : ∀ userId,
    WithinDay maxPer24hCents (checkouts userId c)
  fits : NoOverflow c.world

/-
  A cleanup leaves no more users than are kept, and an amount
  still fits into the limit when it is recorded.
-/
def Steady : StepCond Res Answer World :=
  fun _ o a w =>
    match o with
    | .spendCheck _ amountCents =>
      amountCents ≤ w.limit.maxAmountCents →
        spendCleanupInterval ≤ w.limit.checkCount + 1 →
          (w.limit.liveUsers
              (w.reading a.cleanupNow)).rows.length ≤
            spendMaxUsers
    | .spendRecord userId amountCents =>
      ((unexpired (w.reading a.now)
          (w.limit.entries userId)).map
            Spend.amountCents).sum + amountCents ≤
        w.limit.maxPer24hCents
    | _ => True

--------
-- Entries of a User
--------

/- What has expired stays so. -/
theorem unexpired_unexpired
    {now t : ℤ}
    (hLater : now ≤ t)
    (entries : List Spend) :
    unexpired t (unexpired now entries) =
      unexpired t entries := by
  rw [unexpired, unexpired, List.filter_filter]
  apply List.filter_congr
  intro e _
  by_cases hLive : t - e.time < spendTtlSecs
  · have hBefore : now - e.time < spendTtlSecs := by omega
    simp [hLive, hBefore]
  · simp [hLive]

theorem unexpired_append
    (now : ℤ)
    (front back : List Spend) :
    unexpired now (front ++ back) =
      unexpired now front ++ unexpired now back :=
  List.filter_append front back

variable {order : List String}

namespace SpendLimit

variable (self : SpendLimit)

theorem entries_upsert
    {limit : SpendLimit}
    {userId : String}
    {entries : List Spend}
    (hSpend : limit.userSpend =
      self.userSpend.upsert userId entries)
    (user : String) :
    limit.entries user =
      if user = userId then entries else self.entries user := by
  rw [SpendLimit.entries, hSpend, Table.get_upsert]
  split
  · rfl
  · rfl

variable {now : ℤ}

/- The rows that a cleanup leaves. -/
theorem mem_liveUsers
    {row : String × List Spend} :
    row ∈ (self.liveUsers now).rows ↔
      ∃ old, (row.1, old) ∈ self.userSpend.rows ∧
        row.2 = unexpired now old ∧ row.2 ≠ [] := by
  rw [liveUsers, List.mem_filter, List.mem_map]
  constructor
  · rintro ⟨⟨⟨user, old⟩, hMem, rfl⟩, hLive⟩
    refine ⟨old, hMem, rfl, ?_⟩
    simpa using hLive
  · rintro ⟨old, hMem, hRow, hLive⟩
    refine ⟨⟨(row.1, old), hMem, ?_⟩, by simpa using hLive⟩
    rw [← hRow]

/- Only entries that have expired go with their users. -/
theorem get_liveUsers
    (hKeys : self.userSpend.keys.Nodup)
    (now : ℤ)
    (user : String) :
    ((self.liveUsers now).get user).getD [] =
      unexpired now (self.entries user) := by
  cases hGet : (self.liveUsers now).get user with
  | some entries =>
    rcases self.mem_liveUsers.mp (Table.mem_of_get hGet) with
      ⟨old, hMem, hRow, _⟩
    rw [SpendLimit.entries, Table.get_of_mem hKeys hMem]
    exact hRow
  | none =>
    rw [SpendLimit.entries]
    cases hOld : self.userSpend.get user with
    | none => rfl
    | some old =>
      by_contra hLive
      have hMem : (user, unexpired now old) ∈
          (self.liveUsers now).rows :=
        self.mem_liveUsers.mpr
          ⟨old, Table.mem_of_get hOld, rfl,
            fun hEmpty => hLive hEmpty.symm⟩
      have hSome := Table.isSome_get_of_mem hMem
      rw [hGet] at hSome
      cases hSome

theorem nodup_liveUsers
    (hKeys : self.userSpend.keys.Nodup)
    (now : ℤ) :
    (self.liveUsers now).keys.Nodup := by
  rw [Table.keys, liveUsers]
  apply (List.filter_sublist.map Prod.fst).nodup
  rw [List.map_map]
  exact hKeys

/- What a user is left with by a cleanup. -/
theorem entries_cleanup
    (hKeys : self.userSpend.keys.Nodup)
    (hAll : (self.liveUsers now).rows.length ≤ spendMaxUsers)
    (user : String) :
    (self.cleanup now order).entries user =
      unexpired now (self.entries user) := by
  rw [← self.get_liveUsers hKeys, SpendLimit.entries, cleanup,
    if_neg (Nat.not_lt.mpr hAll)]

theorem nodup_cleanup
    (hKeys : self.userSpend.keys.Nodup)
    (hAll : (self.liveUsers now).rows.length ≤ spendMaxUsers) :
    (self.cleanup now order).userSpend.keys.Nodup := by
  rw [cleanup, if_neg (Nat.not_lt.mpr hAll)]
  exact self.nodup_liveUsers hKeys now

end SpendLimit

--------
-- Checks of the Limit
--------

namespace SpendLimit

/- The entries after a check: pruned at most. -/
structure Prunes
    (old : SpendLimit)
    (now : ℤ)
    (limit : SpendLimit) : Prop where
  amount : limit.maxAmountCents = old.maxAmountCents
  per24h : limit.maxPer24hCents = old.maxPer24hCents
  users : limit.userSpend.keys.Nodup
  entries : ∀ user,
    limit.entries user = old.entries user ∨
      ∃ t ≤ now,
        limit.entries user = unexpired t (old.entries user)

variable {now : ℤ}

/- Looking at the entries of a user prunes them. -/
theorem Prunes.upsert
    {old limit : SpendLimit}
    (hPrunes : old.Prunes now limit)
    (userId : String) :
    old.Prunes now
      { limit with
        userSpend := limit.userSpend.upsert userId
          (unexpired now (limit.entries userId)) } := by
  refine ⟨hPrunes.amount, hPrunes.per24h,
    Table.nodup_upsert hPrunes.users _ _, ?_⟩
  intro user
  rw [limit.entries_upsert rfl]
  split
  · rename_i hUser
    subst hUser
    right
    refine ⟨now, Int.le_refl now, ?_⟩
    rcases hPrunes.entries user with hSame | ⟨t, hT, hPruned⟩
    · rw [hSame]
    · rw [hPruned, unexpired_unexpired hT]
  · exact hPrunes.entries user

theorem counted_prunes
    (self : SpendLimit)
    (hKeys : self.userSpend.keys.Nodup)
    {cleanupNow : ℤ}
    (hTimes : cleanupNow ≤ now)
    (hAll : spendCleanupInterval ≤ self.checkCount + 1 →
      (self.liveUsers cleanupNow).rows.length ≤
        spendMaxUsers) :
    self.Prunes now (self.counted cleanupNow order) := by
  rw [counted]
  split
  · rename_i hDue
    have hLive := hAll hDue
    refine ⟨rfl, rfl, nodup_cleanup _ hKeys hLive, ?_⟩
    intro user
    exact .inr ⟨cleanupNow, hTimes,
      entries_cleanup _ hKeys hLive user⟩
  · exact ⟨rfl, rfl, hKeys, fun _ => .inl rfl⟩

theorem check_prunes
    (self : SpendLimit)
    (hKeys : self.userSpend.keys.Nodup)
    (userId : String)
    (amountCents : ℕ)
    {cleanupNow : ℤ}
    (order : List String)
    (hTimes : cleanupNow ≤ now)
    (hAll : amountCents ≤ self.maxAmountCents →
      spendCleanupInterval ≤ self.checkCount + 1 →
        (self.liveUsers cleanupNow).rows.length ≤
          spendMaxUsers) :
    self.Prunes now
      (self.check userId amountCents cleanupNow now order).2
    := by
  rw [check]
  split
  · exact ⟨rfl, rfl, hKeys, fun _ => .inl rfl⟩
  · rename_i hAmount
    have hCounted : self.Prunes now
        (self.counted cleanupNow order) :=
      self.counted_prunes hKeys hTimes (hAll (by omega))
    have hPruned := hCounted.upsert userId
    dsimp only
    split
    · exact hPruned
    · exact hPruned

end SpendLimit

--------
-- What a Step Keeps
--------

/-
  The entries of a user are all that was spent and has not
  expired, and what was spent keeps to the limit of a day.
-/
structure Kept
    (maxAmountCents maxPer24hCents : ℕ)
    (w : World) : Prop where
  amount : w.limit.maxAmountCents = maxAmountCents
  per24h : w.limit.maxPer24hCents = maxPer24hCents
  users : w.limit.userSpend.keys.Nodup
  live : ∀ userId t, w.now ≤ t →
    unexpired t (w.limit.entries userId) =
      unexpired t (w.spent userId)
  past : ∀ userId, ∀ e ∈ w.spent userId, e.time ≤ w.now
  day : ∀ userId, WithinDay maxPer24hCents (w.spent userId)

variable {maxAmountCents maxPer24hCents : ℕ} {w w' : World}

/- A later state with pruned entries for the same spending. -/
theorem Kept.of_prunes
    (hKept : Kept maxAmountCents maxPer24hCents w)
    (hNow : w.now ≤ w'.now)
    (hPrunes : w.limit.Prunes w'.now w'.limit)
    (hSpent : w'.spent = w.spent) :
    Kept maxAmountCents maxPer24hCents w' := by
  constructor
  · rw [hPrunes.amount, hKept.amount]
  · rw [hPrunes.per24h, hKept.per24h]
  · exact hPrunes.users
  · intro user t hT
    have hBefore : w.now ≤ t := by omega
    rw [hSpent, ← hKept.live user t hBefore]
    rcases hPrunes.entries user with
      hSame | ⟨t', hT', hPruned⟩
    · rw [hSame]
    · rw [hPruned, unexpired_unexpired (by omega)]
  · intro user e hMem
    rw [hSpent] at hMem
    have hLe := hKept.past user e hMem
    omega
  · intro user
    rw [hSpent]
    exact hKept.day user

/- What has not expired is what a day up to now holds. -/
theorem total_day
    {now : ℤ}
    {entries : List Spend}
    (hPast : ∀ e ∈ entries, e.time ≤ now) :
    Windows.total Spend.time Spend.amountCents 86400
        (now + 1 - (86400 : ℕ)) entries =
      ((unexpired now entries).map Spend.amountCents).sum := by
  rw [Windows.total, unexpired]
  congr 2
  apply List.filter_congr
  intro e hMem
  have hLe := hPast e hMem
  rw [Bool.eq_iff_iff, Windows.inside_iff,
    decide_eq_true_iff, spendTtlSecs]
  omega

theorem kept_record
    (hKept : Kept maxAmountCents maxPer24hCents w)
    {userId : String}
    {amountCents : ℕ}
    {a : Answer}
    (hFits :
      ((unexpired (w.reading a.now)
          (w.limit.entries userId)).map
            Spend.amountCents).sum + amountCents ≤
        w.limit.maxPer24hCents) :
    Kept maxAmountCents maxPer24hCents
      (exec (.spendRecord userId amountCents) a w).2 := by
  have hNow : w.now ≤ w.reading a.now := Int.le_max_left _ _
  generalize hTime : w.reading a.now = now at hNow hFits
  have hEntries : ∀ user,
      (exec (.spendRecord userId amountCents) a
        w).2.limit.entries user =
        if user = userId then
          unexpired now (w.limit.entries userId) ++
            [⟨amountCents, now⟩]
        else w.limit.entries user := by
    intro user
    rw [← hTime]
    exact w.limit.entries_upsert rfl user
  have hSpent : ∀ user,
      (exec (.spendRecord userId amountCents) a w).2.spent
          user =
        if user = userId then
          w.spent user ++ [⟨amountCents, now⟩]
        else w.spent user := by
    intro user
    rw [← hTime]
    rfl
  have hPast : ∀ user, ∀ e ∈
      (exec (.spendRecord userId amountCents) a w).2.spent
        user, e.time ≤ now := by
    intro user e hMem
    rw [hSpent] at hMem
    split at hMem
    · rcases List.mem_append.mp hMem with hMem | hMem
      · exact Int.le_trans (hKept.past user e hMem) hNow
      · rw [List.mem_singleton.mp hMem]
    · exact Int.le_trans (hKept.past user e hMem) hNow
  constructor
  · exact hKept.amount
  · exact hKept.per24h
  · exact Table.nodup_upsert hKept.users _ _
  · intro user t hT
    have hLater : now ≤ t := hTime.symm.le.trans hT
    have hLive := hKept.live user t (by omega)
    rw [hEntries, hSpent]
    split
    · rename_i hUser
      rw [← hUser, unexpired_append, unexpired_append,
        unexpired_unexpired hLater, hLive]
    · exact hLive
  · intro user e hMem
    exact (hPast user e hMem).trans hTime.symm.le
  · intro user
    have hAll := hPast user
    rw [hSpent] at hAll ⊢
    split
    · rename_i hUser
      rw [if_pos hUser] at hAll
      apply (Windows.bounded_snoc_iff _).mpr
      · refine ⟨hKept.day user, ?_⟩
        have hOwn : unexpired now [⟨amountCents, now⟩] =
            [⟨amountCents, now⟩] := by
          simp [unexpired, spendTtlSecs]
        rw [total_day hAll, unexpired_append, hOwn,
          ← hKept.live user now hNow, List.map_append,
          List.sum_append, hUser, ← hKept.per24h]
        exact hFits
      · intro e hMem
        exact hAll e (List.mem_append_left _ hMem)
    · exact hKept.day user

theorem kept_exec
    (hKept : Kept maxAmountCents maxPer24hCents w)
    {tr : Trace}
    {o : Op}
    {a : Answer}
    (hSteady : Steady tr o a w) :
    Kept maxAmountCents maxPer24hCents (exec o a w).2 := by
  have hSame : w.limit.Prunes (exec o a w).2.now w.limit :=
    ⟨rfl, rfl, hKept.users, fun _ => .inl rfl⟩
  cases o with
  | trackerCheck key =>
    refine hKept.of_prunes ?_ hSame rfl
    exact Int.le_trans (Int.le_max_left _ _)
      (Int.le_max_left _ _)
  | trackerMark key result =>
    exact hKept.of_prunes (Int.le_max_left _ _) hSame rfl
  | spendCheck userId amountCents =>
    refine hKept.of_prunes ?_ ?_ rfl
    · exact Int.le_trans (Int.le_max_left _ _)
        (Int.le_max_left _ _)
    · exact w.limit.check_prunes hKept.users userId
        amountCents a.order (Int.le_max_left _ _) hSteady
  | spendRecord userId amountCents =>
    exact kept_record hKept hSteady
  | getDocument recordId => exact hKept
  | newUuid => exact hKept
  | utcNow =>
    exact hKept.of_prunes (Int.le_max_left _ _) hSame rfl

--------
-- Runs of Tool Calls
--------

variable {maxAmountCents maxPer24hCents : ℕ} {w : World}

theorem kept_started (now : ℤ) :
    Kept maxAmountCents maxPer24hCents
      (World.started now maxAmountCents maxPer24hCents) := by
  refine ⟨rfl, rfl, List.nodup_nil, fun _ _ _ => rfl, ?_, ?_⟩
  · rintro _ _ ⟨⟩
  · intro _ a
    exact Nat.zero_le _

theorem Kept.noOverflow
    (hKept : Kept maxAmountCents maxPer24hCents w)
    (hFits : maxAmountCents + maxPer24hCents < 2 ^ 64) :
    NoOverflow w := by
  intro user t hT
  have hPast : ∀ e ∈ w.spent user, e.time ≤ t := by
    intro e hMem
    exact (hKept.past user e hMem).trans hT
  have hDay := hKept.day user (t + 1 - (86400 : ℕ))
  rw [total_day hPast, ← hKept.live user t hT] at hDay
  rw [hKept.amount]
  omega

/- What a step records is what is spent by it. -/
theorem total_recordsOf
    (user : String)
    (first : ℤ)
    (tr : Trace)
    (o : Op)
    (a : Answer)
    (w : World) :
    -(Windows.total Spend.time Spend.amountCents 86400 first
          ((exec o a w).2.spent user) : ℤ) +
        Windows.total Spend.time Spend.amountCents 86400 first
          (recordsOf user (⟨o, a, (exec o a w).1⟩ :: tr)) =
      -(Windows.total Spend.time Spend.amountCents 86400 first
          (w.spent user) : ℤ) +
        Windows.total Spend.time Spend.amountCents 86400 first
          (recordsOf user tr) := by
  cases o with
  | spendRecord userId amountCents =>
    simp only [exec, recordsOf, eq_comm (a := userId)]
    split
    · rw [Windows.total_append, Windows.total_append]
      push_cast
      omega
    · rw [List.nil_append]
  | _ => rfl

/- The calls that have succeeded, and the other ones. -/
theorem total_checkouts_le
    (user : String)
    (first : ℤ)
    (c : Config Res Answer World
      (Except McpError Response)) :
    (Windows.total Spend.time Spend.amountCents 86400 first
        (checkouts user c) : ℤ) ≤
      (c.threads.map fun t =>
        (Windows.total Spend.time Spend.amountCents 86400
          first (recordsOf user t.trace) : ℤ)).sum := by
  rw [checkouts]
  induction c.threads with
  | nil => exact Int.le_refl 0
  | cons t rest ih =>
    rw [List.flatMap_cons, Windows.total_append,
      List.map_cons, List.sum_cons]
    push_cast
    have hHead : Windows.total Spend.time Spend.amountCents
        86400 first (match t.prog with
            | .ret (.ok _) => recordsOf user t.trace
            | _ => []) ≤
          Windows.total Spend.time Spend.amountCents 86400
            first (recordsOf user t.trace) := by
      split
      · exact Nat.le_refl _
      · exact Nat.zero_le _
    omega

theorem within_calls (calls : List Call) (w : World) :
    (Config.start w (calls.map Call.body)).Within
      (fun _ : Event Res Answer => True) (fun _ _ _ => True)
      (fun _ _ _ => True) calls :=
  Config.within_start
    (fun x _ => Prog.Along.any x.body []) w

instance
    (tr : Trace)
    (o : Op)
    (a : Answer)
    (w : World) : Decidable (Steady tr o a w) := by
  apply Op.casesOn
    (motive := fun o => Decidable (Steady tr o a w)) o <;>
  intros <;> dsimp only [Steady] <;> infer_instance

/- A product for 600 dollars. -/
def console : Value :=
  .object [("priceCents", .number { int := 60000 }),
      ("stockQuantity", .number { int := 5 }),
      ("lifecycleStatus", .string "active")]

/- A checkout of one of it. -/
def buysConsole : Call where
  userId := "users:u1"
  tool := .createCheckout
  params := .object [("items", .array [.object
          [("product_id", .string "products:p1"),
            ("quantity", .number { int := 1 })]]),
      ("shipping_address", .object [])]

/- At most 1000 dollars, in a request and in a day. -/
def twice : Config Res Answer World
    (Except McpError Response) :=
  Config.start (World.started 1000 100000 100000)
    ([buysConsole, buysConsole].map Call.body)

/- The next steps of the calls at some times. -/
def turns (steps : List (ℕ × ℤ)) : List (ℕ × Answer) :=
  steps.map fun step =>
    (step.1,
      { now := step.2
        cleanupNow := step.2
        document := .ok console
        uuid := "c" ++ toString step.1 })

end Orignabase.Mcp
