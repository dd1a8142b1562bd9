import Mathlib.Algebra.Group.Nat.Defs
import Mathlib.Data.List.Basic
import Mathlib.Data.List.Infix
import Mathlib.Logic.Function.Basic
import Mathlib.Order.Lattice
import Orignabase.Cron.Lock
import Orignabase.Lib.Url

/-
  Functions that run on schedules and on changes
  (`ob-functions/src/registry.rs`, `scheduler.rs`,
  `triggers.rs`).

  Instants are in nanoseconds and schedules in seconds.  What
  a function returns, the clock and the changes come from the
  environment.  In a build with overflow checks a product that
  overflows ends the task, in any other build it wraps.

  Key definitions include:
    * `Registry`
    * `parseInterval`
    * `cronRun`, `dbRun`
    * `Independent`
    * `Separate`

  Main results:
    * `parseInterval_eq`
    * `runTriggers_alone`
    * `triggers_independent_iff`
-/

--------
-- Registry
--------

namespace Orignabase.Functions

inductive DbEvent
  | create
  | update
  | delete
  deriving DecidableEq, Repr

inductive TriggerType
  | http (method path : String)
  | database (collection : String) (event : DbEvent)
  | cron (schedule : String)
  deriving DecidableEq, Repr

structure FunctionMeta where
  name : String
  triggers : List TriggerType
  deriving DecidableEq, Repr

/- The functions by name. -/
structure Registry where
  functions : List FunctionMeta
  distinct : (functions.map (·.name)).Nodup

/- A change of a document, up to what only the input tells. -/
structure ChangeEvent where
  collection : String
  action : DbEvent
  deriving DecidableEq, Repr

namespace ChangeEvent

def fires (event : ChangeEvent) : TriggerType → Bool
  | .database collection action =>
    collection = event.collection && action = event.action
  | .http _ _ => false
  | .cron _ => false

end ChangeEvent

namespace FunctionMeta

def schedules (f : FunctionMeta) : List (String × String) :=
  f.triggers.filterMap (fun
    | .cron schedule => some (f.name, schedule)
    | .http _ _ => none
    | .database _ _ => none)

end FunctionMeta

namespace Registry

def findDbTriggers
    (registry : Registry)
    (event : ChangeEvent) : List String :=
  (registry.functions.filter (fun f =>
    f.triggers.any event.fires)).map (·.name)

def findCronTriggers
    (registry : Registry) : List (String × String) :=
  registry.functions.flatMap FunctionMeta.schedules

end Registry

--------
-- Schedules
--------

/- A product of `u64`, none if its check fails. -/
def mulU64 (checked : Bool) (a b : Nat) : Option Nat :=
  if a * b < 2 ^ 64 then some (a * b)
  else if checked then none
  else some (a * b % 2 ^ 64)

def parseU64 (text : List Char) : Option Nat :=
  (Url.parseNat text).filter (· < 2 ^ 64)

def stripSuffix
    (c : Char)
    (text : List Char) : Option (List Char) :=
  if text.getLast? = some c then some text.dropLast
  else none

/- A number of units, one unit where it is no number. -/
def secondsOf
    (checked : Bool)
    (unit : Nat)
    (text : List Char) : Option Nat :=
  match parseU64 text with
  | some n => mulU64 checked n unit
  | none => some unit

/- The interval of a schedule in seconds. -/
def parseInterval
    (checked : Bool)
    (schedule : String) : Option Nat :=
  let s := Text.trim schedule
  if s = "@hourly" then some 3600
  else if s = "@daily" then some 86400
  else if "@every ".toList <+: s.toList then
    let rest := s.toList.drop 7
    match stripSuffix 'm' rest with
    | some mins => secondsOf checked 60 mins
    | none =>
      match stripSuffix 'h' rest with
      | some hours => secondsOf checked 3600 hours
      | none => some 60
  else if s = "* * * * *" then some 60
  else some 3600

/- What a number of units comes to. -/
def secondsIn (unit : Nat) (text : List Char) : Nat :=
  match parseU64 text with
  | some n => n * unit
  | none => unit

/- What a schedule says, whatever its size. -/
def interval (schedule : String) : Nat :=
  let s := Text.trim schedule
  if s = "@hourly" then 3600
  else if s = "@daily" then 86400
  else if "@every ".toList <+: s.toList then
    let rest := s.toList.drop 7
    match stripSuffix 'm' rest with
    | some mins => secondsIn 60 mins
    | none =>
      match stripSuffix 'h' rest with
      | some hours => secondsIn 3600 hours
      | none => 60
  else if s = "* * * * *" then 60
  else 3600

/- A number of seconds as a build computes it. -/
def fitted (checked : Bool) (seconds : Nat) : Option Nat :=
  mulU64 checked seconds 1

variable {seconds : Nat}

theorem fitted_eq
    {checked : Bool}
    (hFits : seconds < 2 ^ 64) :
    fitted checked seconds = some seconds := by
  rw [fitted, mulU64, Nat.mul_one, if_pos hFits]

theorem secondsOf_eq
    (checked : Bool)
    {unit : Nat}
    (hUnit : unit < 2 ^ 64)
    (text : List Char) :
    secondsOf checked unit text =
      fitted checked (secondsIn unit text) := by
  rw [secondsOf, secondsIn]
  cases parseU64 text with
  | none => exact (fitted_eq hUnit).symm
  | some n => simp only [fitted, mulU64, Nat.mul_one]

/- Only the product of an interval can overflow. -/
theorem parseInterval_eq
    (checked : Bool)
    (schedule : String) :
    parseInterval checked schedule =
      fitted checked (interval schedule) := by
  have hConst :
      ∀ n, n < 2 ^ 64 → some n = fitted checked n :=
    fun n hFits => (fitted_eq hFits).symm
  simp only [parseInterval, interval]
  split
  · exact hConst _ (by decide)
  split
  · exact hConst _ (by decide)
  split
  · split
    · exact secondsOf_eq checked (by decide) _
    split
    · exact secondsOf_eq checked (by decide) _
    · exact hConst _ (by decide)
  split
  · exact hConst _ (by decide)
  · exact hConst _ (by decide)

theorem parseInterval_exact_iff
    {checked : Bool}
    {schedule : String} :
    parseInterval checked schedule =
        some (interval schedule) ↔
      interval schedule < 2 ^ 64 := by
  rw [parseInterval_eq]
  constructor
  · intro hExact
    rw [fitted, mulU64, Nat.mul_one] at hExact
    split at hExact
    · assumption
    · cases checked with
      | true => cases hExact
      | false =>
        rw [if_neg Bool.false_ne_true] at hExact
        rw [← Option.some.inj hExact]
        exact Nat.mod_lt _ (by decide)
  · exact fitted_eq

--------
-- Loops
--------

/-
  A line of the log with the first bytes of a result.  Cutting
  within a character ends the task; an error is not cut.
-/
def logged
    (logs : Bool) : Except Error String → Bool
  | .ok result =>
    ! logs || Cron.isCharBoundary result.toList
        (min result.utf8ByteSize 200)
  | .error _ => true

/- Whether an interval has passed since a run. -/
def due
    (last : Option Nat)
    (now seconds : Nat) : Bool :=
  match last with
  | some last => seconds * 10 ^ 9 ≤ now - last
  | none => true

/-
  The clock and the result of a run at each trigger of a
  round, by its place.
-/
structure Tick where
  clock : Nat → Nat
  result : Nat → Except Error String

abbrev LastRun := String → Option Nat

section

variable (checked logs : Bool)

/- One trigger of a round, and whether it was run. -/
def runTrigger
    (tick : Tick)
    (place : Nat)
    (trigger : String × String)
    (lastRun : LastRun) : Option (LastRun × Bool) := do
  let seconds ← parseInterval checked trigger.2
  let now := tick.clock place
  if due (lastRun trigger.1) now seconds then
    if logged logs (tick.result place) then
      some (Function.update lastRun trigger.1 (some now), true)
    else none
  else some (lastRun, false)

def runTriggers
    (tick : Tick) :
    List ((String × String) × Nat) → LastRun →
      Option (LastRun × List Bool)
  | [], lastRun => some (lastRun, [])
  | (trigger, place) :: rest, lastRun => do
      let (lastRun, ran) ←
        runTrigger checked logs tick place trigger lastRun
      let (lastRun, more) ← runTriggers tick rest lastRun
      some (lastRun, ran :: more)

def cronRounds
    (registry : Registry) :
    List Tick → LastRun → Option (List (List Bool))
  | [], _ => some []
  | tick :: ticks, lastRun => do
      let (lastRun, ran) ← runTriggers checked logs tick
          registry.findCronTriggers.zipIdx lastRun
      let more ← cronRounds registry ticks lastRun
      some (ran :: more)

/- `CronScheduler::run`: the triggers run in each round. -/
def cronRun
    (registry : Registry)
    (ticks : List Tick) : Option (List (List Bool)) :=
  cronRounds checked logs registry ticks (fun _ => none)

end

/- A change, and what each function called for it returns. -/
structure Delivery where
  event : ChangeEvent
  result : String → Except Error String

/- The functions called for a change. -/
def handleEvent
    (logs : Bool)
    (registry : Registry)
    (delivery : Delivery) : Option (List String) :=
  let names := registry.findDbTriggers delivery.event
  if names.all (fun name => logged logs (delivery.result name))
  then some names
  else none

/- `DbTriggerExecutor::run` -/
def dbRun
    (logs : Bool)
    (registry : Registry)
    (deliveries : List Delivery) :
    Option (List (List String)) :=
  deliveries.mapM (handleEvent logs registry)

--------
-- Independence
--------

/- The clock never runs back. -/
def Chronological (ticks : List Tick) : Prop :=
  (∀ tick ∈ ticks, Monotone tick.clock) ∧
    ticks.Pairwise (fun tick later =>
      ∀ i j, tick.clock i ≤ later.clock j)

/- The texts that calls return are of a kind. -/
def Returned
    (texts : String → Prop)
    (result : Except Error String) : Prop :=
  ∀ text, result = .ok text → texts text

/- The rounds in which a trigger of its own is run. -/
def alone (seconds : Nat) : List Nat → Option Nat → List Bool
  | [], _ => []
  | now :: rest, last =>
    if due last now seconds then
      true :: alone seconds rest (some now)
    else false :: alone seconds rest last

/-
  Each schedule is read as it stands and keeps to its own
  runs, each change calls each trigger for it once, and both
  loops go on.
-/
structure Independent
    (checked logs : Bool)
    (registry : Registry)
    (ticks : List Tick)
    (deliveries : List Delivery) : Prop where
  schedules :
    ∀ trigger ∈ registry.findCronTriggers,
      parseInterval checked trigger.2 =
        some (interval trigger.2)
  cron :
    ∃ ran, cronRun checked logs registry ticks = some ran ∧
      ∀ (place : Nat) (trigger : String × String),
        registry.findCronTriggers[place]? = some trigger →
          ran.map (·[place]?) =
            (alone (interval trigger.2)
              (ticks.map (·.clock place)) none).map some
  database :
    ∃ called, dbRun logs registry deliveries = some called ∧
      List.Forall₂ (fun (delivery : Delivery) names =>
        ∀ f ∈ registry.functions,
          names.count f.name =
            f.triggers.countP delivery.event.fires)
        deliveries called

/-
  No interval overflows, functions with several schedules run
  at every round, no function has a trigger for changes twice,
  and every text can be cut where a log line cuts it, unless
  nothing is called or logged.
-/
structure Separate
    (logs : Bool)
    (registry : Registry)
    (texts : String → Prop) : Prop where
  bounded :
    ∀ trigger ∈ registry.findCronTriggers,
      interval trigger.2 < 2 ^ 64
  schedules :
    registry.findCronTriggers.Pairwise (fun t t' =>
      t.1 = t'.1 → interval t.2 = 0 ∧ interval t'.2 = 0)
  changes :
    ∀ f ∈ registry.functions, ∀ event : ChangeEvent,
      f.triggers.countP event.fires ≤ 1
  cuts :
    (registry.findCronTriggers = [] ∧
        ∀ event, registry.findDbTriggers event = []) ∨
      ∀ text, texts text → logged logs (.ok text) = true

--------
-- Rounds of separate triggers
--------

variable {own : Nat → Option Nat} {lastRun : LastRun}
variable {entry : (String × String) × Nat}

section

variable {checked logs : Bool} {tick : Tick}
variable {registry : Registry}

/- Without an interval a trigger is due at once. -/
theorem due_zero (last : Option Nat) (now : Nat) :
    due last now 0 = true := by
  cases last with
  | none => rfl
  | some last =>
    rw [due, Nat.zero_mul]
    exact decide_eq_true (Nat.zero_le _)

/- What a trigger of its own remembers after a round. -/
def ownAfter
    (tick : Tick)
    (own : Nat → Option Nat)
    (entry : (String × String) × Nat) : Option Nat :=
  if due (own entry.2) (tick.clock entry.2)
      (interval entry.1.2) then
    some (tick.clock entry.2)
  else own entry.2

/-
  What is remembered under the name of a trigger is what the
  trigger remembers, unless it has no interval.
-/
def Synced
    (own : Nat → Option Nat)
    (lastRun : LastRun)
    (entry : (String × String) × Nat) : Prop :=
  interval entry.1.2 = 0 ∨ lastRun entry.1.1 = own entry.2

theorem due_of_synced
    (hSynced : Synced own lastRun entry)
    (now : Nat) :
    due (lastRun entry.1.1) now (interval entry.1.2) =
      due (own entry.2) now (interval entry.1.2) := by
  rcases hSynced with hZero | hSame
  · rw [hZero, due_zero, due_zero]
  · rw [hSame]

variable (checked) in
/- One trigger, on its own. -/
theorem runTrigger_alone
    (hBounded : interval entry.1.2 < 2 ^ 64)
    (hLogged : logged logs (tick.result entry.2) = true)
    (hSynced : Synced own lastRun entry) :
    ∃ after,
      runTrigger checked logs tick entry.2 entry.1 lastRun =
          some (after,
            due (own entry.2) (tick.clock entry.2)
              (interval entry.1.2)) ∧
        Synced (fun _ => ownAfter tick own entry) after
          entry ∧
        ∀ name, name ≠ entry.1.1 →
          after name = lastRun name := by
  rw [runTrigger, parseInterval_exact_iff.mpr hBounded]
  simp only [Option.bind_eq_bind, Option.bind_some,
    due_of_synced hSynced, hLogged, if_true]
  cases hDue :
      due (own entry.2) (tick.clock entry.2)
        (interval entry.1.2) with
  | true =>
    refine ⟨_, if_pos rfl, .inr ?_, ?_⟩
    · rw [Function.update_self, ownAfter, if_pos hDue]
    · intro name hOther
      exact Function.update_of_ne hOther _ _
  | false =>
    refine ⟨lastRun, if_neg Bool.false_ne_true, ?_,
      fun _ _ => rfl⟩
    rcases hSynced with hZero | hSame
    · exact .inl hZero
    · refine .inr ?_
      rw [ownAfter, hDue, if_neg Bool.false_ne_true]
      exact hSame

variable (checked) in
/-
  A round, by induction on the triggers still to come: the
  ones behind are kept in step because no later trigger with
  an interval has their name.
-/
theorem runTriggers_alone
    (own : Nat → Option Nat)
    (entries : List ((String × String) × Nat))
    (lastRun : LastRun)
    (hBounded :
      ∀ entry ∈ entries, interval entry.1.2 < 2 ^ 64)
    (hApart :
      entries.Pairwise (fun entry entry' =>
        entry.1.1 = entry'.1.1 →
          interval entry.1.2 = 0 ∧ interval entry'.1.2 = 0))
    (hLogged :
      ∀ place, logged logs (tick.result place) = true)
    (hSynced :
      ∀ entry ∈ entries, Synced own lastRun entry) :
    ∃ after, runTriggers checked logs tick entries lastRun =
          some (after, entries.map (fun entry =>
            due (own entry.2) (tick.clock entry.2)
              (interval entry.1.2))) ∧
        (∀ entry ∈ entries,
          Synced (fun _ => ownAfter tick own entry) after
            entry) ∧
        ∀ name, (∀ entry ∈ entries, name ≠ entry.1.1) →
          after name = lastRun name := by
  induction entries generalizing lastRun with
  | nil =>
    exact ⟨lastRun, rfl,
      fun _ hMem => absurd hMem List.not_mem_nil,
      fun _ _ => rfl⟩
  | cons entry rest ih =>
    rw [List.pairwise_cons] at hApart
    rcases runTrigger_alone checked
        (hBounded _ List.mem_cons_self)
        (hLogged entry.2)
        (hSynced _ List.mem_cons_self) with
      ⟨mid, hRun, hMid, hFrame⟩
    have hRest :
        ∀ entry' ∈ rest, Synced own mid entry' := by
      intro entry' hMem
      by_cases hName : entry.1.1 = entry'.1.1
      · exact .inl (hApart.1 entry' hMem hName).2
      · rcases hSynced entry'
            (List.mem_cons_of_mem _ hMem) with
          hZero | hSame
        · exact .inl hZero
        · refine .inr ?_
          rw [hFrame _ (Ne.symm hName)]
          exact hSame
    rcases ih mid (fun entry' hMem =>
          hBounded entry' (List.mem_cons_of_mem _ hMem))
        hApart.2 hRest with
      ⟨after, hRuns, hAfter, hBehind⟩
    refine ⟨after, ?_, ?_, ?_⟩
    · rw [runTriggers, hRun]
      simp only [Option.bind_eq_bind, Option.bind_some,
        hRuns, List.map_cons]
    · intro entry' hMem
      rcases List.mem_cons.mp hMem with rfl | hLater
      · by_cases hZero : interval entry'.1.2 = 0
        · exact .inl hZero
        · refine .inr ?_
          rw [hBehind]
          · exact hMid.resolve_left hZero
          · intro other hOther hName
            exact hZero (hApart.1 other hOther hName).1
      · exact hAfter entry' hLater
    · intro name hName
      rw [hBehind name (fun other hOther =>
          hName other (List.mem_cons_of_mem _ hOther)),
        hFrame name (hName entry List.mem_cons_self)]

end

--------
-- Runs of separate triggers
--------

variable {event : ChangeEvent}

section

variable {checked logs : Bool} {registry : Registry}
variable {texts : String → Prop}

theorem synced_congr
    {own' : Nat → Option Nat}
    (hSame : own entry.2 = own' entry.2)
    (hSynced : Synced own lastRun entry) :
    Synced own' lastRun entry := by
  rw [Synced, ← hSame]
  exact hSynced

/-
  A run, by induction on its rounds; `own` is what each
  trigger remembers before the first of them.
-/
theorem cronRounds_alone
    (hSeparate : Separate logs registry texts)
    (ticks : List Tick)
    (own : Nat → Option Nat)
    (lastRun : LastRun)
    (hLogged :
      ∀ tick ∈ ticks, ∀ place,
        logged logs (tick.result place) = true)
    (hSynced :
      ∀ entry ∈ registry.findCronTriggers.zipIdx,
        Synced own lastRun entry) :
    ∃ ran, cronRounds checked logs registry ticks lastRun =
          some ran ∧
        ∀ (place : Nat) (trigger : String × String),
          registry.findCronTriggers[place]? = some trigger →
            ran.map (·[place]?) =
              (alone (interval trigger.2)
                (ticks.map (·.clock place))
                (own place)).map some := by
  induction ticks generalizing own lastRun with
  | nil => exact ⟨[], rfl, fun _ _ _ => rfl⟩
  | cons tick ticks ih =>
    have hApart :
        registry.findCronTriggers.zipIdx.Pairwise
          (fun entry entry' =>
            entry.1.1 = entry'.1.1 →
              interval entry.1.2 = 0 ∧
                interval entry'.1.2 = 0) := by
      have hPairs := hSeparate.schedules
      rw [← List.zipIdx_map_fst 0
        registry.findCronTriggers] at hPairs
      exact List.pairwise_map.mp hPairs
    have hBounded :
        ∀ entry ∈ registry.findCronTriggers.zipIdx,
          interval entry.1.2 < 2 ^ 64 := by
      intro entry hMem
      exact hSeparate.bounded entry.1 (List.mem_of_getElem?
          (List.mem_zipIdx_iff_getElem?.mp hMem))
    rcases runTriggers_alone checked own _
        lastRun hBounded hApart
        (hLogged tick List.mem_cons_self) hSynced with
      ⟨after, hRun, hAfter, -⟩
    let next : Nat → Option Nat := fun place =>
      (registry.findCronTriggers[place]?).elim none
        (fun trigger =>
          ownAfter tick own (trigger, place))
    have hNext :
        ∀ entry ∈ registry.findCronTriggers.zipIdx,
          ownAfter tick own entry = next entry.2 := by
      intro entry hMem
      simp only [next]
      rw [List.mem_zipIdx_iff_getElem?.mp hMem]
      rfl
    rcases ih next after (fun later hLater =>
          hLogged later (List.mem_cons_of_mem _ hLater))
        (fun entry hMem =>
          synced_congr (hNext entry hMem)
            (hAfter entry hMem)) with
      ⟨ran, hRuns, hAlone⟩
    refine ⟨registry.findCronTriggers.zipIdx.map
      (fun entry =>
        due (own entry.2) (tick.clock entry.2)
          (interval entry.1.2)) :: ran, ?_, ?_⟩
    · rw [cronRounds, hRun]
      simp only [Option.bind_eq_bind, Option.bind_some,
        hRuns]
    · intro place trigger hAt
      have hOwn := hNext (trigger, place)
        (List.mem_zipIdx_iff_getElem?.mpr hAt)
      rw [List.map_cons, List.map_cons, alone,
        hAlone place trigger hAt, ← hOwn, ownAfter,
        List.getElem?_map, List.getElem?_zipIdx, hAt]
      simp only [Option.map_some, Nat.zero_add]
      split
      · rename_i hDue
        rw [hDue, List.map_cons]
      · rename_i hDue
        rw [Bool.eq_false_iff.mpr hDue, List.map_cons]

/- Nothing is on a schedule. -/
theorem cronRounds_nil
    (hNone : registry.findCronTriggers = [])
    (ticks : List Tick)
    (lastRun : LastRun) :
    cronRounds checked logs registry ticks lastRun =
      some (ticks.map (fun _ => [])) := by
  induction ticks with
  | nil => rfl
  | cons tick ticks ih =>
    rw [cronRounds, hNone]
    simp only [List.zipIdx_nil, runTriggers,
      Option.bind_eq_bind, Option.bind_some, ih,
      List.map_cons]

theorem logged_of_returned
    {result : Except Error String}
    (hCuts :
      ∀ text, texts text → logged logs (.ok text) = true)
    (hReturned : Returned texts result) :
    logged logs result = true := by
  cases result with
  | error e => rfl
  | ok text => exact hCuts text (hReturned text rfl)

/- Each function is called once where it has one trigger. -/
theorem count_called
    (hSeparate : Separate logs registry texts)
    {f : FunctionMeta}
    (hMem : f ∈ registry.functions) :
    (registry.findDbTriggers event).count f.name =
      f.triggers.countP event.fires := by
  have hNodup :
      (registry.findDbTriggers event).Nodup :=
    registry.distinct.sublist (List.filter_sublist.map _)
  have hLe := hSeparate.changes f hMem event
  by_cases hAny : f.triggers.any event.fires = true
  · have hCalled :
        f.name ∈ registry.findDbTriggers event :=
      List.mem_map_of_mem (List.mem_filter.mpr ⟨hMem, hAny⟩)
    have hPos : 0 < f.triggers.countP event.fires :=
      List.countP_pos_iff.mpr (List.any_eq_true.mp hAny)
    rw [List.count_eq_one_of_mem hNodup hCalled]
    omega
  · have hZero : f.triggers.countP event.fires = 0 := by
      rw [List.countP_eq_zero]
      intro trigger hTrigger hFires
      exact hAny (List.any_eq_true.mpr
        ⟨trigger, hTrigger, hFires⟩)
    rw [hZero, List.count_eq_zero]
    intro hCalled
    rcases List.mem_map.mp hCalled with ⟨g, hG, hName⟩
    rcases List.mem_filter.mp hG with ⟨hGMem, hGAny⟩
    have hSame : g = f :=
      List.inj_on_of_nodup_map registry.distinct hGMem hMem
        hName
    rw [hSame] at hGAny
    exact hAny hGAny

theorem handleEvent_eq
    (hSeparate : Separate logs registry texts)
    {delivery : Delivery}
    (hReturned :
      ∀ name, Returned texts (delivery.result name)) :
    handleEvent logs registry delivery =
      some (registry.findDbTriggers delivery.event) := by
  rw [handleEvent]
  refine if_pos (List.all_eq_true.mpr ?_)
  intro name hName
  rcases hSeparate.cuts with ⟨-, hNone⟩ | hCuts
  · rw [hNone] at hName
    exact absurd hName List.not_mem_nil
  · exact logged_of_returned hCuts (hReturned name)

theorem dbRun_once
    (hSeparate : Separate logs registry texts)
    (deliveries : List Delivery)
    (hReturned :
      ∀ delivery ∈ deliveries, ∀ name,
        Returned texts (delivery.result name)) :
    ∃ called, dbRun logs registry deliveries = some called ∧
      List.Forall₂ (fun (delivery : Delivery) names =>
        ∀ f ∈ registry.functions, names.count f.name =
            f.triggers.countP delivery.event.fires)
        deliveries called := by
  induction deliveries with
  | nil => exact ⟨[], rfl, .nil⟩
  | cons delivery rest ih =>
    rcases ih (fun later hLater =>
        hReturned later
          (List.mem_cons_of_mem _ hLater)) with
      ⟨called, hCalled, hOnce⟩
    refine ⟨registry.findDbTriggers delivery.event ::
      called, ?_, .cons ?_ hOnce⟩
    · rw [dbRun] at hCalled ⊢
      rw [List.mapM_cons, hCalled, handleEvent_eq hSeparate
          (hReturned delivery List.mem_cons_self)]
      rfl
    · exact fun f hMem => count_called hSeparate hMem

theorem independent_of_separate
    (hSeparate : Separate logs registry texts)
    {ticks : List Tick}
    {deliveries : List Delivery}
    (hTicks :
      ∀ tick ∈ ticks, ∀ place,
        Returned texts (tick.result place))
    (hDeliveries :
      ∀ delivery ∈ deliveries, ∀ name,
        Returned texts (delivery.result name)) :
    Independent checked logs registry ticks deliveries where
  schedules := fun trigger hMem =>
    parseInterval_exact_iff.mpr
      (hSeparate.bounded trigger hMem)
  cron := by
    rcases hSeparate.cuts with ⟨hNone, -⟩ | hCuts
    · refine ⟨_, cronRounds_nil hNone ticks _, ?_⟩
      intro place trigger hAt
      rw [hNone] at hAt
      cases hAt
    · exact cronRounds_alone hSeparate ticks
        (fun _ => none) _
        (fun tick hMem place =>
          logged_of_returned hCuts (hTicks tick hMem place))
        (fun _ _ => .inr rfl)
  database := dbRun_once hSeparate deliveries hDeliveries

end

--------
-- Triggers that share a name
--------

/- A round in which the clock stands and every call fails. -/
def quiet (now : Nat) : Tick where
  clock := fun _ => now
  result := fun _ => .error (.internal "")

section

variable {checked logs : Bool} {tick : Tick}
variable {registry : Registry}
variable {entries : List ((String × String) × Nat)}
variable {lastRun after : LastRun}

variable {entry : (String × String) × Nat} {ran : List Bool}

theorem runTrigger_cases
    {ran : Bool}
    (hBounded : interval entry.1.2 < 2 ^ 64)
    (hRun :
      runTrigger checked logs tick entry.2 entry.1 lastRun =
        some (after, ran)) :
    ran = due (lastRun entry.1.1) (tick.clock entry.2)
        (interval entry.1.2) ∧
      after =
        if ran then
          Function.update lastRun entry.1.1
            (some (tick.clock entry.2))
        else lastRun := by
  rw [runTrigger, parseInterval_exact_iff.mpr hBounded]
    at hRun
  simp only [Option.bind_eq_bind, Option.bind_some] at hRun
  split at hRun
  · rename_i hDue
    split at hRun
    · cases hRun
      exact ⟨hDue.symm, rfl⟩
    · cases hRun
  · rename_i hDue
    cases hRun
    exact ⟨(Bool.eq_false_iff.mpr hDue).symm, rfl⟩

theorem runTriggers_cons
    (hRun :
      runTriggers checked logs tick (entry :: entries)
        lastRun = some (after, ran)) :
    ∃ mid first more,
      runTrigger checked logs tick entry.2 entry.1 lastRun =
          some (mid, first) ∧
        runTriggers checked logs tick entries mid =
          some (after, more) ∧
        ran = first :: more := by
  rw [runTriggers] at hRun
  simp only [Option.bind_eq_bind,
    Option.bind_eq_some_iff] at hRun
  rcases hRun with
    ⟨⟨mid, first⟩, hFirst, ⟨last, more⟩, hMore, hRan⟩
  cases hRan
  exact ⟨mid, first, more, hFirst, hMore, rfl⟩

theorem cronRounds_cons
    {ticks : List Tick}
    {ran : List (List Bool)}
    (hRun :
      cronRounds checked logs registry (tick :: ticks)
        lastRun = some ran) :
    ∃ mid first more, runTriggers checked logs tick
          registry.findCronTriggers.zipIdx lastRun =
            some (mid, first) ∧
        cronRounds checked logs registry ticks mid =
          some more ∧
        ran = first :: more := by
  rw [cronRounds] at hRun
  simp only [Option.bind_eq_bind,
    Option.bind_eq_some_iff] at hRun
  rcases hRun with ⟨⟨mid, first⟩, hFirst, more, hMore, hRan⟩
  cases hRan
  exact ⟨mid, first, more, hFirst, hMore, rfl⟩

/- After a round at one instant. -/
structure Latest
    (now : Nat)
    (entries : List ((String × String) × Nat))
    (lastRun after : LastRun) : Prop where
  kept :
    ∀ name, after name = lastRun name ∨
      after name = some now
  visited :
    ∀ entry ∈ entries, after entry.1.1 ≠ none
  always :
    ∀ entry ∈ entries, interval entry.1.2 = 0 →
      after entry.1.1 = some now

theorem runTriggers_latest
    {now : Nat}
    (hBounded :
      ∀ entry ∈ entries, interval entry.1.2 < 2 ^ 64)
    (hRun :
      runTriggers checked logs (quiet now) entries lastRun =
        some (after, ran)) :
    Latest now entries lastRun after := by
  induction entries generalizing lastRun ran with
  | nil =>
    cases hRun
    exact ⟨fun _ => .inl rfl,
      fun _ hMem => absurd hMem List.not_mem_nil,
      fun _ hMem => absurd hMem List.not_mem_nil⟩
  | cons entry rest ih =>
    rcases runTriggers_cons hRun with
      ⟨mid, first, more, hFirst, hMore, -⟩
    have hRest := ih (fun other hMem =>
        hBounded other (List.mem_cons_of_mem _ hMem)) hMore
    rcases runTrigger_cases
        (hBounded _ List.mem_cons_self) hFirst with
      ⟨hDue, hMid⟩
    cases first with
    | false =>
      rw [if_neg Bool.false_ne_true] at hMid
      subst hMid
      refine ⟨hRest.kept, ?_, ?_⟩
      · intro other hMem
        rcases List.mem_cons.mp hMem with rfl | hLater
        · intro hNone
          rcases hRest.kept other.1.1 with hSame | hNow
          · rw [← hSame, hNone] at hDue
            cases hDue
          · rw [hNone] at hNow
            cases hNow
        · exact hRest.visited other hLater
      · intro other hMem hZero
        rcases List.mem_cons.mp hMem with rfl | hLater
        · rw [hZero, due_zero] at hDue
          cases hDue
        · exact hRest.always other hLater hZero
    | true =>
      rw [if_pos rfl] at hMid
      have hNow : after entry.1.1 = some now := by
        rcases hRest.kept entry.1.1 with hSame | hNow
        · rw [hSame, hMid, Function.update_self]
          rfl
        · exact hNow
      refine ⟨?_, ?_, ?_⟩
      · intro name
        by_cases hName : name = entry.1.1
        · rw [hName]
          exact .inr hNow
        · have hSame : mid name = lastRun name := by
            rw [hMid, Function.update_of_ne hName]
          rw [← hSame]
          exact hRest.kept name
      · intro other hMem
        rcases List.mem_cons.mp hMem with rfl | hLater
        · rw [hNow]
          exact Option.some_ne_none _
        · exact hRest.visited other hLater
      · intro other hMem hZero
        rcases List.mem_cons.mp hMem with rfl | hLater
        · exact hNow
        · exact hRest.always other hLater hZero

/- What decides about the trigger at a place. -/
theorem runTriggers_at
    {place : Nat}
    (hBounded :
      ∀ entry ∈ entries, interval entry.1.2 < 2 ^ 64)
    (hRun :
      runTriggers checked logs tick entries lastRun =
        some (after, ran))
    (hAt : entries[place]? = some entry) :
    ∃ mid before,
      runTriggers checked logs tick (entries.take place)
          lastRun = some (mid, before) ∧
        ran[place]? =
          some (due (mid entry.1.1) (tick.clock entry.2)
            (interval entry.1.2)) := by
  induction entries generalizing lastRun ran place with
  | nil => cases hAt
  | cons head rest ih =>
    rcases runTriggers_cons hRun with
      ⟨next, first, more, hFirst, hMore, rfl⟩
    cases place with
    | zero =>
      cases hAt
      refine ⟨lastRun, [], rfl, ?_⟩
      rw [List.getElem?_cons_zero, (runTrigger_cases
          (hBounded _ List.mem_cons_self) hFirst).1]
    | succ place =>
      rcases ih (fun other hMem =>
          hBounded other (List.mem_cons_of_mem _ hMem))
          hMore hAt with
        ⟨mid, before, hBefore, hRan⟩
      refine ⟨mid, first :: before, ?_, hRan⟩
      rw [List.take_succ_cons, runTriggers, hFirst]
      simp only [Option.bind_eq_bind, Option.bind_some,
        hBefore]

end

--------
-- Exactness
--------

section

variable {checked logs : Bool} {registry : Registry}
variable {texts : String → Prop}
variable {trigger trigger' : String × String}
variable {place place' : Nat}

theorem zipIdx_bounded
    (hBounded :
      ∀ trigger ∈ registry.findCronTriggers,
        interval trigger.2 < 2 ^ 64) :
    ∀ entry ∈ registry.findCronTriggers.zipIdx,
      interval entry.1.2 < 2 ^ 64 := by
  intro entry hMem
  exact hBounded entry.1 (List.mem_of_getElem?
      (List.mem_zipIdx_iff_getElem?.mp hMem))

theorem getElem?_entry
    (hAt :
      registry.findCronTriggers[place]? = some trigger) :
    registry.findCronTriggers.zipIdx[place]? =
      some (trigger, place) := by
  rw [List.getElem?_zipIdx, hAt, Option.map_some,
    Nat.zero_add]

theorem mem_take_entry
    (hAt :
      registry.findCronTriggers[place]? = some trigger)
    (hBefore : place < place') :
    (trigger, place) ∈
      registry.findCronTriggers.zipIdx.take place' := by
  refine List.mem_of_getElem? (i := place) ?_
  rw [List.getElem?_take_of_lt hBefore]
  exact getElem?_entry hAt

/- A later trigger of a function is not run at its start. -/
theorem interval_zero_of_later
    (hIndependent :
      Independent checked logs registry [quiet 0] [])
    (hAt :
      registry.findCronTriggers[place]? = some trigger)
    (hAt' :
      registry.findCronTriggers[place']? = some trigger')
    (hLater : place < place')
    (hName : trigger.1 = trigger'.1) :
    interval trigger'.2 = 0 := by
  have hBounded := zipIdx_bounded (fun t hMem =>
    parseInterval_exact_iff.mp
      (hIndependent.schedules t hMem))
  rcases hIndependent.cron with ⟨ran, hRun, hAlone⟩
  rcases cronRounds_cons hRun with
    ⟨after, first, more, hFirst, -, rfl⟩
  rcases runTriggers_at hBounded hFirst
      (getElem?_entry hAt') with
    ⟨mid, before, hBefore, hRan⟩
  have hDue :
      due (mid trigger'.1) 0 (interval trigger'.2) =
        true := by
    have hColumn := hAlone place' trigger' hAt'
    simp only [List.map_cons, List.map_nil, alone, due,
      if_true, hRan, List.cons.injEq,
      Option.some.injEq] at hColumn
    exact hColumn.1
  have hLatest := runTriggers_latest (fun entry hMem =>
      hBounded entry (List.mem_of_mem_take hMem)) hBefore
  have hMid : mid trigger'.1 = some 0 := by
    rcases hLatest.kept trigger'.1 with hNone | hNow
    · have hVisited :=
        hLatest.visited _ (mem_take_entry hAt hLater)
      rw [hName] at hVisited
      exact absurd hNone hVisited
    · exact hNow
  rw [hMid, due, decide_eq_true_iff] at hDue
  omega

/- A round just before an interval is over runs nothing. -/
theorem alone_early
    (hSome : seconds ≠ 0) :
    alone seconds
        [0, seconds * 10 ^ 9 - 1, seconds * 10 ^ 9] none =
      [true, false, true] := by
  have hEarly :
      due (some 0) (seconds * 10 ^ 9 - 1) seconds =
        false := by
    refine decide_eq_false ?_
    omega
  have hDue :
      due (some 0) (seconds * 10 ^ 9) seconds = true :=
    decide_eq_true (Nat.le_refl _)
  rw [alone, due, if_pos rfl, alone, hEarly,
    if_neg Bool.false_ne_true, alone, hDue, if_pos rfl,
    alone]

/- A trigger that always runs moves the run of another. -/
theorem interval_zero_of_always
    (hSeconds : interval trigger.2 = seconds)
    (hIndependent :
      Independent checked logs registry
        [quiet 0, quiet (seconds * 10 ^ 9 - 1),
          quiet (seconds * 10 ^ 9)] [])
    (hAt :
      registry.findCronTriggers[place]? = some trigger)
    (hAt' :
      registry.findCronTriggers[place']? = some trigger')
    (hName : trigger.1 = trigger'.1)
    (hAlways : interval trigger'.2 = 0) :
    seconds = 0 := by
  have hBounded := zipIdx_bounded (fun t hMem =>
    parseInterval_exact_iff.mp
      (hIndependent.schedules t hMem))
  rcases hIndependent.cron with ⟨ran, hRun, hAlone⟩
  rcases cronRounds_cons hRun with
    ⟨afterOne, one, late, hOne, hLate, rfl⟩
  rcases cronRounds_cons hLate with
    ⟨afterTwo, two, last, hTwo, hLast, rfl⟩
  rcases cronRounds_cons hLast with
    ⟨afterThree, three, more, hThree, -, rfl⟩
  by_contra hSome
  rcases runTriggers_at hBounded hThree
      (getElem?_entry hAt) with
    ⟨mid, before, hBefore, hRan⟩
  have hDue :
      due (mid trigger.1) (seconds * 10 ^ 9) seconds =
        true := by
    have hColumn := hAlone place trigger hAt
    rw [hSeconds] at hColumn hRan
    simp only [List.map_cons, List.map_nil, quiet,
      alone_early hSome, hRan, List.cons.injEq,
      Option.some.injEq] at hColumn
    exact hColumn.2.2.1
  have hMoved :
      afterTwo trigger.1 = some (seconds * 10 ^ 9 - 1) := by
    have hLatest := runTriggers_latest hBounded hTwo
    rw [hName]
    exact hLatest.always (trigger', place')
      (List.mem_of_getElem? (getElem?_entry hAt')) hAlways
  have hMid :
      mid trigger.1 = some (seconds * 10 ^ 9 - 1) ∨
        mid trigger.1 = some (seconds * 10 ^ 9) := by
    have hLatest := runTriggers_latest (fun entry hMem =>
        hBounded entry (List.mem_of_mem_take hMem)) hBefore
    rw [← hMoved]
    exact hLatest.kept trigger.1
  rcases hMid with hMid | hMid
  · rw [hMid] at hDue
    have hPassed := of_decide_eq_true hDue
    omega
  · rw [hMid] at hDue
    have hPassed := of_decide_eq_true hDue
    omega

/- What a call returns is cut in every trigger's log line. -/
theorem logged_of_scheduled
    {text : String}
    (hIndependent :
      Independent checked logs registry
        [⟨fun _ => 0, fun _ => .ok text⟩] [])
    (hSome : registry.findCronTriggers ≠ []) :
    logged logs (.ok text) = true := by
  rcases List.exists_cons_of_ne_nil hSome with
    ⟨trigger, rest, hCron⟩
  have hParsed := hIndependent.schedules trigger
    (hCron ▸ List.mem_cons_self)
  rcases hIndependent.cron with ⟨ran, hRun, -⟩
  rcases cronRounds_cons hRun with
    ⟨after, first, more, hFirst, -, -⟩
  rw [hCron, List.zipIdx_cons] at hFirst
  rcases runTriggers_cons hFirst with
    ⟨mid, one, others, hOne, -, -⟩
  rw [runTrigger, hParsed] at hOne
  by_contra hCut
  simp only [Option.bind_eq_bind, Option.bind_some, due,
    if_true, if_neg hCut] at hOne
  cases hOne

theorem logged_of_changed
    {text : String}
    (hIndependent :
      Independent checked logs registry []
        [⟨event, fun _ => .ok text⟩])
    (hSome : registry.findDbTriggers event ≠ []) :
    logged logs (.ok text) = true := by
  rcases hIndependent.database with ⟨called, hRun, -⟩
  rcases List.exists_mem_of_ne_nil _ hSome with
    ⟨name, hName⟩
  by_contra hCut
  have hPanics :
      handleEvent logs registry
          ⟨event, fun _ => .ok text⟩ = none := by
    refine if_neg ?_
    intro hAll
    exact hCut (List.all_eq_true.mp hAll name hName)
  rw [dbRun, List.mapM_cons, hPanics] at hRun
  cases hRun

theorem countP_le_one
    {f : FunctionMeta}
    (hIndependent :
      Independent checked logs registry []
        [⟨event, fun _ => .error (.internal "")⟩])
    (hMem : f ∈ registry.functions) :
    f.triggers.countP event.fires ≤ 1 := by
  rcases hIndependent.database with ⟨called, hRun, hOnce⟩
  have hCalls :
      handleEvent logs registry
          ⟨event, fun _ => .error (.internal "")⟩ =
        some (registry.findDbTriggers event) :=
    if_pos (List.all_eq_true.mpr (fun _ _ => rfl))
  rw [dbRun, List.mapM_cons, hCalls] at hRun
  cases hRun
  rcases List.forall₂_cons.mp hOnce with ⟨hFirst, -⟩
  rw [← hFirst f hMem]
  exact List.nodup_iff_count_le_one.mp
    (registry.distinct.sublist
      (List.filter_sublist.map _)) f.name

end

--------
-- Main results
--------

theorem chronological_quiet
    (instants : List Nat)
    (hSorted : instants.Pairwise (· ≤ ·)) :
    Chronological (instants.map quiet) := by
  refine ⟨?_, List.pairwise_map.mpr ?_⟩
  · intro tick hMem
    rcases List.mem_map.mp hMem with ⟨now, -, rfl⟩
    exact monotone_const
  · exact hSorted.imp (fun hLe _ _ => hLe)

theorem returned_quiet
    {texts : String → Prop}
    {instants : List Nat} :
    ∀ tick ∈ instants.map quiet, ∀ place,
      Returned texts (tick.result place) := by
  intro tick hMem place text hText
  rcases List.mem_map.mp hMem with ⟨now, -, rfl⟩
  cases hText

/-
  The triggers of a registry are independent in every run, for
  the texts its functions can return, if and only if they are
  separate.
-/
theorem triggers_independent_iff
    (checked logs : Bool)
    (registry : Registry)
    (texts : String → Prop) :
    (∀ (ticks : List Tick) (deliveries : List Delivery),
      Chronological ticks →
      (∀ tick ∈ ticks, ∀ place,
        Returned texts (tick.result place)) →
      (∀ delivery ∈ deliveries, ∀ name,
        Returned texts (delivery.result name)) →
      Independent checked logs registry ticks deliveries) ↔
    Separate logs registry texts := by
  constructor
  · intro hRuns
    have hQuiet :
        ∀ instants : List Nat, instants.Pairwise (· ≤ ·) →
            Independent checked logs registry
              (instants.map quiet) [] :=
      fun instants hSorted =>
        hRuns _ [] (chronological_quiet instants hSorted)
          returned_quiet
          (fun _ hMem => absurd hMem List.not_mem_nil)
    have hEvents :
        ∀ delivery : Delivery,
          (∀ name, Returned texts (delivery.result name)) →
            Independent checked logs registry []
              [delivery] := by
      intro delivery hReturned
      refine hRuns [] [delivery]
        (chronological_quiet [] .nil)
        (fun _ hMem => absurd hMem List.not_mem_nil) ?_
      intro other hMem
      rw [List.mem_singleton.mp hMem]
      exact hReturned
    refine ⟨?_, ?_, ?_, ?_⟩
    · intro trigger hMem
      exact parseInterval_exact_iff.mp
        ((hQuiet [] .nil).schedules trigger hMem)
    · rw [List.pairwise_iff_getElem]
      intro i j hI hJ hLater hName
      have hAt := List.getElem?_eq_getElem hI
      have hAt' := List.getElem?_eq_getElem hJ
      have hZero := interval_zero_of_later
        (hQuiet [0] (List.pairwise_singleton _ _))
        hAt hAt' hLater hName
      refine ⟨?_, hZero⟩
      refine interval_zero_of_always rfl
        (hQuiet [0, _, _] ?_) hAt hAt' hName hZero
      simp only [List.pairwise_cons, List.mem_cons,
        List.not_mem_nil, or_false, forall_eq,
        Nat.zero_le, Nat.sub_le, implies_true,
        List.Pairwise.nil, and_true, IsEmpty.forall_iff]
    · intro f hMem event
      refine countP_le_one (hEvents _ ?_) hMem
      intro name text hText
      cases hText
    · by_cases hCron : registry.findCronTriggers = []
      · by_cases hChange :
            ∀ event, registry.findDbTriggers event = []
        · exact .inl ⟨hCron, hChange⟩
        · refine .inr ?_
          intro text hText
          rcases not_forall.mp hChange with ⟨event, hSome⟩
          refine logged_of_changed (hEvents _ ?_) hSome
          intro name other hOther
          cases hOther
          exact hText
      · refine .inr ?_
        intro text hText
        refine logged_of_scheduled
          (hRuns _ [] ⟨?_, List.pairwise_singleton _ _⟩ ?_
            (fun _ hMem => absurd hMem List.not_mem_nil))
          hCron
        · intro tick hMem
          rw [List.mem_singleton.mp hMem]
          exact monotone_const
        · intro tick hMem place other hOther
          rw [List.mem_singleton.mp hMem] at hOther
          cases hOther
          exact hText
  · intro hSeparate ticks deliveries _ hTicks hDeliveries
    exact independent_of_separate hSeparate hTicks
      hDeliveries

/- A function with an hourly and a daily schedule. -/
def reports : Registry where
  functions :=
    [⟨"reports", [.cron "@hourly", .cron "@daily"]⟩]
  distinct := List.nodup_singleton _

/-
  In the first round, where both are due, only the hourly
  trigger is run.
-/
theorem daily_reports_not_run :
    Chronological [quiet 0] ∧
      cronRun true true reports [quiet 0] =
        some [[true, false]] ∧
      ¬ Independent true true reports [quiet 0] [] := by
  have hRun :
      cronRun true true reports [quiet 0] =
        some [[true, false]] := by
    decide
  refine ⟨chronological_quiet [0]
    (List.pairwise_singleton _ _), hRun, ?_⟩
  intro hIndependent
  rcases hIndependent.cron with ⟨ran, hRan, hAlone⟩
  rw [hRun] at hRan
  cases hRan
  have hColumn := hAlone 1 ("reports", "@daily") (by decide)
  rw [List.map_cons, List.map_nil, List.map_cons,
    List.map_nil, alone, due, if_pos rfl] at hColumn
  cases hColumn

/- A schedule whose product overflows. -/
example :
    parseInterval true "@every 307445734561825861m" =
      none := by
  decide

end Orignabase.Functions
