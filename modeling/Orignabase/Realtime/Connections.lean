import Orignabase.Lib.Histories
import Orignabase.Realtime.Presence

/-
  How many sockets of one user are open at a time
  (`ob-realtime/src/websocket.rs`, the check at the start of
  `handle_socket` and the cleanup at its end).

  The check with the increment and the decrement are one step
  each, under the lock of the entry.  The entry of a counter
  that reached zero is removed by a step of its own, without
  that lock.  Sockets are known by ids.

  Key definitions include:
    * `Sockets`
    * `SocketStep`
    * `Sockets.Counted`

  Main results:
    * `counted_iff`
-/

--------
-- Steps
--------

namespace Orignabase.Realtime

/-
  The entry of the user in `connection_counts`, the sockets
  that are counted, and those that have found the counter at
  zero and will remove the entry.
-/
structure Sockets where
  entry : Option ℕ
  live : List ℕ
  removing : List ℕ
  deriving DecidableEq

def Sockets.none : Sockets := ⟨.none, [], []⟩

/- Whether there is room for a socket, and the entry then. -/
def checkLimit (entry : Option ℕ) : Bool × Option ℕ :=
  let current := entry.getD 0
  if maxConnectionsPerUser ≤ current then
    (false, some current)
  else (true, some (current + 1))

/- Whether the counter is at zero, and the entry then. -/
def release : Option ℕ → Bool × Option ℕ
  | .none => (false, .none)
  | some count => (count - 1 == 0, some (count - 1))

inductive SocketStep
  | connect (id : ℕ)
  | disconnect (id : ℕ)
  | remove (id : ℕ)
  deriving DecidableEq

/- A step that no socket can take changes nothing. -/
def Sockets.step (s : Sockets) : SocketStep → Sockets
  | .connect id =>
    if id ∈ s.live ∨ id ∈ s.removing then s
    else
      { s with
        entry := (checkLimit s.entry).2
        live :=
          if (checkLimit s.entry).1 then id :: s.live
          else s.live }
  | .disconnect id =>
    if id ∈ s.live then
      { entry := (release s.entry).2
        live := s.live.erase id
        removing :=
          if (release s.entry).1 then id :: s.removing
          else s.removing }
    else s
  | .remove id =>
    if id ∈ s.removing then
      { s with
        entry := .none
        removing := s.removing.erase id }
    else s

--------
-- The Counter
--------

namespace Sockets

/- The counter is right, and not too many are open. -/
structure Counted (s : Sockets) : Prop where
  counter : s.entry.getD 0 = s.live.length
  limited : s.live.length ≤ maxConnectionsPerUser

/- Where the entry is removed, no socket is open. -/
def RemovesUnused (s : Sockets) (e : SocketStep) : Prop :=
  ∀ id ∈ s.removing, e = .remove id → s.live = []

variable {s : Sockets}

theorem Counted.none : Counted Sockets.none :=
  ⟨rfl, Nat.zero_le _⟩

theorem Counted.connect
    (hCounted : s.Counted)
    (id : ℕ) :
    (s.step (.connect id)).Counted := by
  rw [step]
  by_cases hKnown : id ∈ s.live ∨ id ∈ s.removing
  · rw [if_pos hKnown]
    exact hCounted
  rw [if_neg hKnown]
  by_cases hFull : maxConnectionsPerUser ≤ s.live.length
  · have hCheck :
        checkLimit s.entry = (false, some s.live.length) := by
      unfold checkLimit
      rw [hCounted.counter]
      exact if_pos hFull
    rw [hCheck]
    exact ⟨rfl, hCounted.limited⟩
  · have hCheck :
        checkLimit s.entry = (true, some (s.live.length + 1)) := by
      unfold checkLimit
      rw [hCounted.counter]
      exact if_neg hFull
    rw [hCheck]
    exact ⟨rfl, Nat.lt_of_not_le hFull⟩

theorem Counted.disconnect
    (hCounted : s.Counted)
    (id : ℕ) :
    (s.step (.disconnect id)).Counted := by
  rw [step]
  by_cases hLive : id ∈ s.live
  · have hLength := List.length_erase_of_mem hLive
    have hLimited := hCounted.limited
    have hCounter := hCounted.counter
    rw [if_pos hLive]
    refine ⟨?_, ?_⟩
    · change ((release s.entry).2).getD 0 =
        (s.live.erase id).length
      cases hEntry : s.entry with
      | none =>
        have hPos := List.length_pos_of_mem hLive
        rw [hEntry, Option.getD_none] at hCounter
        omega
      | some count =>
        rw [hEntry, Option.getD_some] at hCounter
        rw [hLength, ← hCounter]
        rfl
    · change (s.live.erase id).length ≤ _
      omega
  · rw [if_neg hLive]
    exact hCounted

/- Only a removal can go wrong. -/
theorem counted_remove_iff
    (hCounted : s.Counted)
    (id : ℕ) :
    (s.step (.remove id)).Counted ↔
      (id ∈ s.removing → s.live = []) := by
  rw [step]
  split_ifs with hRemoving
  · constructor
    · intro hAfter _
      have hCounter : 0 = s.live.length := hAfter.counter
      exact List.eq_nil_of_length_eq_zero hCounter.symm
    · intro hUnused
      have hNone := hUnused hRemoving
      exact ⟨(congrArg List.length hNone).symm,
        hCounted.limited⟩
  · exact iff_of_true hCounted
      (fun hMem => absurd hMem hRemoving)

/- What one step keeps, and when. -/
theorem counted_step_iff
    (hCounted : s.Counted)
    (e : SocketStep) :
    (s.step e).Counted ↔ s.RemovesUnused e := by
  cases e with
  | connect id =>
    exact iff_of_true (hCounted.connect id)
      (fun _ _ hOther => by cases hOther)
  | disconnect id =>
    exact iff_of_true (hCounted.disconnect id)
      (fun _ _ hOther => by cases hOther)
  | remove id =>
    rw [counted_remove_iff hCounted]
    constructor
    · intro hUnused other hMem hSame
      cases hSame
      exact hUnused hMem
    · intro hUnused hMem
      exact hUnused id hMem rfl

/-
  The counter is right at every point of a run, and at most
  so many sockets are open, exactly where every removal of
  the entry finds no open socket.
-/
theorem counted_iff (steps : List SocketStep) :
    (∀ past, past <+: steps →
        (History.after step Sockets.none past).Counted) ↔
      ∀ past e, past ++ [e] <+: steps →
        (History.after step Sockets.none past).RemovesUnused
          e := by
  apply History.always_iff Counted.none
  intro past e hCounted
  rw [History.after_append, History.after_cons,
    History.after_nil]
  exact counted_step_iff hCounted e

/-
  The second socket is opened after the first has found the
  counter at zero and before the first removes the entry.
-/
def reopened : List SocketStep :=
  [.connect 1, .disconnect 1, .connect 2, .remove 1]

/- A sixth socket is admitted then. -/
theorem reopened_not_counted :
    ¬ (∀ past, past <+: reopened →
        (History.after step Sockets.none past).Counted) ∧
      (History.after step Sockets.none (reopened ++
          [.connect 3, .connect 4, .connect 5, .connect 6,
            .connect 7])).live.length = 6 := by
  refine ⟨?_, by decide⟩
  intro hAll
  have hCounter := (hAll reopened (List.prefix_refl _)).counter
  exact absurd hCounter (by decide)

end Sockets

end Orignabase.Realtime
