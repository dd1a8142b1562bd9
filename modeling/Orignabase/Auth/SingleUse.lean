import Orignabase.Auth.Credentials
import Orignabase.Lib.Retry

/-
  Refresh tokens are exchanged once.

  The revocation of a token ends one lifetime after it was
  written, and the token is accepted for thirty seconds after
  its own end.  So a token must be older than that when it is
  exchanged or given up, and a new token must differ from
  those that were signed before.

  Key definitions include:
    * `Presented`, `Timely`
    * `Rotates`

  Main results:
    * `rotates_of_reach`
-/

--------
-- Conditions And Results
--------

namespace Orignabase.Auth

open Conc

/- Clients have the tokens they were handed. -/
def World.knows (w : World) : Token → Bool
  | .jwt claims => w.handed.contains (.jwt claims)
  | .text _ => true

/- Nobody presents a token that was not handed out. -/
def Presented : StepCond Op.Res Answer World
  | _, .tryLock _ token, _, w => w.knows token = true
  | _, .upsertRevoked _ token _, _, w =>
    w.knows token = true
  | _, _, _, _ => True

/- A revocation written now outlasts the token. -/
def Token.outlasted
    (token : Token)
    (s : Settings)
    (now : Int) : Bool :=
  match token with
  | .jwt claims =>
    claims.exp + leeway < expiry now s.refreshTtl
  | .text _ => true

/-
  A token is exchanged or given up when it is old enough, its
  revocation is looked up while it is still accepted, and a
  token is signed that was not signed before.
-/
def Timely (s : Settings) : StepCond Op.Res Answer World
  | _, .tryLock _ token, _, w => w.knows token = true
  | tr, .upsertRevoked _ token _, _, w =>
    w.knows token = true ∧
      token.outlasted s (clock tr) = true
  | _, .revokedExpiry (.jwt claims), a, w =>
    (w.tick a).now ≤ claims.exp + leeway
  | _, .signRefresh _ sub ttl, a, w =>
    (w.tick a).newToken .refresh sub [] false ttl ∉
      w.issued
  | _, _, _, _ => True

/- Nothing has happened to the tokens that were handed out. -/
structure Untouched (w : World) : Prop where
  locks : w.locks = []
  spent : w.spent = []
  pairs : w.pairs = []
  revoked :
    ∀ claims e, (Token.jwt claims, e) ∈ w.revoked →
      Token.jwt claims ∈ w.handed
  handed :
    ∀ claims, Token.jwt claims ∈ w.handed →
      claims ∈ w.issued
  past : ∀ claims ∈ w.issued, claims.iat ≤ w.now

/- The request with the given number has ended well. -/
def Succeeded
    (c : Config Op.Res Answer World (Except Error Reply))
    (i : ℕ)
    (reply : Reply) : Prop :=
  ∃ tr, c.threads[i]? = some ⟨tr, .ret (.ok reply)⟩

/- The request with the given number has not begun. -/
def NotBegun
    (c : Config Op.Res Answer World (Except Error Reply))
    (i : ℕ) : Prop :=
  ∃ p, c.threads[i]? = some ⟨[], p⟩

/- No fault, and the token is still accepted. -/
def Smooth (claims : Claims) : StepCond Op.Res Answer World :=
  fun _ _ a w =>
    a.fault = false ∧ a.verdict = true ∧
      (w.tick a).now ≤ claims.exp + leeway

/-
  A token is exchanged once and never after its logout, and
  the token that an exchange returns can be exchanged.
-/
structure Rotates
    (cond : StepCond Op.Res Answer World)
    (s : Settings)
    (calls : List Call)
    (c : Config Op.Res Answer World (Except Error Reply)) :
    Prop where
  once :
    ∀ i j token out out',
      calls[i]? = some (.refresh token) →
        calls[j]? = some (.refresh token) →
          Succeeded c i (.refresh out) →
            Succeeded c j (.refresh out') → i = j
  ended :
    ∀ i j token text out c',
      calls[i]? = some (.logout token) →
        calls[j]? = some (.refresh token) →
          Succeeded c i text → NotBegun c j →
            Reach exec cond c c' →
              ¬ Succeeded c' j (.refresh out)
  live :
    ∀ i a c' token out,
      calls[i]? = some (.refresh token) →
        c.step exec i a = some c' → c.Allowed cond i a →
          Succeeded c' i (.refresh out) →
            c'.world.revocation (.jwt out.refreshToken) =
                none ∧
              ∀ session,
                Prog.Leads exec (Smooth out.refreshToken)
                  (fun _ r => ∃ out', r = .ok out') []
                  c'.world
                  (refresh s session
                    (.jwt out.refreshToken))

--------
-- Tokens That Are No Longer Accepted
--------

/- A token that is revoked as long as it would be accepted. -/
def Dead (w : World) (claims : Claims) : Prop :=
  (∃ e, w.revocation (.jwt claims) = some e ∧
    claims.exp + leeway < e) ∨
    claims.exp + leeway < w.now

theorem World.now_le_tick (w : World) (a : Answer) :
    w.now ≤ (w.tick a).now :=
  Int.le_max_left _ _

variable {w' : World} {claims : Claims} {token : Token}
variable {now : Int} {k : ℕ} {p : Progress} {x : Call × ℕ}
variable {tr : Trace} {a : Answer} {o : Op} {i : ℕ}

theorem Dead.later
    {w : World}
    (hDead : Dead w claims)
    (hRevoked : w'.revoked = w.revoked)
    (hNow : w.now ≤ w'.now) :
    Dead w' claims := by
  rcases hDead with ⟨e, hRow, hLong⟩ | hOver
  · refine Or.inl ⟨e, ?_, hLong⟩
    unfold World.revocation
    rw [hRevoked]
    exact hRow
  · exact Or.inr (Int.lt_of_lt_of_le hOver hNow)

/- The revocation of another token, or a longer one. -/
theorem Dead.revoke
    {w : World}
    {e : Int}
    {spent : List (Token × ℕ)}
    (hDead : token ≠ .jwt claims → Dead w claims)
    (hLong :
      token = .jwt claims → claims.exp + leeway < e) :
    Dead
      { w with
        revoked := (token, e) ::
            w.revoked.filter (fun row => row.1 ≠ token)
        spent := spent } claims := by
  by_cases hSame : token = .jwt claims
  · subst hSame
    refine Or.inl ⟨e, ?_, hLong rfl⟩
    simp [World.revocation]
  · rcases hDead hSame with ⟨e', hRow, hAfter⟩ | hOver
    · refine Or.inl ⟨e', ?_, hAfter⟩
      unfold World.revocation at hRow ⊢
      rw [List.find?_cons_of_neg (by simpa using hSame),
        List.find?_filter]
      rw [← hRow]
      congr 2
      funext row
      by_cases hRowToken : row.1 = .jwt claims
      · simp [hRowToken, Ne.symm hSame]
      · simp [hRowToken]
    · exact Or.inr hOver

/- A cleanup removes what has ended. -/
theorem Dead.clean
    {w : World}
    (hDead : Dead w claims)
    (hNow : now ≤ w.now) :
    Dead
      { w with
        revoked :=
          w.revoked.filter (fun row => now ≤ row.2) }
      claims := by
  rcases hDead with ⟨e, hRow, hLong⟩ | hOver
  · by_cases hEnded : now ≤ e
    · refine Or.inl ⟨e, ?_, hLong⟩
      unfold World.revocation at hRow ⊢
      rcases Option.map_eq_some_iff.mp hRow with
        ⟨row, hFind, rfl⟩
      rcases List.find?_eq_some_iff_append.mp hFind with
        ⟨hToken, before, after, hList, hBefore⟩
      refine Option.map_eq_some_iff.mpr ⟨row, ?_, rfl⟩
      refine List.find?_eq_some_iff_append.mpr
        ⟨hToken, before.filter (fun r => now ≤ r.2),
          after.filter (fun r => now ≤ r.2), ?_, ?_⟩
      · rw [hList, List.filter_append,
          List.filter_cons_of_pos (by simpa using hEnded)]
      · intro r hMem
        exact hBefore r (List.mem_filter.mp hMem).1
    · exact Or.inr (by
        change _ < w.now
        omega)
  · exact Or.inr hOver

--------
-- The Invariant
--------

/- A token whose user may renew sessions with it. -/
def Renewable (w : World) (claims : Claims) : Prop :=
  ∃ user, w.users.get (bareUid claims.sub) = some user ∧
    user.renews claims = true

structure Orderly (w : World) : Prop where
  alone :
    ∀ token i j, (token, i) ∈ w.locks →
      (token, j) ∈ w.locks → i = j
  known :
    ∀ claims k, (Token.jwt claims, k) ∈ w.locks →
      Token.jwt claims ∈ w.handed
  once :
    ∀ token i j, (token, i) ∈ w.spent →
      (token, j) ∈ w.spent → i = j
  dead :
    ∀ claims k, (Token.jwt claims, k) ∈ w.spent →
      Dead w claims
  revoked :
    ∀ claims e, (Token.jwt claims, e) ∈ w.revoked →
      Token.jwt claims ∈ w.handed
  handed :
    ∀ claims, Token.jwt claims ∈ w.handed →
      claims ∈ w.issued
  past : ∀ claims ∈ w.issued, claims.iat ≤ w.now
  pairs : ∀ p ∈ w.pairs, p.token ∈ w.issued
  unique :
    ∀ p ∈ w.pairs, ∀ q ∈ w.pairs,
      p.token = q.token → p.via = q.via

/- A token that was signed but not yet handed out. -/
structure Pending
    (w : World)
    (token : Token)
    (claims : Claims) : Prop where
  pair :
    ∃ old, token = .jwt old ∧
      ∃ p ∈ w.pairs,
        p.token = claims ∧ p.via = .refresh old
  kept : Token.jwt claims ∉ w.handed
  typ : claims.typ = .refresh
  renewable : Renewable w claims

/- What a refresh that has come so far knows of its token. -/
structure OwnRefresh
    (session : ℕ)
    (token : Token)
    (p : Progress)
    (w : World) : Prop where
  lock : p.locked = true → (token, session) ∈ w.locks
  clear :
    p.locked = true → p.cleared = true →
      p.spent = false → ∀ k, (token, k) ∉ w.spent
  spent : p.spent = true → (token, session) ∈ w.spent
  pending :
    p.locked = true →
      ∀ claims, p.signed = some claims →
        Pending w token claims

/- What a request knows. -/
structure Own
    (x : Call × ℕ)
    (tr : Trace)
    (w : World) : Prop where
  time : hasRead tr = true → clock tr ≤ w.now
  tokens : ∀ claims ∈ tokens tr, claims ∈ w.issued
  rows :
    ∀ token, x.1 = .refresh token →
      ∀ row ∈ rows tr, w.users.get row.1 = some row.2
  refresh :
    ∀ token, x.1 = .refresh token →
      OwnRefresh x.2 token (progress tr) w
  logout :
    ∀ token, x.1 = .logout token →
      (progress tr).spent = true →
        ∀ claims, token = .jwt claims → Dead w claims

/-
  What a step of one session leaves to the others: only the
  holder of a lock spends its token, and hands out what it has
  signed.
-/
structure Frame (k : ℕ) (w w' : World) : Prop where
  now : w.now ≤ w'.now
  users : w'.users = w.users
  issued : ∀ claims ∈ w.issued, claims ∈ w'.issued
  pairs : ∀ p ∈ w.pairs, p ∈ w'.pairs
  locks :
    ∀ token j, j ≠ k → (token, j) ∈ w.locks →
      (token, j) ∈ w'.locks
  spent : ∀ x ∈ w.spent, x ∈ w'.spent
  newSpent :
    ∀ token j, (token, j) ∈ w'.spent →
      (token, j) ∈ w.spent ∨ (token, k) ∈ w.locks
  newHanded :
    ∀ claims, Token.jwt claims ∈ w'.handed →
      Token.jwt claims ∈ w.handed ∨
        ∃ old, (Token.jwt old, k) ∈ w.locks ∧
          ∃ p ∈ w.pairs,
            p.token = claims ∧ p.via = .refresh old
  dead : ∀ claims, Dead w claims → Dead w' claims

theorem Renewable.of_users
    {w : World}
    (hRenewable : Renewable w claims)
    (hUsers : w'.users = w.users) :
    Renewable w' claims := by
  unfold Renewable
  rw [hUsers]
  exact hRenewable

/- What a request knows outlasts the steps of others. -/
theorem OwnRefresh.frame
    {session : ℕ}
    {w : World}
    (hMine : OwnRefresh session token p w)
    (hOrderly : Orderly w)
    (hOther : session ≠ k)
    (hFrame : Frame k w w') :
    OwnRefresh session token p w' := by
  refine ⟨?_, ?_, ?_, ?_⟩
  · intro hLocked
    exact hFrame.locks _ _ hOther (hMine.lock hLocked)
  · intro hLocked hCleared hUnspent j hMem
    rcases hFrame.newSpent token j hMem with hOld | hLock
    · exact hMine.clear hLocked hCleared hUnspent j hOld
    · -- Two sessions would hold the lock of one token.
      exact hOther (hOrderly.alone token _ _
        (hMine.lock hLocked) hLock)
  · intro hSpent
    exact hFrame.spent _ (hMine.spent hSpent)
  · intro hLocked claims hSigned
    have hPending := hMine.pending hLocked claims hSigned
    rcases hPending.pair with ⟨old, hToken, q, hq, hEq, hVia⟩
    refine ⟨⟨old, hToken, q, hFrame.pairs q hq, hEq, hVia⟩,
      ?_, hPending.typ,
      hPending.renewable.of_users hFrame.users⟩
    intro hHanded
    rcases hFrame.newHanded claims hHanded with
      hOld | ⟨old', hLock, q', hq', hEq', hVia'⟩
    · exact hPending.kept hOld
    · -- The same token was not signed for two others.
      have hSame :=
        hOrderly.unique q hq q' hq' (hEq.trans hEq'.symm)
      rw [hVia, hVia'] at hSame
      cases hSame
      rw [← hToken] at hLock
      exact hOther (hOrderly.alone token _ _
        (hMine.lock hLocked) hLock)

theorem Own.frame
    {w : World}
    (hOwn : Own x tr w)
    (hOrderly : Orderly w)
    (hOther : x.2 ≠ k)
    (hFrame : Frame k w w') :
    Own x tr w' := by
  refine ⟨?_, ?_, ?_, ?_, ?_⟩
  · intro hRead
    exact Int.le_trans (hOwn.time hRead) hFrame.now
  · intro claims hMem
    exact hFrame.issued _ (hOwn.tokens claims hMem)
  · intro token hCall row hMem
    rw [hFrame.users]
    exact hOwn.rows token hCall row hMem
  · intro token hCall
    exact (hOwn.refresh token hCall).frame hOrderly hOther
      hFrame
  · intro token hCall hSpent claims hToken
    exact hFrame.dead claims
      (hOwn.logout token hCall hSpent claims hToken)

--------
-- What A Step Does
--------

/- The invariant and the frame after a step. -/
structure Effect (k : ℕ) (w w' : World) : Prop where
  orderly : Orderly w'
  frame : Frame k w w'

theorem Orderly.tick
    {w : World}
    (hOrderly : Orderly w)
    (a : Answer) :
    Orderly (w.tick a) where
  alone := hOrderly.alone
  known := hOrderly.known
  once := hOrderly.once
  dead claims k hMem :=
    (hOrderly.dead claims k hMem).later rfl
      (w.now_le_tick a)
  revoked := hOrderly.revoked
  handed := hOrderly.handed
  past claims hMem :=
    Int.le_trans (hOrderly.past claims hMem)
      (w.now_le_tick a)
  pairs := hOrderly.pairs
  unique := hOrderly.unique

theorem Frame.refl (k : ℕ) (w : World) : Frame k w w where
  now := Int.le_refl _
  users := rfl
  issued _ hMem := hMem
  pairs _ hMem := hMem
  locks _ _ _ hMem := hMem
  spent _ hMem := hMem
  newSpent _ _ hMem := Or.inl hMem
  newHanded _ hMem := Or.inl hMem
  dead _ hDead := hDead

/- The time passes before a step. -/
theorem Frame.of_tick
    {w : World}
    (hFrame : Frame k (w.tick a) w') :
    Frame k w w' where
  now := Int.le_trans (w.now_le_tick a) hFrame.now
  users := hFrame.users
  issued := hFrame.issued
  pairs := hFrame.pairs
  locks := hFrame.locks
  spent := hFrame.spent
  newSpent := hFrame.newSpent
  newHanded := hFrame.newHanded
  dead claims hDead :=
    hFrame.dead claims (hDead.later rfl (w.now_le_tick a))

theorem Effect.refl
    {w : World}
    (hOrderly : Orderly w)
    (k : ℕ) :
    Effect k w w :=
  ⟨hOrderly, Frame.refl k w⟩

theorem Effect.of_tick
    {w : World}
    (hEffect : Effect k (w.tick a) w') :
    Effect k w w' :=
  ⟨hEffect.orderly, hEffect.frame.of_tick⟩

theorem effect_tick
    {w : World}
    (hOrderly : Orderly w)
    (k : ℕ)
    (a : Answer) :
    Effect k w (w.tick a) :=
  (Effect.refl (hOrderly.tick a) k).of_tick

/- A token of another kind is signed. -/
theorem effect_sign
    {w : World}
    (hOrderly : Orderly w)
    (hNow : claims.iat = w.now) :
    Effect k w (w.sign claims) := by
  refine ⟨⟨hOrderly.alone, hOrderly.known, hOrderly.once,
    hOrderly.dead, hOrderly.revoked, ?_, ?_, ?_,
    hOrderly.unique⟩, { Frame.refl k w with issued := ?_ }⟩
  · intro c hMem
    exact List.mem_cons_of_mem _ (hOrderly.handed c hMem)
  · intro c hMem
    rcases List.mem_cons.mp hMem with rfl | hOld
    · exact Int.le_of_eq hNow
    · exact hOrderly.past c hOld
  · intro p hMem
    exact List.mem_cons_of_mem _ (hOrderly.pairs p hMem)
  · intro c hMem
    exact List.mem_cons_of_mem _ hMem

/- A refresh token is signed that is new. -/
theorem effect_signPair
    {w : World}
    {via : Origin}
    (hOrderly : Orderly w)
    (hNow : claims.iat = w.now)
    (hNew : claims ∉ w.issued) :
    Effect k w (w.signPair via claims) := by
  have hSigned := effect_sign (k := k) hOrderly hNow
  refine ⟨⟨hOrderly.alone, hOrderly.known, hOrderly.once,
    hOrderly.dead, hOrderly.revoked, hSigned.orderly.handed,
    hSigned.orderly.past, ?_, ?_⟩,
    { hSigned.frame with pairs := ?_ }⟩
  · intro p hMem
    rcases List.mem_cons.mp hMem with rfl | hOld
    · exact List.mem_cons_self
    · exact List.mem_cons_of_mem _ (hOrderly.pairs p hOld)
  · intro p hp q hq hSame
    rcases List.mem_cons.mp hp with rfl | hp' <;>
      rcases List.mem_cons.mp hq with rfl | hq'
    · rfl
    · have hOld : claims = q.token := hSame
      exact absurd (hOrderly.pairs q hq') (hOld ▸ hNew)
    · have hOld : p.token = claims := hSame
      exact absurd (hOrderly.pairs p hp') (hOld ▸ hNew)
    · exact hOrderly.unique p hp' q hq' hSame
  · intro p hMem
    exact List.mem_cons_of_mem _ hMem

theorem effect_lock
    {w : World}
    (hOrderly : Orderly w)
    (hFree : ∀ j, (token, j) ∉ w.locks)
    (hKnows : w.knows token = true) :
    Effect k w
      { w with locks := (token, k) :: w.locks } := by
  refine ⟨⟨?_, ?_, hOrderly.once, hOrderly.dead,
    hOrderly.revoked, hOrderly.handed, hOrderly.past,
    hOrderly.pairs, hOrderly.unique⟩,
    { Frame.refl k w with locks := ?_ }⟩
  · intro t i j hi hj
    rcases List.mem_cons.mp hi with hi | hi <;>
      rcases List.mem_cons.mp hj with hj | hj
    · cases hi
      cases hj
      rfl
    · cases hi
      exact absurd hj (hFree j)
    · cases hj
      exact absurd hi (hFree i)
    · exact hOrderly.alone t i j hi hj
  · intro claims j hMem
    rcases List.mem_cons.mp hMem with hNew | hOld
    · cases hNew
      simpa [World.knows] using hKnows
    · exact hOrderly.known claims j hOld
  · intro t j _ hMem
    exact List.mem_cons_of_mem _ hMem

/- A revocation is written, by a refresh or by a logout. -/
theorem effect_revoke
    {w : World}
    {session : Option ℕ}
    {e : Int}
    (hOrderly : Orderly w)
    (hKnows : w.knows token = true)
    (hLong :
      ∀ claims, token = .jwt claims →
        claims.exp + leeway < e)
    (hSession :
      ∀ j, session = some j → j = k ∧ (token, k) ∈ w.locks ∧
          ∀ i, (token, i) ∉ w.spent) :
    Effect k w
      { w with
        revoked := (token, e) ::
            w.revoked.filter (fun row => row.1 ≠ token)
        spent := session.toList.map (fun s => (token, s)) ++
            w.spent } := by
  have hSpent :
      ∀ t j,
        (t, j) ∈ session.toList.map (fun s => (token, s)) ++
            w.spent →
          (t, j) ∈ w.spent ∨
            t = token ∧ session = some j := by
    intro t j hMem
    rcases List.mem_append.mp hMem with hNew | hOld
    · rcases List.mem_map.mp hNew with ⟨i, hi, hEq⟩
      cases hEq
      exact Or.inr ⟨rfl, by simpa using hi⟩
    · exact Or.inl hOld
  have hDead :
      ∀ claims, Dead w claims → Dead
          { w with
            revoked := (token, e) ::
                w.revoked.filter (fun row => row.1 ≠ token)
            spent :=
              session.toList.map (fun s => (token, s)) ++
                w.spent } claims :=
    fun claims hDead =>
      Dead.revoke (fun _ => hDead) (hLong claims)
  refine ⟨⟨hOrderly.alone, hOrderly.known, ?_, ?_, ?_,
    hOrderly.handed, hOrderly.past, hOrderly.pairs,
    hOrderly.unique⟩,
    { Frame.refl k w with
      spent := ?_
      newSpent := ?_
      dead := hDead }⟩
  · intro t i j hi hj
    rcases hSpent t i hi with hOld | ⟨hEq, hNew⟩ <;>
      rcases hSpent t j hj with hOld' | ⟨hEq', hNew'⟩
    · exact hOrderly.once t i j hOld hOld'
    · exact absurd (hEq' ▸ hOld) ((hSession j hNew').2.2 i)
    · exact absurd (hEq ▸ hOld') ((hSession i hNew).2.2 j)
    · rw [(hSession i hNew).1, (hSession j hNew').1]
  · intro claims j hMem
    rcases hSpent _ j hMem with hOld | ⟨rfl, _⟩
    · exact hDead claims (hOrderly.dead claims j hOld)
    · exact Dead.revoke (fun h => absurd rfl h)
        (fun _ => hLong claims rfl)
  · intro claims e' hMem
    rcases List.mem_cons.mp hMem with hNew | hOld
    · cases hNew
      simpa [World.knows] using hKnows
    · exact hOrderly.revoked claims e'
        (List.mem_filter.mp hOld).1
  · intro x hMem
    exact List.mem_append_right _ hMem
  · intro t j hMem
    rcases hSpent t j hMem with hOld | ⟨rfl, hNew⟩
    · exact Or.inl hOld
    · exact Or.inr (hSession j hNew).2.1

/- The lock is given back and a token handed out. -/
theorem effect_endLock
    {w : World}
    {handing : Option Claims}
    {done : Bool}
    (hOrderly : Orderly w)
    (hHanding :
      ∀ claims, handing = some claims →
        (token, k) ∈ w.locks ∧ Pending w token claims) :
    Effect k w
      { w with
        locks := w.locks.filter (· ≠ (token, k))
        handed :=
          if done then
            handing.toList.map Token.jwt ++ w.handed
          else w.handed } := by
  have hHanded :
      ∀ t ∈ (if done then
            handing.toList.map Token.jwt ++ w.handed
          else w.handed),
        t ∈ w.handed ∨ ∃ claims, handing = some claims ∧
            t = .jwt claims := by
    intro t hMem
    split_ifs at hMem
    · rcases List.mem_append.mp hMem with hNew | hOld
      · rcases List.mem_map.mp hNew with ⟨claims, hc, rfl⟩
        exact Or.inr ⟨claims, by simpa using hc, rfl⟩
      · exact Or.inl hOld
    · exact Or.inl hMem
  have hKept :
      ∀ t ∈ w.handed, t ∈ (if done then
            handing.toList.map Token.jwt ++ w.handed
          else w.handed) := by
    intro t hMem
    split_ifs
    · exact List.mem_append_right _ hMem
    · exact hMem
  refine ⟨⟨?_, ?_, hOrderly.once, hOrderly.dead, ?_, ?_,
    hOrderly.past, hOrderly.pairs, hOrderly.unique⟩,
    { Frame.refl k w with
      locks := ?_
      newHanded := ?_ }⟩
  · intro t i j hi hj
    exact hOrderly.alone t i j (List.mem_filter.mp hi).1
      (List.mem_filter.mp hj).1
  · intro claims j hMem
    exact hKept _ (hOrderly.known claims j
      (List.mem_filter.mp hMem).1)
  · intro claims e hMem
    exact hKept _ (hOrderly.revoked claims e hMem)
  · intro claims hMem
    rcases hHanded _ hMem with hOld | ⟨c, hc, hEq⟩
    · exact hOrderly.handed claims hOld
    · cases hEq
      rcases (hHanding claims hc).2.pair with
        ⟨_, _, p, hp, rfl, _⟩
      exact hOrderly.pairs p hp
  · intro t j hOther hMem
    refine List.mem_filter.mpr ⟨hMem, ?_⟩
    simp [hOther]
  · intro claims hMem
    rcases hHanded _ hMem with hOld | ⟨c, hc, hEq⟩
    · exact Or.inl hOld
    · cases hEq
      rcases hHanding claims hc with ⟨hLock, hPending⟩
      rcases hPending.pair with ⟨old, rfl, hPair⟩
      exact Or.inr ⟨old, hLock, hPair⟩

theorem effect_clean
    {w : World}
    (hOrderly : Orderly w)
    (hNow : now ≤ w.now) :
    Effect k w
      { w with
        revoked :=
          w.revoked.filter (fun row => now ≤ row.2) } := by
  refine ⟨⟨hOrderly.alone, hOrderly.known, hOrderly.once, ?_,
    ?_, hOrderly.handed, hOrderly.past, hOrderly.pairs,
    hOrderly.unique⟩,
    { Frame.refl k w with
      dead := fun claims hDead => hDead.clean hNow }⟩
  · intro claims j hMem
    exact (hOrderly.dead claims j hMem).clean hNow
  · intro claims e hMem
    exact hOrderly.revoked claims e (List.mem_filter.mp hMem).1

--------
-- What A Request Knows After Its Step
--------

/- Locks, exchanges and tokens handed out are the same. -/
structure Steady (w w' : World) : Prop where
  users : w'.users = w.users
  locks : w'.locks = w.locks
  spent : w'.spent = w.spent
  handed : w'.handed = w.handed
  pairs : ∀ p ∈ w.pairs, p ∈ w'.pairs

theorem Pending.steady
    {w : World}
    (hPending : Pending w token claims)
    (hUsers : w'.users = w.users)
    (hHanded : w'.handed = w.handed)
    (hPairs : ∀ p ∈ w.pairs, p ∈ w'.pairs) :
    Pending w' token claims := by
  rcases hPending.pair with ⟨old, hToken, p, hp, hRest⟩
  refine ⟨⟨old, hToken, p, hPairs p hp, hRest⟩, ?_,
    hPending.typ, hPending.renewable.of_users hUsers⟩
  rw [hHanded]
  exact hPending.kept

theorem OwnRefresh.steady
    {w : World}
    (hOwn : OwnRefresh k token p w)
    (hSteady : Steady w w') :
    OwnRefresh k token p w' := by
  refine ⟨?_, ?_, ?_, ?_⟩
  · rw [hSteady.locks]
    exact hOwn.lock
  · rw [hSteady.spent]
    exact hOwn.clear
  · rw [hSteady.spent]
    exact hOwn.spent
  · intro hLocked claims hSigned
    exact (hOwn.pending hLocked claims hSigned).steady
      hSteady.users hSteady.handed hSteady.pairs

/- A revoked token is found to be revoked. -/
theorem revoked_of_dead
    {w : World}
    (hDead : Dead w claims)
    (hTimely : w.now ≤ claims.exp + leeway)
    (hNow : now ≤ w.now) :
    (w.revocation (.jwt claims)).any (now < ·) = true := by
  rcases hDead with ⟨e, hRow, hLong⟩ | hOver
  · rw [hRow]
    simp only [Option.any_some, decide_eq_true_eq]
    omega
  · omega

/- The lookup finds no token that was exchanged before. -/
theorem cleared_exec
    {w : World}
    (hRead : clock tr ≤ w.now)
    (hTimely : (w.tick a).now ≤ claims.exp + leeway)
    (hDead : Dead w claims) :
    (p.after (clock tr) ⟨.revokedExpiry (.jwt claims), a,
        (exec (.revokedExpiry (.jwt claims)) a
          w).1⟩).cleared = false := by
  have hRevoked :
      ((w.tick a).revocation (.jwt claims)).any
        (clock tr < ·) = true :=
    revoked_of_dead (hDead.later rfl (w.now_le_tick a))
      hTimely (Int.le_trans hRead (w.now_le_tick a))
  cases hFault : a.fault with
  | true =>
    simp [Progress.after, exec, act, Answer.guard, hFault,
      Except.toOption]
  | false =>
    simp [Progress.after, exec, act, Answer.guard, hFault,
      Except.toOption, hRevoked]

/- A refresh keeps the invariant. -/
theorem effect_rotate
    {s : Settings}
    {w : World}
    (hCan : mayRotate s k token tr o)
    (hCond : Timely s tr o a w)
    (hOrderly : Orderly w)
    (hOwn : OwnRefresh k token (progress tr) w) :
    Effect k w (exec o a w).2 := by
  have hTick := effect_tick hOrderly k a
  cases o with
  | utcNow => exact exec_still (o := .utcNow) rfl a w ▸ hTick
  | ensureRevokedTable =>
    rw [exec_still rfl]
    exact hTick
  | verifyToken t =>
    rw [exec_still rfl]
    exact hTick
  | userById id =>
    rw [exec_still rfl]
    exact hTick
  | revokedExpiry t =>
    rw [exec_still rfl]
    exact hTick
  | tryLock j t =>
    rcases hCan with ⟨rfl, rfl, _⟩
    rcases exec_tryLock j t a w with
      ⟨r, _, hFail⟩ | ⟨hFree, hDone⟩
    · rw [hFail]
      exact hTick
    · rw [hDone]
      exact (effect_lock (hOrderly.tick a) hFree
        hCond).of_tick
  | signToken typ sub roles emailVerified ttl =>
    rcases exec_signToken typ sub roles emailVerified ttl a
      w with hSame | hDone
    · rw [hSame]
      exact hTick
    · rw [hDone]
      exact (effect_sign (hOrderly.tick a) rfl).of_tick
  | signRefresh via sub ttl =>
    rcases exec_signRefresh via sub ttl a w with
      hSame | hDone
    · rw [hSame]
      exact hTick
    · rw [hDone]
      exact (effect_signPair (hOrderly.tick a) rfl
        hCond).of_tick
  | upsertRevoked j t e =>
    rcases hCan with ⟨rfl, rfl, rfl, claims, hProgress⟩
    rcases exec_upsertRevoked (some k) t
      (expiry (clock tr) s.refreshTtl) a w with
      hSame | hDone
    · rw [hSame]
      exact hTick
    · rw [hDone]
      refine (effect_revoke (hOrderly.tick a) hCond.1 ?_
        ?_).of_tick
      · rintro c rfl
        simpa [Token.outlasted] using hCond.2
      · rintro j ⟨⟩
        refine ⟨rfl, hOwn.lock ?_, hOwn.clear ?_ ?_ ?_⟩ <;>
          rw [hProgress]
  | endLock j t handing =>
    rcases hCan with ⟨rfl, rfl, hHanding⟩
    rcases exec_endLock j t handing a w with ⟨r, hDone⟩
    rw [hDone]
    refine (effect_endLock (hOrderly.tick a) ?_).of_tick
    intro claims hClaims
    have hProgress := hHanding claims hClaims
    have hPending : Pending w t claims := by
      apply hOwn.pending <;> rw [hProgress]
    refine ⟨hOwn.lock (by rw [hProgress]), ?_⟩
    exact hPending.steady rfl rfl (fun _ h => h)
  | _ => exact absurd hCan id

theorem steady_tick (w : World) (a : Answer) :
    Steady w (w.tick a) :=
  ⟨rfl, rfl, rfl, rfl, fun _ hMem => hMem⟩

/- The token that was signed is not yet handed out. -/
theorem pending_sign
    {w : World}
    {old : Claims}
    {ttl : ℕ}
    {row : String × User}
    (hOrderly : Orderly w)
    (hToken : token = .jwt old)
    (hOld : old ∈ w.issued)
    (hNew :
      w.newToken .refresh old.sub [] false ttl ∉ w.issued)
    (hRow : w.users.get row.1 = some row.2)
    (hId : row.1 = bareUid old.sub)
    (hRenews : row.2.renews old = true) :
    Pending
      (w.signPair (.refresh old)
        (w.newToken .refresh old.sub [] false ttl)) token
      (w.newToken .refresh old.sub [] false ttl) := by
  refine ⟨⟨old, hToken, _, List.mem_cons_self, rfl, rfl⟩, ?_,
    rfl, row.2, ?_, ?_⟩
  · intro hHanded
    exact hNew (hOrderly.handed _ hHanded)
  · rw [← hRow, hId]
    rfl
  · -- The new token is not older than the one before it.
    have hPast := hOrderly.past old hOld
    simp only [User.renews, Bool.and_eq_true,
      Bool.not_eq_true'] at hRenews ⊢
    refine ⟨hRenews.1, ?_⟩
    cases hChanged : row.2.passwordChangedAt with
    | none => rfl
    | some t =>
      have hBefore := hRenews.2
      rw [hChanged] at hBefore
      simp only [Option.any_some,
        decide_eq_false_iff_not] at hBefore ⊢
      change ¬ w.now < t
      omega

/- What a refresh knows after a step of its own. -/
theorem own_rotate
    {s : Settings}
    {w : World}
    (hCan : mayRotate s k token tr o)
    (hCond : Timely s tr o a w)
    (hOrderly : Orderly w)
    (hTime : hasRead tr = true → clock tr ≤ w.now)
    (hTokens : ∀ claims ∈ tokens tr, claims ∈ w.issued)
    (hRows :
      ∀ row ∈ rows tr, w.users.get row.1 = some row.2)
    (hOwn : OwnRefresh k token (progress tr) w) :
    OwnRefresh k token
      (progress (⟨o, a, (exec o a w).1⟩ :: tr))
      (exec o a w).2 := by
  have hTick := hOwn.steady (steady_tick w a)
  cases o with
  | utcNow => exact hTick
  | ensureRevokedTable =>
    rw [exec_still rfl]
    exact hTick
  | verifyToken t =>
    rw [exec_still rfl]
    exact hTick
  | userById id =>
    rw [exec_still rfl]
    exact hTick
  | revokedExpiry t =>
    rcases hCan with ⟨rfl, hRead, hProgress, claims, rfl⟩
    rw [exec_still rfl]
    refine ⟨hTick.lock, ?_, hTick.spent, hTick.pending⟩
    intro _ hCleared _ j hMem
    have hNot :=
      cleared_exec (p := progress tr) (hTime hRead) hCond
        (hOrderly.dead claims j hMem)
    exact absurd (hNot.symm.trans hCleared) (by decide)
  | tryLock j t =>
    rcases hCan with ⟨rfl, rfl, hProgress⟩
    rcases exec_tryLock j t a w with
      ⟨r, hNot, hFail⟩ | ⟨_, hDone⟩
    · rw [hFail]
      have hSame :
          progress (⟨.tryLock j t, a, r⟩ :: tr) =
            progress tr := by
        simp [progress, Progress.after, hNot]
      exact hSame ▸ hTick
    · rw [hDone]
      refine ⟨fun _ => List.mem_cons_self, ?_, ?_, ?_⟩
      · simp [progress, Progress.after, hProgress]
      · simp [progress, Progress.after, hProgress]
      · simp [progress, Progress.after, hProgress]
  | signToken typ sub roles emailVerified ttl =>
    rcases exec_signToken typ sub roles emailVerified ttl a
      w with hSame | hDone
    · rw [hSame]
      exact hTick
    · rw [hDone]
      exact hTick.steady
        ⟨rfl, rfl, rfl, rfl, fun _ hMem => hMem⟩
  | signRefresh via sub ttl =>
    rcases hCan with
      ⟨hProgress, old, hOld, hToken, _, rfl, rfl, _,
        row, hRow, hId, hRenews⟩
    rcases exec_signRefresh (.refresh old) old.sub ttl a w
      with hSame | hDone
    · rw [hSame]
      refine ⟨hTick.lock, hTick.clear, hTick.spent, ?_⟩
      simp [progress, Progress.after, Except.toOption]
    · rw [hDone]
      refine ⟨hTick.lock, hTick.clear, hTick.spent, ?_⟩
      rintro _ claims ⟨⟩
      exact pending_sign (hOrderly.tick a) hToken
        (hTokens old hOld) hCond (hRows row hRow) hId
        hRenews
  | upsertRevoked j t e =>
    rcases hCan with ⟨rfl, rfl, rfl, claims, hProgress⟩
    rcases exec_upsertRevoked (some k) t
      (expiry (clock tr) s.refreshTtl) a w with
      hSame | hDone
    · rw [hSame]
      refine ⟨hTick.lock, ?_, ?_, hTick.pending⟩
      · simpa [progress, Progress.after, Except.isOk,
          Except.toBool] using hTick.clear
      · simpa [progress, Progress.after, Except.isOk,
          Except.toBool] using hTick.spent
    · rw [hDone]
      refine ⟨hTick.lock, ?_, fun _ => List.mem_cons_self,
        ?_⟩
      · simp [progress, Progress.after, Except.isOk,
          Except.toBool]
      · intro hLocked c hSigned
        exact (hTick.pending hLocked c hSigned).steady rfl
          rfl (fun _ h => h)
  | endLock j t handing =>
    rcases hCan with ⟨rfl, rfl, _⟩
    rcases exec_endLock j t handing a w with ⟨r, hDone⟩
    rw [hDone]
    refine ⟨?_, ?_, hTick.spent, ?_⟩
    · simp [progress, Progress.after]
    · simp [progress, Progress.after]
    · simp [progress, Progress.after]
  | _ => exact absurd hCan id

/- A logout keeps the invariant and revokes its token. -/
theorem logout_step
    {s : Settings}
    {w : World}
    (hCan : mayLogout s token tr o)
    (hCond : Timely s tr o a w)
    (hOrderly : Orderly w)
    (hOwn :
      (progress tr).spent = true →
        ∀ claims, token = .jwt claims → Dead w claims) :
    Effect k w (exec o a w).2 ∧
      ((progress (⟨o, a, (exec o a w).1⟩ :: tr)).spent =
          true →
        ∀ claims, token = .jwt claims →
          Dead (exec o a w).2 claims) := by
  have hTick := effect_tick hOrderly k a
  have hLater :
      (progress tr).spent = true →
        ∀ claims, token = .jwt claims →
          Dead (w.tick a) claims :=
    fun hSpent claims hToken =>
      (hOwn hSpent claims hToken).later rfl (w.now_le_tick a)
  cases o with
  | utcNow => exact ⟨hTick, hLater⟩
  | ensureRevokedTable =>
    rw [exec_still rfl]
    exact ⟨hTick, hLater⟩
  | upsertRevoked j t e =>
    rcases hCan with ⟨rfl, rfl, rfl⟩
    rcases exec_upsertRevoked none t
      (expiry (clock tr) s.refreshTtl) a w with
      hSame | hDone
    · rw [hSame]
      refine ⟨hTick, ?_⟩
      simpa [progress, Progress.after, Except.isOk,
        Except.toBool] using hLater
    · rw [hDone]
      have hLong :
          ∀ claims, t = .jwt claims → claims.exp + leeway <
              expiry (clock tr) s.refreshTtl := by
        rintro c rfl
        simpa [Token.outlasted] using hCond.2
      have hNone :
          ∀ j, (none : Option ℕ) = some j →
            j = k ∧ (t, k) ∈ (w.tick a).locks ∧
              ∀ i, (t, i) ∉ (w.tick a).spent := by
        rintro _ ⟨⟩
      refine ⟨(effect_revoke (hOrderly.tick a) hCond.1 hLong
        hNone).of_tick, ?_⟩
      intro _ claims hToken
      exact Dead.revoke (fun hNot => absurd hToken hNot)
        (hLong claims)
  | _ => exact absurd hCan id

/- A cleanup keeps the invariant. -/
theorem effect_cleanup
    {w : World}
    (hCan : mayClean tr o)
    (hOrderly : Orderly w)
    (hTime : hasRead tr = true → clock tr ≤ w.now) :
    Effect k w (exec o a w).2 := by
  have hTick := effect_tick hOrderly k a
  cases o with
  | utcNow => exact hTick
  | ensureRevokedTable =>
    rw [exec_still rfl]
    exact hTick
  | deleteRevoked now =>
    rcases hCan with ⟨rfl, hRead⟩
    rcases exec_deleteRevoked (clock tr) a w with
      hSame | hDone
    · rw [hSame]
      exact hTick
    · rw [hDone]
      refine (effect_clean (hOrderly.tick a) ?_).of_tick
      exact Int.le_trans (hTime hRead) (w.now_le_tick a)
  | _ => exact absurd hCan id

/- A time that was read is not after the time. -/
theorem time_step
    {w : World}
    (hTime : hasRead tr = true → clock tr ≤ w.now) :
    hasRead (⟨o, a, (exec o a w).1⟩ :: tr) = true →
      clock (⟨o, a, (exec o a w).1⟩ :: tr) ≤
        (exec o a w).2.now := by
  intro hRead
  rw [now_exec]
  cases o with
  | utcNow => exact Int.le_refl _
  | _ =>
    exact Int.le_trans (hTime hRead) (w.now_le_tick a)

/- The row that a refresh has read is the one stored. -/
theorem get_of_rotate
    {s : Settings}
    {w : World}
    {row : String × User}
    (hCan : mayRotate s k token tr o)
    (hRow : rowOf ⟨o, a, (exec o a w).1⟩ = some row) :
    w.users.get row.1 = some row.2 := by
  cases o with
  | userById id =>
    cases hFault : a.fault with
    | true =>
      simp [rowOf, exec, act, Answer.guard, hFault,
        Except.toOption] at hRow
    | false =>
      simp only [rowOf, exec, act, Answer.guard, hFault,
        Except.toOption, Bool.false_eq_true, if_false,
        Option.join_some] at hRow
      rcases Option.map_eq_some_iff.mp hRow with
        ⟨user, hGet, rfl⟩
      exact hGet
  | userByEmail email => exact absurd hCan id
  | userByProvider => exact absurd hCan id
  | createUser user => exact absurd hCan id
  | _ => cases hRow

/- What a request has recognised was signed. -/
theorem tokens_step
    {w : World}
    (hTokens : ∀ claims ∈ tokens tr, claims ∈ w.issued) :
    ∀ claims ∈ tokens (⟨o, a, (exec o a w).1⟩ :: tr),
      claims ∈ (exec o a w).2.issued := by
  intro claims hMem
  have hGrown := (grown_exec o a w).issued
  rw [tokens, List.filterMap_cons] at hMem
  cases hToken : tokenOf ⟨o, a, (exec o a w).1⟩ with
  | none =>
    rw [hToken] at hMem
    exact hGrown _ (hTokens claims hMem)
  | some claims' =>
    rw [hToken] at hMem
    rcases List.mem_cons.mp hMem with rfl | hOld
    · exact hGrown _ (mem_of_tokenOf hToken)
    · exact hGrown _ (hTokens claims hOld)

theorem rows_rotate
    {s : Settings}
    {w : World}
    (hCan : mayRotate s k token tr o)
    (hUsers : (exec o a w).2.users = w.users)
    (hRows :
      ∀ row ∈ rows tr, w.users.get row.1 = some row.2) :
    ∀ row ∈ rows (⟨o, a, (exec o a w).1⟩ :: tr),
      (exec o a w).2.users.get row.1 = some row.2 := by
  intro row hMem
  rw [hUsers]
  rw [rows, List.filterMap_cons] at hMem
  cases hRow : rowOf ⟨o, a, (exec o a w).1⟩ with
  | none =>
    rw [hRow] at hMem
    exact hRows row hMem
  | some row' =>
    rw [hRow] at hMem
    rcases List.mem_cons.mp hMem with rfl | hOld
    · exact get_of_rotate hCan hRow
    · exact hRows row hOld

/- What a step of a request leaves and what it learns. -/
theorem spend_step
    {s : Settings}
    {w : World}
    (hSpends : x.1.spends = true)
    (hCan : maySpend s x tr o)
    (hCond : Timely s tr o a w)
    (hOrderly : Orderly w)
    (hOwn : Own x tr w) :
    Effect x.2 w (exec o a w).2 ∧
      Own x (⟨o, a, (exec o a w).1⟩ :: tr)
        (exec o a w).2 := by
  rcases x with ⟨call, k⟩
  have hTime := time_step (o := o) (a := a) hOwn.time
  have hTokens := tokens_step (o := o) (a := a) hOwn.tokens
  cases call with
  | refresh token =>
    have hMine := hOwn.refresh token rfl
    have hRows := hOwn.rows token rfl
    have hEffect := effect_rotate hCan hCond hOrderly hMine
    refine ⟨hEffect, hTime, hTokens, ?_, ?_, ?_⟩
    · rintro _ ⟨⟩
      exact rows_rotate hCan hEffect.frame.users hRows
    · rintro _ ⟨⟩
      exact own_rotate hCan hCond hOrderly hOwn.time
        hOwn.tokens hRows hMine
    · exact fun _ h => nomatch h
  | logout token =>
    have hStep :=
      logout_step (k := k) hCan hCond hOrderly
        (hOwn.logout token rfl)
    refine ⟨hStep.1, hTime, hTokens, (fun _ h => nomatch h),
      (fun _ h => nomatch h), ?_⟩
    rintro _ ⟨⟩
    exact hStep.2
  | cleanup =>
    exact ⟨effect_cleanup hCan hOrderly hOwn.time, hTime,
      hTokens, (fun _ h => nomatch h),
      (fun _ h => nomatch h), (fun _ h => nomatch h)⟩
  | _ => cases hSpends

--------
-- Whole Runs
--------

variable {s : Settings} {calls : List Call} {w : World}
variable
  {c c' : Config Op.Res Answer World (Except Error Reply)}

theorem orderly_of_untouched
    (hStart : Untouched w) :
    Orderly w := by
  refine ⟨?_, ?_, ?_, ?_, hStart.revoked, hStart.handed,
    hStart.past, ?_, ?_⟩
  · rw [hStart.locks]
    exact fun _ _ _ h => nomatch h
  · rw [hStart.locks]
    exact fun _ _ h => nomatch h
  · rw [hStart.spent]
    exact fun _ _ _ h => nomatch h
  · rw [hStart.spent]
    exact fun _ _ h => nomatch h
  · rw [hStart.pairs]
    exact fun _ h => nomatch h
  · rw [hStart.pairs]
    exact fun _ h => nomatch h

theorem own_nil (x : Call × ℕ) (w : World) : Own x [] w := by
  refine ⟨(fun h => nomatch h), (fun _ h => nomatch h),
    (fun _ _ _ h => nomatch h), ?_,
    (fun _ _ h => nomatch h)⟩
  intro token _
  exact ⟨(fun h => nomatch h), (fun h => nomatch h),
    (fun h => nomatch h), (fun h => nomatch h)⟩

theorem session_of_zipIdx
    (hx : calls.zipIdx[i]? = some x) :
    x.2 = i ∧ calls[i]? = some x.1 := by
  simp only [List.getElem?_zipIdx, Nat.zero_add,
    Option.map_eq_some_iff] at hx
  rcases hx with ⟨call, hCall, rfl⟩
  exact ⟨rfl, hCall⟩

theorem mem_of_zipIdx
    (hx : calls.zipIdx[i]? = some x) :
    x.1 ∈ calls :=
  List.mem_of_getElem? (session_of_zipIdx hx).2

theorem spends_of_zipIdx
    (hCalls : ∀ x ∈ calls, x.spends = true)
    (hx : calls.zipIdx[i]? = some x) :
    x.1.spends = true :=
  hCalls _ (mem_of_zipIdx hx)

theorem along_requests
    (hCalls : ∀ x ∈ calls, x.spends = true) :
    ∀ x ∈ calls.zipIdx,
      (x.1.body s x.2).Along Truthful (maySpend s x)
        (Spent x.1) [] := by
  intro x hMem
  rcases List.getElem?_of_mem hMem with ⟨i, hx⟩
  exact along_spends s x (spends_of_zipIdx hCalls hx)

/- One step of a request, for itself and for the others. -/
theorem share_step
    (hCalls : ∀ x ∈ calls, x.spends = true) :
    (∀ (i : ℕ) x tr o a w, calls.zipIdx[i]? = some x →
      maySpend s x tr o → Timely s tr o a w → Orderly w →
        Own x tr w → Orderly (exec o a w).2 ∧
            Own x (⟨o, a, (exec o a w).1⟩ :: tr)
              (exec o a w).2) ∧
      ∀ (i : ℕ) x tr o a w (j : ℕ) y tr', i ≠ j →
        calls.zipIdx[i]? = some x →
          calls.zipIdx[j]? = some y → maySpend s x tr o →
            Timely s tr o a w → Orderly w → Own x tr w →
              Own y tr' w → Own y tr' (exec o a w).2 := by
  constructor
  · intro i x tr o a w hx hCan hCond hOrderly hOwn
    have hStep :=
      spend_step (spends_of_zipIdx hCalls hx) hCan hCond
        hOrderly hOwn
    exact ⟨hStep.1.orderly, hStep.2⟩
  · intro i x tr o a w j y tr' hNe hx hy hCan hCond hOrderly
      hOwn hOther
    have hStep :=
      spend_step (spends_of_zipIdx hCalls hx) hCan hCond
        hOrderly hOwn
    refine hOther.frame hOrderly ?_ hStep.1.frame
    rw [(session_of_zipIdx hx).1, (session_of_zipIdx hy).1]
    exact Ne.symm hNe

/- The invariant and what the requests know, in a run. -/
theorem orderly_of_reach
    (hCalls : ∀ x ∈ calls, x.spends = true)
    (hStart : Untouched w)
    (hReach :
      Reach exec (Timely s)
        (Config.start w (requests s calls)) c) :
    Orderly c.world ∧
      ∀ (i : ℕ) t x, c.threads[i]? = some t →
        calls.zipIdx[i]? = some x →
          Own x t.trace c.world :=
  hReach.shares (fun _ o a w' _ => truthful_exec o a w')
    (along_requests hCalls) (share_step hCalls).1
    (share_step hCalls).2 (orderly_of_untouched hStart)
    (fun _ x _ => own_nil x w)

/- The requests stay within what they may call. -/
theorem within_spends
    (hCalls : ∀ x ∈ calls, x.spends = true)
    (hReach :
      Reach exec (Timely s)
        (Config.start w (requests s calls)) c) :
    c.Within Truthful (maySpend s) (fun x => Spent x.1)
      calls.zipIdx :=
  hReach.within (fun _ o a w' _ => truthful_exec o a w')
    (Config.within_start (along_requests hCalls) w)

/- A refresh that has succeeded has spent its token. -/
theorem spent_of_succeeded
    (hCalls : ∀ x ∈ calls, x.spends = true)
    (hStart : Untouched w)
    (hReach :
      Reach exec (Timely s)
        (Config.start w (requests s calls)) c)
    {out : RefreshResponse}
    (hCall : calls[i]? = some (.refresh token))
    (hDone : Succeeded c i (.refresh out)) :
    (token, i) ∈ c.world.spent := by
  rcases hDone with ⟨tr, hThread⟩
  have hx : calls.zipIdx[i]? = some (.refresh token, i) := by
    simp [hCall]
  rcases within_spends hCalls hReach i _ hThread with
    ⟨x, hx', hPost⟩
  cases hx.symm.trans hx'
  have hOwn :=
    (orderly_of_reach hCalls hStart hReach).2 i _ _ hThread hx
  rcases hPost out rfl with ⟨k, a, past, rfl, hProgress⟩
  refine (hOwn.refresh token rfl).spent ?_
  exact congrArg Progress.spent hProgress

/- A dead token is not cleared. -/
theorem cleared_step
    {w : World}
    (hCan : mayRotate s k token tr o)
    (hCond : Timely s tr o a w)
    (hTime : hasRead tr = true → clock tr ≤ w.now)
    (hDead : ∀ claims, token = .jwt claims → Dead w claims)
    (hCleared : (progress tr).cleared = false) :
    (progress (⟨o, a, (exec o a w).1⟩ :: tr)).cleared =
      false := by
  cases o with
  | revokedExpiry t =>
    rcases hCan with ⟨rfl, hRead, _, claims, rfl⟩
    exact cleared_exec (hTime hRead) hCond (hDead claims rfl)
  | _ => exact hCleared

/- A refresh that begins after the token is dead fails. -/
theorem not_succeeded_of_dead
    (hCalls : ∀ x ∈ calls, x.spends = true)
    (hStart : Untouched w)
    (hReach :
      Reach exec (Timely s)
        (Config.start w (requests s calls)) c)
    {j : ℕ}
    {out : RefreshResponse}
    (hCall : calls[j]? = some (.refresh token))
    (hDead :
      ∀ claims, token = .jwt claims → Dead c.world claims)
    (hBegin : NotBegun c j)
    (hMore : Reach exec (Timely s) c c') :
    ¬ Succeeded c' j (.refresh out) := by
  have hx : calls.zipIdx[j]? = some (.refresh token, j) := by
    simp [hCall]
  have hNow := orderly_of_reach hCalls hStart hReach
  have hOwnStep :
      ∀ (i : ℕ) x tr o a w, calls.zipIdx[i]? = some x →
        maySpend s x tr o → Timely s tr o a w → (Orderly w ∧
            ∀ claims, token = .jwt claims → Dead w claims) →
            (Own x tr w ∧
              (i = j → (progress tr).cleared = false)) →
              (Orderly (exec o a w).2 ∧
                ∀ claims, token = .jwt claims →
                  Dead (exec o a w).2 claims) ∧
                (Own x (⟨o, a, (exec o a w).1⟩ :: tr)
                    (exec o a w).2 ∧
                  (i = j → (progress
                      (⟨o, a, (exec o a w).1⟩ :: tr)).cleared
                        = false)) := by
    intro i x tr o a w hi hCan hCond hInv hOwn
    have hStep :=
      spend_step (spends_of_zipIdx hCalls hi) hCan hCond
        hInv.1 hOwn.1
    refine ⟨⟨hStep.1.orderly, ?_⟩, hStep.2, ?_⟩
    · intro claims hToken
      exact hStep.1.frame.dead claims (hInv.2 claims hToken)
    · rintro rfl
      cases hi.symm.trans hx
      exact cleared_step hCan hCond hOwn.1.time hInv.2
        (hOwn.2 rfl)
  have hShares := hMore.shares_from
      (fun _ o a w' _ => truthful_exec o a w')
      (within_spends hCalls hReach) hOwnStep
      (by
        intro i x tr o a w i' y tr' hNe hi hi' hCan hCond
          hInv hOwn hOther
        exact ⟨(share_step hCalls).2 i x tr o a w i' y tr'
          hNe hi hi' hCan hCond hInv.1 hOwn.1 hOther.1,
          hOther.2⟩)
      ⟨hNow.1, hDead⟩
      (by
        intro i t x hThread hi
        refine ⟨hNow.2 i t x hThread hi, ?_⟩
        rintro rfl
        rcases hBegin with ⟨p, hp⟩
        cases hp.symm.trans hThread
        rfl)
  rintro ⟨tr, hThread⟩
  rcases within_spends hCalls (hReach.trans hMore) j _
    hThread with ⟨x, hx', hPost⟩
  cases hx.symm.trans hx'
  have hCleared := (hShares.2 j _ _ hThread hx).2 rfl
  rcases hPost out rfl with ⟨k, a, past, rfl, hProgress⟩
  have hTrue : (progress past).cleared = true :=
    congrArg Progress.cleared hProgress
  exact absurd (hTrue.symm.trans hCleared) (by decide)

/- The logout of a token has made it dead. -/
theorem dead_of_logout
    (hCalls : ∀ x ∈ calls, x.spends = true)
    (hStart : Untouched w)
    (hReach :
      Reach exec (Timely s)
        (Config.start w (requests s calls)) c)
    {reply : Reply}
    (hCall : calls[i]? = some (.logout token))
    (hDone : Succeeded c i reply) :
    ∀ claims, token = .jwt claims → Dead c.world claims := by
  rcases hDone with ⟨tr, hThread⟩
  have hx : calls.zipIdx[i]? = some (.logout token, i) := by
    simp [hCall]
  rcases within_spends hCalls hReach i _ hThread with
    ⟨x, hx', hPost⟩
  cases hx.symm.trans hx'
  have hOwn :=
    (orderly_of_reach hCalls hStart hReach).2 i _ _ hThread hx
  exact hOwn.logout token rfl (hPost reply rfl)

--------
-- A Following Refresh
--------

open Handler

/- A token that can be exchanged now. -/
structure Ready (w : World) (claims : Claims) : Prop where
  issued : claims ∈ w.issued
  typ : claims.typ = .refresh
  unrevoked : w.revocation (.jwt claims) = none
  renewable : Renewable w claims

/- What a rotation of the token leads to. -/
abbrev Goes
    {α : Type}
    (claims : Claims)
    (p : Handler α)
    (tr : Trace)
    (w : World) : Prop :=
  p.Leads exec (Smooth claims)
    (fun _ r => ∃ out, r = .ok out) tr w

variable {a : Answer} {claims : Claims} {token : Token}

theorem guard_ok
    {α : Type}
    {w : World}
    {e : Error}
    {result : Except Error α × World}
    (hFault : a.fault = false) :
    a.guard w e result = result := by
  simp [Answer.guard, hFault]

theorem goes_revoke
    (s : Settings)
    (session : ℕ)
    (claims : Claims)
    (tokens : Claims × Claims)
    (tr : Trace)
    (w : World) :
    Goes claims
      (andThen (revokeToken (some session) (.jwt claims)
          s.refreshTtl)
        fun _ =>
          (ok ⟨tokens.1, tokens.2⟩ :
            Handler RefreshResponse)) tr w := by
  refine Prog.Leads.call (fun a _ => ⟨_, _, rfl, ?_⟩)
  refine Prog.Leads.call (fun a h =>
    ⟨_, _, guard_ok h.1, ?_⟩)
  refine Prog.Leads.call (fun a h =>
    ⟨_, _, guard_ok h.1, ?_⟩)
  exact ⟨_, rfl⟩

theorem verify_of_ready
    {w : World}
    (hReady : Ready w claims)
    (hTime : (w.tick a).now ≤ claims.exp + leeway) :
    exec (.verifyToken (.jwt claims)) a w =
      (.ok claims, w.tick a) := by
  have hAccepts : (w.tick a).accepts claims = true := by
    have hMem : claims ∈ (w.tick a).issued := hReady.issued
    simp [World.accepts, hMem, hTime]
  simp only [exec, act, hAccepts]
  rfl

theorem lookup_of_unrevoked
    {w : World}
    (hFault : a.fault = false)
    (hNone : w.revocation token = none) :
    exec (.revokedExpiry token) a w = (.ok none, w.tick a) := by
  have hNone' : (w.tick a).revocation token = none := hNone
  rw [← hNone']
  exact guard_ok hFault

theorem userById_of_get
    {w : World}
    {id : String}
    {user : User}
    (hFault : a.fault = false)
    (hGet : w.users.get id = some user) :
    exec (.userById id) a w =
      (.ok (some (id, user)), w.tick a) := by
  have hRow :
      ((w.tick a).users.get id).map (fun u => (id, u)) =
        some (id, user) := by
    change (w.users.get id).map _ = _
    rw [hGet]
    rfl
  rw [← hRow]
  exact guard_ok hFault

theorem goes_rotate
    (s : Settings)
    (session : ℕ)
    {w : World}
    (hReady : Ready w claims)
    (tr : Trace) :
    Goes claims (rotate s session (.jwt claims)) tr w := by
  rcases hReady.renewable with ⟨user, hGet, hRenews⟩
  simp only [User.renews, Bool.and_eq_true,
    Bool.not_eq_true'] at hRenews
  refine Prog.Leads.call (fun a h =>
    ⟨_, _, verify_of_ready hReady h.2.2, ?_⟩)
  change Prog.Leads _ _ _ _ _
    (andThen (require (decide (claims.typ = .refresh)) _ _) _)
  rw [decide_eq_true hReady.typ]
  refine Prog.Leads.call (fun a₁ _ => ⟨_, _, rfl, ?_⟩)
  refine Prog.Leads.call (fun a₂ h =>
    ⟨_, _, guard_ok h.1, ?_⟩)
  refine Prog.Leads.call (fun a₃ h =>
    ⟨_, _, lookup_of_unrevoked h.1 hReady.unrevoked, ?_⟩)
  refine Prog.Leads.call (fun a₄ h =>
    ⟨_, _, userById_of_get h.1 hGet, ?_⟩)
  change Prog.Leads _ _ _ _ _
    (andThen (lift (ensureUserNotDisabled user)) _)
  rw [show ensureUserNotDisabled user = .ok () by
    simp [ensureUserNotDisabled, hRenews.1]]
  change Prog.Leads _ _ _ _ _
    (require (!user.passwordChangedAt.any _) _ _)
  rw [hRenews.2]
  refine Prog.Leads.call (fun a₅ h =>
    ⟨_, _, guard_ok h.1, ?_⟩)
  refine Prog.Leads.call (fun a₆ h =>
    ⟨_, _, guard_ok h.1, ?_⟩)
  exact goes_revoke s session claims _ _ _

theorem goes_refresh
    (s : Settings)
    (session : ℕ)
    {w : World}
    (hReady : Ready w claims)
    (hFree : ∀ k, (Token.jwt claims, k) ∉ w.locks) :
    Goes claims (refresh s session (.jwt claims)) [] w := by
  have hLock :
      ∀ a, a.fault = false → a.verdict = true →
        exec (.tryLock session (.jwt claims)) a w =
          (.ok true,
            { w.tick a with
              locks :=
                (.jwt claims, session) :: w.locks }) := by
    intro a hFault hVerdict
    refine (guard_ok hFault).trans (if_pos ?_)
    rw [hVerdict, Bool.true_and, Bool.not_eq_true',
      List.any_eq_false]
    intro row hMem hToken
    have hEq : row.1 = .jwt claims := by simpa using hToken
    exact hFree row.2 (hEq ▸ hMem)
  refine Prog.Leads.call (fun a h =>
    ⟨_, _, hLock a h.1 h.2.1, ?_⟩)
  have hReady' :
      Ready
        { w.tick a with
          locks := (.jwt claims, session) :: w.locks }
        claims :=
    ⟨hReady.issued, hReady.typ, hReady.unrevoked,
      hReady.renewable⟩
  change Prog.Leads _ _ _ _ _
    ((rotate s session (.jwt claims)).bind _)
  refine Prog.Leads.bind (goes_rotate s session hReady' _) ?_
  rintro tr w' r ⟨out, rfl⟩
  refine Prog.Leads.call (fun a h => ?_)
  rcases exec_endLock session (.jwt claims)
    (some out.refreshToken) a w' with ⟨r, hDone⟩
  have hOk : r = .ok () := by
    have hRes :
        (exec (.endLock session (.jwt claims)
          (some out.refreshToken)) a w').1 = .ok () := by
      simp only [exec, act, h.1, Bool.false_eq_true, if_false]
      rfl
    rw [hDone] at hRes
    exact hRes
  subst hOk
  exact ⟨_, _, hDone, ⟨_, rfl⟩⟩

--------
-- Rotation
--------

variable {s : Settings} {calls : List Call} {w : World}
variable
  {c c' : Config Op.Res Answer World (Except Error Reply)}

/- A token that is handed out can be exchanged. -/
theorem ready_of_endLock
    {k : ℕ}
    (hOrderly : Orderly w)
    (hPending : Pending w token claims) :
    Ready (exec (.endLock k token (some claims)) a w).2
        claims ∧
      ∀ j,
        (Token.jwt claims, j) ∉
          (exec (.endLock k token (some claims)) a
            w).2.locks := by
  rcases exec_endLock k token (some claims) a w with
    ⟨r, hDone⟩
  rw [hDone]
  rcases hPending.pair with ⟨old, _, p, hp, hEq, _⟩
  refine ⟨⟨hEq ▸ hOrderly.pairs p hp, hPending.typ, ?_,
    hPending.renewable⟩, ?_⟩
  · refine Option.map_eq_none_iff.mpr ?_
    refine List.find?_eq_none.mpr ?_
    intro row hMem hToken
    have hRow : row.1 = .jwt claims := by simpa using hToken
    exact hPending.kept
      (hOrderly.revoked claims row.2 (hRow ▸ hMem))
  · intro j hMem
    exact hPending.kept
      (hOrderly.known claims j (List.mem_filter.mp hMem).1)

/- The token that a refresh returns can be exchanged. -/
theorem ready_of_succeeded
    (hCalls : ∀ x ∈ calls, x.spends = true)
    (hStart : Untouched w)
    (hReach :
      Reach exec (Timely s)
        (Config.start w (requests s calls)) c)
    {i : ℕ}
    {out : RefreshResponse}
    (hCall : calls[i]? = some (.refresh token))
    (hStep : c.step exec i a = some c')
    (hAllowed : c.Allowed (Timely s) i a)
    (hDone : Succeeded c' i (.refresh out)) :
    Ready c'.world out.refreshToken ∧
      ∀ j, (Token.jwt out.refreshToken, j) ∉
        c'.world.locks := by
  rcases hDone with ⟨tr', hThread'⟩
  have hx : calls.zipIdx[i]? = some (.refresh token, i) := by
    simp [hCall]
  rcases within_spends hCalls (hReach.step hStep hAllowed) i _
    hThread' with ⟨x, hx', hPost⟩
  cases hx.symm.trans hx'
  rcases hPost out rfl with ⟨k, b, past, rfl, hProgress⟩
  rcases Config.step_eq_some_iff.mp hStep with
    ⟨tr, o, next, hThread, rfl⟩
  have hLt := (List.getElem?_eq_some_iff.mp hThread).1
  rw [List.getElem?_set_self hLt] at hThread'
  -- The last event of the thread is that of this step.
  have hTrace := congrArg Thread.trace (Option.some.inj hThread')
  rcases List.cons.inj hTrace with ⟨hEvent, rfl⟩
  have hOp := congrArg Event.op hEvent
  subst hOp
  have hOrderly := orderly_of_reach hCalls hStart hReach
  have hOwn := hOrderly.2 i _ _ hThread hx
  have hPending : Pending c.world token out.refreshToken := by
    apply (hOwn.refresh token rfl).pending
    · exact congrArg Progress.locked hProgress
    · exact congrArg Progress.signed hProgress
  exact ready_of_endLock hOrderly.1 hPending

/-
  In a run whose steps are timely, every refresh token is
  exchanged once and the one it is exchanged for is live.
-/
theorem rotates_of_reach
    (hCalls : ∀ x ∈ calls, x.spends = true)
    (hStart : Untouched w)
    (hReach :
      Reach exec (Timely s)
        (Config.start w (requests s calls)) c) :
    Rotates (Timely s) s calls c := by
  refine ⟨?_, ?_, ?_⟩
  · intro i j token out out' hi hj hDone hDone'
    exact (orderly_of_reach hCalls hStart hReach).1.once token
      i j
      (spent_of_succeeded hCalls hStart hReach hi hDone)
      (spent_of_succeeded hCalls hStart hReach hj hDone')
  · intro i j token reply out d hi hj hDone hBegin hMore
    exact not_succeeded_of_dead hCalls hStart hReach hj
      (dead_of_logout hCalls hStart hReach hi hDone) hBegin
      hMore
  · intro i a d token out hi hStep hAllowed hDone
    rcases ready_of_succeeded hCalls hStart hReach hi hStep
      hAllowed hDone with ⟨hReady, hFree⟩
    exact ⟨hReady.unrevoked,
      fun session => goes_refresh s session hReady hFree⟩

--------
-- Runs
--------

/- The reply of a request that has ended well. -/
def replyOf
    (c : Config Op.Res Answer World (Except Error Reply))
    (i : ℕ) : Option Reply :=
  match c.threads[i]? with
  | some ⟨_, .ret (.ok reply)⟩ => some reply
  | _ => none

/- The tokens of a request that has exchanged one. -/
def exchanged
    (c : Config Op.Res Answer World (Except Error Reply))
    (i : ℕ) : Option RefreshResponse :=
  match replyOf c i with
  | some (.refresh out) => some out
  | _ => none

theorem succeeded_of_replyOf
    {c : Config Op.Res Answer World (Except Error Reply)}
    {i : ℕ}
    {reply : Reply}
    (hReply : replyOf c i = some reply) :
    Succeeded c i reply := by
  unfold replyOf at hReply
  split at hReply
  · rename_i tr reply' hThread
    cases hReply
    exact ⟨tr, hThread⟩
  · cases hReply

theorem succeeded_of_exchanged
    {c : Config Op.Res Answer World (Except Error Reply)}
    {i : ℕ}
    (hSome : (exchanged c i).isSome = true) :
    ∃ out, Succeeded c i (.refresh out) := by
  unfold exchanged at hSome
  split at hSome
  · rename_i out hReply
    exact ⟨out, succeeded_of_replyOf hReply⟩
  · cases hSome

instance timelyDecidable
    (s : Settings)
    (tr : Trace)
    (o : Op)
    (a : Answer)
    (w : World) : Decidable (Timely s tr o a w) := by
  apply Op.casesOn
    (motive := fun o => Decidable (Timely s tr o a w)) o
  case revokedExpiry =>
    intro token
    apply Token.casesOn (motive := fun token =>
        Decidable (Timely s tr (.revokedExpiry token) a w))
      token <;>
    intros <;> dsimp only [Timely] <;> infer_instance
  all_goals intros; dsimp only [Timely]; infer_instance

instance presentedDecidable
    (tr : Trace)
    (o : Op)
    (a : Answer)
    (w : World) : Decidable (Presented tr o a w) := by
  apply Op.casesOn
    (motive := fun o => Decidable (Presented tr o a w)) o <;>
  intros <;> dsimp only [Presented] <;> infer_instance

/- A refresh token of a week, signed at the given time. -/
def weekToken (iat : Int) : Claims where
  sub := "u1"
  iat := iat
  exp := iat + 604800
  typ := .refresh

/- A user with the first of these tokens. -/
def oneSession : World where
  users := ⟨[("u1", { roles := ["user"] })]⟩
  issued := [weekToken 0]
  handed := [.jwt (weekToken 0)]

theorem untouched_oneSession : Untouched oneSession where
  locks := rfl
  spent := rfl
  pairs := rfl
  revoked _ _ hMem := nomatch hMem
  handed claims hMem := by
    simpa [oneSession] using hMem
  past := by decide

/- The steps of a request at a given time. -/
def stepsAt (i n : ℕ) (now : Int) : List (ℕ × Answer) :=
  List.replicate n (i, { now := now })

/- Two exchanges, a logout, one more attempt and a cleanup. -/
def exchanges : List Call :=
  [.refresh (.jwt (weekToken 0)),
    .refresh (.jwt (weekToken 100)),
    .logout (.jwt (weekToken 200)),
    .refresh (.jwt (weekToken 200)),
    .cleanup]

theorem rotates_exchanges :
    ∃ c : Config Op.Res Answer World (Except Error Reply),
      Reach exec (Timely {})
        (Config.start oneSession (requests {} exchanges)) c ∧
        c.Quiet ∧ (exchanged c 0).isSome = true ∧
        (exchanged c 1).isSome = true ∧
        Rotates (Timely {}) {} exchanges c := by
  have hRun :
      ((Config.start oneSession (requests {} exchanges)).run
        exec
        (stepsAt 0 12 100 ++ stepsAt 1 12 200 ++
          stepsAt 2 3 300 ++ stepsAt 3 6 300 ++
          stepsAt 4 3 301)).any (fun c =>
            decide c.Quiet && (exchanged c 0).isSome &&
              (exchanged c 1).isSome) = true := by
    decide
  rcases (Option.any_eq_true _ _).mp hRun with
    ⟨c, hRun, hEnd⟩
  simp only [Bool.and_eq_true, decide_eq_true_eq] at hEnd
  have hReach :
      Reach exec (Timely {})
        (Config.start oneSession (requests {} exchanges)) c :=
    Reach.of_run hRun (by decide)
  exact ⟨c, hReach, hEnd.1.1, hEnd.1.2, hEnd.2,
    rotates_of_reach (by decide) untouched_oneSession hReach⟩

/-
  A token that was exchanged ten seconds after it was signed
  is exchanged again a week later, when its revocation has
  ended but the token is still accepted.
-/
theorem not_rotates_week_later :
    ¬ ∀ s calls w
        (c : Config Op.Res Answer World (Except Error Reply)),
      (∀ x ∈ calls, x.spends = true) → Untouched w →
        Reach exec Presented
          (Config.start w (requests s calls)) c →
          Rotates Presented s calls c := by
  intro hAll
  let calls : List Call := [.refresh (.jwt (weekToken 0)),
      .refresh (.jwt (weekToken 0))]
  have hRun :
      ((Config.start oneSession (requests {} calls)).run exec
        (stepsAt 0 12 10 ++ stepsAt 1 12 604815)).any (fun c =>
          (exchanged c 0).isSome &&
            (exchanged c 1).isSome) = true := by
    decide
  rcases (Option.any_eq_true _ _).mp hRun with
    ⟨c, hRun, hEnd⟩
  have hReach :
      Reach exec Presented
        (Config.start oneSession (requests {} calls)) c :=
    Reach.of_run hRun (by decide)
  simp only [Bool.and_eq_true] at hEnd
  rcases succeeded_of_exchanged hEnd.1 with ⟨out, hFirst⟩
  rcases succeeded_of_exchanged hEnd.2 with ⟨out', hSecond⟩
  have hOnce := (hAll {} calls oneSession c (by decide)
      untouched_oneSession hReach).once 0 1
      (.jwt (weekToken 0)) out out' rfl rfl hFirst hSecond
  cases hOnce

end Orignabase.Auth
