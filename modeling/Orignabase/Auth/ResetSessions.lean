import Orignabase.Auth.SingleUse

/-
  The reset of a password ends the sessions before it.

  A refresh is turned away when its token was signed before
  the second of the last reset.  That is judged on the
  document as it was read, so a reset must not come between
  the reading and the signing, and no token may be signed in
  the second of the reset.

  Key definitions include:
    * `Separate`
    * `EndsSessions`

  Main results:
    * `endsSessions_of_reach`
-/

--------
-- Conditions And Results
--------

namespace Orignabase.Auth

open Conc

/- A refresh token of the user with the given id. -/
def Claims.renewsFor (claims : Claims) (id : String) : Bool :=
  claims.typ = .refresh && bareUid claims.sub = id

/-
  No password was reset since the document of the user was
  read, and every token of the user was signed before the
  second of the reset.
-/
def Separate : StepCond Op.Res Answer World
  | tr, .signRefresh _ sub _, _, w =>
    ∀ row ∈ rows tr, row.1 = bareUid sub →
      (w.users.get row.1).map User.passwordChangedAt =
        some row.2.passwordChangedAt
  | tr, .updateUser _ id _, _, w =>
    ∀ claims ∈ w.issued,
      claims.renewsFor (bareId id) = true →
        claims.iat < clock tr
  | _, _, _, _ => True

/-
  No refresh with one of the given tokens that begins after a
  reset of the password of its user has ended well succeeds.
-/
def EndsSessions
    (cond : StepCond Op.Res Answer World)
    (calls : List Call)
    (given : Claims → Prop)
    (c : Config Op.Res Answer World (Except Error Reply)) :
    Prop :=
  ∀ i j body reset claims reply out c', given claims →
    calls[i]? = some (.resetPassword body) →
      body.token = .jwt reset →
        calls[j]? = some (.refresh (.jwt claims)) →
          bareUid claims.sub = bareId reset.sub →
            Succeeded c i reply → NotBegun c j →
              Reach exec cond c c' →
                ¬ Succeeded c' j (.refresh out)

/- The requests of such a run. -/
def Call.renewsOrResets : Call → Bool
  | .refresh _ => true
  | .resetPassword _ => true
  | _ => false

--------
-- Users Whose Sessions Have Ended
--------

/- All tokens of the user are older than the password. -/
def Closed (w : World) (id : String) : Prop :=
  ∃ user changed, w.users.get id = some user ∧
      user.passwordChangedAt = some changed ∧
      ∀ claims ∈ w.issued, claims.renewsFor id = true →
        claims.iat < changed

theorem Closed.alike
    {w w' : World}
    {id : String}
    (hClosed : Closed w id)
    (hUsers : w'.users = w.users)
    (hIssued :
      ∀ claims ∈ w'.issued, claims.renewsFor id = true →
        claims ∈ w.issued) :
    Closed w' id := by
  rcases hClosed with ⟨user, changed, hGet, hChanged, hOld⟩
  refine ⟨user, changed, ?_, hChanged, ?_⟩
  · rw [hUsers]
    exact hGet
  · intro claims hMem hUser
    exact hOld claims (hIssued claims hMem hUser) hUser

/- What a refresh may sign, and what a reset may write. -/
def mayRenew (s : Settings) (x : Call × ℕ) :
    Trace → Op → Prop :=
  match x.1 with
  | .refresh token => mayRotate s x.2 token
  | .resetPassword body => mayReset body.token
  | _ => fun _ _ => True

/- What such a request has done when it ends well. -/
def Renewed (x : Call × ℕ) :
    Trace → Except Error Reply → Prop :=
  match x.1 with
  | .resetPassword _ => Written
  | call => Spent call

theorem along_renews
    (s : Settings)
    (x : Call × ℕ)
    (hCall : x.1.renewsOrResets = true) :
    (x.1.body s x.2).Along Truthful (mayRenew s x)
      (Renewed x) [] := by
  rcases x with ⟨call, session⟩
  cases call with
  | refresh token => exact along_refresh s session token
  | resetPassword body => exact along_reset s session body
  | _ => cases hCall

variable {tr : Trace} {k : ℕ} {token : Token} {a : Answer}
variable {o : Op} {x : Call × ℕ} {claims : Claims}

/- A refresh for such a user signs nothing. -/
theorem not_renews_of_closed
    {w : World}
    {old : Claims}
    {row : String × User}
    (hClosed : Closed w (bareUid old.sub))
    (hOld : old ∈ w.issued)
    (hTyp : old.typ = .refresh)
    (hRow : row ∈ rows tr)
    (hId : row.1 = bareUid old.sub)
    (hSame :
      ∀ row ∈ rows tr, row.1 = bareUid old.sub →
        (w.users.get row.1).map User.passwordChangedAt =
          some row.2.passwordChangedAt) :
    row.2.renews old = false := by
  rcases hClosed with ⟨user, changed, hGet, hChanged, hAll⟩
  have hStored := hSame row hRow hId
  rw [hId, hGet, Option.map_some, hChanged] at hStored
  have hBefore : old.iat < changed :=
    hAll old hOld (by simp [Claims.renewsFor, hTyp])
  simp [User.renews, ← Option.some.inj hStored, hBefore]

theorem not_sign_of_closed
    {s : Settings}
    {via : Origin}
    {sub : String}
    {ttl : ℕ}
    {w : World}
    (hCan :
      mayRotate s k token tr (.signRefresh via sub ttl))
    (hCond : Separate tr (.signRefresh via sub ttl) a w)
    (hTokens : ∀ claims ∈ tokens tr, claims ∈ w.issued) :
    ¬ Closed w (bareUid sub) := by
  intro hClosed
  rcases hCan with
    ⟨_, old, hOld, _, hTyp, _, rfl, _, row, hRow, hId,
      hRenews⟩
  have hNot :=
    not_renews_of_closed hClosed (hTokens old hOld) hTyp hRow
      hId hCond
  exact absurd (hNot.symm.trans hRenews) (by decide)

/- A user stays closed whatever a refresh does. -/
theorem closed_rotate
    {s : Settings}
    {w : World}
    {id : String}
    (hCan : mayRotate s k token tr o)
    (hCond : Separate tr o a w)
    (hTokens : ∀ claims ∈ tokens tr, claims ∈ w.issued)
    (hClosed : Closed w id) :
    Closed (exec o a w).2 id := by
  have hTick : Closed (w.tick a) id :=
    hClosed.alike rfl (fun _ hMem _ => hMem)
  by_cases hQuiet : o.isQuiet = true
  · have hAlike := exec_quiet hQuiet a w
    refine hClosed.alike hAlike.users ?_
    rw [hAlike.issued]
    exact fun _ hMem _ => hMem
  cases o with
  | signToken typ sub roles emailVerified ttl =>
    cases (hCan : typ = .access)
    rcases exec_signToken .access sub roles emailVerified
      ttl a w with hSame | hDone
    · rw [hSame]
      exact hTick
    · rw [hDone]
      refine hTick.alike rfl ?_
      intro claims hMem hUser
      rcases List.mem_cons.mp hMem with rfl | hOld
      · simp [Claims.renewsFor, World.newToken] at hUser
      · exact hOld
  | signRefresh via sub ttl =>
    rcases exec_signRefresh via sub ttl a w with
      hSame | hDone
    · rw [hSame]
      exact hTick
    · rw [hDone]
      refine hTick.alike rfl ?_
      intro claims hMem hUser
      rcases List.mem_cons.mp hMem with rfl | hOld
      · simp only [Claims.renewsFor,
          Bool.and_eq_true] at hUser
        have hId : bareUid sub = id :=
          of_decide_eq_true hUser.2
        exact absurd (hId ▸ hClosed)
          (not_sign_of_closed hCan hCond hTokens)
      · exact hOld
  | createUser user => exact hCan.elim
  | updateUser caller target patch => exact hCan.elim
  | _ => exact absurd rfl hQuiet

/- A reset closes its user. -/
theorem closed_update
    {w : World}
    {caller id hash : String}
    {now : Int}
    (hSome : (w.users.get id).isSome = true)
    (hBefore :
      ∀ claims ∈ w.issued, claims.renewsFor id = true →
        claims.iat < now) :
    Closed (w.update caller id (resetPatch hash now)) id := by
  rcases Option.isSome_iff_exists.mp hSome with ⟨user, hGet⟩
  refine ⟨(resetPatch hash now).apply user, now, ?_, rfl,
    hBefore⟩
  change
    (w.users.modify id (resetPatch hash now).apply).get id =
      _
  rw [Table.get_modify, if_pos rfl, hGet]
  rfl

/- A user stays closed whatever a reset does. -/
theorem closed_reset
    {w : World}
    {id : String}
    (hCan : mayReset token tr o)
    (hCond : Separate tr o a w)
    (hClosed : Closed w id) :
    Closed (exec o a w).2 id := by
  have hTick : Closed (w.tick a) id :=
    hClosed.alike rfl (fun _ hMem _ => hMem)
  by_cases hQuiet : o.isQuiet = true
  · have hAlike := exec_quiet hQuiet a w
    refine hClosed.alike hAlike.users ?_
    rw [hAlike.issued]
    exact fun _ hMem _ => hMem
  cases o with
  | updateUser caller target patch =>
    rcases hCan with ⟨claims, _, _, _, hash, rfl⟩
    rcases exec_updateUser caller target
      (resetPatch hash (clock tr)) a w with
      ⟨hSame, _⟩ | ⟨hSome, hDone⟩
    · rw [hSame]
      exact hTick
    · rw [hDone]
      by_cases hId : bareId target = id
      · subst hId
        exact closed_update hSome hCond
      · rcases hTick with
          ⟨user, changed, hGet, hChanged, hAll⟩
        refine ⟨user, changed, ?_, hChanged, hAll⟩
        rw [← hGet]
        change (w.users.modify _ _).get id = _
        rw [Table.get_modify, if_neg (Ne.symm hId)]
        rfl
  | signToken => exact hCan.elim
  | signRefresh => exact hCan.elim
  | createUser user => exact hCan.elim
  | _ => exact absurd rfl hQuiet

--------
-- Whole Runs
--------

variable {s : Settings} {calls : List Call} {w : World}
variable
  {c c' : Config Op.Res Answer World (Except Error Reply)}

/- What a request knows of the tokens of its user. -/
structure OwnSession
    (x : Call × ℕ)
    (tr : Trace)
    (w : World) : Prop where
  tokens : ∀ claims ∈ tokens tr, claims ∈ w.issued
  closed :
    ∀ body claims, x.1 = .resetPassword body →
      body.token = .jwt claims → hasWritten tr = true →
        Closed w (bareId claims.sub)

theorem closed_step
    {w : World}
    {id : String}
    (hCall : x.1.renewsOrResets = true)
    (hCan : mayRenew s x tr o)
    (hCond : Separate tr o a w)
    (hOwn : OwnSession x tr w)
    (hClosed : Closed w id) :
    Closed (exec o a w).2 id := by
  rcases x with ⟨call, k⟩
  cases call with
  | refresh token =>
    exact closed_rotate hCan hCond hOwn.tokens hClosed
  | resetPassword body =>
    exact closed_reset hCan hCond hClosed
  | _ => cases hCall

/- A reset that has written has closed its user. -/
theorem closed_of_wrote
    {body : ResetPasswordRequest}
    {w : World}
    (hCan : mayReset body.token tr o)
    (hCond : Separate tr o a w)
    (hToken : body.token = .jwt claims)
    (hWrote : wrote ⟨o, a, (exec o a w).1⟩ = true) :
    Closed (exec o a w).2 (bareId claims.sub) := by
  cases o with
  | updateUser caller target patch =>
    rcases hCan with ⟨old, _, hOld, rfl, hash, rfl⟩
    cases hToken.symm.trans hOld
    rcases exec_updateUser caller claims.sub
      (resetPatch hash (clock tr)) a w with
      ⟨_, hFailed⟩ | ⟨hSome, hDone⟩
    · exact absurd (hFailed.symm.trans hWrote) (by decide)
    · rw [hDone]
      exact closed_update hSome hCond
  | _ => cases hWrote

theorem ownSession_step
    {w : World}
    (hCall : x.1.renewsOrResets = true)
    (hCan : mayRenew s x tr o)
    (hCond : Separate tr o a w)
    (hOwn : OwnSession x tr w) :
    OwnSession x (⟨o, a, (exec o a w).1⟩ :: tr)
      (exec o a w).2 := by
  refine ⟨tokens_step hOwn.tokens, ?_⟩
  intro body claims hBody hToken hWritten
  simp only [hasWritten, List.any_cons,
    Bool.or_eq_true] at hWritten
  rcases hWritten with hNow | hBefore
  · rcases x with ⟨call, k⟩
    cases hBody
    exact closed_of_wrote hCan hCond hToken hNow
  · exact closed_step hCall hCan hCond hOwn
      (hOwn.closed body claims hBody hToken hBefore)

theorem OwnSession.other
    {y : Call × ℕ}
    {tr' : Trace}
    {w : World}
    (hOther : OwnSession y tr' w)
    (hCall : x.1.renewsOrResets = true)
    (hCan : mayRenew s x tr o)
    (hCond : Separate tr o a w)
    (hOwn : OwnSession x tr w) :
    OwnSession y tr' (exec o a w).2 := by
  refine ⟨?_, ?_⟩
  · intro claims hMem
    exact (grown_exec o a w).issued _
      (hOther.tokens claims hMem)
  · intro body claims hBody hToken hWritten
    exact closed_step hCall hCan hCond hOwn
      (hOther.closed body claims hBody hToken hWritten)

theorem within_renews
    (hCalls : ∀ x ∈ calls, x.renewsOrResets = true)
    (hReach :
      Reach exec Separate
        (Config.start w (requests s calls)) c) :
    c.Within Truthful (mayRenew s) Renewed calls.zipIdx := by
  refine hReach.within
    (fun _ o a w' _ => truthful_exec o a w')
    (Config.within_start ?_ w)
  intro x hMem
  rcases List.getElem?_of_mem hMem with ⟨i, hx⟩
  exact along_renews s x (hCalls _ (mem_of_zipIdx hx))

/- The requests of a run know their tokens. -/
theorem ownSession_of_reach
    (hCalls : ∀ x ∈ calls, x.renewsOrResets = true)
    (hReach :
      Reach exec Separate
        (Config.start w (requests s calls)) c) :
    ∀ (i : ℕ) t x, c.threads[i]? = some t →
      calls.zipIdx[i]? = some x →
        OwnSession x t.trace c.world := by
  have hOwnStep :
      ∀ (i : ℕ) x tr o a w, calls.zipIdx[i]? = some x →
        mayRenew s x tr o → Separate tr o a w → True →
          OwnSession x tr w → True ∧
              OwnSession x (⟨o, a, (exec o a w).1⟩ :: tr)
                (exec o a w).2 :=
    fun i x tr o a w hx hCan hCond _ hOwn =>
      ⟨trivial, ownSession_step (hCalls _ (mem_of_zipIdx hx))
        hCan hCond hOwn⟩
  have hShares := hReach.shares_from
      (fun _ o a w' _ => truthful_exec o a w')
      (within_renews hCalls Reach.refl) hOwnStep
      (fun i x tr o a w j y tr' _ hx _ hCan hCond _ hOwn
        hOther =>
        hOther.other (hCalls _ (mem_of_zipIdx hx)) hCan hCond
          hOwn)
      trivial
      (by
        intro i t x hThread _
        simp only [Config.start, List.getElem?_map,
          Option.map_eq_some_iff] at hThread
        rcases hThread with ⟨p, _, rfl⟩
        exact ⟨(by rintro _ ⟨⟩), (by rintro _ _ _ _ ⟨⟩)⟩)
  exact hShares.2

/- A refresh for a closed user signs nothing. -/
theorem unsigned_step
    {w : World}
    (hCan : mayRotate s k (.jwt claims) tr o)
    (hCond : Separate tr o a w)
    (hTokens : ∀ claims ∈ tokens tr, claims ∈ w.issued)
    (hClosed : Closed w (bareUid claims.sub))
    (hUnsigned : (progress tr).signed = none) :
    (progress (⟨o, a, (exec o a w).1⟩ :: tr)).signed =
      none := by
  cases o with
  | signRefresh via sub ttl =>
    have hNot := not_sign_of_closed hCan hCond hTokens
    rcases hCan with ⟨_, old, _, hOld, _, _, rfl, _⟩
    cases hOld
    exact absurd hClosed hNot
  | _ => exact hUnsigned

/- A refresh that begins when its user is closed fails. -/
theorem not_succeeded_of_closed
    (hCalls : ∀ x ∈ calls, x.renewsOrResets = true)
    (hReach :
      Reach exec Separate
        (Config.start w (requests s calls)) c)
    {j : ℕ}
    {out : RefreshResponse}
    (hCall : calls[j]? = some (.refresh (.jwt claims)))
    (hClosed : Closed c.world (bareUid claims.sub))
    (hBegin : NotBegun c j)
    (hMore : Reach exec Separate c c') :
    ¬ Succeeded c' j (.refresh out) := by
  have hx :
      calls.zipIdx[j]? =
        some (.refresh (.jwt claims), j) := by
    simp [hCall]
  have hNow := ownSession_of_reach hCalls hReach
  have hOwnStep :
      ∀ (i : ℕ) x tr o a w, calls.zipIdx[i]? = some x →
        mayRenew s x tr o → Separate tr o a w →
          Closed w (bareUid claims.sub) →
            (OwnSession x tr w ∧
              (i = j → (progress tr).signed = none)) →
              Closed (exec o a w).2 (bareUid claims.sub) ∧
                (OwnSession x (⟨o, a, (exec o a w).1⟩ :: tr)
                    (exec o a w).2 ∧
                  (i = j → (progress
                      (⟨o, a, (exec o a w).1⟩ :: tr)).signed
                        = none)) := by
    intro i x tr o a w hi hCan hCond hInv hOwn
    have hKind := hCalls _ (mem_of_zipIdx hi)
    refine ⟨closed_step hKind hCan hCond hOwn.1 hInv,
      ownSession_step hKind hCan hCond hOwn.1, ?_⟩
    rintro rfl
    cases hi.symm.trans hx
    exact unsigned_step hCan hCond hOwn.1.tokens hInv
      (hOwn.2 rfl)
  have hShares := hMore.shares_from
      (fun _ o a w' _ => truthful_exec o a w')
      (within_renews hCalls hReach) hOwnStep
      (by
        intro i x tr o a w i' y tr' _ hi _ hCan hCond _ hOwn
          hOther
        exact ⟨hOther.1.other (hCalls _ (mem_of_zipIdx hi))
          hCan hCond hOwn.1, hOther.2⟩)
      hClosed
      (by
        intro i t x hThread hi
        refine ⟨hNow i t x hThread hi, ?_⟩
        rintro rfl
        rcases hBegin with ⟨p, hp⟩
        cases hp.symm.trans hThread
        rfl)
  rintro ⟨tr, hThread⟩
  rcases within_renews hCalls (hReach.trans hMore) j _
    hThread with ⟨x, hx', hPost⟩
  cases hx.symm.trans hx'
  have hUnsigned := (hShares.2 j _ _ hThread hx).2 rfl
  rcases hPost out rfl with ⟨k, a, past, rfl, hProgress⟩
  have hSigned :
      (progress past).signed = some out.refreshToken :=
    congrArg Progress.signed hProgress
  exact absurd (hSigned.symm.trans hUnsigned) (by simp)

/-
  In a run in which resets and refreshes keep apart, a reset
  ends every session of its user, whatever token it is
  continued with.
-/
theorem endsSessions_of_reach
    (hCalls : ∀ x ∈ calls, x.renewsOrResets = true)
    (hReach :
      Reach exec Separate
        (Config.start w (requests s calls)) c) :
    EndsSessions Separate calls (fun _ => True) c := by
  intro i j body reset claims reply out d _ hReset hToken
    hRefresh hUser hDone hBegin hMore
  rcases hDone with ⟨tr, hThread⟩
  have hx : calls.zipIdx[i]? = some (.resetPassword body, i) := by
    simp [hReset]
  rcases within_renews hCalls hReach i _ hThread with
    ⟨x, hx', hPost⟩
  cases hx.symm.trans hx'
  have hClosed :=
    (ownSession_of_reach hCalls hReach i _ _ hThread hx).closed
      body reset rfl hToken (hPost reply rfl)
  rw [← hUser] at hClosed
  exact not_succeeded_of_closed hCalls hReach hRefresh hClosed
    hBegin hMore

--------
-- Runs
--------

instance separateDecidable
    (tr : Trace)
    (o : Op)
    (a : Answer)
    (w : World) : Decidable (Separate tr o a w) := by
  apply Op.casesOn
    (motive := fun o => Decidable (Separate tr o a w)) o <;>
  intros <;> dsimp only [Separate] <;> infer_instance

def resetToken : Claims where
  sub := "u1"
  iat := 0
  exp := 3600
  typ := .passwordReset

def newPassword : ResetPasswordRequest where
  token := .jwt resetToken
  newPassword := "Str0ng-Secret"

/- A user with a pending reset and the given session. -/
def pendingReset (session : Claims) : World where
  users := ⟨[("u1",
      { roles := ["user"]
        resetTokenHash := some (.jwt resetToken)
        resetTokenExpires := some 3600 })]⟩
  now := session.iat
  issued := [session, resetToken]

/- A session, a reset and an attempt to go on. -/
def resetBetween : List Call :=
  [.refresh (.jwt (weekToken 0)),
    .resetPassword newPassword,
    .refresh (.jwt (weekToken 50))]

/- Whether a request has not begun. -/
def waiting
    (c : Config Op.Res Answer World (Except Error Reply))
    (i : ℕ) : Bool :=
  c.threads[i]?.any (fun t => t.trace.isEmpty)

theorem notBegun_of_waiting
    {c : Config Op.Res Answer World (Except Error Reply)}
    {i : ℕ}
    (hWaiting : waiting c i = true) :
    NotBegun c i := by
  rcases (Option.any_eq_true _ _).mp hWaiting with
    ⟨t, hThread, hEmpty⟩
  rcases t with ⟨tr, p⟩
  cases List.isEmpty_iff.mp hEmpty
  exact ⟨p, hThread⟩

theorem endsSessions_resetBetween :
    ∃ c : Config Op.Res Answer World (Except Error Reply),
      Reach exec Separate
        (Config.start (pendingReset (weekToken 0))
          (requests {} resetBetween)) c ∧
        (exchanged c 0).isSome = true ∧
        (replyOf c 1).isSome = true ∧ NotBegun c 2 ∧
        EndsSessions Separate resetBetween (fun _ => True)
          c := by
  have hRun :
      ((Config.start (pendingReset (weekToken 0))
          (requests {} resetBetween)).run exec
        (stepsAt 0 12 50 ++ stepsAt 1 6 100)).any (fun c =>
            (exchanged c 0).isSome && (replyOf c 1).isSome &&
              waiting c 2) = true := by
    decide +kernel
  rcases (Option.any_eq_true _ _).mp hRun with
    ⟨c, hRun, hEnd⟩
  simp only [Bool.and_eq_true] at hEnd
  have hReach :
      Reach exec Separate
        (Config.start (pendingReset (weekToken 0))
          (requests {} resetBetween)) c :=
    Reach.of_run hRun (by decide +kernel)
  exact ⟨c, hReach, hEnd.1.1, hEnd.1.2,
    notBegun_of_waiting hEnd.2,
    endsSessions_of_reach (by decide) hReach⟩

/-
  A token that was signed in the second of the reset outlives
  it.
-/
theorem not_endsSessions_same_second :
    ¬ ∀ s calls w
        (c : Config Op.Res Answer World (Except Error Reply)),
      (∀ x ∈ calls, x.renewsOrResets = true) →
        Reach exec (fun _ _ _ _ => True)
          (Config.start w (requests s calls)) c →
          EndsSessions (fun _ _ _ _ => True) calls
            (fun claims => claims ∈ w.issued) c := by
  intro hAll
  let calls : List Call := [.resetPassword newPassword,
      .refresh (.jwt (weekToken 100))]
  let c₀ : Config Op.Res Answer World (Except Error Reply) :=
    Config.start (pendingReset (weekToken 100))
      (requests {} calls)
  have hRun :
      (c₀.run exec (stepsAt 0 6 100)).any (fun c =>
        (replyOf c 0).isSome && waiting c 1 &&
          (c.run exec (stepsAt 1 12 101)).any (fun c' =>
            (exchanged c' 1).isSome)) = true := by
    decide +kernel
  rcases (Option.any_eq_true _ _).mp hRun with
    ⟨c, hRun, hEnd⟩
  simp only [Bool.and_eq_true] at hEnd
  rcases (Option.any_eq_true _ _).mp hEnd.2 with
    ⟨c', hRun', hDone'⟩
  rcases Option.isSome_iff_exists.mp hEnd.1.1 with
    ⟨reply, hReply⟩
  rcases succeeded_of_exchanged hDone' with ⟨out, hDone'⟩
  exact hAll {} calls (pendingReset (weekToken 100)) c
    (by decide)
    (Reach.of_run hRun
      (Reach.Meets.of_forall (fun _ _ _ _ => trivial) _ _)) 0 1
    newPassword resetToken (weekToken 100) reply out c'
    (by decide) rfl rfl rfl (by decide +kernel)
    (succeeded_of_replyOf hReply)
    (notBegun_of_waiting hEnd.1.2)
    (Reach.of_run hRun'
      (Reach.Meets.of_forall (fun _ _ _ _ => trivial) _ _))
    hDone'

end Orignabase.Auth
