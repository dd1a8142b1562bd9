import Orignabase.Auth.ResetSessions

/-
  Recovery codes and reset tokens are used once.

  Both are taken by reading the document of the user and
  writing it back without a condition.  So the document must
  still hold what was read when it is written.

  Key definitions include:
    * `usesCode`, `resetsWith`
    * `Unraced`
    * `UsedOnce`

  Main results:
    * `usedOnce_of_reach`
-/

--------
-- Uses
--------

namespace Orignabase.Auth

open Conc

/- The stored code that an event has found to match. -/
def codeOf : Event Op.Res Answer → Option String
  | ⟨.verifyRecoveryCode _ hash, _, r⟩ =>
    if Except.toOption r = some true then some hash
    else none
  | _ => none

/- The code that a request has found last. -/
def matched : Trace → Option String
  | [] => none
  | e :: tr => (codeOf e).or (matched tr)

/- A code is taken from the document of a user. -/
def takesCode (id hash : String) (tr : Trace) :
    Event Op.Res Answer → Bool
  | ⟨.updateUser _ target patch, _, r⟩ =>
    Except.isOk r && patch.mfaRecoveryCodes.isSome &&
      bareId target = id && matched tr = some hash
  | _ => false

/- How often a past has taken a code. -/
def usesCode (id hash : String) : Trace → ℕ
  | [] => 0
  | e :: tr =>
    (takesCode id hash tr e).toNat + usesCode id hash tr

/- The password is changed with a reset token. -/
def changesWith (claims : Claims) (tr : Trace) :
    Event Op.Res Answer → Bool
  | ⟨.updateUser _ _ patch, _, r⟩ =>
    Except.isOk r && patch.passwordHash.isSome &&
      (tokens tr).contains claims
  | _ => false

/- How often a past has changed a password with a token. -/
def resetsWith (claims : Claims) : Trace → ℕ
  | [] => 0
  | e :: tr =>
    (changesWith claims tr e).toNat + resetsWith claims tr

/- The codes that are stored for a user. -/
def World.codesOf (w : World) (id : String) : List String :=
  ((w.users.get id).map User.mfaRecoveryCodes).getD []

/- The reset token that is pending for a user. -/
def World.resetOf (w : World) (id : String) : Option Token :=
  (w.users.get id).bind User.resetTokenHash

/- Whether a reset token is pending. -/
def World.pending (w : World) (claims : Claims) : ℕ :=
  if w.resetOf (bareId claims.sub) = some (.jwt claims) then 1
  else 0

/-
  When the document is written it still holds the codes that
  were read, or the reset token that was checked.
-/
def Unraced : StepCond Op.Res Answer World
  | tr, .updateUser _ id patch, _, w =>
    (patch.mfaRecoveryCodes.isSome = true →
      ∀ row ∈ rows tr, row.1 = id →
        w.codesOf (bareId id) = row.2.mfaRecoveryCodes) ∧
      (patch.passwordHash.isSome = true →
        ∀ claims ∈ tokens tr,
          w.resetOf (bareId id) = some (.jwt claims))
  | _, _, _, _ => True

/- How often the threads of a run have taken a code. -/
def codeUses
    (c : Config Op.Res Answer World (Except Error Reply))
    (id hash : String) : ℕ :=
  (c.threads.map (fun t => usesCode id hash t.trace)).sum

/- How often they have changed a password with a token. -/
def resetUses
    (c : Config Op.Res Answer World (Except Error Reply))
    (claims : Claims) : ℕ :=
  (c.threads.map (fun t => resetsWith claims t.trace)).sum

/-
  Since the store `w`, every stored code was used or is still
  stored, a request that ended well has used one, and the same
  for reset tokens, of which one is pending for a user.
-/
structure UsedOnce
    (calls : List Call)
    (w : World)
    (c : Config Op.Res Answer World (Except Error Reply)) :
    Prop where
  codes :
    ∀ id hash,
      (c.world.codesOf id).count hash + codeUses c id hash =
        (w.codesOf id).count hash
  recovered :
    ∀ (i : ℕ) (body : MfaRecoveryRequest) (reply : Reply)
        (tr : Trace),
      calls[i]? = some (.mfaRecovery body) →
        c.threads[i]? = some ⟨tr, .ret (.ok reply)⟩ →
          ∃ id hash, 0 < usesCode id hash tr
  resets :
    ∀ claims,
      c.world.pending claims + resetUses c claims =
        w.pending claims
  changed :
    ∀ (i : ℕ) (body : ResetPasswordRequest) (reply : Reply)
        (tr : Trace),
      calls[i]? = some (.resetPassword body) →
        c.threads[i]? = some ⟨tr, .ret (.ok reply)⟩ →
          ∃ claims, body.token = .jwt claims ∧
            0 < resetsWith claims tr

/- The requests of such a run. -/
def Call.recoversOrResets : Call → Bool
  | .mfaRecovery _ => true
  | .resetPassword _ => true
  | _ => false

--------
-- What A Recovery Calls
--------

open Handler

/- The first code that matches is taken out. -/
def mayRecover (tr : Trace) : Op → Prop
  | .verifyToken _ => True
  | .rateLimit .. => True
  | .userById _ => True
  | .verifyRecoveryCode .. => True
  | .signToken .. => True
  | .signRefresh .. => True
  | .record .. => True
  | .updateUser _ id patch =>
    ∃ row ∈ rows tr, row.1 = id ∧
      ∃ (idx : ℕ) (hash : String),
        row.2.mfaRecoveryCodes[idx]? = some hash ∧
          matched tr = some hash ∧
          patch =
            { mfaRecoveryCodes :=
                some (row.2.mfaRecoveryCodes.eraseIdx idx) }
  | _ => False

variable {tr : Trace} {o : Op} {call : Call}

theorem along_matchCode
    (code : String)
    (before hashes : List String)
    {tr₀ : Trace}
    (hRows : rows tr = rows tr₀) :
    (matchCode code hashes before.length).Along Truthful
      mayRecover
      (fun tr' r => ∀ idx, r = .ok (some idx) →
        rows tr' = rows tr₀ ∧
          ∃ hash, (before ++ hashes)[idx]? = some hash ∧
            matched tr' = some hash) tr := by
  induction hashes generalizing before tr with
  | nil => exact fun _ h => nomatch h
  | cons hash rest ih =>
    refine ⟨trivial, fun a (r : Except Error Bool) _ => ?_⟩
    rcases r with e | found
    · exact fun _ h => nomatch h
    cases found with
    | true =>
      intro idx hIdx
      cases hIdx
      exact ⟨hRows, hash, by simp, rfl⟩
    | false =>
      have hSame :
          rows (⟨.verifyRecoveryCode code hash, a,
                .ok false⟩ :: tr) = rows tr₀ := hRows
      have hNext := ih (before ++ [hash]) hSame
      simp only [List.length_append, List.length_singleton,
        List.append_assoc, List.singleton_append] at hNext
      exact hNext

theorem along_mfaRecovery
    (s : Settings)
    (body : MfaRecoveryRequest) :
    (mfaRecovery s body).Along Truthful mayRecover
      (fun tr r => ∀ reply, r = .ok reply →
        ∃ id hash, 0 < usesCode id hash tr) [] := by
  refine ⟨trivial, fun a r _ => ?_⟩
  rcases (r : Except Error Claims) with e | claims
  · exact fun _ h => nomatch h
  change Prog.Along _ _ _ _ (andThen (require _ _ _) _)
  unfold require
  split_ifs
  case neg => exact fun _ h => nomatch h
  refine ⟨trivial, fun a r _ => ?_⟩
  rcases (r : Except Error Unit) with e | x
  · exact fun _ h => nomatch h
  refine ⟨trivial, fun a r hRow => ?_⟩
  rcases (r : Except Error (Option (String × User))) with
    e | row
  · exact fun _ h => nomatch h
  rcases row with _ | row
  · exact fun _ h => nomatch h
  have hId : row.1 = claims.sub := hRow row rfl
  change Prog.Along _ _ _ _ (andThen
      (matchCode body.recoveryCode row.2.mfaRecoveryCodes 0)
      _)
  refine Prog.Along.bind
    (along_matchCode body.recoveryCode [] _ rfl) ?_
  intro tr r hMatch
  rcases r with e | idx
  · exact fun _ h => nomatch h
  rcases idx with _ | idx
  · exact fun _ h => nomatch h
  rcases hMatch idx rfl with ⟨hRows, hash, hAt, hMatched⟩
  refine ⟨⟨row, ?_, hId, idx, hash, hAt, hMatched, rfl⟩,
    fun a r _ => ?_⟩
  · rw [hRows]
    exact List.mem_cons_self
  rcases (r : Except Error Unit) with e | x
  · exact fun _ h => nomatch h
  refine ⟨trivial, fun a r _ => ?_⟩
  rcases (r : Except Error Claims) with e | access
  · exact fun _ h => nomatch h
  refine ⟨trivial, fun a r _ => ?_⟩
  rcases (r : Except Error Claims) with e | renew
  · exact fun _ h => nomatch h
  refine ⟨trivial, fun a r _ => fun _ _ => ?_⟩
  refine ⟨bareId claims.sub, hash, ?_⟩
  simp [usesCode, takesCode, hMatched, Except.isOk,
    Except.toBool, Nat.add_pos_iff_pos_or_pos]

/- What a request of such a run may call. -/
def mayUse : Call → Trace → Op → Prop
  | .mfaRecovery _, tr, o => mayRecover tr o
  | .resetPassword body, tr, o => mayReset body.token tr o
  | _, _, _ => False

/- What has happened when it ends well. -/
def Used :
    Call → Trace → Except Error Reply → Prop
  | .mfaRecovery _, tr, r =>
    ∀ reply, r = .ok reply →
      ∃ id hash, 0 < usesCode id hash tr
  | .resetPassword _, tr, r => Written tr r
  | _, _, _ => True

theorem along_uses
    (s : Settings)
    (x : Call × ℕ)
    (hUses : x.1.recoversOrResets = true) :
    (x.1.body s x.2).Along Truthful (mayUse x.1)
      (Used x.1) [] := by
  rcases x with ⟨call, session⟩
  cases call with
  | mfaRecovery body =>
    refine Prog.Along.bind (along_mfaRecovery s body) ?_
    intro tr r hUsed
    rcases r with e | reply
    · exact fun _ h => nomatch h
    · exact fun _ _ => hUsed reply rfl
  | resetPassword body => exact along_reset s session body
  | _ => cases hUses

/- A reset that has written has used its token. -/
theorem resetsWith_of_written
    {token : Token}
    (hCould : Could (mayReset token) tr)
    (hWritten : hasWritten tr = true) :
    ∃ claims, token = .jwt claims ∧
      0 < resetsWith claims tr := by
  induction tr with
  | nil => cases hWritten
  | cons e tr ih =>
    cases hNow : wrote e with
    | false =>
      have hBefore : hasWritten tr = true := by
        simpa [hasWritten, hNow] using hWritten
      rcases ih hCould.2 hBefore with
        ⟨claims, hToken, hUsed⟩
      exact ⟨claims, hToken, Nat.add_pos_right _ hUsed⟩
    | true =>
      rcases e with ⟨o, a, r⟩
      cases o with
      | updateUser caller id patch =>
        rcases hCould.1 with
          ⟨claims, hTokens, hToken, _, hash, hPatch⟩
        refine ⟨claims, hToken, Nat.add_pos_left ?_ _⟩
        have hOk : Except.isOk r = true := hNow
        simp [changesWith, hOk, hPatch, resetPatch, hTokens]
      | _ => cases hNow

--------
-- What A Step Uses
--------

/- Taking out a code leaves the others. -/
theorem count_eraseIdx
    {codes : List String}
    {idx : ℕ}
    {hash : String}
    (hAt : codes[idx]? = some hash)
    (other : String) :
    (codes.eraseIdx idx).count other +
        (if hash = other then 1 else 0) =
      codes.count other := by
  rcases List.getElem?_eq_some_iff.mp hAt with ⟨hLt, rfl⟩
  rw [← (List.getElem_cons_eraseIdx_perm hLt).count_eq other,
    List.count_cons]
  simp

theorem codesOf_update
    (w : World)
    (caller target id : String)
    (patch : UserPatch)
    (hSome : (w.users.get target).isSome = true) :
    (w.update caller target patch).codesOf id =
      if id = target then
        patch.mfaRecoveryCodes.getD (w.codesOf id)
      else w.codesOf id := by
  rcases Option.isSome_iff_exists.mp hSome with
    ⟨user, hUser⟩
  unfold World.codesOf World.update
  rw [Table.get_modify]
  split_ifs with hId
  · subst hId
    simp [hUser, UserPatch.apply]
  · rfl

theorem resetOf_update
    (w : World)
    (caller target id : String)
    (patch : UserPatch)
    (hSome : (w.users.get target).isSome = true) :
    (w.update caller target patch).resetOf id =
      if id = target then
        patch.resetTokenHash.getD (w.resetOf id)
      else w.resetOf id := by
  rcases Option.isSome_iff_exists.mp hSome with
    ⟨user, hUser⟩
  unfold World.resetOf World.update
  rw [Table.get_modify]
  split_ifs with hId
  · subst hId
    simp [hUser, UserPatch.apply]
  · rfl

theorem pending_of_resetOf
    {w w' : World}
    {claims : Claims}
    (hReset :
      w'.resetOf (bareId claims.sub) =
        w.resetOf (bareId claims.sub)) :
    w'.pending claims = w.pending claims := by
  unfold World.pending
  rw [hReset]

theorem pending_of_users
    {w w' : World}
    (hUsers : w'.users = w.users)
    (claims : Claims) :
    w'.pending claims = w.pending claims := by
  refine pending_of_resetOf ?_
  unfold World.resetOf
  rw [hUsers]

theorem takesCode_spares
    (hSpares : o.sparesUsers = true)
    (id hash : String)
    (tr : Trace)
    (a : Answer)
    (r : o.Res) :
    takesCode id hash tr ⟨o, a, r⟩ = false := by
  cases o with
  | updateUser => cases hSpares
  | _ => rfl

theorem changesWith_spares
    (hSpares : o.sparesUsers = true)
    (claims : Claims)
    (tr : Trace)
    (a : Answer)
    (r : o.Res) :
    changesWith claims tr ⟨o, a, r⟩ = false := by
  cases o with
  | updateUser => cases hSpares
  | _ => rfl

/- What a request may call besides the write. -/
theorem mayUse_cases
    (hCan : mayUse call tr o) :
    o.sparesUsers = true ∨
      ∃ caller id patch, o = .updateUser caller id patch := by
  cases o with
  | createUser user =>
    cases call with
    | mfaRecovery body => exact hCan.elim
    | resetPassword body => exact hCan.elim
    | _ => exact hCan.elim
  | updateUser caller id patch =>
    exact Or.inr ⟨caller, id, patch, rfl⟩
  | _ => exact Or.inl rfl

/- The write of a recovery. -/
theorem codes_recovered
    {id other : String}
    {patch : UserPatch}
    {w : World}
    (caller hash : String)
    (hCan : mayRecover tr (.updateUser caller id patch))
    (hUnraced :
      patch.mfaRecoveryCodes.isSome = true →
        ∀ row ∈ rows tr, row.1 = id →
          w.codesOf (bareId id) = row.2.mfaRecoveryCodes)
    (hSome : (w.users.get (bareId id)).isSome = true)
    (a : Answer) :
    ((w.update caller (bareId id) patch).codesOf other).count
          hash +
        (takesCode other hash tr
          ⟨.updateUser caller id patch, a, .ok ()⟩).toNat =
      (w.codesOf other).count hash := by
  rcases hCan with
    ⟨row, hRow, hId, idx, code, hAt, hMatched, rfl⟩
  have hCodes := hUnraced rfl row hRow hId
  rw [codesOf_update w caller (bareId id) other _ hSome]
  by_cases hOther : other = bareId id
  · subst hOther
    rw [if_pos rfl, hCodes]
    have hCount := count_eraseIdx hAt hash
    by_cases hHash : code = hash
    · simpa [takesCode, hMatched, hHash, Except.isOk,
        Except.toBool] using hCount
    · simpa [takesCode, hMatched, hHash] using hCount
  · rw [if_neg hOther]
    simp [takesCode, Ne.symm hOther]

theorem codes_step
    {a : Answer}
    {w : World}
    (id hash : String)
    (hCan : mayUse call tr o)
    (hCond : Unraced tr o a w) :
    ((exec o a w).2.codesOf id).count hash +
        usesCode id hash (⟨o, a, (exec o a w).1⟩ :: tr) =
      (w.codesOf id).count hash + usesCode id hash tr := by
  have hNow :
      ((exec o a w).2.codesOf id).count hash +
          (takesCode id hash tr
            ⟨o, a, (exec o a w).1⟩).toNat =
        (w.codesOf id).count hash := by
    rcases mayUse_cases hCan with
      hSpares | ⟨caller, target, patch, rfl⟩
    · rw [takesCode_spares hSpares]
      simp [World.codesOf, users_exec hSpares]
    rcases exec_updateUser caller target patch a w with
      ⟨hWorld, hFault⟩ | ⟨hSome, hDone⟩
    · rw [hWorld]
      simp [takesCode, hFault, World.codesOf, World.tick]
    rw [hDone]
    cases call with
    | mfaRecovery body =>
      exact codes_recovered caller hash hCan hCond.1 hSome a
    | resetPassword body =>
      rcases hCan with ⟨claims, _, _, _, code, rfl⟩
      change (((w.tick a).update caller (bareId target)
        (resetPatch code (clock tr))).codesOf id).count
          hash + 0 = ((w.tick a).codesOf id).count hash
      rw [codesOf_update (w.tick a) caller _ id _ hSome]
      simp [resetPatch]
    | _ => exact hCan.elim
  rw [← hNow]
  simp only [usesCode]
  omega

/- The write of a reset. -/
theorem pending_reset
    {used claims : Claims}
    {hash : String}
    {now : Int}
    {w : World}
    (caller : String)
    (hTokens : tokens tr = [used])
    (hSome : (w.users.get (bareId used.sub)).isSome = true)
    (hBefore :
      w.resetOf (bareId used.sub) = some (.jwt used))
    (a : Answer) :
    ((w.tick a).update caller (bareId used.sub)
          (resetPatch hash now)).pending claims +
        (changesWith claims tr ⟨.updateUser caller used.sub
            (resetPatch hash now), a, .ok ()⟩).toNat =
      w.pending claims := by
  have hAfter :
      ((w.tick a).update caller (bareId used.sub)
          (resetPatch hash now)).resetOf
          (bareId claims.sub) =
        if bareId claims.sub = bareId used.sub then none
        else w.resetOf (bareId claims.sub) :=
    resetOf_update (w.tick a) caller _ _ _ hSome
  have hChanges :
      changesWith claims tr ⟨.updateUser caller used.sub
            (resetPatch hash now), a, .ok ()⟩ =
        decide (claims = used) := by
    simp [changesWith, resetPatch, hTokens, Except.isOk,
      Except.toBool]
  rw [hChanges]
  unfold World.pending
  rw [hAfter]
  by_cases hSame : claims = used
  · simp [hSame, hBefore]
  by_cases hSub : bareId claims.sub = bareId used.sub
  · simp [hSame, hSub, hBefore, Ne.symm hSame]
  · simp [hSame, hSub]

theorem resets_step
    {a : Answer}
    {w : World}
    (claims : Claims)
    (hCan : mayUse call tr o)
    (hCond : Unraced tr o a w) :
    (exec o a w).2.pending claims +
        resetsWith claims (⟨o, a, (exec o a w).1⟩ :: tr) =
      w.pending claims + resetsWith claims tr := by
  have hNow :
      (exec o a w).2.pending claims + (changesWith claims tr
            ⟨o, a, (exec o a w).1⟩).toNat =
        w.pending claims := by
    rcases mayUse_cases hCan with
      hSpares | ⟨caller, target, patch, rfl⟩
    · rw [changesWith_spares hSpares,
        pending_of_users (users_exec hSpares a w)]
      rfl
    rcases exec_updateUser caller target patch a w with
      ⟨hWorld, hFault⟩ | ⟨hSome, hDone⟩
    · have hTick : (w.tick a).pending claims =
          w.pending claims := pending_of_users rfl claims
      rw [hWorld, hTick]
      simp [changesWith, hFault]
    rw [hDone]
    cases call with
    | mfaRecovery body =>
      rcases hCan with ⟨row, _, _, idx, code, _, _, rfl⟩
      exact pending_of_resetOf
        ((resetOf_update (w.tick a) caller _ _ _ hSome).trans
          (ite_self _))
    | resetPassword body =>
      rcases hCan with ⟨used, hTokens, _, rfl, code, rfl⟩
      exact pending_reset caller hTokens hSome
        (hCond.2 rfl used (by simp [hTokens])) a
    | _ => exact hCan.elim
  rw [← hNow]
  simp only [resetsWith]
  omega

--------
-- Whole Runs
--------

variable {s : Settings} {calls : List Call} {w : World}
variable
  {c : Config Op.Res Answer World (Except Error Reply)}

theorem along_calls
    (hCalls : ∀ x ∈ calls, x.recoversOrResets = true) :
    ∀ x ∈ calls.zipIdx,
      (x.1.body s x.2).Along Truthful (mayUse x.1)
        (Used x.1) [] := by
  intro x hMem
  rcases List.getElem?_of_mem hMem with ⟨i, hx⟩
  exact along_uses s x (hCalls _ (mem_of_zipIdx hx))

/- What every step takes is missing in the end. -/
theorem taken_of_reach
    (hCalls : ∀ x ∈ calls, x.recoversOrResets = true)
    (hReach :
      Reach exec Unraced
        (Config.start w (requests s calls)) c)
    (left : World → ℕ)
    (taken : Trace → ℕ)
    (hNil : taken [] = 0)
    (hStep :
      ∀ call tr o a w', mayUse call tr o →
        Unraced tr o a w' → left (exec o a w').2 +
              taken (⟨o, a, (exec o a w').1⟩ :: tr) =
            left w' + taken tr) :
    left c.world +
        (c.threads.map (fun t => taken t.trace)).sum =
      left w := by
  have hStart :
      (calls.zipIdx.map (fun _ => taken [])).sum = 0 := by
    simp [hNil]
  have hKept := hReach.conserves left taken
      (fun _ o a w' _ => truthful_exec o a w')
      (Config.within_start (along_calls hCalls) w)
      (fun x tr o a w' => hStep x.1 tr o a w')
  simp only [Config.start, List.map_map,
    Function.comp_def] at hKept
  rwa [hStart] at hKept

/-
  In a run in which every document still holds what was read
  when it is written, codes and reset tokens are used once.
-/
theorem usedOnce_of_reach
    (hCalls : ∀ x ∈ calls, x.recoversOrResets = true)
    (hReach :
      Reach exec Unraced
        (Config.start w (requests s calls)) c) :
    UsedOnce calls w c := by
  have hValid :
      ∀ tr o a w', Unraced tr o a w' →
        Truthful ⟨o, a, (exec o a w').1⟩ :=
    fun _ o a w' _ => truthful_exec o a w'
  have hAlong := along_calls (s := s) hCalls
  have hDone := hReach.along hValid hAlong
  refine ⟨?_, ?_, ?_, ?_⟩
  · intro id hash
    exact taken_of_reach hCalls hReach
      (fun w' => (w'.codesOf id).count hash)
      (usesCode id hash) rfl
      (fun _ _ _ _ _ => codes_step id hash)
  · intro i body reply tr hCall hThread
    have hx :
        calls.zipIdx[i]? = some (.mfaRecovery body, i) := by
      simp [hCall]
    rcases hDone i _ hThread with ⟨x, hx', hUsed⟩
    cases hx.symm.trans hx'
    exact hUsed reply rfl
  · intro claims
    exact taken_of_reach hCalls hReach
      (fun w' => w'.pending claims) (resetsWith claims) rfl
      (fun _ _ _ _ _ => resets_step claims)
  · intro i body reply tr hCall hThread
    have hx :
        calls.zipIdx[i]? = some (.resetPassword body, i) := by
      simp [hCall]
    rcases hDone i _ hThread with ⟨x, hx', hUsed⟩
    cases hx.symm.trans hx'
    exact resetsWith_of_written
      (hReach.could hValid hAlong i _ hThread _ hx)
      (hUsed reply rfl)

--------
-- Runs
--------

instance unracedDecidable
    (tr : Trace)
    (o : Op)
    (a : Answer)
    (w : World) : Decidable (Unraced tr o a w) := by
  apply Op.casesOn
    (motive := fun o => Decidable (Unraced tr o a w)) o <;>
  intros <;> dsimp only [Unraced] <;> infer_instance

def challenge : Claims where
  sub := "u1"
  iat := 0
  exp := 300
  typ := .mfaChallenge

/- A user with two codes and a pending reset. -/
def twoCodes : World where
  users := ⟨[("u1",
      { roles := ["user"]
        mfaEnabled := some true
        mfaRecoveryCodes := ["h1", "h2"]
        resetTokenHash := some (.jwt resetToken)
        resetTokenExpires := some 3600 })]⟩
  now := 0
  issued := [challenge, resetToken]

def recovery (code : String) : Call :=
  .mfaRecovery
    { challengeToken := .jwt challenge
      recoveryCode := code }

theorem usedOnce_oneByOne :
    ∃ c : Config Op.Res Answer World (Except Error Reply),
      Reach exec Unraced
        (Config.start twoCodes (requests {}
            [recovery "c1", recovery "c2",
              .resetPassword newPassword])) c ∧
        (replyOf c 0).isSome = true ∧
        (replyOf c 1).isSome = true ∧
        (replyOf c 2).isSome = true ∧
        UsedOnce
          [recovery "c1", recovery "c2",
            .resetPassword newPassword] twoCodes c := by
  have hRun :
      ((Config.start twoCodes (requests {}
            [recovery "c1", recovery "c2",
              .resetPassword newPassword])).run exec
        (stepsAt 0 8 0 ++ stepsAt 1 8 60 ++
          stepsAt 2 6 100)).any (fun c =>
            (replyOf c 0).isSome && (replyOf c 1).isSome &&
              (replyOf c 2).isSome) = true := by
    decide +kernel
  rcases (Option.any_eq_true _ _).mp hRun with
    ⟨c, hRun, hEnd⟩
  simp only [Bool.and_eq_true] at hEnd
  have hReach :
      Reach exec Unraced (Config.start twoCodes (requests {}
            [recovery "c1", recovery "c2",
              .resetPassword newPassword])) c :=
    Reach.of_run hRun (by decide +kernel)
  exact ⟨c, hReach, hEnd.1.1, hEnd.1.2, hEnd.2,
    usedOnce_of_reach (by decide) hReach⟩

/-
  Two requests that both read the codes before either writes
  use the same one.
-/
theorem not_usedOnce_same_code :
    ¬ ∀ s calls w
        (c : Config Op.Res Answer World (Except Error Reply)),
      (∀ x ∈ calls, x.recoversOrResets = true) →
        Reach exec (fun _ _ _ _ => True)
          (Config.start w (requests s calls)) c →
          UsedOnce calls w c := by
  intro hAll
  let calls : List Call := [recovery "c1", recovery "c1"]
  let c₀ : Config Op.Res Answer World (Except Error Reply) :=
    Config.start twoCodes (requests {} calls)
  have hRun :
      (c₀.run exec
        (stepsAt 0 4 0 ++ stepsAt 1 4 0 ++ stepsAt 0 4 0 ++
          stepsAt 1 4 0)).any (fun c =>
            (replyOf c 0).isSome && (replyOf c 1).isSome &&
              decide (codeUses c "u1" "h1" = 2)) = true := by
    decide
  rcases (Option.any_eq_true _ _).mp hRun with
    ⟨c, hRun, hEnd⟩
  simp only [Bool.and_eq_true, decide_eq_true_eq] at hEnd
  have hOnce := hAll {} calls twoCodes c (by decide)
      (Reach.of_run hRun
        (Reach.Meets.of_forall (fun _ _ _ _ => trivial) _ _))
  have hCount := hOnce.codes "u1" "h1"
  have hStart :
      (twoCodes.codesOf "u1").count "h1" = 1 := by decide
  rw [hEnd.2, hStart] at hCount
  omega

end Orignabase.Auth
