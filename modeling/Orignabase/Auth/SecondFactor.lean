import Orignabase.Auth.SingleUse
import Orignabase.Auth.AdminRole

/-
  Sessions of users with a second factor.

  Every handler that signs a pair of tokens makes its own
  checks.  A pair is sound when the user is not disabled and,
  if the user has a second factor, a code was accepted or the
  pair renews a sound one.

  Key definitions include:
    * `Rightful`
    * `Checked`
    * `Protected`

  Main results:
    * `protected_of_inTurn`
-/

--------
-- Sound Pairs
--------

namespace Orignabase.Auth

open Conc

/-
  A refresh token that was signed before the second factor was
  on, or with a code for it, or in exchange for such a token.
-/
inductive Rightful (pairs : List Pair) : Claims → Prop
  | plain
      {p : Pair}
      (hMem : p ∈ pairs)
      (hPlain : p.secondFactor = false) :
      Rightful pairs p.token
  | code
      {p : Pair}
      (hMem : p ∈ pairs)
      (hVia : p.via = .challenge ∨ p.via = .recovery) :
      Rightful pairs p.token
  | renewed
      {p : Pair}
      {old : Claims}
      (hOld : Rightful pairs old)
      (hMem : p ∈ pairs)
      (hVia : p.via = .refresh old) :
      Rightful pairs p.token

variable {pairs : List Pair} {claims : Claims} {tr : Trace}
variable {o : Op} {a : Answer}

theorem Rightful.mono
    {pairs' : List Pair}
    (hRightful : Rightful pairs claims)
    (hMore : ∀ p ∈ pairs, p ∈ pairs') :
    Rightful pairs' claims := by
  induction hRightful with
  | plain hMem hPlain => exact .plain (hMore _ hMem) hPlain
  | code hMem hVia => exact .code (hMore _ hMem) hVia
  | renewed _ hMem hVia ih =>
    exact .renewed ih (hMore _ hMem) hVia

/- A pair for a user who may have it. -/
structure Pair.Sound (pairs : List Pair) (p : Pair) :
    Prop where
  active : p.disabled = false
  factor :
    p.secondFactor = true →
      p.via = .challenge ∨ p.via = .recovery ∨
        ∃ old, p.via = .refresh old ∧ Rightful pairs old

theorem Pair.Sound.mono
    {pairs' : List Pair}
    {p : Pair}
    (hSound : p.Sound pairs)
    (hMore : ∀ p ∈ pairs, p ∈ pairs') :
    p.Sound pairs' := by
  refine ⟨hSound.active, ?_⟩
  intro hFactor
  rcases hSound.factor hFactor with
    hVia | hVia | ⟨old, hVia, hOld⟩
  · exact Or.inl hVia
  · exact Or.inr (Or.inl hVia)
  · exact Or.inr (Or.inr ⟨old, hVia, hOld.mono hMore⟩)

/- The token of a sound pair. -/
theorem Pair.Sound.rightful
    {p : Pair}
    (hSound : p.Sound pairs)
    (hMem : p ∈ pairs) :
    Rightful pairs p.token := by
  cases hFactor : p.secondFactor with
  | false => exact .plain hMem hFactor
  | true =>
    rcases hSound.factor hFactor with
      hVia | hVia | ⟨old, hVia, hOld⟩
    · exact .code hMem (Or.inl hVia)
    · exact .code hMem (Or.inr hVia)
    · exact .renewed hOld hMem hVia

/-
  All pairs that were signed are sound, and each was signed
  after the checks of its handler: for the second factor, a
  challenge for the user and a code that was accepted.
-/
structure Protected
    (c : Config Op.Res Answer World (Except Error Reply)) :
    Prop where
  sound : ∀ p ∈ c.world.pairs, p.Sound c.world.pairs
  entitled :
    ∀ t ∈ c.threads, ∀ e past, e :: past <:+ t.trace →
      ∀ via sub ttl, e.op = .signRefresh via sub ttl →
        Entitled past sub via

/-
  What must hold of the document of the user that a handler
  signs a pair for, as the handler does not check it.
-/
def Origin.unchecked (user : User) : Origin → Prop
  | .login => user.mfaEnabled ≠ some true
  | .oauth => user.hasSecondFactor = false
  | .upgrade =>
    user.hasSecondFactor = false ∧ user.disabled = false
  | .challenge => user.disabled = false
  | .recovery => user.disabled = false
  | _ => True

/- The check holds, and new documents have random ids. -/
def Checked : StepCond Op.Res Answer World
  | _, .signRefresh via sub _, _, w =>
    via.unchecked ((w.users.get sub).getD {})
  | _, .createUser _, a, _ => isBare a.id = true
  | _, _, _, _ => True

/- A store before any token was signed. -/
structure NoTokens (w : World) : Prop where
  issued : w.issued = []
  pairs : w.pairs = []
  ids : ∀ row ∈ w.users.rows, isBare row.1 = true
  unique : w.users.keys.Nodup

--------
-- What A Step Keeps
--------

structure Guarded (w : World) : Prop where
  sound : ∀ p ∈ w.pairs, p.Sound w.pairs
  paired :
    ∀ claims ∈ w.issued, claims.typ = .refresh →
      ∃ p ∈ w.pairs, p.token = claims
  subs : ∀ claims ∈ w.issued, isBare claims.sub = true
  ids : ∀ row ∈ w.users.rows, isBare row.1 = true
  unique : w.users.keys.Nodup

/- What decides whether a user may have a session. -/
def User.flags (user : User) :
    Bool × Option Bool × Option Bool :=
  (user.disabled, user.mfaEnabled, user.mfa_enabled)

/- What a request knows of the users it has seen. -/
structure SeenFlags (tr : Trace) (w : World) : Prop where
  tokens : ∀ claims ∈ tokens tr, claims ∈ w.issued
  bare : ∀ row ∈ rows tr, isBare row.1 = true
  flags :
    Calm tr → ∀ row ∈ rows tr,
      (w.users.get row.1).map User.flags =
        some row.2.flags

theorem Guarded.alike
    {w w' : World}
    (hGuarded : Guarded w)
    (hAlike : Alike w w') :
    Guarded w' := by
  refine ⟨?_, ?_, ?_, ?_, ?_⟩
  · rw [hAlike.pairs]
    exact hGuarded.sound
  · rw [hAlike.pairs, hAlike.issued]
    exact hGuarded.paired
  · rw [hAlike.issued]
    exact hGuarded.subs
  · rw [hAlike.users]
    exact hGuarded.ids
  · rw [hAlike.users]
    exact hGuarded.unique

theorem Guarded.sign
    {w : World}
    (hGuarded : Guarded w)
    (hTyp : claims.typ ≠ .refresh)
    (hBare : isBare claims.sub = true) :
    Guarded (w.sign claims) := by
  refine ⟨hGuarded.sound, ?_, ?_, hGuarded.ids,
    hGuarded.unique⟩
  · intro c hMem hRefresh
    rcases List.mem_cons.mp hMem with rfl | hOld
    · exact absurd hRefresh hTyp
    · exact hGuarded.paired c hOld hRefresh
  · intro c hMem
    rcases List.mem_cons.mp hMem with rfl | hOld
    · exact hBare
    · exact hGuarded.subs c hOld

theorem Guarded.signPair
    {w : World}
    {via : Origin}
    (hGuarded : Guarded w)
    (hBare : isBare claims.sub = true)
    (hActive :
      ((w.users.get claims.sub).getD {}).disabled = false)
    (hFactor :
      ((w.users.get claims.sub).getD {}).hasSecondFactor =
          true →
        via = .challenge ∨ via = .recovery ∨
          ∃ old, via = .refresh old ∧
            Rightful w.pairs old) :
    Guarded (w.signPair via claims) := by
  have hMore :
      ∀ p ∈ w.pairs, p ∈ (w.signPair via claims).pairs :=
    fun _ hMem => List.mem_cons_of_mem _ hMem
  refine ⟨?_, ?_, ?_, hGuarded.ids, hGuarded.unique⟩
  · intro p hMem
    rcases List.mem_cons.mp hMem with rfl | hOld
    · refine ⟨hActive, ?_⟩
      intro hOn
      rcases hFactor hOn with
        hVia | hVia | ⟨old, hVia, hRightful⟩
      · exact Or.inl hVia
      · exact Or.inr (Or.inl hVia)
      · exact Or.inr
          (Or.inr ⟨old, hVia, hRightful.mono hMore⟩)
    · exact (hGuarded.sound p hOld).mono hMore
  · intro c hMem hRefresh
    rcases List.mem_cons.mp hMem with rfl | hOld
    · exact ⟨_, List.mem_cons_self, rfl⟩
    · rcases hGuarded.paired c hOld hRefresh with ⟨p, hp, hEq⟩
      exact ⟨p, hMore p hp, hEq⟩
  · intro c hMem
    rcases List.mem_cons.mp hMem with rfl | hOld
    · exact hBare
    · exact hGuarded.subs c hOld

theorem Guarded.create
    {w : World}
    {id : String}
    {user : User}
    (hGuarded : Guarded w)
    (hBare : isBare id = true)
    (hNew : w.users.get id = none) :
    Guarded { w with users := w.users.insert id user } := by
  refine ⟨hGuarded.sound, hGuarded.paired, hGuarded.subs, ?_,
    ?_⟩
  · intro row hMem
    rcases List.mem_append.mp hMem with hOld | hLast
    · exact hGuarded.ids row hOld
    · rw [List.mem_singleton.mp hLast]
      exact hBare
  · have hFresh := Table.not_mem_keys_of_get_eq_none hNew
    have hKeys :
        (w.users.insert id user).keys =
          w.users.keys ++ [id] := by
      simp [Table.keys, Table.insert]
    change (w.users.insert id user).keys.Nodup
    rw [hKeys]
    exact hGuarded.unique.append (List.nodup_singleton id)
      (by simpa using hFresh)

theorem Guarded.update
    {w : World}
    {caller id : String}
    {patch : UserPatch}
    (hGuarded : Guarded w) :
    Guarded (w.update caller id patch) := by
  refine ⟨hGuarded.sound, hGuarded.paired, hGuarded.subs, ?_,
    ?_⟩
  · intro row hMem
    rcases List.mem_map.mp hMem with ⟨old, hOld, rfl⟩
    split_ifs
    · exact hGuarded.ids old hOld
    · exact hGuarded.ids old hOld
  · change (w.users.modify id patch.apply).keys.Nodup
    rw [Table.keys_modify]
    exact hGuarded.unique

--------
-- The Checks Of A Handler
--------

/- A user that was seen, with the flags that are stored. -/
theorem SeenFlags.stored
    {w : World}
    {row : String × User}
    (hSeen : SeenFlags tr w)
    (hCalm : Calm tr)
    (hRow : row ∈ rows tr) :
    ((w.users.get row.1).getD {}).flags = row.2.flags := by
  have hFlags := hSeen.flags hCalm row hRow
  rcases Option.map_eq_some_iff.mp hFlags with
    ⟨user, hGet, hEq⟩
  rw [hGet]
  exact hEq

theorem hasSecondFactor_of_flags
    {user user' : User}
    (hFlags : user.flags = user'.flags) :
    user.disabled = user'.disabled ∧
      user.mfaEnabled = user'.mfaEnabled ∧
      user.mfa_enabled = user'.mfa_enabled ∧
      user.hasSecondFactor = user'.hasSecondFactor := by
  simp only [User.flags, Prod.mk.injEq] at hFlags
  refine ⟨hFlags.1, hFlags.2.1, hFlags.2.2, ?_⟩
  unfold User.hasSecondFactor
  rw [hFlags.2.1, hFlags.2.2]

theorem SeenFlags.known
    {w : World}
    {sub : String}
    (hSeen : SeenFlags tr w)
    (hGuarded : Guarded w)
    (hKnown : KnownIn tr sub) :
    isBare sub = true := by
  rcases hKnown with ⟨row, hMem, rfl⟩ | ⟨claims, hMem, rfl⟩
  · exact hSeen.bare row hMem
  · exact hGuarded.subs claims (hSeen.tokens claims hMem)

/- What the handler and the document say of the user. -/
theorem factor_of_entitled
    {w : World}
    {sub : String}
    {via : Origin}
    (hGuarded : Guarded w)
    (hSeen : SeenFlags tr w)
    (hCalm : Calm tr)
    (hBare : isBare sub = true)
    (hEntitled : Entitled tr sub via)
    (hUnchecked :
      via.unchecked ((w.users.get sub).getD {})) :
    ((w.users.get sub).getD {}).disabled = false ∧
      (((w.users.get sub).getD {}).hasSecondFactor = true →
        via = .challenge ∨ via = .recovery ∨
          ∃ old, via = .refresh old ∧
            Rightful w.pairs old) := by
  cases via with
  | register =>
    rcases hEntitled with ⟨row, hRow, rfl, hOn, hFactor⟩
    have hSame :=
      hasSecondFactor_of_flags (hSeen.stored hCalm hRow)
    rw [hSame.1, hSame.2.2.2, hFactor]
    exact ⟨hOn, fun h => nomatch h⟩
  | anonymous =>
    rcases hEntitled with ⟨row, hRow, rfl, hOn, hFactor⟩
    have hSame :=
      hasSecondFactor_of_flags (hSeen.stored hCalm hRow)
    rw [hSame.1, hSame.2.2.2, hFactor]
    exact ⟨hOn, fun h => nomatch h⟩
  | login =>
    rcases hEntitled with ⟨row, hRow, rfl, hOn, hFactor⟩
    have hSame :=
      hasSecondFactor_of_flags (hSeen.stored hCalm hRow)
    refine ⟨hSame.1.trans hOn, ?_⟩
    intro hOther
    -- The handler reads one name, the setup writes another.
    simp only [User.hasSecondFactor, Bool.or_eq_true,
      decide_eq_true_eq] at hOther
    rcases hOther with hWritten | hRead
    · exact absurd hWritten hUnchecked
    · exact absurd (hSame.2.2.1.symm.trans hRead) hFactor
  | oauth =>
    rcases hEntitled with ⟨row, hRow, rfl, hOn⟩
    have hSame :=
      hasSecondFactor_of_flags (hSeen.stored hCalm hRow)
    refine ⟨hSame.1.trans hOn, ?_⟩
    intro hFactor
    exact absurd (hFactor.symm.trans hUnchecked) (by decide)
  | challenge => exact ⟨hUnchecked, fun _ => Or.inl rfl⟩
  | recovery =>
    exact ⟨hUnchecked, fun _ => Or.inr (Or.inl rfl)⟩
  | refresh old =>
    rcases hEntitled with
      ⟨hOld, hTyp, rfl, row, hRow, hId, hOn⟩
    rw [bareUid_of_isBare hBare] at hId
    have hSame :=
      hasSecondFactor_of_flags (hSeen.stored hCalm hRow)
    rw [hId] at hSame
    refine ⟨hSame.1.trans hOn, ?_⟩
    intro _
    rcases hGuarded.paired old (hSeen.tokens old hOld) hTyp
      with ⟨p, hp, rfl⟩
    exact Or.inr (Or.inr ⟨p.token, rfl,
      (hGuarded.sound p hp).rightful hp⟩)
  | upgrade =>
    refine ⟨hUnchecked.2, ?_⟩
    intro hFactor
    exact absurd (hFactor.symm.trans hUnchecked.1)
      (by decide)

/- The invariant after a step of a request. -/
theorem guarded_step
    {w : World}
    (hCall : mayCall tr o)
    (hCond : Checked tr o a w)
    (hGuarded : Guarded w)
    (hSeen : SeenFlags tr w) :
    Guarded (exec o a w).2 := by
  have hTick : Guarded (w.tick a) :=
    hGuarded.alike ⟨rfl, rfl, rfl, rfl⟩
  by_cases hQuiet : o.isQuiet = true
  · exact hGuarded.alike (exec_quiet hQuiet a w)
  cases o with
  | signToken typ sub roles emailVerified ttl =>
    rcases exec_signToken typ sub roles emailVerified ttl a
      w with hSame | hDone
    · rw [hSame]
      exact hTick
    · rw [hDone]
      exact hTick.sign hCall.1
        (hSeen.known hGuarded hCall.2.1)
  | signRefresh via sub ttl =>
    rcases exec_signRefresh via sub ttl a w with
      hSame | hDone
    · rw [hSame]
      exact hTick
    · rw [hDone]
      have hBare := hSeen.known hGuarded hCall.2.1
      have hFactor :=
        factor_of_entitled hGuarded hSeen hCall.1 hBare
          hCall.2.2 hCond
      exact hTick.signPair hBare hFactor.1 hFactor.2
  | createUser user =>
    rcases exec_createUser user a w with
      ⟨hSame, _⟩ | ⟨hNew, hDone⟩
    · rw [hSame]
      exact hTick
    · rw [hDone]
      exact hTick.create hCond
        (Option.not_isSome_iff_eq_none.mp
          (by rw [Bool.not_eq_true]; exact hNew))
  | updateUser caller id patch =>
    rcases exec_updateUser caller id patch a w with
      ⟨hSame, _⟩ | ⟨_, hDone⟩
    · rw [hSame]
      exact hTick
    · rw [hDone]
      exact hTick.update
  | _ => exact absurd rfl hQuiet

theorem flags_apply
    {patch : UserPatch}
    (hFlags :
      (patch.mfaEnabled.isSome || patch.disabled.isSome) =
        false)
    (user : User) :
    (patch.apply user).flags = user.flags := by
  simp only [Bool.or_eq_false_iff, Option.isSome_eq_false_iff,
    Option.isNone_iff_eq_none] at hFlags
  simp [User.flags, UserPatch.apply, hFlags.1, hFlags.2]

/- A step that sets no flags leaves those that are stored. -/
theorem flags_exec
    {w : World}
    {id : String}
    {flags : Bool × Option Bool × Option Bool}
    (hSets : o.setsFlags = false)
    (hFlags : (w.users.get id).map User.flags = some flags) :
    ((exec o a w).2.users.get id).map User.flags =
      some flags := by
  by_cases hQuiet : o.isQuiet = true
  · rw [(exec_quiet hQuiet a w).users]
    exact hFlags
  cases o with
  | signToken typ sub roles emailVerified ttl =>
    rcases exec_signToken typ sub roles emailVerified ttl a
      w with hSame | hDone
    · rw [hSame]
      exact hFlags
    · rw [hDone]
      exact hFlags
  | signRefresh via sub ttl =>
    rcases exec_signRefresh via sub ttl a w with
      hSame | hDone
    · rw [hSame]
      exact hFlags
    · rw [hDone]
      exact hFlags
  | createUser user =>
    rcases exec_createUser user a w with
      ⟨hSame, _⟩ | ⟨_, hDone⟩
    · rw [hSame]
      exact hFlags
    · rw [hDone]
      rcases Option.map_eq_some_iff.mp hFlags with
        ⟨old, hGet, rfl⟩
      change ((w.users.insert a.id user).get id).map _ = _
      rw [Table.get_insert, hGet]
      rfl
  | updateUser caller target patch =>
    rcases exec_updateUser caller target patch a w with
      ⟨hSame, _⟩ | ⟨_, hDone⟩
    · rw [hSame]
      exact hFlags
    · rw [hDone]
      change
        ((w.users.modify (bareId target) patch.apply).get
          id).map _ = _
      rw [Table.get_modify]
      split_ifs
      · rw [Option.map_map, ← hFlags]
        congr 1
        funext user
        exact flags_apply hSets user
      · exact hFlags
  | _ => exact absurd rfl hQuiet

/- What a request knows after a step of its own. -/
theorem seenFlags_step
    {w : World}
    (hAfter : Guarded (exec o a w).2)
    (hSeen : SeenFlags tr w) :
    SeenFlags (⟨o, a, (exec o a w).1⟩ :: tr)
      (exec o a w).2 := by
  have hRows :
      ∀ row ∈ rows (⟨o, a, (exec o a w).1⟩ :: tr),
        row ∈ rows tr ∨ row ∈ (exec o a w).2.users.rows := by
    intro row hMem
    rw [rows, List.filterMap_cons] at hMem
    cases hRow : rowOf ⟨o, a, (exec o a w).1⟩ with
    | none =>
      rw [hRow] at hMem
      exact Or.inl hMem
    | some row' =>
      rw [hRow] at hMem
      rcases List.mem_cons.mp hMem with rfl | hOld
      · exact Or.inr (mem_of_rowOf hRow)
      · exact Or.inl hOld
  refine ⟨tokens_step hSeen.tokens, ?_, ?_⟩
  · intro row hMem
    rcases hRows row hMem with hOld | hNew
    · exact hSeen.bare row hOld
    · exact hAfter.ids row hNew
  · intro hCalm row hMem
    rcases hRows row hMem with hOld | hNew
    · have hBefore : Calm tr :=
        fun e he => hCalm e (List.mem_cons_of_mem _ he)
      exact flags_exec (hCalm _ List.mem_cons_self)
        (hSeen.flags hBefore row hOld)
    · rw [Table.get_of_mem hAfter.unique hNew]
      rfl

--------
-- Whole Runs
--------

variable {s : Settings} {calls : List Call} {w : World}
variable
  {c : Config Op.Res Answer World (Except Error Reply)}

theorem guarded_of_noTokens
    (hStart : NoTokens w) :
    Guarded w := by
  refine ⟨?_, ?_, ?_, hStart.ids, hStart.unique⟩
  · rw [hStart.pairs]
    exact fun _ h => nomatch h
  · rw [hStart.issued]
    exact fun _ h => nomatch h
  · rw [hStart.issued]
    exact fun _ h => nomatch h

theorem guarded_of_inTurn
    (hStart : NoTokens w)
    (hInTurn :
      InTurn exec Checked
        (Config.start w (requests s calls)) c) :
    Guarded c.world := by
  have hAlong :
      ∀ x ∈ calls.zipIdx,
        (x.1.body s x.2).Along Truthful mayCall
          (fun _ _ => True) [] :=
    fun x _ => follows_body s x.2 x.1
  have hOwn :
      ∀ (x : Call × ℕ) tr o a w, mayCall tr o →
        Checked tr o a w → Guarded w → SeenFlags tr w →
          Guarded (exec o a w).2 ∧
            SeenFlags (⟨o, a, (exec o a w).1⟩ :: tr)
              (exec o a w).2 := by
    intro x tr o a w hCall hCond hGuarded hSeen
    have hAfter := guarded_step hCall hCond hGuarded hSeen
    exact ⟨hAfter, seenFlags_step hAfter hSeen⟩
  exact hInTurn.shares
    (fun _ o a w' _ => truthful_exec o a w') hAlong hOwn
    (guarded_of_noTokens hStart)
    (fun _ =>
      ⟨(fun _ h => nomatch h), (fun _ h => nomatch h),
        (fun _ _ h => nomatch h)⟩)

/-
  In a run of one request at a time, every pair is sound if
  the documents hold what the handlers leave unchecked.
-/
theorem protected_of_inTurn
    (hStart : NoTokens w)
    (hInTurn :
      InTurn exec Checked
        (Config.start w (requests s calls)) c) :
    Protected c := by
  refine ⟨(guarded_of_inTurn hStart hInTurn).sound, ?_⟩
  intro t hMem e past hSuffix via sub ttl hOp
  rcases List.getElem?_of_mem hMem with ⟨i, hThread⟩
  have hAlong :
      ∀ x ∈ calls.zipIdx,
        (x.1.body s x.2).Along Truthful mayCall
          (fun _ _ => True) [] :=
    fun x _ => follows_body s x.2 x.1
  rcases hInTurn.reach.along
    (fun _ o a w' _ => truthful_exec o a w') hAlong i t
    hThread with ⟨x, hx, _⟩
  have hCould := hInTurn.reach.could
      (fun _ o a w' _ => truthful_exec o a w') hAlong i t
      hThread x hx
  have hCall := hCould.of_suffix hSuffix
  rw [hOp] at hCall
  exact hCall.2.2

--------
-- Runs
--------

instance uncheckedDecidable (user : User) (via : Origin) :
    Decidable (via.unchecked user) := by
  cases via <;> dsimp only [Origin.unchecked] <;>
    infer_instance

instance checkedDecidable
    (tr : Trace)
    (o : Op)
    (a : Answer)
    (w : World) : Decidable (Checked tr o a w) := by
  apply Op.casesOn
    (motive := fun o => Decidable (Checked tr o a w)) o <;>
  intros <;> dsimp only [Checked] <;> infer_instance

/- A store with one user, with or without a second factor. -/
def oneUser (factor : Option Bool) : World where
  users := ⟨[("u1",
      { email := some "u@shop.ca"
        passwordHash := some "hash"
        roles := ["user"]
        mfa_enabled := factor
        mfaSecret := some "sealed" })]⟩

theorem noTokens_oneUser (factor : Option Bool) :
    NoTokens (oneUser factor) where
  issued := rfl
  pairs := rfl
  ids := by
    intro row hMem
    rw [List.mem_singleton.mp hMem]
    change isBare "u1" = true
    decide
  unique := List.nodup_singleton _

def signIn : Call :=
  .login
    { email := "u@shop.ca"
      password := "secret"
      turnstileToken := some "t" }

/- A user with a second factor signs in and goes on. -/
def withCode : List Call :=
  [signIn, .mfaChallenge
      { challengeToken :=
          .jwt
            { sub := "u1"
              iat := 0
              exp := 300
              typ := .mfaChallenge }
        code := "123456" },
    .refresh (.jwt (weekToken 0))]

theorem protected_withCode :
    ∃ c : Config Op.Res Answer World (Except Error Reply),
      InTurn exec Checked
        (Config.start (oneUser (some true))
          (requests {} withCode)) c ∧
        c.Quiet ∧
        c.world.pairs.map (·.secondFactor) = [true, true] ∧
        Protected c := by
  have hRun :
      ((Config.start (oneUser (some true))
          (requests {} withCode)).run exec
        (stepsAt 0 5 0 ++ stepsAt 1 9 0 ++
          stepsAt 2 12 60)).any (fun c =>
            decide c.Quiet &&
              decide (c.world.pairs.map (·.secondFactor) =
                [true, true])) = true := by
    decide
  rcases (Option.any_eq_true _ _).mp hRun with
    ⟨c, hRun, hEnd⟩
  simp only [Bool.and_eq_true, decide_eq_true_eq] at hEnd
  have hInTurn :
      InTurn exec Checked
        (Config.start (oneUser (some true))
          (requests {} withCode)) c :=
    InTurn.of_run InTurn.refl hRun (by decide)
      (by decide)
  exact ⟨c, hInTurn, hEnd.1, hEnd.2,
    protected_of_inTurn (noTokens_oneUser _) hInTurn⟩

/- The token of the user after signing in. -/
def userToken : Token :=
  .jwt
    { sub := "u1"
      iat := 0
      exp := 900
      roles := ["user"]
      typ := .access }

/-
  A user who has set up the second factor signs in with the
  password alone: the setup writes `mfaEnabled`, the sign-in
  reads `mfa_enabled`.
-/
theorem not_protected_after_setup :
    ¬ ∀ s calls w
        (c : Config Op.Res Answer World (Except Error Reply)),
      NoTokens w → InTurn exec RandomIds
          (Config.start w (requests s calls)) c →
          Protected c := by
  intro hAll
  let calls : List Call :=
    [signIn, .mfaSetup (some userToken),
      .mfaVerifySetup (some userToken) "123456", signIn]
  have hRun :
      ((Config.start (oneUser none) (requests {} calls)).run
        exec
        (stepsAt 0 8 0 ++ stepsAt 1 5 60 ++ stepsAt 2 8 60 ++
          stepsAt 3 8 120)).any (fun c =>
            c.world.pairs.any (fun p =>
              p.secondFactor && decide (p.via = .login))) =
        true := by
    decide
  rcases (Option.any_eq_true _ _).mp hRun with
    ⟨c, hRun, hEnd⟩
  have hInTurn :
      InTurn exec RandomIds
        (Config.start (oneUser none) (requests {} calls)) c :=
    InTurn.of_run InTurn.refl hRun (by decide)
      (by decide)
  rcases List.any_eq_true.mp hEnd with ⟨p, hMem, hp⟩
  simp only [Bool.and_eq_true, decide_eq_true_eq] at hp
  have hSound :=
    (hAll {} calls (oneUser none) c (noTokens_oneUser _)
      hInTurn).sound p hMem
  rcases hSound.factor hp.1 with hVia | hVia | ⟨_, hVia, _⟩ <;>
    cases hp.2.symm.trans hVia

end Orignabase.Auth
