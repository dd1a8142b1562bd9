import Orignabase.Core.Validate
import Orignabase.Lib.Histories
import Mathlib.Data.List.Nodup

/-
  One-time codes and the protection against their replay.

  Source: `crates/ob-auth/src/totp.rs`, and `mfa_challenge` in
  `crates/ob-auth/src/routes.rs`.

  A code is valid for the time step it belongs to and for the
  two around it. What is kept of a success is the time step of
  the clock, not the one of the code.

  Key definitions include:
    * `TotpLibrary`
    * `verifyTotp`
    * `mfaLastUsedStep`
    * `opening`

  Main results:
    * `accepted_eq_opening`
    * `logs_in_once_iff`
-/

--------
-- The Library
--------

namespace Orignabase

namespace Auth

/- Length of the secrets in bytes. -/
def secretLength : ℕ := 20

def totpSkew : ℕ := 1

/- The time step in seconds. -/
def totpStep : ℕ := 30

def totpDigits : ℕ := 6

/- What is used of the library; algorithm is always SHA-1. -/
structure TotpLibrary (Totp : Type) where
  new (digits skew step : ℕ)
    (secret : List UInt8)
    (issuer account : String) : Except String Totp
  /- The code of a time step. -/
  generate (totp : Totp) (step : ℕ) : String
  /- The check at a time in seconds. -/
  checkCurrent (totp : Totp)
    (code : String)
    (now : ℕ) : Except String Bool

/-
  As documented: a secret has at least 128 bits, and a code is
  accepted when it is that of the current time step or of one
  at most the skew away.
-/
structure TotpLibrary.Lawful
    {Totp : Type}
    (lib : TotpLibrary Totp) : Prop where
  builds : ∀ digits skew step secret issuer account,
    6 ≤ digits → digits ≤ 8 → 16 ≤ secret.length →
      ':' ∉ issuer.toList → ':' ∉ account.toList →
        ∃ totp,
          lib.new digits skew step secret issuer account =
            .ok totp
  checks : ∀ digits skew step secret issuer account totp,
    lib.new digits skew step secret issuer account =
        .ok totp →
      ∀ code now, ∃ valid,
        lib.checkCurrent totp code now = .ok valid ∧
          (valid = true ↔
            ∃ k, k ≤ now / step + skew ∧
              now / step ≤ k + skew ∧
              code = lib.generate totp k)

--------
-- Verification
--------

variable {Totp : Type}

/- A secret as `generate_secret` makes them. -/
structure TotpSecret where
  bytes : List UInt8
  length_eq : bytes.length = secretLength

def buildTotp
    (lib : TotpLibrary Totp)
    (secret : List UInt8)
    (issuer account : String) : Except Error Totp :=
  match lib.new totpDigits totpSkew totpStep secret issuer
      account with
  | .ok totp => .ok totp
  | .error e =>
    .error (.internal ("TOTP creation failed: " ++ e))

def verifyTotp
    (lib : TotpLibrary Totp)
    (secret : List UInt8)
    (code : String)
    (lastUsedStep : Option ℕ)
    (now : ℕ) : Except Error ℕ :=
  match buildTotp lib secret "orignabase" "user" with
  | .error e => .error e
  | .ok totp =>
    let currentStep := now / totpStep
    if lastUsedStep.any (fun last => currentStep ≤ last) then
      .error (.auth "TOTP code already used")
    else
      match lib.checkCurrent totp code now with
      | .error e =>
        .error (.internal ("TOTP check failed: " ++ e))
      | .ok true => .ok currentStep
      | .ok false => .error (.auth "Invalid TOTP code")

/- What reaches the verification, and when. -/
structure Attempt where
  code : String
  now : ℕ
deriving DecidableEq

def Attempt.step (a : Attempt) : ℕ := a.now / totpStep

/- The part of `mfa_challenge` that keeps the last used step. -/
def mfaLastUsedStep
    (lib : TotpLibrary Totp)
    (secret : TotpSecret)
    (lastUsedStep : Option ℕ)
    (a : Attempt) : Option ℕ :=
  match verifyTotp lib secret.bytes a.code lastUsedStep
      a.now with
  | .ok step => some step
  | .error _ => lastUsedStep

/- The attempt, if it succeeds. -/
def success
    (lib : TotpLibrary Totp)
    (secret : TotpSecret)
    (lastUsedStep : Option ℕ)
    (a : Attempt) : Option Attempt :=
  match verifyTotp lib secret.bytes a.code lastUsedStep
      a.now with
  | .ok _ => some a
  | .error _ => none

/- The attempts of an enrolment that succeed, in their order. -/
def accepted
    (lib : TotpLibrary Totp)
    (secret : TotpSecret)
    (attempts : List Attempt) : List Attempt :=
  History.observed (mfaLastUsedStep lib secret)
    (success lib secret) none attempts

/- The code of the secret at a time step, if it has codes. -/
def codeAt
    (lib : TotpLibrary Totp)
    (secret : TotpSecret)
    (step : ℕ) : Option String :=
  (buildTotp lib secret.bytes "orignabase"
    "user").toOption.map fun totp => lib.generate totp step

/-
  The code of a time step is accepted at most once, and the
  code of the current one is accepted as long as no code of it
  or of a later one was.
-/
structure LogsInOnce
    (lib : TotpLibrary Totp)
    (secret : TotpSecret)
    (attempts : List Attempt) : Prop where
  once : ∀ k code, codeAt lib secret k = some code →
    ((accepted lib secret attempts).map
      Attempt.code).count code ≤ 1
  fresh : ∀ past a, past ++ [a] <+: attempts →
    codeAt lib secret a.step = some a.code →
      (∀ b ∈ accepted lib secret past, ∀ k, a.step ≤ k →
        codeAt lib secret k ≠ some b.code) →
        accepted lib secret (past ++ [a]) =
          accepted lib secret past ++ [a]

end Auth

--------
-- The First Attempts of the Time Steps
--------

variable {a : Attempt}

namespace Auth

variable (codes : ℕ → Option String)

/- Whether the code is one of the three that are valid. -/
def Attempt.valid (a : Attempt) : Bool :=
  decide (codes (a.step + 1) = some a.code) ||
    decide (codes a.step = some a.code) ||
    (decide (0 < a.step) &&
      decide (codes (a.step - 1) = some a.code))

/- The attempts that come first, with a valid code, in theirs. -/
def opening
    (attempts : List Attempt) : List Attempt :=
  attempts.foldl (fun first a =>
      if a.valid codes &&
          first.all (fun b => decide (b.step ≠ a.step)) then
        first ++ [a]
      else first)
    []

/-
  No two first attempts show the same code. And where an
  attempt shows the code of its time step, the first attempt
  of that step had not shown the code of the step before,
  unless one in the step before had shown this one.
-/
structure OnTime (attempts : List Attempt) : Prop where
  anew : ((opening codes attempts).map Attempt.code).Nodup
  current : ∀ past a, past ++ [a] <+: attempts →
    codes a.step = some a.code →
      ∀ b ∈ opening codes past, b.step = a.step →
        ∀ k, k + 1 = a.step → codes k = some b.code →
          ∃ b' ∈ opening codes past,
            b'.step = k ∧ b'.code = a.code

variable {codes}

theorem Attempt.valid_iff :
    a.valid codes = true ↔
      ∃ k, k ≤ a.step + 1 ∧ a.step ≤ k + 1 ∧
        codes k = some a.code := by
  simp only [Attempt.valid, Bool.or_eq_true,
    Bool.and_eq_true, decide_eq_true_iff]
  constructor
  · rintro ((hNext | hSame) | ⟨hPos, hBefore⟩)
    · exact ⟨a.step + 1, by omega, by omega, hNext⟩
    · exact ⟨a.step, by omega, by omega, hSame⟩
    · exact ⟨a.step - 1, by omega, by omega, hBefore⟩
  · rintro ⟨k, hLe, hGe, hCode⟩
    have hCases : k = a.step + 1 ∨ k = a.step ∨
        (0 < a.step ∧ k = a.step - 1) := by omega
    rcases hCases with rfl | rfl | ⟨hPos, rfl⟩
    · exact .inl (.inl hCode)
    · exact .inl (.inr hCode)
    · exact .inr ⟨hPos, hCode⟩

theorem opening_snoc
    (past : List Attempt)
    (a : Attempt) :
    opening codes (past ++ [a]) =
      if a.valid codes = true ∧
          ∀ b ∈ opening codes past, b.step ≠ a.step then
        opening codes past ++ [a]
      else opening codes past := by
  rw [opening, List.foldl_append, List.foldl_cons,
    List.foldl_nil, ← opening]
  simp only [Bool.and_eq_true, List.all_eq_true,
    decide_eq_true_iff]

theorem opening_sublist
    (attempts : List Attempt) :
    (opening codes attempts).Sublist attempts := by
  induction attempts using List.reverseRecOn with
  | nil => exact List.Sublist.refl []
  | append_singleton past a ih =>
    rw [opening_snoc]
    split
    · exact ih.append (List.Sublist.refl [a])
    · exact ih.trans (List.sublist_append_left past [a])

variable {attempts : List Attempt}

theorem valid_of_mem_opening
    {b : Attempt}
    (hMem : b ∈ opening codes attempts) :
    b.valid codes = true := by
  induction attempts using List.reverseRecOn with
  | nil => cases hMem
  | append_singleton past a ih =>
    rw [opening_snoc] at hMem
    split at hMem
    · rename_i hFirst
      rcases List.mem_append.mp hMem with hMem | hMem
      · exact ih hMem
      · rw [List.mem_singleton.mp hMem]
        exact hFirst.1
    · exact ih hMem

/- At non-decreasing times the steps of the first increase. -/
theorem opening_increasing
    (hTimes : attempts.Pairwise fun a b => a.now ≤ b.now) :
    (opening codes attempts).Pairwise
      fun a b => a.step < b.step := by
  induction attempts using List.reverseRecOn with
  | nil => exact List.Pairwise.nil
  | append_singleton past a ih =>
    rcases List.pairwise_append.mp hTimes with
      ⟨hPast, _, hAcross⟩
    rw [opening_snoc]
    split
    · rename_i hFirst
      apply List.pairwise_append.mpr
      refine ⟨ih hPast, List.pairwise_singleton _ _, ?_⟩
      intro b hB a' hA
      rw [List.mem_singleton.mp hA]
      have hIn := (opening_sublist past).subset hB
      have hLe : b.step ≤ a.step := Nat.div_le_div_right
        (hAcross b hIn a List.mem_cons_self)
      have hNe := hFirst.2 b hB
      omega
    · exact ih hPast

theorem eq_of_step_eq
    (hTimes : attempts.Pairwise fun a b => a.now ≤ b.now)
    {b : Attempt}
    (hA : a ∈ opening codes attempts)
    (hB : b ∈ opening codes attempts)
    (hStep : a.step = b.step) :
    a = b := by
  have hSteps :
      ((opening codes attempts).map Attempt.step).Nodup := by
    rw [List.Nodup, List.pairwise_map]
    exact (opening_increasing hTimes).imp Nat.ne_of_lt
  exact List.inj_on_of_nodup_map hSteps hA hB hStep

end Auth

--------
-- One Login per Code
--------

namespace Auth

variable {Totp : Type} {lib : TotpLibrary Totp}

/- Every secret has a code for every time step. -/
theorem exists_totp
    (hLib : lib.Lawful)
    (secret : TotpSecret) :
    ∃ totp,
      lib.new totpDigits totpSkew totpStep secret.bytes
          "orignabase" "user" = .ok totp ∧
        ∀ k, codeAt lib secret k =
          some (lib.generate totp k) := by
  have hLength : 16 ≤ secret.bytes.length := by
    rw [secret.length_eq]
    decide
  rcases hLib.builds totpDigits totpSkew totpStep secret.bytes
      "orignabase" "user" (by decide) (by decide) hLength
      (by simp) (by simp) with ⟨totp, hNew⟩
  refine ⟨totp, hNew, ?_⟩
  intro k
  rw [codeAt, buildTotp, hNew]
  rfl

/-
  A verification succeeds in a time step after the last used
  one, with one of the valid codes.
-/
theorem verifyTotp_eq
    (hLib : lib.Lawful)
    (secret : TotpSecret)
    (last : Option ℕ)
    (a : Attempt) :
    verifyTotp lib secret.bytes a.code last a.now =
      if last.any (fun step => decide (a.step ≤ step)) then
        .error (.auth "TOTP code already used")
      else if a.valid (codeAt lib secret) then .ok a.step
      else .error (.auth "Invalid TOTP code") := by
  rcases exists_totp hLib secret with ⟨totp, hNew, hCodes⟩
  rcases hLib.checks _ _ _ _ _ _ _ hNew a.code a.now with
    ⟨valid, hCheck, hValid⟩
  have hSame : a.valid (codeAt lib secret) = valid := by
    rw [Bool.eq_iff_iff, hValid, Attempt.valid_iff]
    apply exists_congr
    intro k
    rw [hCodes, Option.some.injEq, eq_comm (b := a.code)]
    rfl
  rw [verifyTotp, buildTotp, hNew, hSame, Attempt.step]
  simp only [hCheck]
  split
  · rfl
  · cases valid <;> rfl

/- The last used step is before that of a later attempt. -/
theorem any_getLast_iff
    {firsts : List Attempt}
    (hIncreasing : firsts.Pairwise
      fun b b' => b.step < b'.step)
    (hBefore : ∀ b ∈ firsts, b.step ≤ a.step) :
    (firsts.getLast?.map Attempt.step).any
        (fun step => decide (a.step ≤ step)) = false ↔
      ∀ b ∈ firsts, b.step ≠ a.step := by
  rcases List.eq_nil_or_concat firsts with
    rfl | ⟨front, last, rfl⟩
  · simp
  · rw [List.concat_eq_append] at hIncreasing hBefore ⊢
    rcases List.pairwise_append.mp hIncreasing with
      ⟨_, _, hLast⟩
    rw [List.getLast?_append_cons, List.getLast?_singleton,
      Option.map_some, Option.any_some, decide_eq_false_iff_not]
    have hLe := hBefore last (by simp)
    constructor
    · intro hNot b hB
      rcases List.mem_append.mp hB with hB | hB
      · have hLt := hLast b hB last List.mem_cons_self
        omega
      · rw [List.mem_singleton.mp hB]
        omega
    · intro hNone
      have hNe := hNone last (by simp)
      omega

/-
  The attempts that succeed are the first ones of their time
  steps, and the last used step is that of the last of them.
-/
theorem accepted_eq_opening
    (hLib : lib.Lawful)
    (secret : TotpSecret)
    {attempts : List Attempt}
    (hTimes : attempts.Pairwise fun a b => a.now ≤ b.now) :
    History.after (mfaLastUsedStep lib secret) none attempts =
        (opening (codeAt lib secret)
          attempts).getLast?.map Attempt.step ∧
      accepted lib secret attempts =
        opening (codeAt lib secret) attempts := by
  induction attempts using List.reverseRecOn with
  | nil => exact ⟨rfl, rfl⟩
  | append_singleton past a ih =>
    rcases List.pairwise_append.mp hTimes with
      ⟨hPast, _, hAcross⟩
    rcases ih hPast with ⟨hLast, hAccepted⟩
    have hUsed :
        (History.after (mfaLastUsedStep lib secret) none
          past).any (fun step => decide (a.step ≤ step)) =
            false ↔
          ∀ b ∈ opening (codeAt lib secret) past,
            b.step ≠ a.step := by
      rw [hLast]
      apply any_getLast_iff (opening_increasing hPast)
      intro b hB
      apply Nat.div_le_div_right
      exact hAcross b ((opening_sublist past).subset hB) a
        List.mem_cons_self
    have hAll : accepted lib secret (past ++ [a]) =
        accepted lib secret past ++
          (success lib secret (History.after
            (mfaLastUsedStep lib secret) none past)
              a).toList := by
      rw [accepted, History.observed_append]
      exact congrArg _ (List.append_nil _)
    rw [History.after_append, History.after_cons,
      History.after_nil, hAll, hAccepted, opening_snoc,
      mfaLastUsedStep, success, verifyTotp_eq hLib]
    by_cases hNew : ∀ b ∈ opening (codeAt lib secret) past,
        b.step ≠ a.step
    · rw [hUsed.mpr hNew]
      cases hValid : a.valid (codeAt lib secret) with
      | false => simp [hLast]
      | true => simp [if_pos hNew]
    · have hOld := eq_true_of_ne_false (mt hUsed.mp hNew)
      rw [hOld]
      simp [hNew, hLast]

/- Different codes of the first attempts, counted by step. -/
theorem once_iff
    {codes : ℕ → Option String}
    {attempts : List Attempt} :
    (∀ k code, codes k = some code →
        ((opening codes attempts).map
          Attempt.code).count code ≤ 1) ↔
      ((opening codes attempts).map Attempt.code).Nodup := by
  rw [List.nodup_iff_count_le_one]
  constructor
  · intro hOnce code
    by_cases hMem :
        code ∈ (opening codes attempts).map Attempt.code
    · rcases List.mem_map.mp hMem with ⟨b, hB, rfl⟩
      rcases Attempt.valid_iff.mp
          (valid_of_mem_opening hB) with ⟨k, _, _, hCode⟩
      exact hOnce k b.code hCode
    · rw [List.count_eq_zero_of_not_mem hMem]
      exact Nat.zero_le 1
  · intro hAll k code _
    exact hAll code

/- When the code of the current time step is accepted. -/
theorem fresh_iff
    {codes : ℕ → Option String}
    (hCodes : ∀ j k code, codes j = some code →
      codes k = some code → j = k)
    {past : List Attempt}
    (hTimes : (past ++ [a]).Pairwise fun b c => b.now ≤ c.now)
    (hCurrent : codes a.step = some a.code) :
    ((∀ b ∈ opening codes past, ∀ k, a.step ≤ k →
        codes k ≠ some b.code) →
        opening codes (past ++ [a]) =
          opening codes past ++ [a]) ↔
      ∀ b ∈ opening codes past, b.step = a.step →
        ∀ k, k + 1 = a.step → codes k = some b.code →
          ∃ b' ∈ opening codes past,
            b'.step = k ∧ b'.code = a.code := by
  rcases List.pairwise_append.mp hTimes with
    ⟨hPast, _, hAcross⟩
  have hValid : a.valid codes = true :=
    Attempt.valid_iff.mpr
      ⟨a.step, by omega, by omega, hCurrent⟩
  have hBefore : ∀ b ∈ past, b.step ≤ a.step := by
    intro b hB
    exact Nat.div_le_div_right
      (hAcross b hB a List.mem_cons_self)
  constructor
  · intro hFresh b hB hStep k hK hCode
    by_contra hNone
    have hNotOpening : opening codes (past ++ [a]) =
        opening codes past := by
      rw [opening_snoc, if_neg]
      rintro ⟨_, hFirst⟩
      exact hFirst b hB hStep
    have hLater : ∀ b' ∈ opening codes past, ∀ j,
        a.step ≤ j → codes j ≠ some b'.code := by
      intro b' hB' j hJ hCode'
      have hIn := (opening_sublist past).subset hB'
      have hLe := hBefore b' hIn
      rcases Attempt.valid_iff.mp
          (valid_of_mem_opening hB') with ⟨i, hI, _, hOwn⟩
      have hEq := hCodes i j b'.code hOwn hCode'
      by_cases hSame : b'.step = a.step
      · -- Only one attempt is the first of its step.
        have hOne := eq_of_step_eq hPast hB' hB
          (hSame.trans hStep.symm)
        rw [hOne] at hCode'
        have hKJ := hCodes k j b.code hCode hCode'
        omega
      · have hStep' : j = a.step := by omega
        rw [hStep', hCurrent] at hCode'
        apply hNone
        refine ⟨b', hB', by omega, ?_⟩
        exact (Option.some.inj hCode').symm
    have hLength := congrArg List.length
      ((hFresh hLater).symm.trans hNotOpening)
    simp at hLength
  · intro hOnTime hNone
    rw [opening_snoc, if_pos]
    refine ⟨hValid, ?_⟩
    intro b hB hStep
    rcases Attempt.valid_iff.mp
        (valid_of_mem_opening hB) with ⟨k, _, hGe, hCode⟩
    have hLt : k < a.step := by
      by_contra hNot
      exact hNone b hB k (by omega) hCode
    rcases hOnTime b hB hStep k (by omega) hCode with
      ⟨b', hB', _, hCode'⟩
    apply hNone b' hB' a.step (Nat.le_refl _)
    rw [hCode', hCurrent]

/-
  The codes of an enrolment log in once, and are accepted when
  they are current, exactly when they are shown in time.
-/
theorem logs_in_once_iff
    (hLib : lib.Lawful)
    (secret : TotpSecret)
    (hCodes : ∀ j k code, codeAt lib secret j = some code →
      codeAt lib secret k = some code → j = k)
    {attempts : List Attempt}
    (hTimes : attempts.Pairwise fun a b => a.now ≤ b.now) :
    LogsInOnce lib secret attempts ↔
      OnTime (codeAt lib secret) attempts := by
  have hAccepted : ∀ past, past <+: attempts →
      accepted lib secret past =
        opening (codeAt lib secret) past := by
    intro past hPast
    exact (accepted_eq_opening hLib secret
      (hTimes.sublist hPast.sublist)).2
  have hBefore : ∀ past a, past ++ [a] <+: attempts →
      accepted lib secret past =
        opening (codeAt lib secret) past := by
    intro past a hPast
    exact hAccepted past
      ((List.prefix_append past [a]).trans hPast)
  constructor
  · rintro ⟨hOnce, hFresh⟩
    rw [hAccepted attempts (List.prefix_refl _)] at hOnce
    constructor
    · exact once_iff.mp hOnce
    · intro past a hPast hCurrent
      apply (fresh_iff hCodes (hTimes.sublist hPast.sublist)
        hCurrent).mp
      rw [← hBefore past a hPast, ← hAccepted _ hPast]
      exact hFresh past a hPast hCurrent
  · rintro ⟨hAnew, hCurrently⟩
    constructor
    · rw [hAccepted attempts (List.prefix_refl _)]
      exact once_iff.mpr hAnew
    · intro past a hPast hCurrent
      rw [hBefore past a hPast, hAccepted _ hPast]
      apply (fresh_iff hCodes (hTimes.sublist hPast.sublist)
        hCurrent).mpr
      exact hCurrently past a hPast hCurrent

/-
  A library with two published codes of the secret below, and
  other texts in place of all other codes.
-/
def publishedCode (k : ℕ) : String :=
  if k = 37037036 then "081804"
  else if k = 37037037 then "050471"
  else "T" ++ Nat.repr k

def publishedCodes : TotpLibrary (ℕ × ℕ) where
  new digits skew step secret issuer account :=
    if 6 ≤ digits ∧ digits ≤ 8 ∧ 16 ≤ secret.length ∧
        ':' ∉ issuer.toList ∧ ':' ∉ account.toList then
      .ok (skew, step)
    else .error "invalid parameters"
  generate _ k := publishedCode k
  checkCurrent totp code now :=
    .ok ((List.range (2 * totp.1 + 1)).any fun i =>
      decide (totp.1 ≤ now / totp.2 + i) && decide (code =
          publishedCode (now / totp.2 + i - totp.1)))

theorem publishedCodes_lawful : publishedCodes.Lawful where
  builds digits skew step secret issuer account hLow hHigh
      hLength hIssuer hAccount := by
    refine ⟨(skew, step), ?_⟩
    exact if_pos ⟨hLow, hHigh, hLength, hIssuer, hAccount⟩
  checks digits skew step secret issuer account totp hNew
      code now := by
    refine ⟨_, rfl, ?_⟩
    have hTotp : totp = (skew, step) := by
      simp only [publishedCodes] at hNew
      split at hNew
      · exact (Except.ok.inj hNew).symm
      · cases hNew
    subst hTotp
    rw [List.any_eq_true]
    constructor
    · rintro ⟨i, hRange, hCode⟩
      rw [List.mem_range] at hRange
      rw [Bool.and_eq_true, decide_eq_true_iff,
        decide_eq_true_iff] at hCode
      dsimp only at hCode hRange
      exact ⟨now / step + i - skew, by omega, by omega,
        hCode.2⟩
    · rintro ⟨k, hLow, hHigh, hCode⟩
      refine ⟨k + skew - now / step, ?_, ?_⟩
      · rw [List.mem_range]
        omega
      · have hStep : now / step + (k + skew - now / step) -
            skew = k := by omega
        rw [Bool.and_eq_true, decide_eq_true_iff,
          decide_eq_true_iff, hStep]
        dsimp only
        exact ⟨by omega, hCode⟩

theorem publishedCode_injective :
    Function.Injective publishedCode := by
  intro j k hCode
  have hOther : ∀ i, "081804" ≠ "T" ++ Nat.repr i ∧
      "050471" ≠ "T" ++ Nat.repr i := by
    intro i
    constructor <;> intro hEq <;>
      have hList := congrArg String.toList hEq <;>
      simp at hList
  rw [publishedCode, publishedCode] at hCode
  split at hCode
  · split at hCode
    · omega
    · split at hCode
      · exact absurd hCode (by decide)
      · exact absurd hCode (hOther k).1
  · split at hCode
    · split at hCode
      · exact absurd hCode (by decide)
      · split at hCode
        · omega
        · exact absurd hCode (hOther k).2
    · split at hCode
      · exact absurd hCode.symm (hOther j).1
      · split at hCode
        · exact absurd hCode.symm (hOther j).2
        · have hDigits := congrArg String.toList hCode
          rw [String.toList_append, String.toList_append,
            List.append_cancel_left_eq, Nat.toList_repr,
            Nat.toList_repr] at hDigits
          rw [← Nat.ofDigitChars_ten_toDigits (n := j),
            hDigits, Nat.ofDigitChars_ten_toDigits]

/- The secret whose codes are published. -/
def publishedSecret : TotpSecret where
  bytes := [49, 50, 51, 52, 53, 54, 55, 56, 57, 48,
    49, 50, 51, 52, 53, 54, 55, 56, 57, 48]
  length_eq := rfl

/- Two codes, each shown once and in its time step. -/
def shownInTime : List Attempt :=
  [⟨"081804", 1111111109⟩, ⟨"050471", 1111111111⟩]

theorem codes_shown_in_time :
    LogsInOnce publishedCodes publishedSecret
      shownInTime := by
  have hCodes : codeAt publishedCodes publishedSecret =
      fun k => some (publishedCode k) := by
    funext k
    rfl
  apply (logs_in_once_iff publishedCodes_lawful
    publishedSecret _ (by decide)).mpr
  · constructor
    · decide
    · intro past a hPast _ b hB hStep
      rcases past with _ | ⟨first, _ | ⟨second, rest⟩⟩
      · cases hB
      · rw [shownInTime, List.cons_append, List.nil_append,
          List.cons_prefix_cons, List.cons_prefix_cons]
          at hPast
        rw [List.mem_singleton.mp
            ((opening_sublist [first]).subset hB),
          hPast.1, hPast.2.1] at hStep
        exact absurd hStep (by decide)
      · have hLength := hPast.length_le
        simp [shownInTime] at hLength
  · intro j k code hJ hK
    rw [hCodes] at hJ hK
    exact publishedCode_injective
      (Option.some.inj (hJ.trans hK.symm))

/- The code of a time step, shown again in the next one. -/
def shownAgain : List Attempt :=
  [⟨"081804", 1111111109⟩, ⟨"081804", 1111111111⟩]

theorem code_accepted_twice :
    shownAgain.Pairwise (fun a b => a.now ≤ b.now) ∧
      codeAt publishedCodes publishedSecret 37037036 =
        some "081804" ∧
      accepted publishedCodes publishedSecret shownAgain =
        shownAgain ∧
      ¬ LogsInOnce publishedCodes publishedSecret
        shownAgain := by
  have hTwice : accepted publishedCodes publishedSecret
      shownAgain = shownAgain := by
    decide
  have hCode : codeAt publishedCodes publishedSecret
      37037036 = some "081804" := by
    decide
  refine ⟨by decide, hCode, hTwice, ?_⟩
  intro hOnce
  have hCount := hOnce.once 37037036 "081804" hCode
  rw [hTwice] at hCount
  revert hCount
  decide

end Auth

end Orignabase
