import Orignabase.Lib.Text
import Mathlib.Data.Nat.Notation
import Mathlib.Tactic.ByContra
import Mathlib.Tactic.Cases
import Mathlib.Tactic.SplitIfs

/-
  Instants, their calendar years and their texts.

  An instant is a number of nanoseconds since the start of
  1970, in UTC.  Its text begins with the year; the decimal
  text of a number does not, so that the order of two such
  texts compares a year with the first digits of a number.

  Key definitions include:
    * `yearOf`
    * `toRfc3339`
    * `leadYear`

  Main results:
    * `yearOf_mono`
    * `decimal_lt_rfc3339_iff`
-/

--------
-- Years
--------

namespace Timestamp

/- The days from the start of year 0 to that of a year. -/
def daysBefore (year : Int) : Int :=
  365 * year + (year + 3) / 4 - (year + 99) / 100 +
    (year + 399) / 400

/- The year of a day, counted from the start of year 0. -/
def dayYear (day : Int) : Int :=
  let guess := 400 * day / 146097
  if day < daysBefore guess then guess - 1
  else if daysBefore (guess + 1) ≤ day then guess + 1
  else guess

theorem daysBefore_lt
    {year year' : Int}
    (hLt : year < year') :
    daysBefore year < daysBefore year' := by
  unfold daysBefore
  omega

theorem daysBefore_dayYear (day : Int) :
    daysBefore (dayYear day) ≤ day ∧
      day < daysBefore (dayYear day + 1) := by
  have hGuess := Int.mul_ediv_add_emod (400 * day) 146097
  have hPos := Int.emod_nonneg (400 * day)
    (show (146097 : Int) ≠ 0 by decide)
  have hLt := Int.emod_lt_of_pos (400 * day)
    (show (0 : Int) < 146097 by decide)
  unfold dayYear
  generalize 400 * day / 146097 = guess at *
  simp only
  split_ifs with hBefore hAfter
  · rw [Int.sub_add_cancel]
    unfold daysBefore at *
    omega
  · unfold daysBefore at *
    omega
  · unfold daysBefore at *
    omega

theorem dayYear_mono
    {day day' : Int}
    (hLe : day ≤ day') :
    dayYear day ≤ dayYear day' := by
  by_contra hLess
  have hSpec := (daysBefore_dayYear day).1
  have hSpec' := (daysBefore_dayYear day').2
  rcases (show dayYear day' + 1 < dayYear day ∨
      dayYear day' + 1 = dayYear day by omega) with
    hLt | hEq
  · have hDays := daysBefore_lt hLt
    omega
  · rw [hEq] at hSpec'
    omega

def nanosPerSecond : Int := 1000000000

/- The last whole second of an instant. -/
def secondOf (t : Int) : Int := t / nanosPerSecond

/- The day of an instant, counted from the start of year 0. -/
def dayOf (t : Int) : Int := secondOf t / 86400 + 719528

def yearOf (t : Int) : Int := dayYear (dayOf t)

theorem yearOf_mono
    {t t' : Int}
    (hLe : t ≤ t') :
    yearOf t ≤ yearOf t' := by
  apply dayYear_mono
  unfold dayOf secondOf nanosPerSecond
  omega

--------
-- Texts
--------

def twoDigits (n : ℕ) : List Char :=
  [Nat.digitChar (n / 10 % 10), Nat.digitChar (n % 10)]

def threeDigits (n : ℕ) : List Char :=
  Nat.digitChar (n / 100 % 10) :: twoDigits n

def fourDigits (n : ℕ) : List Char :=
  Nat.digitChar (n / 1000 % 10) :: threeDigits n

/- Years of more or less than four digits have a sign. -/
def yearText (year : Int) : List Char :=
  if 0 ≤ year ∧ year ≤ 9999 then fourDigits year.toNat
  else if year < 0 then
    '-' ::
      (if year.natAbs ≤ 9999 then fourDigits year.natAbs
      else Nat.toDigits 10 year.natAbs)
  else '+' :: Nat.toDigits 10 year.toNat

def monthLengths (isLeap : Bool) : List ℕ :=
  [31, if isLeap then 29 else 28, 31, 30, 31, 30, 31, 31, 30,
    31, 30, 31]

/- The month and day of a day of the year. -/
def monthDay : List ℕ → ℕ → ℕ → ℕ × ℕ
  | [], month, day => (month, day + 1)
  | length :: rest, month, day =>
    if day < length then (month, day + 1)
    else monthDay rest (month + 1) (day - length)

/- Fractions of a second, in thousands as far as needed. -/
def fractionText (nanos : ℕ) : List Char :=
  if nanos = 0 then []
  else if nanos % 1000000 = 0 then
    '.' :: threeDigits (nanos / 1000000)
  else if nanos % 1000 = 0 then
    '.' :: (threeDigits (nanos / 1000000) ++
      threeDigits (nanos / 1000))
  else
    '.' :: (threeDigits (nanos / 1000000) ++
      threeDigits (nanos / 1000) ++ threeDigits nanos)

/- The text of an instant after its year. -/
def afterYear (t : Int) : List Char :=
  let year := yearOf t
  let isLeap :=
    daysBefore (year + 1) - daysBefore year = 366
  let date := monthDay (monthLengths isLeap) 1
      (dayOf t - daysBefore year).toNat
  let second := (secondOf t % 86400).toNat
  twoDigits date.1 ++ '-' :: (twoDigits date.2 ++
    'T' :: (twoDigits (second / 3600) ++
      ':' :: (twoDigits (second / 60 % 60) ++
        ':' :: (twoDigits (second % 60) ++
          fractionText (t % nanosPerSecond).toNat ++
          ['+', '0', '0', ':', '0', '0']))))

def toRfc3339 (t : Int) : String :=
  String.ofList (yearText (yearOf t) ++ '-' :: afterYear t)

example :
    toRfc3339 1709210096120000000 =
      "2024-02-29T12:34:56.120+00:00" := by
  decide

example :
    toRfc3339 (-1) = "1969-12-31T23:59:59.999999999+00:00" := by
  decide

--------
-- The Order Of Texts
--------

/- The first four digits of a number, or all it has. -/
def firstFour (n : ℕ) : ℕ :=
  if n < 10000 then n else firstFour (n / 10)
termination_by n

/-
  The first year whose instants come after the decimal text
  of the number.
-/
def leadYear (n : ℕ) : ℕ :=
  if n < 10 then n * 1000
  else if n < 100 then n * 100
  else if n < 1000 then n * 10
  else if n < 10000 then n
  else firstFour n + 1

variable {a n : ℕ}

theorem digitChar_lt_iff
    {b : ℕ}
    (hA : a < 10)
    (hB : b < 10) :
    (Nat.digitChar a).toNat < (Nat.digitChar b).toNat ↔
      a < b := by
  have hAll :
      ∀ x y : Fin 10,
        (Nat.digitChar x).toNat < (Nat.digitChar y).toNat ↔
          x < y := by
    decide
  exact hAll ⟨a, hA⟩ ⟨b, hB⟩

theorem digitChar_eq_iff
    {b : ℕ}
    (hA : a < 10)
    (hB : b < 10) :
    Nat.digitChar a = Nat.digitChar b ↔ a = b := by
  have hAll :
      ∀ x y : Fin 10,
        Nat.digitChar x = Nat.digitChar y ↔ x = y := by
    decide
  simpa using hAll ⟨a, hA⟩ ⟨b, hB⟩

/- No sign comes after a digit. -/
theorem not_digitChar_lt
    (hA : a < 10)
    {sign : Char}
    (hSign : sign = '-' ∨ sign = '+') :
    ¬ (Nat.digitChar a).toNat < sign.toNat ∧
      Nat.digitChar a ≠ sign := by
  have hAll :
      ∀ x : Fin 10, (¬ (Nat.digitChar x).toNat < '-'.toNat ∧
            Nat.digitChar x ≠ '-') ∧
          ¬ (Nat.digitChar x).toNat < '+'.toNat ∧
            Nat.digitChar x ≠ '+' := by
    decide
  rcases hSign with rfl | rfl
  · exact (hAll ⟨a, hA⟩).1
  · exact (hAll ⟨a, hA⟩).2

/- A decimal text begins with a digit. -/
theorem toDigits_cons (n : ℕ) :
    ∃ a rest, a < 10 ∧
      Nat.toDigits 10 n = Nat.digitChar a :: rest := by
  induction n using Nat.strongRecOn with
  | ind n ih =>
    rw [Nat.toDigits_eq_if (by decide)]
    split_ifs with hSmall
    · exact ⟨n, [], hSmall, rfl⟩
    · rcases ih (n / 10) (by omega) with
        ⟨a, rest, hDigit, hText⟩
      exact ⟨a, rest ++ [Nat.digitChar (n % 10)], hDigit,
        by rw [hText, List.cons_append]⟩

/- A decimal text comes after every text with a sign. -/
theorem not_toDigits_lt_sign
    (n : ℕ)
    {sign : Char}
    (hSign : sign = '-' ∨ sign = '+')
    (rest : List Char) :
    ¬ Text.before (Nat.toDigits 10 n) (sign :: rest) =
      true := by
  rcases toDigits_cons n with ⟨a, tail, hDigit, hText⟩
  have hNot := not_digitChar_lt hDigit hSign
  rw [hText, Text.before_cons]
  rintro (hLt | ⟨hEq, _⟩)
  · exact hNot.1 hLt
  · exact hNot.2 hEq

theorem toDigits_four
    (hLow : 1000 ≤ n)
    (hHigh : n < 10000) :
    Nat.toDigits 10 n = fourDigits n := by
  rw [Nat.toDigits_of_base_le (by decide) (by omega),
    Nat.toDigits_of_base_le (by decide) (by omega),
    Nat.toDigits_of_base_le (by decide) (by omega),
    Nat.toDigits_of_lt_base (by omega)]
  simp only [fourDigits, threeDigits, twoDigits,
    List.cons_append, List.nil_append]
  have hFirst : n / 10 / 10 / 10 = n / 1000 % 10 := by omega
  have hSecond : n / 10 / 10 % 10 = n / 100 % 10 := by omega
  rw [hFirst, hSecond]

/- A longer text begins with the text of its first digits. -/
theorem toDigits_firstFour
    (hLong : 10000 ≤ n) :
    (1000 ≤ firstFour n ∧ firstFour n < 10000) ∧
      ∃ a rest, a < 10 ∧ Nat.toDigits 10 n =
          fourDigits (firstFour n) ++
            Nat.digitChar a :: rest := by
  induction n using Nat.strongRecOn with
  | ind n ih =>
    rw [firstFour, if_neg (by omega),
      Nat.toDigits_of_base_le (by decide) (by omega)]
    by_cases hShort : n / 10 < 10000
    · have hIs : firstFour (n / 10) = n / 10 := by
        rw [firstFour, if_pos hShort]
      rw [hIs, toDigits_four (by omega) hShort]
      exact ⟨by omega, n % 10, [], by omega, rfl⟩
    · rcases ih (n / 10) (by omega) (by omega) with
        ⟨hBounds, a, rest, hDigit, hText⟩
      refine ⟨hBounds, a,
        rest ++ [Nat.digitChar (n % 10)], hDigit, ?_⟩
      rw [hText, List.append_assoc, List.cons_append]

theorem digits_eq {n : ℕ} (hSmall : n < 10000) :
    n = 1000 * (n / 1000 % 10) + 100 * (n / 100 % 10) +
        10 * (n / 10 % 10) + n % 10 := by
  omega

/- Texts of four digits are ordered as their numbers. -/
theorem fourDigits_append_lt_iff
    {k : ℕ}
    (hN : n < 10000)
    (hK : k < 10000)
    (xs ys : List Char) :
    Text.before (fourDigits n ++ xs) (fourDigits k ++ ys) =
        true ↔
      n < k ∨ n = k ∧ Text.before xs ys = true := by
  simp only [fourDigits, threeDigits, twoDigits,
    List.cons_append, List.nil_append, Text.before_cons]
  rw [digitChar_lt_iff (by omega) (by omega),
    digitChar_lt_iff (by omega) (by omega),
    digitChar_lt_iff (by omega) (by omega),
    digitChar_lt_iff (by omega) (by omega),
    digitChar_eq_iff (by omega) (by omega),
    digitChar_eq_iff (by omega) (by omega),
    digitChar_eq_iff (by omega) (by omega),
    digitChar_eq_iff (by omega) (by omega)]
  have hDigits := digits_eq hN
  have hDigits' := digits_eq hK
  have hBound : ∀ m : ℕ, m % 10 < 10 :=
    fun m => Nat.mod_lt m (by decide)
  have b1 := hBound (n / 100)
  have b2 := hBound (n / 10)
  have b3 := hBound n
  have b4 := hBound (k / 100)
  have b5 := hBound (k / 10)
  have b6 := hBound k
  generalize n / 1000 % 10 = n1 at *
  generalize n / 100 % 10 = n2 at *
  generalize n / 10 % 10 = n3 at *
  generalize n % 10 = n4 at *
  generalize k / 1000 % 10 = k1 at *
  generalize k / 100 % 10 = k2 at *
  generalize k / 10 % 10 = k3 at *
  generalize k % 10 = k4 at *
  by_cases hTail : Text.before xs ys = true
  · simp only [hTail, and_true]
    omega
  · simp only [hTail, Bool.false_eq_true, and_false,
      or_false]
    omega

/- Decimal texts and years of four digits. -/
theorem toDigits_lt_year_iff
    {k : ℕ}
    (hK : k < 10000)
    (rest : List Char) :
    Text.before (Nat.toDigits 10 n)
        (fourDigits k ++ '-' :: rest) = true ↔
      leadYear n ≤ k := by
  unfold leadYear
  split_ifs with h1 h2 h3 h4
  · rw [Nat.toDigits_of_lt_base h1]
    simp only [fourDigits, List.cons_append,
      Text.before_cons]
    rw [digitChar_lt_iff h1 (by omega),
      digitChar_eq_iff h1 (by omega)]
    simp only [threeDigits, List.cons_append,
      Text.before_nil, and_true]
    omega
  · rw [Nat.toDigits_of_base_le (by decide) (by omega),
      Nat.toDigits_of_lt_base (by omega)]
    simp only [fourDigits, threeDigits, List.cons_append,
      List.nil_append, Text.before_cons]
    rw [digitChar_lt_iff (by omega) (by omega),
      digitChar_eq_iff (by omega) (by omega),
      digitChar_lt_iff (by omega) (by omega),
      digitChar_eq_iff (by omega) (by omega)]
    simp only [twoDigits, List.cons_append,
      Text.before_nil, and_true]
    omega
  · rw [Nat.toDigits_of_base_le (by decide) (by omega),
      Nat.toDigits_of_base_le (by decide) (by omega),
      Nat.toDigits_of_lt_base (by omega)]
    simp only [fourDigits, threeDigits, twoDigits,
      List.cons_append, List.nil_append,
      Text.before_cons]
    rw [digitChar_lt_iff (by omega) (by omega),
      digitChar_eq_iff (by omega) (by omega),
      digitChar_lt_iff (by omega) (by omega),
      digitChar_eq_iff (by omega) (by omega),
      digitChar_lt_iff (by omega) (by omega),
      digitChar_eq_iff (by omega) (by omega)]
    simp only [Text.before_nil, and_true]
    omega
  · have hText := fourDigits_append_lt_iff h4 hK []
      ('-' :: rest)
    rw [List.append_nil] at hText
    rw [toDigits_four (by omega) h4, hText]
    simp only [Text.before_nil, and_true]
    omega
  · rcases toDigits_firstFour (show 10000 ≤ n by omega) with
      ⟨hBounds, a, tail, hDigit, hText⟩
    have hNot := not_digitChar_lt hDigit (Or.inl rfl)
    rw [hText, fourDigits_append_lt_iff hBounds.2 hK,
      Text.before_cons]
    constructor
    · rintro (hLt | ⟨_, hLt | ⟨hEq, _⟩⟩)
      · omega
      · exact absurd hLt hNot.1
      · exact absurd hEq hNot.2
    · intro hLe
      exact Or.inl (by omega)

theorem toList_toRfc3339 (t : Int) :
    (toRfc3339 t).toList =
      yearText (yearOf t) ++ '-' :: afterYear t :=
  String.toList_ofList

/-
  The decimal text of a number is before the text of an
  instant exactly from one year on.
-/
theorem decimal_lt_rfc3339_iff (n : ℕ) (t : Int) :
    Text.lt (toString n) (toRfc3339 t) = true ↔
      (leadYear n : Int) ≤ yearOf t ∧ yearOf t ≤ 9999 := by
  have hText :
      Text.lt (toString n) (toRfc3339 t) =
        Text.before (Nat.toDigits 10 n)
          (yearText (yearOf t) ++ '-' :: afterYear t) := by
    rw [← toList_toRfc3339, ← Nat.toList_repr]
    rfl
  rw [hText]
  unfold yearText
  split_ifs with hRange hNegative
  · rw [toDigits_lt_year_iff (by omega)]
    omega
  · rw [List.cons_append]
    have hNot := not_toDigits_lt_sign n (Or.inl rfl)
        (fourDigits (yearOf t).natAbs ++ '-' :: afterYear t)
    constructor
    · intro hLt
      exact absurd hLt hNot
    · omega
  · rw [List.cons_append]
    have hNot := not_toDigits_lt_sign n (Or.inl rfl)
        (Nat.toDigits 10 (yearOf t).natAbs ++
          '-' :: afterYear t)
    constructor
    · intro hLt
      exact absurd hLt hNot
    · omega
  · rw [List.cons_append]
    have hNot := not_toDigits_lt_sign n (Or.inr rfl)
        (Nat.toDigits 10 (yearOf t).toNat ++
          '-' :: afterYear t)
    constructor
    · intro hLt
      exact absurd hLt hNot
    · omega

theorem decimal_ne_rfc3339 (n : ℕ) (t : Int) :
    toString n ≠ toRfc3339 t := by
  intro hEq
  have hMem : '-' ∈ (toString n).toList := by
    rw [hEq, toList_toRfc3339]
    simp
  have hDigit : '-'.isDigit = true :=
    Nat.isDigit_of_mem_toDigits (by decide) (by decide)
      (Nat.toList_repr ▸ hMem)
  exact absurd hDigit (by decide)

theorem decimal_le_rfc3339 (n : ℕ) (t : Int) :
    Text.le (toString n) (toRfc3339 t) =
      Text.lt (toString n) (toRfc3339 t) := by
  simp only [Text.le, decimal_ne_rfc3339, decide_false,
    Bool.false_or]

/- The last instant with a year of four digits. -/
def lastInstant : Int := 253402300799999999999

theorem yearOf_lastInstant : yearOf lastInstant = 9999 := by
  decide

/-
  The text of a number is before that of no instant up to a
  given one.
-/
theorem never_before_iff (n : ℕ) (t : Int) :
    (∀ t' ≤ t,
      ¬ Text.lt (toString n) (toRfc3339 t') = true) ↔
      yearOf t < leadYear n ∨ 9999 < leadYear n := by
  simp only [decimal_lt_rfc3339_iff]
  constructor
  · intro hNever
    by_contra hNot
    push Not at hNot
    rcases (show yearOf t ≤ 9999 ∨ 9999 < yearOf t by
        omega) with hFour | hMore
    · exact hNever t (Int.le_refl t) ⟨by omega, hFour⟩
    · have hLast : lastInstant ≤ t := by
        by_contra hLater
        have hMono := yearOf_mono (Int.le_of_not_le hLater)
        rw [yearOf_lastInstant] at hMono
        omega
      apply hNever lastInstant hLast
      rw [yearOf_lastInstant]
      omega
  · intro hYears t' hLe hBefore
    have hMono := yearOf_mono hLe
    omega

/- The text of a number is before that of a later instant. -/
theorem once_before
    {t : Int}
    (hLater : yearOf t < leadYear n)
    (hFour : leadYear n ≤ 9999) :
    t < lastInstant ∧
      Text.lt (toString n) (toRfc3339 lastInstant) =
        true := by
  constructor
  · by_contra hLe
    have hMono := yearOf_mono (Int.not_lt.mp hLe)
    rw [yearOf_lastInstant] at hMono
    omega
  · rw [decimal_lt_rfc3339_iff, yearOf_lastInstant]
    omega

end Timestamp
