import Orignabase.Lib.Text

/-
  Texts inside URLs: percent encoding, decimal numbers and
  query parameters.

  Key definitions include:
    * `Url.percentDecode`
    * `Url.hasEscape`
    * `Url.parseNat`
    * `Url.param`

  Main results:
    * `Url.percentDecode_eq_self_iff`
    * `Url.utf8_injective`
    * `Url.parseNat_toDigits`
    * `Url.param_two`
-/

--------
-- Percent Encoding
--------

namespace Url

def utf8 (text : List Char) : List UInt8 :=
  text.flatMap String.utf8EncodeChar

/- The value of a hexadecimal digit, by its ASCII byte. -/
def hexDigit (byte : UInt8) : Option UInt8 :=
  if 0x30 ≤ byte ∧ byte ≤ 0x39 then some (byte - 0x30)
  else if 0x41 ≤ byte ∧ byte ≤ 0x46 then some (byte - 0x37)
  else if 0x61 ≤ byte ∧ byte ≤ 0x66 then some (byte - 0x57)
  else none

/-
  Replace every "%" that two hexadecimal digits follow by the
  byte they spell.  Any other "%" stays.
-/
def percentDecodeBytes : List UInt8 → List UInt8
  | byte :: high :: low :: rest =>
    if byte = 0x25 then
      match hexDigit high, hexDigit low with
      | some a, some b =>
        (a * 16 + b) :: percentDecodeBytes rest
      | _, _ => byte :: percentDecodeBytes (high :: low :: rest)
    else byte :: percentDecodeBytes (high :: low :: rest)
  | bytes => bytes

/- There is a "%" that two hexadecimal digits follow. -/
def hasEscape : List UInt8 → Bool
  | byte :: high :: low :: rest =>
    (byte = 0x25 && (hexDigit high).isSome &&
        (hexDigit low).isSome) ||
      hasEscape (high :: low :: rest)
  | _ => false

/- The decoded text, if it is one. -/
def percentDecode (text : List Char) :
    Option (List Char) :=
  (percentDecodeBytes (utf8 text)).toByteArray.utf8Decode?.map
    Array.toList

theorem length_percentDecodeBytes (bytes : List UInt8) :
    (percentDecodeBytes bytes).length ≤ bytes.length := by
  fun_induction percentDecodeBytes bytes with
  | case1 high low rest a b _ _ ih =>
    simp only [List.length_cons]
    omega
  | case2 high low rest _ ih =>
    simp only [List.length_cons] at ih ⊢
    omega
  | case3 byte high low rest _ ih =>
    simp only [List.length_cons] at ih ⊢
    omega
  | case4 bytes => exact Nat.le_refl _

/- Decoding leaves the bytes alone without an escape only. -/
theorem percentDecodeBytes_eq_self_iff
    {bytes : List UInt8} :
    percentDecodeBytes bytes = bytes ↔
      hasEscape bytes = false := by
  fun_induction percentDecodeBytes bytes with
  | case1 high low rest a b hHigh hLow _ =>
    constructor
    · intro hSame
      have hLength := congrArg List.length hSame
      have hShort := length_percentDecodeBytes rest
      simp only [List.length_cons] at hLength
      omega
    · intro hNone
      simp [hasEscape, hHigh, hLow] at hNone
  | case2 high low rest hNot ih =>
    have hDigits :
        ((hexDigit high).isSome && (hexDigit low).isSome) =
          false := by
      rw [Bool.and_eq_false_iff]
      cases hHigh : hexDigit high with
      | none => exact Or.inl rfl
      | some a =>
        cases hLow : hexDigit low with
        | none => exact Or.inr rfl
        | some b => exact absurd hLow (hNot a b hHigh)
    rw [List.cons_inj_right, ih, hasEscape, Bool.and_assoc,
      hDigits, Bool.and_false, Bool.false_or]
  | case3 byte high low rest hByte ih =>
    rw [List.cons_inj_right, ih, hasEscape]
    simp [hByte]
  | case4 bytes hShort =>
    constructor
    · intro _
      unfold hasEscape
      split
      · exact absurd rfl (hShort _ _ _ _)
      · rfl
    · intro _
      rfl

theorem toByteArray_utf8 (text : List Char) :
    (utf8 text).toByteArray = text.utf8Encode := rfl

variable {text : List Char} {c : Char}
variable {name value : List Char}

theorem percentDecode_eq_some_iff
    {decoded : List Char} :
    percentDecode text = some decoded ↔
      percentDecodeBytes (utf8 text) = utf8 decoded := by
  constructor
  · intro hDecode
    rcases Option.map_eq_some_iff.mp hDecode with
      ⟨chars, hChars, hText⟩
    rcases ByteArray.isSome_utf8Decode?_iff.mp
        (Option.isSome_of_eq_some hChars) with
      ⟨read, hBytes⟩
    rw [hBytes, List.utf8Decode?_utf8Encode] at hChars
    rw [← Option.some.inj hChars] at hText
    have hSame : read = decoded := by simpa using hText
    rw [hSame, ← toByteArray_utf8] at hBytes
    exact List.toByteArray_inj.mp hBytes
  · intro hSame
    rw [percentDecode, hSame, toByteArray_utf8,
      List.utf8Decode?_utf8Encode]
    simp

theorem percentDecode_eq_self_iff {text : List Char} :
    percentDecode text = some text ↔
      hasEscape (utf8 text) = false :=
  percentDecode_eq_some_iff.trans
    percentDecodeBytes_eq_self_iff

theorem length_of_percentDecode
    {decoded : List Char}
    (hDecode : percentDecode text = some decoded) :
    (utf8 decoded).length ≤ (utf8 text).length := by
  rw [← percentDecode_eq_some_iff.mp hDecode]
  exact length_percentDecodeBytes _

theorem utf8_injective
    {text' : List Char}
    (hSame : utf8 text = utf8 text') :
    text = text' := by
  have hRead :
      (utf8 text).toByteArray.utf8Decode? =
        (utf8 text').toByteArray.utf8Decode? := by
    rw [hSame]
  rw [toByteArray_utf8, toByteArray_utf8,
    List.utf8Decode?_utf8Encode,
    List.utf8Decode?_utf8Encode] at hRead
  simpa using hRead

/- A longer text has more bytes. -/
theorem length_utf8_lt
    (text : List Char)
    (c : Char)
    (rest : List Char) :
    (utf8 text).length < (utf8 (text ++ c :: rest)).length := by
  simp only [utf8, List.flatMap_append, List.flatMap_cons,
    List.length_append, String.length_utf8EncodeChar]
  have hSize := Char.utf8Size_pos c
  omega

--------
-- Plain Texts
--------

/- A character of the alphabet of numbers and signatures. -/
def isUnreserved (c : Char) : Bool :=
  c.isAlphanum || c = '-' || c = '_'

theorem code_of_unreserved
    (hPlain : isUnreserved c = true) :
    c.val.toNat ≤ 127 ∧ c.val.toNat ≠ 37 := by
  simp only [isUnreserved, Bool.or_eq_true,
    decide_eq_true_iff] at hPlain
  change c.toNat ≤ 127 ∧ c.toNat ≠ 37
  rcases hPlain with (hAlnum | rfl) | rfl
  · rcases Text.isAlpha_or_isDigit hAlnum with
      hAlpha | hDigit
    · have hCode := Text.code_of_isAlpha hAlpha
      omega
    · have hCode := Text.code_of_isDigit hDigit
      omega
  · decide
  · decide

/- Its encoding is one byte, and not that of "%". -/
theorem utf8Size_of_unreserved
    (hPlain : isUnreserved c = true) :
    c.utf8Size = 1 ∧ c.val.toUInt8 ≠ 0x25 := by
  rcases code_of_unreserved hPlain with ⟨hSmall, hNe⟩
  constructor
  · have hLe : c.val ≤ 0x7f := UInt32.le_iff_toNat_le.mpr hSmall
    simp [Char.utf8Size, hLe]
  · intro hByte
    have hCode := congrArg UInt8.toNat hByte
    rw [UInt32.toNat_toUInt8] at hCode
    have hMod : c.val.toNat % 256 = 37 := hCode
    omega

theorem hasEscape_of_notMem
    {bytes : List UInt8}
    (hNot : 0x25 ∉ bytes) :
    hasEscape bytes = false := by
  fun_induction hasEscape bytes with
  | case1 byte high low rest ih =>
    rw [List.mem_cons, not_or] at hNot
    rw [ih hNot.2]
    simp [Ne.symm hNot.1]
  | case2 bytes _ => rfl

theorem percentDecode_plain
    (hPlain : ∀ c ∈ text, isUnreserved c = true) :
    percentDecode text = some text := by
  rw [percentDecode_eq_self_iff]
  apply hasEscape_of_notMem
  intro hMem
  rcases List.mem_flatMap.mp hMem with ⟨c, hChar, hByte⟩
  rcases utf8Size_of_unreserved (hPlain c hChar) with
    ⟨hSize, hNe⟩
  rw [String.utf8EncodeChar_eq_singleton hSize,
    List.mem_singleton] at hByte
  exact hNe hByte.symm

--------
-- Numbers
--------

/- A decimal number, with or without a plus sign. -/
def parseNat (text : List Char) : Option Nat :=
  let digits :=
    if text.head? = some '+' then text.tail else text
  if digits ≠ [] ∧ digits.all Char.isDigit = true then
    some (Nat.ofDigitChars 10 digits 0)
  else none

theorem isDigit_toDigits
    {n : Nat}
    (hMem : c ∈ Nat.toDigits 10 n) :
    c.isDigit = true :=
  Nat.isDigit_of_mem_toDigits (by decide) (by decide) hMem

theorem parseNat_toDigits (n : Nat) :
    parseNat (Nat.toDigits 10 n) = some n := by
  have hNoPlus : (Nat.toDigits 10 n).head? ≠ some '+' := by
    intro hHead
    have hDigit :=
      isDigit_toDigits (List.mem_of_mem_head? hHead)
    exact absurd hDigit (by decide)
  have hAll :
      (Nat.toDigits 10 n).all Char.isDigit = true :=
    List.all_eq_true.mpr (fun _ => isDigit_toDigits)
  simp only [parseNat]
  rw [if_neg hNoPlus, if_pos ⟨Nat.toDigits_ne_nil, hAll⟩,
    Nat.ofDigitChars_ten_toDigits]

theorem toDigits_injective
    {m n : Nat}
    (hSame : Nat.toDigits 10 m = Nat.toDigits 10 n) :
    m = n := by
  have hParsed := congrArg parseNat hSame
  rw [parseNat_toDigits, parseNat_toDigits] at hParsed
  exact Option.some.inj hParsed

--------
-- Query Parameters
--------

/- A name or a value of a form, where "+" is a space. -/
def decodeParam (text : List Char) : Option (List Char) :=
  percentDecode (Text.replaceChar '+' [' '] text)

def decodePair (pair : List Char) :
    Option (List Char) × Option (List Char) :=
  (decodeParam (pair.takeWhile (· ≠ '=')),
    decodeParam ((pair.dropWhile (· ≠ '=')).drop 1))

def pairs (query : List Char) :
    List (Option (List Char) × Option (List Char)) :=
  ((query.splitOn '&').filter (· ≠ [])).map decodePair

/-
  The value of a parameter that occurs once.  A parameter
  given twice is refused.
-/
def param (name query : List Char) : Option (List Char) :=
  match (pairs query).filter (fun pair => pair.1 = some name)
    with
  | [pair] => pair.2
  | _ => none

theorem decodeParam_plain
    (hPlain : ∀ c ∈ text, isUnreserved c = true) :
    decodeParam text = some text := by
  have hNoPlus : '+' ∉ text := by
    intro hMem
    exact absurd (hPlain _ hMem) (by decide)
  rw [decodeParam, Text.replaceChar_of_notMem _ hNoPlus,
    percentDecode_plain hPlain]

/- A plain text before a separator. -/
theorem span_plain
    {sep : Char}
    (hSep : isUnreserved sep = false)
    (hPlain : ∀ c ∈ text, isUnreserved c = true)
    (rest : List Char) :
    (text ++ sep :: rest).takeWhile (· ≠ sep) = text ∧
      (text ++ sep :: rest).dropWhile (· ≠ sep) =
        sep :: rest := by
  have hAll :
      ∀ c ∈ text, (decide (c ≠ sep)) = true := by
    intro c hMem
    rw [decide_eq_true_iff]
    rintro rfl
    rw [hPlain c hMem] at hSep
    cases hSep
  rw [List.takeWhile_append_of_pos hAll,
    List.dropWhile_append_of_pos hAll]
  simp

theorem decodePair_plain
    (hName : ∀ c ∈ name, isUnreserved c = true)
    (hValue : ∀ c ∈ value, isUnreserved c = true) :
    decodePair (name ++ '=' :: value) =
      (some name, some value) := by
  have hEquals : isUnreserved '=' = false := by decide
  have hSpan := span_plain hEquals hName value
  rw [decodePair, hSpan.1, hSpan.2, List.drop_one,
    List.tail_cons, decodeParam_plain hName,
    decodeParam_plain hValue]

/- Two parameters with plain names and values. -/
theorem pairs_two
    {name' value' : List Char}
    (hName : ∀ c ∈ name, isUnreserved c = true)
    (hValue : ∀ c ∈ value, isUnreserved c = true)
    (hName' : ∀ c ∈ name', isUnreserved c = true)
    (hValue' : ∀ c ∈ value', isUnreserved c = true) :
    pairs (name ++ '=' :: (value ++
        '&' :: (name' ++ '=' :: value'))) =
      [(some name, some value), (some name', some value')] := by
  have hNoAnd :
      ∀ {name value : List Char},
        (∀ c ∈ name, isUnreserved c = true) →
        (∀ c ∈ value, isUnreserved c = true) →
          '&' ∉ name ++ '=' :: value := by
    intro name value hName hValue hMem
    rcases List.mem_append.mp hMem with hIn | hIn
    · exact absurd (hName _ hIn) (by decide)
    · rcases List.mem_cons.mp hIn with hEq | hIn
      · exact absurd hEq (by decide)
      · exact absurd (hValue _ hIn) (by decide)
  have hFirst := hNoAnd hName hValue
  have hSecond := hNoAnd hName' hValue'
  have hJoined :
      name ++ '=' :: (value ++
          '&' :: (name' ++ '=' :: value')) =
        (name ++ '=' :: value) ++
          '&' :: (name' ++ '=' :: value') := by
    simp
  rw [pairs, hJoined,
    List.splitOn_append_cons_self_of_not_mem hFirst,
    List.splitOn_eq_singleton hSecond]
  simp [decodePair_plain hName hValue,
    decodePair_plain hName' hValue']

/- Each of two parameters is found by its name. -/
theorem param_two
    {name' value' : List Char}
    (hName : ∀ c ∈ name, isUnreserved c = true)
    (hValue : ∀ c ∈ value, isUnreserved c = true)
    (hName' : ∀ c ∈ name', isUnreserved c = true)
    (hValue' : ∀ c ∈ value', isUnreserved c = true)
    (hApart : name ≠ name') :
    param name (name ++ '=' :: (value ++
          '&' :: (name' ++ '=' :: value'))) = some value ∧
      param name' (name ++ '=' :: (value ++
          '&' :: (name' ++ '=' :: value'))) =
        some value' := by
  have hPairs := pairs_two hName hValue hName' hValue'
  constructor
  · rw [param, hPairs]
    simp [hApart.symm]
  · rw [param, hPairs]
    simp [hApart]

end Url
