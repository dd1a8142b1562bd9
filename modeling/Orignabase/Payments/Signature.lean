import Orignabase.Core.Validate
import Orignabase.Lib.KeyValues
import Orignabase.Lib.Url

/-
  Which signatures of webhook requests are accepted.

  Source: `verify_stripe_signature` in
  `crates/ob-handlers/src/payments/webhooks.rs` and the checks
  of `handle_stripe_webhook` before an event is read.

  The fields of the header go into a table, so that only the
  last `v1` is compared; and the age of the timestamp is a
  difference of 64-bit numbers, which can overflow.

  Key definitions include:
    * `verifyStripeSignature`
    * `Header`
    * `Valid`
    * `Exact`
    * `Comparable`

  Main results:
    * `tooOld_eq_none_iff`
    * `exact_iff`
-/

--------
-- Verification
--------

namespace Orignabase.Payments.Signature

abbrev Bytes := List UInt8

/- HMAC-SHA256, whose codes are of 32 bytes. -/
structure Mac where
  run : Bytes → Bytes → Bytes
  length_run : ∀ key message, (run key message).length = 32

/- The seconds since the epoch that the clock can show. -/
structure Clock where
  secs : ℕ
  bound : secs < 2 ^ 63

/- A number of 64 bits after an operation that wraps. -/
def wrapI64 (n : ℤ) : ℤ := Int.bmod n (2 ^ 64)

/- `str::parse::<i64>`. -/
def parseI64 (text : String) : Option ℤ :=
  match text.toList with
  | '-' :: digits =>
    if digits.head? = some '+' then none
    else (Url.parseNat digits).bind fun n =>
      if n ≤ 2 ^ 63 then some (-n) else none
  | digits =>
    (Url.parseNat digits).bind fun n =>
      if n < 2 ^ 63 then some n else none

/-
  Whether a timestamp is more than 300 seconds away.  In a
  build with overflow checks an overflow ends the request.
-/
def tooOld (checked : Bool) (now ts : ℤ) : Option Bool :=
  let age := wrapI64 (now - ts)
  if checked = true ∧ age ≠ now - ts then none
  else
    let distance := wrapI64 age.natAbs
    if checked = true ∧ distance ≠ age.natAbs then none
    else some (decide (300 < distance))

/- `hex::decode`. -/
def hexDecode : Bytes → Option Bytes
  | [] => some []
  | [_] => none
  | high :: low :: rest =>
    match Url.hexDigit high, Url.hexDigit low with
    | some a, some b =>
      (hexDecode rest).map fun bytes =>
        (a * 16 + b) :: bytes
    | _, _ => none

def bytesOf (text : String) : Bytes := Url.utf8 text.toList

/- "{timestamp}.{body}" -/
def signedContent
    (timestamp : String)
    (body : Bytes) : Bytes :=
  bytesOf timestamp ++ bytesOf "." ++ body

def verifyStripeSignature
    (checked : Bool)
    (mac : Mac)
    (clock : Clock)
    (body : Bytes)
    (signature secret : String) : Option Bool :=
  let parts := KeyValues.readTable ',' '=' signature
  let timestamp := (parts.get "t").getD ""
  let providedSig := (parts.get "v1").getD ""
  if timestamp = "" ∨ providedSig = "" then some false
  else
    match parseI64 timestamp with
    | none => some false
    | some ts =>
    match tooOld checked clock.secs ts with
    | none => none
    | some true => some false
    | some false =>
    match hexDecode (bytesOf providedSig) with
    | none => some false
    | some provided =>
      some (decide (provided = mac.run (bytesOf secret)
          (signedContent timestamp body)))

/- The checks of a request, before its event is read. -/
def authenticate
    (checked : Bool)
    (mac : Mac)
    (clock : Clock)
    (body : Bytes)
    (header secret : Option String) :
    Option (Except Error Unit) :=
  let signature := header.getD ""
  match secret with
  | none =>
    some (.error
      (.forbidden "Webhook processing unavailable"))
  | some secret =>
    if signature = "" then
      some (.error (.auth "Missing webhook signature"))
    else
      (verifyStripeSignature checked mac clock body signature
        secret).map fun verified =>
          if verified then .ok ()
          else .error (.auth "Invalid webhook signature")

/- A request goes on exactly when it is verified. -/
theorem authenticate_eq_ok_iff
    {checked : Bool}
    {mac : Mac}
    {clock : Clock}
    {body : Bytes}
    {header secret : Option String} :
    authenticate checked mac clock body header secret =
        some (.ok ()) ↔
      ∃ known, secret = some known ∧
        verifyStripeSignature checked mac clock body
          (header.getD "") known = some true := by
  cases secret with
  | none => simp [authenticate]
  | some known =>
    simp only [authenticate, Option.some.injEq,
      exists_eq_left']
    split
    · rename_i hEmpty
      have hRefused : verifyStripeSignature checked mac clock
          body "" known = some false := rfl
      rw [hEmpty, hRefused]
      simp
    · cases verifyStripeSignature checked mac clock body
          (header.getD "") known with
      | none => simp
      | some verified =>
        cases verified with
        | false => simp
        | true => simp

--------
-- Headers
--------

/- The fields of a header, one of them the timestamp. -/
structure Header where
  fields : List (KeyValues.Field ',' '=')
  timestamp : String
  one : KeyValues.values fields "t" = [timestamp]

namespace Header

variable (header : Header)

def text : String := KeyValues.render header.fields

/- The values of `v1`, in their order. -/
def signatures : List String :=
  KeyValues.values header.fields "v1"

/- The last value of `v1`, empty where there is none. -/
def last : String := (header.signatures.getLast?).getD ""

end Header

variable (mac : Mac) (clock : Clock) (body : Bytes)
variable (secret : String) (header : Header)

/- The code of a timestamp and a body, in hexadecimal. -/
def IsCode (timestamp provided : String) : Prop :=
  hexDecode (bytesOf provided) =
    some (mac.run (bytesOf secret)
      (signedContent timestamp body))

/- The timestamp is a number close to the clock. -/
def Fresh (timestamp : String) : Prop :=
  ∃ ts, parseI64 timestamp = some ts ∧
    ((clock.secs : ℤ) - ts).natAbs ≤ 300

def Valid : Prop :=
  Fresh clock header.timestamp ∧
    ∃ provided ∈ header.signatures,
      IsCode mac body secret header.timestamp provided

/-
  Exactly the valid headers are accepted, and no overflow
  ends the request.
-/
structure Exact (checked : Bool) : Prop where
  accepts :
    verifyStripeSignature checked mac clock body header.text
        secret = some true ↔
      Valid mac clock body secret header
  noOverflow :
    verifyStripeSignature true mac clock body header.text
        secret ≠ none

/-
  The timestamp is less than 2^63 seconds before the clock,
  unless no signature is compared; and the last signature of
  a fresh header is a code if any of them is.
-/
structure Comparable : Prop where
  near : header.last ≠ "" →
    ∀ ts, parseI64 header.timestamp = some ts →
      clock.secs - ts < 2 ^ 63
  last : Fresh clock header.timestamp →
    (∃ provided ∈ header.signatures,
      IsCode mac body secret header.timestamp provided) →
    IsCode mac body secret header.timestamp header.last

--------
-- The Age of a Timestamp
--------

theorem parseI64_bounds
    {text : String}
    {ts : ℤ}
    (hParse : parseI64 text = some ts) :
    -2 ^ 63 ≤ ts ∧ ts < 2 ^ 63 := by
  rw [parseI64] at hParse
  split at hParse
  · split at hParse
    · cases hParse
    · rcases Option.bind_eq_some_iff.mp hParse with
        ⟨n, _, hRange⟩
      split at hRange
      · cases hRange
        omega
      · cases hRange
  · rcases Option.bind_eq_some_iff.mp hParse with
      ⟨n, _, hRange⟩
    split at hRange
    · cases hRange
      omega
    · cases hRange

variable {now ts : ℤ}

/- Without an overflow the age is the distance in time. -/
theorem tooOld_of_near
    (hNow : 0 ≤ now)
    (hTs : ts < 2 ^ 63)
    (hNear : now - ts < 2 ^ 63)
    (checked : Bool) :
    tooOld checked now ts =
      some (decide (300 < (now - ts).natAbs)) := by
  have hAge : wrapI64 (now - ts) = now - ts := by
    rw [wrapI64, Int.bmod_def]
    omega
  have hDistance :
      wrapI64 ((now - ts).natAbs : ℤ) =
        (now - ts).natAbs := by
    rw [wrapI64, Int.bmod_def]
    omega
  have hWide :
      (300 : ℤ) < (now - ts).natAbs ↔
        300 < (now - ts).natAbs := by
    omega
  rw [tooOld]
  simp only [hAge, hDistance, ne_eq, not_true_eq_false,
    and_false, if_false, hWide]

/- The arithmetic overflows exactly for times far back. -/
theorem tooOld_eq_none_iff
    (hNow : 0 ≤ now)
    (hNow' : now < 2 ^ 63)
    (hTs : -2 ^ 63 ≤ ts)
    (hTs' : ts < 2 ^ 63) :
    tooOld true now ts = none ↔ 2 ^ 63 ≤ now - ts := by
  constructor
  · intro hNone
    by_contra hNear
    rw [tooOld_of_near hNow hTs' (by omega)] at hNone
    cases hNone
  · intro hFar
    have hAge : wrapI64 (now - ts) ≠ now - ts := by
      rw [wrapI64, Int.bmod_def]
      omega
    rw [tooOld, if_pos ⟨rfl, hAge⟩]

--------
-- Accepted Headers
--------

variable {mac : Mac} {clock : Clock} {body : Bytes}
variable {secret : String} {header : Header}

theorem Header.fields_ne_nil (header : Header) :
    header.fields ≠ [] := by
  intro hNil
  have hOne := header.one
  rw [hNil] at hOne
  cases hOne

theorem Header.get_timestamp (header : Header) :
    (KeyValues.readTable ',' '=' header.text).get "t" =
      some header.timestamp := by
  rw [Header.text, KeyValues.get_readTable_render (by decide)
    header.fields_ne_nil, header.one]
  rfl

theorem Header.get_signature (header : Header) :
    (KeyValues.readTable ',' '=' header.text).get "v1" =
      header.signatures.getLast? :=
  KeyValues.get_readTable_render (by decide)
    header.fields_ne_nil "v1"

/- The verification of a header, by its fields. -/
theorem verify_header (checked : Bool) :
    verifyStripeSignature checked mac clock body header.text
        secret =
      if header.timestamp = "" ∨ header.last = "" then
        some false
      else
        match parseI64 header.timestamp with
        | none => some false
        | some ts =>
        match tooOld checked clock.secs ts with
        | none => none
        | some true => some false
        | some false =>
        match hexDecode (bytesOf header.last) with
        | none => some false
        | some provided =>
          some (decide (provided = mac.run (bytesOf secret)
              (signedContent header.timestamp body))) := by
  rw [verifyStripeSignature, Header.get_timestamp,
    Header.get_signature]
  rfl

theorem ne_empty_of_parseI64
    {text : String}
    {ts : ℤ}
    (hParse : parseI64 text = some ts) :
    text ≠ "" := by
  rintro rfl
  cases hParse

/- A code is not the empty text. -/
theorem IsCode.ne_empty
    {timestamp provided : String}
    (hCode : IsCode mac body secret timestamp provided) :
    provided ≠ "" := by
  rintro rfl
  have hLength := mac.length_run (bytesOf secret)
    (signedContent timestamp body)
  rw [← Option.some.inj hCode] at hLength
  cases hLength

/- The last signature is a value of `v1`, if not empty. -/
theorem Header.last_mem (hLast : header.last ≠ "") :
    header.last ∈ header.signatures := by
  rw [Header.last] at hLast ⊢
  cases hSome : header.signatures.getLast? with
  | none =>
    rw [hSome] at hLast
    cases hLast rfl
  | some provided =>
    exact List.mem_of_getLast? hSome

/- A number too far back ends a request with an overflow. -/
theorem verify_overflow
    {ts : ℤ}
    (hLast : header.last ≠ "")
    (hParse : parseI64 header.timestamp = some ts)
    (hFar : 2 ^ 63 ≤ clock.secs - ts) :
    verifyStripeSignature true mac clock body header.text
      secret = none := by
  rcases parseI64_bounds hParse with ⟨hLow, hHigh⟩
  have hBound := clock.bound
  have hOld : tooOld true clock.secs ts = none :=
    (tooOld_eq_none_iff (by omega) (by omega) hLow hHigh).mpr
      hFar
  rw [verify_header, if_neg, hParse]
  · simp only [hOld]
  · rw [not_or]
    exact ⟨ne_empty_of_parseI64 hParse, hLast⟩

/-
  Of a header near the clock the timestamp and the last
  signature decide, in either build.
-/
theorem verify_near
    (hNear : header.last ≠ "" →
      ∀ ts, parseI64 header.timestamp = some ts →
        clock.secs - ts < 2 ^ 63)
    (checked : Bool) :
    verifyStripeSignature checked mac clock body header.text
        secret ≠ none ∧
      (verifyStripeSignature checked mac clock body
          header.text secret = some true ↔
        Fresh clock header.timestamp ∧
          IsCode mac body secret header.timestamp
            header.last) := by
  rw [verify_header]
  split
  · rename_i hEmpty
    refine ⟨Option.some_ne_none false, ?_⟩
    constructor
    · rintro ⟨⟩
    · rintro ⟨⟨ts, hParse, _⟩, hCode⟩
      rcases hEmpty with hEmpty | hEmpty
      · exact absurd hEmpty (ne_empty_of_parseI64 hParse)
      · exact absurd hEmpty hCode.ne_empty
  · rename_i hSome
    rcases not_or.mp hSome with ⟨_, hLast⟩
    cases hParse : parseI64 header.timestamp with
    | none =>
      refine ⟨Option.some_ne_none false, ?_⟩
      constructor
      · rintro ⟨⟩
      · rintro ⟨⟨ts, hFresh, _⟩, _⟩
        rw [hParse] at hFresh
        cases hFresh
    | some ts =>
    have hFresh : Fresh clock header.timestamp ↔
        ((clock.secs : ℤ) - ts).natAbs ≤ 300 := by
      rw [Fresh, hParse]
      simp
    rcases parseI64_bounds hParse with ⟨_, hHigh⟩
    have hNow : (0 : ℤ) ≤ clock.secs := by omega
    simp only [tooOld_of_near hNow hHigh
      (hNear hLast ts hParse), hFresh]
    by_cases hOld : 300 < ((clock.secs : ℤ) - ts).natAbs
    · simp only [hOld, decide_true]
      refine ⟨Option.some_ne_none false, ?_⟩
      constructor
      · rintro ⟨⟩
      · rintro ⟨hClose, _⟩
        omega
    · simp only [hOld, decide_false, IsCode]
      have hClose :
          ((clock.secs : ℤ) - ts).natAbs ≤ 300 := by
        omega
      cases hexDecode (bytesOf header.last) with
      | none => simp
      | some provided => simp [hClose]

/-
  Exactly the valid headers are accepted, without overflow,
  in the cases where the header is comparable.
-/
theorem exact_iff
    (mac : Mac)
    (clock : Clock)
    (body : Bytes)
    (secret : String)
    (header : Header)
    (checked : Bool) :
    Exact mac clock body secret header checked ↔
      Comparable mac clock body secret header := by
  constructor
  · intro hExact
    have hNear : header.last ≠ "" →
        ∀ ts, parseI64 header.timestamp = some ts →
          clock.secs - ts < 2 ^ 63 := by
      intro hLast ts hParse
      by_contra hFar
      exact hExact.noOverflow
        (verify_overflow hLast hParse (by omega))
    refine ⟨hNear, ?_⟩
    intro hFresh hSome
    have hAccepted := hExact.accepts.mpr ⟨hFresh, hSome⟩
    exact ((verify_near hNear checked).2.mp hAccepted).2
  · intro hComparable
    refine ⟨?_, (verify_near hComparable.near true).1⟩
    rw [(verify_near hComparable.near checked).2]
    constructor
    · rintro ⟨hFresh, hCode⟩
      exact ⟨hFresh, header.last,
        Header.last_mem hCode.ne_empty, hCode⟩
    · rintro ⟨hFresh, hSome⟩
      exact ⟨hFresh, hComparable.last hFresh hSome⟩

/- The code of "1700000000.\x7b\x7d" under "whsec_new". -/
def rolledCode : Bytes :=
  [0xdf, 0xd0, 0xc4, 0xdd, 0xb1, 0x07, 0xe3, 0xa3,
      0x91, 0xf1, 0xdc, 0x89, 0xc9, 0xba, 0x0b, 0xec,
      0x58, 0x5e, 0x31, 0xe4, 0x2f, 0x82, 0xd6, 0xc6,
      0x67, 0x3f, 0x3d, 0x9b, 0x3a, 0x34, 0x29, 0xa8]

/- What HMAC-SHA256 gives for that text and that secret. -/
def rolledMac : Mac where
  run key message :=
    if key = bytesOf "whsec_new" ∧
        message = signedContent "1700000000"
          (bytesOf "\x7b\x7d") then
      rolledCode
    else List.replicate 32 0
  length_run := by
    intro key message
    split
    · rfl
    · exact List.length_replicate

def newSignature : String :=
  "dfd0c4ddb107e3a391f1dc89c9ba0bec" ++
    "585e31e42f82d6c6673f3d9b3a3429a8"

/- The code of the same text under the secret before. -/
def oldSignature : String :=
  "2a630fb62d83c712b7c3b6fc1dec6df3" ++
    "ef803228a2223a912c109f39e17c6983"

/-
  A header while a secret is being rolled: a signature for the
  new secret, and then one for the old secret.
-/
def rolledHeader : Header where
  fields :=
    [⟨"t", "1700000000", by decide, by decide, by decide⟩,
      ⟨"v1", newSignature,
        by decide, by decide, by decide +kernel⟩,
      ⟨"v1", oldSignature,
        by decide, by decide, by decide +kernel⟩]
  timestamp := "1700000000"
  one := by decide +kernel

theorem rolled_secret_refused :
    let clock : Clock := ⟨1700000010, by decide⟩
    let body := bytesOf "\x7b\x7d"
    Valid rolledMac clock body "whsec_new" rolledHeader ∧
      verifyStripeSignature false rolledMac clock body
          rolledHeader.text "whsec_new" = some false ∧
      ¬ Exact rolledMac clock body "whsec_new" rolledHeader
        false := by
  intro clock body
  have hValid :
      Valid rolledMac clock body "whsec_new" rolledHeader := by
    refine ⟨⟨1700000000, ?_, ?_⟩, ?_⟩
    · decide +kernel
    · decide +kernel
    · refine ⟨newSignature, by decide +kernel, ?_⟩
      unfold IsCode
      decide +kernel
  have hRefused :
      verifyStripeSignature false rolledMac clock body
        rolledHeader.text "whsec_new" = some false := by
    have hOther : ¬ IsCode rolledMac body "whsec_new"
        rolledHeader.timestamp oldSignature := by
      unfold IsCode
      decide +kernel
    have hNear : rolledHeader.last ≠ "" →
        ∀ ts, parseI64 rolledHeader.timestamp = some ts →
          clock.secs - ts < 2 ^ 63 := by
      rintro _ _ ⟨⟩
      decide
    rcases verify_near hNear false with ⟨hSome, hAccepted⟩
    cases hVerdict : verifyStripeSignature false rolledMac
        clock body rolledHeader.text "whsec_new" with
    | none => exact absurd hVerdict hSome
    | some verified =>
      cases verified with
      | false => rfl
      | true => exact absurd (hAccepted.mp hVerdict).2 hOther
  refine ⟨hValid, hRefused, ?_⟩
  intro hExact
  have hAccepted := hExact.accepts.mpr hValid
  rw [hRefused] at hAccepted
  cases hAccepted

end Orignabase.Payments.Signature
