import Orignabase.Lib.Url
import Orignabase.Storage.Paths

/-
  Signed URLs of the storage service
  (`ob-storage/src/signed_url.rs`, `ob-storage/src/routes.rs`).

  The keyed hash and the base64 alphabet are those of the
  crates the service uses, and parameters here.

  Key definitions include:
    * `SignedUrlGenerator.verify`
    * `parseRequest`
    * `SignedUrlWorks`

  Main results:
    * `message_injective`
    * `signed_url_works_iff`
-/

--------
-- Signing
--------

namespace Orignabase.Storage

/- HMAC-SHA256, and base64 for URLs without padding. -/
structure Crypto where
  hmacSha256 : Bytes → Bytes → Bytes
  encode : Bytes → List Char
  decode : List Char → Option Bytes

/- What the service relies on. -/
structure Crypto.Reliable
    (crypto : Crypto)
    (secret : Bytes) : Prop where
  injective :
    ∀ {first second},
      crypto.hmacSha256 secret first =
          crypto.hmacSha256 secret second →
        first = second
  decode_encode :
    ∀ bytes, crypto.decode (crypto.encode bytes) = some bytes
  urlSafe :
    ∀ bytes, ∀ c ∈ crypto.encode bytes,
      Url.isUnreserved c = true

/- A second after the epoch, as a timestamp tells it. -/
structure Instant where
  seconds : Nat
  bounded : seconds < 2 ^ 63

structure SignedUrlGenerator where
  secret : Bytes
  baseUrl : List Char

def SignedUrlGenerator.new (secret baseUrl : List Char) :
    SignedUrlGenerator where
  secret := Url.utf8 secret
  baseUrl :=
    (baseUrl.reverse.dropWhile (fun c => c = '/')).reverse

/- The text that is signed. -/
def message
    (method : List Char)
    (path : Path)
    (expires : Nat) : List Char :=
  method ++ ':' :: (path ++ ':' :: Nat.toDigits 10 expires)

namespace SignedUrlGenerator

variable (crypto : Crypto) (gen : SignedUrlGenerator)

def computeSignature (text : List Char) : List Char :=
  crypto.encode
    (crypto.hmacSha256 gen.secret (Url.utf8 text))

/- A URL below a folder, signed for a method. -/
def signFor
    (method folder : String)
    (now : Instant)
    (path : Path)
    (ttlSecs : Nat) : List Char :=
  let expires := now.seconds + ttlSecs
  let signature := gen.computeSignature crypto
      (message method.toList path expires)
  gen.baseUrl ++ (folder.toList ++
    (path ++ '?' :: ("expires".toList ++
      '=' :: (Nat.toDigits 10 expires ++
        '&' :: ("sig".toList ++ '=' :: signature)))))

def signDownload
    (now : Instant)
    (path : Path)
    (ttlSecs : Nat) : List Char :=
  gen.signFor crypto "GET" "/storage/download/" now path
    ttlSecs

def signUpload
    (now : Instant)
    (path : Path)
    (ttlSecs : Nat) : List Char :=
  gen.signFor crypto "PUT" "/storage/upload/" now path
    ttlSecs

def verify
    (now : Instant)
    (method : List Char)
    (path : Path)
    (expires : Nat)
    (signature : List Char) : Except Error Bool :=
  if now.seconds > expires then
    .error (.auth "Signed URL has expired")
  else
    match crypto.decode signature with
    | none => .error (.auth "Invalid signature encoding")
    | some bytes =>
      .ok (decide (crypto.hmacSha256 gen.secret
          (Url.utf8 (message method path expires)) = bytes))

end SignedUrlGenerator

/- The operations a URL is signed for. -/
inductive Signed
  | download
  | upload
  deriving DecidableEq, Repr

def Signed.method : Signed → String
  | .download => "GET"
  | .upload => "PUT"

def Signed.folder : Signed → String
  | .download => "/storage/download/"
  | .upload => "/storage/upload/"

def Signed.url
    (signed : Signed)
    (crypto : Crypto)
    (gen : SignedUrlGenerator)
    (now : Instant)
    (path : Path)
    (ttlSecs : Nat) : List Char :=
  match signed with
  | .download => gen.signDownload crypto now path ttlSecs
  | .upload => gen.signUpload crypto now path ttlSecs

/- The signature in the URL. -/
def Signed.signature
    (signed : Signed)
    (crypto : Crypto)
    (gen : SignedUrlGenerator)
    (now : Instant)
    (path : Path)
    (ttlSecs : Nat) : List Char :=
  gen.computeSignature crypto
    (message signed.method.toList path
      (now.seconds + ttlSecs))

theorem Signed.url_eq
    (signed : Signed)
    (crypto : Crypto)
    (gen : SignedUrlGenerator)
    (now : Instant)
    (path : Path)
    (ttlSecs : Nat) :
    signed.url crypto gen now path ttlSecs =
      gen.signFor crypto signed.method signed.folder now path
        ttlSecs := by
  cases signed <;> rfl

--------
-- Requests
--------

/- What a handler reads from the URL of a request. -/
structure Request where
  path : Path
  expires : Nat
  sig : List Char
  deriving DecidableEq, Repr

/-
  The path is the decoded text before the first "?", the
  query gives the other two.
-/
def parseTarget (target : List Char) : Option Request :=
  let query := (target.dropWhile (· ≠ '?')).drop 1
  match Url.percentDecode (target.takeWhile (· ≠ '?')),
    Url.param "expires".toList query,
    Url.param "sig".toList query with
  | some path, some expires, some sig =>
    match Url.parseNat expires with
    | some seconds =>
      if seconds < 2 ^ 64 then
        some ⟨path, seconds, sig⟩
      else none
    | none => none
  | _, _, _ => none

/- A URL below the folder of a route. -/
def parseRequest
    (gen : SignedUrlGenerator)
    (folder : String)
    (url : List Char) : Option Request :=
  let start := gen.baseUrl ++ folder.toList
  if start.isPrefixOf url then
    parseTarget (url.drop start.length)
  else none

def MAX_UPLOAD_SIZE : Nat := 500 * 1024 * 1024

section

variable (crypto : Crypto) (gen : SignedUrlGenerator)
variable (now : Instant)

/- The path a verified request is for. -/
def authorizedPath
    (method : String)
    (request : Request) : Except Error Path :=
  match gen.verify crypto now method.toList request.path
      request.expires request.sig with
  | .error e => .error e
  | .ok false => .error (.auth "Invalid signature")
  | .ok true => sanitizeStoragePath request.path

/-
  The path that `upload_file` writes.  `fileSignature` is the
  verdict on the content.
-/
def uploadFile
    (request : Request)
    (bodyLength : Nat)
    (fileSignature : Except Error Unit) : Except Error Path :=
  if bodyLength > MAX_UPLOAD_SIZE then
    .error (.validation ("File too large: " ++
      toString bodyLength ++ " bytes > " ++
      toString MAX_UPLOAD_SIZE ++ " bytes (500MB)"))
  else
    match authorizedPath crypto gen now "PUT" request with
    | .error e => .error e
    | .ok path =>
      match fileSignature with
      | .error e => .error e
      | .ok _ => .ok path

/- The path that `download_file` reads. -/
def downloadFile (request : Request) : Except Error Path :=
  authorizedPath crypto gen now "GET" request

/- The path that `delete_file` deletes. -/
def deleteFile (request : Request) : Except Error Path :=
  authorizedPath crypto gen now "DELETE" request

end

--------
-- Messages
--------

def methods : List String :=
  ["GET", "PUT", "DELETE"]

variable {method : String} {path path' : Path}
variable {now later : Instant} {ttlSecs : Nat}

theorem colon_notMem_method
    (hMethod : method ∈ methods) :
    ':' ∉ method.toList := by
  have hAll :
      ∀ method ∈ methods, ':' ∉ method.toList := by
    decide
  exact hAll method hMethod

theorem colon_notMem_digits (n : Nat) :
    ':' ∉ Nat.toDigits 10 n := by
  intro hMem
  exact absurd (Url.isDigit_toDigits hMem) (by decide)

/- The part before the last separator, and the rest. -/
theorem append_inj_of_notMem
    {sep : Char}
    {first second rest rest' : List Char}
    (hRest : sep ∉ rest)
    (hRest' : sep ∉ rest')
    (hSame : first ++ sep :: rest = second ++ sep :: rest') :
    first = second ∧ rest = rest' := by
  have hReverse := congrArg List.reverse hSame
  simp only [List.reverse_append, List.reverse_cons,
    List.append_assoc, List.singleton_append] at hReverse
  have hParts := Text.cons_inj_of_notMem (by simpa using hRest)
      (by simpa using hRest') hReverse
  exact ⟨List.reverse_injective hParts.2,
    List.reverse_injective hParts.1⟩

/- A message tells what it was made of. -/
theorem message_injective
    {method' : String}
    (hMethod : method ∈ methods)
    (hMethod' : method' ∈ methods)
    {expires expires' : Nat}
    (hSame :
      message method.toList path expires =
        message method'.toList path' expires') :
    method = method' ∧ path = path' ∧ expires = expires' := by
  have hFirst :=
    Text.cons_inj_of_notMem (colon_notMem_method hMethod)
      (colon_notMem_method hMethod') hSame
  have hSecond :=
    append_inj_of_notMem (colon_notMem_digits expires)
      (colon_notMem_digits expires') hFirst.2
  exact ⟨String.toList_injective hFirst.1, hSecond.1,
    Url.toDigits_injective hSecond.2⟩

--------
-- Signatures
--------

variable {crypto : Crypto} {gen : SignedUrlGenerator}
variable {signed : Signed}

theorem Signed.method_mem (signed : Signed) :
    signed.method ∈ methods := by
  cases signed
  · exact List.mem_cons_self
  · exact List.mem_cons_of_mem _ List.mem_cons_self

/- The signature is accepted while it is valid. -/
theorem verify_signature
    (hReliable : crypto.Reliable gen.secret)
    (hTime : later.seconds ≤ now.seconds + ttlSecs) :
    gen.verify crypto later signed.method.toList path
        (now.seconds + ttlSecs)
        (signed.signature crypto gen now path ttlSecs) =
      .ok true := by
  rw [SignedUrlGenerator.verify,
    if_neg (Nat.not_lt.mpr hTime)]
  simp only [Signed.signature,
    SignedUrlGenerator.computeSignature,
    hReliable.decode_encode, decide_true]

/- It is accepted for what was signed only. -/
theorem signed_of_verify
    (hReliable : crypto.Reliable gen.secret)
    {expires : Nat}
    (hMethod : method ∈ methods)
    (hVerify :
      gen.verify crypto later method.toList path' expires
          (signed.signature crypto gen now path ttlSecs) =
        .ok true) :
    method = signed.method ∧ path' = path ∧
      expires = now.seconds + ttlSecs := by
  unfold SignedUrlGenerator.verify at hVerify
  split at hVerify
  · cases hVerify
  simp only [Signed.signature,
    SignedUrlGenerator.computeSignature,
    hReliable.decode_encode, Except.ok.injEq,
    decide_eq_true_iff] at hVerify
  exact message_injective hMethod signed.method_mem
    (Url.utf8_injective (hReliable.injective hVerify))

/- It is refused for any other path. -/
theorem verify_other_path
    (hReliable : crypto.Reliable gen.secret)
    (hTime : later.seconds ≤ now.seconds + ttlSecs)
    (hOther : path' ≠ path) :
    gen.verify crypto later signed.method.toList path'
        (now.seconds + ttlSecs)
        (signed.signature crypto gen now path ttlSecs) =
      .ok false := by
  cases hVerify :
      gen.verify crypto later signed.method.toList path'
        (now.seconds + ttlSecs)
        (signed.signature crypto gen now path ttlSecs) with
  | error e =>
    rw [SignedUrlGenerator.verify,
      if_neg (Nat.not_lt.mpr hTime)] at hVerify
    simp [Signed.signature,
      SignedUrlGenerator.computeSignature,
      hReliable.decode_encode] at hVerify
  | ok accepted =>
    cases accepted with
    | false => rfl
    | true =>
      exact absurd
        (signed_of_verify hReliable signed.method_mem
          hVerify).2.1 hOther

/- The only path that the signature opens. -/
theorem authorizedPath_signed
    (hReliable : crypto.Reliable gen.secret)
    {safe file : Path}
    (hMethod : method ∈ methods)
    (hAccepted : sanitizeStoragePath path = .ok safe)
    {request : Request}
    (hSig :
      request.sig =
        signed.signature crypto gen now path ttlSecs)
    (hFile :
      authorizedPath crypto gen later method request =
        .ok file) :
    file = safe := by
  unfold authorizedPath at hFile
  split at hFile
  · cases hFile
  · cases hFile
  · rename_i hVerify
    rw [hSig] at hVerify
    have hSame := signed_of_verify hReliable hMethod hVerify
    rw [hSame.2.1, hAccepted] at hFile
    exact (Except.ok.inj hFile).symm

end Orignabase.Storage

--------
-- URLs
--------

namespace Orignabase.Storage

variable {crypto : Crypto} {gen : SignedUrlGenerator}
variable {signed : Signed}

/- The path, as it stands in the URL, is read back. -/
def survivesUrl (path : Path) : Bool :=
  !path.contains '?' && !Url.hasEscape (Url.utf8 path)

theorem takeWhile_question
    {path : Path}
    (hNone : '?' ∉ path)
    (rest : List Char) :
    (path ++ '?' :: rest).takeWhile (· ≠ '?') = path ∧
      (path ++ '?' :: rest).dropWhile (· ≠ '?') =
        '?' :: rest := by
  have hAll : ∀ c ∈ path, decide (c ≠ '?') = true := by
    intro c hMem
    rw [decide_eq_true_iff]
    rintro rfl
    exact hNone hMem
  rw [List.takeWhile_append_of_pos hAll,
    List.dropWhile_append_of_pos hAll]
  simp

/- The decoded text before the first "?" is the path. -/
theorem decode_before_question_iff
    (path : Path)
    (rest : List Char) :
    Url.percentDecode
          ((path ++ '?' :: rest).takeWhile (· ≠ '?')) =
        some path ↔
      survivesUrl path = true := by
  by_cases hQuestion : '?' ∈ path
  · constructor
    · intro hDecode
      rcases List.append_of_mem hQuestion with
        ⟨front, back, rfl⟩
      have hBefore :
          ∃ tail, front = ((front ++ '?' :: back) ++
                '?' :: rest).takeWhile (· ≠ '?') ++ tail := by
        rw [List.append_assoc, List.takeWhile_append]
        split
        · refine ⟨[], ?_⟩
          simp
        · exact ⟨front.dropWhile (· ≠ '?'),
            List.takeWhile_append_dropWhile.symm⟩
      rcases hBefore with ⟨tail, hFront⟩
      have hLength := Url.length_of_percentDecode hDecode
      have hLonger := Url.length_utf8_lt front '?' back
      have hShorter :
          (Url.utf8 (((front ++ '?' :: back) ++
                '?' :: rest).takeWhile (· ≠ '?'))).length ≤
            (Url.utf8 front).length := by
        conv_rhs => rw [hFront]
        simp only [Url.utf8, List.flatMap_append,
          List.length_append]
        exact Nat.le_add_right _ _
      omega
    · intro hSurvives
      simp [survivesUrl, hQuestion] at hSurvives
  · rw [(takeWhile_question hQuestion rest).1,
      Url.percentDecode_eq_self_iff]
    simp [survivesUrl, hQuestion]

/- The query of a signed URL. -/
def signedQuery
    (expires : Nat)
    (signature : List Char) : List Char :=
  "expires".toList ++ '=' :: (Nat.toDigits 10 expires ++
    '&' :: ("sig".toList ++ '=' :: signature))

theorem parseRequest_url
    (signed : Signed)
    (crypto : Crypto)
    (gen : SignedUrlGenerator)
    (now : Instant)
    (path : Path)
    (ttlSecs : Nat) :
    parseRequest gen signed.folder
        (signed.url crypto gen now path ttlSecs) =
      parseTarget (path ++ '?' ::
        signedQuery (now.seconds + ttlSecs)
          (signed.signature crypto gen now path
            ttlSecs)) := by
  rw [Signed.url_eq, SignedUrlGenerator.signFor,
    ← List.append_assoc, parseRequest, if_pos (by simp),
    List.drop_left]
  rfl

/- Both parameters of a signed URL are read back. -/
theorem param_signedQuery
    {signature : List Char}
    (hSignature :
      ∀ c ∈ signature, Url.isUnreserved c = true)
    (expires : Nat) :
    Url.param "expires".toList
          (signedQuery expires signature) =
        some (Nat.toDigits 10 expires) ∧
      Url.param "sig".toList
          (signedQuery expires signature) =
        some signature := by
  have hDigits :
      ∀ c ∈ Nat.toDigits 10 expires,
        Url.isUnreserved c = true := by
    intro c hMem
    simp [Url.isUnreserved, Char.isAlphanum,
      Url.isDigit_toDigits hMem]
  have hNames :
      (∀ c ∈ "expires".toList, Url.isUnreserved c = true) ∧
        (∀ c ∈ "sig".toList, Url.isUnreserved c = true) ∧
        "expires".toList ≠ "sig".toList := by
    refine ⟨?_, ?_, by decide⟩ <;> simp [Url.isUnreserved]
  exact Url.param_two hNames.1 hDigits hNames.2.1
    hSignature hNames.2.2

theorem path_of_parseTarget
    {target : List Char}
    {request : Request}
    (hParse : parseTarget target = some request) :
    Url.percentDecode (target.takeWhile (· ≠ '?')) =
      some request.path := by
  simp only [parseTarget] at hParse
  split at hParse
  · rename_i hPath _ _
    split at hParse
    · split at hParse
      · cases hParse
        exact hPath
      · cases hParse
    · cases hParse
  · cases hParse

theorem parseTarget_signed
    {path decoded : Path}
    (hNone : '?' ∉ path)
    (hDecode : Url.percentDecode path = some decoded)
    {expires : Nat}
    (hExpires : expires < 2 ^ 64)
    {signature : List Char}
    (hSignature :
      ∀ c ∈ signature, Url.isUnreserved c = true) :
    parseTarget (path ++ '?' :: signedQuery expires signature) =
      some ⟨decoded, expires, signature⟩ := by
  have hSpan :=
    takeWhile_question hNone (signedQuery expires signature)
  have hParams := param_signedQuery hSignature expires
  simp only [parseTarget]
  rw [hSpan.1, hSpan.2, hDecode, List.drop_one,
    List.tail_cons, hParams.1, hParams.2]
  simp only [Url.parseNat_toDigits]
  exact if_pos hExpires

end Orignabase.Storage

--------
-- Signed URLs End To End
--------

namespace Orignabase.Storage

/-
  What is promised of a URL that was signed at `now` for a
  path that is stored as `safe`: until it expires the server
  accepts it for this method and path, and its signature
  opens no other path and no other method.
-/
structure SignedUrlWorks
    (crypto : Crypto)
    (gen : SignedUrlGenerator)
    (signed : Signed)
    (now : Instant)
    (path safe : Path)
    (ttlSecs : Nat) : Prop where
  accepted :
    ∀ later : Instant,
      later.seconds ≤ now.seconds + ttlSecs →
        ∃ request,
          parseRequest gen signed.folder
              (signed.url crypto gen now path ttlSecs) =
            some request ∧
          request.path = path ∧
          gen.verify crypto later signed.method.toList
              request.path request.expires request.sig =
            .ok true
  exclusive :
    ∀ (later : Instant) (method : String) (path' : Path)
      (expires : Nat),
      method ∈ methods →
        gen.verify crypto later method.toList path' expires
            (signed.signature crypto gen now path ttlSecs) =
          .ok true →
        method = signed.method ∧ path' = path ∧
          expires = now.seconds + ttlSecs
  opens :
    ∀ (later : Instant) (request : Request)
      (bodyLength : Nat) (fileSignature : Except Error Unit)
      (file : Path),
      request.sig =
          signed.signature crypto gen now path ttlSecs →
        (uploadFile crypto gen later request bodyLength
              fileSignature = .ok file ∨
            downloadFile crypto gen later request = .ok file ∨
            deleteFile crypto gen later request = .ok file) →
          file = safe

/-
  A signed URL works for the paths that survive unescaped in
  a URL, and for no other path.
-/
theorem signed_url_works_iff
    {crypto : Crypto}
    {gen : SignedUrlGenerator}
    (hReliable : crypto.Reliable gen.secret)
    (signed : Signed)
    (now : Instant)
    {path safe : Path}
    (hAccepted : sanitizeStoragePath path = .ok safe)
    {ttlSecs : Nat}
    (hTtl : 60 ≤ ttlSecs ∧ ttlSecs ≤ 86400) :
    SignedUrlWorks crypto gen signed now path safe ttlSecs ↔
      '?' ∉ path ∧ Url.hasEscape (Url.utf8 path) = false := by
  have hSurvives :
      ('?' ∉ path ∧ Url.hasEscape (Url.utf8 path) = false) ↔
        survivesUrl path = true := by
    simp [survivesUrl]
  have hExpires : now.seconds + ttlSecs < 2 ^ 64 := by
    have hBounded := now.bounded
    omega
  rw [hSurvives]
  constructor
  · intro hWorks
    rcases hWorks.accepted now (Nat.le_add_right _ _) with
      ⟨request, hParse, hPath, _⟩
    rw [parseRequest_url] at hParse
    have hDecode := path_of_parseTarget hParse
    rw [hPath] at hDecode
    exact (decode_before_question_iff path _).mp hDecode
  · intro hPath
    refine
      { accepted := ?_
        exclusive := ?_
        opens := ?_ }
    · intro later hTime
      refine ⟨⟨path, now.seconds + ttlSecs,
          signed.signature crypto gen now path ttlSecs⟩,
          ?_, rfl, verify_signature hReliable hTime⟩
      have hPlain := hSurvives.mpr hPath
      rw [parseRequest_url]
      exact parseTarget_signed hPlain.1
        (Url.percentDecode_eq_self_iff.mpr hPlain.2)
        hExpires (hReliable.urlSafe _)
    · intro later method path' expires hMethod hVerify
      exact signed_of_verify hReliable hMethod hVerify
    · intro later request bodyLength fileSignature file hSig
        hFile
      rcases hFile with hUpload | hDownload | hDelete
      · unfold uploadFile at hUpload
        split at hUpload
        · cases hUpload
        · split at hUpload
          · cases hUpload
          · rename_i hAuthorized
            split at hUpload
            · cases hUpload
            · cases hUpload
              exact authorizedPath_signed hReliable
                (by decide) hAccepted hSig hAuthorized
      · exact authorizedPath_signed hReliable
          (by decide) hAccepted hSig hDownload
      · exact authorizedPath_signed hReliable
          (by decide) hAccepted hSig hDelete

/-
  A keyed hash that is known on one message, with the base64
  text of its value.
-/
structure KnownSignature where
  message : List Char
  tag : Bytes
  text : List Char
  tagLength : tag.length = 32
  urlSafe : ∀ c ∈ text, Url.isUnreserved c = true
  other : ∃ c ∈ text, c ≠ 'A' ∧ c ≠ '-'

/- Bytes in unary, each followed by a dash. -/
def unary (bytes : Bytes) : List Char :=
  bytes.flatMap (fun byte =>
    List.replicate byte.toNat 'A' ++ ['-'])

def readUnary (text : List Char) : Bytes :=
  (text.splitOn '-').dropLast.map (fun part =>
    UInt8.ofNat part.length)

theorem mem_unary
    {bytes : Bytes}
    {c : Char}
    (hMem : c ∈ unary bytes) :
    c = 'A' ∨ c = '-' := by
  rcases List.mem_flatMap.mp hMem with ⟨byte, _, hHere⟩
  rcases List.mem_append.mp hHere with hUnit | hDash
  · exact Or.inl (List.eq_of_mem_replicate hUnit)
  · exact Or.inr (List.mem_singleton.mp hDash)

theorem readUnary_unary (bytes : Bytes) :
    readUnary (unary bytes) = bytes := by
  induction bytes with
  | nil => rfl
  | cons byte bytes ih =>
    have hDash :
        '-' ∉ List.replicate byte.toNat 'A' := by
      intro hMem
      exact absurd (List.eq_of_mem_replicate hMem)
        (by decide)
    have hCons :
        unary (byte :: bytes) =
          List.replicate byte.toNat 'A' ++
            '-' :: unary bytes := by
      simp [unary]
    rw [readUnary] at ih
    rw [hCons, readUnary,
      List.splitOn_append_cons_self_of_not_mem hDash,
      List.dropLast_cons_of_ne_nil
        (List.splitOn_ne_nil _ _),
      List.map_cons, ih, List.length_replicate,
      UInt8.ofNat_toNat]

def KnownSignature.crypto (known : KnownSignature) :
    Crypto where
  hmacSha256 := fun _ text =>
    if text = Url.utf8 known.message then known.tag
    else text ++ List.replicate 33 0
  encode := fun bytes =>
    if bytes = known.tag then known.text else unary bytes
  decode := fun text =>
    if text = known.text then some known.tag
    else some (readUnary text)

theorem KnownSignature.reliable
    (known : KnownSignature)
    (secret : Bytes) :
    known.crypto.Reliable secret where
  injective := by
    intro first second hSame
    have hLength := known.tagLength
    simp only [KnownSignature.crypto] at hSame
    split at hSame <;> split at hSame
    · rename_i hFirst hSecond
      exact hFirst.trans hSecond.symm
    · have hLong := congrArg List.length hSame
      rw [List.length_append, List.length_replicate]
        at hLong
      omega
    · have hLong := congrArg List.length hSame
      rw [List.length_append, List.length_replicate]
        at hLong
      omega
    · exact List.append_cancel_right hSame
  decode_encode := by
    intro bytes
    simp only [KnownSignature.crypto]
    by_cases hTag : bytes = known.tag
    · rw [if_pos hTag, if_pos rfl, hTag]
    · rw [if_neg hTag, if_neg, readUnary_unary]
      intro hText
      rcases known.other with ⟨c, hMem, hOther⟩
      rw [← hText] at hMem
      rcases mem_unary hMem with hUnit | hDash
      · exact hOther.1 hUnit
      · exact hOther.2 hDash
  urlSafe := by
    intro bytes c hMem
    simp only [KnownSignature.crypto] at hMem
    split at hMem
    · exact known.urlSafe c hMem
    · rcases mem_unary hMem with rfl | rfl <;> decide

def testGenerator : SignedUrlGenerator :=
  .new "k".toList "https://cdn.example".toList

def testInstant : Instant :=
  ⟨1700000000, by decide⟩

/- The download of a picture, signed with the key "k". -/
def pictureSignature : KnownSignature where
  message := "GET:users/u1/a.png:1700003600".toList
  tag :=
    [158, 174, 233, 194, 93, 15, 132, 159, 217, 242, 76, 96,
      153, 62, 127, 211, 185, 66, 102, 203, 122, 94, 222, 16,
      6, 200, 117, 109, 78, 101, 30, 210]
  text :=
    "nq7pwl0PhJ_Z8kxgmT5_07lCZst6Xt4QBsh1bU5lHtI".toList
  tagLength := rfl
  urlSafe := by simp [Url.isUnreserved]
  other := ⟨'n', by simp, by decide, by decide⟩

theorem signed_url_works_picture :
    SignedUrlWorks pictureSignature.crypto testGenerator
      .download testInstant "users/u1/a.png".toList
      "users/u1/a.png".toList 3600 := by
  have hPlain :
      sanitizeStoragePath "users/u1/a.png".toList =
        .ok "users/u1/a.png".toList :=
    sanitize_plain (by decide)
  exact (signed_url_works_iff
    (pictureSignature.reliable _) .download testInstant
    hPlain (by decide)).mpr (by decide)

/- A file whose name has an escape in it. -/
def percentSignature : KnownSignature where
  message := "GET:users/u1/50%25.png:1700003600".toList
  tag :=
    [197, 177, 147, 67, 90, 28, 103, 165, 245, 68, 209, 97,
      14, 85, 77, 239, 64, 75, 75, 114, 60, 43, 118, 197,
      114, 113, 31, 206, 164, 62, 120, 36]
  text :=
    "xbGTQ1ocZ6X1RNFhDlVN70BLS3I8K3bFcnEfzqQ-eCQ".toList
  tagLength := rfl
  urlSafe := by simp [Url.isUnreserved]
  other := ⟨'x', by simp, by decide, by decide⟩

/- Its path is decoded, and the signature refused. -/
theorem escaped_path_refused :
    sanitizeStoragePath "users/u1/50%25.png".toList =
        .ok "users/u1/50%25.png".toList ∧
      ∃ request,
        parseRequest testGenerator Signed.download.folder
            (Signed.download.url percentSignature.crypto
              testGenerator testInstant
              "users/u1/50%25.png".toList 3600) =
          some request ∧
        request.path = "users/u1/50%.png".toList ∧
        testGenerator.verify percentSignature.crypto
            testInstant Signed.download.method.toList
            request.path request.expires request.sig =
          .ok false := by
  have hReliable :=
    percentSignature.reliable testGenerator.secret
  have hDecode :
      Url.percentDecode "users/u1/50%25.png".toList =
        some "users/u1/50%.png".toList :=
    Url.percentDecode_eq_some_iff.mpr (by decide +kernel)
  have hOther :
      "users/u1/50%.png".toList ≠
        "users/u1/50%25.png".toList := by
    decide +kernel
  refine ⟨sanitize_plain (by decide +kernel),
      ⟨"users/u1/50%.png".toList,
        testInstant.seconds + 3600, _⟩, ?_, rfl,
      verify_other_path hReliable (Nat.le_add_right _ _)
        hOther⟩
  rw [parseRequest_url]
  exact parseTarget_signed (by decide +kernel) hDecode
    (by decide) (hReliable.urlSafe _)

end Orignabase.Storage
