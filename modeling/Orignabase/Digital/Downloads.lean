import Orignabase.Digital.Activations

/-
  Download tokens (`ob-handlers/src/digital/mod.rs`).

  A redirect reads its token, checks it and marks it in
  separate steps, and nobody looks at the licence again once
  the token is issued.

  Key definitions include:
    * `SingleUse`
    * `Watchful`
    * `Holds`

  Main results:
    * `body_allowed`
    * `downloads_single_use`
-/

--------
-- Redirects
--------

namespace Orignabase.Digital

open Conc Products

/- The token that an event found. -/
def readToken :
    Event Res Answer → Option (Kind × String × Token)
  | ⟨.findToken kind _, _, .ok (some (id, token))⟩ =>
    some (kind, id, token)
  | _ => none

def foundToken (tr : Trace) : Option (Kind × String × Token) :=
  tr.findSome? readToken

/- The token of a request that was redirected. -/
def redirected (r : Served) : Option (Kind × String × Token) :=
  match r.result with
  | .ok (.redirect _) => foundToken r.trace
  | _ => none

/- The token was requested by the call. -/
def Requested
    (call : Call)
    (kind : Kind)
    (token : Token) : Prop :=
  match kind, call.request with
  | .book, .downloadBook req =>
    call.auth.userId = token.userId ∧
      req.productId = token.productId
  | .software, .downloadSoftware req =>
    call.auth.userId = token.userId ∧
      req.productId = token.productId
  | _, _ => False

/- The token stands for a licence of the user that requested
   it, and for the product of the request. -/
structure Issued
    (calls : List Call)
    (w : World)
    (kind : Kind)
    (token : Token)
    (license : Fields) : Prop where
  stored :
    w.licenses.get (docId "licenses" token.licenseKey) =
      some license
  requested : ∃ call ∈ calls, Requested call kind token
  owner : License.userId license = token.userId
  product :
    text? license "productId" = some token.productId
  source : License.source license kind = token.source

/- The redirect is in time, and to the source of a licence
   that is not revoked. -/
structure Rightful
    (calls : List Call)
    (w : World)
    (kind : Kind)
    (token : Token)
    (sourceUrl : String) : Prop where
  inTime : w.now ≤ token.expiresAt
  issued :
    ∃ license, Issued calls w kind token license ∧
      License.status license ≠ "revoked" ∧
      License.source license kind = .string sourceUrl

/- Each token redirects once, and rightfully. -/
structure SingleUse
    (calls : List Call)
    (rs : List Served) : Prop where
  once :
    ((rs.filterMap redirected).map
      (fun t => (t.1, t.2.1))).Nodup
  rightful :
    ∀ r ∈ rs, ∀ sourceUrl,
      r.result = .ok (.redirect sourceUrl) →
        ∃ kind id token,
          redirected r = some (kind, id, token) ∧
            Rightful calls r.world kind token sourceUrl

/- No token was issued yet. -/
def NoTokens (w : World) : Prop :=
  ∀ kind, (w.tokens kind).rows = []

/-
  A download names the product of its licence; and when a
  redirect marks its token, the marking succeeds, the token
  is still unused and not expired, and its licence is not
  revoked.
-/
def Watchful (_ : Call) : StepCond Res Answer World :=
  fun _ o a w =>
    match o with
    | .createToken _ doc =>
      ∀ license,
        w.licenses.get (docId "licenses" doc.licenseKey) =
            some license →
          text? license "productId" = some doc.productId
    | .markUsed kind id =>
      a.fault.isNone = true ∧
        ∀ token, (w.tokens kind).get id = some token →
          token.used = false ∧
            w.now + a.elapsed ≤ token.expiresAt ∧
            ∀ license, w.licenses.get
                  (docId "licenses" token.licenseKey) =
                  some license →
                License.status license ≠ "revoked"
    | _ => True

instance
    (call : Call)
    (tr : Trace)
    (o : Op)
    (a : Answer)
    (w : World) :
    Decidable (Watchful call tr o a w) := by
  apply Op.casesOn
    (motive := fun o => Decidable (Watchful call tr o a w)) o <;>
  intros <;> dsimp only [Watchful] <;> infer_instance

--------
-- What A Request May Call
--------

open Handler

/- Tokens are issued for the licence that was read, and
   marked once they were found. -/
def Allows (call : Call) (tr : Trace) : Op → Prop
  | .updateLicense _ patch =>
    ∃ activations now,
      patch = activationsPatch activations now
  | .createToken kind doc =>
    Requested call kind doc ∧ doc.used = false ∧ ∃ license,
        lastRead tr = some (doc.licenseKey, license) ∧
          License.userId license = doc.userId ∧
          License.source license kind = doc.source
  | .markUsed kind id =>
    ∃ token, foundToken tr = some (kind, id, token)
  | _ => True

/- A redirect ends with the marking of the token found. -/
def Answers (tr : Trace) (r : Except Error Reply) : Prop :=
  ∀ sourceUrl, r = .ok (.redirect sourceUrl) →
    ∃ kind id token a res tr',
      tr = ⟨.markUsed kind id, a, res⟩ :: tr' ∧
        foundToken tr' = some (kind, id, token) ∧
        token.source = .string sourceUrl

variable (upper : String → String)

abbrev Conforms
    (call : Call)
    (tr : Trace)
    (p : Handler Reply) : Prop :=
  p.Along (fun _ => True) (Allows call)
    (fun tr r => Answers tr r) tr

section

-- A check of a text is not evaluated, only passed.
attribute [local irreducible] Text.trim

variable {call : Call} {tr : Trace}

theorem answers_error {e : Error} :
    Answers tr (.error e) := by
  rintro sourceUrl ⟨⟩

theorem conforms_checkUserRateLimit
    {userId action : String}
    {limit minutes : Nat}
    {f : Unit → Handler Reply}
    (hNext : ∀ tr', Conforms call tr' (f ())) :
    Conforms call tr
      (andThen (Prog.perform
          (Op.checkUserRateLimit userId action limit minutes))
        f) := by
  refine ⟨trivial, ?_⟩
  intro a r _
  cases r with
  | error e => exact answers_error
  | ok u => exact hNext _

theorem conforms_loadLicense
    {licenseKey : String}
    {f : Fields → Handler Reply}
    (hNext :
      ∀ a license, Conforms call
          (⟨.getLicense licenseKey, a, .ok license⟩ :: tr)
          (f license)) :
    Conforms call tr
      (andThen (loadLicense licenseKey) f) := by
  refine ⟨trivial, ?_⟩
  intro a r _
  cases r with
  | error e => exact answers_error
  | ok license => exact hNext a license

theorem saveActivation_conforms
    {licenseKey deviceId platform now : String}
    {license : Fields} :
    Conforms call tr
      (saveActivation licenseKey deviceId platform now
        license) := by
  unfold saveActivation
  split
  · refine ⟨⟨_, _, rfl⟩, fun _ _ _ => ?_⟩
    rintro sourceUrl ⟨⟩
  · refine along_require answers_error fun _ => ?_
    refine ⟨⟨_, _, rfl⟩, fun _ r _ => ?_⟩
    cases r <;> rintro sourceUrl ⟨⟩

theorem activateLicense_conforms
    (auth : AuthContext)
    (req : ActivateLicenseRequest) :
    Conforms call tr (activateLicense upper auth req) := by
  refine along_lift (fun _ _ => answers_error) fun _ _ => ?_
  refine along_lift (fun _ _ => answers_error) fun _ _ => ?_
  refine conforms_checkUserRateLimit fun _ => ?_
  refine along_require answers_error fun _ => ?_
  refine along_require answers_error fun _ => ?_
  refine conforms_loadLicense fun _ license => ?_
  refine along_require answers_error fun _ => ?_
  refine along_require answers_error fun _ => ?_
  exact ⟨trivial, fun _ _ _ => saveActivation_conforms⟩

theorem deactivateLicense_conforms
    (auth : AuthContext)
    (req : DeactivateLicenseRequest) :
    Conforms call tr (deactivateLicense upper auth req) := by
  refine along_lift (fun _ _ => answers_error) fun _ _ => ?_
  refine along_lift (fun _ _ => answers_error) fun _ _ => ?_
  refine conforms_checkUserRateLimit fun _ => ?_
  refine along_require answers_error fun _ => ?_
  refine along_require answers_error fun _ => ?_
  refine conforms_loadLicense fun _ license => ?_
  refine along_require answers_error fun _ => ?_
  refine ⟨trivial, fun _ now _ => ?_⟩
  refine ⟨⟨_, _, rfl⟩, fun _ r _ => ?_⟩
  cases r <;> rintro sourceUrl ⟨⟩

theorem verifyLicense_conforms (req : VerifyLicenseRequest) :
    Conforms call tr (verifyLicense upper req) := by
  refine along_require answers_error fun _ => ?_
  refine conforms_loadLicense fun _ license => ?_
  split
  · rintro sourceUrl ⟨⟩
  · split
    · refine ⟨trivial, fun _ now _ => ?_⟩
      refine ⟨⟨_, _, rfl⟩, fun _ _ _ => ?_⟩
      rintro sourceUrl ⟨⟩
    · rintro sourceUrl ⟨⟩

/- Both kinds of downloads. -/
theorem download_conforms
    {k : DownloadKind}
    {req : DownloadRequest}
    (hRequested :
      ∀ token : Token, token.userId = call.auth.userId →
        token.productId = req.productId →
          Requested call k.kind token) :
    Conforms call tr (download upper call.auth k req) := by
  refine along_lift (fun _ _ => answers_error) fun _ _ => ?_
  refine along_lift (fun _ _ => answers_error) fun _ _ => ?_
  refine along_lift (fun _ _ => answers_error)
    fun userId hUser => ?_
  have hCaller := eq_of_resolveSelfUserId hUser
  refine conforms_checkUserRateLimit fun _ => ?_
  refine along_require answers_error fun _ => ?_
  refine along_require answers_error fun _ => ?_
  refine conforms_loadLicense fun _ license => ?_
  refine along_require answers_error fun hOwner => ?_
  refine along_require answers_error fun _ => ?_
  refine along_require answers_error fun _ => ?_
  refine ⟨trivial, fun _ uuid _ => ?_⟩
  refine ⟨trivial, fun _ now _ => ?_⟩
  refine ⟨⟨hRequested _ hCaller rfl, rfl, license, rfl,
    of_decide_eq_true hOwner, rfl⟩, fun _ r _ => ?_⟩
  cases r <;> rintro sourceUrl ⟨⟩

theorem redirect_conforms (kind : Kind) (t : String) :
    Conforms call tr (redirect kind t) := by
  refine along_lift (fun _ _ => answers_error) fun _ _ => ?_
  refine ⟨trivial, fun a r _ => ?_⟩
  cases r with
  | error e => exact answers_error
  | ok found =>
    cases found with
    | none => exact answers_error
    | some row =>
      refine along_require answers_error fun _ => ?_
      refine ⟨trivial, fun b now _ => ?_⟩
      refine along_require answers_error fun _ => ?_
      split
      · exact answers_error
      · rename_i sourceUrl hSource
        refine ⟨⟨row.2, rfl⟩, fun d res _ => ?_⟩
        intro url hUrl
        refine ⟨kind, row.1, row.2, d, res, _, rfl, rfl, ?_⟩
        cases hUrl
        cases hValue : row.2.source with
        | string s =>
          rw [hValue] at hSource
          cases hSource
          rfl
        | _ =>
          rw [hValue] at hSource
          cases hSource

/- Every request follows its rules. -/
theorem body_allowed (call : Call) :
    Conforms call tr (call.body upper) := by
  unfold Call.body
  cases hRequest : call.request with
  | activateLicense req =>
    exact activateLicense_conforms upper _ _
  | deactivateLicense req =>
    exact deactivateLicense_conforms upper _ _
  | verifyLicense req => exact verifyLicense_conforms upper _
  | downloadBook req =>
    refine download_conforms upper fun token hUser hId => ?_
    simp [Requested, hRequest, hUser, hId]
  | downloadSoftware req =>
    refine download_conforms upper fun token hUser hId => ?_
    simp [Requested, hRequest, hUser, hId]
  | getBookRedirect t => exact redirect_conforms _ _
  | getSoftwareRedirect t => exact redirect_conforms _ _
  | refundItem orderId productId =>
    refine ⟨trivial, fun _ now _ => ?_⟩
    refine ⟨trivial, fun _ r _ => ?_⟩
    cases r <;> rintro sourceUrl ⟨⟩

end

--------
-- What A Statement Does To Tokens
--------

/- The fields of a licence that no request changes. -/
def SameSource (license license' : Fields) : Prop :=
  ∀ field ∈ ["userId", "productId", "bookSourceUrl",
      "softwareSourceUrl", "downloadUrl"],
    license'.lookup field = license.lookup field

namespace SameSource

variable {license license' : Fields}

theorem text?_eq
    (hSame : SameSource license license')
    {field : String}
    (hField :
      field ∈ ["userId", "productId", "bookSourceUrl",
        "softwareSourceUrl", "downloadUrl"]) :
    text? license' field = text? license field := by
  rw [text?, text?, hSame field hField]

theorem userId_eq (hSame : SameSource license license') :
    License.userId license' = License.userId license := by
  rw [License.userId, License.userId,
    hSame.text?_eq (by decide)]

theorem source_eq
    (hSame : SameSource license license')
    (kind : Kind) :
    License.source license' kind =
      License.source license kind := by
  cases kind with
  | book =>
    rw [License.source, License.source,
      hSame.text?_eq (by decide)]
  | software =>
    rw [License.source, License.source,
      hSame "softwareSourceUrl" (by decide),
      hSame "downloadUrl" (by decide)]

theorem trans
    {license'' : Fields}
    (hFirst : SameSource license license')
    (hSecond : SameSource license' license'') :
    SameSource license license'' := by
  intro field hField
  rw [hSecond field hField, hFirst field hField]

end SameSource

theorem sameSource_merge
    {license patch : Fields}
    (hPatch :
      ∀ field ∈ ["userId", "productId", "bookSourceUrl",
          "softwareSourceUrl", "downloadUrl"],
        patch.lookup field = none) :
    SameSource license (Value.merge license patch) := by
  intro field hField
  rw [Value.lookup_merge, hPatch field hField,
    Option.none_or]

theorem sameSource_revoke
    (orderId productId revokedAt : String)
    (license : Fields) :
    SameSource license
      (revoke orderId productId revokedAt license) := by
  unfold revoke
  split
  · apply sameSource_merge
    simp [List.lookup_cons]
  · intro field _
    rfl

variable {call : Call} {tr : Trace} {o : Op} {w : World}

/- Licences stay, with their owners and sources. -/
theorem licenses_exec
    (hAllows : Allows call tr o)
    (a : Answer)
    {key : String}
    {license : Fields}
    (hGet : w.licenses.get key = some license) :
    ∃ license',
      (exec o a w).2.licenses.get key = some license' ∧
        SameSource license license' := by
  cases hOp : o.isUpdate with
  | true =>
    cases o with
    | updateLicense licenseKey patch =>
      rcases hAllows with ⟨acts, now, rfl⟩
      rcases exec_updateLicense licenseKey
          (activationsPatch acts now) a w with
        ⟨_, hSame⟩ | ⟨_, _, hLicenses⟩
      · rw [hSame]
        exact ⟨license, hGet, fun _ _ => rfl⟩
      · rw [hLicenses, hGet]
        split
        · refine ⟨_, rfl, sameSource_merge ?_⟩
          simp [activationsPatch, List.lookup_cons]
        · exact ⟨license, rfl, fun _ _ => rfl⟩
    | _ => cases hOp
  | false =>
    cases o with
    | updateLicense licenseKey patch => cases hOp
    | revokeLicenses orderId productId revokedAt =>
      cases hFault : a.fault with
      | some e =>
        refine ⟨license, ?_, fun _ _ => rfl⟩
        simpa [exec, act, statement, hFault] using hGet
      | none =>
        simp only [exec, act, statement, hFault,
          Table.get_map, hGet]
        exact ⟨_, rfl, sameSource_revoke _ _ _ _⟩
    | createToken kind doc =>
      refine ⟨license, ?_, fun _ _ => rfl⟩
      rw [← hGet]
      congr 1
      cases hFault : a.fault with
      | some e => simp [exec, act, statement, hFault]
      | none =>
        simp only [exec, act, statement, hFault,
          createToken]
        split <;> rfl
    | markUsed kind id =>
      refine ⟨license, ?_, fun _ _ => rfl⟩
      rw [← hGet]
      congr 1
      cases hFault : a.fault with
      | some e => simp [exec, act, statement, hFault]
      | none =>
        simp only [exec, act, statement, hFault, markUsed]
        split <;> rfl
    | _ =>
      refine ⟨license, ?_, fun _ _ => rfl⟩
      cases hFault : a.fault <;>
        simpa [exec, act, statement, hFault] using hGet

/- A statement issues one token, marks one, or leaves them. -/
theorem tokens_exec (o : Op) (a : Answer) (w : World) :
    (exec o a w).2.tokens = w.tokens ∨
      (∃ kind doc, o = .createToken kind doc ∧
          (w.tokens kind).get a.uuid = none ∧
          (exec o a w).2.tokens = (w.setTokens kind
              ((w.tokens kind).insert a.uuid doc)).tokens) ∨
      ∃ kind id, o = .markUsed kind id ∧
          (exec o a w).2.tokens =
            (w.setTokens kind
              ((w.tokens kind).modify id (fun token =>
                { token with used := true }))).tokens := by
  cases o with
  | createToken kind doc =>
    cases hFault : a.fault with
    | some e =>
      exact Or.inl (by simp [exec, act, statement, hFault])
    | none =>
      cases hGet : (w.tokens kind).get a.uuid with
      | some token =>
        exact Or.inl (by
          simp [exec, act, statement, hFault,
            createToken, hGet])
      | none =>
        refine Or.inr (Or.inl ⟨kind, doc, rfl, hGet, ?_⟩)
        simp [exec, act, statement, hFault,
          createToken, hGet, World.setTokens]
  | markUsed kind id =>
    cases hFault : a.fault with
    | some e =>
      exact Or.inl (by simp [exec, act, statement, hFault])
    | none =>
      cases hGet : (w.tokens kind).get id with
      | none =>
        exact Or.inl (by
          simp [exec, act, statement, hFault, markUsed,
            hGet])
      | some token =>
        refine Or.inr (Or.inr ⟨kind, id, rfl, ?_⟩)
        simp [exec, act, statement, hFault, markUsed,
          hGet, World.setTokens]
  | updateLicense licenseKey patch =>
    refine Or.inl ?_
    cases hFault : a.fault with
    | some e => simp [exec, act, statement, hFault]
    | none =>
      simp only [exec, act, statement, hFault,
        updateLicense]
      split <;> rfl
  | _ =>
    refine Or.inl ?_
    cases hFault : a.fault <;>
      simp [exec, act, statement, hFault]

--------
-- What Holds Of Every Token
--------

/- The token, used or not. -/
def SameToken (token token' : Token) : Prop :=
  { token' with used := token.used } = token

theorem SameToken.refl (token : Token) :
    SameToken token token := rfl

theorem SameToken.mark (token : Token) :
    SameToken token { token with used := true } := rfl

/- The licence and the token that an event read are still
   those of the store. -/
structure Recalls (e : Event Res Answer) (w : World) : Prop where
  license :
    ∀ licenseKey license,
      readLicense e = some (licenseKey, license) →
        ∃ current,
          w.licenses.get (docId "licenses" licenseKey) =
              some current ∧
            SameSource license current
  token :
    ∀ kind id token,
      readToken e = some (kind, id, token) →
        ∃ stored, (w.tokens kind).get id = some stored ∧
          SameToken token stored

/-
  Ids of tokens are unique, every token was issued for a
  licence, and a token that redirected is used.
-/
structure Holds
    (calls : List Call)
    (w : World)
    (rs : List Served) : Prop where
  ids : ∀ kind, (w.tokens kind).keys.Nodup
  issued :
    ∀ kind, ∀ row ∈ (w.tokens kind).rows,
      ∃ license, Issued calls w kind row.2 license
  used :
    ∀ r ∈ rs, ∀ kind id token,
      redirected r = some (kind, id, token) →
        ∃ stored, (w.tokens kind).get id = some stored ∧
          stored.used = true
  single : SingleUse calls rs

variable {calls : List Call} {call : Call} {tr : Trace}
variable {o : Op} {a : Answer} {w : World}
variable {rs : List Served}

theorem tokens_setTokens (kind k : Kind) (t : Table Token) :
    (w.setTokens kind t).tokens k =
      if k = kind then t else w.tokens k := rfl

/- A stored token stays, and stays used. -/
theorem get_tokens_exec
    (o : Op)
    (a : Answer)
    {kind : Kind}
    {id : String}
    {token : Token}
    (hGet : (w.tokens kind).get id = some token) :
    ∃ token',
      ((exec o a w).2.tokens kind).get id = some token' ∧
        SameToken token token' ∧
        (token.used = true → token'.used = true) := by
  rcases tokens_exec o a w with
    hSame | ⟨k, doc, _, _, hTokens⟩ | ⟨k, other, _, hTokens⟩
  · rw [hSame]
    exact ⟨token, hGet, rfl, fun h => h⟩
  · rw [hTokens, tokens_setTokens]
    split
    · rename_i hKind
      rw [← hKind, Table.get_insert, hGet]
      exact ⟨token, rfl, rfl, fun h => h⟩
    · exact ⟨token, hGet, rfl, fun h => h⟩
  · rw [hTokens, tokens_setTokens]
    split
    · rename_i hKind
      rw [← hKind, Table.get_modify, hGet]
      split
      · exact ⟨_, rfl, rfl, fun _ => rfl⟩
      · exact ⟨token, rfl, rfl, fun h => h⟩
    · exact ⟨token, hGet, rfl, fun h => h⟩

theorem recalls_exec
    {e : Event Res Answer}
    (hAllows : Allows call tr o)
    (hRecalls : Recalls e w) :
    Recalls e (exec o a w).2 := by
  constructor
  · intro licenseKey license hRead
    rcases hRecalls.license licenseKey license hRead with
      ⟨current, hGet, hSame⟩
    rcases licenses_exec hAllows a hGet with
      ⟨license', hGet', hSame'⟩
    exact ⟨license', hGet', hSame.trans hSame'⟩
  · intro kind id token hRead
    rcases hRecalls.token kind id token hRead with
      ⟨stored, hGet, hSame⟩
    rcases get_tokens_exec o a hGet with
      ⟨stored', hGet', hSame', _⟩
    refine ⟨stored', hGet', ?_⟩
    rw [SameToken] at hSame hSame' ⊢
    rw [← hSame, ← hSame']

/- A token that a query finds is stored under its id. -/
theorem get_of_findToken
    {kind : Kind}
    {accessToken id : String}
    {token : Token}
    (hIds : (w.tokens kind).keys.Nodup)
    (hFind :
      findToken kind accessToken a w = some (id, token)) :
    (w.tokens kind).get id = some token := by
  have hMem : (id, token) ∈ (w.tokens kind).rows := by
    unfold findToken at hFind
    split at hFind
    · exact List.mem_of_find?_eq_some hFind
    · exact List.mem_of_getElem? hFind
  exact Table.get_of_mem hIds hMem

theorem recalls_new
    (o : Op)
    (a : Answer)
    (hHolds : Holds calls w rs) :
    Recalls ⟨o, a, (exec o a w).1⟩ (exec o a w).2 := by
  constructor
  · intro licenseKey license hRead
    cases o with
    | getLicense key =>
      cases hFault : a.fault with
      | some e =>
        simp [readLicense, exec, act, statement,
          hFault] at hRead
      | none =>
        cases hGet :
            w.licenses.get (docId "licenses" key) with
        | none =>
          simp [readLicense, exec, act, statement,
            hFault, hGet] at hRead
        | some current =>
          simp [readLicense, exec, act, statement,
            hFault, hGet] at hRead
          rcases hRead with ⟨rfl, rfl⟩
          refine ⟨current, ?_, fun _ _ => rfl⟩
          simpa [exec, act, statement, hFault] using hGet
    | _ => cases hRead
  · intro kind id token hRead
    cases o with
    | findToken k accessToken =>
      cases hFault : a.fault with
      | some e =>
        simp [readToken, exec, act, statement,
          hFault] at hRead
      | none =>
        simp only [exec, act, statement, hFault] at hRead ⊢
        cases hFind : findToken k accessToken a
            { w with now := w.now + a.elapsed } with
        | none => simp [readToken, hFind] at hRead
        | some row =>
          simp only [readToken, hFind,
            Option.some.injEq, Prod.mk.injEq] at hRead
          rcases hRead with ⟨rfl, rfl, rfl⟩
          exact ⟨row.2,
            get_of_findToken (hHolds.ids k) hFind, rfl⟩
    | _ => cases hRead

--------
-- Every Step Keeps The Tokens
--------

variable {calls : List Call} {call : Call} {tr : Trace}
variable {o : Op} {a : Answer} {w : World}
variable {rs : List Served}

variable {kind : Kind} {token : Token}

theorem requested_congr
    {token' : Token}
    (hSame : SameToken token token') :
    Requested call kind token' ↔ Requested call kind token := by
  rw [SameToken] at hSame
  rw [← hSame]
  unfold Requested
  split <;> exact Iff.rfl

/- A licence stays the one that a token was issued for. -/
theorem issued_exec
    {token' : Token}
    {license : Fields}
    (hAllows : Allows call tr o)
    (hSame : SameToken token token')
    (hIssued : Issued calls w kind token license) :
    ∃ license',
      Issued calls (exec o a w).2 kind token' license' := by
  rcases licenses_exec hAllows a hIssued.stored with
    ⟨license', hGet, hLicense⟩
  have hToken : { token' with used := token.used } = token :=
    hSame
  refine ⟨license', ?_, ?_, ?_, ?_, ?_⟩
  · rw [← hGet, ← hToken]
  · rcases hIssued.requested with ⟨x, hMem, hRequested⟩
    exact ⟨x, hMem, (requested_congr hSame).mpr hRequested⟩
  · rw [hLicense.userId_eq, hIssued.owner, ← hToken]
  · rw [hLicense.text?_eq (by decide), hIssued.product,
      ← hToken]
  · rw [hLicense.source_eq, hIssued.source, ← hToken]

/- A new token is issued for the licence that was read. -/
theorem issued_createToken
    {doc : Token}
    (hCall : call ∈ calls)
    (hAllows : Allows call tr (.createToken kind doc))
    (hWatchful : Watchful call tr (.createToken kind doc) a w)
    (hRecalls : ∀ e ∈ tr, Recalls e w) :
    ∃ license, Issued calls w kind doc license := by
  rcases hAllows with
    ⟨hRequested, _, license, hRead, hOwner, hSource⟩
  rcases List.exists_of_findSome?_eq_some hRead with
    ⟨e, hMem, hEvent⟩
  rcases (hRecalls e hMem).license _ _ hEvent with
    ⟨current, hGet, hSame⟩
  exact ⟨current, hGet, ⟨call, hCall, hRequested⟩,
    hSame.userId_eq.trans hOwner, hWatchful current hGet,
    (hSame.source_eq kind).trans hSource⟩

theorem issued_rows_exec
    (hCall : call ∈ calls)
    (hAllows : Allows call tr o)
    (hWatchful : Watchful call tr o a w)
    (hRecalls : ∀ e ∈ tr, Recalls e w)
    (hHolds : Holds calls w rs)
    (kind : Kind)
    {row : String × Token}
    (hMem : row ∈ ((exec o a w).2.tokens kind).rows) :
    ∃ license, Issued calls (exec o a w).2 kind row.2
      license := by
  have hOld :
      row ∈ (w.tokens kind).rows →
        ∃ license, Issued calls (exec o a w).2 kind row.2
          license := by
    intro hRow
    rcases hHolds.issued kind row hRow with
      ⟨license, hIssued⟩
    exact issued_exec hAllows (SameToken.refl _) hIssued
  rcases tokens_exec o a w with
    hSame | ⟨k, doc, rfl, _, hTokens⟩ |
      ⟨k, other, rfl, hTokens⟩
  · rw [hSame] at hMem
    exact hOld hMem
  · rw [hTokens, tokens_setTokens] at hMem
    split at hMem
    · rename_i hKind
      subst hKind
      rcases List.mem_append.mp hMem with hRow | hNew
      · exact hOld hRow
      · rw [List.mem_singleton.mp hNew]
        rcases issued_createToken hCall hAllows hWatchful
            hRecalls with ⟨license, hIssued⟩
        exact issued_exec hAllows (SameToken.refl _) hIssued
    · exact hOld hMem
  · rw [hTokens, tokens_setTokens] at hMem
    split at hMem
    · rename_i hKind
      subst hKind
      rcases Table.mem_modify hMem with
        hRow | ⟨token, hRow, rfl⟩
      · exact hOld hRow
      · rcases hHolds.issued kind _ hRow with
          ⟨license, hIssued⟩
        exact issued_exec hAllows (SameToken.mark token)
          hIssued
    · exact hOld hMem

theorem ids_exec
    (hHolds : Holds calls w rs)
    (kind : Kind) :
    ((exec o a w).2.tokens kind).keys.Nodup := by
  rcases tokens_exec o a w with
    hSame | ⟨k, doc, _, hNone, hTokens⟩ |
      ⟨k, other, _, hTokens⟩
  · rw [hSame]
    exact hHolds.ids kind
  · rw [hTokens, tokens_setTokens]
    split
    · rename_i hKind
      subst hKind
      exact Table.nodup_insert (hHolds.ids kind) hNone doc
    · exact hHolds.ids kind
  · rw [hTokens, tokens_setTokens]
    split
    · rename_i hKind
      subst hKind
      rw [Table.keys_modify]
      exact hHolds.ids kind
    · exact hHolds.ids kind

theorem holds_exec
    (hCall : call ∈ calls)
    (hAllows : Allows call tr o)
    (hWatchful : Watchful call tr o a w)
    (hRecalls : ∀ e ∈ tr, Recalls e w)
    (hHolds : Holds calls w rs) :
    Holds calls (exec o a w).2 rs where
  ids := ids_exec hHolds
  issued := by
    intro kind row hMem
    exact issued_rows_exec hCall hAllows hWatchful hRecalls
      hHolds kind hMem
  used := by
    intro r hMem kind id token hRedirected
    rcases hHolds.used r hMem kind id token hRedirected with
      ⟨stored, hGet, hUsed⟩
    rcases get_tokens_exec o a hGet with
      ⟨stored', hGet', _, hStays⟩
    exact ⟨stored', hGet', hStays hUsed⟩
  single := hHolds.single

/- A reply that is no redirect. -/
theorem Holds.answered
    {r : Served}
    (hHolds : Holds calls w rs)
    (hOther :
      ∀ sourceUrl, r.result ≠ .ok (.redirect sourceUrl)) :
    Holds calls w (r :: rs) := by
  have hNone : redirected r = none := by
    unfold redirected
    split
    · rename_i sourceUrl hResult
      exact absurd hResult (hOther sourceUrl)
    · rfl
  refine ⟨hHolds.ids, hHolds.issued, ?_, ?_, ?_⟩
  · intro r' hMem kind id token hRedirected
    rcases List.mem_cons.mp hMem with rfl | hOld
    · rw [hNone] at hRedirected
      cases hRedirected
    · exact hHolds.used r' hOld kind id token hRedirected
  · rw [List.filterMap_cons_none hNone]
    exact hHolds.single.once
  · intro r' hMem sourceUrl hResult
    rcases List.mem_cons.mp hMem with rfl | hOld
    · exact absurd hResult (hOther sourceUrl)
    · exact hHolds.single.rightful r' hOld sourceUrl hResult

theorem tokens_markUsed
    (kind : Kind)
    (id : String)
    (hFault : a.fault.isNone = true)
    (hGet : (w.tokens kind).get id = some token) :
    ((exec (.markUsed kind id) a w).2.tokens kind).get id =
      some { token with used := true } := by
  have hNone : a.fault = none :=
    Option.isNone_iff_eq_none.mp hFault
  simp [exec, act, statement, hNone, markUsed, hGet,
    tokens_setTokens]

theorem now_markUsed (kind : Kind) (id : String) :
    (exec (.markUsed kind id) a w).2.now =
      w.now + a.elapsed := by
  cases hFault : a.fault with
  | some e => simp [exec, act, statement, hFault]
  | none =>
    simp only [exec, act, statement, hFault, markUsed]
    split <;> rfl

theorem licenses_markUsed (kind : Kind) (id : String) :
    (exec (.markUsed kind id) a w).2.licenses =
      w.licenses := by
  cases hFault : a.fault with
  | some e => simp [exec, act, statement, hFault]
  | none =>
    simp only [exec, act, statement, hFault, markUsed]
    split <;> rfl

/- A redirect whose token is marked in time. -/
theorem Holds.redirected
    {id sourceUrl : String}
    {res : Except Error Unit}
    (hCall : call ∈ calls)
    (hWatchful : Watchful call tr (.markUsed kind id) a w)
    (hRecalls : ∀ e ∈ tr, Recalls e w)
    (hFound : foundToken tr = some (kind, id, token))
    (hSource : token.source = .string sourceUrl)
    (hHolds : Holds calls w rs) :
    Holds calls (exec (.markUsed kind id) a w).2
      (⟨call, ⟨.markUsed kind id, a, res⟩ :: tr,
        .ok (.redirect sourceUrl),
        (exec (.markUsed kind id) a w).2⟩ :: rs) := by
  have hAllows : Allows call tr (.markUsed kind id) :=
    ⟨token, hFound⟩
  rcases List.exists_of_findSome?_eq_some hFound with
    ⟨e, hMem, hEvent⟩
  rcases (hRecalls e hMem).token kind id token hEvent with
    ⟨stored, hGet, hSame⟩
  rcases hWatchful with ⟨hFault, hMarked⟩
  rcases hMarked stored hGet with
    ⟨hUnused, hInTime, hNotRevoked⟩
  have hKept := holds_exec (a := a) hCall hAllows
    ⟨hFault, hMarked⟩ hRecalls hHolds
  have hNew :
      Digital.redirected
          ⟨call, ⟨.markUsed kind id, a, res⟩ :: tr,
            .ok (.redirect sourceUrl),
            (exec (.markUsed kind id) a w).2⟩ =
        some (kind, id, token) := hFound
  refine ⟨hKept.ids, hKept.issued, ?_, ?_, ?_⟩
  · intro r hIn k other t hRedirected
    rcases List.mem_cons.mp hIn with rfl | hOld
    · cases hNew.symm.trans hRedirected
      exact ⟨_, tokens_markUsed kind id hFault hGet, rfl⟩
    · exact hKept.used r hOld k other t hRedirected
  · rw [List.filterMap_cons_some hNew, List.map_cons,
      List.nodup_cons]
    refine ⟨?_, hHolds.single.once⟩
    -- An earlier redirect would have left the token used.
    intro hAgain
    rcases List.mem_map.mp hAgain with ⟨t, hT, hPair⟩
    rcases List.mem_filterMap.mp hT with ⟨r, hIn, hEarlier⟩
    rcases t with ⟨k, other, t⟩
    cases hPair
    rcases hHolds.used r hIn kind id t hEarlier with
      ⟨current, hCurrent, hUsed⟩
    rw [hGet] at hCurrent
    cases hCurrent
    rw [hUnused] at hUsed
    cases hUsed
  · intro r hIn url hResult
    rcases List.mem_cons.mp hIn with rfl | hOld
    · cases hResult
      refine ⟨kind, id, token, hNew, ?_, ?_⟩
      · show (exec (.markUsed kind id) a w).2.now ≤ _
        rw [now_markUsed, ← hSame]
        exact hInTime
      · rcases hHolds.issued kind _ (Table.mem_of_get hGet) with
          ⟨license, hIssued⟩
        refine ⟨license, ⟨?_, ?_, ?_, ?_, ?_⟩, ?_, ?_⟩
        · show (exec (.markUsed kind id) a w).2.licenses.get _ =
            _
          rw [licenses_markUsed, ← hSame]
          exact hIssued.stored
        · rcases hIssued.requested with ⟨x, hX, hRequested⟩
          exact ⟨x, hX, (requested_congr hSame).mp hRequested⟩
        · rw [hIssued.owner, ← hSame]
        · rw [hIssued.product, ← hSame]
        · rw [hIssued.source, ← hSame]
        · exact hNotRevoked license hIssued.stored
        · rw [hIssued.source, ← hSource, ← hSame]
    · exact hHolds.single.rightful r hOld url hResult

/- A request that ends. -/
theorem holds_done
    {result : Except Error Reply}
    (hCall : call ∈ calls)
    (hAllows : Allows call tr o)
    (hWatchful : Watchful call tr o a w)
    (hRecalls : ∀ e ∈ tr, Recalls e w)
    (hHolds : Holds calls w rs)
    (hAnswers :
      Answers (⟨o, a, (exec o a w).1⟩ :: tr) result) :
    Holds calls (exec o a w).2
      (⟨call, ⟨o, a, (exec o a w).1⟩ :: tr, result,
        (exec o a w).2⟩ :: rs) := by
  by_cases hRedirect :
      ∃ sourceUrl, result = .ok (.redirect sourceUrl)
  · rcases hRedirect with ⟨sourceUrl, rfl⟩
    rcases hAnswers sourceUrl rfl with
      ⟨kind, id, token, b, res, tr', hTrace, hFound,
        hSource⟩
    cases hTrace
    exact Holds.redirected hCall hWatchful hRecalls hFound
      hSource hHolds
  · refine (holds_exec hCall hAllows hWatchful hRecalls
      hHolds).answered ?_
    intro sourceUrl hResult
    exact hRedirect ⟨sourceUrl, hResult⟩

/-
  In every run whose steps are watchful, each token redirects
  once, and rightfully.
-/
theorem downloads_single_use
    (upper : String → String)
    (calls : List Call)
    {w : World}
    {rs : List Served}
    {c : Config Res Answer World (Except Error Reply)}
    (hStart : NoTokens w)
    (hServes :
      Serves exec Watchful (Call.body upper) calls w rs c) :
    SingleUse calls rs := by
  have hFirst : Holds calls w [] := by
    refine ⟨?_, ?_, ?_, ?_, ?_⟩
    · intro kind
      rw [Table.keys, hStart kind]
      exact List.nodup_nil
    · intro kind row hMem
      rw [hStart kind] at hMem
      cases hMem
    · intro r hMem
      cases hMem
    · exact List.nodup_nil
    · intro r hMem
      cases hMem
  have hHolds : Holds calls c.world rs := by
    have hNew :
        ∀ x ∈ calls, ∀ tr o a w rs, Allows x tr o →
          Holds calls w rs →
            Recalls ⟨o, a, (exec o a w).1⟩ (exec o a w).2 := by
      intro _ _ _ o a w _ _ hHolds
      exact recalls_new o a hHolds
    refine (hServes.holds (fun x _ => body_allowed upper x)
      hNew ?_ ?_ ?_ hFirst).1
    · intro x _ tr o a w e hAllows hRecalls
      exact recalls_exec hAllows hRecalls
    · intro x hCall tr o a w rs hAllows hWatchful hRecalls
        hHolds _
      exact holds_exec hCall hAllows hWatchful hRecalls
        hHolds
    · intro x hCall tr o a w rs r hAllows hWatchful hRecalls
        hHolds hAnswers
      exact holds_done hCall hAllows hWatchful hRecalls
        hHolds hAnswers
  exact hHolds.single

/- A book licence with its source. -/
def bookLicense : World where
  now := 0
  licenses := ⟨[("AAAA-BBBB-CCCC-DDDD",
      [("bookSourceUrl", .string "https://b.example/1"),
        ("digitalType", .string "book"),
        ("productId", .string "p1"),
        ("status", .string "active"),
        ("userId", .string "u1")])]⟩
  tokens := fun _ => ⟨[]⟩

def downloads : Call where
  auth := { userId := "u1" }
  request := .downloadBook
      { productId := "p1"
        userId := "u1"
        licenseKey := some "AAAA-BBBB-CCCC-DDDD" }

def opens : Call where
  auth := { userId := "", authenticated := false }
  request := .getBookRedirect "tok_"

theorem one_redirect_rightful :
    ∃ rs c,
      Serves exec Watchful (Call.body id) [downloads, opens]
          bookLicense rs c ∧
        (rs.filterMap redirected).length = 1 ∧
        SingleUse [downloads, opens] rs := by
  have hRun :
      (serve exec [downloads, opens]
          (Config.start bookLicense
            ([downloads, opens].map (Call.body id))) []
          (turns [(0, 5), (1, 3)])).any (fun out =>
            (out.2.filterMap redirected).length = 1) = true ∧
        Serves.Meets exec Watchful [downloads, opens]
          (Config.start bookLicense
            ([downloads, opens].map (Call.body id)))
          (turns [(0, 5), (1, 3)]) := by
    decide
  rcases (Option.any_eq_true _ _).mp hRun.1 with
    ⟨⟨c, rs⟩, hSteps, hEnd⟩
  have hServes := Serves.of_serve hSteps hRun.2
  exact ⟨rs, c, hServes, of_decide_eq_true hEnd,
    downloads_single_use id _ (fun _ => rfl) hServes⟩

theorem token_redirects_twice :
    ∃ rs c,
      Serves exec (fun _ _ _ _ _ => True) (Call.body id)
          [downloads, opens, opens] bookLicense rs c ∧
        ¬ SingleUse [downloads, opens, opens] rs := by
  have hRun :
      (serve exec [downloads, opens, opens]
          (Config.start bookLicense
            ([downloads, opens, opens].map (Call.body id)))
          [] (turns [(0, 5), (1, 2), (2, 3), (1, 1)])).any
          (fun out =>
            !decide (((out.2.filterMap redirected).map
              (fun t => (t.1, t.2.1))).Nodup)) = true := by
    decide
  rcases (Option.any_eq_true _ _).mp hRun with
    ⟨⟨c, rs⟩, hSteps, hEnd⟩
  refine ⟨rs, c, Serves.of_serve hSteps
    (Serves.Meets.of_forall (fun _ _ _ _ _ => trivial) _ _),
    ?_⟩
  intro hSingle
  rw [decide_eq_true hSingle.once] at hEnd
  cases hEnd

end Orignabase.Digital
