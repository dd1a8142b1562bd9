import Orignabase.Digital.Licenses
import Orignabase.Lib.Replies
import Orignabase.Store.Rules

/-
  The devices of a licence
  (`ob-handlers/src/digital/mod.rs`).

  Every handler writes back the whole list of activations
  that it read, and only one of them trims the device id.

  Key definitions include:
    * `Respects`
    * `Prompt`
    * `mayCall`

  Main results:
    * `body_along`
    * `activations_respected`
-/

--------
-- Devices Of A Licence
--------

namespace Orignabase.Digital

open Conc Products

/- The device of each activation, where it names one. -/
def deviceIds (license : Fields) : List (Option String) :=
  (License.activations license).map deviceId?

abbrev Served :=
  Conc.Reply Call Res Answer World (Except Error Reply)

abbrev Trace := List (Event Res Answer)

variable (upper : String → String)

/- The licence and the device that a granted request is
   about, and whether the device is then activated. -/
def verdict (r : Served) : Option (String × String × Bool) :=
  match r.call.request, r.result with
  | .activateLicense req, .ok _ =>
    some (docId "licenses" (normalize upper req.licenseKey),
      Text.trim req.deviceId, true)
  | .deactivateLicense req, .ok _ =>
    some (docId "licenses" (normalize upper req.licenseKey),
      Text.trim req.deviceId, false)
  | _, _ => none

/- What the latest granted request about a device made of
   it. -/
def latest (key device : String) (rs : List Served) :
    Option Bool :=
  ((rs.filterMap (verdict upper)).find? (fun v =>
    v.1 = key && v.2.1 = device)).map (·.2.2)

/-
  An active licence has no more activations than its limit
  and none twice, and every device is as the latest granted
  request about it left it.
-/
structure Respects (w : World) (rs : List Served) : Prop where
  limit :
    ∀ key license, w.licenses.get key = some license →
      License.status license = "active" →
        (deviceIds license).length ≤
            License.deviceLimit license ∧
          ((deviceIds license).filterMap id).Nodup
  devices :
    ∀ key device present,
      latest upper key device rs = some present →
        ∀ license, w.licenses.get key = some license →
          (present = true ↔
            some device ∈ deviceIds license)

/- The licences before the first request. -/
def Start (w : World) : Prop :=
  ∀ key license, w.licenses.get key = some license →
    License.status license = "active" →
      (deviceIds license).length ≤
          License.deviceLimit license ∧
        ((deviceIds license).filterMap id).Nodup

--------
-- What A Request Read
--------

def Op.isUpdate : Op → Bool
  | .updateLicense .. => true
  | _ => false

abbrev NoUpdate (o : Op) : Prop :=
  o.isUpdate = false

/- The licence that an event read. -/
def readLicense :
    Event Res Answer → Option (String × Fields)
  | ⟨.getLicense licenseKey, _, .ok license⟩ =>
    some (licenseKey, license)
  | _ => none

def lastRead (tr : Trace) : Option (String × Fields) :=
  tr.findSome? readLicense

/- Whether the latest step saved activations. -/
def saved : Trace → Option Bool
  | ⟨.updateLicense .., _, .ok _⟩ :: _ => some true
  | ⟨.updateLicense .., _, .error _⟩ :: _ => some false
  | _ => none

/- The activations were not yet written. -/
def Unsaved (tr : Trace) : Prop :=
  ∀ e ∈ tr, e.op.isUpdate = false

theorem Unsaved.nil : Unsaved [] := by
  intro e hMem
  cases hMem

theorem Unsaved.cons
    {tr : Trace}
    {e : Event Res Answer}
    (hUnsaved : Unsaved tr)
    (hOp : e.op.isUpdate = false) :
    Unsaved (e :: tr) :=
  List.forall_mem_cons.mpr ⟨hOp, hUnsaved⟩

/-
  The request writes the activations that it read: as they
  are, with a new device, or without one.
-/
def Saves
    (upper : String → String)
    (request : Request)
    (licenseKey : String)
    (license : Fields)
    (devices : List (Option String)) : Prop :=
  match request with
  | .activateLicense req =>
    licenseKey = normalize upper req.licenseKey ∧
      if some (Text.trim req.deviceId) ∈ deviceIds license
      then devices = deviceIds license
      else
        (deviceIds license).length <
            License.deviceLimit license ∧
          devices = deviceIds license ++
              [some (Text.trim req.deviceId)]
  | .deactivateLicense req =>
    licenseKey = normalize upper req.licenseKey ∧ devices =
        (deviceIds license).filter (· != some req.deviceId)
  | .verifyLicense _ => devices = deviceIds license
  | _ => False

/- What a request may call: activations are saved once, from
   the licence that was read, as the last step. -/
def mayCall
    (upper : String → String)
    (call : Call)
    (tr : Trace)
    (o : Op) : Prop :=
  Unsaved tr ∧
    match o with
    | .updateLicense licenseKey patch =>
      ∃ license activations now,
        lastRead tr = some (licenseKey, license) ∧
          patch = activationsPatch activations now ∧
          Saves upper call.request licenseKey license
            (activations.map deviceId?)
    | _ => True

/- The request is granted exactly if its last step was. -/
def Granted
    (call : Call)
    (tr : Trace)
    (r : Except Error Reply) : Prop :=
  match call.request with
  | .activateLicense req =>
    r.isOk = true ↔ saved tr = some true ∨
        saved tr = some false ∧ ∃ licenseKey license,
            lastRead tr = some (licenseKey, license) ∧
              some (Text.trim req.deviceId) ∈
                deviceIds license
  | .deactivateLicense _ =>
    r.isOk = true ↔ saved tr = some true
  | _ => True

/-
  Between the reading and the writing of the activations of a
  licence nobody else changes its devices, and a device that
  a request would deactivate is spelled without white space
  around it, unless it is not activated.
-/
def Prompt (call : Call) : StepCond Res Answer World :=
  fun tr o _ w =>
    match o with
    | .updateLicense licenseKey _ =>
      ∀ license,
        w.licenses.get (docId "licenses" licenseKey) =
            some license →
          (lastRead tr).map (fun r => deviceIds r.2) =
              some (deviceIds license) ∧
            match call.request with
            | .deactivateLicense req =>
              Text.trim req.deviceId = req.deviceId ∨
                some (Text.trim req.deviceId) ∉
                  deviceIds license
            | _ => True
    | _ => True

instance
    (call : Call)
    (tr : Trace)
    (o : Op)
    (a : Answer)
    (w : World) :
    Decidable (Prompt call tr o a w) := by
  cases call with
  | mk auth request =>
    cases o with
    | updateLicense licenseKey patch =>
      cases request <;> dsimp only [Prompt] <;>
        infer_instance
    | _ => dsimp only [Prompt] ; infer_instance

--------
-- The Handlers Keep The Rules
--------

open Handler

variable (upper : String → String)

abbrev Follows
    (call : Call)
    (tr : Trace)
    (p : Handler Reply) : Prop :=
  p.Along (fun _ => True) (mayCall upper call)
    (Granted call) tr

section

-- A check of a text is not evaluated, only passed.
attribute [local irreducible] Text.trim

variable {call : Call} {tr : Trace}

theorem saved_of_unsaved
    (hUnsaved : Unsaved tr) :
    saved tr = none := by
  cases tr with
  | nil => rfl
  | cons e tr =>
    have hOp := hUnsaved e List.mem_cons_self
    rcases e with ⟨o, a, r⟩
    cases o with
    | updateLicense licenseKey patch => cases hOp
    | _ => rfl

/- A request that is refused before it saves anything. -/
theorem granted_error
    {e : Error}
    (hUnsaved : Unsaved tr) :
    Granted call tr (.error e) := by
  have hSaved := saved_of_unsaved hUnsaved
  unfold Granted
  split <;> simp [hSaved, Except.isOk, Except.toBool]

theorem deviceId?_touch (now : String) (act : Value) :
    deviceId? (touch now act) = deviceId? act := by
  cases act with
  | object fields =>
    simp [touch, deviceId?, Value.getStr, Value.get,
      Value.lookup_insertField]
  | _ => rfl

theorem map_touchFirst
    (deviceId now : String)
    (activations : List Value) :
    (touchFirst deviceId now activations).map deviceId? =
      activations.map deviceId? := by
  induction activations with
  | nil => rfl
  | cons act rest ih =>
    rw [touchFirst]
    split
    · rw [List.map_cons, List.map_cons, deviceId?_touch]
    · rw [List.map_cons, List.map_cons, ih]

theorem map_touchAll
    (deviceId now : String)
    (activations : List Value) :
    (touchAll deviceId now activations).map deviceId? =
      activations.map deviceId? := by
  rw [touchAll, List.map_map]
  apply List.map_congr_left
  intro act _
  show deviceId? (if _ then _ else _) = _
  split
  · exact deviceId?_touch now act
  · rfl

theorem deviceId?_newActivation
    (deviceId platform now : String) :
    deviceId? (newActivation deviceId platform now) =
      some deviceId := by
  simp [newActivation, deviceId?, Value.getStr, Value.get,
    Value.lookup_merge, Value.asStr]

/- A licence that was looked up, or a refusal. -/
theorem follows_loadLicense
    {licenseKey : String}
    {f : Fields → Handler Reply}
    (hUnsaved : Unsaved tr)
    (hNext :
      ∀ a license, Follows upper call
          (⟨.getLicense licenseKey, a, .ok license⟩ :: tr)
          (f license)) :
    Follows upper call tr
      (andThen (loadLicense licenseKey) f) := by
  refine ⟨⟨hUnsaved, trivial⟩, ?_⟩
  intro a r _
  cases r with
  | error e => exact granted_error (hUnsaved.cons rfl)
  | ok license => exact hNext a license

theorem follows_checkUserRateLimit
    {userId action : String}
    {limit minutes : Nat}
    {f : Unit → Handler Reply}
    (hUnsaved : Unsaved tr)
    (hNext :
      ∀ a r, Follows upper call
          (⟨.checkUserRateLimit userId action limit minutes,
            a, r⟩ :: tr) (f ())) :
    Follows upper call tr
      (andThen (Prog.perform
          (Op.checkUserRateLimit userId action limit minutes))
        f) := by
  refine ⟨⟨hUnsaved, trivial⟩, ?_⟩
  intro a r _
  cases r with
  | error e => exact granted_error (hUnsaved.cons rfl)
  | ok u => exact hNext a (.ok u)

theorem find?_deviceId_eq_none_iff
    {license : Fields}
    {deviceId : String} :
    (License.activations license).find? (fun act =>
        decide (deviceId? act = some deviceId)) = none ↔
      some deviceId ∉ deviceIds license := by
  simp [List.find?_eq_none, deviceIds]

theorem saveActivation_follows
    {req : ActivateLicenseRequest}
    {platform now : String}
    {license : Fields}
    (hRequest : call.request = .activateLicense req)
    (hUnsaved : Unsaved tr)
    (hRead :
      lastRead tr =
        some (normalize upper req.licenseKey, license)) :
    Follows upper call tr
      (saveActivation (normalize upper req.licenseKey)
        (Text.trim req.deviceId) platform now license) := by
  unfold saveActivation
  split
  · rename_i act hFind
    have hMem :
        some (Text.trim req.deviceId) ∈ deviceIds license := by
      by_contra hNot
      rw [find?_deviceId_eq_none_iff.mpr hNot] at hFind
      cases hFind
    refine ⟨⟨hUnsaved, license, _, _, hRead, rfl, ?_⟩, ?_⟩
    · rw [hRequest]
      refine ⟨rfl, ?_⟩
      rw [if_pos hMem]
      exact map_touchFirst _ _ _
    · intro a r _
      show Granted call _ (.ok _)
      unfold Granted
      rw [hRequest]
      cases r with
      | error e =>
        exact ⟨fun _ => Or.inr ⟨rfl, _, _, hRead, hMem⟩,
          fun _ => rfl⟩
      | ok u => exact ⟨fun _ => Or.inl rfl, fun _ => rfl⟩
  · rename_i hFind
    have hNot := find?_deviceId_eq_none_iff.mp hFind
    refine along_require (granted_error hUnsaved)
      fun hLimit => ?_
    refine ⟨⟨hUnsaved, license, _, _, hRead, rfl, ?_⟩, ?_⟩
    · rw [hRequest]
      refine ⟨rfl, ?_⟩
      rw [if_neg hNot]
      refine ⟨by simpa [deviceIds] using hLimit, ?_⟩
      rw [List.map_append, List.map_singleton,
        deviceId?_newActivation]
      rfl
    · intro a r _
      cases r with
      | error e =>
        show Granted call _ (.error _)
        unfold Granted
        rw [hRequest]
        constructor
        · rintro ⟨⟩
        · rintro (⟨⟨⟩⟩ | ⟨_, key, found, hFound, hMem⟩)
          have hSame : lastRead tr = some (key, found) :=
            hFound
          rw [hRead] at hSame
          cases hSame
          exact absurd hMem hNot
      | ok u =>
        show Granted call _ (.ok _)
        unfold Granted
        rw [hRequest]
        exact ⟨fun _ => Or.inl rfl, fun _ => rfl⟩

theorem activateLicense_follows
    {req : ActivateLicenseRequest}
    (hRequest : call.request = .activateLicense req) :
    Follows upper call []
      (activateLicense upper call.auth req) := by
  refine along_lift
    (fun _ _ => granted_error Unsaved.nil) fun _ _ => ?_
  refine along_lift
    (fun _ _ => granted_error Unsaved.nil) fun userId _ => ?_
  refine follows_checkUserRateLimit upper Unsaved.nil
    fun a r => ?_
  have hFirst := Unsaved.nil.cons
    (e := ⟨.checkUserRateLimit userId "activate_license" 20
      60, a, r⟩) rfl
  refine along_require (granted_error hFirst) fun _ => ?_
  refine along_require (granted_error hFirst) fun _ => ?_
  refine follows_loadLicense upper hFirst fun b license => ?_
  have hRead := hFirst.cons
    (e := ⟨.getLicense (normalize upper req.licenseKey), b,
      .ok license⟩) rfl
  refine along_require (granted_error hRead) fun _ => ?_
  refine along_require (granted_error hRead) fun _ => ?_
  refine ⟨⟨hRead, trivial⟩, fun d now _ => ?_⟩
  exact saveActivation_follows upper hRequest
    (hRead.cons rfl) rfl

theorem deactivateLicense_follows
    {req : DeactivateLicenseRequest}
    (hRequest : call.request = .deactivateLicense req) :
    Follows upper call []
      (deactivateLicense upper call.auth req) := by
  refine along_lift
    (fun _ _ => granted_error Unsaved.nil) fun _ _ => ?_
  refine along_lift
    (fun _ _ => granted_error Unsaved.nil) fun userId _ => ?_
  refine follows_checkUserRateLimit upper Unsaved.nil
    fun a r => ?_
  have hFirst := Unsaved.nil.cons
    (e := ⟨.checkUserRateLimit userId "deactivate_license" 20
      60, a, r⟩) rfl
  refine along_require (granted_error hFirst) fun _ => ?_
  refine along_require (granted_error hFirst) fun _ => ?_
  refine follows_loadLicense upper hFirst fun b license => ?_
  have hRead := hFirst.cons
    (e := ⟨.getLicense (normalize upper req.licenseKey), b,
      .ok license⟩) rfl
  refine along_require (granted_error hRead) fun _ => ?_
  refine ⟨⟨hRead, trivial⟩, fun d now _ => ?_⟩
  refine ⟨⟨hRead.cons rfl, license, _, _, rfl, rfl, ?_⟩, ?_⟩
  · rw [hRequest]
    refine ⟨rfl, ?_⟩
    rw [deviceIds, List.filter_map]
    rfl
  · intro f r _
    cases r with
    | error e =>
      show Granted call _ (.error _)
      unfold Granted
      rw [hRequest]
      exact ⟨by rintro ⟨⟩, by rintro ⟨⟩⟩
    | ok u =>
      show Granted call _ (.ok _)
      unfold Granted
      rw [hRequest]
      exact ⟨fun _ => rfl, fun _ => rfl⟩

theorem verifyLicense_follows
    {req : VerifyLicenseRequest}
    (hRequest : call.request = .verifyLicense req) :
    Follows upper call [] (verifyLicense upper req) := by
  have hAny :
      ∀ tr (r : Except Error Reply), Granted call tr r := by
    intro tr r
    unfold Granted
    rw [hRequest]
    trivial
  refine along_require (hAny _ _) fun _ => ?_
  refine follows_loadLicense upper Unsaved.nil
    fun b license => ?_
  split
  · exact hAny _ _
  · split
    · have hRead := Unsaved.nil.cons
        (e := ⟨.getLicense (normalize upper req.licenseKey),
          b, .ok license⟩) rfl
      refine ⟨⟨hRead, trivial⟩, fun d now _ => ?_⟩
      refine ⟨⟨hRead.cons rfl, license, _, _, rfl, rfl, ?_⟩,
        fun _ _ _ => hAny _ _⟩
      rw [hRequest]
      exact map_touchAll _ _ _
    · exact hAny _ _

theorem mayCall_of_not_update
    {o : Op}
    (hUnsaved : Unsaved tr)
    (hOp : o.isUpdate = false) :
    mayCall upper call tr o := by
  refine ⟨hUnsaved, ?_⟩
  cases o with
  | updateLicense licenseKey patch => cases hOp
  | _ => trivial

/- A request that saves no activations. -/
theorem follows_of_uses
    {p : Handler Reply}
    (hUses : p.Uses NoUpdate)
    (hOther : ∀ tr r, Granted call tr r) :
    Follows upper call [] p := by
  have hUnsaved :
      ∀ tr', Prog.Extends NoUpdate ([] : Trace) tr' →
        Unsaved tr' := by
    intro tr' hExtends
    induction hExtends with
    | refl => exact Unsaved.nil
    | cons _ hOp ih => exact ih.cons hOp
  apply (hUses.along (fun tr' o hExtends hOp =>
    mayCall_of_not_update upper (hUnsaved tr' hExtends)
      hOp)).mono
  · intro tr' o hCan
    exact hCan
  · intro tr' r _
    exact hOther tr' r

theorem download_uses
    (auth : AuthContext)
    (k : DownloadKind)
    (req : DownloadRequest) :
    (download upper auth k req).Uses NoUpdate := by
  refine uses_andThen trivial fun _ => ?_
  refine uses_andThen trivial fun _ => ?_
  refine uses_andThen trivial fun _ => ?_
  refine uses_andThen (uses_perform rfl) fun _ => ?_
  refine uses_require ?_
  refine uses_require ?_
  refine uses_andThen
    (uses_mapErr (uses_perform (P := NoUpdate) rfl) _)
    fun _ => ?_
  refine uses_require (uses_require (uses_require ?_))
  refine ⟨rfl, fun _ => ⟨rfl, fun _ => ?_⟩⟩
  exact uses_andThen
    (uses_mapErr (uses_perform (P := NoUpdate) rfl) _)
    fun _ => trivial

theorem redirect_uses (kind : Kind) (t : String) :
    (redirect kind t).Uses NoUpdate := by
  refine uses_andThen trivial fun _ => ?_
  refine uses_andThen (uses_perform rfl) fun found => ?_
  cases found with
  | none => trivial
  | some row =>
    refine uses_require ⟨rfl, fun _ => uses_require ?_⟩
    split
    · trivial
    · exact ⟨rfl, fun _ => trivial⟩

/- Every request follows its rules. -/
theorem body_along (call : Call) :
    Follows upper call [] (call.body upper) := by
  unfold Call.body
  cases hRequest : call.request with
  | activateLicense req =>
    exact activateLicense_follows upper hRequest
  | deactivateLicense req =>
    exact deactivateLicense_follows upper hRequest
  | verifyLicense req =>
    exact verifyLicense_follows upper hRequest
  | downloadBook req =>
    exact follows_of_uses upper (download_uses _ _ _ _)
      (by simp [Granted, hRequest])
  | downloadSoftware req =>
    exact follows_of_uses upper (download_uses _ _ _ _)
      (by simp [Granted, hRequest])
  | getBookRedirect t =>
    exact follows_of_uses upper (redirect_uses _ _)
      (by simp [Granted, hRequest])
  | getSoftwareRedirect t =>
    exact follows_of_uses upper (redirect_uses _ _)
      (by simp [Granted, hRequest])
  | refundItem orderId productId =>
    refine follows_of_uses upper ⟨rfl, fun _ => ?_⟩
      (by simp [Granted, hRequest])
    exact uses_andThen (uses_perform rfl) fun _ => trivial

end

--------
-- What A Statement Does To Licences
--------

theorem deviceIds_merge
    (license : Fields)
    (activations : List Value)
    (now : String) :
    deviceIds
        (Value.merge license
          (activationsPatch activations now)) =
      activations.map deviceId? := by
  simp [deviceIds, License.activations, activationsPatch,
    Value.lookup_merge, Value.asArray]

/- What a change of a licence leaves of limit and status. -/
def Keeps (f : Fields → Fields) : Prop :=
  ∀ license, License.deviceLimit (f license) =
        License.deviceLimit license ∧
      (License.status (f license) = "active" →
        License.status license = "active")

theorem keeps_activationsPatch
    (activations : List Value)
    (now : String) :
    Keeps (fun license =>
      Value.merge license
        (activationsPatch activations now)) := by
  intro license
  constructor
  · simp [License.deviceLimit, activationsPatch,
      Value.lookup_merge, List.lookup_cons]
  · simp [License.status, text?, activationsPatch,
      Value.lookup_merge, List.lookup_cons]

theorem keeps_revoke
    (orderId productId revokedAt : String) :
    Keeps (revoke orderId productId revokedAt) := by
  intro license
  unfold revoke
  split
  · rename_i hItem
    constructor
    · simp [License.deviceLimit, Value.lookup_merge,
        List.lookup_cons]
    · intro _
      simp [License.status, hItem.2.2]
  · exact ⟨rfl, fun h => h⟩

theorem deviceIds_revoke
    (orderId productId revokedAt : String)
    (license : Fields) :
    deviceIds (revoke orderId productId revokedAt license) =
      deviceIds license := by
  unfold revoke
  split
  · simp [deviceIds, License.activations,
      Value.lookup_merge, List.lookup_cons]
  · rfl

/- A statement that saves nothing keeps the devices. -/
theorem exec_not_update
    {o : Op}
    (hOp : o.isUpdate = false)
    (a : Answer)
    (w : World) :
    ∃ f, Keeps f ∧
      (∀ license, deviceIds (f license) = deviceIds license) ∧
      ∀ key,
        (exec o a w).2.licenses.get key =
          (w.licenses.get key).map f := by
  have hSame :
      (exec o a w).2.licenses = w.licenses → ∃ f, Keeps f ∧
          (∀ license,
            deviceIds (f license) = deviceIds license) ∧
          ∀ key, (exec o a w).2.licenses.get key =
              (w.licenses.get key).map f := by
    intro hSame
    refine ⟨id, fun _ => ⟨rfl, fun h => h⟩, fun _ => rfl,
      fun key => ?_⟩
    rw [hSame, Option.map_id]
    rfl
  cases o with
  | updateLicense licenseKey patch => cases hOp
  | utcNow => exact hSame rfl
  | newUuid => exact hSame rfl
  | checkUserRateLimit userId action limit minutes =>
    apply hSame
    cases hFault : a.fault <;>
      simp [exec, act, statement, hFault]
  | getLicense licenseKey =>
    apply hSame
    cases hFault : a.fault <;>
      simp [exec, act, statement, hFault]
  | findToken kind accessToken =>
    apply hSame
    cases hFault : a.fault <;>
      simp [exec, act, statement, hFault]
  | createToken kind doc =>
    apply hSame
    cases hFault : a.fault with
    | some e => simp [exec, act, statement, hFault]
    | none =>
      simp only [exec, act, statement, hFault, createToken]
      split <;> rfl
  | markUsed kind id =>
    apply hSame
    cases hFault : a.fault with
    | some e => simp [exec, act, statement, hFault]
    | none =>
      simp only [exec, act, statement, hFault, markUsed]
      split <;> rfl
  | revokeLicenses orderId productId revokedAt =>
    cases hFault : a.fault with
    | some e =>
      apply hSame
      simp [exec, act, statement, hFault]
    | none =>
      refine ⟨revoke orderId productId revokedAt,
        keeps_revoke _ _ _, deviceIds_revoke _ _ _,
        fun key => ?_⟩
      simp only [exec, act, statement, hFault]
      exact Table.get_map _ _ _

/- Saving fails without effect, or changes one licence. -/
theorem exec_updateLicense
    (licenseKey : String)
    (patch : Fields)
    (a : Answer)
    (w : World) :
    ((∃ e, (exec (.updateLicense licenseKey patch) a w).1 =
          .error e) ∧
      (exec (.updateLicense licenseKey patch) a w).2.licenses =
        w.licenses) ∨
      (exec (.updateLicense licenseKey patch) a w).1 =
          .ok () ∧
        (∃ license,
          w.licenses.get (docId "licenses" licenseKey) =
            some license) ∧
        ∀ key,
          (exec (.updateLicense licenseKey
              patch) a w).2.licenses.get key =
            if key = docId "licenses" licenseKey then
              (w.licenses.get key).map (fun license =>
                Value.merge license patch)
            else w.licenses.get key := by
  cases hFault : a.fault with
  | some e =>
    exact Or.inl (by simp [exec, act, statement, hFault])
  | none =>
    cases hGet :
        w.licenses.get (docId "licenses" licenseKey) with
    | none =>
      exact Or.inl (by
        simp [exec, act, statement, hFault, updateLicense,
          hGet])
    | some license =>
      refine Or.inr ⟨?_, ⟨license, rfl⟩, fun key => ?_⟩
      · simp [exec, act, statement, hFault, updateLicense,
          hGet]
      · simp only [exec, act, statement, hFault,
          updateLicense, hGet]
        exact Table.get_modify _ _ _ _

--------
-- The Limit That A Request Read
--------

/- The limit that an event read is the limit of the licence. -/
def Told (e : Event Res Answer) (w : World) : Prop :=
  ∀ licenseKey license,
    readLicense e = some (licenseKey, license) → ∀ current,
        w.licenses.get (docId "licenses" licenseKey) =
            some current →
          License.deviceLimit license =
            License.deviceLimit current

variable (upper : String → String)

theorem told_new (o : Op) (a : Answer) (w : World) :
    Told ⟨o, a, (exec o a w).1⟩ (exec o a w).2 := by
  intro licenseKey license hRead current hGet
  cases o with
  | getLicense key =>
    cases hFault : a.fault with
    | some e =>
      simp [readLicense, exec, act, statement,
        hFault] at hRead
    | none =>
      cases hHere : w.licenses.get (docId "licenses" key) with
      | none =>
        simp [readLicense, exec, act, statement, hFault,
          hHere] at hRead
      | some here =>
        simp [readLicense, exec, act, statement, hFault,
          hHere] at hRead
        rcases hRead with ⟨rfl, rfl⟩
        simp only [exec, act, statement, hFault,
          hHere, Option.some.injEq] at hGet
        rw [hGet]
  | _ => cases hRead

theorem told_exec
    {call : Call}
    {tr : Trace}
    {o : Op}
    {e : Event Res Answer}
    {w : World}
    (a : Answer)
    (hCan : mayCall upper call tr o)
    (hTold : Told e w) :
    Told e (exec o a w).2 := by
  intro licenseKey license hRead current hGet
  have hOld := hTold licenseKey license hRead
  have hMapped :
      ∀ f, Keeps f →
        (w.licenses.get (docId "licenses" licenseKey)).map f =
            some current →
          License.deviceLimit license =
            License.deviceLimit current := by
    intro f hKeeps hMap
    rcases Option.map_eq_some_iff.mp hMap with
      ⟨old, hHere, rfl⟩
    rw [(hKeeps old).1]
    exact hOld old hHere
  cases hOp : o.isUpdate with
  | false =>
    rcases exec_not_update hOp a w with
      ⟨f, hKeeps, _, hLicenses⟩
    rw [hLicenses] at hGet
    exact hMapped f hKeeps hGet
  | true =>
    cases o with
    | updateLicense key patch =>
      rcases hCan.2 with ⟨_, acts, now, _, rfl, _⟩
      rcases exec_updateLicense key
          (activationsPatch acts now) a w with
        ⟨_, hSame⟩ | ⟨_, _, hLicenses⟩
      · rw [hSame] at hGet
        exact hOld current hGet
      · rw [hLicenses] at hGet
        split at hGet
        · exact hMapped _ (keeps_activationsPatch acts now)
            hGet
        · exact hOld current hGet
    | _ => cases hOp

--------
-- Every Step Respects The Licences
--------

variable (upper : String → String)

section

variable {w w' at_ : World} {rs : List Served} {r : Served}

theorem latest_cons_of_none
    (hNone : verdict upper r = none)
    (key device : String) :
    latest upper key device (r :: rs) =
      latest upper key device rs := by
  simp [latest, hNone]

theorem latest_cons_of_some
    {of_ about : String}
    {present : Bool}
    (hSome : verdict upper r = some (of_, about, present))
    (key device : String) :
    latest upper key device (r :: rs) =
      if of_ = key ∧ about = device then some present
      else latest upper key device rs := by
  simp only [latest, List.filterMap_cons, hSome,
    List.find?_cons]
  by_cases hBoth : of_ = key ∧ about = device
  · simp [hBoth]
  · have hNot :
        (decide (of_ = key) && decide (about = device)) =
          false := by
      simpa using hBoth
    rw [if_neg hBoth, hNot]

/- A reply without a verdict. -/
theorem Respects.answered
    (hRespects : Respects upper w rs)
    (hNone : verdict upper r = none) :
    Respects upper w (r :: rs) := by
  refine ⟨hRespects.limit, ?_⟩
  intro key device present hLatest
  rw [latest_cons_of_none upper hNone] at hLatest
  exact hRespects.devices key device present hLatest

/- A statement that keeps the devices. -/
theorem Respects.calm
    {f : Fields → Fields}
    (hKeeps : Keeps f)
    (hDevices :
      ∀ license, deviceIds (f license) = deviceIds license)
    (hLicenses :
      ∀ key, w'.licenses.get key =
        (w.licenses.get key).map f)
    (hRespects : Respects upper w rs) :
    Respects upper w' rs := by
  constructor
  · intro key license hGet hActive
    rw [hLicenses] at hGet
    rcases Option.map_eq_some_iff.mp hGet with
      ⟨old, hOld, rfl⟩
    rw [hDevices, (hKeeps old).1]
    exact hRespects.limit key old hOld
      ((hKeeps old).2 hActive)
  · intro key device present hLatest license hGet
    rw [hLicenses] at hGet
    rcases Option.map_eq_some_iff.mp hGet with
      ⟨old, hOld, rfl⟩
    rw [hDevices]
    exact hRespects.devices key device present hLatest old
      hOld

/- A licence with other devices, and a reply about them. -/
theorem Respects.saved
    {key : String}
    {license : Fields}
    {f : Fields → Fields}
    {rs' : List Served}
    (hRespects : Respects upper w rs)
    (hGet : w.licenses.get key = some license)
    (hKeeps : Keeps f)
    (hLicenses :
      ∀ k, w'.licenses.get k =
        if k = key then (w.licenses.get k).map f
        else w.licenses.get k)
    (hLimit :
      License.status license = "active" →
        (deviceIds (f license)).length ≤
            License.deviceLimit license ∧
          ((deviceIds (f license)).filterMap id).Nodup)
    (hDevices :
      ∀ device present,
        latest upper key device rs' = some present →
          (present = true ↔
            some device ∈ deviceIds (f license)))
    (hOthers :
      ∀ k device, k ≠ key → latest upper k device rs' =
          latest upper k device rs) :
    Respects upper w' rs' := by
  constructor
  · intro k found hFound hActive
    rw [hLicenses] at hFound
    split at hFound
    · rename_i hKey
      rw [hKey, hGet] at hFound
      cases hFound
      rw [(hKeeps license).1]
      exact hLimit ((hKeeps license).2 hActive)
    · exact hRespects.limit k found hFound hActive
  · intro k device present hLatest found hFound
    rw [hLicenses] at hFound
    split at hFound
    · rename_i hKey
      rw [hKey, hGet] at hFound
      cases hFound
      rw [hKey] at hLatest
      exact hDevices device present hLatest
    · rename_i hKey
      rw [hOthers k device hKey] at hLatest
      exact hRespects.devices k device present hLatest found
        hFound

theorem verdict_eq_none
    {call : Call}
    {tr : Trace}
    {result : Except Error Reply}
    (hGranted : Granted call tr result)
    (hSaved : saved tr = none) :
    verdict upper ⟨call, tr, result, at_⟩ = none := by
  unfold Granted at hGranted
  unfold verdict
  cases hRequest : call.request with
  | activateLicense req =>
    simp only [hRequest, hSaved] at hGranted
    cases result with
    | error e => simp
    | ok reply =>
      simp [Except.isOk, Except.toBool] at hGranted
  | deactivateLicense req =>
    simp only [hRequest, hSaved] at hGranted
    cases result with
    | error e => simp
    | ok reply =>
      simp [Except.isOk, Except.toBool] at hGranted
  | _ => simp

/- The devices with a new one. -/
theorem limit_append
    {devices : List (Option String)}
    {device : String}
    {limit : Nat}
    (hNew : some device ∉ devices)
    (hRoom : devices.length < limit)
    (hNodup : (devices.filterMap id).Nodup) :
    (devices ++ [some device]).length ≤ limit ∧
      ((devices ++ [some device]).filterMap id).Nodup := by
  constructor
  · rw [List.length_append]
    exact hRoom
  · rw [List.filterMap_append, List.nodup_append]
    refine ⟨hNodup, by simp, ?_⟩
    intro x hOld y hLast
    simp only [List.filterMap_cons, id_eq, List.filterMap_nil,
      List.mem_singleton] at hLast
    simp only [List.mem_filterMap, id_eq,
      exists_eq_right] at hOld
    rintro rfl
    rw [hLast] at hOld
    exact hNew hOld

/- The devices without one. -/
theorem limit_filter
    {devices : List (Option String)}
    {limit : Nat}
    (keep : Option String → Bool)
    (hLimit :
      devices.length ≤ limit ∧
        (devices.filterMap id).Nodup) :
    (devices.filter keep).length ≤ limit ∧
      ((devices.filter keep).filterMap id).Nodup := by
  have hSublist := List.filter_sublist (p := keep) (l := devices)
  exact ⟨hSublist.length_le.trans hLimit.1,
    hLimit.2.sublist (hSublist.filterMap id)⟩

end

--------
-- Requests That Save Activations
--------

variable (upper : String → String)

section

variable {w w' at_ : World} {rs : List Served} {call : Call}
variable {tr tr' : Trace} {licenseKey now : String}
variable {license : Fields} {acts : List Value}
variable {result : Except Error Reply}

/- The licence as it is, and as the request writes it. -/
structure Saving
    (w w' : World)
    (licenseKey now : String)
    (license : Fields)
    (acts : List Value) : Prop where
  get :
    w.licenses.get (docId "licenses" licenseKey) = some license
  licenses :
    ∀ key, w'.licenses.get key =
      if key = docId "licenses" licenseKey then
        (w.licenses.get key).map (fun license =>
          Value.merge license (activationsPatch acts now))
      else w.licenses.get key

/- A request that keeps the devices and has no verdict. -/
theorem respects_verified
    {req : VerifyLicenseRequest}
    (hRequest : call.request = .verifyLicense req)
    (hRespects : Respects upper w rs)
    (hSaving : Saving w w' licenseKey now license acts)
    (hDevices : acts.map deviceId? = deviceIds license) :
    Respects upper w' (⟨call, tr, result, at_⟩ :: rs) := by
  have hNone :
      verdict upper ⟨call, tr, result, at_⟩ = none := by
    simp [verdict, hRequest]
  refine hRespects.saved upper hSaving.get
    (keeps_activationsPatch acts now) hSaving.licenses ?_ ?_
    ?_
  · intro hActive
    rw [deviceIds_merge, hDevices]
    exact hRespects.limit _ license hSaving.get hActive
  · intro device present hLatest
    rw [deviceIds_merge, hDevices]
    rw [latest_cons_of_none upper hNone] at hLatest
    exact hRespects.devices _ device present hLatest license
      hSaving.get
  · intro key device _
    exact latest_cons_of_none upper hNone key device

variable {reply : Reply} {a : Answer} {patch : Fields}

/- A device that is activated, or activated again. -/
theorem respects_activated
    {req : ActivateLicenseRequest}
    {limit : Nat}
    (hRequest : call.request = .activateLicense req)
    (hRespects : Respects upper w rs)
    (hSaving :
      Saving w w' (normalize upper req.licenseKey) now license
        acts)
    (hLimit : limit = License.deviceLimit license)
    (hActs :
      if some (Text.trim req.deviceId) ∈ deviceIds license
      then acts.map deviceId? = deviceIds license
      else
        (deviceIds license).length < limit ∧
          acts.map deviceId? = deviceIds license ++
              [some (Text.trim req.deviceId)]) :
    Respects upper w' (⟨call, tr, .ok reply, at_⟩ :: rs) := by
  have hVerdict :
      verdict upper ⟨call, tr, .ok reply, at_⟩ = some
          (docId "licenses" (normalize upper req.licenseKey),
            Text.trim req.deviceId, true) := by
    simp [verdict, hRequest]
  have hMem :
      ∀ device, some device ∈ acts.map deviceId? ↔
          some device ∈ deviceIds license ∨
            device = Text.trim req.deviceId := by
    intro device
    split at hActs
    · rename_i hOld
      rw [hActs]
      constructor
      · exact Or.inl
      · rintro (hIn | rfl)
        · exact hIn
        · exact hOld
    · rw [hActs.2]
      simp
  refine hRespects.saved upper hSaving.get
    (keeps_activationsPatch acts now) hSaving.licenses ?_ ?_
    ?_
  · intro hActive
    have hOld :=
      hRespects.limit _ license hSaving.get hActive
    rw [deviceIds_merge]
    split at hActs
    · rw [hActs]
      exact hOld
    · rename_i hNew
      rw [hActs.2]
      exact limit_append hNew (hLimit ▸ hActs.1) hOld.2
  · intro device present hLatest
    rw [deviceIds_merge, hMem]
    rw [latest_cons_of_some upper hVerdict] at hLatest
    split at hLatest
    · rename_i hSame
      rw [← Option.some.inj hLatest]
      exact ⟨fun _ => Or.inr hSame.2.symm, fun _ => rfl⟩
    · rename_i hOther
      have hNe : device ≠ Text.trim req.deviceId := by
        rintro rfl
        exact hOther ⟨rfl, rfl⟩
      rw [hRespects.devices _ device present hLatest license
        hSaving.get]
      simp [hNe]
  · intro key device hKey
    rw [latest_cons_of_some upper hVerdict, if_neg]
    rintro ⟨hSame, _⟩
    exact hKey hSame.symm

/- The devices that replies are about are trimmed. -/
theorem trim_of_latest
    {key device : String}
    {present : Bool}
    (hLatest : latest upper key device rs = some present) :
    Text.trim device = device := by
  rcases Option.map_eq_some_iff.mp hLatest with
    ⟨v, hFind, _⟩
  have hAbout := List.find?_some hFind
  rcases List.mem_filterMap.mp
      (List.mem_of_find?_eq_some hFind) with
    ⟨r, _, hVerdict⟩
  have hDevice : v.2.1 = device :=
    of_decide_eq_true (Bool.and_eq_true_iff.mp hAbout).2
  rw [← hDevice]
  unfold verdict at hVerdict
  split at hVerdict
  · rw [← Option.some.inj hVerdict]
    exact Text.trim_trim _
  · rw [← Option.some.inj hVerdict]
    exact Text.trim_trim _
  · cases hVerdict

theorem respects_deactivated
    {req : DeactivateLicenseRequest}
    (hRequest : call.request = .deactivateLicense req)
    (hRespects : Respects upper w rs)
    (hSaving :
      Saving w w' (normalize upper req.licenseKey) now license
        acts)
    (hTrimmed :
      Text.trim req.deviceId = req.deviceId ∨
        some (Text.trim req.deviceId) ∉ deviceIds license)
    (hActs :
      acts.map deviceId? = (deviceIds license).filter
          (· != some req.deviceId)) :
    Respects upper w' (⟨call, tr, .ok reply, at_⟩ :: rs) := by
  have hVerdict :
      verdict upper ⟨call, tr, .ok reply, at_⟩ = some
          (docId "licenses" (normalize upper req.licenseKey),
            Text.trim req.deviceId, false) := by
    simp [verdict, hRequest]
  have hMem :
      ∀ device, some device ∈ acts.map deviceId? ↔
          some device ∈ deviceIds license ∧
            device ≠ req.deviceId := by
    intro device
    rw [hActs, List.mem_filter, bne_iff_ne, ne_eq,
      Option.some.injEq]
  refine hRespects.saved upper hSaving.get
    (keeps_activationsPatch acts now) hSaving.licenses ?_ ?_
    ?_
  · intro hActive
    rw [deviceIds_merge, hActs]
    exact limit_filter _
      (hRespects.limit _ license hSaving.get hActive)
  · intro device present hLatest
    rw [deviceIds_merge, hMem]
    have hTrim := trim_of_latest upper hLatest
    rw [latest_cons_of_some upper hVerdict] at hLatest
    split at hLatest
    · rename_i hSame
      rw [← Option.some.inj hLatest, ← hSame.2]
      constructor
      · rintro ⟨⟩
      · rintro ⟨hIn, hNe⟩
        rcases hTrimmed with hEq | hOut
        · exact absurd hEq hNe
        · exact absurd hIn hOut
    · rename_i hOther
      have hNe : device ≠ req.deviceId := by
        rintro rfl
        exact hOther ⟨rfl, hTrim⟩
      rw [hRespects.devices _ device present hLatest license
        hSaving.get]
      simp [hNe]
  · intro key device hKey
    rw [latest_cons_of_some upper hVerdict, if_neg]
    rintro ⟨hSame, _⟩
    exact hKey hSame.symm

/- An activation whose refreshed time was not saved. -/
theorem respects_refreshed
    {req : ActivateLicenseRequest}
    (hRequest : call.request = .activateLicense req)
    (hRespects : Respects upper w rs)
    (hSame : w'.licenses = w.licenses)
    (hHere :
      ∀ license, w.licenses.get (docId "licenses"
              (normalize upper req.licenseKey)) =
          some license →
        some (Text.trim req.deviceId) ∈ deviceIds license) :
    Respects upper w' (⟨call, tr, .ok reply, at_⟩ :: rs) := by
  have hVerdict :
      verdict upper ⟨call, tr, .ok reply, at_⟩ = some
          (docId "licenses" (normalize upper req.licenseKey),
            Text.trim req.deviceId, true) := by
    simp [verdict, hRequest]
  constructor
  · rw [hSame]
    exact hRespects.limit
  · intro key device present hLatest found hFound
    rw [hSame] at hFound
    rw [latest_cons_of_some upper hVerdict] at hLatest
    split at hLatest
    · rename_i hBoth
      rw [← Option.some.inj hLatest, ← hBoth.2]
      rw [← hBoth.1] at hFound
      exact ⟨fun _ => hHere found hFound, fun _ => rfl⟩
    · exact hRespects.devices key device present hLatest
        found hFound

/- What a past read has the devices and the limit of the
   licence. -/
theorem read_eq
    {read current : Fields}
    (hTold : ∀ e ∈ tr, Told e w)
    (hPrompt :
      Prompt call tr (.updateLicense licenseKey patch) a w)
    (hRead : lastRead tr = some (licenseKey, read))
    (hGet :
      w.licenses.get (docId "licenses" licenseKey) =
        some current) :
    deviceIds read = deviceIds current ∧
      License.deviceLimit read =
        License.deviceLimit current := by
  constructor
  · have hBoth := (hPrompt current hGet).1
    rw [hRead] at hBoth
    exact Option.some.inj hBoth
  · rcases List.exists_of_findSome?_eq_some hRead with
      ⟨e, hMem, hEvent⟩
    exact hTold e hMem licenseKey read hEvent current hGet

theorem isOk_iff {r : Except Error Reply} :
    r.isOk = true ↔ ∃ reply, r = .ok reply := by
  cases r <;> simp [Except.isOk, Except.toBool]

/- A request whose saving failed. -/
theorem respects_failed
    {e : Error}
    (hRespects : Respects upper w rs)
    (hSame : w'.licenses = w.licenses)
    (hPrompt :
      Prompt call tr (.updateLicense licenseKey patch) a w)
    (hCan :
      mayCall upper call tr (.updateLicense licenseKey patch))
    (hGranted :
      Granted call
        (⟨.updateLicense licenseKey patch, a, .error e⟩ :: tr)
        result) :
    Respects upper w'
      (⟨call,
        ⟨.updateLicense licenseKey patch, a, .error e⟩ :: tr,
        result, at_⟩ :: rs) := by
  have hKept : Respects upper w' rs := by
    constructor
    · rw [hSame]
      exact hRespects.limit
    · rw [hSame]
      exact hRespects.devices
  cases result with
  | error e' =>
    refine hKept.answered upper ?_
    unfold verdict
    split <;> simp_all
  | ok reply =>
    unfold Granted at hGranted
    cases hRequest : call.request with
    | activateLicense req =>
      simp only [hRequest] at hGranted
      rcases hGranted.mp rfl with
        ⟨⟨⟩⟩ | ⟨_, key, read, hRead, hMem⟩
      have hHere : lastRead tr = some (key, read) := hRead
      rcases hCan.2 with
        ⟨license, acts, now, hLast, _, hSaves⟩
      rw [hHere] at hLast
      cases hLast
      rw [hRequest] at hSaves
      refine respects_refreshed upper hRequest hRespects
        hSame ?_
      intro current hGet
      rw [← hSaves.1] at hGet
      have hBoth := (hPrompt current hGet).1
      rw [hHere] at hBoth
      rw [← Option.some.inj hBoth]
      exact hMem
    | deactivateLicense req =>
      simp only [hRequest] at hGranted
      cases hGranted.mp rfl
    | _ =>
      refine hKept.answered upper ?_
      simp [verdict, hRequest]

/- A request that saved its activations. -/
theorem respects_succeeded
    (hTold : ∀ e ∈ tr, Told e w)
    (hRespects : Respects upper w rs)
    (hPrompt :
      Prompt call tr (.updateLicense licenseKey patch) a w)
    (hCan :
      mayCall upper call tr (.updateLicense licenseKey patch))
    (hGet :
      w.licenses.get (docId "licenses" licenseKey) =
        some license)
    (hLicenses :
      ∀ key, w'.licenses.get key =
        if key = docId "licenses" licenseKey then
          (w.licenses.get key).map (fun license =>
            Value.merge license patch)
        else w.licenses.get key)
    (hGranted :
      Granted call
        (⟨.updateLicense licenseKey patch, a, .ok ()⟩ :: tr)
        result) :
    Respects upper w'
      (⟨call,
        ⟨.updateLicense licenseKey patch, a, .ok ()⟩ :: tr,
        result, at_⟩ :: rs) := by
  rcases hCan.2 with ⟨read, acts, now, hRead, rfl, hSaves⟩
  have hSame := read_eq hTold hPrompt hRead hGet
  have hSaving : Saving w w' licenseKey now license acts :=
    ⟨hGet, hLicenses⟩
  have hSpelled := (hPrompt license hGet).2
  unfold Granted at hGranted
  unfold Saves at hSaves
  rw [hSame.1] at hSaves
  cases hRequest : call.request with
  | activateLicense req =>
    simp only [hRequest] at hGranted hSaves
    rcases isOk_iff.mp (hGranted.mpr (Or.inl rfl)) with
      ⟨reply, rfl⟩
    rcases hSaves with ⟨rfl, hActs⟩
    exact respects_activated upper hRequest hRespects
      hSaving hSame.2 hActs
  | deactivateLicense req =>
    simp only [hRequest] at hGranted hSaves hSpelled
    rcases isOk_iff.mp (hGranted.mpr rfl) with ⟨reply, rfl⟩
    rcases hSaves with ⟨rfl, hActs⟩
    exact respects_deactivated upper hRequest hRespects
      hSaving hSpelled hActs
  | verifyLicense req =>
    simp only [hRequest] at hSaves
    exact respects_verified upper hRequest hRespects
      hSaving hSaves
  | _ =>
    simp only [hRequest] at hSaves

/- A request that ends. -/
theorem respects_done
    {o : Op}
    (hTold : ∀ e ∈ tr, Told e w)
    (hCan : mayCall upper call tr o)
    (hPrompt : Prompt call tr o a w)
    (hRespects : Respects upper w rs)
    (hGranted :
      Granted call (⟨o, a, (exec o a w).1⟩ :: tr) result) :
    Respects upper (exec o a w).2
      (⟨call, ⟨o, a, (exec o a w).1⟩ :: tr, result,
        at_⟩ :: rs) := by
  cases hOp : o.isUpdate with
  | false =>
    rcases exec_not_update hOp a w with
      ⟨f, hKeeps, hDevices, hLicenses⟩
    refine (hRespects.calm upper hKeeps hDevices
      hLicenses).answered upper ?_
    exact verdict_eq_none upper hGranted
      (saved_of_unsaved (hCan.1.cons hOp))
  | true =>
    cases o with
    | updateLicense key patch =>
      rcases exec_updateLicense key patch a w with
        ⟨⟨e, hError⟩, hSame⟩ |
          ⟨hOk, ⟨license, hGet⟩, hLicenses⟩
      · rw [hError] at hGranted ⊢
        exact respects_failed upper hRespects hSame
          hPrompt hCan hGranted
      · rw [hOk] at hGranted ⊢
        exact respects_succeeded upper hTold hRespects
          hPrompt hCan hGet hLicenses hGranted
    | _ => cases hOp

end

/-
  In every run whose requests save activations promptly, the
  licences respect their limits and the latest replies.
-/
theorem activations_respected
    (calls : List Call)
    {w : World}
    {rs : List Served}
    {c : Config Res Answer World (Except Error Reply)}
    (hStart : Start w)
    (hServes :
      Serves exec Prompt (Call.body upper) calls w rs c) :
    Respects upper c.world rs := by
  have hFirst : Respects upper w [] := by
    refine ⟨hStart, ?_⟩
    intro key device present hLatest
    cases hLatest
  refine (hServes.holds (fun x _ => body_along upper x)
    (fun _ _ _ o a w _ _ _ => told_new o a w)
    (fun _ _ _ _ a _ _ hCan hTold =>
      told_exec upper a hCan hTold)
    ?_ ?_ hFirst).1
  · intro x _ tr o a w rs hCan _ _ hRespects hNext
    rcases hNext with ⟨_, hUnsaved, _⟩
    have hOp := hUnsaved _ List.mem_cons_self
    rcases exec_not_update hOp a w with
      ⟨f, hKeeps, hDevices, hLicenses⟩
    exact hRespects.calm upper hKeeps hDevices hLicenses
  · intro x _ tr o a w rs r hCan hPrompt hTold hRespects
      hGranted
    exact respects_done upper hTold hCan hPrompt hRespects
      hGranted

/- A request of the owner to activate a device. -/
def activates (deviceId : String) : Call where
  auth := { userId := "u1" }
  request := .activateLicense
      { licenseKey := "AAAA-BBBB-CCCC-DDDD"
        deviceId := deviceId
        userId := "u1" }

def oneLicense : World where
  now := 0
  licenses := ⟨[("AAAA-BBBB-CCCC-DDDD",
      [("activations", .array []),
        ("status", .string "active"),
        ("userId", .string "u1")])]⟩
  tokens := fun _ => ⟨[]⟩

theorem oneLicense_start : Start oneLicense := by
  intro key license hGet _
  have hMem := Table.mem_of_get hGet
  simp only [oneLicense, List.mem_singleton,
    Prod.mk.injEq] at hMem
  rw [hMem.2]
  decide

/- Each of the threads takes some undisturbed steps. -/
def turns (parts : List (Nat × Nat)) : List (Nat × Answer) :=
  parts.flatMap (fun part => List.replicate part.2 (part.1, {}))

theorem two_devices_respected :
    ∃ rs c, Serves exec Prompt (Call.body id)
          [activates "d1", activates " d2"] oneLicense rs c ∧
        latest id "AAAA-BBBB-CCCC-DDDD" "d2" rs = some true ∧
        Respects id c.world rs := by
  have hRun :
      (serve exec [activates "d1", activates " d2"]
          (Config.start oneLicense
            ([activates "d1", activates " d2"].map
              (Call.body id))) []
          (turns [(0, 4), (1, 4)])).any (fun out =>
            latest id "AAAA-BBBB-CCCC-DDDD" "d2" out.2 =
              some true) = true ∧
        Serves.Meets exec Prompt
          [activates "d1", activates " d2"]
          (Config.start oneLicense
            ([activates "d1", activates " d2"].map
              (Call.body id)))
          (turns [(0, 4), (1, 4)]) := by
    decide +kernel
  rcases (Option.any_eq_true _ _).mp hRun.1 with
    ⟨⟨c, rs⟩, hSteps, hEnd⟩
  have hServes := Serves.of_serve hSteps hRun.2
  exact ⟨rs, c, hServes, of_decide_eq_true hEnd,
    activations_respected id _ oneLicense_start hServes⟩

theorem approved_device_lost :
    ∃ rs c,
      Serves exec (fun _ _ _ _ _ => True) (Call.body id)
          [activates "d1", activates "d2"] oneLicense rs c ∧
        ¬ Respects id c.world rs := by
  have hRun :
      (serve exec [activates "d1", activates "d2"]
          (Config.start oneLicense
            ([activates "d1", activates "d2"].map
              (Call.body id))) []
          (turns [(0, 2), (1, 4), (0, 2)])).any (fun out =>
            latest id "AAAA-BBBB-CCCC-DDDD" "d2" out.2 =
                some true &&
              (out.1.world.licenses.get
                "AAAA-BBBB-CCCC-DDDD").any (fun license =>
                  some "d2" ∉ deviceIds license)) = true := by
    decide +kernel
  rcases (Option.any_eq_true _ _).mp hRun with
    ⟨⟨c, rs⟩, hSteps, hEnd⟩
  refine ⟨rs, c, Serves.of_serve hSteps
    (Serves.Meets.of_forall (fun _ _ _ _ _ => trivial) _ _),
    ?_⟩
  intro hRespects
  rcases Bool.and_eq_true_iff.mp hEnd with ⟨hLast, hLost⟩
  rcases (Option.any_eq_true _ _).mp hLost with
    ⟨license, hGet, hOut⟩
  exact absurd
    ((hRespects.devices _ _ _ (of_decide_eq_true hLast)
      license hGet).mp rfl)
    (of_decide_eq_true hOut)

end Orignabase.Digital
