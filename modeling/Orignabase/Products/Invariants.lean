import Orignabase.Products.Statements
import Orignabase.Lib.Histories

/-
  What every stored product keeps to, and which requests let
  it.

  Key definitions include:
    * `Fits`
    * `Sound`
    * `Intact`
    * `Keeps`
    * `Harmless`

  Main results:
    * `sound_merge_iff`
    * `intact_step_iff`
    * `always_intact_iff`
-/

--------
-- Invariants
--------

namespace Orignabase.Products

/- A product that names its creator, a price and a stock. -/
structure Fits (p : Product) : Prop where
  seller :
    p.data.lookup "sellerId" = some (.string p.creator)
  price : ∀ v, p.data.lookup "priceCents" = some v →
    ∃ n, asI64 v = some n ∧ 1 ≤ n ∧ n ≤ 10000000
  stock : ∀ v, p.data.lookup "stockQuantity" = some v →
    ∃ n, asI64 v = some n ∧ 0 ≤ n

/- A state that is absent is read as a draft. -/
def state? : Option Value → Option String
  | none => some "draft"
  | some v => v.asStr

/- A change of the state, if it is one, is an allowed one. -/
def Edge (before after : Option Value) : Prop :=
  before = after ∨
    ∃ s t, state? before = some s ∧ state? after = some t ∧
      validateLifecycleTransition s t = .ok ()

def Product.status (p : Product) : Option Value :=
  p.data.lookup "lifecycleStatus"

def archived : Option Value :=
  some (.string "archived")

/- What counts how often a product is someone's favorite. -/
def favoriteFields : List String :=
  ["favoriteCount", "updatedAt"]

/- Two versions of a product but for its favorites. -/
def SameOffer (before after : Product) : Prop :=
  ∀ field ∉ favoriteFields,
    after.data.lookup field = before.data.lookup field

structure Sound (write : Write) : Prop where
  fits : Fits write.after
  edge : ∀ before, write.before = some before →
    Edge before.status write.after.status
  retired : ∀ before, write.before = some before →
    before.status = archived →
    write.after.status = archived
  writer : isAdmin write.auth = true ∨
    write.auth.userId = write.after.creator ∨
    ∃ before, write.before = some before ∧
      SameOffer before write.after

/-
  All stored products fit, and whatever has been written so
  far was sound.
-/
def Intact (w : World) : Prop :=
  Kept Fits Sound w

--------
-- Payloads That Do No Harm
--------

def amountFields : List String :=
  ["priceCents", "stockQuantity"]

/- Price and stock are integers where they are given. -/
def Integers (obj : Fields) : Prop :=
  ∀ field ∈ amountFields, ∀ v,
    obj.lookup field = some v → (asI64 v).isSome = true

/-
  A patch that leaves the seller as it is, has integers for
  price and stock, and replaces the state of a product by a
  text only where it is a text or absent.
-/
structure Keeps (patch : Fields) (p : Product) : Prop where
  seller : ∀ v, patch.lookup "sellerId" = some v →
    p.data.lookup "sellerId" = some v
  integers : Integers patch
  status : ∀ v, patch.lookup "lifecycleStatus" = some v →
    p.status = some v ∨
      v.asStr.isSome = true ∧ (state? p.status).isSome = true

/- Whether a product can be archived from its state. -/
def Archivable (p : Product) : Prop :=
  ∃ s, state? p.status = some s ∧
    validateLifecycleTransition s "archived" = .ok ()

variable (codec : Codec)

/-
  Requests that go through and whose data is well behaved
  where the code does not check it.
-/
def Harmless (w : World) (call : Call) : Prop :=
  let auth := call.auth
  let env := call.env
  match call.request with
  | .createProductAtomic req =>
    ∀ obj, req.productData = .object obj →
      (checkCreate codec env auth req).isOk = true →
      env.writeFault 0 = none →
      w.rows (newId env 0 obj) = none → Integers obj
  | .bulkUploadProducts req =>
    (checkBulkUpload env auth req).isOk = true →
      UploadsMeet env Integers
        (fun id => (w.rows id).isSome = true)
        (req.valid codec)
  | .updateProduct req =>
    ∀ obj, req.productData = .object obj →
      (checkUpdate codec env auth req w).isOk = true →
      env.writeFault 0 = none →
      ∀ p, w.product? req.productId = some p → Keeps obj p
  | .bulkUpdateProducts req =>
    ∀ obj, req.update = .object obj →
      (checkBulkUpdate codec env auth req w).isOk = true →
      ∀ entry ∈ req.productIds.zipIdx,
        env.writeFault entry.2 = none →
        ∀ p, w.product? entry.1 = some p → Keeps obj p
  | .deleteProduct req =>
    (checkDelete env auth req w).isOk = true →
      env.writeFault 0 = none →
      ∀ p, w.product? req.productId = some p → Archivable p
  | .uploadImages _ => True
  | .toggleFavorite _ => True

--------
-- Sound Statements
--------

/- The range of price and stock, as far as they are integers. -/
def Ranged (obj : Fields) : Prop :=
  (∀ price, int? obj "priceCents" = some price →
    1 ≤ price ∧ price ≤ 10000000) ∧
  ∀ stock, int? obj "stockQuantity" = some stock → 0 ≤ stock

variable {obj : Fields} {p : Product} {patch : Fields}

theorem price_of_integers
    (hRanged : Ranged obj)
    (hIntegers : Integers obj)
    (v : Value)
    (hPrice : obj.lookup "priceCents" = some v) :
    ∃ n, asI64 v = some n ∧ 1 ≤ n ∧ n ≤ 10000000 := by
  have hSome := hIntegers "priceCents" (by decide) v hPrice
  rcases Option.isSome_iff_exists.mp hSome with ⟨n, hInt⟩
  refine ⟨n, hInt, hRanged.1 n ?_⟩
  unfold int?
  rw [hPrice]
  exact hInt

theorem stock_of_integers
    (hRanged : Ranged obj)
    (hIntegers : Integers obj)
    (v : Value)
    (hStock : obj.lookup "stockQuantity" = some v) :
    ∃ n, asI64 v = some n ∧ 0 ≤ n := by
  have hSome := hIntegers "stockQuantity" (by decide) v hStock
  rcases Option.isSome_iff_exists.mp hSome with ⟨n, hInt⟩
  refine ⟨n, hInt, hRanged.2 n ?_⟩
  unfold int?
  rw [hStock]
  exact hInt

theorem integers_of_fits
    (hFits : Fits p) :
    Integers p.data := by
  intro field hField v hValue
  simp only [amountFields, List.mem_cons, List.not_mem_nil,
    or_false] at hField
  rcases hField with rfl | rfl
  · rcases hFits.price v hValue with ⟨n, hInt, _⟩
    rw [hInt]
    rfl
  · rcases hFits.stock v hValue with ⟨n, hInt, _⟩
    rw [hInt]
    rfl

/- A new product that names the user who asked for it. -/
theorem sound_create_iff
    {auth : AuthContext}
    {data : Fields}
    (hSeller : data.lookup "sellerId" =
      some (.string auth.userId))
    (hRanged : Ranged data) :
    Sound ⟨auth, none, ⟨data, auth.userId⟩⟩ ↔
      Integers data := by
  constructor
  · intro hSound
    exact integers_of_fits hSound.fits
  · intro hIntegers
    refine ⟨⟨hSeller, ?_, ?_⟩, ?_, ?_, .inr (.inl rfl)⟩
    · exact price_of_integers hRanged hIntegers
    · exact stock_of_integers hRanged hIntegers
    · intro before hBefore
      cases hBefore
    · intro before hBefore
      cases hBefore

/- What a patch makes of the state of a product. -/
def Leads (patch : Fields) (p : Product) : Prop :=
  ∀ v, patch.lookup "lifecycleStatus" = some v →
    Edge p.status (some v)

theorem retired_of_edge
    {after : Option Value}
    (hEdge : Edge archived after) :
    after = archived := by
  rcases hEdge with rfl | ⟨s, t, hBefore, hAfter, hOk⟩
  · rfl
  · cases hBefore
    cases eq_of_archived hOk
    cases after with
    | none => exact absurd hAfter (by decide)
    | some v =>
      cases v with
      | string t =>
        cases hAfter
        rfl
      | _ => cases hAfter

/- A patch of someone who may apply it to the product. -/
def MayWrite
    (auth : AuthContext)
    (patch : Fields)
    (p : Product) : Prop :=
  isAdmin auth = true ∨ auth.userId = p.creator ∨
    SameOffer p (p.merge patch)

/- Such a patch is sound exactly if it does no harm. -/
theorem sound_merge_iff
    {auth : AuthContext}
    (hFits : Fits p)
    (hWriter : MayWrite auth patch p)
    (hRanged : Ranged patch) :
    Sound ⟨auth, some p, p.merge patch⟩ ↔
      (∀ v, patch.lookup "sellerId" = some v →
        p.data.lookup "sellerId" = some v) ∧
      Integers patch ∧ Leads patch p := by
  constructor
  · intro hSound
    refine ⟨?_, ?_, ?_⟩
    · intro v hValue
      have hSeller := hSound.fits.seller
      rw [lookup_merge, hValue] at hSeller
      exact hFits.seller.trans hSeller.symm
    · intro field hField v hValue
      apply integers_of_fits hSound.fits field hField v
      rw [lookup_merge, hValue]
      rfl
    · intro v hValue
      have hEdge := hSound.edge p rfl
      unfold Product.status at hEdge
      rw [lookup_merge, hValue] at hEdge
      exact hEdge
  · rintro ⟨hSeller, hIntegers, hLeads⟩
    have hEdge : Edge p.status (p.merge patch).status := by
      unfold Product.status
      rw [lookup_merge]
      cases hValue : patch.lookup "lifecycleStatus" with
      | none => exact .inl rfl
      | some v => exact hLeads v hValue
    refine ⟨⟨?_, ?_, ?_⟩, ?_, ?_, ?_⟩
    · rw [lookup_merge]
      cases hValue : patch.lookup "sellerId" with
      | none => exact hFits.seller
      | some v =>
        exact (hSeller v hValue).symm.trans hFits.seller
    · intro v hPrice
      rw [lookup_merge] at hPrice
      cases hValue : patch.lookup "priceCents" with
      | none =>
        rw [hValue] at hPrice
        exact hFits.price v hPrice
      | some u =>
        rw [hValue] at hPrice
        cases hPrice
        exact price_of_integers hRanged hIntegers v hValue
    · intro v hStock
      rw [lookup_merge] at hStock
      cases hValue : patch.lookup "stockQuantity" with
      | none =>
        rw [hValue] at hStock
        exact hFits.stock v hStock
      | some u =>
        rw [hValue] at hStock
        cases hStock
        exact stock_of_integers hRanged hIntegers v hValue
    · intro before hBefore
      cases hBefore
      exact hEdge
    · intro before hBefore hArchived
      cases hBefore
      rw [hArchived] at hEdge
      exact retired_of_edge hEdge
    · rcases hWriter with hAdmin | hCreator | hSame
      · exact .inl hAdmin
      · exact .inr (.inl hCreator)
      · exact .inr (.inr ⟨p, rfl, hSame⟩)

theorem fits_of_sound
    (write : Write)
    (hSound : Sound write) :
    Fits write.after :=
  hSound.fits

/- What a patch must not do to a product. -/
def Gentle (patch : Fields) (p : Product) : Prop :=
  (∀ v, patch.lookup "sellerId" = some v →
    p.data.lookup "sellerId" = some v) ∧
  Integers patch ∧ Leads patch p

--------
-- What the Checks Let Through
--------

variable {codec : Codec} {env : Env} {auth : AuthContext}
variable {w : World}

def governedFields : List String :=
  ["sellerId", "priceCents", "stockQuantity",
    "lifecycleStatus"]

/- A text over a state is one of the states after it. -/
def Legal (obj : Fields) (p : Product) : Prop :=
  ∀ s, text? obj "lifecycleStatus" = some s →
    validateLifecycleTransition
      ((text? p.data "lifecycleStatus").getD "draft") s =
        .ok ()

theorem governed_of_amount :
    ∀ field ∈ amountFields, field ∈ governedFields := by
  decide

theorem integers_congr
    {a b : Fields}
    (hSame : ∀ field ∈ amountFields,
      a.lookup field = b.lookup field) :
    Integers a ↔ Integers b := by
  unfold Integers
  constructor
  · intro h field hField v hValue
    exact h field hField v ((hSame field hField).trans hValue)
  · intro h field hField v hValue
    exact h field hField v
      ((hSame field hField).symm.trans hValue)

theorem ranged_congr
    {a b : Fields}
    (hSame : ∀ field ∈ amountFields,
      a.lookup field = b.lookup field)
    (hRanged : Ranged a) :
    Ranged b := by
  have hPrice := hSame "priceCents" (by decide)
  have hStock := hSame "stockQuantity" (by decide)
  unfold Ranged int? at hRanged ⊢
  rw [hPrice, hStock] at hRanged
  exact hRanged

theorem object_of_objectOf
    {ε : Type}
    {v : Value}
    {e : ε}
    (hOk : objectOf v e = .ok obj) :
    v = .object obj := by
  cases v with
  | object fields =>
    cases hOk
    rfl
  | _ => cases hOk

theorem of_mapError_ok
    {ε δ α : Type}
    {x : Except ε α}
    {f : ε → δ}
    {a : α}
    (hOk : x.mapError f = .ok a) :
    x = .ok a := by
  cases x with
  | error e => cases hOk
  | ok b =>
    cases hOk
    rfl

theorem product_of_getDocument
    {k : Nat}
    {id : String}
    (hOk : getDocument env k id w = .ok p) :
    w.product? id = some p := by
  unfold getDocument at hOk
  split at hOk
  · cases hOk
  · split at hOk
    · cases hOk
    · cases hOk
      assumption

/- Only a seller who created it owns a product that fits. -/
theorem writer_of_checkOwner
    {message : String}
    {u : Unit}
    (hFits : Fits p)
    (hOk : checkOwner auth p message = .ok u)
    (patch : Fields) :
    MayWrite auth patch p := by
  have hSeller : p.seller = p.creator := by
    unfold Product.seller text?
    rw [hFits.seller]
    rfl
  rcases (Bool.or_eq_true _ _).mp (of_ensure hOk) with
    hOwner | hAdmin
  · rw [hSeller] at hOwner
    exact .inr (.inl (of_decide_eq_true hOwner).symm)
  · exact .inl hAdmin

theorem legal_of_checkLifecycle
    {u : Unit}
    (hOk : checkLifecycle obj p = .ok u) :
    Legal obj p := by
  intro s hText
  unfold checkLifecycle at hOk
  rw [hText] at hOk
  exact hOk

theorem of_checkPatch
    (hOk : checkPatch codec env obj = .ok patch) :
    Ranged obj ∧ ∀ field ∈ governedFields,
      patch.lookup field = obj.lookup field := by
  rcases Fallible.of_bind_ok hOk with ⟨_, hRanged, hOk⟩
  rcases Fallible.of_bind_ok hOk with ⟨_, _, hOk⟩
  rcases Fallible.of_bind_ok hOk with ⟨result, hResult, hOk⟩
  cases hOk
  refine ⟨of_checkPriceAndStock hRanged, ?_⟩
  intro field hField
  have hOther : field ≠ "updatedAt" ∧
      field ∉ derivedFields := by
    revert field
    decide
  rw [Value.lookup_insertField, if_neg hOther.1,
    lookup_checkContents codec hResult hOther.2]

theorem amounts_stampUploaded
    (env : Env)
    (userId : String)
    (obj : Fields) :
    ∀ field ∈ amountFields,
      (stampUploaded env userId obj).lookup field =
        obj.lookup field := by
  intro field hField
  apply lookup_stampUploaded
  revert field
  decide

/- The product that a checked request creates. -/
theorem of_checkCreate
    {req : CreateProductAtomicRequest}
    {data : Fields}
    (hOk : checkCreate codec env auth req = .ok data) :
    data.lookup "sellerId" = some (.string auth.userId) ∧
      ∃ obj, req.productData = .object obj ∧ Ranged obj ∧
        ∀ field ∈ "id" :: amountFields,
          data.lookup field = obj.lookup field := by
  rcases Fallible.of_bind_ok hOk with ⟨userId, hUser, hOk⟩
  rcases Fallible.of_bind_ok hOk with ⟨_, _, hOk⟩
  rcases Fallible.of_bind_ok hOk with ⟨_, _, hOk⟩
  rcases Fallible.of_bind_ok hOk with ⟨_, _, hOk⟩
  rcases Fallible.of_bind_ok hOk with ⟨_, _, hOk⟩
  rcases Fallible.of_bind_ok hOk with ⟨obj, hObject, hOk⟩
  rcases Fallible.of_bind_ok hOk with ⟨_, hRanged, hOk⟩
  rcases Fallible.of_bind_ok hOk with ⟨result, hResult, hOk⟩
  cases hOk
  have hSelf : userId = auth.userId := by
    unfold resolveSelfUserId at hUser
    split at hUser
    · cases hUser
    · split at hUser
      · cases hUser
      · cases hUser
        rfl
  subst hSelf
  refine ⟨seller_stampCreated _ _, obj,
    object_of_objectOf hObject,
    of_checkPriceAndStock hRanged, ?_⟩
  intro field hField
  have hOther :
      field ∉ ["updatedAt", "createdAt", "sellerId"] ∧
        field ≠ "imageUrls" ∧ field ∉ derivedFields := by
    revert field
    decide
  rw [lookup_stampCreated hOther.1, Value.lookup_insertField,
    if_neg hOther.2.1,
    lookup_checkContents codec hResult hOther.2.2]

theorem ranged_of_same
    (hSame : ∀ field ∈ governedFields,
      patch.lookup field = obj.lookup field)
    (hRanged : Ranged obj) :
    Ranged patch := by
  apply ranged_congr _ hRanged
  intro field hField
  exact (hSame field (governed_of_amount field hField)).symm

/- A patch that the checks of an update let through. -/
structure Checked
    (auth : AuthContext)
    (obj patch : Fields)
    (p : Product) : Prop where
  writer : MayWrite auth patch p
  ranged : Ranged obj
  legal : Legal obj p
  same : ∀ field ∈ governedFields,
    patch.lookup field = obj.lookup field

theorem of_checkUpdate
    (hIntact : Intact w)
    {req : UpdateProductRequest}
    (hOk : checkUpdate codec env auth req w = .ok patch) :
    ∃ obj, req.productData = .object obj ∧
      ∃ p, w.product? req.productId = some p ∧
        Checked auth obj patch p := by
  rcases Fallible.of_bind_ok hOk with ⟨_, _, hOk⟩
  rcases Fallible.of_bind_ok hOk with ⟨_, _, hOk⟩
  rcases Fallible.of_bind_ok hOk with ⟨_, _, hOk⟩
  rcases Fallible.of_bind_ok hOk with ⟨p, hGet, hOk⟩
  rcases Fallible.of_bind_ok hOk with ⟨_, hOwner, hOk⟩
  rcases Fallible.of_bind_ok hOk with ⟨obj, hObject, hOk⟩
  rcases Fallible.of_bind_ok hOk with ⟨_, hLifecycle, hOk⟩
  have hRow := product_of_getDocument hGet
  rcases of_checkPatch hOk with ⟨hRanged, hSame⟩
  exact ⟨obj, object_of_objectOf hObject, p, hRow,
    writer_of_checkOwner (hIntact.stored _ p hRow) hOwner _,
    hRanged, legal_of_checkLifecycle hLifecycle, hSame⟩

theorem of_checkBulkUpdate
    (hIntact : Intact w)
    {req : BulkUpdateRequest}
    (hOk : checkBulkUpdate codec env auth req w =
      .ok patch) :
    ∃ obj, req.update = .object obj ∧
      ∀ entry ∈ req.productIds.zipIdx, ∀ p,
        w.product? entry.1 = some p →
        Checked auth obj patch p := by
  rcases Fallible.of_bind_ok hOk with ⟨_, _, hOk⟩
  rcases Fallible.of_bind_ok hOk with ⟨_, _, hOk⟩
  rcases Fallible.of_bind_ok hOk with ⟨_, _, hOk⟩
  rcases Fallible.of_bind_ok hOk with ⟨products, hRead, hOk⟩
  rcases Fallible.of_bind_ok hOk with ⟨obj, hObject, hOk⟩
  rcases Fallible.of_bind_ok hOk with ⟨_, hLifecycle, hOk⟩
  rcases of_checkPatch hOk with ⟨hRanged, hSame⟩
  have hLegal := Fallible.of_forM hLifecycle
  refine ⟨obj, object_of_objectOf hObject, ?_⟩
  intro entry hEntry p hRow
  rcases Fallible.exists_of_mapM hRead hEntry with
    ⟨q, hMember, hOwned⟩
  rcases Fallible.of_bind_ok hOwned with ⟨r, hGet, hOwned⟩
  rcases Fallible.of_bind_ok hOwned with ⟨_, hOwner, hOwned⟩
  cases hOwned
  have hSome := product_of_getDocument (of_mapError_ok hGet)
  rw [hRow] at hSome
  cases hSome
  exact ⟨writer_of_checkOwner (hIntact.stored _ p hRow)
      hOwner _,
    hRanged, legal_of_checkLifecycle (hLegal p hMember),
    hSame⟩

theorem of_checkImages
    {req : UploadImagesRequest}
    (hOk : checkImages env auth req w = .ok patch) :
    patch =
        [("imageUrls", strings req.imageUrls),
          ("updatedAt", .string env.now)] ∧
      ∃ p message, w.product? req.productId = some p ∧
        checkOwner auth p message = .ok () := by
  rcases Fallible.of_bind_ok hOk with ⟨_, _, hOk⟩
  rcases Fallible.of_bind_ok hOk with ⟨_, _, hOk⟩
  rcases Fallible.of_bind_ok hOk with ⟨_, _, hOk⟩
  rcases Fallible.of_bind_ok hOk with ⟨_, _, hOk⟩
  rcases Fallible.of_bind_ok hOk with ⟨_, _, hOk⟩
  rcases Fallible.of_bind_ok hOk with ⟨p, hGet, hOk⟩
  rcases Fallible.of_bind_ok hOk with ⟨_, hOwner, hOk⟩
  cases hOk
  exact ⟨rfl, p, _,
    product_of_getDocument (of_mapError_ok hGet), hOwner⟩

theorem of_checkDelete
    {req : DeleteProductRequest}
    (hOk : checkDelete env auth req w = .ok patch) :
    (∃ userId, patch =
        [("lifecycleStatus", .string "archived"),
          ("deletedAt", .string env.now),
          ("deletedBy", .string userId)]) ∧
      ∃ p message, w.product? req.productId = some p ∧
        checkOwner auth p message = .ok () := by
  rcases Fallible.of_bind_ok hOk with ⟨userId, _, hOk⟩
  rcases Fallible.of_bind_ok hOk with ⟨_, _, hOk⟩
  rcases Fallible.of_bind_ok hOk with ⟨p, hGet, hOk⟩
  rcases Fallible.of_bind_ok hOk with ⟨_, hOwner, hOk⟩
  rcases Fallible.of_bind_ok hOk with ⟨_, _, hOk⟩
  cases hOk
  exact ⟨⟨userId, rfl⟩, p, _,
    product_of_getDocument (of_mapError_ok hGet), hOwner⟩

--------
-- Patches
--------

variable {auth : AuthContext} {obj patch : Fields}
variable {p : Product}

/- The state that a check reads, where there is one. -/
theorem text_of_state
    {s : String}
    (hState : state? p.status = some s) :
    (text? p.data "lifecycleStatus").getD "draft" = s := by
  unfold Product.status at hState
  unfold text?
  cases hStatus : p.data.lookup "lifecycleStatus" with
  | none =>
    rw [hStatus] at hState
    cases hState
    rfl
  | some v =>
    rw [hStatus] at hState
    change v.asStr.getD "draft" = s
    rw [show v.asStr = some s from hState]
    rfl

/- Over a text, the checks are those of the transitions. -/
theorem leads_iff_of_legal
    (hLegal : Legal obj p) :
    Leads obj p ↔
      ∀ v, obj.lookup "lifecycleStatus" = some v →
        p.status = some v ∨ v.asStr.isSome = true ∧
            (state? p.status).isSome = true := by
  constructor
  · intro hLeads v hValue
    rcases hLeads v hValue with
      hSame | ⟨s, t, hBefore, hAfter, _⟩
    · exact .inl hSame
    · right
      rw [show v.asStr = some t from hAfter, hBefore]
      exact ⟨rfl, rfl⟩
  · intro hStates v hValue
    rcases hStates v hValue with hSame | ⟨hText, hState⟩
    · exact .inl hSame
    · rcases Option.isSome_iff_exists.mp hText with ⟨t, ht⟩
      rcases Option.isSome_iff_exists.mp hState with ⟨s, hs⟩
      refine .inr ⟨s, t, hs, ht, ?_⟩
      have hOk := hLegal t (by
        unfold text?
        rw [hValue]
        exact ht)
      rw [text_of_state hs] at hOk
      exact hOk

theorem gentle_iff_keeps
    (hChecked : Checked auth obj patch p) :
    Gentle patch p ↔ Keeps obj p := by
  have hSeller := hChecked.same "sellerId" (by decide)
  have hStatus := hChecked.same "lifecycleStatus" (by decide)
  have hAmounts : ∀ field ∈ amountFields,
      patch.lookup field = obj.lookup field := by
    intro field hField
    exact hChecked.same field
      (governed_of_amount field hField)
  have hLeads : Leads patch p ↔ Leads obj p := by
    unfold Leads
    rw [hStatus]
  unfold Gentle
  rw [hSeller, hLeads, integers_congr hAmounts,
    leads_iff_of_legal hChecked.legal]
  exact ⟨fun ⟨h₁, h₂, h₃⟩ => ⟨h₁, h₂, h₃⟩,
    fun ⟨h₁, h₂, h₃⟩ => ⟨h₁, h₂, h₃⟩⟩

theorem MayWrite.again
    (hWriter : MayWrite auth patch p) :
    MayWrite auth patch (p.merge patch) := by
  rcases hWriter with hAdmin | hCreator | hSame
  · exact .inl hAdmin
  · exact .inr (.inl hCreator)
  · refine .inr (.inr ?_)
    intro field _
    rw [lookup_merge (p.merge patch), lookup_merge]
    cases patch.lookup field <;> rfl

theorem sound_iff_keeps
    (hFits : Fits p)
    (hChecked : Checked auth obj patch p) :
    Sound ⟨auth, some p, p.merge patch⟩ ↔ Keeps obj p :=
  (sound_merge_iff hFits hChecked.writer
    (ranged_of_same hChecked.same hChecked.ranged)).trans
      (gentle_iff_keeps hChecked)

/- A patch can be applied once more. -/
theorem Checked.again
    (hChecked : Checked auth obj patch p) :
    Checked auth obj patch (p.merge patch) where
  writer := hChecked.writer.again
  ranged := hChecked.ranged
  same := hChecked.same
  legal s hText := by
    have hStatus :=
      hChecked.same "lifecycleStatus" (by decide)
    have hPatched :
        text? (p.merge patch).data "lifecycleStatus" =
          some s := by
      unfold text? at hText ⊢
      rw [lookup_merge, hStatus]
      cases hValue : obj.lookup "lifecycleStatus" with
      | none =>
        rw [hValue] at hText
        cases hText
      | some v =>
        rw [hValue] at hText
        exact hText
    rw [hPatched]
    exact validateLifecycleTransition_self s

theorem Keeps.again
    (hChecked : Checked auth obj patch p)
    (hKeeps : Keeps obj p) :
    Keeps obj (p.merge patch) where
  integers := hKeeps.integers
  seller v hValue := by
    have hSeller := hChecked.same "sellerId" (by decide)
    rw [lookup_merge, hSeller, hValue]
    rfl
  status v hValue := by
    have hStatus :=
      hChecked.same "lifecycleStatus" (by decide)
    left
    unfold Product.status
    rw [lookup_merge, hStatus, hValue]
    rfl

--------
-- Requests
--------

variable {codec : Codec} {env : Env} {auth : AuthContext}
variable {w : World}

theorem intact_create_request_iff
    (hIntact : Intact w)
    (req : CreateProductAtomicRequest) :
    Intact (createProductAtomic codec env auth req w).2 ↔
      ∀ obj, req.productData = .object obj →
        (checkCreate codec env auth req).isOk = true →
        env.writeFault 0 = none →
        w.rows (newId env 0 obj) = none → Integers obj := by
  cases hCheck : checkCreate codec env auth req with
  | error e =>
    constructor
    · intro _ obj _ hOk
      cases hOk
    · intro _
      rw [world_createProductAtomic, hCheck]
      exact hIntact
  | ok data =>
    rcases of_checkCreate hCheck with
      ⟨hSeller, obj, hObject, hRanged, hSame⟩
    have hAmounts : ∀ field ∈ amountFields,
        data.lookup field = obj.lookup field := by
      intro field hField
      exact hSame field (List.mem_cons_of_mem _ hField)
    have hCreate := kept_create_request_iff codec env
      auth fits_of_sound hIntact req (newId env 0 obj)
      (Integers obj)
      (by
        intro other hOther
        rw [hCheck] at hOther
        cases hOther
        unfold newId text?
        rw [hSame "id" List.mem_cons_self])
      (by
        intro other hOther
        rw [hCheck] at hOther
        cases hOther
        rw [sound_create_iff hSeller
          (ranged_congr (fun field hField =>
            (hAmounts field hField).symm) hRanged),
          integers_congr hAmounts])
    unfold Intact
    rw [hCreate, hCheck]
    constructor
    · intro hFine other hOther
      rw [hObject] at hOther
      cases hOther
      exact hFine
    · intro hFine
      exact hFine obj hObject

/- The checks of the products of an upload. -/
theorem ranged_of_checkUpload
    {product : Value}
    {data : Fields}
    (hOk : checkUpload codec product = .ok data) :
    Ranged data := by
  rcases Fallible.of_bind_ok hOk with ⟨obj, _, hOk⟩
  rcases Fallible.of_bind_ok hOk with ⟨_, _, hOk⟩
  rcases Fallible.of_bind_ok hOk with ⟨_, _, hOk⟩
  rcases Fallible.of_bind_ok hOk with ⟨_, hRanged, hOk⟩
  rcases Fallible.of_bind_ok hOk with ⟨_, _, hOk⟩
  rcases Fallible.of_bind_ok hOk with
    ⟨described, hDescribed, hOk⟩
  cases hOk
  have hRanges :=
    of_checkPriceAndStock (of_mapError_ok hRanged)
  apply ranged_congr _ hRanges
  intro field hField
  have hOther : field ≠ "name" ∧ field ≠ "description" := by
    revert field
    decide
  have hSame : described.lookup field =
      obj.lookup field := by
    unfold sanitizeDescription at hDescribed
    split at hDescribed
    · cases hDescribed
      rfl
    · rcases Fallible.of_bind_ok hDescribed with
        ⟨_, _, hDescribed⟩
      cases hDescribed
      rw [Value.lookup_insertField, if_neg hOther.2]
  rw [Value.lookup_insertField, if_neg hOther.1, hSame]

theorem ranged_valid
    (codec : Codec)
    (req : BulkUploadRequest) :
    ∀ entry ∈ req.valid codec, Ranged entry.2 := by
  intro entry hEntry
  rcases List.mem_filterMap.mp hEntry with
    ⟨product, _, hValid⟩
  split at hValid
  · cases hValid
  next obj hOk =>
    cases hValid
    exact ranged_of_checkUpload hOk

theorem intact_upload_request_iff
    (hIntact : Intact w)
    (req : BulkUploadRequest) :
    Intact (bulkUploadProducts codec env auth req w).2 ↔
      ((checkBulkUpload env auth req).isOk = true →
        UploadsMeet env Integers
          (fun id => (w.rows id).isSome = true)
          (req.valid codec)) := by
  apply kept_upload_request_iff codec env auth
    fits_of_sound hIntact
  intro entry hEntry
  have hAmounts :=
    amounts_stampUploaded env auth.userId entry.2
  have hRanged := ranged_congr
    (fun field hField => (hAmounts field hField).symm)
    (ranged_valid codec req entry hEntry)
  rw [sound_create_iff
    (seller_stampUploaded auth.userId entry.2) hRanged,
    integers_congr hAmounts]

theorem intact_update_request_iff
    (hIntact : Intact w)
    (req : UpdateProductRequest) :
    Intact (updateProduct codec env auth req w).2 ↔
      ∀ obj, req.productData = .object obj →
        (checkUpdate codec env auth req w).isOk = true →
        env.writeFault 0 = none →
        ∀ p, w.product? req.productId = some p →
          Keeps obj p := by
  cases hCheck : checkUpdate codec env auth req w with
  | error e =>
    constructor
    · intro _ obj _ hOk
      cases hOk
    · intro _
      unfold updateProduct
      rw [world_patchProduct, hCheck]
      exact hIntact
  | ok patch =>
    rcases of_checkUpdate hIntact hCheck with
      ⟨obj, hObject, p, hRow, hChecked⟩
    have hUpdate := kept_patch_iff env auth
      fits_of_sound hIntact req.productId
      (checkUpdate codec env auth req w) id .updated
      (Keeps obj)
      (by
        intro other hOther q hSome
        rw [hCheck] at hOther
        cases hOther
        rw [hRow] at hSome
        cases hSome
        exact sound_iff_keeps (hIntact.stored _ p hRow)
          hChecked)
    unfold Intact updateProduct
    rw [hUpdate, hCheck]
    constructor
    · intro hFine other hOther
      rw [hObject] at hOther
      cases hOther
      exact hFine
    · intro hFine
      exact hFine obj hObject

theorem intact_bulk_request_iff
    (hIntact : Intact w)
    (req : BulkUpdateRequest) :
    Intact (bulkUpdateProducts codec env auth req w).2 ↔
      ∀ obj, req.update = .object obj →
        (checkBulkUpdate codec env auth req w).isOk = true →
        ∀ entry ∈ req.productIds.zipIdx,
          env.writeFault entry.2 = none →
          ∀ p, w.product? entry.1 = some p →
            Keeps obj p := by
  cases hUpdate : req.update with
  | object obj =>
    have hBulk := kept_bulk_request_iff codec env auth
      fits_of_sound hIntact req
      (fun patch p => Checked auth obj patch p) (Keeps obj)
      (by
        intro patch hCheck
        rcases of_checkBulkUpdate hIntact hCheck with
          ⟨other, hOther, hChecked⟩
        rw [hUpdate] at hOther
        cases hOther
        exact hChecked)
      (fun patch p hFits hChecked =>
        sound_iff_keeps hFits hChecked)
      (fun patch p hChecked => hChecked.again)
      (fun patch p hChecked hKeeps => hKeeps.again hChecked)
    unfold Intact
    rw [hBulk]
    constructor
    · intro hFine other hOther
      cases hOther
      exact hFine
    · intro hFine
      exact hFine obj rfl
  | _ =>
    have hRefused : ∀ patch,
        checkBulkUpdate codec env auth req w ≠
          .ok patch := by
      intro patch hCheck
      rcases of_checkBulkUpdate hIntact hCheck with
        ⟨other, hOther, _⟩
      rw [hUpdate] at hOther
      cases hOther
    constructor
    · intro _ other hOther
      cases hOther
    · intro _
      unfold bulkUpdateProducts
      cases hCheck : checkBulkUpdate codec env auth req w with
      | error e => exact hIntact
      | ok patch => exact absurd hCheck (hRefused patch)

/- Who may write after the check of the owner. -/
theorem writer_of_read
    (hIntact : Intact w)
    {id : String}
    (hRead : ∃ p message, w.product? id = some p ∧
      checkOwner auth p message = .ok ())
    (patch : Fields) :
    ∀ p, w.product? id = some p → MayWrite auth patch p := by
  rcases hRead with ⟨q, message, hRow, hOwner⟩
  intro p hSome
  rw [hRow] at hSome
  cases hSome
  exact writer_of_checkOwner (hIntact.stored _ q hRow) hOwner
    patch

/- A patch with none of the fields that are checked. -/
theorem gentle_of_apart
    {patch : Fields}
    (hApart : ∀ field ∈ governedFields,
      patch.lookup field = none)
    (p : Product) :
    Ranged patch ∧ Gentle patch p := by
  have hSeller := hApart "sellerId" (by decide)
  have hPrice := hApart "priceCents" (by decide)
  have hStock := hApart "stockQuantity" (by decide)
  have hStatus := hApart "lifecycleStatus" (by decide)
  refine ⟨⟨?_, ?_⟩, ?_, ?_, ?_⟩
  · intro price hInt
    unfold int? at hInt
    rw [hPrice] at hInt
    cases hInt
  · intro stock hInt
    unfold int? at hInt
    rw [hStock] at hInt
    cases hInt
  · intro v hValue
    rw [hSeller] at hValue
    cases hValue
  · intro field hField v hValue
    rw [hApart field (governed_of_amount field hField)]
      at hValue
    cases hValue
  · intro v hValue
    rw [hStatus] at hValue
    cases hValue

theorem intact_images_request
    (hIntact : Intact w)
    (req : UploadImagesRequest) :
    Intact (uploadImages env auth req w).2 := by
  apply (kept_patch_iff env auth fits_of_sound hIntact
    req.productId (checkImages env auth req w) _ _
    (fun _ => True) ?_).mpr
  · intro _ _ p _
    trivial
  · intro patch hCheck p hRow
    rcases of_checkImages hCheck with ⟨rfl, hRead⟩
    have hApart : ∀ field ∈ governedFields,
        List.lookup field
          [("imageUrls", strings req.imageUrls),
            ("updatedAt", .string env.now)] = none := by
      simp [governedFields]
    have hGentle := gentle_of_apart hApart p
    have hSound := sound_merge_iff (hIntact.stored _ p hRow)
      (writer_of_read hIntact hRead _ p hRow) hGentle.1
    exact ⟨fun _ => trivial, fun _ => hSound.mpr hGentle.2⟩

/- The patch of a removal. -/
theorem gentle_archive_iff
    {patch : Fields}
    (hStatus : patch.lookup "lifecycleStatus" = archived)
    (hApart : ∀ field ∈ "sellerId" :: amountFields,
      patch.lookup field = none)
    (p : Product) :
    Ranged patch ∧ (Gentle patch p ↔ Archivable p) := by
  have hSeller := hApart "sellerId" (by decide)
  have hPrice := hApart "priceCents" (by decide)
  have hStock := hApart "stockQuantity" (by decide)
  refine ⟨⟨?_, ?_⟩, ?_⟩
  · intro price hInt
    unfold int? at hInt
    rw [hPrice] at hInt
    cases hInt
  · intro stock hInt
    unfold int? at hInt
    rw [hStock] at hInt
    cases hInt
  · constructor
    · rintro ⟨_, _, hLeads⟩
      rcases hLeads _ hStatus with
        hSame | ⟨s, t, hBefore, hAfter, hOk⟩
      · exact ⟨"archived", by rw [hSame]; rfl,
          validateLifecycleTransition_self _⟩
      · cases hAfter
        exact ⟨s, hBefore, hOk⟩
    · rintro ⟨s, hBefore, hOk⟩
      refine ⟨?_, ?_, ?_⟩
      · intro v hValue
        rw [hSeller] at hValue
        cases hValue
      · intro field hField v hValue
        rw [hApart field (List.mem_cons_of_mem _ hField)]
          at hValue
        cases hValue
      · intro v hValue
        rw [hStatus] at hValue
        cases hValue
        exact .inr ⟨s, "archived", hBefore, rfl, hOk⟩

theorem intact_delete_request_iff
    (hIntact : Intact w)
    (req : DeleteProductRequest) :
    Intact (deleteProduct env auth req w).2 ↔
      ((checkDelete env auth req w).isOk = true →
        env.writeFault 0 = none →
        ∀ p, w.product? req.productId = some p →
          Archivable p) := by
  apply kept_patch_iff env auth fits_of_sound hIntact
  intro patch hCheck p hRow
  rcases of_checkDelete hCheck with
    ⟨⟨userId, hPatch⟩, hRead⟩
  have hStatus :
      patch.lookup "lifecycleStatus" = archived := by
    rw [hPatch]
    rfl
  have hApart : ∀ field ∈ "sellerId" :: amountFields,
      patch.lookup field = none := by
    rw [hPatch]
    simp [amountFields]
  have hGentle := gentle_archive_iff hStatus hApart p
  rw [sound_merge_iff (hIntact.stored _ p hRow)
    (writer_of_read hIntact hRead patch p hRow) hGentle.1]
  exact hGentle.2

/- Anyone may count a product among the favorites. -/
theorem intact_setFavoriteCount
    (hIntact : Intact w)
    (id : String)
    (count : Int) :
    Intact (setFavoriteCount env auth id count w) := by
  have hApart : ∀ field ∈ governedFields, List.lookup field
        [("favoriteCount", intValue count),
          ("updatedAt", .string env.now)] = none := by
    simp [governedFields]
  apply (kept_update_iff fits_of_sound env hIntact _
    (fun _ => True) ?_ 0).mpr
  · intro _ p _
    trivial
  · intro p hRow
    have hGentle := gentle_of_apart hApart p
    have hSame : SameOffer p (p.merge
          [("favoriteCount", intValue count),
            ("updatedAt", .string env.now)]) := by
      intro field hField
      simp only [favoriteFields, List.mem_cons,
        List.not_mem_nil, or_false, not_or] at hField
      rw [lookup_merge]
      simp [Value.lookup_field, hField.1, hField.2]
    have hSound := sound_merge_iff (hIntact.stored _ p hRow)
      (show MayWrite auth _ p from .inr (.inr hSame))
      hGentle.1
    exact ⟨fun _ => trivial, fun _ => hSound.mpr hGentle.2⟩

theorem intact_favorite_request
    (hIntact : Intact w)
    (req : ToggleFavoriteRequest) :
    Intact (toggleFavorite env auth req w).2 := by
  unfold toggleFavorite
  split
  · exact hIntact
  · split
    · exact intact_setFavoriteCount hIntact _ _
    · split
      · exact hIntact
      · exact intact_setFavoriteCount hIntact _ _

/- One request keeps the invariants exactly if it is harmless. -/
theorem intact_step_iff
    (hIntact : Intact w)
    (call : Call) :
    Intact (step codec w call) ↔ Harmless codec w call := by
  rcases call with ⟨auth, env, request⟩
  cases request with
  | createProductAtomic req =>
    exact intact_create_request_iff hIntact req
  | bulkUploadProducts req =>
    exact intact_upload_request_iff hIntact req
  | updateProduct req =>
    exact intact_update_request_iff hIntact req
  | bulkUpdateProducts req =>
    exact intact_bulk_request_iff hIntact req
  | uploadImages req =>
    exact ⟨fun _ => trivial,
      fun _ => intact_images_request hIntact req⟩
  | deleteProduct req =>
    exact intact_delete_request_iff hIntact req
  | toggleFavorite req =>
    exact ⟨fun _ => trivial,
      fun _ => intact_favorite_request hIntact req⟩

/-
  The invariants hold after every part of a run exactly if
  all of its requests are harmless.
-/
theorem always_intact_iff
    (codec : Codec)
    (calls : List Call) :
    (∀ past, past <+: calls →
      Intact (History.after (step codec) World.empty past)) ↔
      ∀ past call, past ++ [call] <+: calls → Harmless codec
          (History.after (step codec) World.empty past)
          call := by
  apply History.always_iff (P := fun past =>
    Intact (History.after (step codec) World.empty past))
  · exact kept_empty Fits Sound
  · intro past call hIntact
    rw [History.after_append]
    exact intact_step_iff hIntact call

/- A seller, and the requests of one on a product of theirs. -/
def plainCodec : Codec where
  nutritionFacts _ := .error "unexpected"
  foodMetadata _ := .error "unexpected"
  productSpecs _ := .error "unexpected"
  sanitizeHtml := id

def sellerCall (request : Request) : Call where
  auth := { userId := "ann", roles := ["seller"] }
  env :=
    { users := fun _ => .ok (.object
        [("roles", .array [.string "seller"])])
      now := "2025-01-01T00:00:00Z"
      uuid := fun _ => "p" }
  request := request

def patchCall (fields : Fields) : Call :=
  sellerCall (.updateProduct ⟨"p", "ann", .object fields⟩)

/-
  A state that is null lets an archived product be active
  again, and a price and a seller are taken as they come.
-/
def sellAgain : List Call :=
  [sellerCall (.createProductAtomic
      ⟨"ann", .object [("priceCents", intValue 100)], []⟩),
    sellerCall (.deleteProduct ⟨"p", "ann"⟩),
    patchCall [("lifecycleStatus", .null)],
    patchCall [("lifecycleStatus", .string "active"),
        ("priceCents", .string "free"),
        ("sellerId", .string "bob")]]

theorem sold_again :
    (((History.after (step plainCodec) World.empty
        (sellAgain.take 2)).rows "p").map (fun p =>
          (p.status, p.seller)) = some (archived, "ann") ∧
      ((History.after (step plainCodec) World.empty
        sellAgain).rows "p").map (fun p =>
          (p.status, p.seller, p.creator)) =
        some (some (.string "active"), "bob", "ann")) ∧
    ¬ ∀ (codec : Codec) (calls past : List Call),
      past <+: calls → Intact
          (History.after (step codec) World.empty past) := by
  constructor
  · decide +kernel
  · intro hAll
    have hIntact := hAll plainCodec sellAgain sellAgain
      (List.prefix_refl _)
    have hPrice :
        ((History.after (step plainCodec) World.empty
          sellAgain).rows "p").map (fun p =>
            p.data.lookup "priceCents") =
          some (some (.string "free")) := by
      decide +kernel
    rcases Option.map_eq_some_iff.mp hPrice with
      ⟨p, hRow, hFree⟩
    rcases (hIntact.stored "p" p hRow).price _ hFree with
      ⟨n, hInt, _⟩
    cases hInt

end Orignabase.Products
