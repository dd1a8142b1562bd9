import Orignabase.Products.Writers

/-
  What the requests on products do to invariants of the
  stored products and of the statements that change them.

  Key definitions include:
    * `Kept`
    * `UploadsMeet`

  Main results:
    * `kept_create_request_iff`
    * `kept_upload_request_iff`
    * `kept_patch_iff`
    * `kept_bulk_request_iff`
-/

--------
-- Fields of Stored Products
--------

namespace Orignabase.Products

variable {env : Env}

theorem lookup_merge
    (p : Product)
    (patch : Fields)
    (field : String) :
    (p.merge patch).data.lookup field =
      (patch.lookup field).or (p.data.lookup field) :=
  Value.lookup_merge p.data patch field

variable {field : String}

theorem lookup_stampCreated
    (hOther :
      field ∉ ["updatedAt", "createdAt", "sellerId"])
    (userId : String)
    (obj : Fields) :
    (stampCreated env userId obj).lookup field =
      obj.lookup field := by
  simp only [List.mem_cons, List.not_mem_nil, or_false,
    not_or] at hOther
  unfold stampCreated
  rw [Value.lookup_insertField, if_neg hOther.1,
    Value.lookup_insertField, if_neg hOther.2.1,
    Value.lookup_insertField, if_neg hOther.2.2]

theorem seller_stampCreated
    (userId : String)
    (obj : Fields) :
    (stampCreated env userId obj).lookup "sellerId" =
      some (.string userId) := by
  unfold stampCreated
  rw [Value.lookup_insertField, if_neg (by decide),
    Value.lookup_insertField, if_neg (by decide),
    Value.lookup_insertField, if_pos rfl]

theorem lookup_withImages
    (hOther : field ≠ "imageUrls")
    (data : Fields) :
    (withImages data).lookup field = data.lookup field := by
  unfold withImages
  split
  · rfl
  · rw [Value.lookup_insertField, if_neg hOther]

theorem lookup_stampUploaded
    (hOther : field ∉ ["imageUrls", "updatedAt",
      "createdAt", "sellerId"])
    (userId : String)
    (obj : Fields) :
    (stampUploaded env userId obj).lookup field =
      obj.lookup field := by
  rw [List.mem_cons, not_or] at hOther
  unfold stampUploaded
  rw [lookup_withImages hOther.1,
    lookup_stampCreated hOther.2]

theorem seller_stampUploaded
    (userId : String)
    (obj : Fields) :
    (stampUploaded env userId obj).lookup "sellerId" =
      some (.string userId) := by
  unfold stampUploaded
  rw [lookup_withImages (by decide), seller_stampCreated]

theorem newId_stampUploaded
    (k : Nat)
    (userId : String)
    (obj : Fields) :
    newId env k (stampUploaded env userId obj) =
      newId env k obj := by
  unfold newId text?
  rw [lookup_stampUploaded (by decide)]

end Orignabase.Products

--------
-- Single Statements
--------

namespace Orignabase.Products

/-
  All stored products satisfy `Row`, and all statements that
  changed one so far satisfy `Stmt`.
-/
structure Kept
    (Row : Product → Prop)
    (Stmt : Write → Prop)
    (w : World) : Prop where
  stored : ∀ id p, w.rows id = some p → Row p
  written : ∀ write ∈ w.writes, Stmt write

theorem kept_empty
    (Row : Product → Prop)
    (Stmt : Write → Prop) :
    Kept Row Stmt World.empty where
  stored id p hRow := by cases hRow
  written write hWrite := by cases hWrite

/- What a statement makes of the products. -/
inductive Follows (w : World) : World → Prop
  | same : Follows w w
  | put
      (auth : AuthContext)
      (id : String)
      (p : Product) : Follows w (w.put auth id p)

theorem Follows.writes_subset
    {w w' : World}
    (hFollows : Follows w w') :
    w.writes ⊆ w'.writes := by
  cases hFollows with
  | same => exact List.Subset.refl _
  | put auth id p => exact List.subset_cons_self _ _

theorem follows_createDocument
    (env : Env)
    (auth : AuthContext)
    (k : Nat)
    (creator : String)
    (data : Fields)
    (w : World) :
    Follows w
      (createDocument env k auth creator data w).2 := by
  unfold createDocument
  split
  · exact .same
  · split
    · exact .same
    · exact .put ..

theorem follows_updateDocument
    (env : Env)
    (auth : AuthContext)
    (k : Nat)
    (id : String)
    (patch : Fields)
    (w : World) :
    Follows w (updateDocument env k auth id patch w).2 := by
  unfold updateDocument
  split
  · exact .same
  · split
    · exact .same
    · exact .put ..

variable {Row : Product → Prop} {Stmt : Write → Prop}
variable (hAfter : ∀ write, Stmt write → Row write.after)
variable {env : Env} {auth : AuthContext} {w : World}

include hAfter

/- A statement keeps the invariants if it satisfies its own. -/
theorem kept_put_iff
    (hKept : Kept Row Stmt w)
    (auth : AuthContext)
    (id : String)
    (p : Product) :
    Kept Row Stmt (w.put auth id p) ↔
      Stmt ⟨auth, w.rows id, p⟩ := by
  constructor
  · intro hPut
    exact hPut.written _ List.mem_cons_self
  · intro hStmt
    constructor
    · intro other q hRow
      change Function.update w.rows id (some p) other =
        some q at hRow
      rw [Function.update_apply] at hRow
      split at hRow
      · cases hRow
        exact hAfter _ hStmt
      · exact hKept.stored other q hRow
    · intro write hWrite
      rcases List.mem_cons.mp hWrite with rfl | hBefore
      · exact hStmt
      · exact hKept.written write hBefore

/- What is kept later was kept after every statement. -/
theorem Follows.kept
    {w' later : World}
    (hFollows : Follows w w')
    (hKept : Kept Row Stmt w)
    (hLater : Kept Row Stmt later)
    (hWrites : w'.writes ⊆ later.writes) :
    Kept Row Stmt w' := by
  cases hFollows with
  | same => exact hKept
  | put auth id p =>
    apply (kept_put_iff hAfter hKept auth id p).mpr
    exact hLater.written _ (hWrites List.mem_cons_self)

variable (env)

/- A statement that fails changes nothing. -/
theorem kept_create_iff
    (hKept : Kept Row Stmt w)
    {creator : String}
    {data : Fields}
    {Meets : Prop}
    (hStmt : Stmt ⟨auth, none, ⟨data, creator⟩⟩ ↔ Meets)
    (k : Nat) :
    Kept Row Stmt
        (createDocument env k auth creator data w).2 ↔
      (env.writeFault k = none →
        w.rows (newId env k data) = none → Meets) := by
  unfold createDocument
  cases hFault : env.writeFault k with
  | some e =>
    constructor
    · intro _ hNone
      cases hNone
    · intro _
      exact hKept
  | none =>
    cases hRow : w.rows (newId env k data) with
    | some p =>
      constructor
      · intro _ _ hNone
        cases hNone
      · intro _
        exact hKept
    | none =>
      have hPut := kept_put_iff hAfter hKept auth
        (newId env k data) ⟨data, creator⟩
      rw [hRow] at hPut
      rw [hPut, hStmt]
      exact ⟨fun h _ _ => h, fun h => h rfl rfl⟩

theorem kept_update_iff
    (hKept : Kept Row Stmt w)
    (id : String)
    {patch : Fields}
    (Meets : Product → Prop)
    (hStmt : ∀ p, w.product? id = some p →
      (Stmt ⟨auth, some p, p.merge patch⟩ ↔ Meets p))
    (k : Nat) :
    Kept Row Stmt
        (updateDocument env k auth id patch w).2 ↔
      (env.writeFault k = none →
        ∀ p, w.product? id = some p → Meets p) := by
  unfold updateDocument
  cases hFault : env.writeFault k with
  | some e =>
    constructor
    · intro _ hNone
      cases hNone
    · intro _
      exact hKept
  | none =>
    cases hRow : w.product? id with
    | none =>
      constructor
      · intro _ _ p hSome
        cases hSome
      · intro _
        exact hKept
    | some p =>
      have hPut := kept_put_iff hAfter hKept auth
        (docId "products" id) (p.merge patch)
      have hStored := hRow
      change w.rows (docId "products" id) = some p
        at hStored
      rw [hStored, hStmt p hRow] at hPut
      constructor
      · intro hDone _ q hSome
        cases hSome
        exact hPut.mp hDone
      · intro hMeets
        exact hPut.mpr (hMeets rfl p rfl)

end Orignabase.Products

--------
-- Several Statements
--------

namespace Orignabase.Products

variable (env : Env) (auth : AuthContext)

theorem uploadProduct_world
    (u : Upload)
    (entry : Nat × Fields) :
    (uploadProduct env auth u entry).world =
      (createDocument env entry.1 auth auth.userId
        (stampUploaded env auth.userId entry.2)
        u.world).2 := by
  unfold uploadProduct
  split
  next hDone => rw [hDone]
  next hDone => rw [hDone]

theorem updateOne_world
    (patch : Fields)
    (s : Nat × World)
    (entry : String × Nat) :
    (updateOne env auth patch s entry).2 =
      (updateDocument env entry.2 auth entry.1 patch
        s.2).2 := by
  unfold updateOne
  split
  next hDone => rw [hDone]
  next hDone => rw [hDone]

theorem writes_uploads
    (entries : List (Nat × Fields))
    (u : Upload) :
    u.world.writes ⊆
      (entries.foldl (uploadProduct env auth)
        u).world.writes := by
  induction entries generalizing u with
  | nil => exact List.Subset.refl _
  | cons entry rest ih =>
    have hStep := (follows_createDocument env auth entry.1 auth.userId
      (stampUploaded env auth.userId entry.2)
      u.world).writes_subset
    rw [← uploadProduct_world] at hStep
    exact List.Subset.trans hStep (ih _)

theorem writes_updates
    (patch : Fields)
    (entries : List (String × Nat))
    (s : Nat × World) :
    s.2.writes ⊆
      (entries.foldl (updateOne env auth patch)
        s).2.writes := by
  induction entries generalizing s with
  | nil => exact List.Subset.refl _
  | cons entry rest ih =>
    have hStep := (follows_updateDocument env auth entry.2 entry.1 patch
      s.2).writes_subset
    rw [← updateOne_world] at hStep
    exact List.Subset.trans hStep (ih _)

variable {w : World}

/- The ids that are taken after a product was created. -/
theorem taken_createDocument
    {taken : String → Prop}
    (hTaken : ∀ id, taken id ↔ (w.rows id).isSome = true)
    (k : Nat)
    (creator : String)
    (data : Fields)
    (id : String) :
    (taken id ∨ env.writeFault k = none ∧
      id = newId env k data) ↔
      ((createDocument env k auth creator data w).2.rows
        id).isSome = true := by
  unfold createDocument
  rw [hTaken]
  cases hFault : env.writeFault k with
  | some e => simp
  | none =>
    cases hRow : w.rows (newId env k data) with
    | some p =>
      constructor
      · rintro (hSome | ⟨_, rfl⟩)
        · exact hSome
        · rw [hRow]
          rfl
      · exact .inl
    | none =>
      change _ ↔ (Function.update w.rows
        (newId env k data) (some _) id).isSome = true
      rw [Function.update_apply]
      by_cases hSame : id = newId env k data
      · simp [hSame]
      · simp [hSame]

/- The products after one was changed. -/
theorem product_updateDocument
    (k : Nat)
    (id : String)
    (patch : Fields)
    {other : String}
    {p : Product}
    (hRow : w.product? other = some p) :
    (updateDocument env k auth id patch w).2.product? other =
        some p ∨
      env.writeFault k = none ∧ w.product? id = some p ∧
        (updateDocument env k auth id patch w).2.product?
          other = some (p.merge patch) := by
  unfold updateDocument
  cases hFault : env.writeFault k with
  | some e => exact .inl hRow
  | none =>
    cases hFound : w.product? id with
    | none => exact .inl hRow
    | some q =>
      unfold World.product? World.put at *
      simp only [Function.update_apply]
      by_cases hSame :
          docId "products" other = docId "products" id
      · rw [hSame, hFound] at hRow
        cases hRow
        rw [if_pos hSame]
        exact .inr ⟨trivial, rfl, rfl⟩
      · rw [if_neg hSame]
        exact .inl hRow

/- No product appears or vanishes. -/
theorem product_before_update
    {k : Nat}
    {id other : String}
    {patch : Fields}
    {q : Product}
    (hRow : (updateDocument env k auth id patch w).2.product?
      other = some q) :
    ∃ p, w.product? other = some p := by
  cases hBefore : w.product? other with
  | some p => exact ⟨p, rfl⟩
  | none =>
    unfold updateDocument at hRow
    split at hRow
    · rw [hBefore] at hRow
      cases hRow
    · split at hRow
      · rw [hBefore] at hRow
        cases hRow
      next p hFound =>
        unfold World.product? World.put at *
        simp only [Function.update_apply] at hRow
        split at hRow
        next hSame =>
          rw [hSame, hFound] at hBefore
          cases hBefore
        next =>
          rw [hBefore] at hRow
          cases hRow


/-
  Every product of an upload that is stored satisfies `Ok`.
  An id that is taken is not stored again.
-/
def UploadsMeet (Ok : Fields → Prop) :
    (String → Prop) → List (Nat × Fields) → Prop
  | _, [] => True
  | taken, (k, data) :: rest =>
    (env.writeFault k = none → ¬ taken (newId env k data) →
      Ok data) ∧
    UploadsMeet Ok
      (fun id => taken id ∨
        env.writeFault k = none ∧ id = newId env k data)
      rest

section

variable {Row : Product → Prop} {Stmt : Write → Prop}
variable (hAfter : ∀ write, Stmt write → Row write.after)

include hAfter

theorem kept_uploads_iff
    {Ok : Fields → Prop}
    {entries : List (Nat × Fields)}
    (hStmt : ∀ entry ∈ entries, (Stmt ⟨auth, none,
        ⟨stampUploaded env auth.userId entry.2,
          auth.userId⟩⟩ ↔ Ok entry.2))
    {taken : String → Prop}
    {u : Upload}
    (hTaken : ∀ id,
      taken id ↔ (u.world.rows id).isSome = true)
    (hKept : Kept Row Stmt u.world) :
    Kept Row Stmt
        (entries.foldl (uploadProduct env auth) u).world ↔
      UploadsMeet env Ok taken entries := by
  induction entries generalizing taken u with
  | nil => exact ⟨fun _ => trivial, fun _ => hKept⟩
  | cons entry rest ih =>
    rcases entry with ⟨k, data⟩
    have hStmts := List.forall_mem_cons.mp hStmt
    have hCreate := kept_create_iff hAfter env hKept
      hStmts.1 k
    rw [newId_stampUploaded,
      ← uploadProduct_world env auth u (k, data)] at hCreate
    have hNext : ∀ id, (taken id ∨ env.writeFault k = none ∧
          id = newId env k data) ↔
          ((uploadProduct env auth u (k, data)).world.rows
            id).isSome = true := by
      intro id
      rw [uploadProduct_world,
        ← newId_stampUploaded k auth.userId]
      exact taken_createDocument env auth hTaken k
        auth.userId _ id
    have hFree :
        (¬ taken (newId env k data)) ↔
          u.world.rows (newId env k data) = none := by
      rw [hTaken, Option.not_isSome_iff_eq_none]
    unfold UploadsMeet
    rw [List.foldl_cons, hFree]
    constructor
    · intro hDone
      have hHead : Kept Row Stmt
          (uploadProduct env auth u (k, data)).world := by
        have hFollows := follows_createDocument env auth k
          auth.userId
          (stampUploaded env auth.userId data) u.world
        rw [← uploadProduct_world env auth u (k, data)]
          at hFollows
        exact hFollows.kept hAfter hKept hDone
          (writes_uploads env auth rest _)
      exact ⟨hCreate.mp hHead,
        (ih hStmts.2 hNext hHead).mp hDone⟩
    · rintro ⟨hHead, hRest⟩
      exact (ih hStmts.2 hNext (hCreate.mpr hHead)).mpr
        hRest

/-
  The same patch over several products.  What was checked of
  a product can be checked of it once more.
-/
theorem kept_updates_iff
    {patch : Fields}
    {Checked Meets : Product → Prop}
    (hStmt : ∀ p, Row p → Checked p →
      (Stmt ⟨auth, some p, p.merge patch⟩ ↔ Meets p))
    (hAgain : ∀ p, Checked p → Checked (p.merge patch))
    (hMeets : ∀ p, Checked p → Meets p →
      Meets (p.merge patch))
    {entries : List (String × Nat)}
    {s : Nat × World}
    (hChecked : ∀ entry ∈ entries, ∀ p,
      s.2.product? entry.1 = some p → Checked p)
    (hKept : Kept Row Stmt s.2) :
    Kept Row Stmt
        (entries.foldl (updateOne env auth patch) s).2 ↔
      ∀ entry ∈ entries, env.writeFault entry.2 = none →
        ∀ p, s.2.product? entry.1 = some p → Meets p := by
  induction entries generalizing s with
  | nil =>
    constructor
    · intro _ entry hEntry
      cases hEntry
    · intro _
      exact hKept
  | cons entry rest ih =>
    have hSplit := List.forall_mem_cons.mp hChecked
    rcases hSplit with ⟨hCheckedHead, hCheckedRest⟩
    have hWorld := updateOne_world env auth patch s entry
    have hUpdate := kept_update_iff hAfter env hKept
      entry.1 Meets
      (fun p hRow => hStmt p (hKept.stored _ p hRow)
        (hCheckedHead p hRow)) entry.2
    rw [← hWorld] at hUpdate
    -- what is checked stays checked after the statement
    have hNext : ∀ next ∈ rest, ∀ q,
        (updateOne env auth patch s entry).2.product?
          next.1 = some q → Checked q := by
      intro next hMember q hRow
      rw [hWorld] at hRow
      rcases product_before_update env auth hRow with
        ⟨p, hBefore⟩
      have hP := hCheckedRest next hMember p hBefore
      rcases product_updateDocument env auth entry.2
          entry.1 patch hBefore with
        hSame | ⟨_, _, hMerged⟩
      · rw [hSame] at hRow
        cases hRow
        exact hP
      · rw [hMerged] at hRow
        cases hRow
        exact hAgain p hP
    rw [List.foldl_cons, List.forall_mem_cons]
    constructor
    · intro hDone
      have hHead : Kept Row Stmt
          (updateOne env auth patch s entry).2 := by
        have hFollows := follows_updateDocument env auth
          entry.2 entry.1 patch s.2
        rw [← hWorld] at hFollows
        exact hFollows.kept hAfter hKept hDone
          (writes_updates env auth patch rest _)
      refine ⟨hUpdate.mp hHead, ?_⟩
      intro next hMember hFault p hRow
      rcases product_updateDocument env auth entry.2
          entry.1 patch hRow with
        hSame | ⟨hFree, hFound, _⟩
      · rw [← hWorld] at hSame
        exact (ih hNext hHead).mp hDone next hMember
          hFault p hSame
      · exact hUpdate.mp hHead hFree p hFound
    · rintro ⟨hMeetsHead, hMeetsRest⟩
      have hHead := hUpdate.mpr hMeetsHead
      apply (ih hNext hHead).mpr
      intro next hMember hFault q hRow
      rw [hWorld] at hRow
      rcases product_before_update env auth hRow with
        ⟨p, hBefore⟩
      have hMet := hMeetsRest next hMember hFault p hBefore
      rcases product_updateDocument env auth entry.2
          entry.1 patch hBefore with
        hSame | ⟨_, _, hMerged⟩
      · rw [hSame] at hRow
        cases hRow
        exact hMet
      · rw [hMerged] at hRow
        cases hRow
        exact hMeets p (hCheckedRest next hMember p hBefore)
          hMet

end

end Orignabase.Products

--------
-- Requests
--------

namespace Orignabase.Products

variable {codec : Codec} {env : Env} {auth : AuthContext}
variable {w : World}

/- A request that is refused changes nothing. -/
theorem world_patchProduct
    (id : String)
    (checked : Except Error Fields)
    (failed : Error → Error)
    (response : Response) :
    (patchProduct env auth id checked failed response w).2 =
      match checked with
      | .error _ => w
      | .ok patch =>
        (updateDocument env 0 auth id patch w).2 := by
  unfold patchProduct
  cases checked with
  | error e => rfl
  | ok patch =>
    cases hDone : updateDocument env 0 auth id patch w with
    | mk result w' =>
      cases result <;> simp [hDone]

theorem world_createProductAtomic
    (req : CreateProductAtomicRequest) :
    (createProductAtomic codec env auth req w).2 =
      match checkCreate codec env auth req with
      | .error _ => w
      | .ok data =>
        (createDocument env 0 auth auth.userId data w).2 := by
  unfold createProductAtomic
  cases checkCreate codec env auth req with
  | error e => rfl
  | ok data =>
    dsimp only
    split
    next hDone => rw [hDone]
    next hDone => rw [hDone]

section

variable {Row : Product → Prop} {Stmt : Write → Prop}
variable (hAfter : ∀ write, Stmt write → Row write.after)

include hAfter

variable (codec env auth)

theorem kept_create_request_iff
    (hKept : Kept Row Stmt w)
    (req : CreateProductAtomicRequest)
    (id : String)
    (Meets : Prop)
    (hId : ∀ data, checkCreate codec env auth req = .ok data →
      newId env 0 data = id)
    (hStmt : ∀ data,
      checkCreate codec env auth req = .ok data →
      (Stmt ⟨auth, none, ⟨data, auth.userId⟩⟩ ↔ Meets)) :
    Kept Row Stmt
        (createProductAtomic codec env auth req w).2 ↔
      ((checkCreate codec env auth req).isOk = true →
        env.writeFault 0 = none → w.rows id = none →
        Meets) := by
  rw [world_createProductAtomic]
  cases hCheck : checkCreate codec env auth req with
  | error e =>
    constructor
    · intro _ hOk
      cases hOk
    · intro _
      exact hKept
  | ok data =>
    have hCreate := kept_create_iff hAfter env hKept
      (hStmt data hCheck) 0
    rw [hId data hCheck] at hCreate
    exact hCreate.trans ⟨fun h _ => h, fun h => h rfl⟩

theorem kept_upload_request_iff
    (hKept : Kept Row Stmt w)
    (req : BulkUploadRequest)
    {Ok : Fields → Prop}
    (hStmt : ∀ entry ∈ req.valid codec, (Stmt ⟨auth, none,
        ⟨stampUploaded env auth.userId entry.2,
          auth.userId⟩⟩ ↔ Ok entry.2)) :
    Kept Row Stmt
        (bulkUploadProducts codec env auth req w).2 ↔
      ((checkBulkUpload env auth req).isOk = true →
        UploadsMeet env Ok
          (fun id => (w.rows id).isSome = true)
          (req.valid codec)) := by
  unfold bulkUploadProducts
  cases hCheck : checkBulkUpload env auth req with
  | error e =>
    constructor
    · intro _ hOk
      cases hOk
    · intro _
      exact hKept
  | ok userId =>
    have hUploads := kept_uploads_iff env auth hAfter hStmt
      (u := ⟨[], 0, req.errors codec, w⟩)
      (fun id => Iff.rfl) hKept
    dsimp only
    cases hValid : req.valid codec with
    | nil => exact ⟨fun _ _ => trivial, fun _ => hKept⟩
    | cons entry rest =>
      rw [hValid] at hUploads
      exact hUploads.trans ⟨fun h _ => h, fun h => h rfl⟩

/- A request with one patch. -/
theorem kept_patch_iff
    (hKept : Kept Row Stmt w)
    (id : String)
    (checked : Except Error Fields)
    (failed : Error → Error)
    (response : Response)
    (Meets : Product → Prop)
    (hStmt : ∀ patch, checked = .ok patch →
      ∀ p, w.product? id = some p →
        (Stmt ⟨auth, some p, p.merge patch⟩ ↔ Meets p)) :
    Kept Row Stmt
        (patchProduct env auth id checked failed response
          w).2 ↔
      (checked.isOk = true → env.writeFault 0 = none →
        ∀ p, w.product? id = some p → Meets p) := by
  rw [world_patchProduct]
  cases checked with
  | error e =>
    constructor
    · intro _ hOk
      cases hOk
    · intro _
      exact hKept
  | ok patch =>
    have hUpdate := kept_update_iff hAfter env hKept id
      Meets (hStmt patch rfl) 0
    exact hUpdate.trans ⟨fun h _ => h, fun h => h rfl⟩

theorem kept_bulk_request_iff
    (hKept : Kept Row Stmt w)
    (req : BulkUpdateRequest)
    (Checked : Fields → Product → Prop)
    (Meets : Product → Prop)
    (hChecked : ∀ patch,
      checkBulkUpdate codec env auth req w = .ok patch →
      ∀ entry ∈ req.productIds.zipIdx, ∀ p,
        w.product? entry.1 = some p → Checked patch p)
    (hStmt : ∀ patch p, Row p → Checked patch p →
      (Stmt ⟨auth, some p, p.merge patch⟩ ↔ Meets p))
    (hAgain : ∀ patch p, Checked patch p →
      Checked patch (p.merge patch))
    (hMeets : ∀ patch p, Checked patch p → Meets p →
      Meets (p.merge patch)) :
    Kept Row Stmt
        (bulkUpdateProducts codec env auth req w).2 ↔
      ((checkBulkUpdate codec env auth req w).isOk = true →
        ∀ entry ∈ req.productIds.zipIdx,
          env.writeFault entry.2 = none →
          ∀ p, w.product? entry.1 = some p → Meets p) := by
  unfold bulkUpdateProducts
  cases hCheck : checkBulkUpdate codec env auth req w with
  | error e =>
    constructor
    · intro _ hOk
      cases hOk
    · intro _
      exact hKept
  | ok patch =>
    have hUpdates := kept_updates_iff env auth hAfter
      (hStmt patch) (hAgain patch) (hMeets patch)
      (s := (0, w)) (hChecked patch hCheck) hKept
    exact hUpdates.trans ⟨fun h _ => h, fun h => h rfl⟩

end

end Orignabase.Products
