import Orignabase.Products.Invariants

/-
  The fields of products that are computed from others: the
  warnings of nutrition facts, and the brand, color and
  material of specifications.

  They are computed from what a request sends, not from what
  its patch is merged into.

  Key definitions include:
    * `Derived`
    * `Renews`

  Main results:
    * `derived_merge_iff`
    * `always_derived_iff`
-/

--------
-- Derived Fields
--------

namespace Orignabase.Products

/- A field that is there and not null. -/
def given (data : Fields) (field : String) : Option Value :=
  match data.lookup field with
  | none | some .null => none
  | some v => some v

/- Food metadata that carries the warnings of the facts. -/
structure Flagged
    (food : Option Value)
    (nf : NutritionFacts) : Prop where
  sodium :
    food.bind (fun v => v.get "fopHighSodium") =
      some (.bool (computeFopWarnings nf).1)
  sugars :
    food.bind (fun v => v.get "fopHighSugars") =
      some (.bool (computeFopWarnings nf).2.1)
  saturatedFat :
    food.bind (fun v => v.get "fopHighSaturatedFat") =
      some (.bool (computeFopWarnings nf).2.2)

/- What specifications show at the top of a product. -/
def ProductSpecs.shown (specs : ProductSpecs) :
    List (String × Option String) :=
  [("brand", specs.brand), ("color", specs.color),
    ("material", specs.material)]

/- The computed fields of a product are up to date. -/
structure Derived
    (codec : Codec)
    (data : Fields) : Prop where
  warned :
    ∀ v, given data "nutritionFacts" = some v →
      ∃ nf, codec.nutritionFacts v = .ok nf ∧
        Flagged (data.lookup "foodMetadata") nf
  specified :
    ∀ v, given data "specs" = some v →
      ∃ specs, codec.productSpecs v = .ok specs ∧
        ∀ entry ∈ specs.shown,
          data.lookup entry.1 = entry.2.map .string

/-
  What is sent keeps the computed fields of the stored data
  up to date.  Metadata sent without facts carries the
  warnings of the stored ones, specifications leave out only
  what neither side has, and what they show is not sent
  without them unless it is as they have it.
-/
structure Renews
    (codec : Codec)
    (obj data : Fields) : Prop where
  warned :
    obj.lookup "nutritionFacts" = none →
      ∀ food, obj.lookup "foodMetadata" = some food →
        ∀ v nf, given data "nutritionFacts" = some v →
          codec.nutritionFacts v = .ok nf →
          Flagged (some food) nf
  respecified :
    ∀ v specs, given obj "specs" = some v →
      codec.productSpecs v = .ok specs →
      ∀ field, (field, none) ∈ specs.shown →
        obj.lookup field = none ∧ data.lookup field = none
  unspecified :
    obj.lookup "specs" = none →
      ∀ v specs, given data "specs" = some v →
        codec.productSpecs v = .ok specs →
        ∀ entry ∈ specs.shown, ∀ u,
          obj.lookup entry.1 = some u →
          entry.2.map .string = some u

theorem mem_specFields
    {specs : ProductSpecs}
    {entry : String × Option String}
    (hEntry : entry ∈ specs.shown) :
    entry.1 ∈ specFields :=
  List.mem_map_of_mem (f := Prod.fst) hEntry

/- The fields that computed ones depend on, and these. -/
def ruledFields : List String :=
  ["nutritionFacts", "specs"] ++ derivedFields

variable {field : String} {data other : Fields}

theorem ruled_of_spec
    (hField : field ∈ specFields) :
    field ∈ ruledFields := by
  revert field
  decide

theorem given_congr
    (hSame : other.lookup field = data.lookup field) :
    given other field = given data field := by
  unfold given
  rw [hSame]

theorem given_of_none
    (hNone : data.lookup field = none) :
    given data field = none := by
  unfold given
  rw [hNone]

theorem derived_congr
    {codec : Codec}
    (hSame : ∀ field ∈ ruledFields,
      other.lookup field = data.lookup field)
    (hDerived : Derived codec data) :
    Derived codec other where
  warned := by
    rw [given_congr (hSame "nutritionFacts" (by decide)),
      hSame "foodMetadata" (by decide)]
    exact hDerived.warned
  specified v hGiven := by
    rw [given_congr (hSame "specs" (by decide))] at hGiven
    rcases hDerived.specified v hGiven with
      ⟨specs, hDecoded, hShown⟩
    refine ⟨specs, hDecoded, ?_⟩
    intro entry hEntry
    rw [hSame _ (ruled_of_spec (mem_specFields hEntry))]
    exact hShown entry hEntry

--------
-- Checks
--------

variable {codec : Codec} {obj result : Fields}

theorem decodeField_eq
    {α : Type}
    (decode : Value → Except String α)
    (obj : Fields)
    (field : String) :
    decodeField decode obj field =
      match given obj field with
      | none => .ok none
      | some v =>
        match decode v with
        | .ok a => .ok (some a)
        | .error e =>
          .error (.validation
            ("Invalid " ++ field ++ ": " ++ e)) := by
  unfold decodeField given
  cases obj.lookup field with
  | none => rfl
  | some v => cases v <;> rfl

theorem of_decodeField
    {α : Type}
    {decode : Value → Except String α}
    {found : Option α}
    (hOk : decodeField decode obj field = .ok found) :
    (given obj field = none ∧ found = none) ∨
      ∃ v a, given obj field = some v ∧ decode v = .ok a ∧
        found = some a := by
  rw [decodeField_eq] at hOk
  cases hGiven : given obj field with
  | none =>
    rw [hGiven] at hOk
    cases hOk
    exact .inl ⟨rfl, rfl⟩
  | some v =>
    simp only [hGiven] at hOk
    cases hDecoded : decode v with
    | error e =>
      rw [hDecoded] at hOk
      cases hOk
    | ok a =>
      rw [hDecoded] at hOk
      cases hOk
      exact .inr ⟨v, a, rfl, hDecoded, rfl⟩

/- The warnings are not among the other fields. -/
theorem get_toValue
    (fm : FoodMetadata)
    (hOther : field ∉ ["ingredientsEn", "ingredientsFr",
      "storageInstructionsEn", "storageInstructionsFr",
      "bestBeforeDays"]) :
    fm.toValue.get field = List.lookup field
        [("allergens", strings fm.allergens),
          ("mayContainAllergens",
            strings fm.mayContainAllergens),
          ("dietaryBadges", strings fm.dietaryBadges),
          ("fopHighSodium", .bool fm.fopHighSodium),
          ("fopHighSugars", .bool fm.fopHighSugars),
          ("fopHighSaturatedFat",
            .bool fm.fopHighSaturatedFat)] := by
  simp only [List.mem_cons, List.not_mem_nil, or_false,
    not_or] at hOther
  rcases hOther with ⟨hEn, hFr, hStoreEn, hStoreFr, hDays⟩
  have hTexts : ∀ entries : List (String × Option String),
      field ∉ entries.map Prod.fst →
        (entries.filterMap (fun entry =>
          entry.2.map (fun t =>
            (entry.1, Value.string t)))).lookup field =
          none := by
    intro entries hNone
    rw [List.lookup_eq_none_iff]
    intro pair hPair
    rcases List.mem_filterMap.mp hPair with
      ⟨entry, hEntry, hSome⟩
    rcases Option.map_eq_some_iff.mp hSome with ⟨t, _, rfl⟩
    apply bne_iff_ne.mpr
    rintro rfl
    exact hNone (List.mem_map_of_mem hEntry)
  unfold FoodMetadata.toValue Value.get
  dsimp only
  rw [Value.lookup_merge, List.lookup_append,
    List.lookup_append, hTexts _ (by simp [*])]
  cases fm.bestBeforeDays with
  | none => simp
  | some days =>
    simp [Value.lookup_field, hDays]

theorem of_validateAndProcessNutrition
    (hOk : validateAndProcessNutrition codec obj =
      .ok result) :
    (given obj "nutritionFacts" = none ∧ result = obj) ∨
      ∃ v nf, given obj "nutritionFacts" = some v ∧
        codec.nutritionFacts v = .ok nf ∧
        Flagged (result.lookup "foodMetadata") nf := by
  rcases Fallible.of_bind_ok hOk with ⟨facts, hFacts, hOk⟩
  rcases Fallible.of_bind_ok hOk with ⟨_, _, hOk⟩
  rcases Fallible.of_bind_ok hOk with ⟨food, _, hOk⟩
  rcases Fallible.of_bind_ok hOk with ⟨_, _, hOk⟩
  rcases of_decodeField hFacts with
    ⟨hNone, rfl⟩ | ⟨v, nf, hGiven, hDecoded, rfl⟩
  · cases hOk
    exact .inl ⟨hNone, rfl⟩
  · cases hOk
    refine .inr ⟨v, nf, hGiven, hDecoded, ?_⟩
    rw [Value.lookup_insertField, if_pos rfl]
    constructor <;>
      · rw [Option.bind_some, get_toValue _ (by decide)]
        rfl

theorem of_validateAndDenormalizeSpecs
    (hOk : validateAndDenormalizeSpecs codec obj =
      .ok result) :
    (given obj "specs" = none ∧ result = obj) ∨
      ∃ v specs, given obj "specs" = some v ∧
        codec.productSpecs v = .ok specs ∧
        ∀ entry ∈ specs.shown, result.lookup entry.1 =
            (entry.2.map .string).or
              (obj.lookup entry.1) := by
  rcases Fallible.of_bind_ok hOk with ⟨found, hFound, hOk⟩
  rcases of_decodeField hFound with
    ⟨hNone, rfl⟩ | ⟨v, specs, hGiven, hDecoded, rfl⟩
  · cases hOk
    exact .inl ⟨hNone, rfl⟩
  · rcases Fallible.of_bind_ok hOk with ⟨_, _, hOk⟩
    cases hOk
    refine .inr ⟨v, specs, hGiven, hDecoded, ?_⟩
    have hPut : ∀ (field : String) (value : Option String)
        (fields : Fields),
        (putText field value fields).lookup field =
          (value.map .string).or (fields.lookup field) := by
      intro field value fields
      cases value with
      | none => rfl
      | some t =>
        unfold putText
        rw [Value.lookup_insertField, if_pos rfl]
        rfl
    intro entry hEntry
    simp only [ProductSpecs.shown, List.mem_cons,
      List.not_mem_nil, or_false] at hEntry
    rcases hEntry with rfl | rfl | rfl <;> dsimp only
    · rw [lookup_putText (by decide),
        lookup_putText (by decide), hPut]
    · rw [lookup_putText (by decide), hPut,
        lookup_putText (by decide)]
    · rw [hPut, lookup_putText (by decide),
        lookup_putText (by decide)]

/- What the checks make of the fields that are sent. -/
structure Processed
    (codec : Codec)
    (obj patch : Fields) : Prop where
  facts :
    patch.lookup "nutritionFacts" =
      obj.lookup "nutritionFacts"
  specs : patch.lookup "specs" = obj.lookup "specs"
  plain :
    given obj "nutritionFacts" = none →
      patch.lookup "foodMetadata" =
        obj.lookup "foodMetadata"
  flagged :
    ∀ v, given obj "nutritionFacts" = some v →
      ∃ nf, codec.nutritionFacts v = .ok nf ∧
        Flagged (patch.lookup "foodMetadata") nf
  unspecified :
    given obj "specs" = none →
      ∀ field ∈ specFields,
        patch.lookup field = obj.lookup field
  specified :
    ∀ v, given obj "specs" = some v →
      ∃ specs, codec.productSpecs v = .ok specs ∧
        ∀ entry ∈ specs.shown,
          patch.lookup entry.1 =
            (entry.2.map .string).or (obj.lookup entry.1)

theorem Processed.congr
    {patch : Fields}
    (hProcessed : Processed codec obj patch)
    (hSame : ∀ field ∈ ruledFields,
      other.lookup field = patch.lookup field) :
    Processed codec obj other where
  facts := by
    rw [hSame _ (by decide)]
    exact hProcessed.facts
  specs := by
    rw [hSame _ (by decide)]
    exact hProcessed.specs
  plain := by
    rw [hSame _ (by decide)]
    exact hProcessed.plain
  flagged := by
    rw [hSame _ (by decide)]
    exact hProcessed.flagged
  unspecified hNone field hField := by
    rw [hSame _ (ruled_of_spec hField)]
    exact hProcessed.unspecified hNone field hField
  specified v hGiven := by
    rcases hProcessed.specified v hGiven with
      ⟨specs, hDecoded, hShown⟩
    refine ⟨specs, hDecoded, ?_⟩
    intro entry hEntry
    rw [hSame _ (ruled_of_spec (mem_specFields hEntry))]
    exact hShown entry hEntry

theorem processed_of_checkContents
    (hOk : checkContents codec obj = .ok result) :
    Processed codec obj result := by
  rcases Fallible.of_bind_ok hOk with ⟨food, hFood, hOk⟩
  rcases Fallible.of_bind_ok hOk with ⟨specs, hSpecs, hOk⟩
  rcases Fallible.of_bind_ok hOk with ⟨_, _, hOk⟩
  cases hOk
  have hFoodSame : ∀ {key : String}, key ≠ "foodMetadata" →
        food.lookup key = obj.lookup key :=
    lookup_validateAndProcessNutrition codec hFood
  have hSpecsSame : ∀ {key : String}, key ∉ specFields →
      result.lookup key = food.lookup key :=
    lookup_validateAndDenormalizeSpecs codec hSpecs
  have hGivenSpecs : given food "specs" = given obj "specs" :=
    given_congr (hFoodSame (by decide))
  refine ⟨?_, ?_, ?_, ?_, ?_, ?_⟩
  · rw [hSpecsSame (by decide), hFoodSame (by decide)]
  · rw [hSpecsSame (by decide), hFoodSame (by decide)]
  · intro hNone
    rw [hSpecsSame (by decide)]
    rcases of_validateAndProcessNutrition hFood with
      ⟨_, rfl⟩ | ⟨v, nf, hGiven, _⟩
    · rfl
    · rw [hNone] at hGiven
      cases hGiven
  · intro v hGiven
    rw [hSpecsSame (by decide)]
    rcases of_validateAndProcessNutrition hFood with
      ⟨hNone, _⟩ | ⟨u, nf, hOther, hDecoded, hFlagged⟩
    · rw [hNone] at hGiven
      cases hGiven
    · rw [hGiven] at hOther
      cases hOther
      exact ⟨nf, hDecoded, hFlagged⟩
  · intro hNone field hField
    have hOther : field ≠ "foodMetadata" := by
      revert field
      decide
    rcases of_validateAndDenormalizeSpecs hSpecs with
      ⟨_, rfl⟩ | ⟨v, specs, hGiven, _⟩
    · exact hFoodSame hOther
    · rw [hGivenSpecs, hNone] at hGiven
      cases hGiven
  · intro v hGiven
    rcases of_validateAndDenormalizeSpecs hSpecs with
      ⟨hNone, _⟩ | ⟨u, specs, hOther, hDecoded, hShown⟩
    · rw [hGivenSpecs, hGiven] at hNone
      cases hNone
    · rw [hGivenSpecs, hGiven] at hOther
      cases hOther
      refine ⟨specs, hDecoded, ?_⟩
      intro entry hEntry
      have hNe : entry.1 ≠ "foodMetadata" := by
        have hField := mem_specFields hEntry
        intro hEq
        rw [hEq] at hField
        revert hField
        decide
      rw [hShown entry hEntry, hFoodSame hNe]

--------
-- Merges
--------

variable {codec : Codec} {obj patch data : Fields}

variable {field : String}

theorem given_merge_of_none
    (hNone : patch.lookup field = none) :
    given (Value.merge data patch) field =
      given data field := by
  apply given_congr
  rw [Value.lookup_merge, hNone, Option.none_or]

theorem given_merge_of_some
    {v : Value}
    (hSome : patch.lookup field = some v) :
    given (Value.merge data patch) field =
      given patch field := by
  apply given_congr
  rw [Value.lookup_merge, hSome, Option.some_or]

theorem some_of_given
    {v : Value}
    (hGiven : given obj field = some v) :
    obj.lookup field = some v := by
  unfold given at hGiven
  split at hGiven
  · cases hGiven
  · cases hGiven
  · cases hGiven
    assumption

theorem Flagged.isSome
    {food : Option Value}
    {nf : NutritionFacts}
    (hFlagged : Flagged food nf) :
    ∃ v, food = some v := by
  cases food with
  | none => cases hFlagged.sodium
  | some v => exact ⟨v, rfl⟩

theorem warned_merge
    (hDerived : Derived codec data)
    (hProcessed : Processed codec obj patch)
    (hRenews : Renews codec obj data) :
    ∀ v, given (Value.merge data patch) "nutritionFacts" =
        some v →
      ∃ nf, codec.nutritionFacts v = .ok nf ∧ Flagged
          ((Value.merge data patch).lookup "foodMetadata")
          nf := by
  intro v hGiven
  rw [Value.lookup_merge]
  cases hFacts : obj.lookup "nutritionFacts" with
  | none =>
    have hSent := hProcessed.plain (given_of_none hFacts)
    rw [given_merge_of_none
      (hProcessed.facts.trans hFacts)] at hGiven
    rcases hDerived.warned v hGiven with
      ⟨nf, hDecoded, hFlagged⟩
    refine ⟨nf, hDecoded, ?_⟩
    rw [hSent]
    cases hFood : obj.lookup "foodMetadata" with
    | none => exact hFlagged
    | some food =>
      exact hRenews.warned hFacts food hFood v nf hGiven
        hDecoded
  | some u =>
    rw [given_merge_of_some (hProcessed.facts.trans hFacts),
      given_congr hProcessed.facts] at hGiven
    rcases hProcessed.flagged v hGiven with
      ⟨nf, hDecoded, hFlagged⟩
    rcases hFlagged.isSome with ⟨food, hFood⟩
    rw [hFood] at hFlagged ⊢
    exact ⟨nf, hDecoded, hFlagged⟩

theorem specified_merge
    (hDerived : Derived codec data)
    (hProcessed : Processed codec obj patch)
    (hRenews : Renews codec obj data) :
    ∀ v, given (Value.merge data patch) "specs" = some v →
      ∃ specs, codec.productSpecs v = .ok specs ∧
        ∀ entry ∈ specs.shown,
          (Value.merge data patch).lookup entry.1 =
            entry.2.map .string := by
  intro v hGiven
  cases hSpecs : obj.lookup "specs" with
  | none =>
    rw [given_merge_of_none
      (hProcessed.specs.trans hSpecs)] at hGiven
    rcases hDerived.specified v hGiven with
      ⟨specs, hDecoded, hShown⟩
    refine ⟨specs, hDecoded, ?_⟩
    intro entry hEntry
    rw [Value.lookup_merge,
      hProcessed.unspecified (given_of_none hSpecs) _
        (mem_specFields hEntry)]
    cases hSent : obj.lookup entry.1 with
    | none => exact hShown entry hEntry
    | some u =>
      exact (hRenews.unspecified hSpecs v specs hGiven
        hDecoded entry hEntry u hSent).symm
  | some u =>
    rw [given_merge_of_some (hProcessed.specs.trans hSpecs),
      given_congr hProcessed.specs] at hGiven
    rcases hProcessed.specified v hGiven with
      ⟨specs, hDecoded, hShown⟩
    refine ⟨specs, hDecoded, ?_⟩
    rintro ⟨field, value⟩ hEntry
    rw [Value.lookup_merge, hShown _ hEntry]
    cases value with
    | some t => rfl
    | none =>
      have hAbsent := hRenews.respecified v specs hGiven
        hDecoded field hEntry
      dsimp only
      rw [hAbsent.1, hAbsent.2]
      rfl

/- A patch keeps derived fields exactly if it renews them. -/
theorem derived_merge_iff
    (hDerived : Derived codec data)
    (hProcessed : Processed codec obj patch) :
    Derived codec (Value.merge data patch) ↔
      Renews codec obj data := by
  constructor
  · intro hMerged
    refine ⟨?_, ?_, ?_⟩
    · intro hFacts food hFood v nf hGiven hDecoded
      have hSame :
          given (Value.merge data patch) "nutritionFacts" =
            given data "nutritionFacts" :=
        given_merge_of_none (hProcessed.facts.trans hFacts)
      rcases hMerged.warned v (hSame.trans hGiven) with
        ⟨other, hOther, hFlagged⟩
      rw [hDecoded] at hOther
      cases hOther
      rw [Value.lookup_merge,
        hProcessed.plain (given_of_none hFacts), hFood]
        at hFlagged
      exact hFlagged
    · intro v specs hGiven hDecoded field hField
      have hSpecs := some_of_given hGiven
      have hSame :
          given (Value.merge data patch) "specs" =
            given obj "specs" :=
        (given_merge_of_some
          (hProcessed.specs.trans hSpecs)).trans
            (given_congr hProcessed.specs)
      rcases hMerged.specified v (hSame.trans hGiven) with
        ⟨other, hOther, hShown⟩
      rw [hDecoded] at hOther
      cases hOther
      rcases hProcessed.specified v hGiven with
        ⟨other, hOther, hSent⟩
      rw [hDecoded] at hOther
      cases hOther
      have hNone := hShown _ hField
      rw [Value.lookup_merge, hSent _ hField] at hNone
      exact ⟨(Option.or_eq_none_iff.mp hNone).1,
        (Option.or_eq_none_iff.mp hNone).2⟩
    · intro hSpecs v specs hGiven hDecoded entry hEntry u
        hSent
      have hSame :
          given (Value.merge data patch) "specs" =
            given data "specs" :=
        given_merge_of_none (hProcessed.specs.trans hSpecs)
      rcases hMerged.specified v (hSame.trans hGiven) with
        ⟨other, hOther, hShown⟩
      rw [hDecoded] at hOther
      cases hOther
      rw [← hShown entry hEntry, Value.lookup_merge,
        hProcessed.unspecified (given_of_none hSpecs) _
          (mem_specFields hEntry), hSent]
      rfl
  · intro hRenews
    exact ⟨warned_merge hDerived hProcessed hRenews,
      specified_merge hDerived hProcessed hRenews⟩

/- What renews the fields once does so again. -/
theorem Renews.again
    (hRenews : Renews codec obj data)
    (hProcessed : Processed codec obj patch) :
    Renews codec obj (Value.merge data patch) where
  warned hFacts food hFood := by
    rw [given_merge_of_none (hProcessed.facts.trans hFacts)]
    exact hRenews.warned hFacts food hFood
  respecified v specs hGiven hDecoded field hField := by
    have hAbsent := hRenews.respecified v specs hGiven
      hDecoded field hField
    rcases hProcessed.specified v hGiven with
      ⟨other, hOther, hSent⟩
    rw [hDecoded] at hOther
    cases hOther
    refine ⟨hAbsent.1, ?_⟩
    rw [Value.lookup_merge, hSent _ hField, hAbsent.1,
      hAbsent.2]
    rfl
  unspecified hSpecs := by
    rw [given_merge_of_none (hProcessed.specs.trans hSpecs)]
    exact hRenews.unspecified hSpecs

--------
-- Requests
--------

variable {codec : Codec} {env : Env} {auth : AuthContext}
variable {w : World}

/- All stored products are up to date, at any time so far. -/
def Fresh (codec : Codec) (w : World) : Prop :=
  Kept (fun p => Derived codec p.data)
    (fun write => Derived codec write.after.data) w

theorem derived_nil (codec : Codec) : Derived codec [] where
  warned v hGiven := by cases hGiven
  specified v hGiven := by cases hGiven

theorem of_checkPatch_contents
    {obj patch : Fields}
    (hOk : checkPatch codec env obj = .ok patch) :
    Processed codec obj patch := by
  rcases Fallible.of_bind_ok hOk with ⟨_, _, hOk⟩
  rcases Fallible.of_bind_ok hOk with ⟨_, _, hOk⟩
  rcases Fallible.of_bind_ok hOk with ⟨result, hResult, hOk⟩
  cases hOk
  apply (processed_of_checkContents hResult).congr
  intro field hField
  have hOther : field ≠ "updatedAt" := by
    revert field
    decide
  rw [Value.lookup_insertField, if_neg hOther]

variable {data : Fields}

theorem of_checkCreate_contents
    {req : CreateProductAtomicRequest}
    (hOk : checkCreate codec env auth req = .ok data) :
    ∃ obj, req.productData = .object obj ∧
      data.lookup "id" = obj.lookup "id" ∧
      Processed codec obj data := by
  rcases Fallible.of_bind_ok hOk with ⟨userId, _, hOk⟩
  rcases Fallible.of_bind_ok hOk with ⟨_, _, hOk⟩
  rcases Fallible.of_bind_ok hOk with ⟨_, _, hOk⟩
  rcases Fallible.of_bind_ok hOk with ⟨_, _, hOk⟩
  rcases Fallible.of_bind_ok hOk with ⟨_, _, hOk⟩
  rcases Fallible.of_bind_ok hOk with ⟨obj, hObject, hOk⟩
  rcases Fallible.of_bind_ok hOk with ⟨_, _, hOk⟩
  rcases Fallible.of_bind_ok hOk with ⟨result, hResult, hOk⟩
  cases hOk
  have hSame : ∀ field ∈ "id" :: ruledFields,
      (stampCreated env userId
        (Value.insertField "imageUrls"
          (strings req.testImageUrls) result)).lookup field =
        result.lookup field := by
    intro field hField
    have hOther :
        field ∉ ["updatedAt", "createdAt", "sellerId"] ∧
          field ≠ "imageUrls" := by
      revert field
      decide
    rw [lookup_stampCreated hOther.1,
      Value.lookup_insertField, if_neg hOther.2]
  refine ⟨obj, object_of_objectOf hObject, ?_, ?_⟩
  · rw [hSame "id" List.mem_cons_self,
      lookup_checkContents codec hResult (by decide)]
  · apply (processed_of_checkContents hResult).congr
    intro field hField
    exact hSame field (List.mem_cons_of_mem _ hField)

/- A new product starts from nothing. -/
theorem derived_new_iff
    {obj : Fields}
    (hProcessed : Processed codec obj data) :
    Derived codec data ↔ Renews codec obj [] := by
  rw [← derived_merge_iff (derived_nil codec) hProcessed]
  have hSame : ∀ field, (Value.merge [] data).lookup field =
        data.lookup field := by
    intro field
    rw [Value.lookup_merge]
    exact Option.or_none
  exact ⟨derived_congr (fun field _ => hSame field),
    derived_congr (fun field _ => (hSame field).symm)⟩

theorem fresh_create_request_iff
    (hFresh : Fresh codec w)
    (req : CreateProductAtomicRequest) :
    Fresh codec
        (createProductAtomic codec env auth req w).2 ↔
      ∀ obj, req.productData = .object obj →
        (checkCreate codec env auth req).isOk = true →
        env.writeFault 0 = none →
        w.rows (newId env 0 obj) = none →
        Renews codec obj [] := by
  cases hCheck : checkCreate codec env auth req with
  | error e =>
    constructor
    · intro _ obj _ hOk
      cases hOk
    · intro _
      rw [world_createProductAtomic, hCheck]
      exact hFresh
  | ok data =>
    rcases of_checkCreate_contents hCheck with
      ⟨obj, hObject, hId, hProcessed⟩
    have hCreate := kept_create_request_iff codec env auth
      (fun _ h => h) hFresh req (newId env 0 obj)
      (Renews codec obj [])
      (by
        intro other hOther
        rw [hCheck] at hOther
        cases hOther
        unfold newId text?
        rw [hId])
      (by
        intro other hOther
        rw [hCheck] at hOther
        cases hOther
        exact derived_new_iff hProcessed)
    unfold Fresh
    rw [hCreate, hCheck]
    constructor
    · intro hFine other hOther
      rw [hObject] at hOther
      cases hOther
      exact hFine
    · intro hFine
      exact hFine obj hObject

/- An upload computes nothing. -/
theorem fresh_upload_request_iff
    (hFresh : Fresh codec w)
    (req : BulkUploadRequest) :
    Fresh codec (bulkUploadProducts codec env auth req w).2 ↔
      ((checkBulkUpload env auth req).isOk = true →
        UploadsMeet env (Derived codec)
          (fun id => (w.rows id).isSome = true)
          (req.valid codec)) := by
  apply kept_upload_request_iff codec env auth
    (fun _ h => h) hFresh
  intro entry _
  have hSame : ∀ field ∈ ruledFields,
      (stampUploaded env auth.userId entry.2).lookup field =
        entry.2.lookup field := by
    intro field hField
    apply lookup_stampUploaded
    revert field
    decide
  exact ⟨derived_congr
      (fun field hField => (hSame field hField).symm),
    derived_congr hSame⟩

theorem fresh_update_request_iff
    (hFresh : Fresh codec w)
    (req : UpdateProductRequest) :
    Fresh codec (updateProduct codec env auth req w).2 ↔
      ∀ obj, req.productData = .object obj →
        (checkUpdate codec env auth req w).isOk = true →
        env.writeFault 0 = none →
        ∀ p, w.product? req.productId = some p →
          Renews codec obj p.data := by
  cases hCheck : checkUpdate codec env auth req w with
  | error e =>
    constructor
    · intro _ obj _ hOk
      cases hOk
    · intro _
      unfold updateProduct
      rw [world_patchProduct, hCheck]
      exact hFresh
  | ok patch =>
    have hOk := hCheck
    rcases Fallible.of_bind_ok hOk with ⟨_, _, hOk⟩
    rcases Fallible.of_bind_ok hOk with ⟨_, _, hOk⟩
    rcases Fallible.of_bind_ok hOk with ⟨_, _, hOk⟩
    rcases Fallible.of_bind_ok hOk with ⟨_, _, hOk⟩
    rcases Fallible.of_bind_ok hOk with ⟨_, _, hOk⟩
    rcases Fallible.of_bind_ok hOk with ⟨obj, hObj, hOk⟩
    rcases Fallible.of_bind_ok hOk with ⟨_, _, hOk⟩
    have hObject := object_of_objectOf hObj
    have hUpdate := kept_patch_iff env auth
      (fun _ h => h) hFresh req.productId
      (checkUpdate codec env auth req w) id .updated
      (fun p => Renews codec obj p.data)
      (by
        intro other hOther p hRow
        rw [hCheck] at hOther
        cases hOther
        exact derived_merge_iff (hFresh.stored _ p hRow)
          (of_checkPatch_contents hOk))
    unfold Fresh updateProduct
    rw [hUpdate, hCheck]
    constructor
    · intro hFine other hOther
      rw [hObject] at hOther
      cases hOther
      exact hFine
    · intro hFine
      exact hFine obj hObject

theorem fresh_bulk_request_iff
    (hFresh : Fresh codec w)
    (req : BulkUpdateRequest) :
    Fresh codec (bulkUpdateProducts codec env auth req w).2 ↔
      ∀ obj, req.update = .object obj →
        (checkBulkUpdate codec env auth req w).isOk = true →
        ∀ entry ∈ req.productIds.zipIdx,
          env.writeFault entry.2 = none →
          ∀ p, w.product? entry.1 = some p →
            Renews codec obj p.data := by
  have hContents : ∀ patch,
      checkBulkUpdate codec env auth req w = .ok patch →
        ∃ obj, req.update = .object obj ∧
          Processed codec obj patch := by
    intro patch hOk
    rcases Fallible.of_bind_ok hOk with ⟨_, _, hOk⟩
    rcases Fallible.of_bind_ok hOk with ⟨_, _, hOk⟩
    rcases Fallible.of_bind_ok hOk with ⟨_, _, hOk⟩
    rcases Fallible.of_bind_ok hOk with ⟨_, _, hOk⟩
    rcases Fallible.of_bind_ok hOk with ⟨obj, hObj, hOk⟩
    rcases Fallible.of_bind_ok hOk with ⟨_, _, hOk⟩
    exact ⟨obj, object_of_objectOf hObj,
      of_checkPatch_contents hOk⟩
  cases hCheck : checkBulkUpdate codec env auth req w with
  | error e =>
    constructor
    · intro _ obj _ hOk
      cases hOk
    · intro _
      unfold bulkUpdateProducts
      rw [hCheck]
      exact hFresh
  | ok patch =>
    rcases hContents patch hCheck with
      ⟨obj, hObject, hProcessed⟩
    have hBulk := kept_bulk_request_iff codec env auth
      (fun _ h => h) hFresh req
      (fun patch _ => Processed codec obj patch)
      (fun p => Renews codec obj p.data)
      (by
        intro other hOther _ _ _ _
        rw [hCheck] at hOther
        cases hOther
        exact hProcessed)
      (fun patch p hDerived hSent =>
        derived_merge_iff hDerived hSent)
      (fun _ _ hSent => hSent)
      (fun _ _ hSent hRenews => hRenews.again hSent)
    unfold Fresh
    rw [hBulk, hCheck]
    constructor
    · intro hFine other hOther
      rw [hObject] at hOther
      cases hOther
      exact hFine
    · intro hFine
      exact hFine obj hObject

/- A patch with none of the fields that matter. -/
theorem derived_merge_of_apart
    {patch : Fields}
    (hApart : ∀ field ∈ ruledFields,
      patch.lookup field = none)
    (hDerived : Derived codec data) :
    Derived codec (Value.merge data patch) := by
  apply derived_congr _ hDerived
  intro field hField
  rw [Value.lookup_merge, hApart field hField,
    Option.none_or]

theorem fresh_patch_request
    (hFresh : Fresh codec w)
    (id : String)
    (checked : Except Error Fields)
    (failed : Error → Error)
    (response : Response)
    (hApart : ∀ patch, checked = .ok patch →
      ∀ field ∈ ruledFields, patch.lookup field = none) :
    Fresh codec
      (patchProduct env auth id checked failed response
        w).2 := by
  apply (kept_patch_iff env auth (fun _ h => h) hFresh id
    checked failed response (fun _ => True) ?_).mpr
  · intro _ _ p _
    trivial
  · intro patch hOk p hRow
    exact ⟨fun _ => trivial, fun _ =>
      derived_merge_of_apart (hApart patch hOk)
        (hFresh.stored _ p hRow)⟩

theorem fresh_setFavoriteCount
    (hFresh : Fresh codec w)
    (id : String)
    (count : Int) :
    Fresh codec (setFavoriteCount env auth id count w) := by
  apply (kept_update_iff (fun _ h => h) env hFresh id
    (fun _ => True) ?_ 0).mpr
  · intro _ p _
    trivial
  · intro p hRow
    refine ⟨fun _ => trivial, fun _ => ?_⟩
    apply derived_merge_of_apart _ (hFresh.stored _ p hRow)
    simp [ruledFields, derivedFields]

theorem fresh_favorite_request
    (hFresh : Fresh codec w)
    (req : ToggleFavoriteRequest) :
    Fresh codec (toggleFavorite env auth req w).2 := by
  unfold toggleFavorite
  split
  · exact hFresh
  · split
    · exact fresh_setFavoriteCount hFresh _ _
    · split
      · exact hFresh
      · exact fresh_setFavoriteCount hFresh _ _

--------
-- Runs
--------

/-
  A request that renews the computed fields of the products
  it writes.  The products of an upload have to come with
  them.
-/
def Renewing
    (codec : Codec)
    (w : World)
    (call : Call) : Prop :=
  match call.request with
  | .createProductAtomic req =>
    ∀ obj, req.productData = .object obj →
      (checkCreate codec call.env call.auth req).isOk =
        true →
      call.env.writeFault 0 = none →
      w.rows (newId call.env 0 obj) = none →
      Renews codec obj []
  | .bulkUploadProducts req =>
    (checkBulkUpload call.env call.auth req).isOk = true →
      UploadsMeet call.env (Derived codec)
        (fun id => (w.rows id).isSome = true)
        (req.valid codec)
  | .updateProduct req =>
    ∀ obj, req.productData = .object obj →
      (checkUpdate codec call.env call.auth req w).isOk =
        true →
      call.env.writeFault 0 = none →
      ∀ p, w.product? req.productId = some p →
        Renews codec obj p.data
  | .bulkUpdateProducts req =>
    ∀ obj, req.update = .object obj →
      (checkBulkUpdate codec call.env call.auth req
        w).isOk = true →
      ∀ entry ∈ req.productIds.zipIdx,
        call.env.writeFault entry.2 = none →
        ∀ p, w.product? entry.1 = some p →
          Renews codec obj p.data
  | _ => True

theorem fresh_step_iff
    {codec : Codec}
    {w : World}
    (hFresh : Fresh codec w)
    (call : Call) :
    Fresh codec (step codec w call) ↔
      Renewing codec w call := by
  rcases call with ⟨auth, env, request⟩
  cases request with
  | createProductAtomic req =>
    exact fresh_create_request_iff hFresh req
  | bulkUploadProducts req =>
    exact fresh_upload_request_iff hFresh req
  | updateProduct req =>
    exact fresh_update_request_iff hFresh req
  | bulkUpdateProducts req =>
    exact fresh_bulk_request_iff hFresh req
  | uploadImages req =>
    refine ⟨fun _ => trivial, fun _ => ?_⟩
    apply fresh_patch_request hFresh
    intro patch hOk
    rw [(of_checkImages hOk).1]
    simp [ruledFields, derivedFields]
  | deleteProduct req =>
    refine ⟨fun _ => trivial, fun _ => ?_⟩
    apply fresh_patch_request hFresh
    intro patch hOk
    rcases of_checkDelete hOk with ⟨⟨userId, rfl⟩, _⟩
    simp [ruledFields, derivedFields]
  | toggleFavorite req =>
    exact ⟨fun _ => trivial,
      fun _ => fresh_favorite_request hFresh req⟩

/-
  The computed fields are up to date all along a run exactly
  if all of its requests renew them.
-/
theorem always_derived_iff
    (codec : Codec)
    (calls : List Call) :
    (∀ past, past <+: calls → Fresh codec
        (History.after (step codec) World.empty past)) ↔
      ∀ past call, past ++ [call] <+: calls → Renewing codec
          (History.after (step codec) World.empty past)
          call := by
  apply History.always_iff (P := fun past =>
    Fresh codec
      (History.after (step codec) World.empty past))
  · exact kept_empty _ _
  · intro past call hFresh
    rw [History.after_append]
    exact fresh_step_iff hFresh call

/- Facts with too much sodium, and nothing else decoded. -/
def saltyFacts : NutritionFacts where
  servingSizeAmount := 30
  servingSizeUnit := "g"
  caloriesKcal := 150
  totalFatMg := 0
  saturatedFatMg := 0
  transFatMg := 0
  cholesterolMg := 0
  sodiumMg := 400
  totalCarbohydrateMg := 0
  fibreMg := 0
  sugarsMg := 0
  proteinMg := 0
  vitaminAMcg := 0
  vitaminCMg := 0
  calciumMg := 0
  ironMg := 0

def saltyFields : Fields :=
  saltyFacts.nutrients.map
      (fun entry => (entry.1, intValue entry.2)) ++
    [("servingSizeAmount", intValue 30),
      ("servingSizeUnit", .string "g")]

/- Decoders that know these facts and empty metadata. -/
def saltyCodec : Codec where
  nutritionFacts v :=
    if v.get "sodiumMg" |>.isSome then .ok saltyFacts
    else .error "missing field"
  foodMetadata _ := .ok {}
  productSpecs _ := .error "unexpected"
  sanitizeHtml := id

/- Metadata sent alone takes the warning away. -/
def unsalt : List Call :=
  [sellerCall (.createProductAtomic ⟨"ann", .object
        [("nutritionFacts", .object saltyFields)], []⟩),
    patchCall
      [("foodMetadata", .object [("allergens", strings [])])]]

/- Whether the product has facts, and its warning. -/
def warningOf (w : World) : Option (Bool × Option Value) :=
  (w.rows "p").map (fun p =>
    ((given p.data "nutritionFacts").isSome,
      (p.data.lookup "foodMetadata").bind
        (fun v => v.get "fopHighSodium")))

theorem warning_lost :
    (warningOf (History.after (step saltyCodec) World.empty
        (unsalt.take 1)) = some (true, some (.bool true)) ∧
      warningOf (History.after (step saltyCodec) World.empty
        unsalt) = some (true, none)) ∧
    ¬ ∀ (codec : Codec) (calls past : List Call),
      past <+: calls → Fresh codec
          (History.after (step codec) World.empty past) := by
  have hLost :
      warningOf (History.after (step saltyCodec) World.empty
        (unsalt.take 1)) = some (true, some (.bool true)) ∧
      warningOf (History.after (step saltyCodec) World.empty
        unsalt) = some (true, none) := by
    decide +kernel
  refine ⟨hLost, fun hAll => ?_⟩
  have hFresh := hAll saltyCodec unsalt unsalt
    (List.prefix_refl _)
  rcases Option.map_eq_some_iff.mp hLost.2 with
    ⟨p, hRow, hFields⟩
  rcases Prod.mk.inj hFields with ⟨hGiven, hNone⟩
  rcases Option.isSome_iff_exists.mp hGiven with ⟨v, hFacts⟩
  rcases (hFresh.stored "p" p hRow).warned v hFacts with
    ⟨nf, _, hFlagged⟩
  have hSodium := hFlagged.sodium
  rw [hNone] at hSodium
  cases hSodium

end Orignabase.Products
