import Orignabase.Database.Jsonb
import Orignabase.Lib.Fallible
import Orignabase.Core.Validate
import Mathlib.Data.List.Infix

/-
  The checks of product data and what they add to it
  (`ob-handlers/src/products/crud.rs`,
  `ob-handlers/src/shared/nutrition.rs` and `specs.rs`).

  Key definitions include:
    * `asI64`
    * `validateLifecycleTransition`
    * `validatePriceAndStock`
    * `Codec`
    * `checkContents`

  Main results:
    * `lookup_checkContents`
-/

--------
-- Values
--------

namespace Orignabase.Products

abbrev Fields := List (String × Value)

/-
  `Value::as_i64`: integers of 64 bits.  A minus in front of
  zero is read as a float.
-/
def asI64 : Value → Option Int
  | .number n =>
    let i : Int := if n.negative then -n.int else n.int
    if n.frac.isEmpty && n.exp.isNone &&
        !(n.negative && n.int = 0) &&
        decide (-2 ^ 63 ≤ i ∧ i < 2 ^ 63) then
      some i
    else none
  | _ => none

def intValue (n : Int) : Value :=
  .number { negative := decide (n < 0), int := n.natAbs }

def strings (texts : List String) : Value :=
  .array (texts.map .string)

/- A field that is a text. -/
def text? (obj : Fields) (field : String) : Option String :=
  (obj.lookup field).bind Value.asStr

/- A field that is an integer. -/
def int? (obj : Fields) (field : String) : Option Int :=
  (obj.lookup field).bind asI64

/- A check, with the error of its failure. -/
def ensure
    {ε : Type}
    (test : Bool)
    (e : ε) : Except ε Unit :=
  if test then .ok () else .error e

variable {u : Unit} {obj : Fields} {key : String}
variable {result : Fields}

theorem of_ensure
    {ε : Type}
    {test : Bool}
    {e : ε}
    (hOk : ensure test e = .ok u) :
    test = true := by
  cases test with
  | false => cases hOk
  | true => rfl

/- A check of something that may be absent. -/
def ifSome
    {α : Type}
    (check : α → Except Error Unit) :
    Option α → Except Error Unit
  | none => .ok ()
  | some a => check a

--------
-- Images
--------

def allowedDomains : List String :=
  ["r2.cloudflarestorage.com", "orignagta.ca",
    "cdn.orignagta.ca", "pub-"]

def validateImageUrl (url : String) : Except Error Unit := do
  ensure (Text.trim url != "")
    (.validation "Image URL cannot be empty")
  ensure ("https://".toList.isPrefixOf url.toList)
    (.validation "Image URLs must use HTTPS protocol")
  ensure
    (allowedDomains.any (fun domain =>
      decide (domain.toList <:+: url.toList)))
    (.validation
      "Image URL must be from Cloudflare R2 or OrignaGTA CDN")

/- The images of an update; other items are not looked at. -/
def checkImageUrls (obj : Fields) : Except Error Unit :=
  match (obj.lookup "imageUrls").bind Value.asArray with
  | none => .ok ()
  | some urls =>
    (urls.filterMap Value.asStr).forM validateImageUrl

--------
-- Lifecycle, Price and Stock
--------

/- The states after a known one. -/
def validTransitions : String → Option (List String)
  | "draft" => some ["active", "archived"]
  | "active" => some ["inactive", "archived"]
  | "inactive" => some ["active", "archived"]
  | "archived" => some []
  | _ => none

def validateLifecycleTransition
    (fromState toState : String) : Except Error Unit :=
  if fromState = toState then .ok ()
  else
    match validTransitions fromState with
    | none =>
      .error (.validation
        ("Unknown product state: " ++ fromState))
    | some states =>
      if states.contains toState then .ok ()
      else
        .error (.validation
          ("Invalid status transition from " ++ fromState ++
            " to " ++ toState))

@[simp] theorem validateLifecycleTransition_self
    (state : String) :
    validateLifecycleTransition state state = .ok () := by
  unfold validateLifecycleTransition
  rw [if_pos rfl]

/- Nothing comes after the last state. -/
theorem eq_of_archived
    {state : String}
    (hOk : validateLifecycleTransition "archived" state =
      .ok u) :
    state = "archived" := by
  unfold validateLifecycleTransition at hOk
  split at hOk
  · exact Eq.symm ‹_›
  · cases hOk

def validatePrice (price : Int) : Except Error Unit := do
  ensure (decide (0 < price))
    (.validation
      "Product price must be greater than 0 cents")
  ensure (decide (price ≤ 10000000))
    (.validation "Product price cannot exceed $100,000 CAD")

def validateStock (stock : Int) : Except Error Unit :=
  ensure (decide (0 ≤ stock))
    (.validation "Stock quantity cannot be negative")

def validatePriceAndStock
    (priceCents stockQuantity : Option Int) :
    Except Error Unit := do
  ifSome validatePrice priceCents
  ifSome validateStock stockQuantity

/- Both checks look at integers only. -/
def checkPriceAndStock (obj : Fields) : Except Error Unit :=
  validatePriceAndStock (int? obj "priceCents")
    (int? obj "stockQuantity")

theorem of_checkPriceAndStock
    (hOk : checkPriceAndStock obj = .ok u) :
    (∀ price, int? obj "priceCents" = some price →
      1 ≤ price ∧ price ≤ 10000000) ∧
    ∀ stock, int? obj "stockQuantity" = some stock →
      0 ≤ stock := by
  rcases Fallible.of_bind_ok hOk with ⟨_, hPrice, hStock⟩
  constructor
  · intro price hInt
    rw [hInt] at hPrice
    rcases Fallible.of_bind_ok hPrice with ⟨_, hLow, hHigh⟩
    exact ⟨of_decide_eq_true (of_ensure hLow),
      of_decide_eq_true (of_ensure hHigh)⟩
  · intro stock hInt
    rw [hInt] at hStock
    exact of_decide_eq_true (of_ensure hStock)

--------
-- Nutrition
--------

structure NutritionFacts where
  servingSizeAmount : Int
  servingSizeUnit : String
  servingsPerContainer : Option Int := none
  caloriesKcal : Int
  totalFatMg : Int
  saturatedFatMg : Int
  transFatMg : Int
  cholesterolMg : Int
  sodiumMg : Int
  totalCarbohydrateMg : Int
  fibreMg : Int
  sugarsMg : Int
  proteinMg : Int
  vitaminAMcg : Int
  vitaminCMg : Int
  calciumMg : Int
  ironMg : Int
  addedSugarsMg : Option Int := none
  potassiumMg : Option Int := none
  vitaminDMcg : Option Int := none

structure FoodMetadata where
  ingredientsEn : Option String := none
  ingredientsFr : Option String := none
  allergens : List String := []
  mayContainAllergens : List String := []
  storageInstructionsEn : Option String := none
  storageInstructionsFr : Option String := none
  bestBeforeDays : Option Int := none
  dietaryBadges : List String := []
  fopHighSodium : Bool := false
  fopHighSugars : Bool := false
  fopHighSaturatedFat : Bool := false

def allergenValues : List String :=
  ["eggs", "milk", "mustard", "peanuts", "crustaceans",
    "fish", "sesame", "soy", "sulphites", "tree_nuts",
    "wheat"]

def dietaryBadgeValues : List String :=
  ["organic", "vegan", "vegetarian", "halal", "kosher",
    "gluten_free", "non_gmo", "dairy_free", "nut_free",
    "sugar_free"]

/- A list of plain texts as it is printed for debugging. -/
def debugText (texts : List String) : String :=
  "[" ++ Text.join ", "
    (texts.map (fun t => "\"" ++ t ++ "\"")) ++ "]"

def validateNutrient (entry : String × Int) :
    Except Error Unit := do
  ensure (decide (0 ≤ entry.2))
    (.validation (entry.1 ++ " cannot be negative"))
  ensure (decide (entry.2 ≤ 999999))
    (.validation (entry.1 ++ " exceeds maximum (999999)"))

/- The nutrients of a serving, in the order of the checks. -/
def NutritionFacts.nutrients (nf : NutritionFacts) :
    List (String × Int) :=
  [("caloriesKcal", nf.caloriesKcal),
    ("totalFatMg", nf.totalFatMg),
    ("saturatedFatMg", nf.saturatedFatMg),
    ("transFatMg", nf.transFatMg),
    ("cholesterolMg", nf.cholesterolMg),
    ("sodiumMg", nf.sodiumMg),
    ("totalCarbohydrateMg", nf.totalCarbohydrateMg),
    ("fibreMg", nf.fibreMg),
    ("sugarsMg", nf.sugarsMg),
    ("proteinMg", nf.proteinMg),
    ("vitaminAMcg", nf.vitaminAMcg),
    ("vitaminCMg", nf.vitaminCMg),
    ("calciumMg", nf.calciumMg),
    ("ironMg", nf.ironMg)] ++
  (nf.addedSugarsMg.map (Prod.mk "addedSugarsMg")).toList ++
  (nf.potassiumMg.map (Prod.mk "potassiumMg")).toList ++
  (nf.vitaminDMcg.map (Prod.mk "vitaminDMcg")).toList

def validateNutritionFacts (nf : NutritionFacts) :
    Except Error Unit := do
  validateNutrient ("servingSizeAmount", nf.servingSizeAmount)
  ensure (decide (0 < nf.servingSizeAmount))
    (.validation "servingSizeAmount must be positive")
  ensure
    (nf.servingSizeUnit = "g" || nf.servingSizeUnit = "mL")
    (.validation "servingSizeUnit must be 'g' or 'mL'")
  nf.nutrients.forM validateNutrient
  nf.servingsPerContainer |> ifSome fun servings =>
    ensure (decide (0 < servings))
      (.validation "servingsPerContainer must be positive")

def validateFoodMetadata (fm : FoodMetadata) :
    Except Error Unit := do
  fm.allergens.forM fun a =>
    ensure (allergenValues.contains a)
      (.validation
        ("Unknown allergen: '" ++ a ++ "'. Must be one of: " ++
          debugText allergenValues))
  fm.mayContainAllergens.forM fun a =>
    ensure (allergenValues.contains a)
      (.validation
        ("Unknown allergen in mayContain: '" ++ a ++ "'"))
  fm.dietaryBadges.forM fun b =>
    ensure (dietaryBadgeValues.contains b)
      (.validation ("Unknown dietary badge: '" ++ b ++
          "'. Must be one of: " ++
          debugText dietaryBadgeValues))

/- Too much sodium, sugar and saturated fat. -/
def computeFopWarnings (nf : NutritionFacts) :
    Bool × Bool × Bool :=
  (decide (345 ≤ nf.sodiumMg), decide (15000 ≤ nf.sugarsMg),
    decide (3000 ≤ nf.saturatedFatMg))

/- An absent text is left out. -/
def FoodMetadata.toValue (fm : FoodMetadata) : Value :=
  let texts := [("ingredientsEn", fm.ingredientsEn),
      ("ingredientsFr", fm.ingredientsFr),
      ("storageInstructionsEn", fm.storageInstructionsEn),
      ("storageInstructionsFr", fm.storageInstructionsFr)]
  .object (Value.merge [] (texts.filterMap (fun entry =>
        entry.2.map (fun t => (entry.1, .string t))) ++
      (fm.bestBeforeDays.map (fun days =>
        ("bestBeforeDays", intValue days))).toList ++
      [("allergens", strings fm.allergens),
        ("mayContainAllergens",
          strings fm.mayContainAllergens),
        ("dietaryBadges", strings fm.dietaryBadges),
        ("fopHighSodium", .bool fm.fopHighSodium),
        ("fopHighSugars", .bool fm.fopHighSugars),
        ("fopHighSaturatedFat",
          .bool fm.fopHighSaturatedFat)]))

--------
-- Specifications
--------

structure ProductSpec where
  key : String
  value : String
  valueType : String := "text"
  unit : Option String := none
  group : Option String := none

structure ProductSpecs where
  specs : List ProductSpec := []
  brand : Option String := none
  color : Option String := none
  material : Option String := none

def specValueTypes : List String :=
  ["text", "number", "boolean"]

def sizeBetween (low high : Nat) (s : String) : Bool :=
  decide (low ≤ s.utf8ByteSize ∧ s.utf8ByteSize ≤ high)

def validateProductSpec (entry : ProductSpec × Nat) :
    Except Error Unit := do
  let spec := entry.1
  let place := "specs[" ++ toString entry.2 ++ "]"
  ensure (sizeBetween 1 64 spec.key)
    (.validation (place ++ ".key must be 1-64 characters"))
  ensure (sizeBetween 1 500 spec.value)
    (.validation (place ++ ".value must be 1-500 characters"))
  ensure (specValueTypes.contains spec.valueType)
    (.validation
      (place ++ ".valueType '" ++ spec.valueType ++
        "' invalid. Must be one of: " ++
        debugText specValueTypes))
  ensure (sizeBetween 0 20 (spec.unit.getD ""))
    (.validation (place ++ ".unit exceeds 20 characters"))
  ensure (sizeBetween 0 50 (spec.group.getD ""))
    (.validation (place ++ ".group exceeds 50 characters"))

def validateProductSpecs (specs : ProductSpecs) :
    Except Error Unit := do
  ensure (decide (specs.specs.length ≤ 50))
    (.validation "Maximum 50 specifications allowed")
  specs.specs.zipIdx.forM validateProductSpec

--------
-- Contents
--------

/-
  The generated decoders of structures, with the text of
  their errors, and the removal of HTML from a text.
-/
structure Codec where
  nutritionFacts : Value → Except String NutritionFacts
  foodMetadata : Value → Except String FoodMetadata
  productSpecs : Value → Except String ProductSpecs
  sanitizeHtml : String → String

/- A field that is absent or null is not decoded. -/
def decodeField
    {α : Type}
    (decode : Value → Except String α)
    (obj : Fields)
    (field : String) : Except Error (Option α) :=
  match obj.lookup field with
  | none | some .null => .ok none
  | some v =>
    match decode v with
    | .ok a => .ok (some a)
    | .error e =>
      .error (.validation
        ("Invalid " ++ field ++ ": " ++ e))

variable (codec : Codec)

def validateAndProcessNutrition (obj : Fields) :
    Except Error Fields := do
  let facts ←
    decodeField codec.nutritionFacts obj "nutritionFacts"
  ifSome validateNutritionFacts facts
  let food ← decodeField codec.foodMetadata obj "foodMetadata"
  ifSome validateFoodMetadata food
  match facts with
  | none => pure obj
  | some nf =>
    let (highSodium, highSugars, highSatFat) :=
      computeFopWarnings nf
    let fm : FoodMetadata := { food.getD {} with
        fopHighSodium := highSodium
        fopHighSugars := highSugars
        fopHighSaturatedFat := highSatFat }
    pure (Value.insertField "foodMetadata" fm.toValue obj)

/- A text that is there is put under a field of its own. -/
def putText
    (field : String)
    (value : Option String)
    (obj : Fields) : Fields :=
  match value with
  | none => obj
  | some t => Value.insertField field (.string t) obj

def validateAndDenormalizeSpecs (obj : Fields) :
    Except Error Fields := do
  let specs ← decodeField codec.productSpecs obj "specs"
  match specs with
  | none => pure obj
  | some specs =>
    validateProductSpecs specs
    pure (putText "material" specs.material
      (putText "color" specs.color
        (putText "brand" specs.brand obj)))

def checkBundledProducts (obj : Fields) : Except Error Unit :=
  match (obj.lookup "bundledProductIds").bind
      Value.asArray with
  | none => .ok ()
  | some items =>
    ensure (decide (items.length ≤ 5)) (.validation
        "bundledProductIds cannot exceed 5 items")

/- What every change of a whole product ends with. -/
def checkContents (obj : Fields) : Except Error Fields := do
  let obj ← validateAndProcessNutrition codec obj
  let obj ← validateAndDenormalizeSpecs codec obj
  checkBundledProducts obj
  pure obj

/- What specifications put at the top of a product. -/
def specFields : List String := ["brand", "color", "material"]

/- The fields that the checks may write. -/
def derivedFields : List String :=
  ["foodMetadata", "brand", "color", "material"]

theorem lookup_putText
    {field : String}
    (hKey : key ≠ field)
    (value : Option String)
    (obj : Fields) :
    (putText field value obj).lookup key =
      obj.lookup key := by
  cases value with
  | none => rfl
  | some t =>
    unfold putText
    rw [Value.lookup_insertField, if_neg hKey]

theorem lookup_validateAndProcessNutrition
    (hOk : validateAndProcessNutrition codec obj = .ok result)
    (hKey : key ≠ "foodMetadata") :
    result.lookup key = obj.lookup key := by
  rcases Fallible.of_bind_ok hOk with ⟨facts, _, hOk⟩
  rcases Fallible.of_bind_ok hOk with ⟨_, _, hOk⟩
  rcases Fallible.of_bind_ok hOk with ⟨food, _, hOk⟩
  rcases Fallible.of_bind_ok hOk with ⟨_, _, hOk⟩
  cases facts with
  | none =>
    cases hOk
    rfl
  | some nf =>
    cases hOk
    rw [Value.lookup_insertField, if_neg hKey]

theorem lookup_validateAndDenormalizeSpecs
    (hOk : validateAndDenormalizeSpecs codec obj = .ok result)
    (hKey : key ∉ specFields) :
    result.lookup key = obj.lookup key := by
  rcases Fallible.of_bind_ok hOk with ⟨specs, _, hOk⟩
  cases specs with
  | none =>
    cases hOk
    rfl
  | some specs =>
    rcases Fallible.of_bind_ok hOk with ⟨_, _, hOk⟩
    cases hOk
    simp only [specFields, List.mem_cons,
      List.not_mem_nil, or_false, not_or] at hKey
    rw [lookup_putText hKey.2.2, lookup_putText hKey.2.1,
      lookup_putText hKey.1]

/- All other fields are as they were sent. -/
theorem lookup_checkContents
    (hOk : checkContents codec obj = .ok result)
    (hKey : key ∉ derivedFields) :
    result.lookup key = obj.lookup key := by
  rcases Fallible.of_bind_ok hOk with ⟨food, hFood, hOk⟩
  rcases Fallible.of_bind_ok hOk with ⟨specs, hSpecs, hOk⟩
  rcases Fallible.of_bind_ok hOk with ⟨_, _, hOk⟩
  cases hOk
  rcases not_or.mp (List.mem_cons.not.mp hKey) with
    ⟨hOther, hShown⟩
  rw [lookup_validateAndDenormalizeSpecs codec hSpecs hShown,
    lookup_validateAndProcessNutrition codec hFood hOther]

end Orignabase.Products
