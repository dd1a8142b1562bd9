import Orignabase.Database.Jsonb
import Orignabase.Premium.Store

/-
  Documents of a Firestore export, and the plain documents
  that `translate_firestore_doc` makes of them
  (`orignabase/src/main.rs`).

  Objects list their fields in the order of their keys.

  Key definitions include:
    * `translateFirestoreDoc`
    * `Plain`
    * `Plain.encode`, `Plain.value`
    * `document`
    * `Readable`

  Main results:
    * `translate_encode_iff`
    * `translated_iff`
-/

--------
-- Integers
--------

namespace Orignabase.Cli

open Premium (intValue)

/- The digits of a number without a sign. -/
def parseDigits (text : List Char) : Option Nat :=
  if text ≠ [] ∧ text.all Char.isDigit = true then
    some (Nat.ofDigitChars 10 text 0)
  else none

/- An integer of 64 bits. -/
def parseI64 (text : List Char) : Option Int :=
  let read : Option Int :=
    match text with
    | '-' :: digits =>
      (parseDigits digits).map (fun n : Nat => -(n : Int))
    | '+' :: digits =>
      (parseDigits digits).map (fun n : Nat => (n : Int))
    | digits =>
      (parseDigits digits).map (fun n : Nat => (n : Int))
  read.filter (fun n => -(2 ^ 63) ≤ n ∧ n < 2 ^ 63)

theorem isDigit_of_mem_toDigits
    {n : Nat}
    {c : Char}
    (hMem : c ∈ Nat.toDigits 10 n) :
    c.isDigit = true :=
  Nat.isDigit_of_mem_toDigits (by decide) (by decide) hMem

theorem parseDigits_toDigits (n : Nat) :
    parseDigits (Nat.toDigits 10 n) = some n := by
  have hAll :
      (Nat.toDigits 10 n).all Char.isDigit = true :=
    List.all_eq_true.mpr (fun _ => isDigit_of_mem_toDigits)
  unfold parseDigits
  rw [if_pos ⟨Nat.toDigits_ne_nil, hAll⟩,
    Nat.ofDigitChars_ten_toDigits]

/- The decimal text of an integer. -/
def intText (n : Int) : List Char :=
  if n < 0 then '-' :: Nat.toDigits 10 n.natAbs
  else Nat.toDigits 10 n.natAbs

theorem parseI64_intText
    {n : Int}
    (hLow : -(2 ^ 63) ≤ n)
    (hHigh : n < 2 ^ 63) :
    parseI64 (intText n) = some n := by
  have hRange :
      decide (-(2 ^ 63) ≤ n ∧ n < 2 ^ 63) = true :=
    decide_eq_true ⟨hLow, hHigh⟩
  unfold intText
  split_ifs with hNegative
  · have hNat : -(n.natAbs : Int) = n := by omega
    simp only [parseI64, parseDigits_toDigits,
      Option.map_some, hNat]
    rw [Option.filter_some, if_pos hRange]
  · have hNat : (n.natAbs : Int) = n := by omega
    have hRead :
        (match Nat.toDigits 10 n.natAbs with
          | '-' :: digits =>
            (parseDigits digits).map
              (fun n : Nat => -(n : Int))
          | '+' :: digits =>
            (parseDigits digits).map
              (fun n : Nat => (n : Int))
          | digits =>
            (parseDigits digits).map
              (fun n : Nat => (n : Int))) =
          some n := by
      have hDigit (c : Char)
          (hMem : c ∈ Nat.toDigits 10 n.natAbs) :=
        isDigit_of_mem_toDigits hMem
      split
      · rename_i digits hText
        rw [hText] at hDigit
        exact absurd
          (hDigit '-' List.mem_cons_self) (by decide)
      · rename_i digits hText
        rw [hText] at hDigit
        exact absurd
          (hDigit '+' List.mem_cons_self) (by decide)
      · rw [parseDigits_toDigits, Option.map_some, hNat]
    simp only [parseI64]
    rw [hRead, Option.filter_some, if_pos hRange]

--------
-- Translation
--------

open Premium (intValue)

/- What an object of one field stands for in an export. -/
inductive Wrapper
  | value (v : Value)
  | items (items : List Value)
  | map (fields : Value)

/- Integers are stored as texts. -/
def integerValue (v : Value) : Value :=
  match (v.asStr.map String.toList).bind parseI64 with
  | some n => intValue n
  | none => v

def arrayValue (v : Value) : Wrapper :=
  match (v.get "values").bind Value.asArray with
  | some values => .items values
  | none => .items []

def mapValue (v : Value) : Wrapper :=
  match v.get "fields" with
  | some fields => .map fields
  | none => .value (.object [])

/- The typed value that an object of one field wraps. -/
def wrapper : List (String × Value) → Option Wrapper
  | [(key, v)] =>
    match key with
    | "stringValue" => some (.value v)
    | "integerValue" => some (.value (integerValue v))
    | "doubleValue" => some (.value v)
    | "booleanValue" => some (.value v)
    | "timestampValue" => some (.value v)
    | "nullValue" => some (.value .null)
    | "arrayValue" => some (arrayValue v)
    | "mapValue" => some (mapValue v)
    | "geoPointValue" => some (.value v)
    | "referenceValue" => some (.value v)
    | _ => none
  | _ => none

/- The part of a path after its last slash. -/
def lastSegment (path : String) : String :=
  String.ofList
    ((path.toList.reverse.takeWhile (· ≠ '/')).reverse)

/- The fields of a document, with the id its name ends in. -/
def identified
    (name : Option Value)
    (fields : List (String × Value)) :
    List (String × Value) :=
  match name.bind Value.asStr with
  | some path =>
    Value.insertField "id" (.string (lastSegment path))
      fields
  | none => fields

/- Metadata of the export. -/
def isMetadata (key : String) : Bool :=
  key = "__name__" || key = "createTime" ||
    key = "updateTime"

/- The fields of an object; other values have none. -/
def members (v : Value) : List (String × Value) :=
  v.asObject.getD []

variable {v : Value} {key : String}

theorem sizeOf_item
    {items : List Value}
    (hMem : v ∈ items) :
    sizeOf v < sizeOf (Value.array items) := by
  have hLt := List.sizeOf_lt_of_mem hMem
  simp only [Value.array.sizeOf_spec]
  omega

/- A field is smaller than the fields it is one of. -/
theorem sizeOf_snd
    {α : Type}
    [SizeOf α]
    {field : String × α}
    {fields : List (String × α)}
    (hMem : field ∈ fields) :
    sizeOf field.2 < sizeOf fields := by
  rcases field with ⟨key, v⟩
  have hLt := List.sizeOf_lt_of_mem hMem
  simp only [Prod.mk.sizeOf_spec] at hLt
  show sizeOf v < sizeOf fields
  omega

theorem sizeOf_field
    {field : String × Value}
    {fields : List (String × Value)}
    (hMem : field ∈ fields) :
    sizeOf field.2 < sizeOf (Value.object fields) := by
  have hLt := sizeOf_snd hMem
  simp only [Value.object.sizeOf_spec]
  omega

theorem mem_of_lookup
    {fields : List (String × Value)}
    (hFound : fields.lookup key = some v) :
    (key, v) ∈ fields := by
  rcases List.lookup_eq_some_iff.mp hFound with
    ⟨before, after, rfl, -⟩
  simp

theorem sizeOf_get
    {w : Value}
    (hGet : v.get key = some w) :
    sizeOf w < sizeOf v := by
  cases v with
  | object fields =>
    exact sizeOf_field (mem_of_lookup hGet)
  | null | bool _ | number _ | string _ | array _ =>
    cases hGet

theorem sizeOf_member
    {field : String × Value}
    (hMem : field ∈ members v) :
    sizeOf field.2 < sizeOf v := by
  cases v with
  | object fields => exact sizeOf_field hMem
  | null | bool _ | number _ | string _ | array _ =>
    cases hMem

/- What is wrapped is smaller than its wrapper. -/
theorem sizeOf_wrapped_item
    {map : List (String × Value)}
    {items : List Value}
    (hWrapper : wrapper map = some (.items items))
    (hMem : v ∈ items) :
    sizeOf v < sizeOf (Value.object map) := by
  unfold wrapper at hWrapper
  split at hWrapper
  · rename_i key content
    have hContent :
        sizeOf content < sizeOf (Value.object
          [(key, content)]) :=
      sizeOf_field (List.mem_singleton_self (key, content))
    split at hWrapper
    all_goals try cases hWrapper
    · unfold arrayValue at hWrapper
      split at hWrapper
      · rename_i values hValues
        cases hWrapper
        rcases Option.bind_eq_some_iff.mp hValues with
          ⟨array, hGet, hArray⟩
        cases array with
        | array values =>
          cases hArray
          have hItem := sizeOf_item hMem
          have hArrayLt := sizeOf_get hGet
          omega
        | null | bool _ | number _ | string _ | object _ =>
          cases hArray
      · cases hWrapper
        cases hMem
    · unfold mapValue at hWrapper
      split at hWrapper
      all_goals cases hWrapper
  · cases hWrapper

theorem sizeOf_wrapped_map
    {map : List (String × Value)}
    {fields : Value}
    (hWrapper : wrapper map = some (.map fields)) :
    sizeOf fields < sizeOf (Value.object map) := by
  unfold wrapper at hWrapper
  split at hWrapper
  · rename_i key content
    have hContent :
        sizeOf content < sizeOf (Value.object
          [(key, content)]) :=
      sizeOf_field (List.mem_singleton_self (key, content))
    split at hWrapper
    all_goals try cases hWrapper
    · unfold arrayValue at hWrapper
      split at hWrapper
      all_goals cases hWrapper
    · unfold mapValue at hWrapper
      split at hWrapper
      · rename_i found hGet
        cases hWrapper
        have hLt := sizeOf_get hGet
        omega
      · cases hWrapper
  · cases hWrapper

/- Translate typed values of an export to plain JSON. -/
def translateFirestoreDoc (doc : Value) : Value :=
  match doc with
  | .object map =>
    match _hWrapper : wrapper map with
    | some (.value v) => v
    | some (.items items) =>
      .array (items.attach.map
        (fun item => translateFirestoreDoc item.val))
    | some (.map fields) => translateFirestoreDoc fields
    | none =>
      match _hFields : map.lookup "fields" with
      | some fields =>
        .object (identified (map.lookup "name")
          ((members fields).attach.map (fun field =>
            (field.val.1,
              translateFirestoreDoc field.val.2))))
      | none =>
        -- A regular object.
        .object ((map.filter
          (fun field => !isMetadata field.1)).attach.map
            (fun field =>
              (field.val.1,
                translateFirestoreDoc field.val.2)))
  | .array items =>
    .array (items.attach.map
      (fun item => translateFirestoreDoc item.val))
  | v => v
termination_by doc
decreasing_by
  · exact sizeOf_wrapped_item _hWrapper item.property
  · exact sizeOf_wrapped_map _hWrapper
  · exact Nat.lt_trans (sizeOf_member field.property)
      (sizeOf_field (mem_of_lookup _hFields))
  · exact sizeOf_field
      (List.mem_of_mem_filter field.property)
  · exact sizeOf_item item.property

/- The fields with their values translated. -/
def translateFields (fields : List (String × Value)) :
    List (String × Value) :=
  fields.map (fun field =>
    (field.1, translateFirestoreDoc field.2))

theorem translate_object (map : List (String × Value)) :
    translateFirestoreDoc (.object map) =
      match wrapper map with
      | some (.value v) => v
      | some (.items items) =>
        .array (items.map translateFirestoreDoc)
      | some (.map fields) => translateFirestoreDoc fields
      | none =>
        match map.lookup "fields" with
        | some fields =>
          .object (identified (map.lookup "name")
            (translateFields (members fields)))
        | none =>
          .object (translateFields (map.filter
            (fun field => !isMetadata field.1))) := by
  have hEach (fields : List (String × Value)) :
      fields.attach.map (fun field =>
          (field.val.1, translateFirestoreDoc field.val.2)) =
        translateFields fields :=
    List.attach_map_val (f := fun field : String × Value =>
      (field.1, translateFirestoreDoc field.2))
  rw [translateFirestoreDoc]
  split
  · rename_i v hWrapper
    rw [hWrapper]
  · rename_i items hWrapper
    rw [hWrapper, List.attach_map_val]
  · rename_i fields hWrapper
    rw [hWrapper]
  · rename_i hWrapper
    rw [hWrapper]
    split
    · rename_i fields hFields
      rw [hFields, hEach]
    · rename_i hFields
      rw [hFields, hEach]

theorem translate_array (items : List Value) :
    translateFirestoreDoc (.array items) =
      .array (items.map translateFirestoreDoc) := by
  rw [translateFirestoreDoc, List.attach_map_val]

--------
-- Plain Values
--------

open Premium (intValue)

/- The values of a document. -/
inductive Plain
  | null
  | bool (b : Bool)
  | int (n : Int64)
  | double (n : Number)
  | string (s : String)
  | timestamp (time : String)
  | array (items : List Plain)
  | map (fields : List (String × Plain))

namespace Plain

/- A value as plain JSON. -/
def value (p : Plain) : Value :=
  match p with
  | .null => .null
  | .bool b => .bool b
  | .int n => intValue n.toInt
  | .double n => .number n
  | .string s => .string s
  | .timestamp time => .string time
  | .array items => .array (items.map (fun v => v.value))
  | .map fields =>
    .object (fields.map (fun field =>
      (field.1, field.2.value)))
termination_by p
decreasing_by
  all_goals simp only [map.sizeOf_spec, array.sizeOf_spec]
  · have hLt := List.sizeOf_lt_of_mem ‹v ∈ items›
    omega
  · have hLt := sizeOf_snd ‹field ∈ fields›
    omega

/- The name of the type that an export gives a value. -/
def kind : Plain → String
  | .null => "nullValue"
  | .bool _ => "booleanValue"
  | .int _ => "integerValue"
  | .double _ => "doubleValue"
  | .string _ => "stringValue"
  | .timestamp _ => "timestampValue"
  | .array _ => "arrayValue"
  | .map _ => "mapValue"

/-
  What an export writes under the type of a value.  Empty
  arrays and maps can be written without their one member.
-/
def content (bare : Bool) (p : Plain) : Value :=
  match p with
  | .null => .null
  | .bool b => .bool b
  | .int n => .string (String.ofList (intText n.toInt))
  | .double n => .number n
  | .string s => .string s
  | .timestamp time => .string time
  | .array items =>
    .object (if bare && items.isEmpty then []
      else [("values", .array (items.map (fun v =>
        .object [(v.kind, v.content bare)])))])
  | .map fields =>
    .object (if bare && fields.isEmpty then []
      else [("fields", .object (fields.map (fun field =>
        (field.1, .object
          [(field.2.kind, field.2.content bare)]))))])
termination_by p
decreasing_by
  all_goals simp only [map.sizeOf_spec, array.sizeOf_spec]
  · have hLt := List.sizeOf_lt_of_mem ‹v ∈ items›
    omega
  · have hLt := sizeOf_snd ‹field ∈ fields›
    omega

/- A value as an export writes it. -/
def encode (bare : Bool) (p : Plain) : Value :=
  .object [(p.kind, p.content bare)]

end Plain

/- The fields of a map as plain JSON, and in an export. -/
def plainFields (fields : List (String × Plain)) :
    List (String × Value) :=
  fields.map (fun field => (field.1, field.2.value))

def encodeFields
    (bare : Bool)
    (fields : List (String × Plain)) :
    List (String × Value) :=
  fields.map (fun field => (field.1, field.2.encode bare))

/- A document as an export writes it. -/
def document
    (bare : Bool)
    (name createTime updateTime : String)
    (fields : List (String × Plain)) : Value :=
  .object [ ("createTime", .string createTime),
    ("fields", .object (encodeFields bare fields)),
    ("name", .string name),
    ("updateTime", .string updateTime)]

/- The only fields named like a type that are read back. -/
def Coincides : String → Plain → Prop
  | "stringValue", .string _ => True
  | "doubleValue", .double _ => True
  | "booleanValue", .bool _ => True
  | "timestampValue", .timestamp _ => True
  | _, _ => False

/- The names of the types of values. -/
def typeNames : List String := [
  "stringValue",
  "integerValue",
  "doubleValue",
  "booleanValue",
  "timestampValue",
  "nullValue",
  "arrayValue",
  "mapValue",
  "geoPointValue",
  "referenceValue"]

/-
  Maps whose names mean nothing in an export: no single field
  named like a type, and no field named like a part of a
  document.
-/
def Unmarked (fields : List (String × Plain)) : Prop :=
  (∀ field, fields = [field] → field.1 ∉ typeNames) ∧
    ∀ field ∈ fields,
      field.1 ≠ "fields" ∧ isMetadata field.1 = false

/- The values in which every map can be told from a wrapper. -/
def Readable (p : Plain) : Prop :=
  match p with
  | .array items => ∀ v ∈ items, Readable v
  | .map fields =>
    (∃ field, fields = [field] ∧
      Coincides field.1 field.2) ∨
    (Unmarked fields ∧ ∀ field ∈ fields, Readable field.2)
  | _ => True
termination_by p
decreasing_by
  all_goals
    simp only [Plain.map.sizeOf_spec,
      Plain.array.sizeOf_spec]
  · have hLt := List.sizeOf_lt_of_mem ‹v ∈ items›
    omega
  · have hLt := sizeOf_snd ‹field ∈ fields›
    omega

--------
-- Encoded Values
--------

open Premium (intValue)

theorem value_array (items : List Plain) :
    (Plain.array items).value =
      .array (items.map Plain.value) := by
  rw [Plain.value]

theorem value_map (fields : List (String × Plain)) :
    (Plain.map fields).value = .object (plainFields fields) := by
  rw [Plain.value]
  rfl

theorem encode_array (bare : Bool) (items : List Plain) :
    (Plain.array items).encode bare =
      .object [("arrayValue", .object
        (if bare && items.isEmpty then []
        else [("values",
          .array (items.map (Plain.encode bare)))]))] := by
  unfold Plain.encode
  rw [Plain.content]
  rfl

theorem encode_map
    (bare : Bool)
    (fields : List (String × Plain)) :
    (Plain.map fields).encode bare =
      .object [("mapValue", .object
        (if bare && fields.isEmpty then []
        else [("fields",
          .object (encodeFields bare fields))]))] := by
  unfold Plain.encode
  rw [Plain.content]
  rfl

theorem kind_mem (p : Plain) : p.kind ∈ typeNames := by
  cases p
  all_goals simp [Plain.kind, typeNames]

theorem integerValue_intText (n : Int64) :
    integerValue (.string (String.ofList (intText n.toInt))) =
      intValue n.toInt := by
  have hParsed : parseI64 (intText n.toInt) = some n.toInt :=
    parseI64_intText n.le_toInt n.toInt_lt
  unfold integerValue
  simp only [Value.asStr, Option.map_some,
    String.toList_ofList, Option.bind_some, hParsed]

theorem translate_encode_array
    (bare : Bool)
    (items : List Plain) :
    translateFirestoreDoc ((Plain.array items).encode bare) =
      .array (items.map (fun v =>
        translateFirestoreDoc (v.encode bare))) := by
  rw [encode_array, translate_object]
  cases hEmpty : bare && items.isEmpty with
  | true =>
    rw [Bool.and_eq_true, List.isEmpty_iff] at hEmpty
    rw [hEmpty.2]
    rfl
  | false =>
    show Value.array ((items.map
      (Plain.encode bare)).map translateFirestoreDoc) = _
    rw [List.map_map]
    rfl

/- A map is translated like an object of its own. -/
theorem translate_encode_map
    (bare : Bool)
    (fields : List (String × Plain)) :
    translateFirestoreDoc ((Plain.map fields).encode bare) =
      translateFirestoreDoc
        (.object (encodeFields bare fields)) := by
  rw [encode_map, translate_object]
  cases hEmpty : bare && fields.isEmpty with
  | true =>
    rw [Bool.and_eq_true, List.isEmpty_iff] at hEmpty
    rw [hEmpty.2, translate_object]
    rfl
  | false => rfl

--------
-- Maps
--------

theorem wrapper_of_notMem
    (v : Value)
    (hNot : key ∉ typeNames) :
    wrapper [(key, v)] = none := by
  simp only [wrapper]
  split
  all_goals
    first
    | rfl
    | exact absurd (by simp [typeNames]) hNot

variable {fields : List (String × Plain)}

theorem wrapper_encodeFields
    (bare : Bool)
    (hNot : ∀ field, fields = [field] →
      field.1 ∉ typeNames) :
    wrapper (encodeFields bare fields) = none := by
  rcases fields with _ | ⟨field, _ | ⟨next, rest⟩⟩
  · rfl
  · exact wrapper_of_notMem _ (hNot field rfl)
  · rfl

/- A wrapped value is itself read as a map of one field. -/
theorem encode_eq_single_iff
    (bare : Bool)
    (p : Plain)
    (hNull : key ≠ "nullValue")
    (hArray : key ≠ "arrayValue")
    (hMap : key ≠ "mapValue") :
    p.encode bare = .object [(key, p.value)] ↔
      Coincides key p := by
  constructor
  · intro hSame
    have hField : p.kind = key ∧ p.content bare = p.value := by
      simpa [Plain.encode] using hSame
    rcases hField with ⟨rfl, hContent⟩
    cases p with
    | null => exact absurd rfl hNull
    | bool b => trivial
    | int n =>
      -- The text of a number is not the number.
      rw [Plain.content, Plain.value] at hContent
      cases hContent
    | double n => trivial
    | string s => trivial
    | timestamp time => trivial
    | array items => exact absurd rfl hArray
    | map fields => exact absurd rfl hMap
  · intro hCoincides
    unfold Coincides at hCoincides
    split at hCoincides
    all_goals
      first
      | exact hCoincides.elim
      | rw [Plain.encode, Plain.content, Plain.value]
        rfl

theorem get_encode
    (bare : Bool)
    (p : Plain)
    (hNot : key ∉ typeNames) :
    (p.encode bare).get key = none := by
  have hNe : key ≠ p.kind := fun hSame =>
    hNot (hSame ▸ kind_mem p)
  show List.lookup key [(p.kind, p.content bare)] = none
  rw [Value.lookup_field, if_neg hNe]
  rfl

/- A single field that is named like a type. -/
theorem translate_single_iff
    (bare : Bool)
    (p : Plain)
    (hType : key ∈ typeNames) :
    translateFirestoreDoc (.object [(key, p.encode bare)]) =
        .object [(key, p.value)] ↔
      Coincides key p := by
  rw [translate_object]
  simp only [typeNames, List.mem_cons, List.not_mem_nil,
    or_false] at hType
  rcases hType with rfl | rfl | rfl | rfl | rfl | rfl | rfl |
    rfl | rfl | rfl
  · exact encode_eq_single_iff bare p (by decide) (by decide)
      (by decide)
  · have hKept :
        integerValue (p.encode bare) = p.encode bare := rfl
    show integerValue (p.encode bare) = _ ↔ _
    rw [hKept]
    exact encode_eq_single_iff bare p (by decide) (by decide)
      (by decide)
  · exact encode_eq_single_iff bare p (by decide) (by decide)
      (by decide)
  · exact encode_eq_single_iff bare p (by decide) (by decide)
      (by decide)
  · exact encode_eq_single_iff bare p (by decide) (by decide)
      (by decide)
  · show Value.null = _ ↔ _
    simp [Coincides]
  · have hNone : arrayValue (p.encode bare) = .items [] := by
      unfold arrayValue
      rw [get_encode bare p (by decide)]
      rfl
    simp only [wrapper, hNone]
    simp [Coincides]
  · have hNone :
        mapValue (p.encode bare) = .value (.object []) := by
      unfold mapValue
      rw [get_encode bare p (by decide)]
    simp only [wrapper, hNone]
    simp [Coincides]
  · exact encode_eq_single_iff bare p (by decide) (by decide)
      (by decide)
  · exact encode_eq_single_iff bare p (by decide) (by decide)
      (by decide)

--------
-- Reading Back
--------

open Premium (intValue)

theorem translateFields_encodeFields
    (bare : Bool)
    (fields : List (String × Plain)) :
    translateFields (encodeFields bare fields) =
      fields.map (fun field => (field.1,
        translateFirestoreDoc (field.2.encode bare))) := by
  unfold translateFields encodeFields
  rw [List.map_map]
  rfl

/- All fields are read back exactly when each of them is. -/
theorem translateFields_eq_iff
    (bare : Bool)
    (fields : List (String × Plain)) :
    translateFields (encodeFields bare fields) =
        plainFields fields ↔
      ∀ field ∈ fields,
        translateFirestoreDoc (field.2.encode bare) =
          field.2.value := by
  rw [translateFields_encodeFields]
  unfold plainFields
  rw [List.map_inj_left]
  constructor
  · intro hSame field hMem
    exact (Prod.mk.inj (hSame field hMem)).2
  · intro hSame field hMem
    exact Prod.ext rfl (hSame field hMem)

/- A lookup in an encoded map finds an encoded value. -/
theorem lookup_encodeFields
    {bare : Bool}
    (hFound : (encodeFields bare fields).lookup key = some v) :
    ∃ p, (key, p) ∈ fields ∧ v = p.encode bare := by
  rcases List.mem_map.mp (mem_of_lookup hFound) with
    ⟨⟨name, p⟩, hMem, hField⟩
  cases hField
  exact ⟨p, hMem, rfl⟩

/- The name of an encoded map is not a text. -/
theorem identified_encodeFields
    (bare : Bool)
    (fields : List (String × Plain))
    (members : List (String × Value)) :
    identified ((encodeFields bare fields).lookup "name")
        members = members := by
  cases hName : (encodeFields bare fields).lookup "name" with
  | none => rfl
  | some v =>
    rcases lookup_encodeFields hName with ⟨p, -, rfl⟩
    rfl

/- A map that holds a field named "fields" is taken apart. -/
theorem translate_fields_ne
    {p : Plain}
    (hMem : ("fields", p) ∈ fields)
    (v : Value) :
    Value.object (translateFields [(p.kind, v)]) ≠
      .object (plainFields fields) := by
  intro hSame
  have hKeys := congrArg (List.map Prod.fst)
    (Value.object.inj hSame)
  have hKey :
      "fields" ∈ (plainFields fields).map Prod.fst :=
    List.mem_map_of_mem (List.mem_map_of_mem hMem)
  rw [← hKeys] at hKey
  have hKind : "fields" = p.kind := by
    simpa [translateFields] using hKey
  have hType := kind_mem p
  rw [← hKind] at hType
  exact absurd hType (by decide)

/-
  A map that is not taken for a wrapper is read back exactly
  when no field of it is dropped or taken for the fields of a
  document, and its values are read back.
-/
theorem translate_map_iff
    (bare : Bool)
    (hWrapper : ∀ field, fields = [field] →
      field.1 ∉ typeNames) :
    translateFirestoreDoc
        (.object (encodeFields bare fields)) =
          .object (plainFields fields) ↔
      (∀ field ∈ fields,
        field.1 ≠ "fields" ∧ isMetadata field.1 = false) ∧
      ∀ field ∈ fields,
        translateFirestoreDoc (field.2.encode bare) =
          field.2.value := by
  rw [translate_object, wrapper_encodeFields bare hWrapper]
  cases hFields :
      (encodeFields bare fields).lookup "fields" with
  | some v =>
    rcases lookup_encodeFields hFields with ⟨p, hMem, rfl⟩
    simp only
    rw [identified_encodeFields]
    constructor
    · intro hSame
      exact absurd hSame (translate_fields_ne hMem _)
    · rintro ⟨hNames, -⟩
      exact absurd rfl (hNames _ hMem).1
  | none =>
    simp only
    have hNoFields :
        ∀ field ∈ fields, field.1 ≠ "fields" := by
      intro field hMem hName
      rw [List.lookup_eq_none_iff] at hFields
      have hNe := hFields (field.1, field.2.encode bare)
        (List.mem_map_of_mem hMem)
      rw [hName] at hNe
      simp at hNe
    have hKept :
        (encodeFields bare fields).filter
            (fun field => !isMetadata field.1) =
          encodeFields bare fields ↔
        ∀ field ∈ fields, isMetadata field.1 = false := by
      rw [List.filter_eq_self]
      unfold encodeFields
      simp only [List.forall_mem_map, Bool.not_eq_true']
    constructor
    · intro hSame
      have hLists := Value.object.inj hSame
      have hLengths := congrArg List.length hLists
      simp only [translateFields, plainFields,
        List.length_map] at hLengths
      have hAll :
          (encodeFields bare fields).filter
              (fun field => !isMetadata field.1) =
            encodeFields bare fields := by
        rw [List.filter_eq_self,
          ← List.length_filter_eq_length_iff, hLengths]
        exact (List.length_map _).symm
      rw [hAll, translateFields_eq_iff] at hLists
      refine ⟨?_, hLists⟩
      intro field hMem
      exact ⟨hNoFields field hMem, hKept.mp hAll field hMem⟩
    · rintro ⟨hNames, hValues⟩
      rw [hKept.mpr
          (fun field hMem => (hNames field hMem).2),
        (translateFields_eq_iff bare fields).mpr hValues]

theorem coincides_typeName
    {p : Plain}
    (hCoincides : Coincides key p) :
    key ∈ typeNames := by
  unfold Coincides at hCoincides
  split at hCoincides
  all_goals
    first
    | exact hCoincides.elim
    | simp [typeNames]

/-
  An encoded value is read back exactly when no map in it can
  be taken for a wrapper or for a document.
-/
theorem translate_encode_iff (bare : Bool) (p : Plain) :
    translateFirestoreDoc (p.encode bare) = p.value ↔
      Readable p := by
  induction p using Readable.induct with
  | case1 items ih =>
    rw [translate_encode_array, value_array, Readable]
    simp only [Value.array.injEq, List.map_inj_left]
    exact forall₂_congr ih
  | case2 fields ih =>
    rw [translate_encode_map, value_map, Readable]
    by_cases hWrapper : ∀ field, fields = [field] →
        field.1 ∉ typeNames
    · rw [translate_map_iff bare hWrapper]
      constructor
      · rintro ⟨hNames, hValues⟩
        refine .inr ⟨⟨hWrapper, hNames⟩, ?_⟩
        intro field hMem
        exact (ih field hMem).mp (hValues field hMem)
      · rintro (⟨field, hOne, hCoincides⟩ |
          ⟨hUnmarked, hValues⟩)
        · exact absurd (coincides_typeName hCoincides)
            (hWrapper field hOne)
        · refine ⟨hUnmarked.2, ?_⟩
          intro field hMem
          exact (ih field hMem).mpr (hValues field hMem)
    · -- A single field that is named like a type.
      simp only [not_forall, not_not] at hWrapper
      rcases hWrapper with ⟨⟨key, p⟩, rfl, hType⟩
      refine (translate_single_iff bare p hType).trans ?_
      constructor
      · intro hCoincides
        exact .inl ⟨_, rfl, hCoincides⟩
      · rintro (⟨field, hOne, hCoincides⟩ | ⟨hUnmarked, -⟩)
        · cases hOne
          exact hCoincides
        · exact absurd hType (hUnmarked.1 _ rfl)
  | case3 p hArray hMap =>
    cases p with
    | array items => exact absurd rfl (hArray items)
    | map fields => exact absurd rfl (hMap fields)
    | int n =>
      rw [Plain.encode, Plain.content, Plain.value,
        Readable, translate_object]
      · refine iff_of_true ?_ trivial
        exact integerValue_intText n
      · exact hArray
      · exact hMap
    | _ =>
      rw [Plain.encode, Plain.content, Plain.value,
        Readable, translate_object]
      · exact iff_of_true rfl trivial
      · exact hArray
      · exact hMap

/- The fields of a document with its id. -/
def withId
    (name : String)
    (fields : List (String × Value)) : Value :=
  .object (Value.insertField "id"
    (.string (lastSegment name)) fields)

theorem translate_document
    (bare : Bool)
    (name createTime updateTime : String)
    (fields : List (String × Plain)) :
    translateFirestoreDoc
        (document bare name createTime updateTime fields) =
      withId name
        (translateFields (encodeFields bare fields)) := by
  unfold document
  rw [translate_object]
  rfl

/- Objects differ if they do before an id is put in. -/
theorem insertField_injective
    {l r : List (String × Value)}
    (hKeys : l.map Prod.fst = r.map Prod.fst)
    (hNot : key ∉ l.map Prod.fst)
    (hSame :
      Value.insertField key v l =
        Value.insertField key v r) :
    l = r := by
  induction l generalizing r with
  | nil =>
    cases r with
    | nil => rfl
    | cons field rest => cases hKeys
  | cons field rest ih =>
    rcases field with ⟨j, x⟩
    cases r with
    | nil => cases hKeys
    | cons other others =>
      rcases other with ⟨k, y⟩
      simp only [List.map_cons, List.cons.injEq] at hKeys
      rcases hKeys with ⟨rfl, hKeys⟩
      rw [List.map_cons, List.mem_cons, not_or] at hNot
      unfold Value.insertField at hSame
      rw [if_neg (Ne.symm hNot.1),
        if_neg (Ne.symm hNot.1)] at hSame
      split_ifs at hSame
      · exact (List.cons.inj hSame).2
      · rcases List.cons.inj hSame with ⟨hField, hRest⟩
        rw [hField, ih hKeys hNot.2 hRest]

/-
  What an export encodes is read back exactly when no map in
  it can be taken for a wrapper or for a document: a value,
  and the fields of a document, which gets the id at the end
  of its name.
-/
theorem translated_iff (bare : Bool) :
    (∀ p : Plain,
      translateFirestoreDoc (p.encode bare) = p.value ↔
        Readable p) ∧
    ∀ (name createTime updateTime : String)
      (fields : List (String × Plain)),
      "id" ∉ fields.map Prod.fst →
      (translateFirestoreDoc
          (document bare name createTime updateTime fields) =
            withId name (plainFields fields) ↔
        ∀ field ∈ fields, Readable field.2) := by
  refine ⟨translate_encode_iff bare, ?_⟩
  intro name createTime updateTime fields hNoId
  have hKeys :
      (translateFields (encodeFields bare fields)).map
          Prod.fst = fields.map Prod.fst := by
    rw [translateFields_encodeFields, List.map_map]
    rfl
  have hPlain :
      (plainFields fields).map Prod.fst =
        fields.map Prod.fst := by
    unfold plainFields
    rw [List.map_map]
    rfl
  rw [translate_document]
  constructor
  · intro hSame
    have hFields := insertField_injective
      (hKeys.trans hPlain.symm) (hKeys ▸ hNoId)
      (Value.object.inj hSame)
    rw [translateFields_eq_iff] at hFields
    intro field hMem
    exact (translate_encode_iff bare field.2).mp
      (hFields field hMem)
  · intro hReadable
    rw [(translateFields_eq_iff bare fields).mpr]
    intro field hMem
    exact (translate_encode_iff bare field.2).mpr
      (hReadable field hMem)

/- A map with the time at which it was made. -/
def quote : Plain :=
  .map [("createTime", .timestamp "2026-03-10T12:00:00Z"),
    ("total", .int 5)]

/- The time is lost. -/
theorem quote_loses_time :
    translateFirestoreDoc (quote.encode false) =
      .object [("total", intValue 5)] ∧
    translateFirestoreDoc (quote.encode false) ≠
      quote.value := by
  have hTotal :
      translateFirestoreDoc ((Plain.int 5).encode false) =
        intValue 5 := by
    rw [Plain.encode, Plain.content, translate_object]
    · exact integerValue_intText 5
  have hQuote :
      translateFirestoreDoc (quote.encode false) =
        .object [("total", intValue 5)] := by
    unfold quote
    rw [translate_encode_map, translate_object]
    change Value.object [("total", translateFirestoreDoc
        ((Plain.int 5).encode false))] = _
    rw [hTotal]
  refine ⟨hQuote, ?_⟩
  rw [hQuote]
  unfold quote
  rw [value_map]
  intro hSame
  have hLengths := congrArg List.length
    (Value.object.inj hSame)
  cases hLengths

end Orignabase.Cli
