import Orignabase.Lib.Text
import Mathlib.Algebra.Group.Int.Defs
import Mathlib.Algebra.Group.Nat.Defs

/-
  JSON values and their compact text, as `serde_json` builds
  and prints them.  Objects list their fields in the order
  of iteration.

  Key definitions include:
    * `Number`
    * `Value`
    * `Value.get`
    * `Floats`
    * `Value.eq`
    * `Floats.decimal`
    * `Value.toText`
-/

--------
-- Values
--------

namespace Orignabase

/-
  A JSON number by the parts of its decimal text: sign,
  integer part, fraction digits (none for an integer) and an
  exponent with its sign.
-/
structure Number where
  negative : Bool := false
  int : Nat
  frac : List (Fin 10) := []
  exp : Option (Bool × Nat) := none
  deriving DecidableEq, Repr

inductive Value
  | null
  | bool (b : Bool)
  | number (n : Number)
  | string (s : String)
  | array (items : List Value)
  | object (fields : List (String × Value))
  deriving Repr

namespace Value

def isNull : Value → Bool
  | .null => true
  | _ => false

def asStr : Value → Option String
  | .string s => some s
  | _ => none

/- An integer without sign that fits into 64 bits. -/
def asU64 : Value → Option Nat
  | .number ⟨false, int, [], none⟩ =>
    if int < 2 ^ 64 then some int else none
  | _ => none

def asArray : Value → Option (List Value)
  | .array items => some items
  | _ => none

def asObject : Value → Option (List (String × Value))
  | .object fields => some fields
  | _ => none

/- `Value::get` with a text: only objects have fields. -/
def get (v : Value) (key : String) : Option Value :=
  match v with
  | .object fields => fields.lookup key
  | _ => none

/- A field that is a text. -/
def getStr (v : Value) (key : String) : Option String :=
  (v.get key).bind asStr

end Value

--------
-- Equality
--------

/-
  What the code takes from 64-bit floating point: the number
  that the text of a literal stands for (none where it is
  not finite), and how two numbers compare.  An integer and
  a float are never equal, whatever their values.
-/
structure Floats where
  literal : String → Option Number
  isZero : Number → Bool
  eq : Number → Number → Bool
  lt : Number → Number → Bool
  le : Number → Number → Bool

namespace Value

mutual

/- `==` of two values; objects are ordered by their keys. -/
def eq (floats : Floats) : Value → Value → Bool
  | .null, .null => true
  | .bool a, .bool b => a == b
  | .number m, .number n => floats.eq m n
  | .string s, .string t => s == t
  | .array xs, .array ys => itemsEq floats xs ys
  | .object xs, .object ys => fieldsEq floats xs ys
  | _, _ => false

def itemsEq (floats : Floats) :
    List Value → List Value → Bool
  | [], [] => true
  | x :: xs, y :: ys => x.eq floats y && itemsEq floats xs ys
  | _, _ => false

def fieldsEq (floats : Floats) :
    List (String × Value) → List (String × Value) → Bool
  | [], [] => true
  | (j, x) :: xs, (k, y) :: ys =>
    j == k && x.eq floats y && fieldsEq floats xs ys
  | _, _ => false

end

/- Only a text equals a text, and only the same one. -/
theorem eq_string
    (floats : Floats)
    (v : Value)
    (s : String) :
    v.eq floats (.string s) = true ↔ v = .string s := by
  cases v <;> simp [eq]

end Value

--------
-- Decimals
--------

namespace Number

/- The digits of a number as an integer, with its sign. -/
def mantissa (n : Number) : Int :=
  let digits := n.frac.foldl (fun m d => 10 * m + d.val) n.int
  if n.negative then -digits else digits

/- The power of ten that the digits are counted in. -/
def exponent (n : Number) : Int :=
  let shift : Int :=
    match n.exp with
    | none => 0
    | some (true, e) => -(e : Int)
    | some (false, e) => e
  shift - n.frac.length

/- The digits counted in a smaller power of ten. -/
def scaled (n : Number) (e : Int) : Int :=
  n.mantissa * 10 ^ (n.exponent - e).toNat

/- The digits of two numbers, counted alike. -/
def aligned (m n : Number) : Int × Int :=
  let e := min m.exponent n.exponent
  (m.scaled e, n.scaled e)

end Number

/- The digits at the start of a text, and the rest. -/
def readDigits : List Char → List (Fin 10) × List Char
  | [] => ([], [])
  | c :: rest =>
    if c.isDigit then
      let (digits, after) := readDigits rest
      (Fin.ofNat 10 (c.toNat - 48) :: digits, after)
    else ([], c :: rest)

/- A literal of the rules, which is read as a float. -/
def readLiteral (text : String) : Number :=
  let (negative, body) :=
    match text.toList with
    | '-' :: rest => (true, rest)
    | body => (false, body)
  let (whole, rest) := readDigits body
  let frac := (readDigits (rest.drop 1)).1
  { negative := negative
    int := whole.foldl (fun m d => 10 * m + d.val) 0
    frac := if frac.isEmpty then [0] else frac }

/-
  Exact decimals, with which floating point agrees on short
  literals and on integers up to 2 ^ 53.
-/
def Floats.decimal : Floats where
  literal text := some (readLiteral text)
  isZero n := n.mantissa = 0
  eq m n := m = n
  lt m n := (m.aligned n).1 < (m.aligned n).2
  le m n := (m.aligned n).1 ≤ (m.aligned n).2

namespace Value

variable {floats : Floats}

mutual

/- Values are equal as far as their numbers are. -/
theorem eq_iff
    (hEq : ∀ m n, floats.eq m n = true ↔ m = n) :
    ∀ v w : Value, v.eq floats w = true ↔ v = w
  | .null, w => by cases w <;> simp [eq]
  | .bool a, w => by cases w <;> simp [eq]
  | .number m, w => by cases w <;> simp [eq, hEq]
  | .string s, w => by cases w <;> simp [eq]
  | .array xs, .array ys => by
      simp [eq, itemsEq_iff hEq xs ys]
  | .object xs, .object ys => by
      simp [eq, fieldsEq_iff hEq xs ys]
  | .array _, .null | .array _, .bool _
  | .array _, .number _ | .array _, .string _
  | .array _, .object _ => by simp [eq]
  | .object _, .null | .object _, .bool _
  | .object _, .number _ | .object _, .string _
  | .object _, .array _ => by simp [eq]

theorem itemsEq_iff
    (hEq : ∀ m n, floats.eq m n = true ↔ m = n) :
    ∀ xs ys : List Value, itemsEq floats xs ys = true ↔ xs = ys
  | [], [] => by simp [itemsEq]
  | [], _ :: _ => by simp [itemsEq]
  | _ :: _, [] => by simp [itemsEq]
  | x :: xs, y :: ys => by
      simp [itemsEq, eq_iff hEq x y, itemsEq_iff hEq xs ys]

theorem fieldsEq_iff
    (hEq : ∀ m n, floats.eq m n = true ↔ m = n) :
    ∀ xs ys : List (String × Value),
      fieldsEq floats xs ys = true ↔ xs = ys
  | [], [] => by simp [fieldsEq]
  | [], _ :: _ => by simp [fieldsEq]
  | _ :: _, [] => by simp [fieldsEq]
  | (j, x) :: xs, (k, y) :: ys => by
      simp [fieldsEq, eq_iff hEq x y, fieldsEq_iff hEq xs ys,
        and_assoc]

end

instance : DecidableEq Value := fun v w =>
  decidable_of_iff (v.eq .decimal w = true)
    (eq_iff (fun m n => by simp [Floats.decimal]) v w)

end Value
--------
-- Compact Text
--------

namespace Number

def digit (d : Fin 10) : Char :=
  Char.ofNat (48 + d.val)

def fracText (n : Number) : List Char :=
  match n.frac with
  | [] => []
  | digits => '.' :: digits.map digit

def expText (n : Number) : List Char :=
  match n.exp with
  | none => []
  | some (negative, e) =>
    'e' :: (if negative then ['-'] else []) ++
      (toString e).toList

/- The text without its sign. -/
def magnitudeText (n : Number) : List Char :=
  (toString n.int).toList ++ (n.fracText ++ n.expText)

def toText (n : Number) : String :=
  String.ofList
    ((if n.negative then ['-'] else []) ++ n.magnitudeText)

end Number

namespace Value

def hexDigit (n : Nat) : Char :=
  if n < 10 then Char.ofNat (48 + n)
  else Char.ofNat (87 + n)

/- The text of one character inside a JSON string. -/
def escapeChar (c : Char) : List Char :=
  if c = '"' then ['\\', '"']
  else if c = '\\' then ['\\', '\\']
  else if c.toNat = 8 then ['\\', 'b']
  else if c.toNat = 12 then ['\\', 'f']
  else if c = '\n' then ['\\', 'n']
  else if c = '\r' then ['\\', 'r']
  else if c = '\t' then ['\\', 't']
  else if c.toNat < 32 then
    ['\\', 'u', '0', '0', hexDigit (c.toNat / 16),
      hexDigit (c.toNat % 16)]
  else [c]

def stringText (s : String) : String :=
  "\"" ++ String.ofList (s.toList.flatMap escapeChar) ++ "\""

mutual

def toText : Value → String
  | .null => "null"
  | .bool b => if b then "true" else "false"
  | .number n => n.toText
  | .string s => stringText s
  | .array items => "[" ++ arrayText items ++ "]"
  | .object fields => "\x7b" ++ fieldsText fields ++ "\x7d"

def arrayText : List Value → String
  | [] => ""
  | [v] => v.toText
  | v :: w :: rest =>
    v.toText ++ "," ++ arrayText (w :: rest)

def fieldsText : List (String × Value) → String
  | [] => ""
  | [(key, v)] => stringText key ++ ":" ++ v.toText
  | (key, v) :: next :: rest =>
    stringText key ++ ":" ++ v.toText ++ "," ++
      fieldsText (next :: rest)

end

end Value

end Orignabase
