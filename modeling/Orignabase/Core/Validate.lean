import Orignabase.Lib.Text

/-
  Identifier validation and string escaping of the core
  crate (`ob-core/src/validate.rs`, `ob-core/src/error.rs`).

  Key definitions include:
    * `Error`
    * `validateIdentifier`
    * `validateDocumentId`
    * `escapeSqlString`
-/

--------
-- Errors
--------

namespace Orignabase

inductive Error
  | config (message : String)
  | database (message : String)
  | auth (message : String)
  | forbidden (message : String)
  | notFound (message : String)
  | validation (message : String)
  | unsupportedMediaType (message : String)
  | tooManyRequests (message : String)
  | internal (message : String)
  deriving DecidableEq, Repr

/- The text of an error as it is shown in another one. -/
def Error.display : Error → String
  | .config m => "Configuration error: " ++ m
  | .database m => "Database error: " ++ m
  | .auth m => "Authentication error: " ++ m
  | .forbidden m => "Authorization denied: " ++ m
  | .notFound m => "Not found: " ++ m
  | .validation m => "Validation error: " ++ m
  | .unsupportedMediaType m =>
    "Unsupported media type: " ++ m
  | .tooManyRequests m => "Too many requests: " ++ m
  | .internal m => "Internal error: " ++ m

--------
-- Identifiers
--------

/-
  A safe SQL identifier: ASCII letters, digits and
  underscores, not starting with a digit, at most 255 bytes.
-/
def validateIdentifier (name : String) :
    Except Error String :=
  match name.toList with
  | [] => .error (.validation "Identifier cannot be empty")
  | first :: rest =>
    if name.utf8ByteSize > 255 then
      .error (.validation "Identifier too long (max 255)")
    else if !first.isAlpha && first != '_' then
      .error (.validation
        ("Identifier must start with a letter or " ++
          "underscore, got: '" ++ String.singleton first ++
          "'"))
    else if !(first :: rest).all
        (fun c => c.isAlphanum || c = '_') then
      .error (.validation ("Identifier '" ++ name ++
          "' contains invalid characters (only ASCII " ++
          "alphanumeric and underscore allowed)"))
    else .ok name

/- A document id also allows hyphens and dots. -/
def validateDocumentId (id : String) :
    Except Error String :=
  if id.toList = [] then
    .error (.validation "Document ID cannot be empty")
  else if id.utf8ByteSize > 512 then
    .error (.validation "Document ID too long (max 512)")
  else if !id.toList.all
      (fun c => c.isAlphanum || c = '_' || c = '-' ||
        c = '.') then
    .error (.validation ("Document ID '" ++ id ++
        "' contains invalid characters"))
  else .ok id

/- The name passes `validateIdentifier`. -/
def isIdentifier (name : String) : Bool :=
  (validateIdentifier name).isOk

/- What an accepted identifier looks like. -/
theorem chars_of_isIdentifier
    {name : String}
    (hName : isIdentifier name = true) :
    ∃ first rest, name.toList = first :: rest ∧
        (first.isAlpha = true ∨ first = '_') ∧
        ∀ c ∈ name.toList,
          c.isAlphanum = true ∨ c = '_' := by
  unfold isIdentifier validateIdentifier at hName
  cases hChars : name.toList with
  | nil => simp [hChars, Except.isOk, Except.toBool] at hName
  | cons first rest =>
    rw [hChars] at hName
    dsimp only at hName
    split_ifs at hName with hLong hFirst hAll
    · simp [Except.isOk, Except.toBool] at hName
    · simp [Except.isOk, Except.toBool] at hName
    · simp [Except.isOk, Except.toBool] at hName
    · refine ⟨first, rest, rfl, ?_, ?_⟩
      · by_cases hAlpha : first.isAlpha = true
        · exact Or.inl hAlpha
        · right
          simpa [hAlpha] using hFirst
      · simpa only [Bool.not_eq_true, Bool.not_eq_false',
          List.all_eq_true, Bool.or_eq_true,
          decide_eq_true_eq] using hAll

--------
-- Escaping
--------

/-
  Escape a string for a SQL literal: backslashes are doubled,
  then every quote is preceded by a backslash.
-/
def escapeSqlString (s : String) : String :=
  String.ofList (Text.replaceChar '\'' ['\\', '\'']
      (Text.replaceChar '\\' ['\\', '\\'] s.toList))

end Orignabase
