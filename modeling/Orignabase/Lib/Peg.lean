import Mathlib.Init

/-
  Parsing expression grammars: a parser takes the characters
  left and gives its result with what it leaves, or fails.
  The first alternative that succeeds is taken for good.

  Key definitions include:
    * `Peg`
    * `Peg.lit`, `Peg.charsOf`
    * `Peg.orElse`, `Peg.many`, `Peg.sepBy`
-/

def Peg (α : Type) : Type :=
  List Char → Option (α × List Char)

namespace Peg

variable {α β : Type}

def fail : Peg α :=
  fun _ => none

def succeed (a : α) : Peg α :=
  fun s => some (a, s)

def andThen (p : Peg α) (next : α → Peg β) : Peg β :=
  fun s =>
    match p s with
    | none => none
    | some (a, rest) => next a rest

instance : Monad Peg where
  pure := succeed
  bind := andThen

/- Ordered choice. -/
def orElse (p q : Peg α) : Peg α :=
  fun s =>
    match p s with
    | none => q s
    | some result => some result

/- The first of several alternatives. -/
def oneOf : List (Peg α) → Peg α
  | [] => fail
  | p :: ps => orElse p (oneOf ps)

def opt (p : Peg α) : Peg (Option α) :=
  orElse (p.andThen (fun a => succeed (some a)))
    (succeed none)

/- One character that passes a test. -/
def char (test : Char → Bool) : Peg Char
  | [] => none
  | c :: rest => if test c then some (c, rest) else none

/- All characters from here on that pass a test. -/
def charsOf (test : Char → Bool) : Peg (List Char) :=
  fun s => some (s.takeWhile test, s.dropWhile test)

/- A text as it stands. -/
def lit (text : String) : Peg String :=
  fun s =>
    if text.toList.isPrefixOf s then
      some (text, s.drop text.toList.length)
    else none

/- As many as there are; `n` bounds the recursion. -/
def manyUpTo (p : Peg α) : Nat → Peg (List α)
  | 0 => succeed []
  | n + 1 => fun s =>
    match p s with
    | none => some ([], s)
    | some (a, rest) =>
      (manyUpTo p n).andThen
        (fun more => succeed (a :: more)) rest

def many (p : Peg α) : Peg (List α) :=
  fun s => manyUpTo p s.length s

/- One or more, each but the first after a separator. -/
def sepBy (p : Peg α) (sep : Peg β) : Peg (List α) := do
  let first ← p
  let more ← many (sep.andThen (fun _ => p))
  return first :: more

end Peg
