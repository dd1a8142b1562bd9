import Mathlib.Data.List.Basic

/-
  PostgreSQL's lexical rules with
  `standard_conforming_strings = on`, as a character-driven
  automaton.

  Inside `'...'` a backslash is an ordinary character, `''`
  writes one quote, and a literal is continued by white space
  that holds a newline (line comments included) followed by
  another quote.  Only plain literals are decoded; the bodies
  of `E'...'`, `B'...'`, `X'...'` and `U&'...'` are kept raw.

  Key definitions include:
    * `Token`
    * `Mode`
    * `LexState.feed`
    * `LexState.finish`
    * `lex`
    * `lexFrom`

  Tokens are only ever appended, so a text may be cut where
  its mode is known: `lexFrom_append`.
-/

--------
-- Tokens And Character Classes
--------

namespace Sql

/- The kinds of quoted constants by their letter prefixes. -/
inductive Quote
  | plain
  | escape
  | bits
  | hex
  | unicode
  deriving DecidableEq, Repr

inductive Token
  | word (text : List Char)
  | quotedIdent (text : List Char)
  | str (value : List Char)
  | rawStr (quote : Quote) (body : List Char)
  | dollarStr (tag body : List Char)
  | number (text : List Char)
  | param (digits : List Char)
  | op (text : List Char)
  | typecast
  | colonEquals
  | dotDot
  | sign (c : Char)
  deriving DecidableEq, Repr

def isNewline (c : Char) : Bool :=
  c = '\n' || c = '\r'

/- Blank characters: space, tab, line and form feeds. -/
def isSpace (c : Char) : Bool :=
  c = ' ' || c = '\t' || isNewline c ||
    c.toNat = 11 || c.toNat = 12

def isDigit (c : Char) : Bool :=
  decide (48 ≤ c.toNat) && decide (c.toNat ≤ 57)

/- Letters, the underscore and every non-ASCII character. -/
def isIdentStart (c : Char) : Bool :=
  (decide (97 ≤ c.toNat) && decide (c.toNat ≤ 122)) ||
    (decide (65 ≤ c.toNat) && decide (c.toNat ≤ 90)) ||
    c = '_' || decide (128 ≤ c.toNat)

def isIdentCont (c : Char) : Bool :=
  isIdentStart c || isDigit c || c = '$'

def opChars : List Char :=
  ['~', '!', '@', '#', '^', '&', '|', Char.ofNat 96, '?',
    '+', '-', '*', '/', '%', '<', '>', '=']

def isOpChar (c : Char) : Bool :=
  opChars.contains c

/- Characters that let an operator end in `+` or `-`. -/
def keepsTrailingSign (c : Char) : Bool :=
  ['~', '!', '@', '#', '^', '&', '|', Char.ofNat 96, '?',
    '%'].contains c

/-
  Split an operator run into its tokens.  A run of several
  characters may end in `+` or `-` only when it also holds
  one of the characters of `keepsTrailingSign`; otherwise
  each trailing sign is a token of its own.
-/
def splitOperator (run : List Char) : List Token :=
  if run.any keepsTrailingSign then
    [.op run]
  else
    let signs := (run.drop 1).reverse.takeWhile
        (fun c => c = '+' || c = '-')
    .op (run.take (run.length - signs.length)) ::
      signs.reverse.map (fun c => .op [c])

/- The tokens of an operator run, none for an empty one. -/
def operatorTokens : List Char → List Token
  | [] => []
  | run => splitOperator run

--------
-- The Automaton
--------

/- What the automaton is in the middle of. -/
inductive Mode
  | start
  | word (acc : List Char)
  | wordAmp (acc : List Char)
  | int (acc : List Char)
  | intDot (acc : List Char)
  | frac (acc : List Char)
  | expMark (acc : List Char)
  | expSign (acc : List Char)
  | expDigits (acc : List Char)
  | dot
  | colon
  | op (acc : List Char)
  | lineComment
  | blockComment (depth : Nat) (last : Char)
  | quoted (acc : List Char)
  | quotedEnd (acc : List Char)
  | str (quote : Quote) (acc : List Char)
  | strEscape (acc : List Char)
  | strEnd (quote : Quote) (acc : List Char)
  | gap (quote : Quote) (acc : List Char) (newline : Bool)
  | gapDash (quote : Quote) (acc : List Char) (newline : Bool)
  | gapComment (quote : Quote) (acc : List Char)
  | dollar
  | param (acc : List Char)
  | dollarTag (acc : List Char)
  | dollarBody (tag acc : List Char)
  | error

structure LexState where
  mode : Mode
  out : List Token

namespace LexState

/- The token a finished quoted constant stands for. -/
def quoteToken : Quote → List Char → Token
  | .plain, acc => .str acc
  | quote, acc => .rawStr quote acc

/- Start a token at `c`. -/
def enter (out : List Token) (c : Char) : LexState :=
  if isSpace c then ⟨.start, out⟩
  else if c = '\'' then ⟨.str .plain [], out⟩
  else if c = '"' then ⟨.quoted [], out⟩
  else if isIdentStart c then ⟨.word [c], out⟩
  else if isDigit c then ⟨.int [c], out⟩
  else if c = '$' then ⟨.dollar, out⟩
  else if c = '.' then ⟨.dot, out⟩
  else if c = ':' then ⟨.colon, out⟩
  else if isOpChar c then ⟨.op [c], out⟩
  else ⟨.start, out ++ [.sign c]⟩

/- Continue an operator run; `--` and `/*` start comments. -/
def feedOp
    (acc : List Char)
    (out : List Token)
    (c : Char) : LexState :=
  if isOpChar c then
    if c = '-' ∧ acc.getLast? = some '-' then
      ⟨.lineComment, out ++ operatorTokens acc.dropLast⟩
    else if c = '*' ∧ acc.getLast? = some '/' then
      ⟨.blockComment 1 ' ',
        out ++ operatorTokens acc.dropLast⟩
    else ⟨.op (acc ++ [c]), out⟩
  else enter (out ++ operatorTokens acc) c

/- The constants announced by a letter before the quote. -/
def quoteOfWord : List Char → Option Quote
  | ['E'] | ['e'] => some .escape
  | ['B'] | ['b'] => some .bits
  | ['X'] | ['x'] => some .hex
  | _ => none

/- `N'...'` is the key word `nchar` and a plain literal. -/
def wordBeforeQuote (acc : List Char) : Token :=
  if acc = ['N'] ∨ acc = ['n'] then
    .word ['n', 'c', 'h', 'a', 'r']
  else .word acc

/- Continue an identifier or a constant's letter prefix. -/
def feedWord
    (acc : List Char)
    (out : List Token)
    (c : Char) : LexState :=
  if isIdentCont c then ⟨.word (acc ++ [c]), out⟩
  else if c = '\'' then
    match quoteOfWord acc with
    | some quote => ⟨.str quote [], out⟩
    | none => ⟨.str .plain [], out ++ [wordBeforeQuote acc]⟩
  else if c = '&' ∧ (acc = ['U'] ∨ acc = ['u']) then
    ⟨.wordAmp acc, out⟩
  else enter (out ++ [.word acc]) c

/-
  After the digits of a number.  An identifier character
  glued to a number is an error.
-/
def endNumber
    (acc : List Char)
    (out : List Token)
    (c : Char) : LexState :=
  if isIdentStart c then ⟨.error, out⟩
  else enter (out ++ [.number acc]) c

/- A quote was seen inside a constant of kind `quote`. -/
def feedStrEnd
    (quote : Quote)
    (acc : List Char)
    (out : List Token)
    (c : Char) : LexState :=
  if c = '\'' then
    match quote with
    | .plain => ⟨.str .plain (acc ++ ['\'']), out⟩
    | _ => ⟨.str quote (acc ++ ['\'', '\'']), out⟩
  else if isSpace c then
    ⟨.gap quote acc (isNewline c), out⟩
  else if c = '-' then ⟨.gapDash quote acc false, out⟩
  else enter (out ++ [quoteToken quote acc]) c

/- White space after a constant that may still continue. -/
def feedGap
    (quote : Quote)
    (acc : List Char)
    (newline : Bool)
    (out : List Token)
    (c : Char) : LexState :=
  if c = '\'' ∧ newline then ⟨.str quote acc, out⟩
  else if isSpace c then
    ⟨.gap quote acc (newline || isNewline c), out⟩
  else if c = '-' then ⟨.gapDash quote acc newline, out⟩
  else enter (out ++ [quoteToken quote acc]) c

/- The closing delimiter of a dollar-quoted constant. -/
def dollarDelimiter (tag : List Char) : List Char :=
  '$' :: tag ++ ['$']

def feedDollarBody
    (tag acc : List Char)
    (out : List Token)
    (c : Char) : LexState :=
  let body := acc ++ [c]
  if (dollarDelimiter tag).isSuffixOf body then
    ⟨.start, out ++ [.dollarStr tag (body.take
          (body.length - (dollarDelimiter tag).length))]⟩
  else ⟨.dollarBody tag body, out⟩

/- Read one character. -/
def feed (s : LexState) (c : Char) : LexState :=
  match s.mode with
  | .start => enter s.out c
  | .word acc => feedWord acc s.out c
  | .wordAmp acc =>
    if c = '\'' then ⟨.str .unicode [], s.out⟩
    else if c = '"' then ⟨.quoted [], s.out⟩
    else feedOp ['&'] (s.out ++ [.word acc]) c
  | .int acc =>
    if isDigit c then ⟨.int (acc ++ [c]), s.out⟩
    else if c = '.' then ⟨.intDot acc, s.out⟩
    else if c = 'e' ∨ c = 'E' then
      ⟨.expMark (acc ++ [c]), s.out⟩
    else endNumber acc s.out c
  | .intDot acc =>
    if c = '.' then
      ⟨.start, s.out ++ [.number acc, .dotDot]⟩
    else if isDigit c then
      ⟨.frac (acc ++ ['.', c]), s.out⟩
    else if c = 'e' ∨ c = 'E' then
      ⟨.expMark (acc ++ ['.', c]), s.out⟩
    else endNumber (acc ++ ['.']) s.out c
  | .frac acc =>
    if isDigit c then ⟨.frac (acc ++ [c]), s.out⟩
    else if c = 'e' ∨ c = 'E' then
      ⟨.expMark (acc ++ [c]), s.out⟩
    else endNumber acc s.out c
  | .expMark acc =>
    if isDigit c then ⟨.expDigits (acc ++ [c]), s.out⟩
    else if c = '+' ∨ c = '-' then
      ⟨.expSign (acc ++ [c]), s.out⟩
    else ⟨.error, s.out⟩
  | .expSign acc =>
    if isDigit c then ⟨.expDigits (acc ++ [c]), s.out⟩
    else ⟨.error, s.out⟩
  | .expDigits acc =>
    if isDigit c then ⟨.expDigits (acc ++ [c]), s.out⟩
    else endNumber acc s.out c
  | .dot =>
    if c = '.' then ⟨.start, s.out ++ [.dotDot]⟩
    else if isDigit c then ⟨.frac ['.', c], s.out⟩
    else enter (s.out ++ [.sign '.']) c
  | .colon =>
    if c = ':' then ⟨.start, s.out ++ [.typecast]⟩
    else if c = '=' then
      ⟨.start, s.out ++ [.colonEquals]⟩
    else enter (s.out ++ [.sign ':']) c
  | .op acc => feedOp acc s.out c
  | .lineComment =>
    if isNewline c then ⟨.start, s.out⟩ else s
  | .blockComment depth last =>
    if last = '*' ∧ c = '/' then
      if depth ≤ 1 then ⟨.start, s.out⟩
      else ⟨.blockComment (depth - 1) ' ', s.out⟩
    else if last = '/' ∧ c = '*' then
      ⟨.blockComment (depth + 1) ' ', s.out⟩
    else ⟨.blockComment depth c, s.out⟩
  | .quoted acc =>
    if c = '"' then ⟨.quotedEnd acc, s.out⟩
    else ⟨.quoted (acc ++ [c]), s.out⟩
  | .quotedEnd acc =>
    if c = '"' then ⟨.quoted (acc ++ ['"']), s.out⟩
    else enter (s.out ++ [.quotedIdent acc]) c
  | .str quote acc =>
    if c = '\'' then ⟨.strEnd quote acc, s.out⟩
    else if quote = .escape ∧ c = '\\' then
      ⟨.strEscape (acc ++ [c]), s.out⟩
    else ⟨.str quote (acc ++ [c]), s.out⟩
  | .strEscape acc => ⟨.str .escape (acc ++ [c]), s.out⟩
  | .strEnd quote acc => feedStrEnd quote acc s.out c
  | .gap quote acc newline =>
    feedGap quote acc newline s.out c
  | .gapDash quote acc _ =>
    if c = '-' then ⟨.gapComment quote acc, s.out⟩
    else
      feedOp ['-'] (s.out ++ [quoteToken quote acc]) c
  | .gapComment quote acc =>
    if isNewline c then ⟨.gap quote acc true, s.out⟩
    else s
  | .dollar =>
    if isDigit c then ⟨.param [c], s.out⟩
    else if c = '$' then ⟨.dollarBody [] [], s.out⟩
    else if isIdentStart c then ⟨.dollarTag [c], s.out⟩
    else enter (s.out ++ [.sign '$']) c
  | .param acc =>
    if isDigit c then ⟨.param (acc ++ [c]), s.out⟩
    else if isIdentStart c then ⟨.error, s.out⟩
    else enter (s.out ++ [.param acc]) c
  | .dollarTag acc =>
    if c = '$' then ⟨.dollarBody acc [], s.out⟩
    else if isIdentCont c then
      ⟨.dollarTag (acc ++ [c]), s.out⟩
    else feedWord acc (s.out ++ [.sign '$']) c
  | .dollarBody tag acc => feedDollarBody tag acc s.out c
  | .error => s

/- Read a text. -/
def run (s : LexState) (cs : List Char) : LexState :=
  cs.foldl feed s

/- The end of the text: `none` inside an open construct. -/
def finish (s : LexState) : Option (List Token) :=
  match s.mode with
  | .start | .lineComment => some s.out
  | .word acc => some (s.out ++ [.word acc])
  | .wordAmp acc => some (s.out ++ [.word acc, .op ['&']])
  | .int acc | .frac acc | .expDigits acc =>
    some (s.out ++ [.number acc])
  | .intDot acc => some (s.out ++ [.number (acc ++ ['.'])])
  | .dot => some (s.out ++ [.sign '.'])
  | .colon => some (s.out ++ [.sign ':'])
  | .op acc => some (s.out ++ operatorTokens acc)
  | .quotedEnd acc => some (s.out ++ [.quotedIdent acc])
  | .strEnd quote acc | .gap quote acc _
  | .gapComment quote acc =>
    some (s.out ++ [quoteToken quote acc])
  | .gapDash quote acc _ =>
    some (s.out ++ [quoteToken quote acc, .op ['-']])
  | .dollar => some (s.out ++ [.sign '$'])
  | .param acc => some (s.out ++ [.param acc])
  | .dollarTag acc =>
    some (s.out ++ [.sign '$', .word acc])
  | .expMark _ | .expSign _ | .blockComment _ _ | .quoted _
  | .str _ _ | .strEscape _ | .dollarBody _ _ | .error => none

end LexState

/- Tokenise a whole statement. -/
def lex (statement : String) : Option (List Token) :=
  (LexState.run ⟨.start, []⟩ statement.toList).finish

--------
-- Output Is Only Appended
--------

namespace LexState

/- Put already emitted tokens in front of a state. -/
def after (out : List Token) (s : LexState) : LexState :=
  ⟨s.mode, out ++ s.out⟩

@[simp] theorem after_mk
    (out ts : List Token)
    (m : Mode) :
    after out ⟨m, ts⟩ = ⟨m, out ++ ts⟩ := rfl

theorem enter_append
    (out ts : List Token)
    (c : Char) :
    enter (out ++ ts) c = after out (enter ts c) := by
  simp only [enter, apply_ite (after out), after_mk,
    List.append_assoc]

theorem feedOp_append
    (acc : List Char)
    (out ts : List Token)
    (c : Char) :
    feedOp acc (out ++ ts) c =
      after out (feedOp acc ts c) := by
  unfold feedOp
  split_ifs <;> simp [enter_append]

theorem feedWord_append
    (acc : List Char)
    (out ts : List Token)
    (c : Char) :
    feedWord acc (out ++ ts) c =
      after out (feedWord acc ts c) := by
  unfold feedWord
  split_ifs
  · simp
  · split <;> simp
  · simp
  · simp [enter_append]

theorem endNumber_append
    (acc : List Char)
    (out ts : List Token)
    (c : Char) :
    endNumber acc (out ++ ts) c =
      after out (endNumber acc ts c) := by
  unfold endNumber
  split_ifs <;> simp [enter_append]

theorem feedStrEnd_append
    (quote : Quote)
    (acc : List Char)
    (out ts : List Token)
    (c : Char) :
    feedStrEnd quote acc (out ++ ts) c =
      after out (feedStrEnd quote acc ts c) := by
  unfold feedStrEnd
  split_ifs
  · cases quote <;> simp
  all_goals simp [enter_append]

theorem feedGap_append
    (quote : Quote)
    (acc : List Char)
    (newline : Bool)
    (out ts : List Token)
    (c : Char) :
    feedGap quote acc newline (out ++ ts) c =
      after out (feedGap quote acc newline ts c) := by
  unfold feedGap
  split_ifs <;> simp [enter_append]

theorem feedDollarBody_append
    (tag acc : List Char)
    (out ts : List Token)
    (c : Char) :
    feedDollarBody tag acc (out ++ ts) c =
      after out (feedDollarBody tag acc ts c) := by
  unfold feedDollarBody
  dsimp only
  split_ifs <;> simp

/- Reading one character leaves earlier output alone. -/
theorem feed_after
    (out : List Token)
    (s : LexState)
    (c : Char) :
    feed (after out s) c = after out (feed s c) := by
  rcases s with ⟨mode, ts⟩
  cases mode <;>
    simp only [after_mk, feed, List.append_assoc,
      enter_append, feedOp_append, feedWord_append,
      endNumber_append, feedStrEnd_append, feedGap_append,
      feedDollarBody_append]
  all_goals first
    | rfl
    | (split_ifs <;> simp)

/- Reading a text leaves earlier output alone. -/
theorem run_after
    (out : List Token)
    (s : LexState)
    (cs : List Char) :
    run (after out s) cs = after out (run s cs) := by
  induction cs generalizing s with
  | nil => rfl
  | cons c cs ih =>
    change run (feed (after out s) c) cs =
      after out (run (feed s c) cs)
    rw [feed_after, ih]

theorem run_append
    (s : LexState)
    (as bs : List Char) :
    run s (as ++ bs) = run (run s as) bs := by
  simp [run, List.foldl_append]

theorem finish_after
    (out : List Token)
    (s : LexState) :
    finish (after out s) = (finish s).map (out ++ ·) := by
  rcases s with ⟨mode, ts⟩
  cases mode <;> simp [finish]

end LexState

/- The tokens read from mode `m` to the end of the text. -/
def lexFrom (m : Mode) (cs : List Char) :
    Option (List Token) :=
  (LexState.run ⟨m, []⟩ cs).finish

/-
  A text that takes mode `m` to mode `m'` and emits `ts` may
  be cut off the front.
-/
theorem lexFrom_append
    {m m' : Mode}
    {cs : List Char}
    {ts : List Token}
    (hRun : LexState.run ⟨m, []⟩ cs = ⟨m', ts⟩)
    (rest : List Char) :
    lexFrom m (cs ++ rest) =
      (lexFrom m' rest).map (ts ++ ·) := by
  have hAfter : (⟨m', ts⟩ : LexState) =
      LexState.after ts ⟨m', []⟩ := by simp
  unfold lexFrom
  rw [LexState.run_append, hRun, hAfter,
    LexState.run_after, LexState.finish_after]

end Sql
