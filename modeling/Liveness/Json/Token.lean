import Liveness.Json.Number

/-!
# Tokens of a document

A text is cut into tokens in one pass over its characters. A string literal is kept as the text it
stands for, or as nothing if it holds half of a surrogate pair; a numeral as its number, or as
nothing if that is out of range. Both are accepted as grammar, since a reader may pass over them.
-/

namespace Liveness.Json

/-- A token. -/
inductive Token where
  /-- `[` -/
  | openArray
  /-- `]` -/
  | closeArray
  /-- `{` -/
  | openObject
  /-- `}` -/
  | closeObject
  /-- `,` -/
  | comma
  /-- `:` -/
  | colon
  /-- The word `null`. -/
  | null
  /-- One of the words `true` and `false`. -/
  | bool (b : Bool)
  /-- A numeral. -/
  | number (n : Option Number)
  /-- A string literal. -/
  | text (s : Option String)

/-! ## String literals -/

/-- The value of a hexadecimal digit. -/
def hexDigit? (c : Char) : Option Nat :=
  if c.isDigit then some (c.toNat - '0'.toNat)
  else if 'a' ≤ c ∧ c ≤ 'f' then some (c.toNat - 'a'.toNat + 10)
  else if 'A' ≤ c ∧ c ≤ 'F' then some (c.toNat - 'A'.toNat + 10)
  else none

/-- The value of four hexadecimal digits. -/
def hexUnit? (a b c d : Char) : Option Nat := do
  let a ← hexDigit? a
  let b ← hexDigit? b
  let c ← hexDigit? c
  let d ← hexDigit? d
  return ((a * 16 + b) * 16 + c) * 16 + d

/-- The character of an escape of one letter. -/
def escaped? : Char → Option Char
  | '"' => some '"'
  | '\\' => some '\\'
  | '/' => some '/'
  | 'b' => some '\x08'
  | 'f' => some '\x0c'
  | 'n' => some '\n'
  | 'r' => some '\r'
  | 't' => some '\t'
  | _ => none

/-- The content of a string literal as characters and as 16-bit units given by number. -/
def units? : List Char → Option (List (Char ⊕ Nat))
  | [] => some []
  | '\\' :: 'u' :: a :: b :: c :: d :: rest => do
    let unit ← hexUnit? a b c d
    let units ← units? rest
    return .inr unit :: units
  | '\\' :: c :: rest => do
    let c ← escaped? c
    let units ← units? rest
    return .inl c :: units
  | c :: rest => if c = '\\' then none else (units? rest).map (.inl c :: ·)

/-- The characters that the units spell; none if a surrogate stands alone. -/
def spell? : List (Char ⊕ Nat) → Option (List Char)
  | [] => some []
  | .inl c :: rest => (spell? rest).map (c :: ·)
  | .inr high :: .inr low :: rest =>
    if 0xD800 ≤ high ∧ high < 0xDC00 then
      if 0xDC00 ≤ low ∧ low < 0xE000 then
        (spell? rest).map (Char.ofNat (0x10000 + (high - 0xD800) * 0x400 + (low - 0xDC00)) :: ·)
      else none
    else if 0xDC00 ≤ high ∧ high < 0xE000 then none
    else (spell? (.inr low :: rest)).map (Char.ofNat high :: ·)
  | .inr unit :: rest =>
    if 0xD800 ≤ unit ∧ unit < 0xE000 then none else (spell? rest).map (Char.ofNat unit :: ·)

/-- The token of a string literal with this content. -/
def textToken? (content : List Char) : Option Token := do
  let units ← units? content
  return .text ((spell? units).map String.ofList)

/-! ## Lexer -/

/-- What the lexer is in the middle of; characters are kept newest first. -/
inductive LexState where
  /-- Between two tokens. -/
  | between
  /-- In a word of letters. -/
  | word (seen : List Char)
  /-- In a numeral. -/
  | numeral (seen : List Char)
  /-- In a string literal; `escape` if the last character was an unescaped backslash. -/
  | literal (seen : List Char) (escape : Bool)

/-- The token of one punctuation character. -/
def punctuation? : Char → Option Token
  | '[' => some .openArray
  | ']' => some .closeArray
  | '\x7b' => some .openObject
  | '\x7d' => some .closeObject
  | ',' => some .comma
  | ':' => some .colon
  | _ => none

/-- The blanks between tokens. -/
def isGap (c : Char) : Bool := c = ' ' || c = '\n' || c = '\t' || c = '\r'

/-- The character may stand in a numeral. -/
def inNumeral (c : Char) : Bool := c.isDigit || c = '-' || c = '+' || c = '.' || c = 'e' || c = 'E'

/-- The token of a word. -/
def wordToken? (word : List Char) : Option Token :=
  if word = "null".toList then some .null
  else if word = "true".toList then some (.bool true)
  else if word = "false".toList then some (.bool false)
  else none

/-- The token of a numeral. -/
def numeralToken? (cs : List Char) : Option Token :=
  (Numeral.read cs).map fun n => .number n.number?

/-- The state and the tokens after a character that begins something new. -/
def LexState.start (tokens : List Token) (c : Char) : Option (LexState × List Token) :=
  if isGap c then some (.between, tokens)
  else if c = '"' then some (.literal [] false, tokens)
  else if c.isLower then some (.word [c], tokens)
  else if c.isDigit || c = '-' then some (.numeral [c], tokens)
  else (punctuation? c).map fun t => (.between, t :: tokens)

/-- The state and the tokens, newest first, after one more character. -/
def LexState.step (tokens : List Token) (c : Char) : LexState → Option (LexState × List Token)
  | .between => start tokens c
  | .word seen =>
    if c.isLower then some (.word (c :: seen), tokens)
    else do start ((← wordToken? seen.reverse) :: tokens) c
  | .numeral seen =>
    if inNumeral c then some (.numeral (c :: seen), tokens)
    else do start ((← numeralToken? seen.reverse) :: tokens) c
  | .literal seen escape =>
    if c.toNat < 0x20 then none
    else if escape then some (.literal (c :: seen) false, tokens)
    else if c = '\\' then some (.literal (c :: seen) true, tokens)
    else if c = '"' then do return (.between, (← textToken? seen.reverse) :: tokens)
    else some (.literal (c :: seen) false, tokens)

/-- The tokens, newest first, when the text ends. -/
def LexState.finish (tokens : List Token) : LexState → Option (List Token)
  | .between => some tokens
  | .word seen => (wordToken? seen.reverse).map (· :: tokens)
  | .numeral seen => (numeralToken? seen.reverse).map (· :: tokens)
  | .literal _ _ => none

/-- Runs the lexer over the characters; the tokens are kept newest first. -/
def lexFrom (state : LexState) (tokens : List Token) : List Char → Option (List Token)
  | [] => state.finish tokens
  | c :: rest =>
    match state.step tokens c with
    | none => none
    | some (state, tokens) => lexFrom state tokens rest

/-- The tokens of a text. -/
def lex (text : String) : Option (List Token) :=
  (lexFrom .between [] text.toList).map List.reverse

end Liveness.Json
