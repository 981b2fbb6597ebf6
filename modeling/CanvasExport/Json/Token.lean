/-!
# Tokens of a JSON text

A JSON text is cut into tokens by a transducer: `Scanner.step` reads one character in a state, gives
the tokens that it completes and the next state.  The text after a fault is not looked at, so a fault
can only stand in the last token, and whoever reads the tokens in order meets it last.

A string is kept in `Piece`s, since half of a surrogate pair is no character; a number is kept as it
is written.
-/

namespace CanvasExport.Json

/-! ## Faults -/

/-- What is wrong at one place of a text. -/
inductive Fault
  /-- A character that cannot stand there. -/
  | malformed
  /-- The text ends where more must follow. -/
  | ended
  /-- The text ends inside `null`, `true` or `false`. -/
  | endedInWord
  /-- The text ends inside a number. -/
  | endedInNumber
  deriving DecidableEq, Repr

/-! ## Tokens -/

/-- What a string is made of: characters, and halves of surrogate pairs from escapes. -/
inductive Piece
  | char (c : Char)
  /-- The first half of a pair. -/
  | lead (high : Fin 1024)
  /-- The second half of a pair. -/
  | trail (low : Fin 1024)
  deriving DecidableEq

/-- The content of a string, up to the closing quote or to a fault. -/
structure Quoted where
  pieces : List Piece
  fault : Option Fault
  deriving DecidableEq

/-- A token; `broken` stands for a token that is none. -/
inductive Token
  | openArray
  | closeArray
  | openObject
  | closeObject
  | comma
  | colon
  | null
  | bool (value : Bool)
  /-- A number as it is written. -/
  | number (literal : List Char)
  | string (content : Quoted)
  | broken (fault : Fault)
  deriving DecidableEq

/-! ## Numbers -/

/-- How far a number has been read. -/
inductive Phase
  | minus
  | zero
  | whole
  | point
  | fraction
  | power
  | powerSign
  | powerDigits
  deriving DecidableEq

namespace Phase

/-- Whether the number may end here. -/
def isComplete : Phase → Bool
  | .zero | .whole | .fraction | .powerDigits => true
  | .minus | .point | .power | .powerSign => false

/-- How the number goes on with a character. -/
def next? (phase : Phase) (c : Char) : Option Phase :=
  match phase with
  | .minus => if c = '0' then some .zero else if c.isDigit then some .whole else none
  | .zero => afterWhole c
  | .whole => if c.isDigit then some .whole else afterWhole c
  | .point => if c.isDigit then some .fraction else none
  | .fraction => if c.isDigit then some .fraction else afterFraction c
  | .power =>
      if c = '+' ∨ c = '-' then some .powerSign else if c.isDigit then some .powerDigits else none
  | .powerSign | .powerDigits => if c.isDigit then some .powerDigits else none
where
  /-- What may follow the digits of a fraction. -/
  afterFraction (c : Char) : Option Phase := if c = 'e' ∨ c = 'E' then some .power else none
  /-- What may follow the digits before the point. -/
  afterWhole (c : Char) : Option Phase := if c = '.' then some .point else afterFraction c

end Phase

/-! ## The transducer -/

/-- Where the scanner is.  What has been read of a token is kept in reverse. -/
inductive Scanner
  | between
  /-- Inside a word of which one character and the rest are expected. -/
  | word (expected : Char) (rest : List Char) (token : Token)
  | number (phase : Phase) (read : List Char)
  | string (read : List Piece)
  /-- After a backslash. -/
  | escape (read : List Piece)
  /-- Inside four hexadecimal digits, of which some are read with this value. -/
  | hex (read : List Piece) (digits value : Nat)
  /-- Among the four bytes for hexadecimal digits, which are none. -/
  | badHex (read : List Piece) (bytes : Nat)
  /-- Behind a fault. -/
  | stopped

namespace Scanner

/-- The blanks of JSON. -/
def isBlank (c : Char) : Bool := c = ' ' || c = '\t' || c = '\n' || c = '\r'

/-- The tokens and the state after a character that begins a token. -/
def start (c : Char) : List Token × Scanner :=
  if isBlank c then ([], .between)
  else match c with
    | '[' => ([.openArray], .between)
    | ']' => ([.closeArray], .between)
    | '\x7b' => ([.openObject], .between)
    | '\x7d' => ([.closeObject], .between)
    | ',' => ([.comma], .between)
    | ':' => ([.colon], .between)
    | '"' => ([], .string [])
    | 'n' => ([], .word 'u' ['l', 'l'] .null)
    | 't' => ([], .word 'r' ['u', 'e'] (.bool true))
    | 'f' => ([], .word 'a' ['l', 's', 'e'] (.bool false))
    | '-' => ([], .number .minus [c])
    | '0' => ([], .number .zero [c])
    | c => if c.isDigit then ([], .number .whole [c]) else ([.broken .malformed], .stopped)

/-- The string that ends with a fault. -/
def stopString (read : List Piece) (fault : Fault) : Token := .string ⟨read.reverse, some fault⟩

/-- The value of a hexadecimal digit. -/
def hexValue? (c : Char) : Option Nat :=
  let n := c.toNat
  if 48 ≤ n ∧ n ≤ 57 then some (n - 48)
  else if 97 ≤ n ∧ n ≤ 102 then some (n - 87)
  else if 65 ≤ n ∧ n ≤ 70 then some (n - 55)
  else none

/-- The piece that four hexadecimal digits stand for. -/
def pieceOf (unit : Nat) : Piece :=
  if 0xD800 ≤ unit ∧ unit < 0xDC00 then .lead (Fin.ofNat 1024 (unit - 0xD800))
  else if 0xDC00 ≤ unit ∧ unit < 0xE000 then .trail (Fin.ofNat 1024 (unit - 0xDC00))
  else .char (Char.ofNat unit)

/-- The character that a backslash and this character stand for. -/
def escaped? (c : Char) : Option Char :=
  match c with
  | '"' => some '"'
  | '\\' => some '\\'
  | '/' => some '/'
  | 'b' => some '\x08'
  | 'f' => some '\x0c'
  | 'n' => some '\n'
  | 'r' => some '\r'
  | 't' => some '\t'
  | _ => none

/-- The state after so many bytes that should have been hexadecimal digits and are not: it is a fault
of the characters when there are four, and of the end of the text when it ends before. -/
def afterBadHex (read : List Piece) (bytes : Nat) : List Token × Scanner :=
  if 4 ≤ bytes then ([stopString read .malformed], .stopped) else ([], .badHex read bytes)

/-- The tokens that a character completes, and the state after it. -/
def step (s : Scanner) (c : Char) : List Token × Scanner :=
  match s with
  | .between => start c
  | .word expected rest token =>
      if c = expected then
        match rest with
        | [] => ([token], .between)
        | expected :: rest => ([], .word expected rest token)
      else ([.broken .malformed], .stopped)
  | .number phase read =>
      match phase.next? c with
      | some phase => ([], .number phase (c :: read))
      | none =>
          if !phase.isComplete || (phase = .zero && c.isDigit) then
            ([.broken .malformed], .stopped)
          else
            let (tokens, s) := start c
            (.number read.reverse :: tokens, s)
  | .string read =>
      if c = '"' then ([.string ⟨read.reverse, none⟩], .between)
      else if c = '\\' then ([], .escape read)
      else if c.toNat < 0x20 then ([stopString read .malformed], .stopped)
      else ([], .string (.char c :: read))
  | .escape read =>
      if c = 'u' then ([], .hex read 0 0)
      else match escaped? c with
        | some d => ([], .string (.char d :: read))
        | none => ([stopString read .malformed], .stopped)
  | .hex read digits value =>
      match hexValue? c with
      | some digit =>
          if digits = 3 then ([], .string (pieceOf (16 * value + digit) :: read))
          else ([], .hex read (digits + 1) (16 * value + digit))
      | none => afterBadHex read (digits + c.utf8Size)
  | .badHex read bytes => afterBadHex read (bytes + c.utf8Size)
  | .stopped => ([], .stopped)

/-- The tokens that the end of the text completes. -/
def finish : Scanner → List Token
  | .between | .stopped => []
  | .word .. => [.broken .endedInWord]
  | .number phase read =>
      if phase.isComplete then [.number read.reverse] else [.broken .endedInNumber]
  | .string read | .escape read | .hex read _ _ | .badHex read _ => [stopString read .ended]

/-- The tokens of a text from a state on. -/
def run (s : Scanner) : List Char → List Token
  | [] => s.finish
  | c :: cs =>
      match s.step c with
      | ([], s) => run s cs
      | (token :: tokens, s) => token :: (tokens ++ run s cs)

end Scanner

/-- The tokens of a text. -/
def tokensOf (text : List Char) : List Token := Scanner.run .between text

end CanvasExport.Json
