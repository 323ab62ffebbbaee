/-
Reading JSON text from the front: blanks, strings, whole numbers, and values
that are stepped over.

A reader returns what it read and the text after it, or nothing if the text is
not JSON. A value that is stepped over is checked for its form only: its
strings may escape half of a surrogate pair, and its arrays and objects may
nest to any depth, for the reader keeps the open ones in a list.
-/
import FiatAccounts.Text.Hex

namespace FiatAccounts.Json

-- ============================================================== blanks

def isBlank (c : Char) : Bool :=
  c == ' ' || c == '\t' || c == '\n' || c == '\r'

def skipBlanks (cs : List Char) : List Char :=
  cs.dropWhile isBlank

-- ============================================================= strings

/-- One step of a string: a character, or a code unit that was written in
hexadecimal. -/
inductive Piece where
  | char (c : Char)
  | unit (n : Nat)

/-- The number of four hexadecimal digits. -/
def hexUnit? (a b c d : Char) : Option Nat :=
  match Text.Hex.digitValue? a, Text.Hex.digitValue? b, Text.Hex.digitValue? c,
    Text.Hex.digitValue? d with
  | some a, some b, some c, some d => some (4096 * a + 256 * b + 16 * c + d)
  | _, _, _, _ => none

/-- What a character stands for after a backslash. -/
def escaped? : Char → Option Char
  | '"' => some '"'
  | '\\' => some '\\'
  | '/' => some '/'
  | 'b' => some '\x08'
  | 'f' => some '\x0c'
  | 'n' => some '\n'
  | 'r' => some '\r'
  | 't' => some '\t'
  | _ => none

/-- The pieces of a string whose opening quote has been read, up to its closing
quote. -/
def readPieces : List Char → Option (List Piece × List Char)
  | [] => none
  | '"' :: rest => some ([], rest)
  | '\\' :: 'u' :: a :: b :: c :: d :: rest =>
    match hexUnit? a b c d, readPieces rest with
    | some n, some (pieces, rest) => some (.unit n :: pieces, rest)
    | _, _ => none
  | '\\' :: e :: rest =>
    match escaped? e, readPieces rest with
    | some c, some (pieces, rest) => some (.char c :: pieces, rest)
    | _, _ => none
  | c :: rest =>
    if c.toNat < 0x20 then none
    else
      match readPieces rest with
      | some (pieces, rest) => some (.char c :: pieces, rest)
      | none => none

/-- The characters of the pieces. Two units of a surrogate pair make one
character; half a pair makes none. -/
def joinPieces : List Piece → Option (List Char)
  | [] => some []
  | .char c :: rest => (joinPieces rest).map (c :: ·)
  | .unit high :: .unit low :: rest =>
    if 0xD800 ≤ high ∧ high < 0xDC00 then
      if 0xDC00 ≤ low ∧ low < 0xE000 then
        (joinPieces rest).map
          (Char.ofNat (0x10000 + 1024 * (high - 0xD800) + (low - 0xDC00)) :: ·)
      else none
    else if 0xDC00 ≤ high ∧ high < 0xE000 then none
    else (joinPieces (.unit low :: rest)).map (Char.ofNat high :: ·)
  | .unit n :: rest =>
    if 0xD800 ≤ n ∧ n < 0xE000 then none
    else (joinPieces rest).map (Char.ofNat n :: ·)

/-- The string whose opening quote has been read. -/
def readString (cs : List Char) : Option (String × List Char) :=
  match readPieces cs with
  | some (pieces, rest) =>
    (joinPieces pieces).map fun text => (String.ofList text, rest)
  | none => none

-- ============================================================= numbers

/-- The digits at the front of the text, at least one. -/
def readDigits (cs : List Char) : Option (List Char × List Char) :=
  match cs.takeWhile Char.isDigit with
  | [] => none
  | digits => some (digits, cs.dropWhile Char.isDigit)

/-- Digits that open with a zero only if they are just that. -/
def readWhole (cs : List Char) : Option (List Char × List Char) :=
  match readDigits cs with
  | some ('0' :: _ :: _, _) => none
  | found => found

/-- The value of decimal digits. -/
def digitsValue (digits : List Char) : Nat :=
  digits.foldl (fun n c => 10 * n + (c.toNat - '0'.toNat)) 0

/-- A whole number without fraction and exponent; minus zero is none. -/
def readInteger : List Char → Option (Int × List Char)
  | '-' :: rest =>
    match readWhole rest with
    | some (digits, rest) =>
      if digitsValue digits = 0 then none
      else some (-(digitsValue digits : Int), rest)
    | none => none
  | cs =>
    match readWhole cs with
    | some (digits, rest) => some ((digitsValue digits : Int), rest)
    | none => none

/-- The text after an exponent, if there is one. -/
def skipExponent (cs : List Char) : Option (List Char) :=
  match cs with
  | c :: rest =>
    if c = 'e' ∨ c = 'E' then
      match rest with
      | '+' :: rest => (readDigits rest).map Prod.snd
      | '-' :: rest => (readDigits rest).map Prod.snd
      | rest => (readDigits rest).map Prod.snd
    else some cs
  | [] => some []

/-- The text after a number without its sign. -/
def skipUnsigned (cs : List Char) : Option (List Char) :=
  match readWhole cs with
  | none => none
  | some (_, '.' :: rest) =>
    match readDigits rest with
    | some (_, rest) => skipExponent rest
    | none => none
  | some (_, rest) => skipExponent rest

-- ======================================================== whole values

/-- The text after a value that holds no others. -/
def skipScalar : List Char → Option (List Char)
  | '"' :: rest => (readPieces rest).map Prod.snd
  | '-' :: rest => skipUnsigned rest
  | 'n' :: 'u' :: 'l' :: 'l' :: rest => some rest
  | 't' :: 'r' :: 'u' :: 'e' :: rest => some rest
  | 'f' :: 'a' :: 'l' :: 's' :: 'e' :: rest => some rest
  | cs => skipUnsigned cs

/-- A value inside which the reader stands. -/
inductive Enclosing where
  | array
  | object

/-- What comes next in the text. -/
inductive Expected where
  | value
  /-- The first value of an array, or its end. -/
  | valueOrEnd
  | key
  /-- The first key of an object, or its end. -/
  | keyOrEnd
  /-- A comma, or the end of what encloses the value just read. -/
  | more

/-- The text after the key and the colon of an object's member; the opening
quote has been read. -/
def skipKey (cs : List Char) : Option (List Char) :=
  match readPieces cs with
  | some (_, rest) =>
    match skipBlanks rest with
    | ':' :: rest => some rest
    | _ => none
  | none => none

/-- The text after the value in which the reader stands. Every step reads a
character, so as many steps as there are characters are enough. -/
def skipSteps :
    (steps : Nat) → Expected → List Enclosing → List Char → Option (List Char)
  | _, .more, [], cs => some cs
  | 0, _, _, _ => none
  | steps + 1, .more, enclosing :: outer, cs =>
    match enclosing, skipBlanks cs with
    | .array, ',' :: rest => skipSteps steps .value (.array :: outer) rest
    | .array, ']' :: rest => skipSteps steps .more outer rest
    | .object, ',' :: rest => skipSteps steps .key (.object :: outer) rest
    | .object, '\x7d' :: rest => skipSteps steps .more outer rest
    | _, _ => none
  | steps + 1, expected, enclosing, cs =>
    match expected, enclosing, skipBlanks cs with
    | .valueOrEnd, _ :: outer, ']' :: rest => skipSteps steps .more outer rest
    | .keyOrEnd, _ :: outer, '\x7d' :: rest => skipSteps steps .more outer rest
    | .keyOrEnd, enclosing, '"' :: rest =>
      (skipKey rest).bind (skipSteps steps .value enclosing)
    | .key, enclosing, '"' :: rest =>
      (skipKey rest).bind (skipSteps steps .value enclosing)
    | .keyOrEnd, _, _ => none
    | .key, _, _ => none
    | _, enclosing, '[' :: rest =>
      skipSteps steps .valueOrEnd (.array :: enclosing) rest
    | _, enclosing, '\x7b' :: rest =>
      skipSteps steps .keyOrEnd (.object :: enclosing) rest
    | _, enclosing, cs =>
      (skipScalar cs).bind (skipSteps steps .more enclosing)

/-- The text after the value at its front. -/
def skipValue (cs : List Char) : Option (List Char) :=
  skipSteps cs.length .value [] cs

end FiatAccounts.Json
