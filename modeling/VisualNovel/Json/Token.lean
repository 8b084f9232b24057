import VisualNovel.Json.Numeral

/-!
The tokens of a document with the offsets at which they begin and end. A text that is not well
formed has tokens up to its first fault; the last one then says what is wrong. Two readers differ
over some faults: one that needs the value, and one that skips it and does not look at what a
number or an escape stands for.
-/

namespace VisualNovel.Json

inductive Token.Kind where
  | openArray
  | closeArray
  | openObject
  | closeObject
  | comma
  | colon
  | null
  | bool (value : Bool)
  /-- An error here is one only for a reader that needs the value. -/
  | number (value : Except Error Number)
  | string (value : Except Error String)
  | brokenString (reading skipping : Error)
  | broken (reading skipping : Error)
  | stray
deriving Repr

structure Token where
  kind : Token.Kind
  start : Nat
  stop : Nat
deriving Repr

structure Token.Read where
  kind : Token.Kind
  rest : List Char
  stop : Nat

namespace Token

def isSpace (c : Char) : Bool := c == ' ' || c == '\n' || c == '\t' || c == '\r'

def bytes (cs : List Char) : Nat := cs.foldr (fun c n => c.utf8Size + n) 0

/-- A fault that both readers report alike ends the tokens. -/
def fault (cause : Cause) (offset : Nat) : Kind :=
  .broken (.located cause offset) (.located cause offset)

/-- The rest of a word must be exactly the given characters. -/
def readWord (kind : Kind) (offset : Nat) : List Char → List Char → Read
  | [], cs => ⟨kind, cs, offset⟩
  | _ :: _, [] => ⟨fault .unfinishedValue offset, [], offset⟩
  | w :: word, c :: cs =>
    if w = c then readWord kind (offset + 1) word cs
    else ⟨fault .expectedWord (offset + 1), cs, offset + 1⟩

def digitValue (c : Char) : Nat := c.toNat - '0'.toNat

def digitsAt (cs : List Char) : List Nat := (cs.takeWhile Char.isDigit).map digitValue

/-- A digit was due: one reader distinguishes the end of the text. -/
def missingDigit (offset : Nat) (cs : List Char) : Read :=
  match cs with
  | [] => ⟨.broken (.located .unfinishedValue offset) (.located .invalidNumber offset), [], offset⟩
  | _ :: rest => ⟨fault .invalidNumber (offset + 1), rest, offset + 1⟩

def readExponent (n : Numeral) (offset : Nat) (cs : List Char) : Read :=
  let (negative, cs, offset) :=
    match cs with
    | '+' :: rest => (false, rest, offset + 1)
    | '-' :: rest => (true, rest, offset + 1)
    | _ => (false, cs, offset)
  match digitsAt cs with
  | [] => missingDigit offset cs
  | digits =>
    let stop := offset + digits.length
    let n := { n with exponent := some (negative, digits), exponentStart := offset, stop }
    ⟨.number n.value, cs.dropWhile Char.isDigit, stop⟩

def readFraction (n : Numeral) (offset : Nat) (cs : List Char) : Read :=
  match digitsAt cs with
  | [] => missingDigit offset cs
  | digits =>
    let stop := offset + digits.length
    let n := { n with fraction := some digits, stop }
    match cs.dropWhile Char.isDigit with
    | 'e' :: rest | 'E' :: rest => readExponent n (stop + 1) rest
    | rest => ⟨.number n.value, rest, stop⟩

/-- A number from its first digit on. -/
def readNumber (negative : Bool) (offset : Nat) (cs : List Char) : Read :=
  match digitsAt cs with
  | [] => missingDigit offset cs
  | 0 :: _ :: _ => ⟨fault .invalidNumber (offset + 2), [], offset + 2⟩
  | digits =>
    let stop := offset + digits.length
    let n : Numeral := ⟨negative, digits, none, none, 0, stop⟩
    match cs.dropWhile Char.isDigit with
    | '.' :: rest => readFraction n (stop + 1) rest
    | 'e' :: rest | 'E' :: rest => readExponent n (stop + 1) rest
    | rest => ⟨.number n.value, rest, stop⟩

def hexValue (c : Char) : Option Nat :=
  if c.isDigit then some (c.toNat - '0'.toNat)
  else if 'a' ≤ c && c ≤ 'f' then some (c.toNat - 'a'.toNat + 10)
  else if 'A' ≤ c && c ≤ 'F' then some (c.toNat - 'A'.toNat + 10)
  else none

def hexUnit (a b c d : Char) : Option Nat := do
  let a ← hexValue a
  let b ← hexValue b
  let c ← hexValue c
  let d ← hexValue d
  return ((a * 16 + b) * 16 + c) * 16 + d

def isLeading (unit : Nat) : Bool := 0xD800 ≤ unit && unit ≤ 0xDBFF

def isTrailing (unit : Nat) : Bool := 0xDC00 ≤ unit && unit ≤ 0xDFFF

def combine (leading trailing : Nat) : Char :=
  Char.ofNat (0x10000 + (leading - 0xD800) * 0x400 + (trailing - 0xDC00))

def simpleEscape : Char → Option Char
  | '"' => some '"'
  | '\\' => some '\\'
  | '/' => some '/'
  | 'b' => some '\x08'
  | 'f' => some '\x0c'
  | 'n' => some '\n'
  | 'r' => some '\r'
  | 't' => some '\t'
  | _ => none

/-- A string that ends with a fault; an earlier one, seen only by a reader that needs the value,
comes first for that reader. -/
def endString (earlier : Option Error) (reading skipping : Error) : Read :=
  ⟨.brokenString (earlier.getD reading) skipping, [], 0⟩

/-- A string from behind its opening quote. `earlier` is the first fault over surrogates,
`leading` a surrogate whose other half must follow, `chars` what was read so far, reversed. -/
def readString (earlier : Option Error) (leading : Option Nat) (chars : List Char) (offset : Nat) :
    List Char → Read
  | [] =>
    let e : Error := .located .unfinishedString offset
    endString earlier e e
  | '"' :: rest =>
    let value := match earlier with
      | some e => .error e
      | none => .ok (String.ofList chars.reverse)
    ⟨.string value, rest, offset + 1⟩
  | '\\' :: 'u' :: rest =>
    match rest with
    | a :: b :: c :: d :: rest' =>
      match hexUnit a b c d with
      | none =>
        let e : Error := .located (if bytes rest < 4 then .unfinishedString else .invalidEscape)
          (if bytes rest < 4 then offset + 2 + bytes rest else offset + 6)
        endString earlier e e
      | some unit =>
        let next := offset + 6
        match leading with
        | some half =>
          if isTrailing unit then
            readString earlier none (combine half unit :: chars) next rest'
          else readString (earlier <|> some (.located .loneSurrogate next)) none chars next rest'
        | none =>
          if isTrailing unit then
            readString (earlier <|> some (.located .loneSurrogate next)) none chars next rest'
          else if isLeading unit then
            match rest' with
            | '\\' :: 'u' :: _ => readString earlier (some unit) chars next rest'
            | [] =>
              let e : Error := .located .unfinishedString next
              endString earlier e e
            | ['\\'] =>
              let e : Error := .located .unfinishedString (next + 1)
              endString earlier e e
            | '\\' :: _ :: _ =>
              readString (earlier <|> some (.located .unfinishedEscape (next + 2))) none chars next rest'
            | _ =>
              readString (earlier <|> some (.located .unfinishedEscape (next + 1))) none chars next rest'
          else readString earlier none (Char.ofNat unit :: chars) next rest'
    | _ =>
      let e : Error := .located (if bytes rest < 4 then .unfinishedString else .invalidEscape)
        (if bytes rest < 4 then offset + 2 + bytes rest else offset + 6)
      endString earlier e e
  | ['\\'] =>
    let e : Error := .located .unfinishedString (offset + 1)
    endString earlier e e
  | '\\' :: c :: rest =>
    match simpleEscape c with
    | some plain => readString earlier none (plain :: chars) (offset + 2) rest
    | none =>
      let e : Error := .located .invalidEscape (offset + 2)
      endString earlier e e
  | c :: rest =>
    if c.toNat < 0x20 then
      endString earlier (.located .controlCharacter (offset + 1)) (.located .controlCharacter offset)
    else readString earlier none (c :: chars) (offset + c.utf8Size) rest

/-- The token that begins with the given character. -/
def readOne (offset : Nat) (c : Char) (rest : List Char) : Read :=
  match c with
  | '[' => ⟨.openArray, rest, offset + 1⟩
  | ']' => ⟨.closeArray, rest, offset + 1⟩
  | '\x7b' => ⟨.openObject, rest, offset + 1⟩
  | '\x7d' => ⟨.closeObject, rest, offset + 1⟩
  | ',' => ⟨.comma, rest, offset + 1⟩
  | ':' => ⟨.colon, rest, offset + 1⟩
  | 'n' => readWord .null (offset + 1) ['u', 'l', 'l'] rest
  | 't' => readWord (.bool true) (offset + 1) ['r', 'u', 'e'] rest
  | 'f' => readWord (.bool false) (offset + 1) ['a', 'l', 's', 'e'] rest
  | '"' => readString none none [] (offset + 1) rest
  | '-' => readNumber true (offset + 1) rest
  | _ =>
    if c.isDigit then readNumber false offset (c :: rest)
    else ⟨.stray, rest, offset + 1⟩

/-- Nothing is read behind these. -/
def Kind.isLast : Kind → Bool
  | .brokenString _ _ => true
  | .broken _ _ => true
  | .stray => true
  | _ => false

/-- Tokens of a text that begins at `offset`; every token takes a character, so that their number
is bounded by the first argument. -/
def readAll : Nat → Nat → List Char → List Token
  | 0, _, _ => []
  | _, _, [] => []
  | bound + 1, offset, c :: rest =>
    if isSpace c then readAll bound (offset + 1) rest
    else
      let read := readOne offset c rest
      let token : Token := ⟨read.kind, offset, read.stop⟩
      if read.kind.isLast then [token] else token :: readAll bound read.stop read.rest

def ofText (text : String) : List Token :=
  let cs := text.toList
  readAll cs.length 0 cs

end Token

end VisualNovel.Json
