import VisualNovel.Text.Quoted
import VisualNovel.Decimal.Written
import VisualNovel.Json.Basic

/-!
Why a document is refused, and where. A place is the number of bytes before it, until the text is
at hand to count lines.
-/

namespace VisualNovel.Json

/-- The form of numbers in documents: exponents from sixteen places before the point, or six after
it, and whole numbers keep a fraction. -/
def doubleStyle : Decimal.Style := ⟨some (-5), some 15, true, .evenDigit⟩

def singleStyle : Decimal.Style := ⟨some (-6), some 12, true, .evenDigit⟩

/-- What was found, as far as a message tells it. -/
inductive Shape where
  | null
  | bool (value : Bool)
  | integer (value : Int)
  | double (value : Float)
  | string (value : String)
  | sequence
  | map
  | unitVariant
deriving Repr, BEq, DecidableEq

namespace Shape

def describe : Shape → String
  | .null => "null"
  | .bool b => s!"boolean `{b}`"
  | .integer n => s!"integer `{n}`"
  | .double x => "floating point `" ++ doubleStyle.double x ++ "`"
  | .string s => "string " ++ Text.quote s
  | .sequence => "sequence"
  | .map => "map"
  | .unitVariant => "unit variant"

end Shape

def Number.shape : Number → Shape
  | .integer n => .integer n
  | .double x => .double x
  | .single x => .double x.toFloat

def shape : Json → Shape
  | .null => .null
  | .bool b => .bool b
  | .number n => n.shape
  | .string s => .string s
  | .array _ => .sequence
  | .object _ => .map

inductive Cause where
  -- the text is not well formed
  | unfinishedArray
  | unfinishedObject
  | unfinishedString
  | unfinishedValue
  | expectedColon
  | expectedCommaOrBracket
  | expectedCommaOrBrace
  | expectedWord
  | expectedValue
  | invalidEscape
  | invalidNumber
  | numberOutOfRange
  | controlCharacter
  | expectedKey
  | loneSurrogate
  | unfinishedEscape
  | trailingComma
  | trailingCharacters
  | tooDeep
  -- the value is not what is wanted
  | invalidType (found : Shape) (expected : String)
  | invalidValue (found : Shape) (expected : String)
  | invalidLength (length : Nat) (expected : String)
  | unknownVariant (name : String) (known : List String)
  | unknownField (name : String) (known : List String)
  | missingField (name : String)
  | duplicateField (name : String)
  | durationOverflow
deriving Repr, BEq, DecidableEq

namespace Cause

def quoted (name : String) : String := "`" ++ name ++ "`"

def alternatives : List String → String
  | [] => "there are none"
  | [a] => "expected " ++ quoted a
  | [a, b] => "expected " ++ quoted a ++ " or " ++ quoted b
  | names => "expected one of " ++ ", ".intercalate (names.map quoted)

def message : Cause → String
  | .unfinishedArray => "EOF while parsing a list"
  | .unfinishedObject => "EOF while parsing an object"
  | .unfinishedString => "EOF while parsing a string"
  | .unfinishedValue => "EOF while parsing a value"
  | .expectedColon => "expected `:`"
  | .expectedCommaOrBracket => "expected `,` or `]`"
  | .expectedCommaOrBrace => "expected `,` or `\x7d`"
  | .expectedWord => "expected ident"
  | .expectedValue => "expected value"
  | .invalidEscape => "invalid escape"
  | .invalidNumber => "invalid number"
  | .numberOutOfRange => "number out of range"
  | .controlCharacter => "control character (\\u0000-\\u001F) found while parsing a string"
  | .expectedKey => "key must be a string"
  | .loneSurrogate => "lone leading surrogate in hex escape"
  | .unfinishedEscape => "unexpected end of hex escape"
  | .trailingComma => "trailing comma"
  | .trailingCharacters => "trailing characters"
  | .tooDeep => "recursion limit exceeded"
  | .invalidType found expected => "invalid type: " ++ found.describe ++ ", expected " ++ expected
  | .invalidValue found expected => "invalid value: " ++ found.describe ++ ", expected " ++ expected
  | .invalidLength n expected => s!"invalid length {n}, expected " ++ expected
  | .unknownVariant name known => "unknown variant " ++ quoted name ++ ", " ++ alternatives known
  | .unknownField name known => "unknown field " ++ quoted name ++ ", " ++ alternatives known
  | .missingField name => "missing field " ++ quoted name
  | .duplicateField name => "duplicate field " ++ quoted name
  | .durationOverflow => "overflow deserializing Duration"

end Cause

/-- A cause and the number of bytes before its place; what was set aside before it was understood
has no place any more. -/
structure Error where
  cause : Cause
  offset : Option Nat
deriving Repr, BEq, DecidableEq

namespace Error

def located (cause : Cause) (offset : Nat) : Error := ⟨cause, some offset⟩

/-- An error without a place takes the given one. -/
def orAt (e : Error) (offset : Nat) : Error := ⟨e.cause, some (e.offset.getD offset)⟩

end Error

/-- A line and the bytes of it before a place. -/
structure Place where
  line : Nat
  column : Nat
deriving Repr, BEq, DecidableEq

namespace Place

/-- Lines that end before the place, and the number of bytes up to the end of the last of them. -/
def scan (offset : Nat) : List Char → Nat → Nat → Nat → Nat × Nat
  | [], _, lines, start => (lines, start)
  | c :: rest, position, lines, start =>
    let next := position + c.utf8Size
    if offset < next then (lines, start)
    else if c = '\n' then scan offset rest next (lines + 1) next
    else scan offset rest next lines start

def ofOffset (text : String) (offset : Nat) : Place :=
  let (lines, start) := scan offset text.toList 0 0 0
  ⟨lines + 1, offset - start⟩

end Place

/-- Why a document was refused, with lines counted. -/
structure Refusal where
  cause : Cause
  place : Option Place
deriving Repr, BEq, DecidableEq

namespace Refusal

def message (r : Refusal) : String :=
  match r.place with
  | none => r.cause.message
  | some p => r.cause.message ++ s!" at line {p.line} column {p.column}"

def line (r : Refusal) : Nat := r.place.elim 0 Place.line

def column (r : Refusal) : Nat := r.place.elim 0 Place.column

end Refusal

def Error.inText (text : String) (e : Error) : Refusal :=
  ⟨e.cause, e.offset.map (Place.ofOffset text)⟩

end VisualNovel.Json
