import VisualNovel.Json.Token

/-!
A document as a tree that keeps the offsets at which a reader would stop, and that shows where a
text breaks off: `Node.meaning` is its value, `Node.read` and `Node.skip` find its first fault.
-/

namespace VisualNovel.Json

mutual

inductive Node where
  | null (start stop : Nat)
  | bool (value : Bool) (start stop : Nat)
  | number (value : Except Error Number) (start stop : Nat)
  | string (value : Except Error String) (stop : Nat)
  | array (start : Nat) (items : Items)
  | object (start : Nat) (entries : Entries)
  | brokenString (reading skipping : Error)
  | broken (start : Nat) (reading skipping : Error)
  /-- The text ends where a value is due. -/
  | missing (stop : Nat)

/-- What is left of an array. -/
inductive Items where
  | close (stop : Nat)
  | item (start : Nat) (node : Node) (rest : Items)
  /-- Neither a comma nor the bracket follows an element. -/
  | unseparated (start : Nat)
  | trailingComma (start : Nat)
  | unfinished (stop : Nat) (afterComma : Bool)

/-- What is left of an object. -/
inductive Entries where
  | close (stop : Nat)
  /-- `colon` and `after` are the offsets of the colon and of the token behind the value. -/
  | entry (key : Except Error String) (keyStop colon : Nat) (value : Node) (after : Nat)
      (rest : Entries)
  | brokenKey (reading skipping : Error)
  /-- Something else stands where the colon is due; it may be the closing brace. -/
  | noColon (key : Except Error String) (keyStop next : Nat) (closes : Bool)
  | unfinishedKey (key : Except Error String) (keyStop stop : Nat)
  /-- Something else stands where a key is due. -/
  | keyless (start : Nat)
  | unseparated (start : Nat)
  | trailingComma (start : Nat)
  | unfinished (stop : Nat) (afterComma : Bool)

end

namespace Node

/-- No value begins here. -/
def misplaced (start : Nat) : Node :=
  .broken start (.located .expectedValue (start + 1)) (.located .expectedValue (start + 1))

/-- The offset of the next token, or of the end of the text. -/
def nextStart (stop : Nat) : List Token → Nat
  | [] => stop
  | token :: _ => token.start

mutual

/-- The first argument of these bounds the number of tokens. -/
def ofTokens (stop : Nat) : Nat → List Token → Node × List Token
  | 0, tokens => (.missing stop, tokens)
  | _, [] => (.missing stop, [])
  | bound + 1, token :: rest =>
    match token.kind with
    | .null => (.null token.start token.stop, rest)
    | .bool b => (.bool b token.start token.stop, rest)
    | .number n => (.number n token.start token.stop, rest)
    | .string s => (.string s token.stop, rest)
    | .brokenString reading skipping => (.brokenString reading skipping, rest)
    | .broken reading skipping => (.broken token.start reading skipping, rest)
    | .openArray =>
      let (items, rest) := firstItem stop bound rest
      (.array token.start items, rest)
    | .openObject =>
      let (entries, rest) := firstEntry stop bound rest
      (.object token.start entries, rest)
    | _ => (misplaced token.start, token :: rest)

/-- An element or the bracket is due. -/
def firstItem (stop : Nat) : Nat → List Token → Items × List Token
  | 0, tokens => (.unfinished stop false, tokens)
  | _, [] => (.unfinished stop false, [])
  | bound + 1, token :: rest =>
    match token.kind with
    | .closeArray => (.close token.stop, rest)
    | _ => item stop bound (token :: rest)

/-- An element is due. -/
def item (stop : Nat) : Nat → List Token → Items × List Token
  | 0, tokens => (.unfinished stop false, tokens)
  | bound + 1, tokens =>
    let (node, rest) := ofTokens stop bound tokens
    let (items, rest) := afterItem stop bound rest
    (.item (nextStart stop tokens) node items, rest)

/-- A comma or the bracket is due. -/
def afterItem (stop : Nat) : Nat → List Token → Items × List Token
  | 0, tokens => (.unfinished stop false, tokens)
  | _, [] => (.unfinished stop false, [])
  | bound + 1, token :: rest =>
    match token.kind with
    | .closeArray => (.close token.stop, rest)
    | .comma =>
      match rest with
      | [] => (.unfinished stop true, [])
      | next :: _ =>
        match next.kind with
        | .closeArray => (.trailingComma next.start, rest)
        | _ => item stop bound rest
    | _ => (.unseparated token.start, rest)

/-- A key or the brace is due. -/
def firstEntry (stop : Nat) : Nat → List Token → Entries × List Token
  | 0, tokens => (.unfinished stop false, tokens)
  | _, [] => (.unfinished stop false, [])
  | bound + 1, token :: rest =>
    match token.kind with
    | .closeObject => (.close token.stop, rest)
    | _ => entry stop bound (token :: rest)

/-- A key is due. -/
def entry (stop : Nat) : Nat → List Token → Entries × List Token
  | 0, tokens => (.unfinished stop false, tokens)
  | _, [] => (.unfinished stop false, [])
  | bound + 1, token :: rest =>
    match token.kind with
    | .string key =>
      match rest with
      | [] => (.unfinishedKey key token.stop stop, [])
      | colon :: rest =>
        match colon.kind with
        | .colon =>
          let (value, rest) := ofTokens stop bound rest
          let (entries, rest') := afterEntry stop bound rest
          (.entry key token.stop colon.start value (nextStart stop rest) entries, rest')
        | .closeObject => (.noColon key token.stop colon.start true, rest)
        | _ => (.noColon key token.stop colon.start false, rest)
    | .brokenString reading skipping => (.brokenKey reading skipping, rest)
    | _ => (.keyless token.start, token :: rest)

/-- A comma or the brace is due. -/
def afterEntry (stop : Nat) : Nat → List Token → Entries × List Token
  | 0, tokens => (.unfinished stop false, tokens)
  | _, [] => (.unfinished stop false, [])
  | bound + 1, token :: rest =>
    match token.kind with
    | .closeObject => (.close token.stop, rest)
    | .comma =>
      match rest with
      | [] => (.unfinished stop true, [])
      | next :: _ =>
        match next.kind with
        | .closeObject => (.trailingComma next.start, rest)
        | _ => entry stop bound rest
    | _ => (.unseparated token.start, rest)

end

end Node

/-- A text as a tree, and where the first thing behind it stands. -/
structure Document where
  root : Node
  extra : Option Nat

/-- Each token is looked at by at most four of the readers. -/
def Document.ofText (text : String) : Document :=
  let tokens := Token.ofText text
  let (root, rest) := Node.ofTokens text.utf8ByteSize (4 * tokens.length + 4) tokens
  ⟨root, rest.head?.map Token.start⟩

mutual

/-- The value that a node stands for; what is broken in it counts as null, as empty or as the end. -/
def Node.meaning : Node → Json
  | .bool b _ _ => .bool b
  | .number (.ok n) _ _ => .number n
  | .string (.ok s) _ => .string s
  | .array _ items => .array items.meaning
  | .object _ entries => .object entries.meaning
  | _ => .null

def Items.meaning : Items → List Json
  | .item _ node rest => node.meaning :: rest.meaning
  | _ => []

def Entries.meaning : Entries → List (String × Json)
  | .entry (.ok key) _ _ value _ rest => (key, value.meaning) :: rest.meaning
  | .entry (.error _) _ _ _ _ rest => rest.meaning
  | _ => []

end

/-- What a reader reports that wants another element and finds none. -/
def Items.readingFault : Items → Except Error Unit
  | .unseparated start => .error (.located .expectedCommaOrBracket (start + 1))
  | .trailingComma start => .error (.located .trailingComma (start + 1))
  | .unfinished stop false => .error (.located .unfinishedArray stop)
  | .unfinished stop true => .error (.located .unfinishedValue stop)
  | _ => .ok ()

def Items.skippingFault : Items → Except Error Unit
  | .unseparated start => .error (.located .expectedCommaOrBracket (start + 1))
  | .trailingComma start => .error (.located .expectedValue (start + 1))
  | .unfinished stop false => .error (.located .unfinishedArray stop)
  | .unfinished stop true => .error (.located .unfinishedValue stop)
  | _ => .ok ()

/-- What a reader reports that has all the elements it wants. -/
def Items.closingFault : Items → Except Error Unit
  | .close _ => .ok ()
  | .item start _ _ => .error (.located .trailingCharacters (start + 1))
  | .unseparated start => .error (.located .trailingCharacters (start + 1))
  | .trailingComma start => .error (.located .trailingComma (start + 1))
  | .unfinished stop false => .error (.located .unfinishedArray stop)
  | .unfinished stop true => .error (.located .trailingCharacters stop)

/-- How far a reader gets that gives up before these elements. -/
def Items.reached : Items → Nat
  | .close stop => stop
  | .item start _ _ => start
  | .unseparated start => start
  | .trailingComma start => start
  | .unfinished stop _ => stop

def Entries.readingFault : Entries → Except Error Unit
  | .brokenKey reading _ => .error reading
  | .noColon key _ next _ => do
    let _ ← key
    .error (.located .expectedColon (next + 1))
  | .unfinishedKey key _ stop => do
    let _ ← key
    .error (.located .unfinishedObject stop)
  | .keyless start => .error (.located .expectedKey (start + 1))
  | .unseparated start => .error (.located .expectedCommaOrBrace (start + 1))
  | .trailingComma start => .error (.located .trailingComma (start + 1))
  | .unfinished stop false => .error (.located .unfinishedObject stop)
  | .unfinished stop true => .error (.located .unfinishedValue stop)
  | _ => .ok ()

def Entries.skippingFault : Entries → Except Error Unit
  | .brokenKey _ skipping => .error skipping
  | .noColon _ _ next _ => .error (.located .expectedColon (next + 1))
  | .unfinishedKey _ _ stop => .error (.located .unfinishedObject stop)
  | .keyless start => .error (.located .expectedKey (start + 1))
  | .unseparated start => .error (.located .expectedCommaOrBrace (start + 1))
  | .trailingComma start => .error (.located .expectedKey (start + 1))
  | .unfinished stop _ => .error (.located .unfinishedObject stop)
  | _ => .ok ()

mutual

/-- The first fault that hinders a reader who needs the value, inside at most `depth` brackets. -/
def Node.read (depth : Nat) : Node → Except Error Unit
  | .number (.error e) _ _ => .error e
  | .string (.error e) _ => .error e
  | .brokenString reading _ => .error reading
  | .broken _ reading _ => .error reading
  | .missing stop => .error (.located .unfinishedValue stop)
  | .array start items =>
    match depth with
    | 0 => .error (.located .tooDeep (start + 1))
    | depth + 1 => items.read depth
  | .object start entries =>
    match depth with
    | 0 => .error (.located .tooDeep (start + 1))
    | depth + 1 => entries.read depth
  | _ => .ok ()

def Items.read (depth : Nat) : Items → Except Error Unit
  | .item _ node rest => do
    node.read depth
    rest.read depth
  | items => items.readingFault

def Entries.read (depth : Nat) : Entries → Except Error Unit
  | .entry key _ _ value _ rest => do
    let _ ← key
    value.read depth
    rest.read depth
  | entries => entries.readingFault

end

mutual

/-- The first fault that hinders a reader who skips the value. -/
def Node.skip : Node → Except Error Unit
  | .brokenString _ skipping => .error skipping
  | .broken _ _ skipping => .error skipping
  | .missing stop => .error (.located .unfinishedValue stop)
  | .array _ items => items.skip
  | .object _ entries => entries.skip
  | _ => .ok ()

def Items.skip : Items → Except Error Unit
  | .item _ node rest => do
    node.skip
    rest.skip
  | items => items.skippingFault

def Entries.skip : Entries → Except Error Unit
  | .entry _ _ _ value _ rest => do
    value.skip
    rest.skip
  | entries => entries.skippingFault

end

/-- What a reader of simple values sees of a node, and the offset it has then reached: of brackets
only that they open. -/
def Node.shape : Node → Except Error (Shape × Nat)
  | .null _ stop => .ok (.null, stop)
  | .bool b _ stop => .ok (.bool b, stop)
  | .number n _ stop => n.map (·.shape, stop)
  | .string s stop => s.map (.string ·, stop)
  | .array start _ => .ok (.sequence, start)
  | .object start _ => .ok (.map, start)
  | .brokenString reading _ => .error reading
  | .broken _ reading _ => .error reading
  | .missing stop => .error (.located .unfinishedValue stop)

/-- The error of a reader that wants something else. -/
def Node.mismatch (node : Node) (expected : String) : Except Error Unit := do
  let (shape, offset) ← node.shape
  .error (.located (.invalidType shape expected) offset)

end VisualNovel.Json
