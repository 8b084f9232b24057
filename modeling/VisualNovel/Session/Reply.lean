import VisualNovel.Text.Blank
import VisualNovel.Text.Natural
import VisualNovel.Text.Utf8

namespace VisualNovel.Session

/-- A line as it is read; one that is no text cannot be answered. -/
inductive Line where
  | text (content : String)
  | garbled
deriving Repr, BEq, DecidableEq

namespace Line

def ofBytes (bytes : List UInt8) : Line :=
  match Text.Utf8.decode ⟨bytes.toArray⟩ with
  | .ok content => .text content
  | .error _ => .garbled

def newline : UInt8 := 10

/-- Cut behind each line break. -/
def split (current : List UInt8) : List UInt8 → List (List UInt8)
  | [] => if current.isEmpty then [] else [current.reverse]
  | b :: rest =>
    if b = newline then (b :: current).reverse :: split [] rest else split (b :: current) rest

def ofInput (bytes : ByteArray) : List Line := (split [] bytes.toList).map ofBytes

end Line

inductive Reply where
  | advance
  | press (button : Nat)
  | confirm
  | quit
  | unknown (text : String)
deriving Repr, BEq, DecidableEq

namespace Reply

/-- Options go by the numbers from one to nine. -/
def ofText (text : String) : Reply :=
  match text with
  | "" => .advance
  | "q" => .quit
  | "c" => .confirm
  | _ =>
    match Text.natural? text.toList with
    | some n => if 1 ≤ n && n ≤ 9 then .press (n - 1) else .unknown text
    | none => .unknown text

def ofLine (line : String) : Reply := .ofText (Text.trim line)

end Reply

end VisualNovel.Session
