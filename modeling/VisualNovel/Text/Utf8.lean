/-!
UTF-8 decoding that says, for bytes that are no text, where the first ill-formed sequence stands
and how long it is.
-/

namespace VisualNovel.Text

/-- The first ill-formed sequence of some bytes; no length means that the bytes end inside it. -/
structure IllFormed where
  start : Nat
  length : Option Nat
deriving Repr, BEq, DecidableEq

namespace IllFormed

def message (e : IllFormed) : String :=
  match e.length with
  | some n => s!"invalid utf-8 sequence of {n} bytes from index {e.start}"
  | none => s!"incomplete utf-8 byte sequence from index {e.start}"

end IllFormed

namespace Utf8

def isContinuation (b : UInt8) : Bool := 0x80 ≤ b && b ≤ 0xBF

def secondOfThree (a b : UInt8) : Bool :=
  if a == 0xE0 then 0xA0 ≤ b && b ≤ 0xBF
  else if a == 0xED then 0x80 ≤ b && b ≤ 0x9F
  else isContinuation b

def secondOfFour (a b : UInt8) : Bool :=
  if a == 0xF0 then 0x90 ≤ b && b ≤ 0xBF
  else if a == 0xF4 then 0x80 ≤ b && b ≤ 0x8F
  else isContinuation b

/-- Search from byte number `start` on; `none` when all is well formed. -/
def illFormed? (start : Nat) : List UInt8 → Option IllFormed
  | [] => none
  | a :: rest =>
    if a < 0x80 then illFormed? (start + 1) rest
    else if 0xC2 ≤ a && a ≤ 0xDF then
      match rest with
      | [] => some ⟨start, none⟩
      | b :: rest =>
        if isContinuation b then illFormed? (start + 2) rest else some ⟨start, some 1⟩
    else if 0xE0 ≤ a && a ≤ 0xEF then
      match rest with
      | [] => some ⟨start, none⟩
      | b :: rest =>
        if !secondOfThree a b then some ⟨start, some 1⟩
        else match rest with
          | [] => some ⟨start, none⟩
          | c :: rest =>
            if isContinuation c then illFormed? (start + 3) rest else some ⟨start, some 2⟩
    else if 0xF0 ≤ a && a ≤ 0xF4 then
      match rest with
      | [] => some ⟨start, none⟩
      | b :: rest =>
        if !secondOfFour a b then some ⟨start, some 1⟩
        else match rest with
          | [] => some ⟨start, none⟩
          | c :: rest =>
            if !isContinuation c then some ⟨start, some 2⟩
            else match rest with
              | [] => some ⟨start, none⟩
              | d :: rest =>
                if isContinuation d then illFormed? (start + 4) rest else some ⟨start, some 3⟩
    else some ⟨start, some 1⟩

/-- The text of some bytes, or the first place at which they are none. -/
def decode (bytes : ByteArray) : Except IllFormed String :=
  match String.fromUTF8? bytes with
  | some text => .ok text
  | none => .error ((illFormed? 0 bytes.toList).getD ⟨0, none⟩)

end Utf8

end VisualNovel.Text
