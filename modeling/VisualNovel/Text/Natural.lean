namespace VisualNovel.Text

def digitValue (c : Char) : Nat := c.toNat - '0'.toNat

/-- A number in decimal digits, with an optional plus sign. -/
def natural? (text : List Char) : Option Nat :=
  let digits := match text with
    | '+' :: rest => rest
    | cs => cs
  if digits.isEmpty || !digits.all Char.isDigit then none
  else some (digits.foldl (fun n c => n * 10 + digitValue c) 0)

end VisualNovel.Text
