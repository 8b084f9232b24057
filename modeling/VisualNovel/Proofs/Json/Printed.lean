import VisualNovel.Proofs.Json.Numerals
import VisualNovel.Proofs.Json.Tree

/-!
The indented text of a value is read as a tree that stands for the value, but for its numbers: they
are what their own texts are read as.
-/

namespace VisualNovel.Json

/-- What the text of a number is read as: a number, or null when no document can hold it. -/
def Number.reread (n : Number) : Json :=
  match (Document.ofText n.text).root.meaning with
  | .number m => .number m
  | _ => .null

mutual

def reread : Json → Json
  | .number n => n.reread
  | .array items => .array (rereadItems items)
  | .object fields => .object (rereadFields fields)
  | json => json

def rereadItems : List Json → List Json
  | [] => []
  | item :: rest => item.reread :: rereadItems rest

def rereadFields : List (String × Json) → List (String × Json)
  | [] => []
  | field :: rest => rereadField field :: rereadFields rest

def rereadField : String × Json → String × Json
  | (key, value) => (key, value.reread)

end

mutual

def numbers : Json → List Number
  | .number n => [n]
  | .array items => itemNumbers items
  | .object fields => fieldsNumbers fields
  | _ => []

def itemNumbers : List Json → List Number
  | [] => []
  | item :: rest => item.numbers ++ itemNumbers rest

def fieldsNumbers : List (String × Json) → List Number
  | [] => []
  | field :: rest => fieldNumbers field ++ fieldsNumbers rest

def fieldNumbers : String × Json → List Number
  | (_, value) => value.numbers

end

mutual

/-- The brackets around the innermost part of a value. -/
def depth : Json → Nat
  | .array items => itemsDepth items + 1
  | .object fields => fieldsDepth fields + 1
  | _ => 0

def itemsDepth : List Json → Nat
  | [] => 0
  | item :: rest => max item.depth (itemsDepth rest)

def fieldsDepth : List (String × Json) → Nat
  | [] => 0
  | field :: rest => max (fieldDepth field) (fieldsDepth rest)

def fieldDepth : String × Json → Nat
  | (_, value) => value.depth

end

@[simp] theorem rereadItems_eq (items : List Json) : rereadItems items = items.map reread := by
  induction items with
  | nil => rfl
  | cons item rest ih => rw [rereadItems, ih, List.map_cons]

@[simp] theorem rereadFields_eq (fields : List (String × Json)) :
    rereadFields fields = fields.map fun (key, value) => (key, value.reread) := by
  induction fields with
  | nil => rfl
  | cons field rest ih => rw [rereadFields, ih, List.map_cons, rereadField]

theorem mem_itemNumbers {n : Number} {items : List Json} :
    n ∈ itemNumbers items ↔ ∃ item ∈ items, n ∈ item.numbers := by
  induction items with
  | nil => simp [itemNumbers]
  | cons item rest ih => simp [itemNumbers, ih]

theorem mem_fieldsNumbers {n : Number} {fields : List (String × Json)} :
    n ∈ fieldsNumbers fields ↔ ∃ field ∈ fields, n ∈ field.2.numbers := by
  induction fields with
  | nil => simp [fieldsNumbers]
  | cons field rest ih =>
    obtain ⟨key, value⟩ := field
    simp [fieldsNumbers, fieldNumbers, ih]

theorem itemsDepth_le {items : List Json} {d : Nat} :
    itemsDepth items ≤ d ↔ ∀ item ∈ items, item.depth ≤ d := by
  induction items with
  | nil => simp [itemsDepth]
  | cons item rest ih => rw [itemsDepth, Nat.max_le, ih, List.forall_mem_cons]

theorem fieldsDepth_le {fields : List (String × Json)} {d : Nat} :
    fieldsDepth fields ≤ d ↔ ∀ field ∈ fields, field.2.depth ≤ d := by
  induction fields with
  | nil => simp [fieldsDepth]
  | cons field rest ih =>
    obtain ⟨key, value⟩ := field
    rw [fieldsDepth, fieldDepth, Nat.max_le, ih, List.forall_mem_cons]

theorem Number.depth_reread (n : Number) : n.reread.depth = 0 := by
  unfold Number.reread
  split <;> rfl

theorem depth_reread_le (j : Json) {d : Nat} (h : j.depth ≤ d) : j.reread.depth ≤ d := by
  induction j using induct generalizing d with
  | null | bool | string => exact h
  | number n =>
    rw [reread, Number.depth_reread]
    exact Nat.zero_le d
  | array items ih =>
    cases d with
    | zero => simp [depth] at h
    | succ d =>
      simp only [depth, Nat.add_le_add_iff_right, itemsDepth_le] at h
      simp only [reread, rereadItems_eq, depth, Nat.add_le_add_iff_right, itemsDepth_le, List.forall_mem_map]
      exact fun item mem => ih item mem (h item mem)
  | object fields ih =>
    cases d with
    | zero => simp [depth] at h
    | succ d =>
      simp only [depth, Nat.add_le_add_iff_right, fieldsDepth_le] at h
      simp only [reread, rereadFields_eq, depth, Nat.add_le_add_iff_right, fieldsDepth_le, List.forall_mem_map]
      exact fun field mem => ih field mem (h field mem)

theorem firstTokens_eq (items : List Json) :
    firstTokens items = [.comma].intercalate (items.map tokens) ++ [.closeArray] := by
  cases items with
  | nil => rfl
  | cons item rest =>
    induction rest generalizing item with
    | nil => simp [firstTokens, laterTokens]
    | cons next rest ih =>
      have later : firstTokens (item :: next :: rest) =
          item.tokens ++ .comma :: firstTokens (next :: rest) := by
        simp only [firstTokens, laterTokens]
      rw [later, ih]
      simp

theorem firstFieldTokens_eq (fields : List (String × Json)) :
    firstFieldTokens fields = [.comma].intercalate (fields.map fieldTokens) ++ [.closeObject] := by
  cases fields with
  | nil => rfl
  | cons field rest =>
    induction rest generalizing field with
    | nil => simp [firstFieldTokens, laterFieldTokens]
    | cons next rest ih =>
      have later : firstFieldTokens (field :: next :: rest) =
          fieldTokens field ++ .comma :: firstFieldTokens (next :: rest) := by
        simp only [firstFieldTokens, laterFieldTokens]
      rw [later, ih]
      simp

open Token (Lexes Ends)

/-- The text has tokens of the given kinds before anything that ends a numeral. -/
def Prints (text : String) (kinds : List Token.Kind) : Prop :=
  ∀ tail, Ends tail → Lexes (text.toList ++ tail) tail kinds

/-- The text of the number is a single token, also where more text follows. -/
def Number.Legible (n : Number) : Prop := Prints n.text n.reread.tokens

theorem ends_lineBreak (level : Nat) (tail : List Char) :
    Ends ((lineBreak level).toList ++ tail) := by
  simp [lineBreak, Ends]

theorem prints_intercalate {α : Type} {items : List α} {text : α → String}
    {kinds : α → List Token.Kind} (each : ∀ a ∈ items, Prints (text a) (kinds a)) (level : Nat) :
    Prints (("," ++ lineBreak level).intercalate (items.map text))
      ([.comma].intercalate (items.map kinds)) := by
  cases items with
  | nil => exact fun tail _ => .refl tail
  | cons a rest =>
    induction rest generalizing a with
    | nil => simpa using each a (by simp)
    | cons b rest ih =>
      intro tail ends
      have later := ih b (fun c mem => each c (by simp [mem])) tail ends
      have first := each a (by simp)
        (',' :: ((lineBreak level).toList ++
          ((("," ++ lineBreak level).intercalate ((b :: rest).map text)).toList ++ tail)))
        (by simp [Ends])
      have separated := (Token.lexes_comma _).trans ((Token.lexes_lineBreak level _).layout later)
      have both := first.trans separated
      simp only [List.map_cons, String.intercalate_cons_cons, List.intercalate_cons_cons,
        String.toList_append, List.append_assoc] at both ⊢
      exact both

variable {α : Type} {items : List α} {text : α → String} {kinds : α → List Token.Kind}

theorem prints_block (opening closing : String) {opens closes : Token.Kind}
    (begins : ∀ rest, Lexes (opening.toList ++ rest) rest [opens])
    (finishes : ∀ rest, Lexes (closing.toList ++ rest) rest [closes])
    (each : ∀ a ∈ items, Prints (text a) (kinds a)) (level : Nat) :
    Prints (block opening closing level (items.map text))
      (opens :: ([.comma].intercalate (items.map kinds) ++ [closes])) := by
  intro tail ends
  cases items with
  | nil =>
    rw [List.map_nil, block, String.toList_append, List.append_assoc]
    exact (begins _).trans (finishes tail)
  | cons a rest =>
    have inner := prints_intercalate each (level + 1)
      ((lineBreak level).toList ++ (closing.toList ++ tail)) (ends_lineBreak level _)
    have last := (Token.lexes_lineBreak level _).layout (finishes tail)
    have all := (begins _).trans ((Token.lexes_lineBreak (level + 1) _).layout (inner.trans last))
    have shape : block opening closing level ((a :: rest).map text) =
        opening ++ lineBreak (level + 1) ++
          ("," ++ lineBreak (level + 1)).intercalate ((a :: rest).map text) ++
            lineBreak level ++ closing := by
      rw [List.map_cons, block]
      simp
    rw [shape]
    simp only [String.toList_append, List.append_assoc]
    exact all

theorem indentedItems_eq (level : Nat) (items : List Json) :
    indentedItems level items = items.map (indented level) := by
  induction items with
  | nil => rfl
  | cons item rest ih => rw [indentedItems, ih, List.map_cons]

theorem indentedFields_eq (level : Nat) (fields : List (String × Json)) :
    indentedFields level fields = fields.map (indentedField level) := by
  induction fields with
  | nil => rfl
  | cons field rest ih => rw [indentedFields, ih, List.map_cons]

theorem prints_field {key : String} {value : Json} {level : Nat}
    (h : Prints (indented level value) value.reread.tokens) :
    Prints (indentedField level (key, value)) (fieldTokens (key, value.reread)) := by
  intro tail ends
  have blank : Lexes (' ' :: _) _ [] := Token.Lexes.space rfl ((indented level value).toList ++ tail)
  have colon := (Token.lexes_colon _).trans (blank.layout (h tail ends))
  have all := (Token.lexes_string key _).trans colon
  rw [indentedField, String.toList_append, String.toList_append, List.append_assoc,
    List.append_assoc]
  exact all

/-- The text of a value whose numbers are legible. -/
theorem prints_indented (j : Json) (legible : ∀ n ∈ j.numbers, n.Legible) (level : Nat) :
    Prints (indented level j) j.reread.tokens := by
  induction j using induct generalizing level with
  | null => exact fun tail _ => Token.lexes_null tail
  | bool b =>
    cases b with
    | true => exact fun tail _ => Token.lexes_true tail
    | false => exact fun tail _ => Token.lexes_false tail
  | number n => exact legible n (by simp [numbers])
  | string s => exact fun tail _ => Token.lexes_string s tail
  | array items ih =>
    have each : ∀ item ∈ items, Prints (indented (level + 1) item) item.reread.tokens := by
      intro item mem
      refine ih item mem (fun n inside => legible n ?_) (level + 1)
      exact mem_itemNumbers.2 ⟨item, mem, inside⟩
    have block := prints_block "[" "]" Token.lexes_openArray Token.lexes_closeArray each level
    rw [indented, indentedItems_eq, reread, tokens, rereadItems_eq, firstTokens_eq, List.map_map]
    exact block
  | object fields ih =>
    have each : ∀ field ∈ fields, Prints (indentedField (level + 1) field)
        (fieldTokens (field.1, field.2.reread)) := by
      intro field mem
      refine prints_field (ih field mem (fun n inside => legible n ?_) (level + 1))
      exact mem_fieldsNumbers.2 ⟨field, mem, inside⟩
    have block := prints_block "\x7b" "\x7d" Token.lexes_openObject Token.lexes_closeObject each
      level
    rw [indented, indentedFields_eq, reread, tokens, rereadFields_eq, firstFieldTokens_eq,
      List.map_map]
    exact block

theorem ofText_of_prints {text : String} {j : Json} (h : Prints text j.tokens) :
    (Document.ofText text).root.Shows j ∧ (Document.ofText text).extra = none := by
  refine Document.ofText_tokens ?_
  have lexes := h [] (by simp [Ends])
  rw [List.append_nil] at lexes
  obtain ⟨tokens, bound, offset, -, read, kinds⟩ := lexes text.toList.length 0 (Nat.le_refl _)
  have none : Token.readAll bound offset [] = [] := by cases bound <;> rfl
  rw [none, List.append_nil] at read
  rw [Token.ofText, read, kinds]

theorem ofText_pretty (j : Json) (legible : ∀ n ∈ j.numbers, n.Legible) :
    (Document.ofText j.pretty).root.Shows j.reread ∧ (Document.ofText j.pretty).extra = none :=
  ofText_of_prints (prints_indented j legible 0)

end VisualNovel.Json
