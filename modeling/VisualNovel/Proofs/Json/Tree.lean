import VisualNovel.Json.Node

namespace VisualNovel.Json

/-- Induction over values. -/
@[elab_as_elim]
theorem induct {P : Json → Prop} (null : P .null) (bool : ∀ b, P (.bool b))
    (number : ∀ n, P (.number n)) (string : ∀ s, P (.string s))
    (array : ∀ items, (∀ item ∈ items, P item) → P (.array items))
    (object : ∀ fields, (∀ field ∈ fields, P field.2) → P (.object fields)) : ∀ j, P j
  | .null => null
  | .bool b => bool b
  | .number n => number n
  | .string s => string s
  | .array items => array items fun item _ => induct null bool number string array object item
  | .object fields =>
    object fields fun field _ => induct null bool number string array object field.2
termination_by j => sizeOf j
decreasing_by
  · next mem =>
    have := List.sizeOf_lt_of_mem mem
    simp only [Json.array.sizeOf_spec]
    omega
  · next mem =>
    have := List.sizeOf_lt_of_mem mem
    obtain ⟨key, value⟩ := field
    simp only [Json.object.sizeOf_spec, Prod.mk.sizeOf_spec] at this ⊢
    omega

mutual

/-- The tokens that a value is written with. -/
def tokens : Json → List Token.Kind
  | .null => [.null]
  | .bool b => [.bool b]
  | .number n => [.number (.ok n)]
  | .string s => [.string (.ok s)]
  | .array items => .openArray :: firstTokens items
  | .object fields => .openObject :: firstFieldTokens fields

/-- The tokens of elements and of the bracket behind them. -/
def firstTokens : List Json → List Token.Kind
  | [] => [.closeArray]
  | item :: rest => item.tokens ++ laterTokens rest

def laterTokens : List Json → List Token.Kind
  | [] => [.closeArray]
  | item :: rest => .comma :: (item.tokens ++ laterTokens rest)

def firstFieldTokens : List (String × Json) → List Token.Kind
  | [] => [.closeObject]
  | field :: rest => fieldTokens field ++ laterFieldTokens rest

def laterFieldTokens : List (String × Json) → List Token.Kind
  | [] => [.closeObject]
  | field :: rest => .comma :: (fieldTokens field ++ laterFieldTokens rest)

def fieldTokens : String × Json → List Token.Kind
  | (key, value) => .string (.ok key) :: .colon :: value.tokens

end

theorem tokens_cons (j : Json) : ∃ kind rest, j.tokens = kind :: rest ∧ kind ≠ .closeArray := by
  cases j <;> exact ⟨_, _, rfl, by simp⟩

mutual

/-- Nothing is broken in the tree. -/
def Node.Whole : Node → Prop
  | .null _ _ => True
  | .bool _ _ _ => True
  | .number (.ok _) _ _ => True
  | .string (.ok _) _ => True
  | .array _ items => items.Whole
  | .object _ entries => entries.Whole
  | _ => False

def Items.Whole : Items → Prop
  | .close _ => True
  | .item _ node rest => node.Whole ∧ rest.Whole
  | _ => False

def Entries.Whole : Entries → Prop
  | .close _ => True
  | .entry (.ok _) _ _ value _ rest => value.Whole ∧ rest.Whole
  | _ => False

end

/-- A tree without faults that stands for the value. -/
def Node.Shows (node : Node) (j : Json) : Prop := node.Whole ∧ node.meaning = j

def Items.Shows (items : Items) (js : List Json) : Prop := items.Whole ∧ items.meaning = js

def Entries.Shows (entries : Entries) (fields : List (String × Json)) : Prop :=
  entries.Whole ∧ entries.meaning = fields

theorem Items.shows_item {start : Nat} {node : Node} {rest : Items} {j : Json} {js : List Json}
    (h : node.Shows j) (later : rest.Shows js) : (Items.item start node rest).Shows (j :: js) :=
  ⟨⟨h.1, later.1⟩, by rw [Items.meaning, h.2, later.2]⟩

theorem Entries.shows_entry {key : String} {keyStop colon after : Nat} {node : Node}
    {rest : Entries} {j : Json} {fields : List (String × Json)} (h : node.Shows j)
    (later : rest.Shows fields) :
    (Entries.entry (.ok key) keyStop colon node after rest).Shows ((key, j) :: fields) :=
  ⟨⟨h.1, later.1⟩, by rw [Entries.meaning, h.2, later.2]⟩

namespace Node

/-- The tokens of the value are read as a whole tree, whatever stands behind them. Each token is
looked at by at most four of the readers. -/
def Reads (j : Json) : Prop :=
  ∀ (ts later : List Token) (stop bound : Nat), ts.map Token.kind = j.tokens →
    4 * ts.length ≤ bound →
      ∃ node, ofTokens stop bound (ts ++ later) = (node, later) ∧ node.Shows j

theorem reads_scalar {j : Json} {kind : Token.Kind} (single : j.tokens = [kind])
    (read : ∀ stop bound token rest, token.kind = kind → ∃ node,
      ofTokens stop (bound + 1) (token :: rest) = (node, rest) ∧ node.Shows j) : Reads j := by
  intro ts later stop bound kinds enough
  rw [single, List.map_eq_cons_iff] at kinds
  obtain ⟨token, rest, rfl, same, none⟩ := kinds
  rw [List.map_eq_nil_iff.1 none] at enough ⊢
  obtain ⟨bound, rfl⟩ : ∃ b, bound = b + 1 := ⟨bound - 1, by simp at enough; omega⟩
  exact read stop bound token later same

variable {js : List Json} {fields : List (String × Json)}

def ReadsLater (js : List Json) : Prop :=
  ∀ (ts later : List Token) (stop bound : Nat), ts.map Token.kind = laterTokens js →
    4 * ts.length ≤ bound + 2 →
      ∃ items, afterItem stop bound (ts ++ later) = (items, later) ∧ items.Shows js

theorem item_tokens (later : List Token) (stop bound : Nat) {j : Json} (reads : Reads j)
    (readsLater : ReadsLater js) {ts : List Token}
    (kinds : ts.map Token.kind = j.tokens ++ laterTokens js)
    (enough : 4 * ts.length ≤ bound + 1) :
    ∃ items, item stop bound (ts ++ later) = (items, later) ∧ items.Shows (j :: js) := by
  obtain ⟨mine, others, rfl, mineKinds, otherKinds⟩ := List.map_eq_append_iff.1 kinds
  have some : 0 < mine.length := by
    obtain ⟨kind, rest, tokens, -⟩ := tokens_cons j
    have := congrArg List.length mineKinds
    simp only [tokens, List.length_map, List.length_cons] at this
    omega
  have others_pos : 0 < others.length := by
    have := congrArg List.length otherKinds
    cases js <;> simp [laterTokens] at this <;> omega
  rw [List.length_append] at enough
  obtain ⟨bound, rfl⟩ : ∃ b, bound = b + 1 := ⟨bound - 1, by omega⟩
  obtain ⟨node, read, shows⟩ := reads mine (others ++ later) stop bound mineKinds (by omega)
  obtain ⟨items, readLater, showsLater⟩ :=
    readsLater others later stop bound otherKinds (by omega)
  refine ⟨.item (nextStart stop (mine ++ (others ++ later))) node items, ?_,
    Items.shows_item shows showsLater⟩
  rw [List.append_assoc, item, read]
  dsimp only
  rw [readLater]

theorem readsLater_of_reads (reads : ∀ j ∈ js, Reads j) : ReadsLater js := by
  induction js with
  | nil =>
    intro ts later stop bound kinds enough
    rw [laterTokens, List.map_eq_cons_iff] at kinds
    obtain ⟨token, rest, rfl, kind, none⟩ := kinds
    rw [List.map_eq_nil_iff.1 none] at enough ⊢
    obtain ⟨bound, rfl⟩ : ∃ b, bound = b + 1 := ⟨bound - 1, by simp at enough; omega⟩
    exact ⟨.close token.stop, by simp [afterItem, kind], trivial, rfl⟩
  | cons j js ih =>
    intro ts later stop bound kinds enough
    rw [laterTokens, List.map_eq_cons_iff] at kinds
    obtain ⟨comma, rest, rfl, kind, kinds⟩ := kinds
    rw [List.length_cons] at enough
    obtain ⟨bound, rfl⟩ : ∃ b, bound = b + 1 := ⟨bound - 1, by omega⟩
    obtain ⟨items, read, shows⟩ := item_tokens later stop bound
      (reads j (by simp)) (ih fun j mem => reads j (by simp [mem])) kinds (by omega)
    refine ⟨items, ?_, shows⟩
    -- what follows the comma is no bracket
    obtain ⟨first, kinds', tokens, opens⟩ := tokens_cons j
    rw [tokens, List.cons_append, List.map_eq_cons_iff] at kinds
    obtain ⟨next, rest, rfl, firstKind, -⟩ := kinds
    have opens : next.kind ≠ .closeArray := firstKind ▸ opens
    rw [List.cons_append, List.cons_append, afterItem]
    simp only [kind]
    exact read

theorem firstItem_tokens (later : List Token) (stop bound : Nat) (reads : ∀ j ∈ js, Reads j)
    {ts : List Token} (kinds : ts.map Token.kind = firstTokens js) (enough : 4 * ts.length ≤ bound) :
    ∃ items, firstItem stop bound (ts ++ later) = (items, later) ∧ items.Shows js := by
  cases js with
  | nil =>
    rw [firstTokens, List.map_eq_cons_iff] at kinds
    obtain ⟨token, rest, rfl, kind, none⟩ := kinds
    rw [List.map_eq_nil_iff.1 none] at enough ⊢
    obtain ⟨bound, rfl⟩ : ∃ b, bound = b + 1 := ⟨bound - 1, by simp at enough; omega⟩
    exact ⟨.close token.stop, by simp [firstItem, kind], trivial, rfl⟩
  | cons j js =>
    obtain ⟨first, kinds', tokens, opens⟩ := tokens_cons j
    have shape := kinds
    rw [firstTokens, tokens, List.cons_append, List.map_eq_cons_iff] at shape
    obtain ⟨token, rest, rfl, kind, -⟩ := shape
    have opens : token.kind ≠ .closeArray := kind ▸ opens
    rw [List.length_cons] at enough
    obtain ⟨bound, rfl⟩ : ∃ b, bound = b + 1 := ⟨bound - 1, by omega⟩
    obtain ⟨items, read, shows⟩ := item_tokens later stop bound
      (reads j (by simp)) (readsLater_of_reads fun j mem => reads j (by simp [mem])) kinds
      (by rw [List.length_cons]; omega)
    refine ⟨items, ?_, shows⟩
    rw [List.cons_append, firstItem]
    split
    · next closes => exact (opens closes).elim
    · exact read

def ReadsLaterFields (fields : List (String × Json)) : Prop :=
  ∀ (ts later : List Token) (stop bound : Nat), ts.map Token.kind = laterFieldTokens fields →
    4 * ts.length ≤ bound + 2 →
      ∃ entries, afterEntry stop bound (ts ++ later) = (entries, later) ∧ entries.Shows fields

theorem entry_tokens (later : List Token) (stop bound : Nat) {field : String × Json}
    (reads : Reads field.2) (readsLater : ReadsLaterFields fields) {ts : List Token}
    (kinds : ts.map Token.kind = fieldTokens field ++ laterFieldTokens fields)
    (enough : 4 * ts.length ≤ bound + 1) :
    ∃ entries, entry stop bound (ts ++ later) = (entries, later) ∧
      entries.Shows (field :: fields) := by
  obtain ⟨key, value⟩ := field
  rw [fieldTokens, List.cons_append, List.cons_append, List.map_eq_cons_iff] at kinds
  obtain ⟨name, rest, rfl, nameKind, kinds⟩ := kinds
  obtain ⟨colon, rest, rfl, colonKind, kinds⟩ := List.map_eq_cons_iff.1 kinds
  obtain ⟨mine, others, rfl, mineKinds, otherKinds⟩ := List.map_eq_append_iff.1 kinds
  simp only [List.length_cons, List.length_append] at enough
  obtain ⟨bound, rfl⟩ : ∃ b, bound = b + 1 := ⟨bound - 1, by omega⟩
  obtain ⟨node, read, shows⟩ := reads mine (others ++ later) stop bound mineKinds (by omega)
  obtain ⟨entries, readLater, showsLater⟩ :=
    readsLater others later stop bound otherKinds (by omega)
  refine ⟨.entry (.ok key) name.stop colon.start node (nextStart stop (others ++ later)) entries, ?_,
    Entries.shows_entry shows showsLater⟩
  rw [List.cons_append, List.cons_append, List.append_assoc, entry]
  simp only [nameKind, colonKind, read, readLater]

theorem readsLaterFields_of_reads (reads : ∀ field ∈ fields, Reads field.2) :
    ReadsLaterFields fields := by
  induction fields with
  | nil =>
    intro ts later stop bound kinds enough
    rw [laterFieldTokens, List.map_eq_cons_iff] at kinds
    obtain ⟨token, rest, rfl, kind, none⟩ := kinds
    rw [List.map_eq_nil_iff.1 none] at enough ⊢
    obtain ⟨bound, rfl⟩ : ∃ b, bound = b + 1 := ⟨bound - 1, by simp at enough; omega⟩
    exact ⟨.close token.stop, by simp [afterEntry, kind], trivial, rfl⟩
  | cons field fields ih =>
    intro ts later stop bound kinds enough
    rw [laterFieldTokens, List.map_eq_cons_iff] at kinds
    obtain ⟨comma, rest, rfl, kind, kinds⟩ := kinds
    rw [List.length_cons] at enough
    obtain ⟨bound, rfl⟩ : ∃ b, bound = b + 1 := ⟨bound - 1, by omega⟩
    obtain ⟨entries, read, shows⟩ := entry_tokens later stop bound
      (reads field (by simp)) (ih fun field mem => reads field (by simp [mem])) kinds (by omega)
    refine ⟨entries, ?_, shows⟩
    -- what follows the comma is a key
    rw [fieldTokens, List.cons_append, List.map_eq_cons_iff] at kinds
    obtain ⟨next, rest, rfl, nextKind, -⟩ := kinds
    rw [List.cons_append] at read
    simp only [List.cons_append, afterEntry, kind, nextKind]
    exact read

theorem firstEntry_tokens (later : List Token) (stop bound : Nat)
    (reads : ∀ field ∈ fields, Reads field.2) {ts : List Token}
    (kinds : ts.map Token.kind = firstFieldTokens fields) (enough : 4 * ts.length ≤ bound) :
    ∃ entries, firstEntry stop bound (ts ++ later) = (entries, later) ∧ entries.Shows fields := by
  cases fields with
  | nil =>
    rw [firstFieldTokens, List.map_eq_cons_iff] at kinds
    obtain ⟨token, rest, rfl, kind, none⟩ := kinds
    rw [List.map_eq_nil_iff.1 none] at enough ⊢
    obtain ⟨bound, rfl⟩ : ∃ b, bound = b + 1 := ⟨bound - 1, by simp at enough; omega⟩
    exact ⟨.close token.stop, by simp [firstEntry, kind], trivial, rfl⟩
  | cons field fields =>
    have shape := kinds
    rw [firstFieldTokens, fieldTokens, List.cons_append, List.map_eq_cons_iff] at shape
    obtain ⟨token, rest, rfl, kind, -⟩ := shape
    rw [List.length_cons] at enough
    obtain ⟨bound, rfl⟩ : ∃ b, bound = b + 1 := ⟨bound - 1, by omega⟩
    obtain ⟨entries, read, shows⟩ := entry_tokens later stop bound
      (reads field (by simp)) (readsLaterFields_of_reads fun field mem => reads field (by simp [mem]))
      kinds (by rw [List.length_cons]; omega)
    refine ⟨entries, ?_, shows⟩
    rw [List.cons_append] at read
    simp only [List.cons_append, firstEntry, kind]
    exact read

theorem reads (j : Json) : Reads j := by
  induction j using Json.induct with
  | null =>
    refine reads_scalar rfl fun stop bound token rest kind => ?_
    exact ⟨.null token.start token.stop, by simp only [ofTokens, kind], trivial, rfl⟩
  | bool b =>
    refine reads_scalar rfl fun stop bound token rest kind => ?_
    exact ⟨.bool b token.start token.stop, by simp only [ofTokens, kind], trivial, rfl⟩
  | number n =>
    refine reads_scalar rfl fun stop bound token rest kind => ?_
    exact ⟨.number (.ok n) token.start token.stop, by simp only [ofTokens, kind], trivial, rfl⟩
  | string s =>
    refine reads_scalar rfl fun stop bound token rest kind => ?_
    exact ⟨.string (.ok s) token.stop, by simp only [ofTokens, kind], trivial, rfl⟩
  | array items ih =>
    intro ts later stop bound kinds enough
    rw [tokens, List.map_eq_cons_iff] at kinds
    obtain ⟨token, rest, rfl, kind, kinds⟩ := kinds
    rw [List.length_cons] at enough
    obtain ⟨bound, rfl⟩ : ∃ b, bound = b + 1 := ⟨bound - 1, by omega⟩
    obtain ⟨items', read, whole, meaning⟩ :=
      firstItem_tokens later stop bound ih kinds (by omega)
    refine ⟨.array token.start items', ?_, whole, congrArg Json.array meaning⟩
    simp only [List.cons_append, ofTokens, kind, read]
  | object fields ih =>
    intro ts later stop bound kinds enough
    rw [tokens, List.map_eq_cons_iff] at kinds
    obtain ⟨token, rest, rfl, kind, kinds⟩ := kinds
    rw [List.length_cons] at enough
    obtain ⟨bound, rfl⟩ : ∃ b, bound = b + 1 := ⟨bound - 1, by omega⟩
    obtain ⟨entries, read, whole, meaning⟩ :=
      firstEntry_tokens later stop bound ih kinds (by omega)
    refine ⟨.object token.start entries, ?_, whole, congrArg Json.object meaning⟩
    simp only [List.cons_append, ofTokens, kind, read]

end Node

/-- A text with the tokens of a value is a tree that stands for it, with nothing behind it. -/
theorem Document.ofText_tokens {text : String} {j : Json}
    (kinds : (Token.ofText text).map Token.kind = j.tokens) :
    (Document.ofText text).root.Shows j ∧ (Document.ofText text).extra = none := by
  obtain ⟨node, read, shows⟩ := Node.reads j (Token.ofText text) [] text.utf8ByteSize
    (4 * (Token.ofText text).length + 4) kinds (by omega)
  rw [List.append_nil] at read
  unfold Document.ofText
  simp only [read]
  exact ⟨shows, rfl⟩

end VisualNovel.Json
