import VisualNovel.Json.Node
import VisualNovel.Proofs.Decimal.Powers
import VisualNovel.Proofs.Json.ReadBack

namespace VisualNovel.Json

/-- A number that a text can stand for. -/
def Number.Plain : Number → Prop
  | .integer i => -(twoTo 63 : Int) ≤ i ∧ i < twoTo 64
  | .double x => x.isFinite = true
  | .single _ => False

theorem Number.Plain.fits {n : Number} (h : n.Plain) : n.Fits := by
  cases n with
  | integer | double => exact h
  | single => trivial

namespace Numeral

open Decimal (isFinite_mul isFinite_div isFinite_neg isFinite_ofNat isFinite_powerOfTen
  atLeastTwo_powerOfTen)

theorem absorbWhole_lt {significand : Nat} (h : significand < twoTo 64) (digits : List Nat) :
    (absorbWhole significand digits).1 < twoTo 64 := by
  induction digits generalizing significand with
  | nil => exact h
  | cons d rest ih =>
    rw [absorbWhole]
    split
    · next small => exact ih small
    · exact h

theorem absorbFraction_lt {significand : Nat} (h : significand < twoTo 64) (digits : List Nat) :
    (absorbFraction significand digits).1 < twoTo 64 := by
  induction digits generalizing significand with
  | nil => exact h
  | cons d rest ih =>
    rw [absorbFraction]
    split
    · next small => exact ih small
    · exact h

theorem isFinite_scaleDown {steps places : Nat} {x : Float} (h : x.isFinite = true)
    (some : 0 < places) : (scaleDown steps x places).isFinite = true := by
  have step {n : Nat} {y : Float} (finite : y.isFinite = true) (pos : 0 < n) (fits : n ≤ 308) :
      (y / powerOfTen n).isFinite = true := by
    obtain ⟨n, rfl⟩ := Nat.exists_eq_succ_of_ne_zero (Nat.ne_of_gt pos)
    exact isFinite_div finite (atLeastTwo_powerOfTen (by omega))
  induction steps generalizing x places with
  | zero => exact h
  | succ steps ih =>
    rw [scaleDown]
    split
    · next fits => exact step h some fits
    · split
      · exact h
      · exact ih (step h (by decide) (by decide)) (by omega)

theorem isFinite_scale {significand : Nat} {exponent : Int} {x : Float}
    (small : significand < twoTo 64) (h : scale? significand exponent = some x) :
    x.isFinite = true := by
  have whole := isFinite_ofNat small
  simp only [scale?] at h
  split at h
  · cases h
    exact isFinite_scaleDown whole (by omega)
  · split at h
    · split at h
      · cases h
      · next finite =>
        cases h
        exact isFinite_mul whole (isFinite_powerOfTen (by omega)) (Bool.eq_false_iff.2 finite)
    · split at h
      · cases h
        exact whole
      · cases h

theorem plain_signed {n : Numeral} {x : Float} (h : x.isFinite = true) : (n.signed x).Plain := by
  rw [signed]
  split
  · exact isFinite_neg h
  · exact h

theorem plain_scaled {n : Numeral} {significand : Nat} {exponent : Int} {m : Number}
    (small : significand < twoTo 64) (h : n.scaled significand exponent = .ok m) : m.Plain := by
  rw [scaled] at h
  split at h
  · next x scaled =>
    cases h
    exact plain_signed (isFinite_scale small scaled)
  · cases h

theorem plain_withExponent {n : Numeral} {significand : Nat} {start : Int} {m : Number}
    (small : significand < twoTo 64) (h : n.withExponent significand start = .ok m) :
    m.Plain := by
  have zero : (0 : Float).isFinite = true := by decide +kernel
  rw [withExponent] at h
  split at h
  · exact plain_scaled small h
  · split at h
    · exact plain_scaled small h
    · split at h
      · cases h
      · cases h
        exact plain_signed zero

theorem plain_of_value {n : Numeral} {m : Number} (h : n.value = .ok m) : m.Plain := by
  rw [value_eq] at h
  have whole := absorbWhole_lt (show 0 < twoTo 64 by decide) n.whole
  generalize absorbWhole 0 n.whole = parts at h whole
  obtain ⟨significand, places⟩ := parts
  split at h
  · next digits _ => exact plain_withExponent (absorbFraction_lt whole digits) h
  · split at h
    · split at h
      · cases h
        exact ⟨by omega, Int.ofNat_lt.2 whole⟩
      · split at h
        · cases h
          exact plain_signed (isFinite_ofNat whole)
        · next small =>
          cases h
          simp only [Bool.or_eq_true, decide_eq_true_eq, not_or, Nat.not_lt] at small
          have low : (significand : Int) ≤ twoTo 63 := Int.ofNat_le.2 small.2
          have high : (0 : Int) < twoTo 64 := Int.ofNat_lt.2 (twoTo_pos 64)
          exact ⟨by omega, by omega⟩
    · exact plain_withExponent whole h

end Numeral

namespace Token

/-- The token is no number, or it is a plain one. -/
def Kind.Plain (kind : Kind) : Prop := ∀ n, kind = .number (.ok n) → n.Plain

theorem plain_readWord {kind : Kind} (h : kind.Plain) (offset : Nat) (word cs : List Char) :
    (readWord kind offset word cs).kind.Plain := by
  induction word generalizing offset cs with
  | nil => exact h
  | cons w word ih =>
    cases cs with
    | nil => rintro _ ⟨⟩
    | cons c cs =>
      rw [readWord]
      split
      · exact ih _ _
      · rintro _ ⟨⟩

theorem plain_numeral (n : Numeral) : (Kind.number n.value).Plain := by
  intro m same
  exact Numeral.plain_of_value (Kind.number.inj same)

theorem plain_missingDigit (offset : Nat) (cs : List Char) :
    (missingDigit offset cs).kind.Plain := by
  cases cs <;> rintro _ ⟨⟩

theorem plain_readExponent (n : Numeral) (offset : Nat) (cs : List Char) :
    (readExponent n offset cs).kind.Plain := by
  unfold readExponent
  dsimp only
  split
  · exact plain_missingDigit _ _
  · exact plain_numeral _

theorem plain_readFraction (n : Numeral) (offset : Nat) (cs : List Char) :
    (readFraction n offset cs).kind.Plain := by
  unfold readFraction
  split
  · exact plain_missingDigit _ _
  · dsimp only
    split
    · exact plain_readExponent _ _ _
    · exact plain_readExponent _ _ _
    · exact plain_numeral _

theorem plain_readNumber (negative : Bool) (offset : Nat) (cs : List Char) :
    (readNumber negative offset cs).kind.Plain := by
  unfold readNumber
  split
  · exact plain_missingDigit _ _
  · rintro _ ⟨⟩
  · dsimp only
    split
    · exact plain_readFraction _ _ _
    · exact plain_readExponent _ _ _
    · exact plain_readExponent _ _ _
    · exact plain_numeral _

theorem plain_readString (earlier : Option Error) (leading : Option Nat) (chars : List Char)
    (offset : Nat) (cs : List Char) :
    (readString earlier leading chars offset cs).kind.Plain := by
  fun_induction readString earlier leading chars offset cs
  all_goals first | assumption | rintro _ ⟨⟩

theorem plain_readOne (offset : Nat) (c : Char) (rest : List Char) :
    (readOne offset c rest).kind.Plain := by
  unfold readOne
  split
  case h_7 | h_8 | h_9 =>
    refine plain_readWord ?_ _ _ _
    rintro _ ⟨⟩
  case h_10 => exact plain_readString _ _ _ _ _
  case h_11 => exact plain_readNumber _ _ _
  case h_12 =>
    split
    · exact plain_readNumber _ _ _
    · rintro _ ⟨⟩
  all_goals rintro _ ⟨⟩

/-- Every number among the tokens of a text is plain. -/
theorem plain_readAll (bound offset : Nat) (cs : List Char) :
    ∀ token ∈ readAll bound offset cs, token.kind.Plain := by
  fun_induction readAll bound offset cs with
  | case1 | case2 => simp
  | case3 bound offset c rest space ih => exact ih
  | case4 bound offset c rest space read token last =>
    simpa using plain_readOne offset c rest
  | case5 bound offset c rest space read token last ih =>
    rintro t mem
    obtain rfl | later := List.mem_cons.1 mem
    · exact plain_readOne offset c rest
    · exact ih t later

end Token

def Node.Plain (node : Node) : Prop := ∀ n ∈ node.meaning.numbers, n.Plain

def Items.Plain (items : Items) : Prop := ∀ n ∈ itemNumbers items.meaning, n.Plain

def Entries.Plain (entries : Entries) : Prop := ∀ n ∈ fieldsNumbers entries.meaning, n.Plain

theorem Node.Plain.of_none {node : Node} (h : node.meaning.numbers = []) : node.Plain := by
  simp [Node.Plain, h]

theorem Items.Plain.of_none {items : Items} (h : itemNumbers items.meaning = []) :
    items.Plain := by
  simp [Items.Plain, h]

theorem Entries.Plain.of_none {entries : Entries} (h : fieldsNumbers entries.meaning = []) :
    entries.Plain := by
  simp [Entries.Plain, h]

theorem Items.plain_item {start : Nat} {node : Node} {rest : Items} (h : node.Plain)
    (later : rest.Plain) : (Items.item start node rest).Plain := by
  simp only [Items.Plain, Items.meaning, itemNumbers, List.mem_append]
  rintro n (first | second)
  · exact h n first
  · exact later n second

theorem Entries.plain_entry {key : Except Error String} {keyStop colon after : Nat} {node : Node}
    {rest : Entries} (h : node.Plain) (later : rest.Plain) :
    (Entries.entry key keyStop colon node after rest).Plain := by
  cases key with
  | error e => exact later
  | ok key =>
    simp only [Entries.Plain, Entries.meaning, fieldsNumbers, fieldNumbers, List.mem_append]
    rintro n (first | second)
    · exact h n first
    · exact later n second

namespace Node

def AllPlain (tokens : List Token) : Prop := ∀ token ∈ tokens, token.kind.Plain

theorem AllPlain.tail {token : Token} {tokens : List Token} (h : AllPlain (token :: tokens)) :
    AllPlain tokens := fun t mem => h t (List.mem_cons_of_mem _ mem)

/-- Of plain tokens the readers make plain trees, and they leave plain tokens. -/
structure ReadsPlain (stop bound : Nat) : Prop where
  node : ∀ ts, AllPlain ts → (ofTokens stop bound ts).1.Plain ∧ AllPlain (ofTokens stop bound ts).2
  firstItem : ∀ ts, AllPlain ts →
    (firstItem stop bound ts).1.Plain ∧ AllPlain (firstItem stop bound ts).2
  item : ∀ ts, AllPlain ts → (item stop bound ts).1.Plain ∧ AllPlain (item stop bound ts).2
  afterItem : ∀ ts, AllPlain ts →
    (afterItem stop bound ts).1.Plain ∧ AllPlain (afterItem stop bound ts).2
  firstEntry : ∀ ts, AllPlain ts →
    (firstEntry stop bound ts).1.Plain ∧ AllPlain (firstEntry stop bound ts).2
  entry : ∀ ts, AllPlain ts → (entry stop bound ts).1.Plain ∧ AllPlain (entry stop bound ts).2
  afterEntry : ∀ ts, AllPlain ts →
    (afterEntry stop bound ts).1.Plain ∧ AllPlain (afterEntry stop bound ts).2

theorem readsPlain_zero (stop : Nat) : ReadsPlain stop 0 where
  node _ h := ⟨.of_none rfl, h⟩
  firstItem _ h := ⟨.of_none rfl, h⟩
  item _ h := ⟨.of_none rfl, h⟩
  afterItem _ h := ⟨.of_none rfl, h⟩
  firstEntry _ h := ⟨.of_none rfl, h⟩
  entry _ h := ⟨.of_none rfl, h⟩
  afterEntry _ h := ⟨.of_none rfl, h⟩

variable {stop bound : Nat}

theorem plain_number {value : Except Error Number} {first last : Nat}
    (h : (Token.Kind.number value).Plain) : (Node.number value first last).Plain := by
  cases value with
  | error e => exact .of_none rfl
  | ok m =>
    intro n mem
    cases List.mem_singleton.1 mem
    exact h m rfl

theorem ReadsPlain.node_succ (h : ReadsPlain stop bound) (ts : List Token) (plain : AllPlain ts) :
    (ofTokens stop (bound + 1) ts).1.Plain ∧ AllPlain (ofTokens stop (bound + 1) ts).2 := by
  cases ts with
  | nil => exact ⟨.of_none rfl, plain⟩
  | cons token rest =>
    rw [ofTokens]
    split
    case h_3 n kind => exact ⟨plain_number (kind ▸ plain token (by simp)), plain.tail⟩
    case h_4 s kind => cases s <;> exact ⟨.of_none rfl, plain.tail⟩
    case h_7 => exact h.firstItem rest plain.tail
    case h_8 => exact h.firstEntry rest plain.tail
    case h_9 => exact ⟨.of_none rfl, plain⟩
    all_goals exact ⟨.of_none rfl, plain.tail⟩

theorem ReadsPlain.firstItem_succ (h : ReadsPlain stop bound) (ts : List Token)
    (plain : AllPlain ts) : (Node.firstItem stop (bound + 1) ts).1.Plain ∧
      AllPlain (Node.firstItem stop (bound + 1) ts).2 := by
  cases ts with
  | nil => exact ⟨.of_none rfl, plain⟩
  | cons token rest =>
    rw [Node.firstItem]
    split
    · exact ⟨.of_none rfl, plain.tail⟩
    · exact h.item _ plain

theorem ReadsPlain.item_succ (h : ReadsPlain stop bound) (ts : List Token)
    (plain : AllPlain ts) : (Node.item stop (bound + 1) ts).1.Plain ∧
      AllPlain (Node.item stop (bound + 1) ts).2 := by
  rw [Node.item]
  have first := h.node ts plain
  have later := h.afterItem _ first.2
  exact ⟨Items.plain_item first.1 later.1, later.2⟩

theorem ReadsPlain.afterItem_succ (h : ReadsPlain stop bound) (ts : List Token)
    (plain : AllPlain ts) : (Node.afterItem stop (bound + 1) ts).1.Plain ∧
      AllPlain (Node.afterItem stop (bound + 1) ts).2 := by
  cases ts with
  | nil => exact ⟨.of_none rfl, plain⟩
  | cons token rest =>
    unfold Node.afterItem
    split
    · exact ⟨.of_none rfl, plain.tail⟩
    · split
      · exact ⟨.of_none rfl, plain.tail⟩
      · split
        · exact ⟨.of_none rfl, plain.tail⟩
        · exact h.item _ plain.tail
    · exact ⟨.of_none rfl, plain.tail⟩

theorem ReadsPlain.firstEntry_succ (h : ReadsPlain stop bound) (ts : List Token)
    (plain : AllPlain ts) : (Node.firstEntry stop (bound + 1) ts).1.Plain ∧
      AllPlain (Node.firstEntry stop (bound + 1) ts).2 := by
  cases ts with
  | nil => exact ⟨.of_none rfl, plain⟩
  | cons token rest =>
    rw [Node.firstEntry]
    split
    · exact ⟨.of_none rfl, plain.tail⟩
    · exact h.entry _ plain

theorem ReadsPlain.entry_succ (h : ReadsPlain stop bound) (ts : List Token)
    (plain : AllPlain ts) : (Node.entry stop (bound + 1) ts).1.Plain ∧
      AllPlain (Node.entry stop (bound + 1) ts).2 := by
  cases ts with
  | nil => exact ⟨.of_none rfl, plain⟩
  | cons token rest =>
    rw [Node.entry]
    split
    · split
      · exact ⟨.of_none rfl, plain.tail⟩
      · split
        · have first := h.node _ plain.tail.tail
          have later := h.afterEntry _ first.2
          exact ⟨Entries.plain_entry first.1 later.1, later.2⟩
        · exact ⟨.of_none rfl, plain.tail.tail⟩
        · exact ⟨.of_none rfl, plain.tail.tail⟩
    · exact ⟨.of_none rfl, plain.tail⟩
    · exact ⟨.of_none rfl, plain⟩

theorem ReadsPlain.afterEntry_succ (h : ReadsPlain stop bound) (ts : List Token)
    (plain : AllPlain ts) : (Node.afterEntry stop (bound + 1) ts).1.Plain ∧
      AllPlain (Node.afterEntry stop (bound + 1) ts).2 := by
  cases ts with
  | nil => exact ⟨.of_none rfl, plain⟩
  | cons token rest =>
    unfold Node.afterEntry
    split
    · exact ⟨.of_none rfl, plain.tail⟩
    · split
      · exact ⟨.of_none rfl, plain.tail⟩
      · split
        · exact ⟨.of_none rfl, plain.tail⟩
        · exact h.entry _ plain.tail
    · exact ⟨.of_none rfl, plain.tail⟩

theorem readsPlain (stop bound : Nat) : ReadsPlain stop bound := by
  induction bound with
  | zero => exact readsPlain_zero stop
  | succ bound h =>
    exact ⟨h.node_succ, h.firstItem_succ, h.item_succ, h.afterItem_succ, h.firstEntry_succ,
      h.entry_succ, h.afterEntry_succ⟩

end Node

/-- Every number that a text stands for is plain, whatever the text is. -/
theorem Document.plain_ofText (text : String) : (Document.ofText text).root.Plain := by
  rw [ofText]
  exact ((Node.readsPlain _ _).node _ (Token.plain_readAll _ _ _)).1

end VisualNovel.Json
