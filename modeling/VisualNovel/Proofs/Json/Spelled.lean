import VisualNovel.Proofs.Json.Ensured
import VisualNovel.Proofs.Json.ReadBack

/-!
Texts and the values that they spell. A decoder that looks at all of a text accepts the texts that
spell a value with a meaning, and no others.
-/

namespace VisualNovel.Json

variable {α : Type} {text : String} {j : Json}

/-- The text stands for the value, has no fault and nothing behind it, and is not too deep. -/
structure Spells (text : String) (j : Json) : Prop where
  shows : (Document.ofText text).root.Shows j
  alone : (Document.ofText text).extra = none
  shallow : j.depth ≤ greatestDepth

theorem Spells.unique (h : Spells text j) {other : Json} (h' : Spells text other) : j = other :=
  h.shows.2.symm.trans h'.shows.2

/-- A value is spelled by its own text if its numbers are read back from theirs. -/
theorem spells_pretty (fits : ∀ n ∈ j.numbers, n.Fits) (back : ∀ n ∈ j.numbers, n.ReadBack)
    (same : j.reread = j) (shallow : j.depth ≤ greatestDepth) : Spells j.pretty j := by
  obtain ⟨shows, alone⟩ := ofText_pretty j fun n mem => Number.legible (fits n mem) (back n mem)
  rw [same] at shows
  exact ⟨shows, alone, shallow⟩

/-- The text is an object of the form, with nothing behind it, and its fields stand for these. Of
what can only be skipped they need not tell anything. -/
structure Tells (form : Node → Prop) (text : String) (fields : List (String × Json)) : Prop where
  formed : form (Document.ofText text).root
  meaning : (Document.ofText text).root.meaning = .object fields
  alone : (Document.ofText text).extra = none

theorem Spells.tells {form : Node → Prop} {fields : List (String × Json)}
    (h : Spells text (.object fields)) (fine : ∀ node, node.Fine greatestDepth → form node) :
    Tells form text fields :=
  ⟨fine _ ⟨h.shows.1, h.shows.2.symm ▸ h.shallow⟩, h.shows.2, h.alone⟩

/-- A text of a form in which a decoder finds no fault is decoded as its value is. -/
theorem Tells.decode {form : Node → Prop} {fields : List (String × Json)} {d : Decoder α} {a : α}
    (h : Tells form text fields)
    (accepts : ∀ node b, form node → d.value node.meaning = .ok b →
      d.inspect greatestDepth node = .ok ())
    (value : d.value (.object fields) = .ok a) : d.decode text = .ok a := by
  have value : d.value (Document.ofText text).root.meaning = .ok a := h.meaning ▸ value
  exact Decoder.decode_eq_ok.2 ⟨accepts _ a h.formed value, h.alone, value⟩

mutual

theorem Node.whole_of_read : ∀ (node : Node) {d : Nat}, node.read d = .ok () → node.Whole
  | .array _ _, 0, h => nomatch h
  | .array _ items, _ + 1, h => items.whole_of_read h
  | .object _ _, 0, h => nomatch h
  | .object _ entries, _ + 1, h => entries.whole_of_read h
  | .null _ _, _, _ | .bool _ _ _, _, _ | .number (.ok _) _ _, _, _ | .string (.ok _) _, _, _ =>
    trivial
  | .number (.error _) _ _, _, h | .string (.error _) _, _, h | .brokenString _ _, _, h
  | .broken _ _ _, _, h | .missing _, _, h => nomatch h

theorem Items.whole_of_read : ∀ (items : Items) {d : Nat}, items.read d = .ok () → items.Whole
  | .item _ node rest, _, h =>
    have ⟨_, first, later⟩ := bind_eq_ok.1 h
    ⟨node.whole_of_read first, rest.whole_of_read later⟩
  | .close _, _, _ => trivial
  | .unseparated _, _, h | .trailingComma _, _, h | .unfinished _ false, _, h
  | .unfinished _ true, _, h => nomatch h

theorem Entries.whole_of_read : ∀ (entries : Entries) {d : Nat}, entries.read d = .ok () →
    entries.Whole
  | .entry (.ok _) _ _ value _ rest, _, h =>
    have ⟨_, _, h⟩ := bind_eq_ok.1 h
    have ⟨_, first, later⟩ := bind_eq_ok.1 h
    ⟨value.whole_of_read first, rest.whole_of_read later⟩
  | .close _, _, _ => trivial
  | .entry (.error _) _ _ _ _ _, _, h | .brokenKey _ _, _, h | .noColon (.ok _) _ _ _, _, h
  | .noColon (.error _) _ _ _, _, h | .unfinishedKey (.ok _) _ _, _, h
  | .unfinishedKey (.error _) _ _, _, h | .keyless _, _, h | .unseparated _, _, h
  | .trailingComma _, _, h | .unfinished _ false, _, h | .unfinished _ true, _, h => nomatch h

end

theorem Node.mismatch_ne_ok (node : Node) (expected : String) :
    node.mismatch expected ≠ .ok () := by
  intro h
  obtain ⟨_, -, h⟩ := bind_eq_ok.1 h
  cases h

/-- A decoder that finds no fault has looked at all of a text. -/
def Decoder.Thorough (dec : Decoder α) : Prop :=
  ∀ ⦃d node⦄, dec.inspect d node = .ok () → node.Whole ∧ node.meaning.depth ≤ d

namespace Tagged

variable {t : Tagged α}

theorem whole_of_inspectTag {node : Node} (h : t.inspectTag node = .ok ()) : node.Whole := by
  obtain ⟨⟨shape, offset⟩, seen, h⟩ := bind_eq_ok.1 h
  cases node with
  | string value =>
    cases value with
    | ok name => trivial
    | error e => cases seen
  | null | bool | array | object =>
    cases seen
    cases h
  | number value =>
    cases value with
    | ok n => trivial
    | error e => cases seen
  | brokenString | broken | missing => cases seen

theorem whole_of_inspectEntries : ∀ (entries : Entries) {d : Nat} {seen : Bool},
    t.inspectEntries d seen entries = .ok () → entries.Whole
  | .entry (.ok key) _ colon value _ rest, d, seen, h => by
    obtain ⟨_, known, h⟩ := bind_eq_ok.1 h
    cases known
    split at h
    · split at h
      · cases h
      · obtain ⟨_, first, later⟩ := bind_eq_ok.1 h
        exact ⟨whole_of_inspectTag first, whole_of_inspectEntries rest later⟩
    · obtain ⟨_, first, later⟩ := bind_eq_ok.1 h
      exact ⟨value.whole_of_read first, whole_of_inspectEntries rest later⟩
  | .close _, _, _, _ => trivial
  | .noColon (.ok key) keyStop next closes, _, _, h
  | .unfinishedKey (.ok key) keyStop stop, _, _, h => by
    rw [inspectEntries] at h
    split at h <;> cases h
  | .entry (.error _) _ _ _ _ _, _, _, h | .brokenKey _ _, _, _, h
  | .noColon (.error _) _ _ _, _, _, h | .unfinishedKey (.error _) _ _, _, _, h
  | .keyless _, _, _, h | .unseparated _, _, _, h | .trailingComma _, _, _, h
  | .unfinished _ false, _, _, h | .unfinished _ true, _, _, h => nomatch h

theorem whole_of_inspectItems : ∀ (items : Items) {d : Nat}, t.inspectItems d items = .ok () →
    items.Whole
  | .item _ _ rest, _, h =>
    have ⟨_, first, later⟩ := bind_eq_ok.1 h
    ⟨whole_of_inspectTag first, rest.whole_of_read later⟩
  | .close _, _, h | .unseparated _, _, h | .trailingComma _, _, h | .unfinished _ false, _, h
  | .unfinished _ true, _, h => nomatch h

theorem thorough (t : Tagged α) : t.decoder.Thorough := by
  intro d node h
  refine ⟨?_, depth_le_of_inspect h⟩
  cases node with
  | array start items =>
    obtain ⟨_, looked, -⟩ := bind_eq_ok.1 h
    cases d with
    | zero => cases looked
    | succ d => exact whole_of_inspectItems items looked
  | object start entries =>
    obtain ⟨_, looked, -⟩ := bind_eq_ok.1 h
    cases d with
    | zero => cases looked
    | succ d => exact whole_of_inspectEntries entries looked
  | null | bool | number | string | brokenString | broken | missing =>
    obtain ⟨_, looked, -⟩ := bind_eq_ok.1 h
    exact (Node.mismatch_ne_ok _ _ looked).elim

end Tagged

namespace Decoder

variable {d : Decoder α}

theorem Items.whole_of_forEach (thorough : d.Thorough) : ∀ (items : Items) {depth : Nat},
    items.forEach (d.inspect depth) = .ok () → items.Whole ∧ itemsDepth items.meaning ≤ depth
  | .item _ _ rest, _, h =>
    have ⟨_, first, later⟩ := bind_eq_ok.1 h
    have ⟨whole, shallow⟩ := thorough (mapError_eq_ok.1 first)
    have ⟨later, shallow'⟩ := whole_of_forEach thorough rest later
    ⟨⟨whole, later⟩, Nat.max_le.2 ⟨shallow, shallow'⟩⟩
  | .close _, _, _ => ⟨trivial, Nat.zero_le _⟩
  | .unseparated _, _, h | .trailingComma _, _, h | .unfinished _ false, _, h
  | .unfinished _ true, _, h => nomatch h

theorem Thorough.list (thorough : d.Thorough) : d.list.Thorough := by
  intro depth node h
  cases node with
  | array start items =>
    cases depth with
    | zero => cases h
    | succ depth =>
      obtain ⟨whole, shallow⟩ := Items.whole_of_forEach thorough items h
      exact ⟨whole, Nat.succ_le_succ shallow⟩
  | null | bool | number | string | object | brokenString | broken | missing =>
    exact (Node.mismatch_ne_ok _ _ h).elim

variable {a : α}

theorem Coherent.decode_of_spells (coherent : d.Coherent) (spells : Spells text j)
    (value : d.value j = .ok a) : d.decode text = .ok a :=
  coherent.decode spells.shows spells.alone spells.shallow value

/-- The texts that are accepted are those that spell a value with a meaning. -/
theorem Thorough.decode_eq_ok_iff (thorough : d.Thorough) (coherent : d.Coherent) :
    d.decode text = .ok a ↔ ∃ j, Spells text j ∧ d.value j = .ok a := by
  constructor
  · intro decoded
    obtain ⟨fine, alone, value⟩ := Decoder.decode_eq_ok.1 decoded
    obtain ⟨whole, shallow⟩ := thorough fine
    exact ⟨_, ⟨⟨whole, rfl⟩, alone, shallow⟩, value⟩
  · rintro ⟨j, spells, value⟩
    exact coherent.decode_of_spells spells value

end Decoder

end VisualNovel.Json
