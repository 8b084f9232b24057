import VisualNovel.Proofs.Json.Made

/-!
What holds of a value that is decoded from a text: the numbers of a text are plain, and a decoder
does not look deeper than it may, so that the value is made of values inside so many brackets.
-/

namespace VisualNovel.Json

variable {α : Type}

mutual

theorem Node.depth_le_of_read : ∀ (node : Node) {d : Nat}, node.read d = .ok () →
    node.meaning.depth ≤ d
  | .array _ _, 0, h => nomatch h
  | .array _ items, _ + 1, h => Nat.succ_le_succ (items.depth_le_of_read h)
  | .object _ _, 0, h => nomatch h
  | .object _ entries, _ + 1, h => Nat.succ_le_succ (entries.depth_le_of_read h)
  | .null _ _, _, _ | .bool _ _ _, _, _ | .number (.ok _) _ _, _, _ | .number (.error _) _ _, _, _
  | .string (.ok _) _, _, _ | .string (.error _) _, _, _ | .brokenString _ _, _, _
  | .broken _ _ _, _, _ | .missing _, _, _ => Nat.zero_le _

theorem Items.depth_le_of_read : ∀ (items : Items) {d : Nat}, items.read d = .ok () →
    itemsDepth items.meaning ≤ d
  | .item _ node rest, _, h =>
    have ⟨_, first, later⟩ := bind_eq_ok.1 h
    Nat.max_le.2 ⟨node.depth_le_of_read first, rest.depth_le_of_read later⟩
  | .close _, _, _ | .unseparated _, _, _ | .trailingComma _, _, _ | .unfinished _ _, _, _ =>
    Nat.zero_le _

theorem Entries.depth_le_of_read : ∀ (entries : Entries) {d : Nat}, entries.read d = .ok () →
    fieldsDepth entries.meaning ≤ d
  | .entry (.ok _) _ _ value _ rest, _, h =>
    have ⟨_, _, h⟩ := bind_eq_ok.1 h
    have ⟨_, first, later⟩ := bind_eq_ok.1 h
    Nat.max_le.2 ⟨value.depth_le_of_read first, rest.depth_le_of_read later⟩
  | .entry (.error _) _ _ _ _ _, _, h => nomatch h
  | .close _, _, _ | .brokenKey _ _, _, _ | .noColon _ _ _ _, _, _ | .unfinishedKey _ _ _, _, _
  | .keyless _, _, _ | .unseparated _, _, _ | .trailingComma _, _, _ | .unfinished _ _, _, _ =>
    Nat.zero_le _

end

namespace Tagged

variable {t : Tagged α}

theorem depth_of_inspectTag {node : Node} (h : t.inspectTag node = .ok ()) :
    node.meaning.depth = 0 := by
  obtain ⟨⟨shape, offset⟩, seen, h⟩ := bind_eq_ok.1 h
  cases node with
  | array => cases seen; cases h
  | object => cases seen; cases h
  | number value => cases value <;> rfl
  | string value => cases value <;> rfl
  | null | bool | brokenString | broken | missing => rfl

theorem depth_le_of_inspectEntries : ∀ (entries : Entries) {d : Nat} {seen : Bool},
    t.inspectEntries d seen entries = .ok () → fieldsDepth entries.meaning ≤ d
  | .entry (.ok key) _ colon value _ rest, d, seen, h => by
    obtain ⟨_, known, h⟩ := bind_eq_ok.1 h
    cases known
    split at h
    · split at h
      · cases h
      · obtain ⟨_, first, later⟩ := bind_eq_ok.1 h
        have flat : value.meaning.depth ≤ d := by
          rw [depth_of_inspectTag first]
          exact Nat.zero_le d
        exact Nat.max_le.2 ⟨flat, depth_le_of_inspectEntries rest later⟩
    · obtain ⟨_, first, later⟩ := bind_eq_ok.1 h
      exact Nat.max_le.2 ⟨value.depth_le_of_read first, depth_le_of_inspectEntries rest later⟩
  | .entry (.error _) _ _ _ _ _, _, _, h => nomatch h
  | .close _, _, _, _ | .brokenKey _ _, _, _, _ | .noColon _ _ _ _, _, _, _
  | .unfinishedKey _ _ _, _, _, _ | .keyless _, _, _, _ | .unseparated _, _, _, _
  | .trailingComma _, _, _, _ | .unfinished _ _, _, _, _ => Nat.zero_le _

theorem depth_le_of_inspectItems {items : Items} {d : Nat} (h : t.inspectItems d items = .ok ()) :
    itemsDepth items.meaning ≤ d := by
  cases items with
  | item start node rest =>
    obtain ⟨_, first, later⟩ := bind_eq_ok.1 h
    refine Nat.max_le.2 ⟨?_, rest.depth_le_of_read later⟩
    rw [depth_of_inspectTag first]
    exact Nat.zero_le d
  | close | unseparated | trailingComma | unfinished => exact Nat.zero_le d

/-- Whatever stands beside a tag is read, so that its depth is known. -/
theorem depth_le_of_inspect {node : Node} {d : Nat} (h : t.decoder.inspect d node = .ok ()) :
    node.meaning.depth ≤ d := by
  cases node with
  | array start items =>
    obtain ⟨_, h, -⟩ := bind_eq_ok.1 h
    cases d with
    | zero => cases h
    | succ d => exact Nat.succ_le_succ (depth_le_of_inspectItems h)
  | object start entries =>
    obtain ⟨_, h, -⟩ := bind_eq_ok.1 h
    cases d with
    | zero => cases h
    | succ d => exact Nat.succ_le_succ (depth_le_of_inspectEntries entries h)
  | number value => cases value <;> exact Nat.zero_le d
  | string value => cases value <;> exact Nat.zero_le d
  | null | bool | brokenString | broken | missing => exact Nat.zero_le d

end Tagged

/-- Of a text with plain numbers in which it finds no fault the decoder makes values with the
property, if it may look at `d` brackets. -/
def Decoder.Ensures (dec : Decoder α) (d : Nat) (P : α → Prop) : Prop :=
  ∀ ⦃node a⦄, node.Plain → dec.inspect d node = .ok () → dec.value node.meaning = .ok a → P a

/-- All of what stands beside a tag is read. -/
theorem Tagged.ensures {t : Tagged α} {d : Nat} {P : α → Prop} (h : t.decoder.Makes d P) :
    t.decoder.Ensures d P := fun _ _ plain inspected made =>
  h ⟨depth_le_of_inspect inspected, plain⟩ made

/-- A value that was looked at in a text with plain numbers. -/
def SeenBy (look : Node → Except Error Unit) (j : Json) : Prop :=
  ∃ node : Node, node.meaning = j ∧ node.Plain ∧ look node = .ok ()

theorem Items.seen_of_forEach {look : Node → Except Error Unit} : ∀ (items : Items), items.Plain →
    items.forEach look = .ok () → ∀ j ∈ items.meaning, SeenBy look j
  | .item start node rest, plain, h, j, mem => by
    obtain ⟨_, first, later⟩ := bind_eq_ok.1 h
    have plain : ∀ n ∈ node.meaning.numbers ++ itemNumbers rest.meaning, n.Plain := plain
    obtain rfl | mem := List.mem_cons.1 mem
    · exact ⟨node, rfl, fun n inside => plain n (List.mem_append_left _ inside),
        mapError_eq_ok.1 first⟩
    · exact seen_of_forEach rest (fun n inside => plain n (List.mem_append_right _ inside)) later j
        mem
  | .close _, _, _, _, mem | .unseparated _, _, _, _, mem | .trailingComma _, _, _, _, mem
  | .unfinished _ _, _, _, _, mem => nomatch mem

theorem Entries.seen_of_forEach {look : Node → Except Error Unit} : ∀ (entries : Entries),
    entries.Plain → entries.forEach look = .ok () → ∀ e ∈ entries.meaning, SeenBy look e.2
  | .entry (.ok key) keyStop colon value after rest, plain, h, e, mem => by
    obtain ⟨_, -, h⟩ := bind_eq_ok.1 h
    obtain ⟨_, first, later⟩ := bind_eq_ok.1 h
    have plain : ∀ n ∈ value.meaning.numbers ++ fieldsNumbers rest.meaning, n.Plain := plain
    obtain rfl | mem := List.mem_cons.1 mem
    · exact ⟨value, rfl, fun n inside => plain n (List.mem_append_left _ inside), first⟩
    · exact seen_of_forEach rest (fun n inside => plain n (List.mem_append_right _ inside)) later e
        mem
  | .entry (.error _) _ _ _ _ _, _, h, _, _ => nomatch h
  | .close _, _, _, _, mem | .brokenKey _ _, _, _, _, mem | .noColon _ _ _ _, _, _, _, mem
  | .unfinishedKey _ _ _, _, _, _, mem | .keyless _, _, _, _, mem | .unseparated _, _, _, _, mem
  | .trailingComma _, _, _, _, mem | .unfinished _ _, _, _, _, mem => nomatch mem

namespace Decoder

variable {d : Nat} {P : α → Prop}

theorem Ensures.list {dec : Decoder α} (h : dec.Ensures d P) :
    dec.list.Ensures (d + 1) fun as => ∀ a ∈ as, P a := by
  intro node as plain inspected made a mem
  cases node with
  | array start items =>
    obtain ⟨j, inside, value⟩ := mem_of_mapM made mem
    obtain ⟨node, rfl, plain, seen⟩ := items.seen_of_forEach plain inspected j inside
    exact h plain seen value
  | number value => cases value <;> cases made
  | string value => cases value <;> cases made
  | null | bool | object | brokenString | broken | missing => cases made

theorem Ensures.dict {dec : Decoder α} (h : dec.Ensures d P) :
    dec.dict.Ensures (d + 1) fun m => ∀ e ∈ m.entries, P e.2 := by
  intro node m plain inspected made e mem
  cases node with
  | object start entries =>
    obtain ⟨all, values, same⟩ := map_eq_ok.1 made
    cases same
    obtain ⟨field, inside, entry⟩ := mem_of_mapM values (Dict.mem_ofList mem)
    obtain ⟨a, value, same⟩ := map_eq_ok.1 entry
    cases same
    obtain ⟨node, meaning, plain, seen⟩ := entries.seen_of_forEach plain inspected field inside
    exact h plain seen (meaning ▸ value)
  | number value => cases value <;> cases made
  | string value => cases value <;> cases made
  | null | bool | array | brokenString | broken | missing => cases made

end Decoder

namespace Record

variable {r : Record α} {d : Nat}

/-- The value of a field was looked at as the field wants it. -/
def Saw (r : Record α) (d : Nat) (e : String × Json) : Prop :=
  ∃ f ∈ r.fields.known, f.name = e.1 ∧ SeenBy (f.inspect d) e.2

theorem field?_eq_some {name : String} {f : Field} (h : r.field? name = some f) :
    f ∈ r.fields.known := List.mem_of_find?_eq_some h

theorem saw_of_inspectEntries : ∀ (entries : Entries) {seen : List String}
    {found all : List (String × Json)}, entries.Plain → r.inspectEntries d seen entries = .ok () →
    r.collect found entries.meaning = .ok all → ∀ e ∈ all, e ∈ found ∨ r.Saw d e
  | .entry (.ok key) keyStop colon value after rest, seen, found, all, plain, h, collected, e, mem => by
    have plain : ∀ n ∈ value.meaning.numbers ++ fieldsNumbers rest.meaning, n.Plain := plain
    have later : rest.Plain := fun n inside => plain n (List.mem_append_right _ inside)
    obtain ⟨_, known, h⟩ := bind_eq_ok.1 h
    cases known
    simp only [Entries.meaning, collect] at collected
    cases field : r.field? key with
    | none =>
      simp only [field] at h collected
      cases closed : r.closed with
      | true => simp only [closed, if_true] at collected; cases collected
      | false =>
        simp only [closed, Bool.false_eq_true, if_false] at h collected
        obtain ⟨_, -, h⟩ := bind_eq_ok.1 h
        exact saw_of_inspectEntries rest later h collected e mem
    | some f =>
      simp only [field] at h collected
      split at collected
      · cases collected
      · split at h
        · cases h
        · obtain ⟨_, -, collected⟩ := bind_eq_ok.1 collected
          obtain ⟨_, looked, h⟩ := bind_eq_ok.1 h
          obtain new | saw := saw_of_inspectEntries rest later h collected e mem
          · obtain rfl | old := List.mem_cons.1 new
            · exact .inr ⟨f, field?_eq_some field, rfl, value, rfl,
                fun n inside => plain n (List.mem_append_left _ inside), looked⟩
            · exact .inl old
          · exact .inr saw
  | .entry (.error _) _ _ _ _ _, _, _, _, _, h, _, _, _ => nomatch h
  | .close _, _, _, _, _, _, rfl, _, mem | .brokenKey _ _, _, _, _, _, _, rfl, _, mem
  | .noColon _ _ _ _, _, _, _, _, _, rfl, _, mem | .unfinishedKey _ _ _, _, _, _, _, _, rfl, _, mem
  | .keyless _, _, _, _, _, _, rfl, _, mem | .unseparated _, _, _, _, _, _, rfl, _, mem
  | .trailingComma _, _, _, _, _, _, rfl, _, mem | .unfinished _ _, _, _, _, _, _, rfl, _, mem =>
    .inl mem

theorem saw_of_inspectItems : ∀ (items : Items) {place : Nat} {fields : List Field},
    items.Plain → r.inspectItems d place fields items = .ok () →
    ∀ e ∈ (fields.map Field.name).zip items.meaning,
      ∃ f ∈ fields, f.name = e.1 ∧ SeenBy (f.inspect d) e.2
  | .item start node rest, place, fields, plain, h, e, mem => by
    cases fields with
    | nil => cases mem
    | cons f fields =>
      have plain : ∀ n ∈ node.meaning.numbers ++ itemNumbers rest.meaning, n.Plain := plain
      obtain ⟨_, looked, h⟩ := bind_eq_ok.1 h
      obtain rfl | mem := List.mem_cons.1 mem
      · exact ⟨f, by simp, rfl, node, rfl, fun n inside => plain n (List.mem_append_left _ inside),
          mapError_eq_ok.1 looked⟩
      · obtain ⟨g, inside, saw⟩ := saw_of_inspectItems rest
          (fun n inside => plain n (List.mem_append_right _ inside)) h e mem
        exact ⟨g, by simp [inside], saw⟩
  | .close _, _, fields, _, _, _, mem | .unseparated _, _, fields, _, _, _, mem
  | .trailingComma _, _, fields, _, _, _, mem | .unfinished _ _, _, fields, _, _, _, mem => by
    simp [Items.meaning] at mem

/-- What a record is made of when it is decoded was looked at field by field. -/
theorem saw_of_inspect {node : Node} {a : α} (plain : node.Plain)
    (inspected : r.decoder.inspect (d + 1) node = .ok ())
    (made : r.decoder.value node.meaning = .ok a) :
    ∃ look, r.fields.build look = .ok a ∧ ∀ name j, look name = some j → r.Saw d (name, j) := by
  cases node with
  | object start entries =>
    obtain ⟨all, collected, -, made⟩ := ofEntries_eq_ok.1 made
    refine ⟨_, made, fun name j found => ?_⟩
    exact (saw_of_inspectEntries entries plain inspected collected _
      (mem_of_lookup found)).resolve_left nofun
  | array start items =>
    obtain ⟨_, -, made⟩ := bind_eq_ok.1 made
    exact ⟨_, made, fun name j found =>
      saw_of_inspectItems items plain inspected _ (mem_of_lookup found)⟩
  | number value => cases value <;> cases made
  | string value => cases value <;> cases made
  | null | bool | brokenString | broken | missing => cases made

end Record

end VisualNovel.Json
