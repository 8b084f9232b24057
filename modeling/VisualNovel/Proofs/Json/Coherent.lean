import Mathlib
import VisualNovel.Json.Union
import VisualNovel.Proofs.Json.Printed

/-!
A decoder finds no fault in a text that is well formed, not too deep, and has a value: a text that
shows a value is decoded as the value is.
-/

namespace VisualNovel.Json

variable {α β : Type}

theorem bind_eq_ok {ε : Type} {x : Except ε α} {f : α → Except ε β} {b : β} :
    (x >>= f) = .ok b ↔ ∃ a, x = .ok a ∧ f a = .ok b := by
  cases x with
  | error e => simp [bind, Except.bind]
  | ok a => simp [bind, Except.bind]

theorem map_eq_ok {ε : Type} {x : Except ε α} {f : α → β} {b : β} :
    f <$> x = .ok b ↔ ∃ a, x = .ok a ∧ f a = b := by
  cases x with
  | error e => simp [Functor.map, Except.map]
  | ok a => simp [Functor.map, Except.map]

theorem mapError_eq_ok {ε ε' : Type} {x : Except ε α} {f : ε → ε'} {a : α} :
    x.mapError f = .ok a ↔ x = .ok a := by
  cases x <;> simp [Except.mapError]

instance decidableExistsOk {ε : Type} {x : Except ε α} {P : α → Prop} [DecidablePred P] :
    Decidable (∃ a, x = .ok a ∧ P a) :=
  match x with
  | .ok a => decidable_of_iff (P a) (by simp)
  | .error _ => .isFalse (by simp)

theorem mapM_eq_ok {ε : Type} {f : α → Except ε β} {as : List α} {bs : List β} :
    as.mapM f = .ok bs ↔ as.map f = bs.map .ok := by
  induction as generalizing bs with
  | nil => cases bs <;> simp [pure, Except.pure]
  | cons a as ih =>
    simp only [List.mapM_cons, bind_eq_ok, ih, List.map_cons]
    cases bs <;> simp [pure, Except.pure]

theorem ok_of_mapM {ε : Type} {f : α → Except ε β} {as : List α} {bs : List β}
    (h : as.mapM f = .ok bs) {a : α} (mem : a ∈ as) : ∃ b ∈ bs, f a = .ok b := by
  have inside : f a ∈ bs.map .ok := mapM_eq_ok.1 h ▸ List.mem_map_of_mem mem
  obtain ⟨b, mem, same⟩ := List.mem_map.1 inside
  exact ⟨b, mem, same.symm⟩

theorem mem_of_mapM {ε : Type} {f : α → Except ε β} {as : List α} {bs : List β}
    (h : as.mapM f = .ok bs) {b : β} (mem : b ∈ bs) : ∃ a ∈ as, f a = .ok b := by
  have inside : .ok b ∈ as.map f := mapM_eq_ok.1 h ▸ List.mem_map_of_mem mem
  exact List.mem_map.1 inside

/-- What a whole tree looks like, by the value that it stands for. -/
inductive Node.Form : Node → Json → Prop where
  | null (start stop : Nat) : Form (.null start stop) .null
  | bool (b : Bool) (start stop : Nat) : Form (.bool b start stop) (.bool b)
  | number (n : Number) (start stop : Nat) : Form (.number (.ok n) start stop) (.number n)
  | string (s : String) (stop : Nat) : Form (.string (.ok s) stop) (.string s)
  | array (start : Nat) {items : Items} {js : List Json} (h : items.Shows js) :
      Form (.array start items) (.array js)
  | object (start : Nat) {entries : Entries} {fields : List (String × Json)}
      (h : entries.Shows fields) : Form (.object start entries) (.object fields)

inductive Items.Form : Items → List Json → Prop where
  | nil (stop : Nat) : Form (.close stop) []
  | cons (start : Nat) {node : Node} {rest : Items} {j : Json} {js : List Json} (h : node.Shows j)
      (later : rest.Shows js) : Form (.item start node rest) (j :: js)

inductive Entries.Form : Entries → List (String × Json) → Prop where
  | nil (stop : Nat) : Form (.close stop) []
  | cons (key : String) (keyStop colon after : Nat) {node : Node} {rest : Entries} {j : Json}
      {fields : List (String × Json)} (h : node.Shows j) (later : rest.Shows fields) :
      Form (.entry (.ok key) keyStop colon node after rest) ((key, j) :: fields)

theorem Node.Shows.form {node : Node} {j : Json} (h : node.Shows j) : node.Form j := by
  obtain ⟨whole, rfl⟩ := h
  cases node with
  | null start stop => exact .null start stop
  | bool b start stop => exact .bool b start stop
  | number n start stop =>
    cases n with
    | error e => cases whole
    | ok n => exact .number n start stop
  | string s stop =>
    cases s with
    | error e => cases whole
    | ok s => exact .string s stop
  | array start items => exact .array start ⟨whole, rfl⟩
  | object start entries => exact .object start ⟨whole, rfl⟩
  | brokenString | broken | missing => cases whole

theorem Items.Shows.form {items : Items} {js : List Json} (h : items.Shows js) :
    items.Form js := by
  obtain ⟨whole, rfl⟩ := h
  cases items with
  | close stop => exact .nil stop
  | item start node rest => exact .cons start ⟨whole.1, rfl⟩ ⟨whole.2, rfl⟩
  | unseparated | trailingComma | unfinished => cases whole

theorem Entries.Shows.form {entries : Entries} {fields : List (String × Json)}
    (h : entries.Shows fields) : entries.Form fields := by
  obtain ⟨whole, rfl⟩ := h
  cases entries with
  | close stop => exact .nil stop
  | entry key keyStop colon value after rest =>
    cases key with
    | error e => cases whole
    | ok key => exact .cons key keyStop colon after ⟨whole.1, rfl⟩ ⟨whole.2, rfl⟩
  | brokenKey | noColon | unfinishedKey | keyless | unseparated | trailingComma | unfinished =>
    cases whole

theorem Node.Shows.shape {node : Node} {j : Json} (h : node.Shows j) :
    ∃ offset, node.shape = .ok (j.shape, offset) := by
  cases h.form <;> exact ⟨_, rfl⟩

/-- Elements without faults are walked through by any reader. -/
theorem Items.Shows.walk {items : Items} {js : List Json} {walk : Items → Except Error Unit}
    (look : Node → Except Error Unit) (h : items.Shows js)
    (close : ∀ stop, walk (.close stop) = .ok ())
    (item : ∀ start node rest, look node = .ok () → walk rest = .ok () →
      walk (.item start node rest) = .ok ())
    (fine : ∀ j ∈ js, ∀ node : Node, node.Shows j → look node = .ok ()) :
    walk items = .ok () := by
  induction js generalizing items with
  | nil =>
    cases h.form with
    | nil stop => exact close stop
  | cons j js ih =>
    cases h.form with
    | @cons start node rest _ _ first later =>
      have walked := ih later fun j mem => fine j (by simp [mem])
      exact item start node rest (fine j (by simp) node first) walked

theorem Entries.Shows.walk {entries : Entries} {fields : List (String × Json)}
    {walk : Entries → Except Error Unit} (look : Node → Except Error Unit)
    (h : entries.Shows fields) (close : ∀ stop, walk (.close stop) = .ok ())
    (entry : ∀ key keyStop colon node after rest, look node = .ok () → walk rest = .ok () →
      walk (.entry (.ok key) keyStop colon node after rest) = .ok ())
    (fine : ∀ field ∈ fields, ∀ node : Node, node.Shows field.2 → look node = .ok ()) :
    walk entries = .ok () := by
  induction fields generalizing entries with
  | nil =>
    cases h.form with
    | nil stop => exact close stop
  | cons field fields ih =>
    cases h.form with
    | @cons key keyStop colon after node rest j _ first later =>
      have walked := ih later fun field mem => fine field (by simp [mem])
      exact entry key keyStop colon node after rest (fine (key, j) (by simp) node first) walked

theorem depth_item_le {items : List Json} {d : Nat} (h : (Json.array items).depth ≤ d + 1)
    {item : Json} (mem : item ∈ items) : item.depth ≤ d :=
  itemsDepth_le.1 (Nat.le_of_succ_le_succ h) item mem

theorem depth_field_le {fields : List (String × Json)} {d : Nat}
    (h : (Json.object fields).depth ≤ d + 1) {field : String × Json} (mem : field ∈ fields) :
    field.2.depth ≤ d :=
  fieldsDepth_le.1 (Nat.le_of_succ_le_succ h) field mem

/-- Brackets leave room for what is in them. -/
theorem exists_depth_array {items : List Json} {d : Nat} (h : (Json.array items).depth ≤ d) :
    ∃ inner, d = inner + 1 := by
  cases d with
  | zero => cases h
  | succ d => exact ⟨d, rfl⟩

theorem exists_depth_object {fields : List (String × Json)} {d : Nat}
    (h : (Json.object fields).depth ≤ d) : ∃ inner, d = inner + 1 := by
  cases d with
  | zero => cases h
  | succ d => exact ⟨d, rfl⟩

theorem Node.Shows.read {node : Node} {j : Json} {depth : Nat} (h : node.Shows j)
    (shallow : j.depth ≤ depth) : node.read depth = .ok () := by
  induction j using induct generalizing node depth with
  | null | bool | number | string =>
    cases h.form
    rfl
  | array js ih =>
    cases h.form with
    | @array start items _ inside =>
      obtain ⟨depth, rfl⟩ := exists_depth_array shallow
      refine inside.walk (Node.read depth) (fun _ => rfl) (fun start node rest first later => ?_)
        fun j mem node h => ih j mem h (depth_item_le shallow mem)
      rw [Items.read, first]
      exact later
  | object fields ih =>
    cases h.form with
    | @object start entries _ inside =>
      obtain ⟨depth, rfl⟩ := exists_depth_object shallow
      refine inside.walk (Node.read depth) (fun _ => rfl)
        (fun key keyStop colon node after rest first later => ?_)
        fun field mem node h => ih field mem h (depth_field_le shallow mem)
      simp only [Entries.read, first, bind, Except.bind]
      exact later

theorem Node.Shows.skip {node : Node} {j : Json} (h : node.Shows j) : node.skip = .ok () := by
  induction j using induct generalizing node with
  | null | bool | number | string =>
    cases h.form
    rfl
  | array js ih =>
    cases h.form with
    | @array start items _ inside =>
      refine inside.walk Node.skip (fun _ => rfl) (fun start node rest first later => ?_)
        fun j mem node h => ih j mem h
      rw [Items.skip, first]
      exact later
  | object fields ih =>
    cases h.form with
    | @object start entries _ inside =>
      refine inside.walk Node.skip (fun _ => rfl)
        (fun key keyStop colon node after rest first later => ?_)
        fun field mem node h => ih field mem h
      rw [Entries.skip, first]
      exact later

theorem Items.Shows.read {items : Items} {js : List Json} {depth : Nat} (h : items.Shows js)
    (shallow : ∀ j ∈ js, j.depth ≤ depth) : items.read depth = .ok () := by
  have shows : (Node.array 0 items).Shows (.array js) := ⟨h.1, congrArg Json.array h.2⟩
  exact shows.read (Nat.succ_le_succ (itemsDepth_le.2 shallow))

/-- A text that shows a value has no fault for the decoder when the value has a meaning. -/
def Decoder.Coherent (d : Decoder α) : Prop :=
  ∀ ⦃depth : Nat⦄ ⦃node : Node⦄ ⦃j : Json⦄ ⦃a : α⦄, node.Shows j → j.depth ≤ depth →
    d.value j = .ok a → d.inspect depth node = .ok ()

namespace Decoder

theorem coherent_scalar (ofShape : Shape → Except Cause α) : (scalar ofShape).Coherent := by
  intro depth node j a h shallow value
  obtain ⟨offset, shape⟩ := h.shape
  have value : ofShape j.shape = .ok a := value
  simp only [scalar, shape, bind, Except.bind, value]

theorem coherent_natural (bound : Nat) (expected : String) : (natural bound expected).Coherent :=
  coherent_scalar _

theorem Coherent.map {d : Decoder α} (h : d.Coherent) (f : α → β) : (d.map f).Coherent := by
  intro depth node j b shows shallow value
  obtain ⟨a, value, -⟩ := map_eq_ok.1 value
  exact h shows shallow value

theorem Coherent.option {d : Decoder α} (h : d.Coherent) : d.option.Coherent := by
  intro depth node j a shows shallow value
  cases shows.form with
  | null start stop => rfl
  | bool | number | string | array | object =>
    obtain ⟨b, value, -⟩ := map_eq_ok.1 value
    exact h shows shallow value

theorem Coherent.list {d : Decoder α} (h : d.Coherent) : d.list.Coherent := by
  intro depth node j as shows shallow value
  cases shows.form with
  | null | bool | number | string | object => cases value
  | @array start items js inside =>
    obtain ⟨depth, rfl⟩ := exists_depth_array shallow
    refine inside.walk (d.inspect depth) (fun _ => rfl)
      (fun start node rest first later => ?_) fun j mem node shows => ?_
    · rw [Items.forEach, first]
      exact later
    · obtain ⟨a, -, value⟩ := ok_of_mapM value mem
      exact h shows (depth_item_le shallow mem) value

theorem Coherent.dict {d : Decoder α} (h : d.Coherent) : d.dict.Coherent := by
  intro depth node j m shows shallow value
  cases shows.form with
  | null | bool | number | string | array => cases value
  | @object start entries fields inside =>
    obtain ⟨depth, rfl⟩ := exists_depth_object shallow
    obtain ⟨all, values, -⟩ := map_eq_ok.1 value
    refine inside.walk (d.inspect depth) (fun _ => rfl)
      (fun key keyStop colon node after rest first later => ?_) fun field mem node shows => ?_
    · simp only [Entries.forEach, first, bind, Except.bind]
      exact later
    · obtain ⟨pair, -, value⟩ := ok_of_mapM values mem
      obtain ⟨a, value, -⟩ := map_eq_ok.1 value
      exact h shows (depth_field_le shallow mem) value

theorem Coherent.decode {d : Decoder α} (h : d.Coherent) {text : String} {j : Json} {a : α}
    (shows : (Document.ofText text).root.Shows j) (alone : (Document.ofText text).extra = none)
    (shallow : j.depth ≤ greatestDepth) (value : d.value j = .ok a) : d.decode text = .ok a := by
  have fine := h shows shallow value
  rw [Decoder.decode, shows.2]
  simp only [fine, alone, value]
  rfl

end Decoder

/-- A field whose check accepts a value finds no fault in it. -/
def Field.Coherent (f : Field) : Prop :=
  ∀ ⦃depth : Nat⦄ ⦃node : Node⦄ ⦃j : Json⦄, node.Shows j → j.depth ≤ depth →
    f.check j = .ok () → f.inspect depth node = .ok ()

def Fields.Coherent (x : Fields α) : Prop := ∀ f ∈ x.known, f.Coherent

/-- A tree without faults, inside so many brackets. -/
def Node.Fine (depth : Nat) (node : Node) : Prop := node.Whole ∧ node.meaning.depth ≤ depth

/-- A field finds no fault in a value of its form that its check accepts. -/
def Fields.Accepts (x : Fields α) (form : String → Nat → Node → Prop) : Prop :=
  ∀ f ∈ x.known, ∀ ⦃depth node⦄, form f.name depth node → f.check node.meaning = .ok () →
    f.inspect depth node = .ok ()

namespace Fields

theorem Coherent.accepts {x : Fields α} (h : x.Coherent) : x.Accepts fun _ => Node.Fine :=
  fun f known _ _ fine checked => h f known ⟨fine.1, rfl⟩ fine.2 checked

section Accepts

variable {form : String → Nat → Node → Prop}

theorem Accepts.coherent {x : Fields α} (h : x.Accepts form)
    (fine : ∀ name depth node, node.Fine depth → form name depth node) : x.Coherent := by
  rintro f known depth node _ ⟨whole, rfl⟩ shallow checked
  exact h f known (fine f.name depth node ⟨whole, shallow⟩) checked

theorem Accepts.seq {f : Fields (α → β)} {x : Fields α} (h : f.Accepts form)
    (h' : x.Accepts form) : Accepts (f <*> x) form := by
  intro field mem
  obtain first | second := List.mem_append.1 mem
  · exact h field first
  · exact h' field second

theorem Accepts.map {x : Fields α} (h : x.Accepts form) (f : α → β) : Accepts (f <$> x) form := h

theorem accepts_one {d : Decoder α} {name : String} {aliases : List String} {presence : Presence}
    {absent : Except Cause α}
    (h : ∀ depth node a, form name depth node → d.value node.meaning = .ok a →
      d.inspect depth node = .ok ()) : (one name aliases presence d absent).Accepts form := by
  intro f mem depth node formed checked
  cases List.mem_singleton.1 mem
  obtain ⟨a, value, -⟩ := bind_eq_ok.1 checked
  exact h depth node a formed value

/-- A field whose value has to be without faults. -/
theorem accepts_fine {d : Decoder α} (h : d.Coherent) {name : String} {aliases : List String}
    {presence : Presence} {absent : Except Cause α} (fine : form name = Node.Fine) :
    (one name aliases presence d absent).Accepts form :=
  accepts_one fun _ _ _ formed value => by
    rw [fine] at formed
    exact h ⟨formed.1, rfl⟩ formed.2 value

end Accepts

theorem Coherent.seq {f : Fields (α → β)} {x : Fields α} (h : f.Coherent) (h' : x.Coherent) :
    Coherent (f <*> x) := by
  intro field mem
  obtain first | second := List.mem_append.1 mem
  · exact h field first
  · exact h' field second

theorem Coherent.map {x : Fields α} (h : x.Coherent) (f : α → β) : Coherent (f <$> x) := h

theorem coherent_one {d : Decoder α} (h : d.Coherent) (name : String) (aliases : List String)
    (presence : Presence) (absent : Except Cause α) :
    (one name aliases presence d absent).Coherent := by
  intro f mem
  cases List.mem_singleton.1 mem
  intro depth node j shows shallow checked
  obtain ⟨a, value, -⟩ := bind_eq_ok.1 checked
  exact h shows shallow value

end Fields

namespace Record

variable {r : Record α}

/-- The entries have proper names. Of a known field the value has its form; of any other the value
only has to be one that can be skipped. -/
def FormedEntries (r : Record α) (form : String → Nat → Node → Prop) (depth : Nat) :
    Entries → Prop
  | .close _ => True
  | .entry (.ok key) _ _ value _ rest =>
    (match r.field? key with
      | none => value.skip = .ok ()
      | some f => form f.name depth value) ∧ r.FormedEntries form depth rest
  | _ => False

/-- A record of fields of those forms, or anything without faults. -/
def Formed (r : Record α) (form : String → Nat → Node → Prop) (depth : Nat) : Node → Prop
  | .object _ entries => ∃ inner, depth = inner + 1 ∧ r.FormedEntries form inner entries
  | node => node.Fine depth

section Formed

variable {form : String → Nat → Node → Prop} {depth : Nat}

theorem formedEntries_of_fine (fine : ∀ name node, node.Fine depth → form name depth node) :
    ∀ entries : Entries, entries.Whole → fieldsDepth entries.meaning ≤ depth →
      r.FormedEntries form depth entries
  | .close _, _, _ => trivial
  | .entry (.ok key) keyStop colon value after rest, whole, shallow => by
    obtain ⟨first, later⟩ := Nat.max_le.1 shallow
    refine ⟨?_, formedEntries_of_fine fine rest whole.2 later⟩
    cases r.field? key with
    | none => exact Node.Shows.skip ⟨whole.1, rfl⟩
    | some f => exact fine f.name value ⟨whole.1, first⟩
  | .entry (.error _) _ _ _ _ _, whole, _ | .brokenKey _ _, whole, _ | .noColon _ _ _ _, whole, _
  | .unfinishedKey _ _ _, whole, _ | .keyless _, whole, _ | .unseparated _, whole, _
  | .trailingComma _, whole, _ | .unfinished _ _, whole, _ => nomatch whole

theorem formed_of_fine (fine : ∀ name depth node, node.Fine depth → form name depth node)
    {node : Node} (h : node.Fine depth) : r.Formed form depth node := by
  cases node with
  | object start entries =>
    obtain ⟨inner, rfl⟩ := exists_depth_object h.2
    exact ⟨inner, rfl,
      formedEntries_of_fine (fine · inner) entries h.1 (Nat.le_of_succ_le_succ h.2)⟩
  | null | bool | number | string | array | brokenString | broken | missing => exact h

theorem inspectEntries_of_collect (accepts : r.fields.Accepts form) : ∀ (entries : Entries)
    {seen : List String} {found all : List (String × Json)}, r.FormedEntries form depth entries →
    (∀ name, seen.contains name = (found.lookup name).isSome) →
    r.collect found entries.meaning = .ok all →
    r.missing? (fun name => (all.lookup name).isSome) = none →
    r.inspectEntries depth seen entries = .ok ()
  | .close stop, seen, found, _, _, same, rfl, complete => by
    have names : seen.contains = fun name => (found.lookup name).isSome := funext same
    rw [inspectEntries, names, complete]
  | .entry (.ok key) keyStop colon value after rest, seen, found, all, formed, same, collected,
      complete => by
    obtain ⟨first, later⟩ := formed
    rw [Entries.meaning, collect] at collected
    cases known : r.field? key with
    | none =>
      simp only [known] at collected first
      split at collected
      · cases collected
      · next opened =>
        simp only [inspectEntries, bind, Except.bind, known, opened, first]
        exact inspectEntries_of_collect accepts rest later same collected complete
    | some f =>
      simp only [known] at collected first
      split at collected
      · cases collected
      · next fresh =>
        obtain ⟨_, checked, collected⟩ := bind_eq_ok.1 collected
        have fine := accepts f (List.mem_of_find?_eq_some known) first checked
        have unseen : seen.contains f.name = false := by
          rw [same]
          exact Bool.eq_false_iff.2 fresh
        simp only [inspectEntries, bind, Except.bind, known, unseen, fine]
        refine inspectEntries_of_collect accepts rest later (fun name => ?_) collected complete
        rw [List.contains_cons, same, List.lookup_cons]
        cases name == f.name <;> simp
  | .entry (.error _) _ _ _ _ _, _, _, _, formed, _, _, _ | .brokenKey _ _, _, _, _, formed, _, _, _
  | .noColon _ _ _ _, _, _, _, formed, _, _, _ | .unfinishedKey _ _ _, _, _, _, formed, _, _, _
  | .keyless _, _, _, _, formed, _, _, _ | .unseparated _, _, _, _, formed, _, _, _
  | .trailingComma _, _, _, _, formed, _, _, _ | .unfinished _ _, _, _, _, formed, _, _, _ =>
    nomatch formed

theorem missing?_eq_none {present : String → Bool} :
    r.missing? present = none ↔
      ∀ f ∈ r.fields.known, f.presence = .required → present f.name = true := by
  have required (f : Field) : (f.presence == .required) = true ↔ f.presence = .required := by
    cases f.presence <;> decide
  simp [missing?, required]

/-- What a record is made of: its entries, collected, with nothing missing. -/
theorem ofEntries_eq_ok {entries : List (String × Json)} {a : α} :
    r.ofEntries entries = .ok a ↔ ∃ all, r.collect [] entries = .ok all ∧
      r.missing? (fun name => (all.lookup name).isSome) = none ∧
        r.fields.build (all.lookup ·) = .ok a := by
  rw [ofEntries, bind_eq_ok]
  refine exists_congr fun all => and_congr_right fun _ => ?_
  cases r.missing? fun name => (all.lookup name).isSome with
  | none => simp
  | some cause => simp [bind, Except.bind]

/-- A text of the form of the record has no fault for it if its value has a meaning. -/
theorem inspect_of_formed (accepts : r.fields.Accepts form) {start : Nat} {entries : Entries}
    {a : α} (formed : r.Formed form depth (.object start entries))
    (value : r.ofEntries entries.meaning = .ok a) :
    r.decoder.inspect depth (.object start entries) = .ok () := by
  obtain ⟨inner, rfl, formed⟩ := formed
  obtain ⟨all, collected, complete, -⟩ := ofEntries_eq_ok.1 value
  exact inspectEntries_of_collect accepts entries formed (by simp) collected complete

end Formed

theorem inspectItems_of_check {depth total place : Nat} {fs : List Field} {items : Items}
    {js : List Json} (coherent : ∀ f ∈ fs, f.Coherent) (shows : items.Shows js)
    (shallow : ∀ j ∈ js, j.depth ≤ depth) (checked : r.checkItems total place fs js = .ok ()) :
    r.inspectItems depth place fs items = .ok () := by
  induction fs generalizing items js place with
  | nil =>
    cases shows.form with
    | nil stop => rfl
    | cons => cases checked
  | cons f fs ih =>
    cases shows.form with
    | nil stop =>
      simp only [checkItems] at checked
      simp only [inspectItems]
      cases complete : missingPlace? place (f :: fs) with
      | none => rfl
      | some n =>
        rw [complete] at checked
        cases checked
    | @cons start node rest j js first later =>
      obtain ⟨_, accepted, checked⟩ := bind_eq_ok.1 checked
      have fine := coherent f (by simp) first (shallow j (by simp)) accepted
      rw [inspectItems, fine]
      exact ih (fun f mem => coherent f (by simp [mem])) later
        (fun j mem => shallow j (by simp [mem])) checked

theorem coherent (h : r.fields.Coherent) : r.decoder.Coherent := by
  intro depth node j a shows shallow value
  cases shows.form with
  | null | bool | number | string => cases value
  | @array start items js inside =>
    obtain ⟨depth, rfl⟩ := exists_depth_array shallow
    obtain ⟨_, checked, -⟩ := bind_eq_ok.1 value
    exact inspectItems_of_check h inside (fun j mem => depth_item_le shallow mem) checked
  | @object start entries fields inside =>
    obtain ⟨whole, rfl⟩ := inside
    have fine : Node.Fine depth (.object start entries) := ⟨whole, shallow⟩
    exact inspect_of_formed h.accepts (formed_of_fine (fun _ _ _ fine => fine) fine) value

/-- A decoder finds no fault in what has its form and a meaning. -/
theorem inspect_of_form {form : String → Nat → Node → Prop} (accepts : r.fields.Accepts form)
    (fine : ∀ name depth node, node.Fine depth → form name depth node) {depth : Nat} {node : Node}
    {a : α} (formed : r.Formed form depth node) (value : r.decoder.value node.meaning = .ok a) :
    r.decoder.inspect depth node = .ok () := by
  cases node with
  | object start entries => exact inspect_of_formed accepts formed value
  | null | bool | number | string | array | brokenString | broken | missing =>
    exact coherent (accepts.coherent fine) ⟨formed.1, rfl⟩ formed.2 value

end Record

namespace Tagged

variable {t : Tagged α} {payload : Payload α}

theorem inspectTag_of_payload {node : Node} {j : Json} (shows : node.Shows j)
    (known : t.payloadOf j = .ok payload) : t.inspectTag node = .ok () := by
  obtain ⟨offset, shape⟩ := shows.shape
  cases j with
  | string name =>
    have known : t.payload name = .ok payload := known
    have shape : node.shape = .ok (.string name, offset) := shape
    simp only [inspectTag, shape, known, bind, Except.bind]
  | null | bool | number | array | object => cases known

theorem inspectEntries_of_tag {depth : Nat} {seen : Bool} {entries : Entries}
    {fields : List (String × Json)} (shows : entries.Shows fields)
    (shallow : ∀ field ∈ fields, field.2.depth ≤ depth)
    (once : (seen = true ∧ fields.filter (·.1 == t.tag) = []) ∨
      (seen = false ∧ ∃ tagged payload, fields.filter (·.1 == t.tag) = [tagged] ∧
        t.payloadOf tagged.2 = .ok payload)) :
    t.inspectEntries depth seen entries = .ok () := by
  induction fields generalizing entries seen with
  | nil =>
    cases shows.form with
    | nil stop =>
      obtain ⟨rfl, -⟩ | ⟨-, tagged, payload, impossible, -⟩ := once
      · rfl
      · cases impossible
  | cons field fields ih =>
    cases shows.form with
    | @cons key keyStop colon after node rest j _ first later =>
      have shallow' : ∀ field ∈ fields, field.2.depth ≤ depth := fun field mem =>
        shallow field (by simp [mem])
      by_cases isTag : key = t.tag
      · obtain ⟨-, none⟩ | ⟨rfl, tagged, payload, single, known⟩ := once
        · simp [isTag] at none
        · simp only [isTag, List.filter_cons, beq_self_eq_true, if_true, List.cons.injEq] at single
          obtain ⟨rfl, none⟩ := single
          have fine := inspectTag_of_payload first known
          simp only [inspectEntries, bind, Except.bind, isTag, if_true, fine]
          exact ih later shallow' (.inl ⟨rfl, none⟩)
      · have fine := first.read (shallow (key, j) (by simp))
        simp only [inspectEntries, bind, Except.bind, isTag, if_false, fine]
        refine ih later shallow' ?_
        simpa [isTag] using once

theorem coherent (t : Tagged α) : t.decoder.Coherent := by
  intro depth node j a shows shallow value
  have meaning : t.value node.meaning = .ok a := by rw [shows.2]; exact value
  have value : t.value j = .ok a := value
  cases shows.form with
  | null | bool | number | string => cases value
  | @array start items js inside =>
    obtain ⟨depth, rfl⟩ := exists_depth_array shallow
    cases inside.form with
    | nil => cases value
    | @cons first node rest j js tag later =>
      obtain ⟨payload, known, -⟩ := bind_eq_ok.1 value
      have fine := inspectTag_of_payload tag known
      have fine' := later.read fun j mem => depth_item_le shallow (List.mem_cons_of_mem _ mem)
      simp only [decoder, within, inspectItems, bind, Except.bind, fine, fine', meaning]
  | @object start entries fields inside =>
    obtain ⟨depth, rfl⟩ := exists_depth_object shallow
    have fine : t.inspectEntries depth false entries = .ok () := by
      refine inspectEntries_of_tag inside (fun field mem => depth_field_le shallow mem)
        (.inr ⟨rfl, ?_⟩)
      simp only [Tagged.value, ofEntries] at value
      split at value
      · cases value
      · next key name single =>
        obtain ⟨payload, known, -⟩ := bind_eq_ok.1 value
        exact ⟨(key, name), payload, single, known⟩
      · cases value
    simp only [decoder, within, bind, Except.bind, fine, meaning]

end Tagged

end VisualNovel.Json
