import VisualNovel.Json.Encode
import VisualNovel.Proofs.Dict
import VisualNovel.Proofs.Json.Assembly
import VisualNovel.Proofs.Json.ReadBack

namespace VisualNovel.Json

variable {α β γ : Type}

/-- The number fits its type, and its text is read back as the number. -/
structure Number.Recoverable (n : Number) : Prop where
  fits : n.Fits
  back : n.ReadBack

section Numbers

variable [Encode α] {n : Number}

@[simp] theorem mem_numbers_string {s : String} : n ∈ (encode s).numbers ↔ False := by
  simp [encode, numbers]

@[simp] theorem mem_numbers_bool {b : Bool} : n ∈ (encode b).numbers ↔ False := by
  simp [encode, numbers]

@[simp] theorem mem_numbers_nat {k : Nat} : n ∈ (encode k).numbers ↔ n = .integer k := by
  simp [encode, numbers]

@[simp] theorem mem_numbers_double {x : Float} : n ∈ (encode x).numbers ↔ n = .double x := by
  simp [encode, numbers]

@[simp] theorem mem_numbers_single {x : Float32} : n ∈ (encode x).numbers ↔ n = .single x := by
  simp [encode, numbers]

@[simp] theorem mem_numbers_list {as : List α} :
    n ∈ (encode as).numbers ↔ ∃ a ∈ as, n ∈ (encode a).numbers := by
  simp only [encode, numbers, mem_itemNumbers, List.mem_map]
  grind

@[simp] theorem mem_numbers_dict {m : Dict α} :
    n ∈ (encode m).numbers ↔ ∃ e ∈ m.entries, n ∈ (encode e.2).numbers := by
  simp only [encode, numbers, mem_fieldsNumbers, List.mem_map]
  grind

@[simp] theorem mem_numbers_nil : n ∈ fieldsNumbers [] ↔ False := by
  simp [fieldsNumbers]

@[simp] theorem mem_numbers_field {name : String} {a : α} :
    n ∈ fieldsNumbers (field name a) ↔ n ∈ (encode a).numbers := by
  simp [field, mem_fieldsNumbers]

@[simp] theorem mem_numbers_present {name : String} {o : Option α} :
    n ∈ fieldsNumbers (present name o) ↔ ∃ a, o = some a ∧ n ∈ (encode a).numbers := by
  cases o <;> simp [present, mem_fieldsNumbers]

@[simp] theorem mem_numbers_append {first later : List (String × Json)} :
    n ∈ fieldsNumbers (first ++ later) ↔ n ∈ fieldsNumbers first ∨ n ∈ fieldsNumbers later := by
  simp only [mem_fieldsNumbers, List.mem_append, or_and_right, exists_or]

@[simp] theorem mem_numbers_object {fields : List (String × Json)} :
    n ∈ (Json.object fields).numbers ↔ n ∈ fieldsNumbers fields := Iff.rfl

end Numbers

section Depth

variable [Encode α] {d : Nat}

@[simp] theorem depth_string {s : String} : (encode s).depth = 0 := rfl

@[simp] theorem depth_bool {b : Bool} : (encode b).depth = 0 := rfl

@[simp] theorem depth_nat {k : Nat} : (encode k).depth = 0 := rfl

@[simp] theorem depth_double {x : Float} : (encode x).depth = 0 := rfl

@[simp] theorem depth_single {x : Float32} : (encode x).depth = 0 := rfl

theorem depth_list_le {as : List α} :
    (encode as).depth ≤ d + 1 ↔ ∀ a ∈ as, (encode a).depth ≤ d := by
  simp only [encode, depth, Nat.add_le_add_iff_right, itemsDepth_le, List.forall_mem_map]

theorem depth_dict_le {m : Dict α} :
    (encode m).depth ≤ d + 1 ↔ ∀ e ∈ m.entries, (encode e.2).depth ≤ d := by
  simp only [encode, depth, Nat.add_le_add_iff_right, fieldsDepth_le, List.forall_mem_map]

@[simp] theorem fieldsDepth_nil : fieldsDepth [] = 0 := rfl

@[simp] theorem fieldsDepth_field_le {name : String} {a : α} :
    fieldsDepth (field name a) ≤ d ↔ (encode a).depth ≤ d := by
  simp [field, fieldsDepth_le]

@[simp] theorem fieldsDepth_present_le {name : String} {o : Option α} :
    fieldsDepth (present name o) ≤ d ↔ ∀ a, o = some a → (encode a).depth ≤ d := by
  cases o <;> simp [present, fieldsDepth_le]

@[simp] theorem fieldsDepth_append_le {first later : List (String × Json)} :
    fieldsDepth (first ++ later) ≤ d ↔ fieldsDepth first ≤ d ∧ fieldsDepth later ≤ d := by
  simp only [fieldsDepth_le, List.mem_append, or_imp, forall_and]

end Depth

/-- What is written for `a` is read back as `b`, if its numbers are recoverable. -/
def Decoder.Restores [Encode α] (d : Decoder β) (a : α) (b : β) : Prop :=
  (∀ n ∈ (encode a).numbers, n.Recoverable) → d.value (encode a).reread = .ok b

namespace Decoder

theorem restores_string (s : String) : string.Restores s s := fun _ => rfl

theorem restores_bool (b : Bool) : bool.Restores b b := fun _ => rfl

theorem restores_index (n : Nat) : index.Restores n n := by
  intro recoverable
  have fits := (recoverable (.integer n) (by simp)).fits
  exact natural_reread (Int.ofNat_lt.1 fits.2) (Nat.le_refl _)

theorem restores_double (x : Float) : double.Restores x x := by
  intro recoverable
  have whole := recoverable (.double x) (by simp)
  exact double_reread whole.fits whole.back

/-- Null stands for no value. -/
def Strict (d : Decoder α) : Prop := ∀ a, d.value .null ≠ .ok a

theorem strict_string : string.Strict := fun _ h => by cases h

theorem strict_index : index.Strict := fun _ h => by cases h

theorem strict_double : double.Strict := fun _ h => by cases h

theorem strict_single : single.Strict := fun _ h => by cases h

theorem Strict.option {d : Decoder α} (strict : d.Strict) {j : Json} {a : α}
    (value : d.value j = .ok a) : d.option.value j = .ok (some a) := by
  cases j with
  | null => exact absurd value (strict a)
  | bool | number | string | array | object => exact map_eq_ok.2 ⟨a, value, rfl⟩

theorem restores_single (x : Float32) :
    single.option.Restores x (if x.isFinite then some x else none) := by
  intro recoverable
  have back := (recoverable (.single x) (by simp)).back
  cases finite : x.isFinite with
  | true => exact strict_single.option (single_reread finite back)
  | false =>
    change single.option.value (Json.number (.single x)).reread = .ok none
    rw [reread_single_infinite finite]
    rfl

theorem Restores.option [Encode α] {d : Decoder β} {a : α} {b : β} (h : d.Restores a b)
    (strict : d.Strict) : d.option.Restores a (some b) :=
  fun recoverable => strict.option (h recoverable)

theorem mapM_map_of_forall {ε : Type} {f : γ → Except ε β} {before : α → γ} {g : α → β}
    {as : List α} (h : ∀ a ∈ as, f (before a) = .ok (g a)) :
    (as.map before).mapM f = .ok (as.map g) := by
  rw [mapM_eq_ok, List.map_map, List.map_map]
  exact List.map_congr_left h

theorem Restores.list [Encode α] {d : Decoder β} {f : α → β} {as : List α}
    (h : ∀ a ∈ as, d.Restores a (f a)) : d.list.Restores as (as.map f) := by
  intro recoverable
  simp only [encode, reread, rereadItems_eq, List.map_map]
  exact mapM_map_of_forall fun a mem => h a mem fun n inside =>
    recoverable n (mem_numbers_list.2 ⟨a, mem, inside⟩)

theorem Restores.dict [Encode α] {d : Decoder β} {f : α → β} {m : Dict α}
    (h : ∀ e ∈ m.entries, d.Restores e.2 (f e.2)) : d.dict.Restores m (m.map f) := by
  intro recoverable
  simp only [encode, reread, rereadFields_eq, List.map_map]
  refine map_eq_ok.2 ⟨(m.map f).entries, mapM_map_of_forall fun e mem => ?_, Dict.ofList_entries _⟩
  exact map_eq_ok.2 ⟨_, h e mem fun n inside =>
    recoverable n (mem_numbers_dict.2 ⟨e, mem, inside⟩), rfl⟩

end Decoder

/-- The fields read what is written back as `a`, if its numbers are recoverable. -/
def Fields.Restores (x : Fields α) (entries : List (String × Json)) (a : α) : Prop :=
  (∀ n ∈ fieldsNumbers entries, n.Recoverable) →
    ∃ vals, rereadFields entries = written vals ∧ x.Assigns vals a

namespace Fields

variable {d : Decoder β} {name : String} {aliases : List String}

theorem Restores.seq {f : Fields (α → β)} {x : Fields α} {first later : List (String × Json)}
    {g : α → β} {a : α} (h : f.Restores first g) (h' : x.Restores later a) :
    (f <*> x).Restores (first ++ later) (g a) := by
  intro recoverable
  obtain ⟨vals, same, assigns⟩ := h fun n inside =>
    recoverable n (mem_numbers_append.2 (.inl inside))
  obtain ⟨vals', same', assigns'⟩ := h' fun n inside =>
    recoverable n (mem_numbers_append.2 (.inr inside))
  refine ⟨vals ++ vals', ?_, assigns.seq assigns'⟩
  rw [written_append, ← same, ← same', rereadFields_eq, List.map_append, rereadFields_eq,
    rereadFields_eq]

theorem Restores.map {x : Fields α} {entries : List (String × Json)} {a : α}
    (h : x.Restores entries a) (g : α → β) : (g <$> x).Restores entries (g a) := by
  intro recoverable
  obtain ⟨vals, same, assigns⟩ := h recoverable
  exact ⟨vals, same, assigns.map g⟩

theorem restores_field [Encode α] {presence : Presence} {absent : Except Cause β} {a : α} {b : β}
    (h : d.Restores a b) : (one name aliases presence d absent).Restores (field name a) b :=
  fun recoverable => ⟨[(name, some (encode a).reread)], rfl,
    assigns_some (h fun n inside => recoverable n (mem_numbers_field.2 inside))⟩

theorem restores_present [Encode α] {o : Option α} {b : Option β}
    (value : ∀ a, o = some a → d.option.Restores a b) (absent : o = none → b = none) :
    (optional name d aliases).Restores (present name o) b := by
  cases o with
  | none => exact fun _ => ⟨[(name, none)], rfl, assigns_none (by rw [absent rfl]) nofun⟩
  | some a => exact restores_field (value a rfl)

theorem restores_optional [Encode α] {d : Decoder α} (strict : d.Strict) {o : Option α}
    (h : ∀ a, d.Restores a a) : (optional name d aliases).Restores (present name o) o := by
  refine restores_present (fun a some => ?_) id
  rw [some]
  exact (h a).option strict

theorem restores_flag (b : Bool) :
    (defaulted name .bool false).Restores (if b then field name true else []) b := by
  cases b with
  | false => exact fun _ => ⟨[(name, none)], rfl, assigns_none rfl nofun⟩
  | true => exact restores_field (Decoder.restores_bool true)

end Fields

theorem Fields.Assigns.mem_names {x : Fields α} {vals : List Assignment} {a : α}
    (h : x.Assigns vals a) {e : String × Json} (mem : e ∈ written vals) :
    e.1 ∈ x.known.map Field.name := h.names ▸ fst_mem_of_mem_written mem

theorem Record.restores {r : Record α} {entries : List (String × Json)} {a : α}
    (distinct : r.fields.Distinct) (h : r.fields.Restores entries a)
    (recoverable : ∀ n ∈ fieldsNumbers entries, n.Recoverable) :
    r.ofEntries (rereadFields entries) = .ok a := by
  obtain ⟨vals, same, assigns⟩ := h recoverable
  rw [same]
  exact ofEntries_written distinct assigns

theorem Record.decoder_restores [Encode β] {r : Record α} {entries : List (String × Json)}
    {b : β} {a : α} (form : encode b = .object entries) (distinct : r.fields.Distinct)
    (h : r.fields.Restores entries a) : r.decoder.Restores b a := by
  intro recoverable
  rw [form] at recoverable ⊢
  exact Record.restores distinct h recoverable

theorem Tagged.restores [Encode β] {t : Tagged α} {r : Record α} {tag : String}
    {entries : List (String × Json)} {b : β} {a : α}
    (form : encode b = .object (field t.tag tag ++ entries))
    (known : t.payload tag = .ok (.record r)) (distinct : r.fields.Distinct)
    (apart : t.tag ∉ r.names) (h : r.fields.Restores entries a) : t.decoder.Restores b a := by
  intro recoverable
  rw [form] at recoverable ⊢
  have recoverable : ∀ n ∈ fieldsNumbers entries, n.Recoverable := fun n inside =>
    recoverable n (mem_numbers_append.2 (.inr inside))
  have value := Record.restores distinct h recoverable
  obtain ⟨vals, same, assigns⟩ := h recoverable
  have others : ∀ e ∈ rereadFields entries, e.1 ≠ t.tag := by
    rw [same]
    intro e mem named
    exact apart (named ▸ assigns.mem_names mem)
  exact (ofEntries_tagged known others).trans value

end VisualNovel.Json
