import VisualNovel.Json.Union
import VisualNovel.Proofs.Json.Canonical
import VisualNovel.Proofs.Json.Coherent
import VisualNovel.Proofs.Json.Plain

namespace VisualNovel.Json

variable {α β : Type}

/-- A value inside at most `d` brackets whose numbers are plain. -/
structure Within (d : Nat) (j : Json) : Prop where
  shallow : j.depth ≤ d
  plain : ∀ n ∈ j.numbers, n.Plain

theorem Within.item {items : List Json} {d : Nat} (h : Within (d + 1) (.array items)) {item : Json}
    (mem : item ∈ items) : Within d item :=
  ⟨depth_item_le h.shallow mem, fun n inside =>
    h.plain n (mem_itemNumbers.2 ⟨item, mem, inside⟩)⟩

theorem Within.field {fields : List (String × Json)} {d : Nat}
    (h : Within (d + 1) (.object fields)) {field : String × Json} (mem : field ∈ fields) :
    Within d field.2 :=
  ⟨depth_field_le h.shallow mem, fun n inside =>
    h.plain n (mem_fieldsNumbers.2 ⟨field, mem, inside⟩)⟩

theorem Within.mono {d d' : Nat} {j : Json} (h : Within d j) (le : d ≤ d') : Within d' j :=
  ⟨Nat.le_trans h.shallow le, h.plain⟩

/-- Of values within `d` brackets the decoder makes values with the property. -/
def Decoder.Makes (dec : Decoder α) (d : Nat) (P : α → Prop) : Prop :=
  ∀ ⦃j a⦄, Within d j → dec.value j = .ok a → P a

namespace Decoder

variable {d : Nat} {P : α → Prop}

theorem makes_any : any.Makes d fun j => j.canonical = j ∧ Within d j := by
  intro j a within made
  cases made
  exact ⟨canonical_canonical j, depth_canonical_le j within.shallow, fun n mem =>
    within.plain n (mem_numbers_of_canonical mem)⟩

theorem makes_natural (bound : Nat) (expected : String) :
    (natural bound expected).Makes d (· < bound) := by
  intro j a within made
  cases j with
  | null | bool | string | array | object => cases made
  | number n =>
    cases n with
    | double | single => cases made
    | integer i =>
      simp only [natural, scalar, shape, Number.shape] at made
      split at made
      · next inside =>
        cases made
        simp only [Bool.and_eq_true, decide_eq_true_eq] at inside
        omega
      · cases made

theorem isFinite_doubleOfInt {i : Int} (h : (Number.integer i).Plain) :
    (Decimal.doubleOfInt i).isFinite = true := by
  have words : twoTo 63 < twoTo 64 := by decide
  have plain : -(twoTo 63 : Int) ≤ i ∧ i < twoTo 64 := h
  have finite : (Float.ofNat i.natAbs).isFinite = true := Decimal.isFinite_ofNat (by omega)
  rw [Decimal.doubleOfInt]
  split
  · exact Decimal.isFinite_neg finite
  · exact finite

theorem makes_double : double.Makes d fun x => x.isFinite = true := by
  intro j a within made
  cases j with
  | null | bool | string | array | object => cases made
  | number n =>
    have plain := within.plain n (List.mem_singleton.2 rfl)
    cases n with
    | single => cases plain
    | double x =>
      cases made
      exact plain
    | integer i =>
      cases made
      exact isFinite_doubleOfInt plain

theorem Makes.option {dec : Decoder α} (h : dec.Makes d P) :
    dec.option.Makes d fun o => ∀ a, o = some a → P a := by
  rintro j o within made a rfl
  cases j with
  | null => cases made
  | bool | number | string | array | object =>
    obtain ⟨a, made, same⟩ := map_eq_ok.1 made
    cases same
    exact h within made

theorem Makes.list {dec : Decoder α} (h : dec.Makes d P) :
    dec.list.Makes d fun as => ∀ a ∈ as, P a := by
  intro j as within made a mem
  cases j with
  | null | bool | number | string | object => cases made
  | array items =>
    obtain ⟨item, inside, value⟩ := mem_of_mapM made mem
    exact h ((within.mono (Nat.le_succ d)).item inside) value

end Decoder

/-- Of values with a property, by their names, the fields make up values with another one. -/
def Fields.Makes (x : Fields α) (Q : String → Json → Prop) (P : α → Prop) : Prop :=
  ∀ ⦃look a⦄, (∀ name j, look name = some j → Q name j) → x.build look = .ok a → P a

namespace Fields

variable {Q : String → Json → Prop} {P : α → Prop}

theorem makes_true (x : Fields α) : x.Makes Q fun _ => True := fun _ _ _ _ => trivial

theorem Makes.seq {f : Fields (α → β)} {x : Fields α} {P : β → Prop} {R : α → Prop}
    (h : f.Makes Q fun g => ∀ a, R a → P (g a)) (h' : x.Makes Q R) : (f <*> x).Makes Q P := by
  intro look b within made
  obtain ⟨g, first, made⟩ := bind_eq_ok.1 made
  obtain ⟨a, second, made⟩ := bind_eq_ok.1 made
  cases made
  exact h within first a (h' within second)

theorem Makes.map {x : Fields α} {f : α → β} {P : β → Prop} (h : x.Makes Q fun a => P (f a)) :
    (f <$> x).Makes Q P := by
  intro look b within made
  obtain ⟨g, first, made⟩ := bind_eq_ok.1 made
  cases first
  obtain ⟨a, second, made⟩ := bind_eq_ok.1 made
  cases made
  exact h within second

theorem makes_one {dec : Decoder α} {name : String} {aliases : List String} {presence : Presence}
    {absent : Except Cause α} (h : ∀ ⦃j a⦄, Q name j → dec.value j = .ok a → P a)
    (spare : ∀ a, absent = .ok a → P a) :
    (one name aliases presence dec absent).Makes Q P := by
  intro look a within made
  simp only [one] at made
  split at made
  · next j found => exact h (within name j found) made
  · exact spare a made

end Fields

theorem mem_of_lookup {name : String} {entries : List (String × α)} {a : α}
    (h : entries.lookup name = some a) : (name, a) ∈ entries := by
  obtain ⟨before, after, split, -⟩ := List.lookup_eq_some_iff.1 h
  rw [split]
  simp

namespace Record

variable {r : Record α} {d : Nat} {P : α → Prop}

theorem mem_of_collect {found entries all : List (String × Json)}
    (h : r.collect found entries = .ok all) {e : String × Json} (mem : e ∈ all) :
    e ∈ found ∨ ∃ e' ∈ entries, e'.2 = e.2 := by
  induction entries generalizing found with
  | nil => cases h; exact .inl mem
  | cons entry rest ih =>
    have later (found : List (String × Json)) (h : r.collect found rest = .ok all) :
        e ∈ found ∨ ∃ e' ∈ entry :: rest, e'.2 = e.2 := by
      obtain old | ⟨e', mem', same⟩ := ih h
      · exact .inl old
      · exact .inr ⟨e', by simp [mem'], same⟩
    rw [collect] at h
    split at h
    · split at h
      · cases h
      · exact later found h
    · split at h
      · cases h
      · obtain ⟨_, -, h⟩ := bind_eq_ok.1 h
        obtain new | later := later _ h
        · obtain rfl | old := List.mem_cons.1 new
          · exact .inr ⟨entry, by simp, rfl⟩
          · exact .inl old
        · exact .inr later

theorem makes_entries (h : r.fields.Makes (fun _ => Within d) P) {entries : List (String × Json)}
    {a : α} (within : ∀ e ∈ entries, Within d e.2) (made : r.ofEntries entries = .ok a) : P a := by
  obtain ⟨all, collected, -, made⟩ := ofEntries_eq_ok.1 made
  have looked (name : String) (j : Json) (found : all.lookup name = some j) : Within d j := by
    obtain impossible | ⟨e, mem, same⟩ := mem_of_collect collected (mem_of_lookup found)
    · cases impossible
    · cases same
      exact within e mem
  exact h looked made

theorem makes_items (h : r.fields.Makes (fun _ => Within d) P) {items : List Json} {a : α}
    (within : ∀ item ∈ items, Within d item) (made : r.ofItems items = .ok a) : P a := by
  obtain ⟨_, -, made⟩ := bind_eq_ok.1 made
  exact h (fun name j found => within j (List.of_mem_zip (mem_of_lookup found)).2) made

theorem makes (h : r.fields.Makes (fun _ => Within d) P) : r.decoder.Makes d P := by
  intro j a within made
  have within := within.mono (Nat.le_succ d)
  cases j with
  | null | bool | number | string => cases made
  | array items => exact makes_items h (fun item mem => within.item mem) made
  | object entries => exact makes_entries h (fun e mem => within.field mem) made

end Record

namespace Tagged

variable {t : Tagged α} {d : Nat} {P : α → Prop}

/-- What a payload holds that is made of values within `d` brackets. -/
def PayloadMakes (payload : Payload α) (d : Nat) (P : α → Prop) : Prop :=
  match payload with
  | .unit a => P a
  | .record r => r.fields.Makes (fun _ => Within d) P

theorem makes (h : ∀ tag payload, t.payload tag = .ok payload → PayloadMakes payload d P) :
    t.decoder.Makes (d + 1) P := by
  have known {name : Json} {payload : Payload α} (found : t.payloadOf name = .ok payload) :
      PayloadMakes payload d P := by
    cases name with
    | string tag => exact h tag payload found
    | null | bool | number | array | object => cases found
  intro j a within made
  cases j with
  | null | bool | number | string => cases made
  | array items =>
    cases items with
    | nil => cases made
    | cons name rest =>
      obtain ⟨payload, found, made⟩ := bind_eq_ok.1 made
      cases payload with
      | unit =>
        cases rest with
        | nil => cases made; exact known found
        | cons => cases made
      | record r =>
        exact Record.makes_items (known found) (fun item mem => within.item (by simp [mem])) made
  | object entries =>
    change t.ofEntries entries = .ok a at made
    rw [ofEntries] at made
    split at made
    · cases made
    · obtain ⟨payload, found, made⟩ := bind_eq_ok.1 made
      cases payload with
      | unit => cases made; exact known found
      | record r =>
        refine Record.makes_entries (known found) (fun e mem => within.field ?_) made
        exact (List.mem_filter.1 mem).1
    · cases made

end Tagged

end VisualNovel.Json
