import VisualNovel.Proofs.Dict
import VisualNovel.Proofs.Json.Printed

namespace VisualNovel.Json

@[simp] theorem canonicalItems_eq (items : List Json) :
    canonicalItems items = items.map canonical := by
  induction items with
  | nil => rfl
  | cons item rest ih => rw [canonicalItems, ih, List.map_cons]

@[simp] theorem canonicalFields_eq (fields : List (String × Json)) :
    canonicalFields fields = fields.map fun e => (e.1, e.2.canonical) := by
  induction fields with
  | nil => rfl
  | cons field rest ih => rw [canonicalFields, ih, List.map_cons, canonicalField]

theorem insertField_eq (key : String) (value : Json) (fields : List (String × Json)) :
    insertField key value fields = Dict.insertEntry key value fields := by
  induction fields with
  | nil => rfl
  | cons field rest ih => rw [insertField, Dict.insertEntry, ih]

def canonicalDict (fields : List (String × Json)) : Dict Json :=
  .ofList (fields.map fun e => (e.1, e.2.canonical))

theorem canonical_object (fields : List (String × Json)) :
    canonical (.object fields) = .object (canonicalDict fields).entries := by
  have insert (l : List (String × Json)) (m : Dict Json) :
      l.foldl (fun acc e => insertField e.1 e.2 acc) m.entries
        = (l.foldl (fun m e => m.insert e.1 e.2) m).entries := by
    induction l generalizing m with
    | nil => rfl
    | cons e rest ih =>
      rw [List.foldl_cons, List.foldl_cons, ← ih]
      exact congrArg (rest.foldl _) (insertField_eq e.1 e.2 m.entries)
  rw [canonical, canonicalFields_eq]
  exact congrArg object (insert _ .empty)

theorem mem_canonicalDict {fields : List (String × Json)} {e : String × Json}
    (mem : e ∈ (canonicalDict fields).entries) : ∃ field ∈ fields, e.2 = field.2.canonical := by
  obtain ⟨field, inside, rfl⟩ := List.mem_map.1 (Dict.mem_ofList mem)
  exact ⟨field, inside, rfl⟩

theorem canonical_canonical (j : Json) : j.canonical.canonical = j.canonical := by
  induction j using induct with
  | null | bool | number | string => rfl
  | array items ih =>
    simp only [canonical, canonicalItems_eq, List.map_map]
    exact congrArg array (List.map_congr_left ih)
  | object fields ih =>
    rw [canonical_object, canonical_object]
    have same : ∀ e ∈ (canonicalDict fields).entries, (e.1, e.2.canonical) = e := by
      intro e mem
      obtain ⟨field, inside, value⟩ := mem_canonicalDict mem
      rw [value, ih field inside, ← value]
    rw [canonicalDict, List.map_congr_left same, List.map_id', Dict.ofList_entries]

theorem depth_canonical_le (j : Json) {d : Nat} (h : j.depth ≤ d) : j.canonical.depth ≤ d := by
  induction j using induct generalizing d with
  | null | bool | number | string => exact h
  | array items ih =>
    cases d with
    | zero => simp [depth] at h
    | succ d =>
      simp only [depth, Nat.add_le_add_iff_right, itemsDepth_le] at h
      simp only [canonical, canonicalItems_eq, depth, Nat.add_le_add_iff_right, itemsDepth_le,
        List.forall_mem_map]
      exact fun item mem => ih item mem (h item mem)
  | object fields ih =>
    cases d with
    | zero => simp [depth] at h
    | succ d =>
      simp only [depth, Nat.add_le_add_iff_right, fieldsDepth_le] at h
      simp only [canonical_object, depth, Nat.add_le_add_iff_right, fieldsDepth_le]
      intro e mem
      obtain ⟨field, inside, value⟩ := mem_canonicalDict mem
      rw [value]
      exact ih field inside (h field inside)

theorem mem_numbers_of_canonical {j : Json} {n : Number} (mem : n ∈ j.canonical.numbers) :
    n ∈ j.numbers := by
  induction j using induct with
  | null | bool | number | string => exact mem
  | array items ih =>
    simp only [canonical, canonicalItems_eq, numbers, mem_itemNumbers, List.mem_map] at mem ⊢
    obtain ⟨-, ⟨item, inside, rfl⟩, mem⟩ := mem
    exact ⟨item, inside, ih item inside mem⟩
  | object fields ih =>
    simp only [canonical_object, numbers, mem_fieldsNumbers] at mem ⊢
    obtain ⟨e, inside, mem⟩ := mem
    obtain ⟨field, inside, value⟩ := mem_canonicalDict inside
    exact ⟨field, inside, ih field inside (value ▸ mem)⟩

theorem canonical_eq_null {j : Json} (h : j.canonical = .null) : j = .null := by
  cases j with
  | null => rfl
  | bool | number | string => cases h
  | array => cases h
  | object fields => rw [canonical_object] at h; cases h

end VisualNovel.Json
