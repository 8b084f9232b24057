/-!
Finite maps from names to values, listed by ascending name. Names compare character by character.
-/

namespace VisualNovel

structure Dict (α : Type) where
  entries : List (String × α)
  ascending : entries.Pairwise (·.1 < ·.1)
deriving Repr

namespace Dict

variable {α β : Type}

instance [BEq α] : BEq (Dict α) := ⟨fun a b => a.entries == b.entries⟩

def empty : Dict α := ⟨[], .nil⟩

instance : EmptyCollection (Dict α) := ⟨empty⟩

instance : Inhabited (Dict α) := ⟨empty⟩

theorem ext {a b : Dict α} (h : a.entries = b.entries) : a = b := by
  cases a; cases b; cases h; rfl

/-- Put an entry at its place; an entry of that name is replaced. -/
def insertEntry (key : String) (value : α) : List (String × α) → List (String × α)
  | [] => [(key, value)]
  | (k, v) :: rest =>
    if key < k then (key, value) :: (k, v) :: rest
    else if key = k then (key, value) :: rest
    else (k, v) :: insertEntry key value rest

theorem mem_insertEntry {key : String} {value : α} {l : List (String × α)} {e : String × α}
    (h : e ∈ insertEntry key value l) : e = (key, value) ∨ e ∈ l := by
  induction l with
  | nil => simpa [insertEntry] using h
  | cons head rest ih =>
    simp only [insertEntry] at h
    split at h
    · simpa using h
    · split at h <;> simp at h ⊢ <;> grind

theorem ascending_insertEntry (key : String) (value : α) {l : List (String × α)}
    (h : l.Pairwise (·.1 < ·.1)) : (insertEntry key value l).Pairwise (·.1 < ·.1) := by
  induction l with
  | nil => simp [insertEntry]
  | cons head rest ih =>
    obtain ⟨hhead, hrest⟩ := List.pairwise_cons.1 h
    simp only [insertEntry]
    split
    · refine List.pairwise_cons.2 ⟨fun e he => ?_, h⟩
      rcases List.mem_cons.1 he with rfl | he
      · assumption
      · have := hhead e he
        grind
    · split
      · refine List.pairwise_cons.2 ⟨fun e he => ?_, hrest⟩
        have := hhead e he
        grind
      · refine List.pairwise_cons.2 ⟨fun e he => ?_, ih hrest⟩
        rcases mem_insertEntry he with rfl | he
        · grind
        · exact hhead e he

def insert (m : Dict α) (key : String) (value : α) : Dict α :=
  ⟨insertEntry key value m.entries, ascending_insertEntry key value m.ascending⟩

def erase (m : Dict α) (key : String) : Dict α :=
  ⟨m.entries.filter (·.1 != key), m.ascending.filter _⟩

def get? (m : Dict α) (key : String) : Option α := m.entries.lookup key

def contains (m : Dict α) (key : String) : Bool := (m.get? key).isSome

def keys (m : Dict α) : List String := m.entries.map (·.1)

def size (m : Dict α) : Nat := m.entries.length

def isEmpty (m : Dict α) : Bool := m.entries.isEmpty

/-- Of entries with one name the last counts. -/
def ofList (l : List (String × α)) : Dict α :=
  l.foldl (fun m e => m.insert e.1 e.2) empty

@[simp] theorem get?_empty (key : String) : (empty : Dict α).get? key = none := rfl

theorem lookup_insertEntry (key k : String) (value : α) (l : List (String × α)) :
    (insertEntry key value l).lookup k = if k = key then some value else l.lookup k := by
  induction l with
  | nil =>
    by_cases h : k = key <;> simp [insertEntry, List.lookup_cons, h, beq_eq_false_iff_ne.2]
  | cons head rest ih =>
    obtain ⟨k', v'⟩ := head
    simp only [insertEntry]
    split
    · by_cases h : k = key <;> simp [List.lookup_cons, h, beq_eq_false_iff_ne.2]
    · split
      · subst key
        by_cases h : k = k' <;> simp [List.lookup_cons, h, beq_eq_false_iff_ne.2]
      · by_cases h : k = k'
        · subst h
          simp [show k ≠ key from fun h => ‹¬key = k› h.symm]
        · simp [List.lookup_cons, h, beq_eq_false_iff_ne.2, ih]

theorem get?_insert (m : Dict α) (key k : String) (value : α) :
    (m.insert key value).get? k = if k = key then some value else m.get? k :=
  lookup_insertEntry key k value m.entries

@[simp] theorem get?_insert_self (m : Dict α) (key : String) (value : α) :
    (m.insert key value).get? key = some value := by
  simp [get?_insert]

theorem get?_insert_of_ne (m : Dict α) {key k : String} (value : α) (h : k ≠ key) :
    (m.insert key value).get? k = m.get? k := by
  simp [get?_insert, h]

theorem lookup_filter_ne (key k : String) (l : List (String × α)) :
    (l.filter (·.1 != key)).lookup k = if k = key then none else l.lookup k := by
  induction l with
  | nil => simp
  | cons head rest ih =>
    obtain ⟨k', v'⟩ := head
    by_cases h : k' = key
    · subst h
      have : ((k', v') :: rest).filter (·.1 != k') = rest.filter (·.1 != k') := by simp
      rw [this, ih]
      by_cases hk : k = k' <;> simp [List.lookup_cons, hk, beq_eq_false_iff_ne.2]
    · have : ((k', v') :: rest).filter (·.1 != key) = (k', v') :: rest.filter (·.1 != key) := by
        simp [h]
      rw [this]
      by_cases hk : k = k'
      · simp [hk, h]
      · simp [List.lookup_cons, hk, beq_eq_false_iff_ne.2, ih]

theorem get?_erase (m : Dict α) (key k : String) :
    (m.erase key).get? k = if k = key then none else m.get? k :=
  lookup_filter_ne key k m.entries

theorem lookup_isSome_iff {k : String} {l : List (String × α)} :
    (l.lookup k).isSome = true ↔ k ∈ l.map (·.1) := by
  induction l with
  | nil => simp
  | cons head rest ih =>
    obtain ⟨k', v'⟩ := head
    by_cases h : k = k'
    · simp [h]
    · simp [List.lookup_cons, h, beq_eq_false_iff_ne.2, ← ih]

theorem contains_iff {m : Dict α} {key : String} : m.contains key = true ↔ key ∈ m.keys :=
  lookup_isSome_iff

theorem mem_of_get? {m : Dict α} {key : String} {value : α} (h : m.get? key = some value) :
    (key, value) ∈ m.entries := by
  obtain ⟨before, after, split, -⟩ := List.lookup_eq_some_iff.1 h
  rw [split]
  simp

theorem keys_ascending (m : Dict α) : m.keys.Pairwise (· < ·) :=
  List.pairwise_map.2 m.ascending

end Dict

end VisualNovel
