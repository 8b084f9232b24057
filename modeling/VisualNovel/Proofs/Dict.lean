import VisualNovel.Dict

namespace VisualNovel.Dict

variable {α β : Type}

/-- The map with each value replaced. -/
def map (f : α → β) (m : Dict α) : Dict β where
  entries := m.entries.map fun e => (e.1, f e.2)
  ascending := List.pairwise_map.2 m.ascending

theorem map_eq_self_iff {f : α → α} {m : Dict α} :
    m.map f = m ↔ ∀ e ∈ m.entries, f e.2 = e.2 := by
  have entries : m.map f = m ↔ m.entries.map (fun e => (e.1, f e.2)) = m.entries.map id := by
    rw [List.map_id]
    exact ⟨congrArg Dict.entries, ext (a := m.map f)⟩
  rw [entries, List.map_inj_left]
  exact forall₂_congr fun e _ => by simp [Prod.ext_iff]

theorem lookup_of_mem {key : String} {value : α} {l : List (String × α)}
    (ascending : l.Pairwise (·.1 < ·.1)) (mem : (key, value) ∈ l) : l.lookup key = some value := by
  induction l with
  | nil => cases mem
  | cons head rest ih =>
    obtain ⟨name, first⟩ := head
    obtain ⟨before, ascending⟩ := List.pairwise_cons.1 ascending
    obtain same | later := List.mem_cons.1 mem
    · cases same
      exact List.lookup_cons_self
    · have other : (key == name) = false := by
        rw [beq_eq_false_iff_ne]
        rintro rfl
        exact String.lt_irrefl _ (before (key, value) later)
      rw [List.lookup_cons, other]
      exact ih ascending later

theorem get?_of_mem {m : Dict α} {key : String} {value : α} (mem : (key, value) ∈ m.entries) :
    m.get? key = some value := lookup_of_mem m.ascending mem

theorem map_fst_insertEntry {key : String} {value : α} {value' : β} {l : List (String × α)}
    {l' : List (String × β)} (same : l.map Prod.fst = l'.map Prod.fst) :
    (insertEntry key value l).map Prod.fst = (insertEntry key value' l').map Prod.fst := by
  induction l generalizing l' with
  | nil =>
    obtain rfl : l' = [] := by simpa using same.symm
    rfl
  | cons head rest ih =>
    obtain ⟨head', rest', rfl, name, tail⟩ := List.map_eq_cons_iff.1 same.symm
    simp only [insertEntry, name]
    split
    · simp [tail]
    · split
      · simp [tail]
      · simp [ih tail.symm]

theorem keys_insert {m : Dict α} {m' : Dict β} (same : m.keys = m'.keys) (key : String) (value : α)
    (value' : β) : (m.insert key value).keys = (m'.insert key value').keys :=
  map_fst_insertEntry same

theorem keys_erase {m : Dict α} {m' : Dict β} (same : m.keys = m'.keys) (key : String) :
    (m.erase key).keys = (m'.erase key).keys := by
  have names {γ : Type} (l : List (String × γ)) :
      (l.filter (·.1 != key)).map Prod.fst = (l.map Prod.fst).filter (· != key) := by
    rw [List.filter_map]
    rfl
  exact (names m.entries).trans ((congrArg _ same).trans (names m'.entries).symm)

theorem erase_of_not_contains {m : Dict α} {key : String} (missing : m.contains key = false) :
    m.erase key = m := by
  refine ext (List.filter_eq_self.2 fun e mem => ?_)
  rw [bne_iff_ne]
  rintro rfl
  have named : m.contains e.1 = true := contains_iff.2 (List.mem_map.2 ⟨e, mem, rfl⟩)
  rw [missing] at named
  cases named

/-- A map without values is told by its names. -/
theorem eq_map_unit {m : Dict Unit} {m' : Dict α} (same : m.keys = m'.keys) :
    m = m'.map fun _ => () := by
  refine ext ?_
  have entries (l : List (String × Unit)) : l = (l.map Prod.fst).map (·, ()) := by
    rw [List.map_map]
    exact (List.map_id l).symm
  rw [entries m.entries]
  refine (congrArg (List.map (·, ())) same).trans ?_
  simp [keys, map]

theorem insertEntry_last {key : String} {value : α} {l : List (String × α)}
    (h : ∀ e ∈ l, e.1 < key) : insertEntry key value l = l ++ [(key, value)] := by
  induction l with
  | nil => rfl
  | cons e rest ih =>
    have before : e.1 < key := h e (by simp)
    have after : ¬key < e.1 := String.lt_asymm before
    have other : key ≠ e.1 := by
      rintro rfl
      exact after before
    rw [insertEntry, if_neg after, if_neg other, ih fun e mem => h e (by simp [mem])]
    rfl

theorem foldl_insert {m : Dict α} {l : List (String × α)}
    (h : (m.entries ++ l).Pairwise (·.1 < ·.1)) :
    (l.foldl (fun m e => m.insert e.1 e.2) m).entries = m.entries ++ l := by
  induction l generalizing m with
  | nil => simp
  | cons e rest ih =>
    have before : ∀ e' ∈ m.entries, e'.1 < e.1 := fun e' mem =>
      (List.pairwise_append.1 h).2.2 e' mem e (by simp)
    have entries : (m.insert e.1 e.2).entries = m.entries ++ [e] := insertEntry_last before
    rw [List.foldl_cons, ih (by simpa [entries] using h), entries, List.append_assoc]
    rfl

theorem ofList_entries (m : Dict α) : ofList m.entries = m :=
  ext (foldl_insert m.ascending)

theorem mem_foldl_insert {l : List (String × α)} {m : Dict α} {e : String × α}
    (mem : e ∈ (l.foldl (fun m e => m.insert e.1 e.2) m).entries) : e ∈ m.entries ∨ e ∈ l := by
  induction l generalizing m with
  | nil => exact .inl mem
  | cons first rest ih =>
    obtain inserted | later := ih mem
    · obtain rfl | old := mem_insertEntry inserted
      · exact .inr (by simp)
      · exact .inl old
    · exact .inr (by simp [later])

theorem mem_ofList {l : List (String × α)} {e : String × α} (mem : e ∈ (ofList l).entries) :
    e ∈ l := (mem_foldl_insert mem).resolve_left nofun

end VisualNovel.Dict
