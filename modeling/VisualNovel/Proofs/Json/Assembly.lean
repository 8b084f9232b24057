import VisualNovel.Proofs.Json.Coherent

/-!
What a record makes of its fields when they are written in the order of declaration, each once or
not at all.
-/

namespace VisualNovel.Json

variable {α β : Type}

/-- A name with the value that is written under it, if any. -/
abbrev Assignment := String × Option Json

def written (vals : List Assignment) : List (String × Json) :=
  vals.filterMap fun v => v.2.map (v.1, ·)

@[simp] theorem written_nil : written [] = [] := rfl

@[simp] theorem written_none (name : String) (vals : List Assignment) :
    written ((name, none) :: vals) = written vals := rfl

@[simp] theorem written_some (name : String) (j : Json) (vals : List Assignment) :
    written ((name, some j) :: vals) = (name, j) :: written vals := rfl

theorem written_append (vals later : List Assignment) :
    written (vals ++ later) = written vals ++ written later := List.filterMap_append

theorem fst_mem_of_mem_written {vals : List Assignment} {e : String × Json}
    (mem : e ∈ written vals) : e.1 ∈ vals.map Prod.fst := by
  obtain ⟨v, inside, same⟩ := List.mem_filterMap.1 mem
  obtain ⟨j, -, rfl⟩ := Option.map_eq_some_iff.1 same
  exact List.mem_map_of_mem inside

/-- A field takes what is written under its name. -/
structure Field.Takes (f : Field) (v : Assignment) : Prop where
  name : f.name = v.1
  checked : ∀ j, v.2 = some j → f.check j = .ok ()
  optional : v.2 = none → f.presence ≠ .required

/-- The fields make up a value of what is written under their names, each one in its turn. -/
structure Fields.Assigns (x : Fields α) (vals : List Assignment) (a : α) : Prop where
  build : ∀ look, (∀ v ∈ vals, look v.1 = v.2) → x.build look = .ok a
  names : x.known.map Field.name = vals.map Prod.fst
  takes : ∀ p ∈ x.known.zip vals, p.1.Takes p.2

namespace Fields

variable {d : Decoder α} {name : String} {aliases : List String} {presence : Presence}
  {absent : Except Cause α} {a : α} {j : Json}

theorem assigns_pure (a : α) : Assigns (pure a) [] a := ⟨fun _ _ => rfl, rfl, by simp⟩

theorem Assigns.seq {f : Fields (α → β)} {x : Fields α} {vals later : List Assignment}
    {g : α → β} {a : α} (h : f.Assigns vals g) (h' : x.Assigns later a) :
    (f <*> x).Assigns (vals ++ later) (g a) := by
  have same : f.known.length = vals.length := by simpa using congrArg List.length h.names
  refine ⟨fun look agree => ?_, ?_, ?_⟩
  · have first := h.build look fun v mem => agree v (by simp [mem])
    have second := h'.build look fun v mem => agree v (by simp [mem])
    change (do let g ← f.build look; let a ← x.build look; return g a) = _
    rw [first, second]
    rfl
  · change (f.known ++ x.known).map Field.name = _
    rw [List.map_append, List.map_append, h.names, h'.names]
  · change ∀ p ∈ (f.known ++ x.known).zip (vals ++ later), _
    rw [List.zip_append same]
    intro p mem
    obtain first | second := List.mem_append.1 mem
    · exact h.takes p first
    · exact h'.takes p second

theorem Assigns.map {x : Fields α} {vals : List Assignment} {a : α} (h : x.Assigns vals a)
    (g : α → β) : (g <$> x).Assigns vals (g a) := (assigns_pure g).seq h

theorem Assigns.pairs {x : Fields α} {vals : List Assignment} (h : x.Assigns vals a) :
    (∀ f ∈ x.known, ∃ v ∈ vals, f.Takes v) ∧ ∀ v ∈ vals, ∃ f ∈ x.known, f.Takes v := by
  have same : x.known.length = vals.length := by simpa using congrArg List.length h.names
  have takes (n : Nat) (left : n < x.known.length) (right : n < vals.length) :
      x.known[n].Takes vals[n] :=
    h.takes (x.known[n], vals[n]) (List.mem_iff_getElem.2 ⟨n, by simp [same, right], by simp⟩)
  constructor
  · intro f known
    obtain ⟨n, left, rfl⟩ := List.mem_iff_getElem.1 known
    exact ⟨_, List.getElem_mem (same ▸ left), takes n left _⟩
  · intro v mem
    obtain ⟨n, right, rfl⟩ := List.mem_iff_getElem.1 mem
    exact ⟨_, List.getElem_mem (same ▸ right), takes n _ right⟩

theorem assigns_some (value : d.value j = .ok a) :
    (one name aliases presence d absent).Assigns [(name, some j)] a := by
  refine ⟨fun look agree => ?_, rfl, ?_⟩
  · have found : look name = some j := agree (name, some j) (by simp)
    simp only [one, found, value]
  · simp only [one, List.zip_cons_cons, List.zip_nil_right, List.mem_singleton]
    rintro p rfl
    refine ⟨rfl, ?_, by simp⟩
    rintro _ ⟨⟩
    simp only [value, bind, Except.bind]

theorem assigns_none (known : absent = .ok a) (optional : presence ≠ .required) :
    (one name aliases presence d absent).Assigns [(name, none)] a := by
  refine ⟨fun look agree => ?_, rfl, ?_⟩
  · have found : look name = none := agree (name, none) (by simp)
    simp only [one, found, known]
  · simp only [one, List.zip_cons_cons, List.zip_nil_right, List.mem_singleton]
    rintro p rfl
    exact ⟨rfl, by simp, fun _ => optional⟩

end Fields

/-- No name stands for two fields. -/
def Fields.Distinct (x : Fields α) : Prop :=
  (x.known.flatMap fun f => f.name :: f.aliases).Nodup

instance (x : Fields α) : Decidable x.Distinct :=
  inferInstanceAs (Decidable (List.Nodup _))

theorem Fields.Distinct.names {x : Fields α} (distinct : x.Distinct) :
    (x.known.map Field.name).Nodup := by
  have distinct : (x.known.flatMap fun f => f.name :: f.aliases).Nodup := distinct
  generalize x.known = known at distinct
  induction known with
  | nil => simp
  | cons f rest ih =>
    obtain ⟨-, distinct', apart⟩ := List.nodup_append.1 distinct
    refine List.nodup_cons.2 ⟨fun later => ?_, ih distinct'⟩
    obtain ⟨g, mem, same⟩ := List.mem_map.1 later
    exact apart f.name (by simp) g.name (List.mem_flatMap.2 ⟨g, mem, by simp⟩) same.symm

namespace Record

variable {r : Record α} {vals : List Assignment} {a : α}

theorem find?_named {known : List Field} {f : Field} (mem : f ∈ known)
    (distinct : (known.flatMap fun f => f.name :: f.aliases).Nodup) :
    known.find? (·.isNamed f.name) = some f := by
  induction known with
  | nil => cases mem
  | cons g rest ih =>
    obtain ⟨-, distinct', apart⟩ := List.nodup_append.1 distinct
    obtain rfl | later := List.mem_cons.1 mem
    · simp [Field.isNamed]
    · have other : f.name ∉ g.name :: g.aliases := by
        intro inside
        exact apart f.name inside f.name (List.mem_flatMap.2 ⟨f, later, by simp⟩) rfl
      have unnamed : g.isNamed f.name = false := by
        simp only [List.mem_cons, not_or] at other
        simp [Field.isNamed, other.2, Ne.symm other.1]
      rw [List.find?_cons, unnamed]
      exact ih later distinct'

theorem lookup_cons_fresh {name : String} {j : Json} {found : List (String × Json)}
    (new : name ∉ vals.map Prod.fst) (fresh : ∀ v ∈ vals, found.lookup v.1 = none) :
    ∀ v ∈ vals, ((name, j) :: found).lookup v.1 = none := by
  intro v mem
  have other : v.1 ≠ name := fun same => new (List.mem_map.2 ⟨v, mem, same⟩)
  rw [List.lookup_cons, beq_eq_false_iff_ne.2 other]
  exact fresh v mem

/-- The written fields are collected behind those that were found before. -/
theorem collect_written (found : List (String × Json)) (distinct : (vals.map Prod.fst).Nodup)
    (known : ∀ v ∈ vals, ∀ j, v.2 = some j →
      ∃ f, r.field? v.1 = some f ∧ f.name = v.1 ∧ f.check j = .ok ())
    (fresh : ∀ v ∈ vals, found.lookup v.1 = none) :
    ∃ all, r.collect found (written vals) = .ok all ∧ (∀ v ∈ vals, all.lookup v.1 = v.2) ∧
      ∀ name, name ∉ vals.map Prod.fst → all.lookup name = found.lookup name := by
  induction vals generalizing found with
  | nil => exact ⟨found, rfl, by simp, fun _ _ => rfl⟩
  | cons v vals ih =>
    obtain ⟨name, o⟩ := v
    obtain ⟨new, distinct'⟩ := List.nodup_cons.1 distinct
    have known' : ∀ v ∈ vals, ∀ j, v.2 = some j →
        ∃ f, r.field? v.1 = some f ∧ f.name = v.1 ∧ f.check j = .ok () :=
      fun v mem => known v (by simp [mem])
    cases o with
    | none =>
      obtain ⟨all, collected, values, others⟩ :=
        ih found distinct' known' fun v mem => fresh v (by simp [mem])
      refine ⟨all, collected, ?_, fun name' out => others name' (by simp_all)⟩
      intro v mem
      obtain rfl | later := List.mem_cons.1 mem
      · rw [others _ new]
        exact fresh (name, none) (by simp)
      · exact values v later
    | some j =>
      obtain ⟨f, field, named, checked⟩ := known (name, some j) (by simp) j rfl
      obtain ⟨all, collected, values, others⟩ := ih ((name, j) :: found) distinct' known' <|
        lookup_cons_fresh new fun v mem => fresh v (by simp [mem])
      refine ⟨all, ?_, ?_, ?_⟩
      · have absent : found.lookup name = none := fresh (name, some j) (by simp)
        have named : f.name = name := named
        have field : r.field? name = some f := field
        simp only [written_some, collect, field, named, absent, checked, Option.isSome_none,
          Bool.false_eq_true, if_false, bind, Except.bind]
        exact collected
      · intro v mem
        obtain rfl | later := List.mem_cons.1 mem
        · rw [others _ new]
          simp
        · exact values v later
      · intro name' out
        simp only [List.map_cons, List.mem_cons, not_or] at out
        rw [others _ out.2, List.lookup_cons, beq_eq_false_iff_ne.2 out.1]

/-- A record is made of the entries that are written. -/
theorem ofEntries_written (distinct : r.fields.Distinct) (assigns : r.fields.Assigns vals a) :
    r.ofEntries (written vals) = .ok a := by
  have names : (vals.map Prod.fst).Nodup := assigns.names ▸ distinct.names
  obtain ⟨all, collected, values, -⟩ := collect_written (r := r) [] names
    (fun v mem j some => by
      obtain ⟨f, known, takes⟩ := assigns.pairs.2 v mem
      exact ⟨f, by rw [← takes.name]; exact find?_named known distinct, takes.name,
        takes.checked j some⟩)
    (fun _ _ => rfl)
  have complete : (r.missing? fun name => (all.lookup name).isSome) = none := by
    refine missing?_eq_none.2 fun f known required => ?_
    obtain ⟨v, mem, takes⟩ := assigns.pairs.1 f known
    rw [takes.name, values v mem]
    cases given : v.2 with
    | none => exact absurd required (takes.optional given)
    | some j => rfl
  exact ofEntries_eq_ok.2 ⟨all, collected, complete, assigns.build _ values⟩

end Record

namespace Tagged

theorem ofEntries_tagged {t : Tagged α} {tag : String} {payload : Payload α}
    {entries : List (String × Json)} (known : t.payload tag = .ok payload)
    (others : ∀ e ∈ entries, e.1 ≠ t.tag) :
    t.ofEntries ((t.tag, .string tag) :: entries) = payload.ofEntries entries := by
  have tags : ((t.tag, Json.string tag) :: entries).filter (·.1 == t.tag)
      = [(t.tag, .string tag)] := by
    rw [List.filter_cons_of_pos (by simp), List.filter_eq_nil_iff.2 (by simpa using others)]
  have rest : ((t.tag, Json.string tag) :: entries).filter (·.1 != t.tag) = entries := by
    rw [List.filter_cons_of_neg (by simp), List.filter_eq_self.2 (by simpa using others)]
  rw [ofEntries, tags]
  simp only [payloadOf, known, rest, bind, Except.bind]

end Tagged

end VisualNovel.Json
