import VisualNovel.Proofs.Json.Assembly

namespace VisualNovel.Json

variable {α β : Type}

theorem lookup_cons_of_ne {name other : String} {j : Json} {l : List (String × Json)}
    (h : other ≠ name) : ((name, j) :: l).lookup other = l.lookup other := by
  rw [List.lookup_cons, beq_eq_false_iff_ne.2 h]

theorem lookup_eq_none {name : String} {l : List (String × Json)} (h : name ∉ l.map Prod.fst) :
    l.lookup name = none :=
  Option.not_isSome_iff_eq_none.1 fun there => h (Dict.lookup_isSome_iff.1 there)

/-- In a list in which each name stands once the order is of no importance. -/
theorem lookup_perm {l l' : List (String × Json)} (perm : l.Perm l')
    (once : (l.map Prod.fst).Nodup) (name : String) : l.lookup name = l'.lookup name := by
  induction perm with
  | nil => rfl
  | cons e _ ih =>
    obtain ⟨key, j⟩ := e
    rw [List.lookup_cons, List.lookup_cons, ih (List.nodup_cons.1 once).2]
  | swap e e' l =>
    obtain ⟨key, j⟩ := e
    obtain ⟨key', j'⟩ := e'
    have other : key' ≠ key := fun same => (List.nodup_cons.1 once).1 (by simp [same])
    by_cases named : name = key
    · rw [named, lookup_cons_of_ne other.symm, List.lookup_cons_self, List.lookup_cons_self]
    · rw [lookup_cons_of_ne named, List.lookup_cons (a := name), lookup_cons_of_ne named,
        List.lookup_cons]
  | trans first _ ih ih' => rw [ih once, ih' ((first.map Prod.fst).nodup_iff.1 once)]

namespace Record

variable {r : Record α} {entries : List (String × Json)} {a : α}

def given (r : Record α) (entries : List (String × Json)) : List (String × Json) :=
  entries.filterMap fun e => (r.field? e.1).map fun f => (f.name, e.2)

theorem given_unknown {key : String} (unknown : r.field? key = none) (j : Json) :
    r.given ((key, j) :: entries) = r.given entries := by
  simp [given, unknown]

theorem given_known {key : String} {f : Field} (known : r.field? key = some f) (j : Json) :
    r.given ((key, j) :: entries) = (f.name, j) :: r.given entries := by
  simp [given, known]

def Checked (r : Record α) (entries : List (String × Json)) : Prop :=
  ∀ e ∈ entries, ∀ f, r.field? e.1 = some f → f.check e.2 = .ok ()

/-- A record collects each known field once, and checks it. -/
theorem collect_eq_ok (opened : r.closed = false) {found all : List (String × Json)} :
    r.collect found entries = .ok all ↔
      all = (r.given entries).reverse ++ found ∧ ((r.given entries).map Prod.fst).Nodup ∧
        (∀ e ∈ r.given entries, e.1 ∉ found.map Prod.fst) ∧ r.Checked entries := by
  induction entries generalizing found with
  | nil =>
    rw [collect]
    simp [given, Checked, eq_comm]
  | cons e entries ih =>
    obtain ⟨key, j⟩ := e
    rw [collect]
    cases known : r.field? key with
    | none =>
      have checks : r.Checked ((key, j) :: entries) ↔ r.Checked entries := by
        simp [Checked, known]
      simp only [opened, Bool.false_eq_true, if_false, ih, given_unknown known, checks]
    | some f =>
      have checks : r.Checked ((key, j) :: entries) ↔ f.check j = .ok () ∧ r.Checked entries := by
        simp [Checked, known]
      dsimp only
      rw [given_known known, checks]
      split
      · next old =>
        constructor
        · rintro ⟨⟩
        · rintro ⟨_, _, fresh, _⟩
          exact (fresh (f.name, j) (by simp) (Dict.lookup_isSome_iff.1 old)).elim
      · next new =>
        have new : f.name ∉ found.map Prod.fst := fun old => new (Dict.lookup_isSome_iff.2 old)
        have apart : (∀ e ∈ r.given entries, e.1 ∉ f.name :: found.map Prod.fst) ↔
            f.name ∉ (r.given entries).map Prod.fst ∧
              ∀ e ∈ r.given entries, e.1 ∉ found.map Prod.fst := by
          simp only [List.mem_cons, not_or, forall_and, List.mem_map, not_exists, not_and]
        rw [bind_eq_ok]
        simp only [ih, apart, List.map_cons, List.nodup_cons, List.forall_mem_cons, new,
          List.reverse_cons, List.append_assoc, List.singleton_append, not_false_eq_true, true_and]
        constructor
        · rintro ⟨_, checked, same, once, ⟨first, later⟩, rest⟩
          exact ⟨same, ⟨first, once⟩, later, checked, rest⟩
        · rintro ⟨same, ⟨first, once⟩, later, checked, rest⟩
          exact ⟨(), checked, same, once, ⟨first, later⟩, rest⟩

/-- What a record is made of: each of its fields is given once at most and passes its check, and
none that it needs is missing. -/
structure Reads (r : Record α) (entries : List (String × Json)) (a : α) : Prop where
  once : ((r.given entries).map Prod.fst).Nodup
  checked : r.Checked entries
  complete : ∀ f ∈ r.fields.known, f.presence = .required →
    ((r.given entries).lookup f.name).isSome = true
  made : r.fields.build ((r.given entries).lookup ·) = .ok a

theorem reads_iff (opened : r.closed = false) :
    r.ofEntries entries = .ok a ↔ r.Reads entries a := by
  have reverse (once : ((r.given entries).map Prod.fst).Nodup) :
      ((r.given entries).reverse.lookup ·) = ((r.given entries).lookup ·) :=
    funext fun name => (lookup_perm (List.reverse_perm _).symm once name).symm
  simp only [ofEntries_eq_ok, collect_eq_ok opened, missing?_eq_none, List.append_nil]
  constructor
  · rintro ⟨_, ⟨rfl, once, -, checked⟩, complete, made⟩
    have same := congrFun (reverse once)
    simp only [same] at complete made
    exact ⟨once, checked, complete, made⟩
  · rintro ⟨once, checked, complete, made⟩
    have same := congrFun (reverse once)
    refine ⟨_, ⟨rfl, once, by simp, checked⟩, ?_, ?_⟩
    · simpa only [same] using complete
    · simpa only [same] using made

end Record

/-- The fields in another order, with others of unknown names added, without some of those that can
be spared, and with something alike in the place of what a field holds. -/
inductive Rearranged (unknown spare : String → Prop) (alike : String → Json → Json → Prop) :
    List (String × Json) → List (String × Json) → Prop where
  | permuted {fields fields' : List (String × Json)} (perm : fields.Perm fields') :
      Rearranged unknown spare alike fields fields'
  | added {key : String} (h : unknown key) (j : Json) (fields : List (String × Json)) :
      Rearranged unknown spare alike fields ((key, j) :: fields)
  | omitted {key : String} (h : spare key) (j : Json) (fields : List (String × Json)) :
      Rearranged unknown spare alike ((key, j) :: fields) fields
  | inside {key : String} {j j' : Json} (h : alike key j j') (fields : List (String × Json)) :
      Rearranged unknown spare alike ((key, j) :: fields) ((key, j') :: fields)
  | trans {first second third : List (String × Json)}
      (h : Rearranged unknown spare alike first second)
      (h' : Rearranged unknown spare alike second third) :
      Rearranged unknown spare alike first third

/-- The decoder makes the same of values that are alike; if one lacks something, it makes something
of it. -/
def Decoder.Keeps (lax : Prop) (alike : Json → Json → Prop) (d : Decoder α) : Prop :=
  ∀ ⦃j j' a⦄, alike j j' → d.value j = .ok a → ∃ a', d.value j' = .ok a' ∧ (¬ lax → a' = a)

/-- What is found under the name of a field when an object is written another way. -/
inductive Field.Follows (lax : Prop) (alike : String → Json → Json → Prop) (f : Field) :
    Option Json → Option Json → Prop where
  | same (found : Option Json) : Follows lax alike f found found
  | alike {j j' : Json} (h : alike f.name j j') : Follows lax alike f (some j) (some j')
  | absent (h : lax) (spare : f.presence ≠ .required) (found : Option Json) :
      Follows lax alike f found none

structure Fields.Keeps (lax : Prop) (alike : String → Json → Json → Prop) (x : Fields α) :
    Prop where
  build : ∀ (look look' : String → Option Json) ⦃a⦄,
    (∀ f ∈ x.known, f.Follows lax alike (look f.name) (look' f.name)) → x.build look = .ok a →
      ∃ a', x.build look' = .ok a' ∧ (¬ lax → a' = a)
  check : ∀ f ∈ x.known, ∀ ⦃j j'⦄, alike f.name j j' → f.check j = .ok () → f.check j' = .ok ()

namespace Fields

variable {lax : Prop} {alike : String → Json → Json → Prop}

theorem keeps_pure (a : α) : Keeps lax alike (pure a) where
  build _ _ b _ made := ⟨b, made, fun _ => rfl⟩
  check f mem := by cases mem

theorem Keeps.seq {f : Fields (α → β)} {x : Fields α} (h : f.Keeps lax alike)
    (h' : x.Keeps lax alike) : Keeps lax alike (f <*> x) where
  build look look' b follows made := by
    obtain ⟨g, first, made⟩ := bind_eq_ok.1 made
    obtain ⟨a, second, same⟩ := bind_eq_ok.1 made
    cases same
    obtain ⟨g', first', sameFirst⟩ := h.build _ _
      (fun field mem => follows field (List.mem_append_left _ mem)) first
    obtain ⟨a', second', sameSecond⟩ := h'.build _ _
      (fun field mem => follows field (List.mem_append_right _ mem)) second
    refine ⟨g' a', bind_eq_ok.2 ⟨g', first', bind_eq_ok.2 ⟨a', second', rfl⟩⟩, fun strict => ?_⟩
    rw [sameFirst strict, sameSecond strict]
  check field mem := by
    obtain first | second := List.mem_append.1 mem
    · exact h.check field first
    · exact h'.check field second

theorem Keeps.map {x : Fields α} (h : x.Keeps lax alike) (g : α → β) : Keeps lax alike (g <$> x) :=
  (keeps_pure g).seq h

theorem keeps_one {d : Decoder α} {name : String} {aliases : List String} {presence : Presence}
    {absent : Except Cause α} (keeps : d.Keeps lax (alike name))
    (spare : presence ≠ .required → ∃ a, absent = .ok a) :
    (one name aliases presence d absent).Keeps lax alike where
  build look look' a follows made := by
    have follows := follows _ (List.mem_singleton_self _)
    simp only [one] at made follows ⊢
    generalize look name = found at *
    generalize look' name = found' at *
    cases follows with
    | same => exact ⟨a, made, fun _ => rfl⟩
    | alike h => exact keeps h made
    | absent h without =>
      obtain ⟨a', missing⟩ := spare without
      exact ⟨a', missing, fun strict => (strict h).elim⟩
  check f mem j j' h checked := by
    cases List.mem_singleton.1 mem
    obtain ⟨a, value, -⟩ := bind_eq_ok.1 checked
    obtain ⟨a', value', -⟩ := keeps h value
    exact bind_eq_ok.2 ⟨a', value', rfl⟩

end Fields

namespace Record

variable {r : Record α} {lax : Prop} {alike : String → Json → Json → Prop}
  {fields fields' : List (String × Json)} {a : α}

/-- The field of the name can be left out, if there is one. -/
def Spares (r : Record α) (key : String) : Prop :=
  ∀ f, r.field? key = some f → f.presence ≠ .required

/-- Another way to write the object of a record. Fields that are not required are left out only by
the lax. -/
def Rearranged (r : Record α) (lax : Prop) (alike : String → Json → Json → Prop) :
    List (String × Json) → List (String × Json) → Prop :=
  Json.Rearranged (r.field? · = none) (fun key => lax ∧ r.Spares key)
    fun key j j' => ∃ f, r.field? key = some f ∧ alike f.name j j'

theorem Reads.perm (h : r.Reads fields a) (perm : fields.Perm fields') : r.Reads fields' a := by
  have given : (r.given fields).Perm (r.given fields') := perm.filterMap _
  have same := lookup_perm given h.once
  refine ⟨(given.map Prod.fst).nodup_iff.1 h.once, fun e mem => h.checked e (perm.mem_iff.2 mem),
    ?_, ?_⟩
  · simpa only [same] using h.complete
  · simpa only [same] using h.made

theorem Reads.added {key : String} (h : r.Reads fields a) (unknown : r.field? key = none)
    (j : Json) : r.Reads ((key, j) :: fields) a := by
  refine ⟨?_, List.forall_mem_cons.2 ⟨by simp [unknown], h.checked⟩, ?_, ?_⟩
  · simpa only [given_unknown unknown] using h.once
  · simpa only [given_unknown unknown] using h.complete
  · simpa only [given_unknown unknown] using h.made

theorem Reads.omitted {key : String} {j : Json} (h : r.Reads ((key, j) :: fields) a)
    (keeps : r.fields.Keeps lax alike) (distinct : r.fields.Distinct) (spares : r.Spares key)
    (allowed : lax) : ∃ a', r.Reads fields a' := by
  have checked : r.Checked fields := (List.forall_mem_cons.1 h.checked).2
  cases known : r.field? key with
  | none =>
    obtain ⟨once, -, complete, made⟩ := h
    rw [given_unknown known] at once complete made
    exact ⟨a, once, checked, complete, made⟩
  | some f =>
    obtain ⟨once, -, complete, made⟩ := h
    rw [given_known known] at once complete made
    obtain ⟨new, once⟩ := List.nodup_cons.1 once
    have new : f.name ∉ (r.given fields).map Prod.fst := new
    -- no other field has the name of the one that is left out
    have spare (g : Field) (mem : g ∈ r.fields.known) (named : g.name = f.name) :
        g.presence ≠ .required := by
      have same : g = f :=
        List.inj_on_of_nodup_map distinct.names mem (List.mem_of_find?_eq_some known) named
      exact same ▸ spares f known
    have follows : ∀ g ∈ r.fields.known, g.Follows lax alike
        (((f.name, j) :: r.given fields).lookup g.name) ((r.given fields).lookup g.name) := by
      intro g mem
      by_cases named : g.name = f.name
      · rw [named, lookup_eq_none new]
        exact .absent allowed (spare g mem named) _
      · rw [lookup_cons_of_ne named]
        exact .same _
    obtain ⟨a', made', -⟩ := keeps.build _ ((r.given fields).lookup ·) follows made
    refine ⟨a', once, checked, fun g mem required => ?_, made'⟩
    have there := complete g mem required
    rwa [lookup_cons_of_ne fun named => spare g mem named required] at there

theorem Reads.inside {key : String} {j j' : Json} (h : r.Reads ((key, j) :: fields) a)
    (keeps : r.fields.Keeps lax alike) {f : Field} (known : r.field? key = some f)
    (same : alike f.name j j') : ∃ a', r.Reads ((key, j') :: fields) a' ∧ (¬ lax → a' = a) := by
  obtain ⟨once, checked, complete, made⟩ := h
  obtain ⟨first, later⟩ := List.forall_mem_cons.1 checked
  rw [given_known known] at once complete made
  have follows : ∀ g ∈ r.fields.known, g.Follows lax alike
      (((f.name, j) :: r.given fields).lookup g.name)
      (((f.name, j') :: r.given fields).lookup g.name) := by
    intro g mem
    by_cases named : g.name = f.name
    · rw [named, List.lookup_cons_self, List.lookup_cons_self]
      exact .alike (named ▸ same)
    · rw [lookup_cons_of_ne named, lookup_cons_of_ne named]
      exact .same _
  obtain ⟨a', made', strict⟩ :=
    keeps.build _ (((f.name, j') :: r.given fields).lookup ·) follows made
  refine ⟨a', ⟨?_, List.forall_mem_cons.2 ⟨fun g known' => ?_, later⟩, fun g mem required => ?_,
    ?_⟩, strict⟩
  · rw [given_known known]
    exact once
  · obtain rfl : f = g := Option.some.inj (known.symm.trans known')
    exact keeps.check f (List.mem_of_find?_eq_some known) same (first f known)
  · have there := complete g mem required
    rw [given_known known]
    by_cases named : g.name = f.name
    · rw [named, List.lookup_cons_self]
      rfl
    · rwa [lookup_cons_of_ne named] at there ⊢
  · rw [given_known known]
    exact made'

/-- What has to be known of a record for that its objects can be written another way. -/
structure Keeps (r : Record α) (lax : Prop) (alike : String → Json → Json → Prop) : Prop where
  opened : r.closed = false
  distinct : r.fields.Distinct
  fields : r.fields.Keeps lax alike

theorem Keeps.map {β : Type} (keeps : r.Keeps lax alike) (f : α → β) :
    (r.map f).Keeps lax alike :=
  ⟨keeps.opened, keeps.distinct, keeps.fields.map f⟩

theorem Keeps.reads (keeps : r.Keeps lax alike) (h : r.Rearranged lax alike fields fields')
    (reads : r.Reads fields a) : ∃ a', r.Reads fields' a' ∧ (¬ lax → a' = a) := by
  unfold Record.Rearranged at h
  induction h generalizing a with
  | permuted perm => exact ⟨a, reads.perm perm, fun _ => rfl⟩
  | added unknown j => exact ⟨a, reads.added unknown j, fun _ => rfl⟩
  | omitted spare =>
    obtain ⟨a', reads⟩ := reads.omitted keeps.fields keeps.distinct spare.2 spare.1
    exact ⟨a', reads, fun strict => (strict spare.1).elim⟩
  | inside h =>
    obtain ⟨f, known, same⟩ := h
    exact reads.inside keeps.fields known same
  | trans _ _ ih ih' =>
    obtain ⟨b, reads, same⟩ := ih reads
    obtain ⟨c, reads, same'⟩ := ih' reads
    exact ⟨c, reads, fun strict => (same' strict).trans (same strict)⟩

/-- A record is made of an object that is written another way, and the same one unless something was
left out. -/
theorem Keeps.ofEntries (keeps : r.Keeps lax alike) (h : r.Rearranged lax alike fields fields')
    (made : r.ofEntries fields = .ok a) :
    ∃ a', r.ofEntries fields' = .ok a' ∧ (¬ lax → a' = a) := by
  obtain ⟨a', reads, same⟩ := keeps.reads h ((reads_iff keeps.opened).1 made)
  exact ⟨a', (reads_iff keeps.opened).2 reads, same⟩

end Record

/-- Objects whose fields are so related. -/
def Objects (related : List (String × Json) → List (String × Json) → Prop) (j j' : Json) : Prop :=
  ∃ fields fields', j = .object fields ∧ j' = .object fields' ∧ related fields fields'

/-- Arrays that differ in one element, which is so related. -/
def Elements (related : Json → Json → Prop) (j j' : Json) : Prop :=
  ∃ before item item' after, j = .array (before ++ item :: after) ∧
    j' = .array (before ++ item' :: after) ∧ related item item'

theorem Record.Keeps.decoder {r : Record α} {lax : Prop} {alike : String → Json → Json → Prop}
    (keeps : r.Keeps lax alike) : r.decoder.Keeps lax (Objects (r.Rearranged lax alike)) := by
  rintro _ _ a ⟨fields, fields', rfl, rfl, h⟩ made
  exact keeps.ofEntries h made

theorem Decoder.Keeps.list {d : Decoder α} {lax : Prop} {alike : Json → Json → Prop}
    (keeps : d.Keeps lax alike) : d.list.Keeps lax (Elements alike) := by
  rintro _ _ as ⟨before, item, item', after, rfl, rfl, h⟩ made
  have made : (before ++ item :: after).mapM d.value = .ok as := made
  rw [mapM_eq_ok, List.map_append, List.map_cons] at made
  obtain ⟨first, rest, rfl, firsts, made⟩ := List.map_eq_append_iff.1 made.symm
  obtain ⟨a, later, rfl, value, laters⟩ := List.map_eq_cons_iff.1 made
  obtain ⟨a', value', same⟩ := keeps h value.symm
  refine ⟨first ++ a' :: later, ?_, fun strict => by rw [same strict]⟩
  change (before ++ item' :: after).mapM d.value = _
  rw [mapM_eq_ok, List.map_append, List.map_cons, value', ← firsts, ← laters, List.map_append,
    List.map_cons]

namespace Rearranged

variable {unknown spare : String → Prop} {alike : String → Json → Json → Prop}
  {fields fields' : List (String × Json)}

theorem refl (fields : List (String × Json)) : Rearranged unknown spare alike fields fields :=
  .permuted (.refl _)

theorem mono {unknown' spare' : String → Prop} {alike' : String → Json → Json → Prop}
    (h : Rearranged unknown spare alike fields fields') (less : ∀ key, unknown key → unknown' key)
    (spared : ∀ key, spare key → spare' key)
    (similar : ∀ key j j', alike key j j' → alike' key j j') :
    Rearranged unknown' spare' alike' fields fields' := by
  induction h with
  | permuted perm => exact .permuted perm
  | added h j fields => exact .added (less _ h) j fields
  | omitted h j fields => exact .omitted (spared _ h) j fields
  | inside h fields => exact .inside (similar _ _ _ h) fields
  | trans _ _ ih ih' => exact .trans ih ih'

theorem filter (keep : String → Bool) (h : Rearranged unknown spare alike fields fields') :
    Rearranged unknown spare alike (fields.filter (keep ·.1)) (fields'.filter (keep ·.1)) := by
  induction h with
  | permuted perm => exact .permuted (perm.filter _)
  | @added key h j fields =>
    cases kept : keep key with
    | true => simpa only [List.filter_cons, kept, if_true] using .added h j _
    | false => simpa only [List.filter_cons, kept, Bool.false_eq_true, if_false] using .refl _
  | @omitted key h j fields =>
    cases kept : keep key with
    | true => simpa only [List.filter_cons, kept, if_true] using .omitted h j _
    | false => simpa only [List.filter_cons, kept, Bool.false_eq_true, if_false] using .refl _
  | @inside key j j' h fields =>
    cases kept : keep key with
    | true => simpa only [List.filter_cons, kept, if_true] using .inside h _
    | false => simpa only [List.filter_cons, kept, Bool.false_eq_true, if_false] using .refl _
  | trans _ _ ih ih' => exact .trans ih ih'

/-- Fields with which nothing can be done stay as they are. -/
theorem filter_perm (keep : String → Bool) (h : Rearranged unknown spare alike fields fields')
    (less : ∀ key, unknown key → keep key = false) (spared : ∀ key, spare key → keep key = false)
    (similar : ∀ key j j', alike key j j' → keep key = false) :
    (fields.filter (keep ·.1)).Perm (fields'.filter (keep ·.1)) := by
  induction h with
  | permuted perm => exact perm.filter _
  | added h j fields => simp [less _ h]
  | omitted h j fields => simp [spared _ h]
  | inside h fields => simp [similar _ _ _ h]
  | trans _ _ ih ih' => exact ih.trans ih'

end Rearranged

def Payload.field? : Payload α → String → Option Field
  | .unit _, _ => none
  | .record r, key => r.field? key

namespace Tagged

variable {t : Tagged α} {lax : Prop} {alike : String → String → Json → Json → Prop}
  {fields fields' : List (String × Json)} {a : α}

/-- Another way to write a tagged object. The tag may change its place, and what else is known
depends on it. -/
def Rearranged (t : Tagged α) (lax : Prop) (alike : String → String → Json → Json → Prop)
    (fields fields' : List (String × Json)) : Prop :=
  ∀ tag payload, (t.tag, .string tag) ∈ fields → t.payload tag = .ok payload →
    Json.Rearranged (fun key => key ≠ t.tag ∧ payload.field? key = none)
      (fun key => lax ∧ key ≠ t.tag ∧ ∀ f, payload.field? key = some f → f.presence ≠ .required)
      (fun key j j' => key ≠ t.tag ∧ ∃ f, payload.field? key = some f ∧ alike tag f.name j j')
      fields fields'

/-- Whatever is made of a tagged object, it has a tag that is known. -/
theorem tagged_of_ofEntries (made : t.ofEntries fields = .ok a) :
    ∃ tag payload, (t.tag, .string tag) ∈ fields ∧ t.payload tag = .ok payload := by
  rw [ofEntries] at made
  split at made
  · cases made
  · next key j single =>
    obtain ⟨payload, known, -⟩ := bind_eq_ok.1 made
    have inside : (key, j) ∈ fields.filter (·.1 == t.tag) := single ▸ List.mem_singleton_self _
    obtain ⟨mem, named⟩ := List.mem_filter.1 inside
    obtain rfl : key = t.tag := beq_iff_eq.1 named
    cases j with
    | string tag => exact ⟨tag, payload, mem, known⟩
    | null | bool | number | array | object => cases known
  · cases made

/-- A tagged object is read as its payload is. -/
theorem ofEntries_eq_ok {tag : String} (tagged : (t.tag, .string tag) ∈ fields)
    {payload : Payload α} (known : t.payload tag = .ok payload) :
    t.ofEntries fields = .ok a ↔ fields.filter (·.1 == t.tag) = [(t.tag, .string tag)] ∧
      payload.ofEntries (fields.filter (·.1 != t.tag)) = .ok a := by
  have tagged : (t.tag, .string tag) ∈ fields.filter (·.1 == t.tag) :=
    List.mem_filter.2 ⟨tagged, by simp⟩
  have known : t.payloadOf (.string tag) = .ok payload := known
  rw [ofEntries]
  generalize fields.filter (·.1 == t.tag) = tags at tagged
  rcases tags with _ | ⟨⟨key, j⟩, _ | ⟨second, rest⟩⟩
  · cases tagged
  · cases List.mem_singleton.1 tagged
    simp [known, bind, Except.bind]
  · simp

theorem ofEntries_rearranged
    (keeps : ∀ tag r, t.payload tag = .ok (.record r) → r.Keeps lax (alike tag))
    (h : t.Rearranged lax alike fields fields') (made : t.ofEntries fields = .ok a) :
    ∃ a', t.ofEntries fields' = .ok a' ∧ (¬ lax → a' = a) := by
  obtain ⟨tag, payload, tagged, known⟩ := tagged_of_ofEntries made
  have h := h tag payload tagged known
  obtain ⟨single, made⟩ := (ofEntries_eq_ok tagged known).1 made
  -- the tag is the only field that has to stay as it is
  have tags := h.filter_perm (· == t.tag) (fun _ h => beq_eq_false_iff_ne.2 h.1)
    (fun _ h => beq_eq_false_iff_ne.2 h.2.1) (fun _ _ _ h => beq_eq_false_iff_ne.2 h.1)
  rw [single, List.singleton_perm] at tags
  have tagged' : (t.tag, .string tag) ∈ fields' :=
    List.mem_of_mem_filter (tags ▸ List.mem_singleton_self _)
  have others := h.filter (· != t.tag)
  simp only [ofEntries_eq_ok tagged' known, tags, true_and]
  cases payload with
  | unit b => exact ⟨a, made, fun _ => rfl⟩
  | record r =>
    refine (keeps tag r known).ofEntries (others.mono ?_ ?_ ?_) made
    · exact fun _ h => h.2
    · exact fun _ h => ⟨h.1, h.2.2⟩
    · exact fun _ _ _ h => h.2

end Tagged

end VisualNovel.Json
