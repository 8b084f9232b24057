import VisualNovel.Proofs.Json.Made
import VisualNovel.Proofs.Json.Spelled
import VisualNovel.Proofs.Storage.Tolerant

namespace VisualNovel

open Json (Cause Decoder Encode Fields Presence Record encode field present)

namespace Json

variable {α : Type} {default : String → Option Json} {name missing : String}

/-- Of these names the object has the default for the missing one, and of others it has nothing. -/
def Falls (default : String → Option Json) (missing : String) (names : List String) (j : Json) :
    Prop :=
  j.field? missing = if missing ∈ names then default missing else none

theorem Falls.append {names names' : List String} {l l' : List (String × Json)}
    (h : Falls default missing names (.object l)) (h' : Falls default missing names' (.object l')) :
    Falls default missing (names ++ names') (.object (l ++ l')) := by
  have h : l.lookup missing = if missing ∈ names then default missing else none := h
  have h' : l'.lookup missing = if missing ∈ names' then default missing else none := h'
  change (l ++ l').lookup missing = _
  rw [List.lookup_append, h, h']
  by_cases first : missing ∈ names <;> by_cases second : missing ∈ names' <;> simp [first, second]

theorem falls_none (h : default name = none) : Falls default missing [name] (.object []) := by
  change none = _
  by_cases same : missing = name <;> simp [same, h]

theorem falls_field [Encode α] {a : α} (h : name = missing → default name = some (encode a)) :
    Falls default missing [name] (.object (field name a)) := by
  change (field name a).lookup missing = _
  by_cases same : missing = name
  · rw [if_pos (by simp [same]), same, h same.symm, field, List.lookup_cons_self]
  · rw [if_neg (by simpa using same), field, lookup_cons_of_ne same]
    rfl

namespace Fields

variable {d : Decoder α} {aliases : List String} {presence : Presence} {absent : Except Cause α}
  {a : α}

/-- The fields are made without one of that name. -/
abbrev MakesWithout (x : Fields α) (missing : String) (P : α → Prop) : Prop :=
  x.Makes (fun given _ => given ≠ missing) P

theorem Makes.mono {x : Fields α} {Q : String → Json → Prop} {P R : α → Prop} (h : x.Makes Q P)
    (imp : ∀ a, P a → R a) : x.Makes Q R := fun _ _ within made => imp _ (h within made)

theorem makes_absent : (one name aliases presence d absent).MakesWithout missing fun a =>
    name = missing → absent = .ok a := by
  rintro look a within made rfl
  simp only [one] at made
  cases found : look name with
  | none => rwa [found] at made
  | some j => exact (within name j found rfl).elim

theorem falls_needed [Encode α] {cause : Cause} :
    (one name aliases presence d (.error cause)).MakesWithout missing fun a =>
      Falls default missing [name] (.object (field name a)) :=
  makes_absent.mono fun _ absent => falls_field fun same => nomatch absent same

theorem falls_defaulted [Encode α] (h : default name = some (encode a)) :
    (one name aliases presence d (.ok a)).MakesWithout missing fun a =>
      Falls default missing [name] (.object (field name a)) :=
  makes_absent.mono fun _ absent => falls_field fun same => Except.ok.inj (absent same) ▸ h

theorem falls_optional [Encode α] {d : Decoder (Option α)} (h : default name = none) :
    (one name aliases presence d (.ok none)).MakesWithout missing fun o =>
      Falls default missing [name] (.object (present name o)) := by
  refine makes_absent.mono fun o absent => ?_
  cases o with
  | none => exact falls_none h
  | some a => exact falls_field fun same => nomatch absent same

theorem falls_flag {d : Decoder Bool} (h : default name = none) :
    (one name aliases presence d (.ok false)).MakesWithout missing fun b =>
      Falls default missing [name] (.object (if b then field name true else [])) := by
  refine makes_absent.mono fun b absent => ?_
  cases b with
  | false => exact falls_none h
  | true => exact falls_field fun same => nomatch absent same

end Fields

namespace Record

variable {r : Record α} {fields : List (String × Json)} {a : α}

/-- What was made has the defaults in the place of the fields that are not among the given ones,
under whichever of their names. -/
def FallsBack (r : Record α) (default : String → Option Json) (fields : List (String × Json))
    (made : Json) : Prop :=
  ∀ f ∈ r.fields.known, (∀ e ∈ fields, f.isNamed e.1 = false) → made.field? f.name = default f.name

theorem mem_given {name : String} {j : Json} (mem : (name, j) ∈ r.given fields) :
    ∃ e ∈ fields, ∃ f, r.field? e.1 = some f ∧ f.name = name ∧ e.2 = j := by
  obtain ⟨e, inside, same⟩ := List.mem_filterMap.1 mem
  obtain ⟨f, known, same⟩ := Option.map_eq_some_iff.1 same
  cases same
  exact ⟨e, inside, f, known, rfl, rfl⟩

theorem Reads.eq_of_lookup (h : r.Reads fields a) (distinct : r.fields.Distinct) {j j' : Json}
    (mem : (name, j') ∈ fields) (found : (r.given fields).lookup name = some j) : j = j' := by
  have there := mem_of_lookup found
  obtain ⟨e, -, f, known, rfl, -⟩ := mem_given there
  have known : r.field? f.name = some f :=
    find?_named (List.mem_of_find?_eq_some known) distinct
  have given : (f.name, j') ∈ r.given fields :=
    List.mem_filterMap.2 ⟨_, mem, by rw [known]; rfl⟩
  exact congrArg Prod.snd (List.inj_on_of_nodup_map h.once there given rfl)

theorem Reads.fallsBack (h : r.Reads fields a) (distinct : r.fields.Distinct)
    {default : String → Option Json} {view : α → Json}
    (makes : ∀ missing ∈ r.names, r.fields.MakesWithout missing fun a =>
      (view a).field? missing = default missing) : r.FallsBack default fields (view a) := by
  intro f known absent
  refine makes f.name (List.mem_map_of_mem known) (fun name j found named => ?_) h.made
  obtain ⟨e, mem, g, known', same, -⟩ := mem_given (mem_of_lookup found)
  have same : g = f := List.inj_on_of_nodup_map distinct.names
    (List.mem_of_find?_eq_some known') known (same.trans named)
  have found : r.fields.known.find? (·.isNamed e.1) = some f := same ▸ known'
  have given : f.isNamed e.1 = true := by simpa using List.find?_some found
  rw [absent e mem] at given
  cases given

theorem Keeps.fallsBack {lax : Prop} {alike : String → Json → Json → Prop}
    (keeps : r.Keeps lax alike) {default : String → Option Json} {view : α → Json}
    (falls : ∀ missing, r.fields.MakesWithout missing fun a =>
      Falls default missing r.names (view a))
    (made : r.ofEntries fields = .ok a) : r.FallsBack default fields (view a) :=
  ((reads_iff keeps.opened).1 made).fallsBack keeps.distinct fun missing known =>
    (falls missing).mono fun _ h => h.trans (if_pos known)

theorem Reads.makes (h : r.Reads fields a) (distinct : r.fields.Distinct) {j : Json}
    (mem : (name, j) ∈ fields) {P : α → Prop}
    (makes : r.fields.Makes (fun given j' => given = name → j' = j) P) : P a :=
  makes (fun _ _ found named => h.eq_of_lookup distinct (named ▸ mem) found) h.made

end Record

theorem Fields.makes_inner {n : Record α} {aliases : List String} {presence : Presence} {a : α}
    {inner : List (String × Json)} :
    (one name aliases presence n.decoder (.ok a)).Makes
      (fun given j => given = name → j = .object inner) fun b => b = a ∨ n.ofEntries inner = .ok b := by
  refine makes_one (fun j b told made => .inr ?_) fun b absent => .inl (Except.ok.inj absent).symm
  cases told rfl
  exact made

theorem Record.Keeps.fallsBack_inner [Encode α] {n : Record α} {lax : Prop}
    {alike : String → Json → Json → Prop} (keeps : n.Keeps lax alike) {a b : α}
    (falls : ∀ missing, n.fields.MakesWithout missing fun b =>
      Falls ((encode a).field? ·) missing n.names (encode b)) {inner : List (String × Json)}
    (h : b = a ∨ n.ofEntries inner = .ok b) :
    n.FallsBack ((encode a).field? ·) inner (encode b) := by
  obtain rfl | made := h
  · exact fun _ _ _ => rfl
  · exact keeps.fallsBack falls made

/-- A decoder that accepts an object takes no notice of how it is written. What is not given falls
back. Every text of a certain form is accepted too, and stands for the same, if its object has the
same fields in another order, and others of no meaning; and it is accepted if fields are left out
that are not required. -/
def Decoder.Indifferent (d : Decoder α) (form : Node → Prop)
    (rearranged : Prop → List (String × Json) → List (String × Json) → Prop)
    (fallsBack : List (String × Json) → α → Prop) : Prop :=
  ∀ ⦃text fields a⦄, d.decode text = .ok a → (Document.ofText text).root.meaning = .object fields →
    fallsBack fields a ∧ ∀ changed fields', Tells form changed fields' →
      (rearranged False fields fields' → d.decode changed = .ok a) ∧
        (rearranged True fields fields' → ∃ b, d.decode changed = .ok b)

theorem Decoder.Indifferent.of_keeps {d : Decoder α} {form : Node → Prop}
    {rearranged : Prop → List (String × Json) → List (String × Json) → Prop}
    {fallsBack : List (String × Json) → α → Prop}
    (accepts : ∀ node a, form node → d.value node.meaning = .ok a →
      d.inspect greatestDepth node = .ok ())
    (keeps : ∀ lax, d.Keeps lax (Objects (rearranged lax)))
    (falls : ∀ fields a, d.value (.object fields) = .ok a → fallsBack fields a) :
    d.Indifferent form rearranged fallsBack := by
  intro text fields a accepted meaning
  obtain ⟨-, -, value⟩ := Decoder.decode_eq_ok.1 accepted
  rw [meaning] at value
  refine ⟨falls fields a value, fun changed fields' tells => ⟨fun h => ?_, fun h => ?_⟩⟩
  · obtain ⟨b, value', same⟩ := keeps False ⟨_, _, rfl, rfl, h⟩ value
    obtain rfl := same id
    exact tells.decode accepts value'
  · obtain ⟨b, value', -⟩ := keeps True ⟨_, _, rfl, rfl, h⟩ value
    exact ⟨b, tells.decode accepts value'⟩

end Json

open Json (Document Falls Node Tells greatestDepth)
open Json.Fields (falls_defaulted falls_flag falls_needed falls_optional makes_inner makes_one
  makes_true)

variable {missing : String}

theorem GateLayout.falls : record.fields.MakesWithout missing fun l =>
    Falls ((encode (default : GateLayout Float32)).field? ·) missing record.names (encode l) :=
  .seq (.seq (.seq (.seq (.seq (.seq (.seq (.map ((falls_defaulted rfl).mono
    fun _ ha _ hb _ hc _ hd _ he _ hf _ hg _ hh =>
      ((((((ha.append hb).append hc).append hd).append he).append hf).append hg).append hh))
    (falls_defaulted rfl)) (falls_defaulted rfl)) (falls_defaulted rfl)) (falls_defaulted rfl))
    (falls_defaulted rfl)) (falls_defaulted rfl)) (falls_defaulted rfl)

theorem Config.falls : record.fields.MakesWithout missing fun c =>
    Falls ((encode default).field? ·) missing record.names (encode c) :=
  .seq (.seq (.seq (.seq (.seq (.map ((falls_defaulted rfl).mono
    fun _ ha _ hb _ hc _ hd _ he _ hf => ((((ha.append hb).append hc).append hd).append he).append hf)) (falls_defaulted rfl))
    (falls_defaulted rfl)) (falls_defaulted rfl)) (falls_defaulted rfl)) (falls_defaulted rfl)

namespace Lint

theorem ReferencesConfig.falls : record.fields.MakesWithout missing fun c =>
    Falls ((encode ({} : ReferencesConfig)).field? ·) missing record.names (encode c) :=
  .seq (.seq (.map ((falls_defaulted rfl).mono fun _ ha _ hb _ hc => (ha.append hb).append hc))
    (falls_defaulted rfl)) (falls_defaulted rfl)

theorem QualityConfig.falls : record.fields.MakesWithout missing fun c =>
    Falls ((encode ({} : QualityConfig)).field? ·) missing record.names (encode c) :=
  .seq (.map ((falls_defaulted rfl).mono fun _ ha _ hb => ha.append hb)) (falls_defaulted rfl)

theorem FlowConfig.falls : record.fields.MakesWithout missing fun c =>
    Falls ((encode ({} : FlowConfig)).field? ·) missing record.names (encode c) :=
  .seq (.seq (.map ((falls_defaulted rfl).mono fun _ ha _ hb _ hc => (ha.append hb).append hc))
    (falls_defaulted rfl)) (falls_defaulted rfl)

theorem Config.falls : record.fields.MakesWithout missing fun c =>
    Falls ((encode ({} : Config)).field? ·) missing record.names (encode c) :=
  .seq (.seq (.map ((falls_defaulted rfl).mono fun _ ha _ hb _ hc => (ha.append hb).append hc))
    (falls_defaulted rfl)) (falls_defaulted rfl)

end Lint

/-- What an event has in the place of a field that is not given, if anything. -/
def Event.default? : String → Option Json
  | "minSelect" => some (encode 0)
  | "shuffle" | "loop" => some (encode false)
  | _ => none

open Event (default?)

theorem MultiChoice.falls : record.fields.MakesWithout missing fun c =>
    Falls default? missing record.names (encode c) :=
  .seq (.seq (.seq (.map (falls_needed.mono fun _ ha _ hb _ hc _ hd =>
    ((ha.append hb).append hc).append hd)) falls_needed) (falls_flag rfl)) (falls_optional rfl)

theorem MultiChoiceSet.falls : record.fields.MakesWithout missing fun s =>
    Falls default? missing record.names (.object s.fields) :=
  .seq (.seq (.seq (.seq (.seq (.map (falls_needed.mono fun _ ha _ hb _ hc _ hd _ he _ hf =>
    ((((ha.append hb).append hc).append hd).append he).append hf)) falls_needed) falls_needed)
    (falls_defaulted rfl)) (falls_optional rfl)) (falls_defaulted rfl)

theorem DialogLine.falls : record.fields.MakesWithout missing fun l =>
    Falls default? missing record.names (.object l.fields) :=
  .seq (.seq (.seq (.seq (.seq (.map (falls_needed.mono fun _ ha _ hb _ hc _ hd _ he _ hf =>
    ((((ha.append hb).append hc).append hd).append he).append hf)) (falls_optional rfl))
    (falls_optional rfl)) (falls_optional rfl)) (falls_optional rfl)) (falls_optional rfl)

theorem Image.falls : spec.MakesWithout missing fun i =>
    Falls default? missing (spec.known.map Json.Field.name) (.object i.fields) :=
  .seq (.seq (.map (falls_needed.mono fun _ ha _ hb _ hc => (ha.append hb).append hc))
    (falls_optional rfl)) (falls_optional rfl)

theorem Background.falls : record.fields.MakesWithout missing fun b =>
    Falls default? missing record.names (.object b.fields) :=
  .seq (.map (Image.falls.mono fun _ ha _ hb => ha.append hb)) (falls_optional rfl)

theorem WebLink.falls : record.fields.MakesWithout missing fun l =>
    Falls default? missing record.names (.object l.fields) :=
  .seq (.seq (.map (falls_needed.mono fun _ ha _ hb _ hc => (ha.append hb).append hc))
    (falls_optional rfl)) (falls_optional rfl)

theorem SceneJump.falls : record.fields.MakesWithout missing fun j =>
    Falls default? missing record.names (.object j.fields) :=
  .seq (.map (falls_needed.mono fun _ ha _ hb => ha.append hb)) (falls_optional rfl)

theorem SoundCue.falls : record.fields.MakesWithout missing fun c =>
    Falls default? missing record.names (.object (field "key" c.key ++ field "loop" c.looping)) :=
  .seq (.map (falls_needed.mono fun _ ha _ hb => ha.append hb)) (falls_defaulted rfl)

namespace Event

/-- Beside the tag an event is written as its payload. -/
theorem falls_tagged {names : List String} (apart : "event" ∉ names) {tag : String}
    {l : List (String × Json)} (known : missing ∈ names)
    (falls : Falls default? missing names (.object l)) :
    (Json.object (field "event" tag ++ l)).field? missing = default? missing := by
  have falls : l.lookup missing = if missing ∈ names then default? missing else none := falls
  have other : missing ≠ "event" := fun same => apart (same ▸ known)
  change (("event", encode tag) :: l).lookup missing = _
  rw [Json.lookup_cons_of_ne other, falls, if_pos known]

theorem makes_without (tag : String) {r : Record Event} (payload : payload tag = .record r)
    (known : missing ∈ r.names) :
    r.fields.MakesWithout missing fun e => (encode e).field? missing = default? missing := by
  unfold Event.payload at payload
  split at payload
  all_goals cases payload
  · exact .map (DialogLine.falls.mono fun _ => falls_tagged (by decide) known)
  · exact .map (Background.falls.mono fun _ => falls_tagged (by decide) known)
  · exact .map (Image.falls.mono fun _ => falls_tagged (by decide) known)
  · exact .map (Image.falls.mono fun _ => falls_tagged (by decide) known)
  · exact .map (falls_needed.mono fun _ => falls_tagged (by decide) known)
  · exact .map (SceneJump.falls.mono fun _ => falls_tagged (by decide) known)
  · exact .map (falls_needed.mono fun _ => falls_tagged (by decide) known)
  · exact .map (MultiChoiceSet.falls.mono fun _ => falls_tagged (by decide) known)
  · exact .map (WebLink.falls.mono fun _ => falls_tagged (by decide) known)
  · exact .map (SoundCue.falls.mono fun _ => falls_tagged (by decide) known)
  · exact .map (falls_needed.mono fun _ => falls_tagged (by decide) known)

end Event

/-- The settings that are not given, and the measures that are not, are those of the default. -/
structure Config.FallsBack (fields : List (String × Json)) (c : Config) : Prop where
  settings : record.FallsBack ((encode default).field? ·) fields (encode c)
  layout : ∀ inner, ("layout", .object inner) ∈ fields →
    GateLayout.record.FallsBack ((encode default.layout).field? ·) inner (encode c.layout)

theorem Config.fallsBack {fields : List (String × Json)} {c : Config}
    (made : record.ofEntries fields = .ok c) : c.FallsBack fields := by
  have keeps : record.Keeps False (Alike False) := keeps
  have layout : GateLayout.record.Keeps False fun _ => Json.never := GateLayout.keeps
  refine ⟨keeps.fallsBack (fun _ => falls) made, fun inner mem => ?_⟩
  have inside : record.fields.Makes (fun given j => given = "layout" → j = .object inner)
      fun c => c.layout = .default ∨ GateLayout.record.ofEntries inner = .ok c.layout :=
    .seq (.seq (.seq (.seq (.seq (.map ((makes_true _).mono fun _ _ _ _ _ _ _ _ _ h _ _ => h))
      (makes_true _)) (makes_true _)) (makes_true _)) makes_inner) (makes_true _)
  exact layout.fallsBack_inner (fun _ => GateLayout.falls)
    (((Json.Record.reads_iff keeps.opened).1 made).makes keeps.distinct mem inside)

namespace Lint

/-- The checks that are not given, and their settings that are not, are those of the default. -/
structure Config.FallsBack (fields : List (String × Json)) (c : Config) : Prop where
  parts : record.FallsBack ((encode ({} : Config)).field? ·) fields (encode c)
  references : ∀ inner, ("references", .object inner) ∈ fields →
    ReferencesConfig.record.FallsBack ((encode ({} : ReferencesConfig)).field? ·) inner
      (encode c.references)
  quality : ∀ inner, ("quality", .object inner) ∈ fields →
    QualityConfig.record.FallsBack ((encode ({} : QualityConfig)).field? ·) inner (encode c.quality)
  flow : ∀ inner, ("flow", .object inner) ∈ fields →
    FlowConfig.record.FallsBack ((encode ({} : FlowConfig)).field? ·) inner (encode c.flow)

theorem Config.fallsBack {fields : List (String × Json)} {c : Config}
    (made : record.ofEntries fields = .ok c) : c.FallsBack fields := by
  have keeps : record.Keeps False (Alike False) := keeps
  have reads := (Json.Record.reads_iff keeps.opened).1 made
  refine ⟨keeps.fallsBack (fun _ => falls) made, fun inner mem => ?_, fun inner mem => ?_,
    fun inner mem => ?_⟩
  · have inside : record.fields.Makes (fun given j => given = "references" → j = .object inner)
        fun c => c.references = {} ∨ ReferencesConfig.record.ofEntries inner = .ok c.references :=
      .seq (.seq (.map (makes_inner.mono fun _ h _ _ _ _ => h)) (makes_true _)) (makes_true _)
    have references : ReferencesConfig.record.Keeps False fun _ => Json.never :=
      ReferencesConfig.keeps
    exact references.fallsBack_inner (fun _ => ReferencesConfig.falls)
      (reads.makes keeps.distinct mem inside)
  · have inside : record.fields.Makes (fun given j => given = "quality" → j = .object inner)
        fun c => c.quality = {} ∨ QualityConfig.record.ofEntries inner = .ok c.quality :=
      .seq (.seq (.map ((makes_true _).mono fun _ _ _ h _ _ => h)) makes_inner) (makes_true _)
    have quality : QualityConfig.record.Keeps False fun _ => Json.never := QualityConfig.keeps
    exact quality.fallsBack_inner (fun _ => QualityConfig.falls)
      (reads.makes keeps.distinct mem inside)
  · have inside : record.fields.Makes (fun given j => given = "flow" → j = .object inner)
        fun c => c.flow = {} ∨ FlowConfig.record.ofEntries inner = .ok c.flow :=
      .seq (.seq (.map ((makes_true _).mono fun _ _ _ _ _ h => h)) (makes_true _)) makes_inner
    have flow : FlowConfig.record.Keeps False fun _ => Json.never := FlowConfig.keeps
    exact flow.fallsBack_inner (fun _ => FlowConfig.falls)
      (reads.makes keeps.distinct mem inside)

end Lint

theorem MultiChoiceSet.makes_options (items : List Json) :
    record.fields.Makes (fun given j => given = "choices" → j = .array items) fun s =>
      items.mapM MultiChoice.record.decoder.value = .ok s.choices := by
  have choices : (Fields.required "choices" MultiChoice.record.decoder.list).Makes
      (fun given j => given = "choices" → j = .array items)
      fun as => items.mapM MultiChoice.record.decoder.value = .ok as := by
    refine makes_one (fun j as told made => ?_) fun _ absent => nomatch absent
    cases told rfl
    exact made
  exact .seq (.seq (.seq (.seq (.seq (.map (choices.mono fun _ made _ _ _ _ _ _ _ _ _ _ => made))
    (makes_true _)) (makes_true _)) (makes_true _)) (makes_true _)) (makes_true _)

namespace Event

/-- The parts of an event that are not given, and those of its options that are not, are the default
ones. -/
structure FallsBack (fields : List (String × Json)) (e : Event) : Prop where
  payload : ∀ tag r, ("event", .string tag) ∈ fields → payload tag = .record r →
    r.FallsBack default? fields (encode e)
  options : ∀ set items, ("event", .string "multi_choice") ∈ fields → e = .multiChoice set →
    ("choices", .array items) ∈ fields →
    ∀ (i : Nat) inner option, items[i]? = some (.object inner) → set.choices[i]? = some option →
      MultiChoice.record.FallsBack default? inner (encode option)

theorem fallsBack {fields : List (String × Json)} {e : Event}
    (made : format.ofEntries fields = .ok e) : e.FallsBack fields := by
  refine ⟨fun tag r mem known => ?_, fun set items mem same given i inner option item there => ?_⟩
  · have known' : format.payload tag = .ok (.record r) := congrArg _ known
    obtain ⟨-, made⟩ := (Json.Tagged.ofEntries_eq_ok mem known').1 made
    have keeps : r.Keeps False (Alike False tag) := keeps tag r known'
    have reads := (Json.Record.reads_iff keeps.opened).1 made
    have falls : r.FallsBack default? (fields.filter (·.1 != "event")) (encode e) :=
      reads.fallsBack keeps.distinct fun missing given => makes_without tag known given
    exact fun f inside absent => falls f inside fun e mem => absent e (List.mem_of_mem_filter mem)
  · obtain ⟨-, made⟩ := (Json.Tagged.ofEntries_eq_ok (t := format) mem rfl).1 made
    have keeps : (MultiChoiceSet.record.map Event.multiChoice).Keeps False
        (Alike False "multi_choice") := keeps _ _ rfl
    have reads := (Json.Record.reads_iff keeps.opened).1 made
    have inside : (MultiChoiceSet.record.map Event.multiChoice).fields.Makes
        (fun given j => given = "choices" → j = .array items) fun e => ∀ set, e = .multiChoice set →
          items.mapM MultiChoice.record.decoder.value = .ok set.choices := by
      refine .map ((MultiChoiceSet.makes_options items).mono fun set made _ same => ?_)
      cases same
      exact made
    have given : ("choices", .array items) ∈ fields.filter (·.1 != "event") :=
      List.mem_filter.2 ⟨given, rfl⟩
    have options := reads.makes keeps.distinct given inside set same
    have options := congrArg (·[i]?) (Json.mapM_eq_ok.1 options)
    simp only [List.getElem?_map, item, there, Option.map_some, Option.some.injEq] at options
    have option' : MultiChoice.record.Keeps False fun _ => Json.never := MultiChoice.keeps
    exact option'.fallsBack (fun _ => MultiChoice.falls) options

end Event

theorem Event.indifferent : decoder.Indifferent (Node.Fine greatestDepth)
    (fun lax => format.Rearranged lax (Alike lax)) fun fields e => e.FallsBack fields := by
  refine .of_keeps (fun node e fine value => ?_) (fun lax => ?_) fun fields e value => ?_
  · exact Json.Tagged.coherent format ⟨fine.1, rfl⟩ fine.2 value
  · rintro _ _ e ⟨fields, fields', rfl, rfl, h⟩ value
    exact Json.Tagged.ofEntries_rearranged keeps h value
  · exact fallsBack value

theorem Config.indifferent :
    record.decoder.Indifferent (record.Formed form greatestDepth)
      (fun lax => record.Rearranged lax (Alike lax)) fun fields c => c.FallsBack fields :=
  .of_keeps (fun _ _ => Record.inspect_of_form accepts form_of_fine) (fun _ => keeps.decoder)
    fun _ _ value => fallsBack value

theorem Lint.Config.indifferent :
    record.decoder.Indifferent (record.Formed form greatestDepth)
      (fun lax => record.Rearranged lax (Alike lax)) fun fields c => c.FallsBack fields :=
  .of_keeps (fun _ _ => Record.inspect_of_form accepts form_of_fine) (fun _ => keeps.decoder)
    fun _ _ value => fallsBack value

/-- Events, settings and the settings of the checks do not depend on how their objects are written:
neither on the order of the fields, of the object and of the objects inside it, nor on fields that
they do not know. What is not given has its default, whatever else is given. -/
theorem objects_written_any_way :
    Event.decoder.Indifferent (Node.Fine greatestDepth)
      (fun lax => Event.format.Rearranged lax (Event.Alike lax))
      (fun fields e => e.FallsBack fields) ∧
    Config.record.decoder.Indifferent (Config.record.Formed Config.form greatestDepth)
      (fun lax => Config.record.Rearranged lax (Config.Alike lax))
      (fun fields c => c.FallsBack fields) ∧
    Lint.Config.record.decoder.Indifferent
      (Lint.Config.record.Formed Lint.Config.form greatestDepth)
      (fun lax => Lint.Config.record.Rearranged lax (Lint.Config.Alike lax))
      (fun fields c => c.FallsBack fields) :=
  ⟨Event.indifferent, Config.indifferent, Lint.Config.indifferent⟩

/-- The same seed and the same label of a button, written another way: the seed stands last, beside
a theme, which is no setting, and the label beside a font, which the layout does not have. The
duration of a fade is that of the default. -/
theorem settings_written_two_ways :
    let label : Json := .object [("confirm_label", .string "Go")]
    let text := (Json.object [("seed", .number (.integer 7)), ("layout", label)]).pretty
    let label' : Json := .object [("font", .null), ("confirm_label", .string "Go")]
    let changed := (Json.object
      [("theme", .null), ("layout", label'), ("seed", .number (.integer 7))]).pretty
    ∃ c, Config.record.decoder.decode text = .ok c ∧ Config.record.decoder.decode changed = .ok c ∧
      (c.seed, c.layout.confirmLabel) = (some 7, "Go") ∧
      (encode c).field? "fade_duration_ms" = some (encode 1000) := by
  intro label text label' changed
  let c : Config :=
    { Config.default with
      seed := some 7
      layout := { GateLayout.default with confirmLabel := "Go" } }
  have seven : (Json.Number.integer 7).reread = .number (.integer 7) :=
    Json.Number.reread_of_prints (Json.Number.prints_integer (by decide) (by decide))
  have spells : Json.Spells text (.object [("seed", .number (.integer 7)), ("layout", label)]) :=
    Json.spells_pretty (by decide) (by decide) (by simp [label, Json.reread, seven]) (by decide)
  have spelled : Json.Spells changed (.object
      [("theme", .null), ("layout", label'), ("seed", .number (.integer 7))]) :=
    Json.spells_pretty (by decide) (by decide) (by simp [label', Json.reread, seven]) (by decide)
  have coherent : Config.record.decoder.Coherent :=
    Record.coherent (Config.accepts.coherent Config.form_of_fine)
  have accepted : Config.record.decoder.decode text = .ok c := coherent.decode_of_spells spells rfl
  obtain ⟨falls, again⟩ := objects_written_any_way.2.1 accepted spells.shows.2
  have tells : Tells (Config.record.Formed Config.form greatestDepth) changed _ :=
    spelled.tells fun _ => Record.formed_of_fine Config.form_of_fine
  have inner : GateLayout.record.Rearranged False (fun _ => Json.never)
      [("confirm_label", .string "Go")] [("font", .null), ("confirm_label", .string "Go")] :=
    .added (by rfl) .null _
  refine ⟨c, accepted, (again changed _ tells).1 ?_, rfl, ?_⟩
  · have first : Config.record.Rearranged False (Config.Alike False)
        [("seed", .number (.integer 7)), ("layout", label)]
        [("layout", label), ("seed", .number (.integer 7))] := .permuted (.swap _ _ _)
    have second : Config.record.Rearranged False (Config.Alike False)
        [("layout", label), ("seed", .number (.integer 7))]
        [("layout", label'), ("seed", .number (.integer 7))] :=
      .inside ⟨_, rfl, _, _, rfl, rfl, inner⟩ _
    have third : Config.record.Rearranged False (Config.Alike False)
        [("layout", label'), ("seed", .number (.integer 7))]
        [("theme", .null), ("layout", label'), ("seed", .number (.integer 7))] :=
      .added (by rfl) .null _
    exact first.trans (second.trans third)
  · exact falls.settings _ (.tail _ (.tail _ (.tail _ (.head _)))) (by decide)

end VisualNovel
