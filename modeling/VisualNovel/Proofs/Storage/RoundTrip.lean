import VisualNovel.Proofs.Storage.Kept
import VisualNovel.Storage

namespace VisualNovel

open Json (Decoder Encode Fields Record encode field fieldsNumbers fieldsDepth)

theorem Text.Utf8.decode_toUTF8 (s : String) : decode s.toUTF8 = .ok s := by
  have valid : String.fromUTF8? s.toUTF8 = some s := by
    simp only [String.fromUTF8?, String.toUTF8_eq_toByteArray, dif_pos s.isValidUTF8]
    rfl
  rw [decode, valid]

theorem Timeline.coherent : decoder.Coherent :=
  (Json.Tagged.coherent Event.format).list

theorem Registry.coherent : record.decoder.Coherent := by
  have strings : Decoder.string.dict.Coherent := (Decoder.coherent_scalar _).dict
  have fields : record.fields.Coherent :=
    (((Fields.coherent_one (Timeline.coherent.dict) _ _ _ _).map _).seq
      (Fields.coherent_one strings _ _ _ _)).seq (Fields.coherent_one strings _ _ _ _)
  exact Record.coherent fields

theorem Snapshot.coherent : record.decoder.Coherent := by
  have index : Decoder.index.Coherent := Decoder.coherent_natural _ _
  have fields : record.fields.Coherent :=
    ((Fields.coherent_one (Decoder.coherent_scalar _).option _ _ _ _).map _).seq
      (Fields.coherent_one index _ _ _ _)
  exact Record.coherent fields

namespace Storage

theorem load_save {α β : Type} [Encode α] {d : Decoder β} {a : α} {b : β}
    (coherent : d.Coherent) (restores : d.Restores a b)
    (recoverable : ∀ n ∈ (encode a).numbers, n.Recoverable)
    (shallow : (encode a).depth ≤ Json.greatestDepth) : load d (save a) = .ok b := by
  have decoded := coherent.decode_pretty (fun n mem => (recoverable n mem).fits)
    (fun n mem => (recoverable n mem).back) shallow (restores recoverable)
  rw [load, save, Text.Utf8.decode_toUTF8]
  simp only [Except.mapError, bind, Except.bind, decoded]

end Storage

/-- The registry is one that the file holds all of: its numbers are finite and fit their types, its
payloads are in the form in which payloads are held, and its brackets do not nest too deep. -/
structure Registry.Storable (r : Registry) : Prop where
  held : r.Held
  fits : ∀ n ∈ (encode r).numbers, n.Fits
  finite : ∀ n ∈ (encode r).numbers, n.Finite
  shallow : (encode r).depth ≤ Json.greatestDepth

namespace Storage

theorem load_save_registry {r : Registry} (held : r.Held) (fits : ∀ n ∈ (encode r).numbers, n.Fits)
    (back : ∀ n ∈ (encode r).numbers, n.ReadBack)
    (shallow : (encode r).depth ≤ Json.greatestDepth) :
    loadRegistry (saveRegistry r) = .ok r.kept :=
  load_save Registry.coherent (Registry.restores held) (fun n mem => ⟨fits n mem, back n mem⟩)
    shallow

theorem load_save_snapshot {s : Snapshot} (word : s.index < twoTo 64) :
    loadSnapshot (saveSnapshot s) = .ok s := by
  have numbers : ∀ n ∈ (encode s).numbers, n = .integer s.index := by
    change ∀ n ∈ fieldsNumbers (field "timeline_key" s.timelineKey ++ field "index" s.index), _
    cases s.timelineKey <;> simp [encode, Json.numbers]
  have recoverable : ∀ n ∈ (encode s).numbers, n.Recoverable := by
    intro n mem
    obtain rfl := numbers n mem
    exact ⟨⟨by omega, Int.ofNat_lt.2 word⟩, trivial⟩
  have shallow : (encode s).depth ≤ 1 := by
    change fieldsDepth (field "timeline_key" s.timelineKey ++ field "index" s.index) + 1 ≤ 1
    cases s.timelineKey <;> exact Nat.le_refl _
  exact load_save Snapshot.coherent s.restores recoverable (Nat.le_trans shallow (by decide))

/-- Registries and snapshots are loaded as they were saved, if the texts of their numbers are read
back as the numbers. -/
theorem loaded_as_saved :
    (∀ r : Registry, r.Storable → (∀ n ∈ (encode r).numbers, n.ReadBack) →
      loadRegistry (saveRegistry r) = .ok r) ∧
    ∀ s : Snapshot, s.index < twoTo 64 → loadSnapshot (saveSnapshot s) = .ok s := by
  refine ⟨fun r storable back => ?_, fun s word => load_save_snapshot word⟩
  rw [load_save_registry storable.held storable.fits back storable.shallow,
    (Registry.kept_eq_self_iff storable.held).2 fun x mem => storable.finite (.single x) mem]

/-- A line with an escape and a shade, a nested payload, and an option that scores. -/
def onePart : Registry :=
  { timelines := Dict.empty.insert "intro"
      [.dialog { text := "Grüße,\n\"du\"!", textFillAlpha := some 0.3 },
       .sceneTransition ⟨"map", some (.object [("at", .array [.number (.double 1.5), .null])])⟩,
       .multiChoice { choices := [{ text := "Ja", correct := true, point := some 0.1 }]
                      correctKey := "end", incorrectKey := "", maxSelect := some 2 }]
    images := Dict.empty.insert "map" "map.png" }

theorem onePart_loaded :
    (onePart.Storable ∧ loadRegistry (saveRegistry onePart) = .ok onePart) ∧
      loadSnapshot (saveSnapshot ⟨some "intro", 2⟩) = .ok ⟨some "intro", 2⟩ := by
  have storable : onePart.Storable := {
    held := by
      intro entry mem e inside jump data same some
      obtain rfl := List.mem_singleton.1 mem
      simp only [List.mem_cons, List.not_mem_nil, or_false] at inside
      obtain rfl | rfl | rfl := inside
      · cases same
      · cases same
        cases some
        refine ⟨rfl, fun x inside => ?_, nofun⟩
        cases List.mem_singleton.1 inside
      · cases same
    fits := by decide +kernel
    finite := by decide +kernel
    shallow := by decide }
  exact ⟨⟨storable, loaded_as_saved.1 onePart storable (by decide +kernel)⟩,
    loaded_as_saved.2 ⟨some "intro", 2⟩ (by decide)⟩

end Storage

end VisualNovel
