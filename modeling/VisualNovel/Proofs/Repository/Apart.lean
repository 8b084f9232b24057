import VisualNovel.Proofs.Disk.Folders
import VisualNovel.Repository.Basic

namespace VisualNovel.Repository

open Disk

/-- A text that can be part of the name of a file. -/
structure IsPlain (name : String) : Prop where
  undivided : Path.separator ∉ name.toList
  clean : '\x00' ∉ name.toList

variable {r : Repository} {d d' : Disk} {l : Location} {m n : String}

theorem toList_registryFile (m : String) : (registryFile m).toList = m.toList ++ ".json".toList :=
  String.toList_append

theorem isFileName_registryFile (undivided : Path.separator ∉ m.toList) :
    Path.IsFileName (registryFile m) := by
  have long : 5 ≤ (registryFile m).toList.length := by simp [toList_registryFile]
  refine ⟨?_, ?_, ?_, ?_⟩
  · rw [toList_registryFile, List.mem_append, not_or]
    exact ⟨undivided, by decide⟩
  all_goals
    intro same
    rw [same] at long
    revert long
    decide

theorem isFileName_snapshotFile (undivided : Path.separator ∉ n.toList) :
    Path.IsFileName (snapshotFile n) := by
  refine isFileName_registryFile ?_
  rw [String.toList_append, List.mem_append, not_or]
  exact ⟨undivided, by decide⟩

theorem registryFile_eq_snapshotFile_iff : registryFile m = snapshotFile n ↔ m = n ++ saveEnding := by
  unfold snapshotFile registryFile
  rw [← String.toList_inj, String.toList_append, String.toList_append, List.append_cancel_right_eq,
    String.toList_inj]

theorem splitName_snapshotFile (n : String) :
    Path.splitName (snapshotFile n) = (n ++ saveEnding, some "json") := by
  simp [Path.splitName, snapshotFile, registryFile, saveEnding, String.toList_append]

theorem registryName?_snapshotFile (n : String) : registryName? (snapshotFile n) = none := by
  have ends : (n ++ saveEnding).endsWith saveEnding = true := by
    rw [String.endsWith, String.Slice.endsWith_string_iff]
    simp
  unfold registryName?
  rw [splitName_snapshotFile]
  exact if_pos ends

/-- The registry and the snapshot have one file, and the name of it is not too long for a file. -/
def Shared (m n : String) : Prop :=
  m = n ++ saveEnding ∧ (snapshotFile n).utf8ByteSize ≤ maxNameBytes

/-- The registry under a name is the same to everyone who asks. -/
structure SameRegistry (r : Repository) (m : String) (d d' : Disk) : Prop where
  loaded : r.loadRegistry d' m = r.loadRegistry d m
  kept : r.registryExists d' m = r.registryExists d m

theorem SameRegistry.rfl : SameRegistry r m d d := ⟨Eq.refl _, Eq.refl _⟩

theorem sameRegistry_of_differ (there : d.folderAt r.folder = .ok l)
    (undivided : Path.separator ∉ m.toList) (apart : ¬Shared m n)
    (differ : Differ l (snapshotFile n) d d') : SameRegistry r m d d' := by
  have name := isFileName_registryFile undivided
  have ne : registryFile m ≠ snapshotFile n := fun same =>
    apart ⟨registryFile_eq_snapshotFile_iff.1 same, differ.short⟩
  have kept : d'.holds (r.registryPath m) = d.holds (r.registryPath m) := differ.holds there name ne
  have read : d'.read (r.registryPath m) = d.read (r.registryPath m) := differ.read there name ne
  refine ⟨?_, kept⟩
  unfold loadRegistry
  dsimp only
  rw [kept, read]

theorem loadSnapshot?_of_differ (there : d.folderAt r.folder = .ok l)
    (undivided : Path.separator ∉ n.toList) (apart : ¬Shared m n)
    (differ : Differ l (registryFile m) d d') : r.loadSnapshot? d' n = r.loadSnapshot? d n := by
  have name := isFileName_snapshotFile undivided
  have ne : snapshotFile n ≠ registryFile m := fun same =>
    apart ⟨registryFile_eq_snapshotFile_iff.1 same.symm, same ▸ differ.short⟩
  have kept : d'.holds (r.snapshotPath n) = d.holds (r.snapshotPath n) := differ.holds there name ne
  have read : d'.read (r.snapshotPath n) = d.read (r.snapshotPath n) := differ.read there name ne
  unfold loadSnapshot?
  dsimp only
  rw [kept, read]

theorem registryNames_of_differ (there : d.folderAt r.folder = .ok l)
    (differ : Differ l (snapshotFile n) d d') : r.registryNames d' = r.registryNames d := by
  unfold registryNames
  rw [list_folder there, list_folder (differ.folderAt there)]
  cases refusal? r.folder with
  | some e => rfl
  | none =>
    simp only [Except.mapError, bind, Except.bind,
      differ.filterMap_keys (registryName?_snapshotFile n)]

/-- To store a file in a folder that is there leaves all but that file as it is. -/
theorem store_snd (there : d.folderAt r.folder = .ok l) {file : String} (name : Path.IsFileName file)
    (makeFolder writeFile : Action) (content : ByteArray) :
    (r.store d makeFolder writeFile (Path.join r.folder file) content).2 = d ∨
      Differ l file d (r.store d makeFolder writeFile (Path.join r.folder file) content).2 := by
  have made := makeFolders_snd there
  unfold store
  split
  · next makes => rw [makes] at made; exact .inl made
  · next makes =>
    rw [makes] at made
    subst made
    split
    · exact .inl rfl
    · next written => exact .inr (differ_of_write there name written)

theorem differ_of_deleteSnapshot (there : d.folderAt r.folder = .ok l)
    (undivided : Path.separator ∉ n.toList) (deleted : r.deleteSnapshot d n = .ok d') :
    Differ l (snapshotFile n) d d' := by
  unfold deleteSnapshot at deleted
  dsimp only at deleted
  split at deleted
  · cases removed : d.remove (r.snapshotPath n) with
    | error e => rw [removed] at deleted; cases deleted
    | ok after =>
      rw [removed] at deleted
      cases deleted
      exact differ_of_remove there (isFileName_snapshotFile undivided) removed
  · cases deleted

/-- On an empty disk there is no registry, and one seems to be there as soon as the snapshot that has
its file is stored. -/
theorem registryExists_of_shared (plain : IsPlain n) (shared : Shared m n) (s : Snapshot) :
    registryExists ⟨"/"⟩ {} m = false ∧
      registryExists ⟨"/"⟩ (saveSnapshot ⟨"/"⟩ {} n s).2 m = true := by
  obtain ⟨rfl, short⟩ := shared
  have there (d : Disk) : d.folderAt "/" = .ok [] := rfl
  have name := isFileName_snapshotFile plain.undivided
  have clean : '\x00' ∉ (snapshotFile n).toList := by
    simp [snapshotFile, registryFile, saveEnding, String.toList_append, plain.clean]
  have found := spot_root (l := []) name.undivided clean short
  have holds (d : Disk) :
      registryExists ⟨"/"⟩ d (n ++ saveEnding) = (d.find? [] (snapshotFile n)).isSome := by
    refine (holds_join (there d) name).trans ?_
    rw [found]
  have stored : (saveSnapshot ⟨"/"⟩ {} n s).2 =
      ({} : Disk).put [] (snapshotFile n) (.file (Storage.saveSnapshot s)) := by
    have written := write_join (there {}) name (Storage.saveSnapshot s)
    rw [found] at written
    have made : ({} : Disk).makeFolders "/" = (.ok (), {}) := rfl
    unfold saveSnapshot store
    dsimp only [snapshotPath]
    rw [made]
    dsimp only
    rw [written]
    rfl
  rw [holds, holds, stored, find?_put]
  exact ⟨rfl, by simp⟩

def IsOpen (r : Repository) (d : Disk) : Prop := ∃ l, d.folderAt r.folder = .ok l

/-- What is done to the snapshot is not seen through the registry, and to write the registry is not
seen through the snapshot. -/
structure Apart (r : Repository) (d : Disk) (m n : String) : Prop where
  saved : ∀ s, SameRegistry r m d (r.saveSnapshot d n s).2
  deleted : ∀ d', r.deleteSnapshot d n = .ok d' → SameRegistry r m d d'
  written : ∀ registry, r.loadSnapshot? (r.saveRegistry d m registry).2 n = r.loadSnapshot? d n

/-- What is done to the snapshot is not seen in the list of the registries. -/
structure Unlisted (r : Repository) (d : Disk) (n : String) : Prop where
  saved : ∀ s, r.registryNames (r.saveSnapshot d n s).2 = r.registryNames d
  deleted : ∀ d', r.deleteSnapshot d n = .ok d' → r.registryNames d' = r.registryNames d

theorem apart_of_not_shared (isOpen : r.IsOpen d) (plain : IsPlain m) (plain' : IsPlain n)
    (apart : ¬Shared m n) : Apart r d m n := by
  obtain ⟨l, there⟩ := isOpen
  refine ⟨fun s => ?_, fun d' deleted => ?_, fun registry => ?_⟩
  · obtain same | differ := store_snd there (isFileName_snapshotFile plain'.undivided) ..
    · exact same.symm ▸ SameRegistry.rfl
    · exact sameRegistry_of_differ there plain.undivided apart differ
  · exact sameRegistry_of_differ there plain.undivided apart
      (differ_of_deleteSnapshot there plain'.undivided deleted)
  · obtain same | differ := store_snd there (isFileName_registryFile plain.undivided) ..
    · exact congrArg (r.loadSnapshot? · n) same
    · exact loadSnapshot?_of_differ there plain'.undivided apart differ

theorem unlisted (isOpen : r.IsOpen d) (plain : IsPlain n) : Unlisted r d n := by
  obtain ⟨l, there⟩ := isOpen
  refine ⟨fun s => ?_, fun d' deleted => ?_⟩
  · obtain same | differ := store_snd there (isFileName_snapshotFile plain.undivided) ..
    · exact congrArg r.registryNames same
    · exact registryNames_of_differ there differ
  · exact registryNames_of_differ there (differ_of_deleteSnapshot there plain.undivided deleted)

/-- Registries and snapshots stay apart, but for the snapshot that shares a file with the registry;
the list of the registries never tells of a snapshot. -/
theorem apart_iff_not_shared (plain : IsPlain m) (plain' : IsPlain n) :
    ((∀ (r : Repository) (d : Disk), r.IsOpen d → Apart r d m n) ↔ ¬Shared m n) ∧
      ∀ (r : Repository) (d : Disk), r.IsOpen d → Unlisted r d n := by
  refine ⟨⟨fun apart shared => ?_, fun apart r d isOpen => ?_⟩, fun r d isOpen => ?_⟩
  · obtain ⟨before, after⟩ := registryExists_of_shared plain' shared ⟨none, 0⟩
    have kept := ((apart ⟨"/"⟩ {} ⟨[], rfl⟩).saved ⟨none, 0⟩).kept
    rw [before, after] at kept
    cases kept
  · exact apart_of_not_shared isOpen plain plain' apart
  · exact unlisted isOpen plain'

/-- The snapshots of "prologue" and the registry "epilogue" stay apart in every folder. -/
theorem prologue_and_epilogue_apart : IsPlain "epilogue" ∧ IsPlain "prologue" ∧
    ∀ (r : Repository) (d : Disk), r.IsOpen d → Apart r d "epilogue" "prologue" := by
  have plain : IsPlain "epilogue" := ⟨by decide, by decide⟩
  have plain' : IsPlain "prologue" := ⟨by decide, by decide⟩
  exact ⟨plain, plain', (apart_iff_not_shared plain plain').1.2 fun shared => nomatch shared.1⟩

/-- The registry "a.save" is written and can be loaded until the snapshot of "a" is stored. -/
theorem snapshot_replaces_registry :
    let r : Repository := ⟨"/"⟩
    let d := (r.saveRegistry {} "a.save" {}).2
    let d' := (r.saveSnapshot d "a" ⟨some "start", 0⟩).2
    IsPlain "a.save" ∧ IsPlain "a" ∧ r.IsOpen d ∧
      (r.loadRegistry d "a.save").isOk = true ∧ (r.loadRegistry d' "a.save").isOk = false := by
  refine ⟨⟨by decide, by decide⟩, ⟨by decide, by decide⟩, ⟨[], rfl⟩, ?_, ?_⟩
  · decide +kernel
  · decide +kernel

end VisualNovel.Repository
