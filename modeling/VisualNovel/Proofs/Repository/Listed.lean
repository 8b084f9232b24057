import VisualNovel.Proofs.Repository.Apart
import VisualNovel.Proofs.Text.ByteOrder

namespace VisualNovel

theorem Path.eq_of_splitName {name stem extension : String}
    (split : splitName name = (stem, some extension)) : name = stem ++ "." ++ extension := by
  have whole := List.takeWhile_append_dropWhile (p := (· != '.')) (l := name.toList.reverse)
  unfold splitName at split
  dsimp only at split
  split at split
  · cases split
  · next nonempty =>
    cases split
    cases rest : name.toList.reverse.dropWhile (· != '.') with
    | nil => simp [rest] at nonempty
    | cons c before =>
      have dot : c = '.' := by
        have first := List.head?_dropWhile_not (· != '.') name.toList.reverse
        rw [rest] at first
        simpa using first
      rw [rest, dot] at whole
      rw [← String.toList_inj, ← List.reverse_inj]
      refine whole.symm.trans ?_
      simp [String.toList_append]

namespace Repository

open Disk

variable {r : Repository} {d d' : Disk} {l : Location} {m n : String}

theorem splitName_registryFile (nonempty : m ≠ "") :
    Path.splitName (registryFile m) = (m, some "json") := by
  have chars : m.toList ≠ [] := mt String.toList_eq_nil_iff.1 nonempty
  simp [Path.splitName, registryFile, String.toList_append]

/-- Each registry is listed under its name, unless the file is taken for that of a snapshot. -/
theorem registryName?_registryFile (nonempty : m ≠ "") (other : m.endsWith saveEnding = false) :
    registryName? (registryFile m) = some m := by
  unfold registryName?
  rw [splitName_registryFile nonempty]
  exact if_neg (by simp [other])

theorem eq_registryFile {file : String} (listed : registryName? file = some m) :
    file = registryFile m := by
  unfold registryName? at listed
  split at listed
  · next stem split =>
    split at listed
    · cases listed
    · cases listed
      rw [Path.eq_of_splitName split, registryFile, String.append_assoc]
      rfl
  · cases listed

/-- What can be asked of a repository that changes its folder. -/
inductive Change where
  | saveRegistry (name : String) (registry : Registry)
  | saveSnapshot (name : String) (snapshot : Snapshot)
  | deleteSnapshot (name : String)

/-- A text that can be the name of a registry or of a snapshot. -/
structure IsName (name : String) : Prop extends IsPlain name where
  nonempty : name ≠ ""

/-- A name under which only a registry can be kept, and no snapshot. -/
structure IsRegistryName (name : String) : Prop extends IsName name where
  other : name.endsWith saveEnding = false

/-- The change goes by a name that fits what is changed. -/
def Change.IsNamed : Change → Prop
  | .saveRegistry name _ => IsRegistryName name
  | .saveSnapshot name _ => IsName name
  | .deleteSnapshot name => IsName name

/-- A disk, and the registries that could be saved on it, the latest one first. -/
structure History where
  disk : Disk
  saved : List (String × Registry) := []

/-- Make a change as far as it can be made. -/
def record (r : Repository) (h : History) : Change → History
  | .saveRegistry name registry =>
    match r.saveRegistry h.disk name registry with
    | (.ok (), disk) => ⟨disk, (name, registry) :: h.saved⟩
    | (.error _, disk) => ⟨disk, h.saved⟩
  | .saveSnapshot name snapshot => ⟨(r.saveSnapshot h.disk name snapshot).2, h.saved⟩
  | .deleteSnapshot name =>
    match r.deleteSnapshot h.disk name with
    | .ok disk => ⟨disk, h.saved⟩
    | .error _ => h

def recordAll (r : Repository) (d : Disk) (changes : List Change) : History :=
  changes.foldl r.record ⟨d, []⟩

/-- The folder holds what was saved and the files of snapshots, and nothing else. -/
structure Keeps (r : Repository) (l : Location) (h : History) : Prop where
  there : h.disk.folderAt r.folder = .ok l
  admitted : refusal? r.folder = none
  named : ∀ e ∈ h.saved, IsRegistryName e.1 ∧ Admits r.folder (registryFile e.1)
  latest : ∀ m, m.endsWith saveEnding = false → h.disk.find? l (registryFile m) =
    (h.saved.lookup m).map fun registry => .file (Storage.saveRegistry registry)
  files : ∀ file, (h.disk.find? l file).isSome = true →
    (∃ e ∈ h.saved, file = registryFile e.1) ∨ ∃ n, file = snapshotFile n

variable {h : History}

theorem registryFile_inj : registryFile m = registryFile n ↔ m = n := by
  unfold registryFile
  rw [← String.toList_inj, String.toList_append, String.toList_append, List.append_cancel_right_eq,
    String.toList_inj]

theorem registryFile_ne_snapshotFile (other : m.endsWith saveEnding = false) (n : String) :
    registryFile m ≠ snapshotFile n := by
  rw [Ne, registryFile_eq_snapshotFile_iff]
  rintro rfl
  rw [String.endsWith, ← Bool.not_eq_true, String.Slice.endsWith_string_iff] at other
  simp at other

/-- A change of the file of a snapshot is none of a registry. -/
theorem Keeps.differ (keeps : Keeps r l h) (differ : Differ l (snapshotFile n) h.disk d') :
    Keeps r l ⟨d', h.saved⟩ where
  there := differ.folderAt keeps.there
  admitted := keeps.admitted
  named := keeps.named
  latest m other := by
    rw [differ.find?_other (registryFile_ne_snapshotFile other n)]
    exact keeps.latest m other
  files file held := by
    by_cases same : file = snapshotFile n
    · exact .inr ⟨n, same⟩
    · rw [differ.find?_other same] at held
      exact keeps.files file held

theorem Keeps.noFolder (keeps : Keeps r l h) (other : m.endsWith saveEnding = false) :
    h.disk.find? l (registryFile m) ≠ some .folder := by
  rw [keeps.latest m other]
  cases h.saved.lookup m <;> simp

/-- A registry is saved when the disk admits its file, and otherwise the disk stays as it is. -/
theorem Keeps.saveRegistry (keeps : Keeps r l h) (name : IsRegistryName m) (registry : Registry) :
    Admits r.folder (registryFile m) ∧ r.saveRegistry h.disk m registry =
        (.ok (), h.disk.put l (registryFile m) (.file (Storage.saveRegistry registry))) ∨
      ¬ Admits r.folder (registryFile m) ∧
        ∃ e, r.saveRegistry h.disk m registry = (.error e, h.disk) := by
  have written := write_join keeps.there (isFileName_registryFile name.undivided)
    (Storage.saveRegistry registry)
  have made := makeFolders_eq keeps.there keeps.admitted
  unfold Repository.saveRegistry store
  dsimp only
  rw [made]
  dsimp only
  rw [registryPath, written]
  by_cases admits : Admits r.folder (registryFile m)
  · refine .inl ⟨admits, ?_⟩
    rw [spot_of_admits admits, keeps.latest m name.other]
    cases h.saved.lookup m <;> rfl
  · obtain ⟨e, refused⟩ := spot_of_not_admits admits l
    rw [refused]
    exact .inr ⟨admits, _, rfl⟩

theorem Keeps.put (keeps : Keeps r l h) (name : IsRegistryName m)
    (admits : Admits r.folder (registryFile m)) (registry : Registry) :
    Keeps r l ⟨h.disk.put l (registryFile m) (.file (Storage.saveRegistry registry)),
      (m, registry) :: h.saved⟩ where
  there := (differ_put (keeps.noFolder name.other) admits.2 _).folderAt keeps.there
  admitted := keeps.admitted
  named := List.forall_mem_cons.2 ⟨⟨name, admits⟩, keeps.named⟩
  latest k other := by
    rw [find?_put, List.lookup_cons]
    by_cases same : k = m
    · simp [same]
    · rw [if_neg fun here => same (registryFile_inj.1 here.2), beq_eq_false_iff_ne.2 same]
      exact keeps.latest k other
  files file held := by
    rw [find?_put] at held
    split at held
    · next here => exact .inl ⟨_, List.mem_cons_self, here.2⟩
    · obtain ⟨e, mem, same⟩ | snapshot := keeps.files file held
      · exact .inl ⟨e, List.mem_cons_of_mem _ mem, same⟩
      · exact .inr snapshot

theorem Keeps.record (keeps : Keeps r l h) {c : Change} (named : c.IsNamed) :
    Keeps r l (r.record h c) := by
  unfold Repository.record
  cases c with
  | saveRegistry name registry =>
    dsimp only
    obtain ⟨admits, saved⟩ | ⟨-, e, refused⟩ := keeps.saveRegistry named registry
    · rw [saved]
      exact keeps.put named admits registry
    · rw [refused]
      exact keeps
  | saveSnapshot name snapshot =>
    have kept : (r.saveSnapshot h.disk name snapshot).2 = h.disk ∨
        Differ l (snapshotFile name) h.disk (r.saveSnapshot h.disk name snapshot).2 :=
      store_snd keeps.there (isFileName_snapshotFile named.undivided) ..
    dsimp only
    obtain same | differ := kept
    · rw [same]
      exact keeps
    · exact keeps.differ differ
  | deleteSnapshot name =>
    dsimp only
    cases deleted : r.deleteSnapshot h.disk name with
    | ok disk => exact keeps.differ (differ_of_deleteSnapshot keeps.there named.undivided deleted)
    | error e => exact keeps

theorem keeps_recordAll (empty : d.list r.folder = .ok []) {changes : List Change}
    (named : ∀ c ∈ changes, c.IsNamed) : ∃ l, Keeps r l (r.recordAll d changes) := by
  obtain ⟨admitted, l, there, nothing⟩ := exists_of_list empty
  have missing (file : String) : d.find? l file = none := by
    rw [← Option.not_isSome_iff_eq_none]
    intro held
    have listed : file ∈ (d.entries l).keys := Dict.contains_iff.1 held
    rw [nothing] at listed
    cases listed
  have begun : Keeps r l ⟨d, []⟩ := by
    refine ⟨there, admitted, by simp, fun m _ => missing _, fun file held => ?_⟩
    rw [missing] at held
    cases held
  refine ⟨l, List.foldlRecOn changes r.record begun fun h keeps c mem => ?_⟩
  exact keeps.record (named c mem)

theorem mem_keys_iff {file : String} : file ∈ (d.entries l).keys ↔ (d.find? l file).isSome = true :=
  Dict.contains_iff.symm

/-- The files that are listed are those of the registries that were saved. -/
theorem Keeps.mem_listed_iff (keeps : Keeps r l h) :
    m ∈ (h.disk.entries l).keys.filterMap registryName? ↔ m ∈ h.saved.map Prod.fst := by
  rw [List.mem_filterMap]
  constructor
  · rintro ⟨file, mem, listed⟩
    obtain ⟨e, saved, rfl⟩ | ⟨n, rfl⟩ := keeps.files file (mem_keys_iff.1 mem)
    · obtain rfl : e.1 = m := registryFile_inj.1 (eq_registryFile listed)
      exact List.mem_map_of_mem saved
    · rw [registryName?_snapshotFile] at listed
      cases listed
  · intro saved
    obtain ⟨e, mem, rfl⟩ := List.mem_map.1 saved
    have name := (keeps.named e mem).1
    refine ⟨registryFile e.1, ?_, registryName?_registryFile name.nonempty name.other⟩
    rw [mem_keys_iff, keeps.latest _ name.other, Option.isSome_map, Dict.lookup_isSome_iff]
    exact saved

theorem Keeps.registryNames (keeps : Keeps r l h) :
    ∃ names, r.registryNames h.disk = .ok names ∧ names.Pairwise (· < ·) ∧
      ∀ m, m ∈ names ↔ m ∈ h.saved.map Prod.fst := by
  have listed : r.registryNames h.disk =
      .ok (((h.disk.entries l).keys.filterMap registryName?).mergeSort (· ≤ ·)) := by
    unfold Repository.registryNames
    rw [list_folder keeps.there, keeps.admitted]
    rfl
  have once : ((h.disk.entries l).keys.filterMap registryName?).Nodup := by
    refine List.Nodup.filterMap (fun file file' name listed listed' => ?_) ?_
    · exact (eq_registryFile listed).trans (eq_registryFile listed').symm
    · exact (h.disk.entries l).keys_ascending.imp String.ne_of_lt
  refine ⟨_, listed, ?_, fun m => ?_⟩
  · have sorted : (((h.disk.entries l).keys.filterMap registryName?).mergeSort
        (· ≤ ·)).Pairwise fun a b => decide (a ≤ b) = true :=
      List.pairwise_mergeSort (by simpa using fun a b c => String.le_trans)
        (by simpa using String.le_total) _
    have nodup := (List.mergeSort_perm _ (fun a b : String => decide (a ≤ b))).nodup_iff.2 once
    refine (sorted.and nodup).imp fun ⟨le, ne⟩ => ?_
    exact String.not_le.1 fun ge => ne (String.le_antisymm (of_decide_eq_true le) ge)
  · rw [List.mem_mergeSort]
    exact keeps.mem_listed_iff

theorem Keeps.registryExists_iff (keeps : Keeps r l h) (plain : IsPlain m)
    (other : m.endsWith saveEnding = false) :
    r.registryExists h.disk m = true ↔ m ∈ h.saved.map Prod.fst := by
  have held : (h.disk.find? l (registryFile m)).isSome = true ↔ m ∈ h.saved.map Prod.fst := by
    rw [keeps.latest m other, Option.isSome_map, Dict.lookup_isSome_iff]
  unfold registryExists
  rw [registryPath, holds_join keeps.there (isFileName_registryFile plain.undivided), ← held]
  by_cases admits : Admits r.folder (registryFile m)
  · rw [spot_of_admits admits]
  · obtain ⟨e, refused⟩ := spot_of_not_admits admits l
    rw [refused, held]
    refine ⟨nofun, fun saved => ?_⟩
    obtain ⟨e, mem, rfl⟩ := List.mem_map.1 saved
    exact (admits (keeps.named e mem).2).elim

theorem Keeps.loadRegistry (keeps : Keeps r l h) {registry : Registry}
    (saved : h.saved.lookup m = some registry) : r.loadRegistry h.disk m =
      (Storage.loadRegistry (Storage.saveRegistry registry)).mapError
        (.malformedRegistry (r.registryPath m)) := by
  obtain ⟨before, after, split, -⟩ := List.lookup_eq_some_iff.1 saved
  obtain ⟨name, admits⟩ := keeps.named (m, registry) (by simp [split])
  have file := isFileName_registryFile name.undivided
  have content : h.disk.find? l (registryFile m) =
      some (.file (Storage.saveRegistry registry)) := by
    rw [keeps.latest m name.other, saved]
    rfl
  have held : h.disk.holds (r.registryPath m) = true := by
    rw [registryPath, holds_join keeps.there file, spot_of_admits admits]
    simp [content]
  have read : h.disk.read (r.registryPath m) = .ok (Storage.saveRegistry registry) := by
    rw [registryPath, read_join keeps.there file, spot_of_admits admits, content]
    rfl
  unfold Repository.loadRegistry
  simp only [held, read]
  rfl

/-- The repository lists the registries that were saved, each once and in the order of the bytes of
their names. It has these and no others, and gives each as it was saved last. What the disk admits
can be saved. -/
structure Finds (r : Repository) (h : History) (names : List String) : Prop where
  listed : r.registryNames h.disk = .ok names
  ascending : names.Pairwise fun a b => Text.bytes a < Text.bytes b
  complete : ∀ m, m ∈ names ↔ m ∈ h.saved.map Prod.fst
  present : ∀ m, IsPlain m → m.endsWith saveEnding = false →
    (r.registryExists h.disk m = true ↔ m ∈ names)
  loaded : ∀ m registry, h.saved.lookup m = some registry →
    Storage.loadRegistry (Storage.saveRegistry registry) = .ok registry →
      r.loadRegistry h.disk m = .ok registry
  admitted : ∀ m registry, IsRegistryName m →
    ((r.saveRegistry h.disk m registry).1 = .ok () ↔ Admits r.folder (registryFile m))

/-- Whatever is saved and deleted in an empty folder, the registries that were saved are found. -/
theorem finds_recordAll (empty : d.list r.folder = .ok []) {changes : List Change}
    (named : ∀ c ∈ changes, c.IsNamed) : ∃ names, r.Finds (r.recordAll d changes) names := by
  obtain ⟨l, keeps⟩ := keeps_recordAll empty named
  obtain ⟨names, listed, ascending, complete⟩ := keeps.registryNames
  refine ⟨names, listed, ascending.imp Text.bytes_lt_of_lt, complete, ?_, ?_, ?_⟩
  · intro m plain other
    rw [complete]
    exact keeps.registryExists_iff plain other
  · intro m registry saved undone
    rw [keeps.loadRegistry saved, undone]
    rfl
  · intro m registry name
    obtain ⟨admits, written⟩ | ⟨refused, e, failed⟩ := keeps.saveRegistry name registry
    · simp [written, admits]
    · simp [failed, refused]

/-- Two registries are saved, one of them twice, and snapshots come and go; the dot and the ending
of a file may be part of a name. -/
theorem finds_two_registries :
    let r : Repository := ⟨"saves"⟩
    let d : Disk := (({} : Disk).makeFolders "saves").2
    let changes : List Change := [.saveRegistry "b.json" {}, .saveSnapshot "a" ⟨none, 0⟩,
      .saveRegistry "a" {}, .saveSnapshot "b.json" ⟨none, 2⟩, .deleteSnapshot "a",
      .saveRegistry "b.json" {}]
    d.list r.folder = .ok [] ∧ (∀ c ∈ changes, c.IsNamed) ∧
      (r.recordAll d changes).saved.map Prod.fst = ["b.json", "a", "b.json"] ∧
      ∃ names, r.Finds (r.recordAll d changes) names := by
  intro r d changes
  have empty : d.list r.folder = .ok [] := by decide +kernel
  have a : IsRegistryName "a" := ⟨⟨⟨by decide, by decide⟩, by decide⟩, by decide +kernel⟩
  have b : IsRegistryName "b.json" := ⟨⟨⟨by decide, by decide⟩, by decide⟩, by decide +kernel⟩
  have named : ∀ c ∈ changes, c.IsNamed := by
    simp only [changes, List.forall_mem_cons]
    exact ⟨b, a.toIsName, a, b.toIsName, a.toIsName, b, nofun⟩
  have saved : (r.recordAll d changes).saved.map Prod.fst = ["b.json", "a", "b.json"] := by
    decide +kernel
  exact ⟨empty, named, saved, finds_recordAll empty named⟩

end Repository

end VisualNovel
