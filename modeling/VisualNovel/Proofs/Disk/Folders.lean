import Mathlib.Data.List.Sort
import VisualNovel.Disk.Basic

/-!
Files of one folder. A path that joins a folder and the name of a file leads to that name in the
folder, and what is done to one file is not seen through the others.
-/

namespace VisualNovel

namespace Path

/-- A name that leads into a folder and nowhere else. -/
structure IsFileName (name : String) : Prop where
  undivided : separator ∉ name.toList
  nonempty : name ≠ ""
  notHere : name ≠ "."
  notUp : name ≠ ".."

/-- The names along a path. -/
def names (path : String) : List String :=
  ((partsOf path.toList).map String.ofList).filter (· != "")

theorem partsOf_append (a b : List Char) :
    partsOf (a ++ separator :: b) = partsOf a ++ partsOf b := by
  induction a with
  | nil => simp [partsOf]
  | cons c a ih =>
    simp only [List.cons_append, partsOf, ih]
    split
    · rfl
    · cases parts : partsOf a with
      | nil => exact (partsOf_ne_nil a parts).elim
      | cons part rest => rfl

theorem partsOf_undivided {cs : List Char} (h : separator ∉ cs) : partsOf cs = [cs] := by
  induction cs with
  | nil => rfl
  | cons c cs ih =>
    rw [List.mem_cons, not_or] at h
    simp [partsOf, Ne.symm h.1, ih h.2]

/-- The steps along a path are its names; a slash at the end adds a step that leads nowhere. -/
theorem steps_eq (path : String) : steps path = names path ∨ steps path = names path ++ ["."] := by
  unfold steps names
  dsimp only
  split
  · exact .inr rfl
  · exact .inl (List.append_nil _)

theorem isAbsolute_eq_false {path : String} (undivided : separator ∉ path.toList) :
    isAbsolute path = false := by
  unfold isAbsolute
  cases chars : path.toList with
  | nil => rfl
  | cons c cs =>
    rw [chars, List.mem_cons, not_or] at undivided
    simpa using Ne.symm undivided.1

/-- The last part of a path into a folder is the file; the others are those of the folder, where a
slash at the end leaves no trace. -/
theorem partsOf_join (folder : String) {file : String} (undivided : separator ∉ file.toList) :
    ∃ parts, partsOf (join folder file).toList = parts ++ [file.toList] ∧
      names folder = (parts.map String.ofList).filter (· != "") := by
  have last := partsOf_undivided undivided
  unfold join
  rw [isAbsolute_eq_false undivided, if_neg Bool.false_ne_true]
  by_cases empty : folder = ""
  · exact ⟨[], by simp [empty, last], by simp [empty, names, partsOf]⟩
  · by_cases closed : folder.toList.getLast? = some separator
    · obtain ⟨before, split⟩ := List.getLast?_eq_some_iff.1 closed
      refine ⟨partsOf before, ?_, ?_⟩
      · simp [String.toList_append, split, partsOf_append, last]
      · simp [names, split, partsOf_append, partsOf]
    · refine ⟨partsOf folder.toList, ?_, rfl⟩
      simp [empty, closed, String.toList_append, partsOf_append, last]

theorem steps_join {folder file : String} (undivided : separator ∉ file.toList)
    (nonempty : file ≠ "") : steps (join folder file) = names folder ++ [file] := by
  obtain ⟨parts, split, same⟩ := partsOf_join folder undivided
  simp [steps, split, same, nonempty]

theorem isAbsolute_join {folder file : String} (undivided : separator ∉ file.toList) :
    isAbsolute (join folder file) = isAbsolute folder := by
  unfold join
  rw [isAbsolute_eq_false undivided, if_neg Bool.false_ne_true]
  by_cases empty : folder = ""
  · simpa [empty, isAbsolute] using isAbsolute_eq_false undivided
  · obtain ⟨c, cs, chars⟩ := List.exists_cons_of_ne_nil (mt String.toList_eq_nil_iff.1 empty)
    split <;> simp [isAbsolute, String.toList_append, chars]

end Path

namespace Disk

variable {d d' : Disk} {l : Location} {folder file : String}

def reach (d : Disk) (l : Location) (names : List String) : Except Error Location :=
  names.foldlM d.enter l

@[simp] theorem reach_nil (d : Disk) (l : Location) : d.reach l [] = .ok l := rfl

theorem reach_cons (d : Disk) (l : Location) (name : String) (names : List String) :
    d.reach l (name :: names) = d.enter l name >>= fun l => d.reach l names := by
  simp [reach]

theorem reach_append (d : Disk) (l : Location) (names rest : List String) :
    d.reach l (names ++ rest) = d.reach l names >>= fun l => d.reach l rest := by
  simp [reach, List.foldlM_append]

/-- The folder that a path leads to, if it leads to a folder. -/
def folderAt (d : Disk) (path : String) : Except Error Location :=
  d.reach (d.origin path) (Path.names path)

theorem reach_steps (d : Disk) (l : Location) (path : String) :
    d.reach l (Path.steps path) = d.reach l (Path.names path) := by
  obtain same | dot := Path.steps_eq path
  · rw [same]
  · rw [dot, reach_append]
    cases d.reach l (Path.names path) <;> rfl

theorem walk_cons_cons (d : Disk) (l : Location) (first second : String) (rest : List String) :
    d.walk l (first :: second :: rest) =
      d.enter l first >>= fun l => d.walk l (second :: rest) := rfl

theorem walk_append (d : Disk) (l : Location) (names : List String) (file : String) :
    d.walk l (names ++ [file]) = d.reach l names >>= fun l => d.walk l [file] := by
  induction names generalizing l with
  | nil => rfl
  | cons name names ih =>
    obtain ⟨second, rest, split⟩ :=
      List.exists_cons_of_ne_nil (List.append_ne_nil_of_right_ne_nil names (List.cons_ne_nil file []))
    rw [List.cons_append, split, walk_cons_cons, reach_cons, bind_assoc]
    exact bind_congr fun l => by rw [← split, ih]

/-- A walk that ends at a name has come to a folder when the name can be entered. -/
theorem walk_bind_enter (d : Disk) (l : Location) (names : List String) :
    (d.walk l names >>= fun
      | .folder l => .ok l
      | .name l name => d.enter l name) = d.reach l names := by
  obtain rfl | ⟨before, last, rfl⟩ := List.eq_nil_or_concat names
  · rfl
  · rw [List.concat_eq_append, walk_append, reach_append, bind_assoc]
    refine bind_congr fun l => ?_
    rw [reach_cons]
    unfold walk
    split
    · next dot =>
      obtain rfl := beq_iff_eq.1 dot
      rfl
    · split
      · next dots =>
        obtain rfl := beq_iff_eq.1 dots
        rfl
      · split
        · simp_all [enter]; rfl
        · exact (bind_pure (d.enter l last)).symm

/-- A file of a folder, by any path that joins the two: the folder is where it is, whatever else is
on the disk. -/
def spot (folder file : String) (l : Location) : Except Error Target :=
  match refusal? (Path.join folder file) with
  | some e => .error e
  | none => if maxNameBytes < file.utf8ByteSize then .error .longName else .ok (.name l file)

theorem spot_cases (folder file : String) (l : Location) :
    (∃ e, spot folder file l = .error e) ∨
      file.utf8ByteSize ≤ maxNameBytes ∧ spot folder file l = .ok (.name l file) := by
  unfold spot
  split
  · exact .inl ⟨_, rfl⟩
  · split
    · exact .inl ⟨_, rfl⟩
    · next short => exact .inr ⟨Nat.not_lt.1 short, rfl⟩

/-- A file that the disk admits in the folder: neither its name nor its path is refused. -/
def Admits (folder file : String) : Prop :=
  refusal? (Path.join folder file) = none ∧ file.utf8ByteSize ≤ maxNameBytes

theorem spot_of_admits (admits : Admits folder file) (l : Location) :
    spot folder file l = .ok (.name l file) := by
  unfold spot
  rw [admits.1]
  exact if_neg (Nat.not_lt.2 admits.2)

theorem spot_of_not_admits (refused : ¬ Admits folder file) (l : Location) :
    ∃ e, spot folder file l = .error e := by
  unfold spot
  split
  · exact ⟨_, rfl⟩
  · next admitted =>
    split
    · exact ⟨_, rfl⟩
    · next short => exact (refused ⟨admitted, Nat.not_lt.1 short⟩).elim

theorem spot_root (undivided : Path.separator ∉ file.toList) (clean : '\x00' ∉ file.toList)
    (short : file.utf8ByteSize ≤ maxNameBytes) : spot "/" file l = .ok (.name l file) := by
  have path : Path.join "/" file = "/" ++ file := by
    unfold Path.join
    rw [Path.isAbsolute_eq_false undivided]
    rfl
  have admitted : refusal? ("/" ++ file) = none := by
    have bytes : ("/" ++ file).utf8ByteSize ≤ maxPathBytes := by
      rw [String.utf8ByteSize_append]
      exact (Nat.add_le_add_left short 1).trans (by decide)
    unfold refusal?
    rw [if_neg (by simp [String.toList_append, clean]), if_neg (by simp), if_neg (Nat.not_lt.2 bytes)]
  unfold spot
  rw [path, admitted]
  exact if_neg (Nat.not_lt.2 short)

theorem locate_join (there : d.folderAt folder = .ok l) (name : Path.IsFileName file) :
    d.locate (Path.join folder file) = spot folder file l := by
  have walked : d.walk (d.origin folder) (Path.names folder ++ [file]) = d.walk l [file] := by
    rw [walk_append]
    exact congrArg (· >>= fun l => d.walk l [file]) there
  unfold locate spot
  cases refusal? (Path.join folder file) with
  | some e => rfl
  | none =>
    have origin : d.origin (Path.join folder file) = d.origin folder := by
      rw [Disk.origin, Path.isAbsolute_join name.undivided]
      rfl
    simp only [origin, Path.steps_join name.undivided name.nonempty, walked, walk, beq_iff_eq,
      name.notHere, name.notUp, if_false]

theorem holds_join (there : d.folderAt folder = .ok l) (name : Path.IsFileName file) :
    d.holds (Path.join folder file) =
      match spot folder file l with
      | .error _ => false
      | .ok _ => (d.find? l file).isSome := by
  unfold holds
  rw [locate_join there name]
  obtain ⟨e, refused⟩ | ⟨short, found⟩ := spot_cases folder file l
  · simp only [refused]
  · simp only [found]

theorem read_join (there : d.folderAt folder = .ok l) (name : Path.IsFileName file) :
    d.read (Path.join folder file) =
      spot folder file l >>= fun _ =>
        match d.find? l file with
        | none => .error .absent
        | some .folder => .error .isFolder
        | some (.file content) => .ok content := by
  unfold read
  rw [locate_join there name]
  obtain ⟨e, refused⟩ | ⟨short, found⟩ := spot_cases folder file l
  · rw [refused]
    rfl
  · rw [found]
    rfl

theorem write_join (there : d.folderAt folder = .ok l) (name : Path.IsFileName file)
    (content : ByteArray) :
    d.write (Path.join folder file) content =
      spot folder file l >>= fun _ =>
        match d.find? l file with
        | some .folder => .error .isFolder
        | _ => .ok (d.put l file (.file content)) := by
  unfold write
  rw [locate_join there name]
  obtain ⟨e, refused⟩ | ⟨short, found⟩ := spot_cases folder file l
  · simp only [refused, bind, Except.bind]
  · simp only [found, bind, Except.bind]
    rfl

theorem list_folder (there : d.folderAt folder = .ok l) :
    d.list folder =
      match refusal? folder with
      | some e => .error e
      | none => .ok (d.entries l).keys := by
  have entered := walk_bind_enter d (d.origin folder) (Path.steps folder)
  rw [reach_steps, show d.reach _ _ = .ok l from there] at entered
  unfold list locate
  cases refusal? folder with
  | some e => rfl
  | none =>
    dsimp only
    cases walked : d.walk (d.origin folder) (Path.steps folder) with
    | error e => rw [walked] at entered; cases entered
    | ok target =>
      rw [walked] at entered
      cases target with
      | folder l' => cases entered; rfl
      | name l' name =>
        have entered : d.enter l' name = .ok l := entered
        simp only [bind, Except.bind, pure, Except.pure, entered]

theorem exists_of_list (listed : d.list folder = .ok names) :
    refusal? folder = none ∧ ∃ l, d.folderAt folder = .ok l ∧ (d.entries l).keys = names := by
  have entered := walk_bind_enter d (d.origin folder) (Path.steps folder)
  rw [reach_steps] at entered
  unfold list locate at listed
  cases refused : refusal? folder with
  | some e => rw [refused] at listed; cases listed
  | none =>
    rw [refused] at listed
    dsimp only at listed
    refine ⟨rfl, ?_⟩
    cases walked : d.walk (d.origin folder) (Path.steps folder) with
    | error e => rw [walked] at listed; cases listed
    | ok target =>
      rw [walked] at listed entered
      cases target with
      | folder l =>
        cases listed
        exact ⟨l, entered.symm, rfl⟩
      | name l name =>
        have here : d.enter l name = d.folderAt folder := entered
        simp only [bind, Except.bind] at listed
        rw [here] at listed
        cases found : d.folderAt folder with
        | error e => rw [found] at listed; cases listed
        | ok l =>
          rw [found] at listed
          cases listed
          exact ⟨l, rfl, rfl⟩

theorem makeAlong_reach {names : List String} {l' : Location} (there : d.reach l names = .ok l') :
    d.makeAlong l names = (.ok (), d) := by
  induction names generalizing l with
  | nil => rfl
  | cons name names ih =>
    rw [reach_cons] at there
    cases entered : d.enter l name with
    | error e => rw [entered] at there; cases there
    | ok next =>
      rw [entered] at there
      simp only [makeAlong, entered]
      exact ih there

theorem makeFolders_snd (there : d.folderAt folder = .ok l) : (d.makeFolders folder).2 = d := by
  unfold makeFolders
  split
  · rfl
  · rfl
  · rw [makeAlong_reach ((reach_steps ..).trans there)]

theorem makeFolders_eq (there : d.folderAt folder = .ok l) (admitted : refusal? folder = none) :
    d.makeFolders folder = (.ok (), d) := by
  unfold makeFolders
  rw [admitted]
  exact makeAlong_reach ((reach_steps ..).trans there)

/-- The disks differ in no more than the file of one name in one folder. -/
structure Differ (l : Location) (file : String) (d d' : Disk) : Prop where
  working : d'.working = d.working
  elsewhere : ∀ {m : Location} {name : String}, ¬(m.key = l.key ∧ name = file) →
    d'.find? m name = d.find? m name
  noFolder : d.find? l file ≠ some .folder
  short : file.utf8ByteSize ≤ maxNameBytes

theorem differ_put (noFolder : d.find? l file ≠ some .folder)
    (short : file.utf8ByteSize ≤ maxNameBytes) (content : ByteArray) :
    Differ l file d (d.put l file (.file content)) :=
  ⟨rfl, fun other => by rw [find?_put, if_neg other], noFolder, short⟩

theorem differ_of_write (there : d.folderAt folder = .ok l) (name : Path.IsFileName file)
    {content : ByteArray} (written : d.write (Path.join folder file) content = .ok d') :
    Differ l file d d' := by
  rw [write_join there name] at written
  obtain ⟨e, refused⟩ | ⟨short, found⟩ := spot_cases folder file l
  · rw [refused] at written
    cases written
  · rw [found] at written
    simp only [bind, Except.bind] at written
    split at written
    · cases written
    · next noFolder =>
      cases written
      exact differ_put noFolder short content

theorem differ_of_remove (there : d.folderAt folder = .ok l) (name : Path.IsFileName file)
    (removed : d.remove (Path.join folder file) = .ok d') : Differ l file d d' := by
  unfold remove at removed
  rw [locate_join there name] at removed
  obtain ⟨e, refused⟩ | ⟨short, found⟩ := spot_cases folder file l
  · rw [refused] at removed
    cases removed
  · rw [found] at removed
    simp only [bind, Except.bind] at removed
    split at removed
    · cases removed
    · cases removed
    · next held =>
      cases removed
      exact ⟨rfl, fun other => by rw [find?_drop, if_neg other], by simp [held], short⟩

namespace Differ

variable (differ : Differ l file d d')

include differ

theorem find?_other {other : String} (ne : other ≠ file) : d'.find? l other = d.find? l other :=
  differ.elsewhere fun ⟨_, same⟩ => ne same

theorem enter {m m' : Location} {name : String} (entered : d.enter m name = .ok m') :
    d'.enter m name = .ok m' := by
  by_cases same : m.key = l.key ∧ name = file
  · have here : d.find? m name = d.find? l file := by
      unfold find? entries
      rw [same.1, same.2]
    have noFolder := differ.noFolder
    rw [← here] at noFolder
    unfold Disk.enter at entered ⊢
    grind
  · unfold Disk.enter at entered ⊢
    rwa [differ.elsewhere same]

theorem reach {m m' : Location} {names : List String} (there : d.reach m names = .ok m') :
    d'.reach m names = .ok m' := by
  induction names generalizing m with
  | nil => exact there
  | cons name names ih =>
    rw [reach_cons] at there ⊢
    cases entered : d.enter m name with
    | error e => rw [entered] at there; cases there
    | ok next =>
      rw [entered] at there
      rw [differ.enter entered]
      exact ih there

theorem folderAt {folder : String} {m : Location} (there : d.folderAt folder = .ok m) :
    d'.folderAt folder = .ok m := by
  have origin : d'.origin folder = d.origin folder := by
    unfold Disk.origin
    rw [differ.working]
  unfold Disk.folderAt
  rw [origin]
  exact differ.reach there

variable {other : String} (there : d.folderAt folder = .ok l) (name : Path.IsFileName other)
  (ne : other ≠ file)

include there name ne

theorem holds : d'.holds (Path.join folder other) = d.holds (Path.join folder other) := by
  rw [holds_join there name, holds_join (differ.folderAt there) name, differ.find?_other ne]

theorem read : d'.read (Path.join folder other) = d.read (Path.join folder other) := by
  unfold Disk.read
  rw [locate_join there name, locate_join (differ.folderAt there) name]
  obtain ⟨e, refused⟩ | ⟨short, found⟩ := spot_cases folder other l
  · rw [refused]
    rfl
  · rw [found]
    simp only [bind, Except.bind, differ.find?_other ne]

omit there name ne

theorem filterMap_keys {α : Type} {f : String → Option α} (skipped : f file = none) :
    (d'.entries l).keys.filterMap f = (d.entries l).keys.filterMap f := by
  have others (m : Dict Entry) :
      m.keys.filterMap f = (m.keys.filter (· != file)).filterMap f := by
    rw [List.filterMap_filter]
    refine List.filterMap_congr fun name _ => ?_
    by_cases same : name = file
    · simp [same, skipped]
    · simp [same]
  have ascending (m : Dict Entry) : (m.keys.filter (· != file)).Pairwise (· < ·) :=
    m.keys_ascending.filter _
  have same : (d'.entries l).keys.filter (· != file) = (d.entries l).keys.filter (· != file) := by
    refine List.Pairwise.eq_of_mem_iff (ascending _) (ascending _) fun name => ?_
    simp only [List.mem_filter, ← Dict.contains_iff, Dict.contains, bne_iff_ne]
    refine and_congr_left fun ne => ?_
    rw [show (d'.entries l).get? name = (d.entries l).get? name from differ.find?_other ne]
  rw [others, same, ← others]

end Differ

end Disk

end VisualNovel
