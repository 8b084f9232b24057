/-!
Paths: names divided by slashes. Empty parts and dots inside a path do not count.
-/

namespace VisualNovel.Path

def separator : Char := '/'

/-- The parts between the slashes, from the left. -/
def partsOf : List Char → List (List Char)
  | [] => [[]]
  | c :: cs =>
    if c = separator then [] :: partsOf cs
    else
      match partsOf cs with
      | [] => [[c]]
      | part :: parts => (c :: part) :: parts

theorem partsOf_ne_nil (cs : List Char) : partsOf cs ≠ [] := by
  cases cs with
  | nil => simp [partsOf]
  | cons c cs =>
    simp only [partsOf]
    split
    · simp
    · split <;> simp

def isAbsolute (path : String) : Bool := path.toList.head? == some separator

/-- The parts that a walk along the path visits. A path that ends in a slash ends in the folder
itself. -/
def steps (path : String) : List String :=
  let parts := (partsOf path.toList).map String.ofList
  parts.filter (· != "") ++ if parts.getLast? == some "" then ["."] else []

/-- Take the slashes and the parts that are a dot from the end, which comes first here. The slash
of the root and a dot at the beginning stay. -/
def trimReversed : List Char → List Char
  | ['/'] => ['/']
  | '/' :: rest => trimReversed rest
  | '.' :: '/' :: rest => trimReversed ('/' :: rest)
  | cs => cs

/-- The last name of a path, if it ends in one. -/
def fileName? (path : String) : Option String :=
  let name := String.ofList
    ((trimReversed path.toList.reverse).takeWhile (· != separator)).reverse
  if name == "" || name == "." || name == ".." then none else some name

/-- What is left of a path without its last name; nothing, when there is only a name. -/
def parent (path : String) : String :=
  String.ofList
    (trimReversed ((trimReversed path.toList.reverse).dropWhile (· != separator))).reverse

/-- A name at its last dot. A dot at the beginning does not divide. -/
def splitName (name : String) : String × Option String :=
  let extension := (name.toList.reverse.takeWhile (· != '.')).reverse
  match (name.toList.reverse.dropWhile (· != '.')).tail.reverse with
  | [] => (name, none)
  | stem => (String.ofList stem, some (String.ofList extension))

def stem? (path : String) : Option String := (fileName? path).map fun name => (splitName name).1

def extension? (path : String) : Option String :=
  (fileName? path).bind fun name => (splitName name).2

/-- A path from a folder; one from the root leads away from it. -/
def join (folder path : String) : String :=
  if isAbsolute path then path
  else if folder == "" || folder.toList.getLast? == some separator then folder ++ path
  else folder ++ String.singleton separator ++ path

end VisualNovel.Path
