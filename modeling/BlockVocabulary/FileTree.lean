import BlockVocabulary.Keyed

/-!
A tree of files, and what a program may do with files.

A path is a sequence of names between slashes, read from the directory the program runs in or, after
a slash, from the top. Names that are empty or a single dot stay where they are, two dots go to the
directory above. Above the directory of the program there are only directories, up to the top, which
is above itself.
-/

namespace BlockVocabulary

/-- Why a call on files fails. -/
inductive FileError where
  | noSuchFile
  | fileExists
  | notADirectory
  | isADirectory
  | nameTooLong
  | notText
  | other (text : String)
  deriving DecidableEq, Repr

def FileError.message : FileError → String
  | .noSuchFile => "No such file or directory (os error 2)"
  | .fileExists => "File exists (os error 17)"
  | .notADirectory => "Not a directory (os error 20)"
  | .isADirectory => "Is a directory (os error 21)"
  | .nameTooLong => "File name too long (os error 36)"
  | .notText => "stream did not contain valid UTF-8"
  | .other text => text

/-- The calls on files that a program makes, with effects in `m`. -/
structure FileAccess (m : Type → Type) where
  /-- The text of a file. -/
  read : String → m (Except FileError String)
  /-- Makes a directory and those above it, where they are missing. -/
  makeDirectories : String → m (Except FileError Unit)
  /-- Gives a file new content, and makes it if it is missing. -/
  write : String → String → m (Except FileError Unit)

/-- The path of a name inside a directory. -/
def joinPath (directory name : String) : String :=
  if directory = "" || directory.toList.getLast? = some '/' then directory ++ name
  else directory ++ "/" ++ name

/-- The most bytes a path may have. -/
def longestPath : Nat := 4095

/-- The most bytes a name in a path may have. -/
def longestName : Nat := 255

/-- Where a path leads: so many levels above the directory of the program, and from there down to
names, one inside the other. -/
structure Place where
  above : Nat
  names : List String
  deriving DecidableEq, Repr

namespace Place

/-- The path of a place without detours. -/
def key (p : Place) : String :=
  String.join (List.replicate p.above "../") ++ "/".intercalate p.names

def child (p : Place) (name : String) : Place := { p with names := p.names ++ [name] }

/-- The place one level up, where the top is `depth` levels above the directory of the program. -/
def parent (depth : Nat) : Place → Place
  | ⟨above, []⟩ => ⟨min (above + 1) depth, []⟩
  | ⟨above, names⟩ => ⟨above, names.dropLast⟩

end Place

/-- Files by the keys of their places, and the keys of the directories that were made. A directory
that a file lies in exists without being made. -/
structure FileTree where
  files : Table ByteArray
  made : List String := []
  /-- How many levels the directory of the program lies below the top. -/
  depth : Nat

namespace FileTree

/-- The names between the slashes of a path. -/
def splitSlashes : List Char → List (List Char)
  | [] => [[]]
  | c :: cs =>
    if c = '/' then [] :: splitSlashes cs
    else match splitSlashes cs with
      | [] => [[c]]
      | name :: names => (c :: name) :: names

/-- The names of a path that lead somewhere. -/
def steps (path : String) : List String :=
  ((splitSlashes path.toList).map String.ofList).filter fun name => name ≠ "" && name ≠ "."

/-- The names of the directories at the top of every machine. -/
def topNames : List String :=
  ["bin", "boot", "dev", "etc", "home", "lib", "media", "mnt", "opt", "proc", "root", "run", "sbin",
    "srv", "sys", "tmp", "usr", "var"]

/-- Files in the directory of the program and below it, on a machine with nothing else but its
directories and the file that is always empty. The directory lies in one of those at the top. -/
def ofFiles (files : List (String × ByteArray)) : FileTree :=
  let atTop (names : List String) := Place.key ⟨2, names⟩
  { files := Table.ofList ((atTop ["dev", "null"], ByteArray.empty) :: files)
    made := topNames.map fun name => atTop [name]
    depth := 2 }

/-- The files in the directory of the program and below it. -/
def ownFiles (t : FileTree) : List (String × ByteArray) :=
  t.files.entries.filter fun (key, _) => !"../".isPrefixOf key

def isFile (t : FileTree) (p : Place) : Bool := t.files.contains p.key

def isDirectory (t : FileTree) (p : Place) : Bool :=
  p.names.isEmpty || t.made.contains p.key || t.files.keys.any fun k => (p.key ++ "/").isPrefixOf k

/-- The place one step from a directory; a step to a file or to nothing must be the last. -/
def step (t : FileTree) (p : Place) (name : String) : Except FileError Place :=
  if t.isDirectory p then
    if name = ".." then .ok (p.parent t.depth)
    else if longestName < name.utf8ByteSize then .error .nameTooLong
    else .ok (p.child name)
  else if t.isFile p then .error .notADirectory
  else .error .noSuchFile

/-- Where the way of a path begins. -/
def start (t : FileTree) (path : String) : Place :=
  ⟨if path.toList.head? = some '/' then t.depth else 0, []⟩

/-- Whether a path can only mean a directory. -/
def asksDirectory (path : String) : Bool :=
  match (splitSlashes path.toList).getLast? with
  | some name => name = [] || name = ['.'] || name = ['.', '.']
  | none => true

/-- The place of a path, which need not exist, but all directories on the way do. -/
def resolve (t : FileTree) (path : String) : Except FileError Place :=
  if path = "" then .error .noSuchFile
  else if longestPath < path.utf8ByteSize then .error .nameTooLong
  else (steps path).foldlM t.step (t.start path)

def read (t : FileTree) (path : String) : Except FileError String := do
  let place ← t.resolve path
  if t.isDirectory place then throw .isADirectory
  match t.files.get? place.key with
  | none => throw .noSuchFile
  | some bytes =>
    if asksDirectory path then throw .notADirectory
    match String.fromUTF8? bytes with
    | some text => return text
    | none => throw .notText

/-- Making the directories on a path: the tree, the place reached, and whether one was made yet. -/
structure Making where
  tree : FileTree
  place : Place
  begun : Bool := false

/-- Makes the directory one step further, if it is missing. A file there is passed over for the next
step to stumble on, unless a directory was made before it. -/
def Making.step (m : Making) (name : String) : Except FileError Making := do
  let place ← m.tree.step m.place name
  if m.tree.isDirectory place then return { m with place := place }
  else if m.tree.isFile place then
    if m.begun then throw .fileExists else return { m with place := place }
  else return ⟨{ m.tree with made := m.tree.made ++ [place.key] }, place, true⟩

/-- Whether a path ends in a single dot. -/
def endsInDot (path : String) : Bool :=
  ((splitSlashes path.toList).filter (· ≠ [])).getLast? = some ['.']

/-- Makes the directories on a path; the one before a dot at the end must be there already. -/
def makeDirectories (t : FileTree) (path : String) : Except FileError FileTree := do
  if path = "" then return t
  if longestPath < path.utf8ByteSize then throw .nameTooLong
  let names := steps path
  let missing := if endsInDot path then names.dropLast else names
  let ⟨t, place, _⟩ ← missing.foldlM Making.step { tree := t, place := t.start path }
  let place ← (names.drop missing.length).foldlM t.step place
  if t.isDirectory place then return t
  else if t.isFile place then throw (if endsInDot path then .notADirectory else .fileExists)
  else throw .noSuchFile

def write (t : FileTree) (path content : String) : Except FileError FileTree := do
  let place ← t.resolve path
  if t.isDirectory place || asksDirectory path then throw .isADirectory
  return { t with files := t.files.insert place.key content.toUTF8 }

/-- The calls on files, on a tree that changes with them. A call that fails changes nothing. -/
def access : FileAccess (StateM FileTree) where
  read path := do return (← get).read path
  makeDirectories path := do
    match (← get).makeDirectories path with
    | .ok t => set t; return .ok ()
    | .error e => return .error e
  write path content := do
    match (← get).write path content with
    | .ok t => set t; return .ok ()
    | .error e => return .error e

end FileTree

end BlockVocabulary
