import LanguageBridge.Settings

/-!
# Where settings are stored

The standard place of the settings file, and what happens when settings are stored at a place: the
directories on the way are made, then the file is written.  Either step can fail, and the failure
names the path that it was about.
-/

namespace LanguageBridge.Settings

/-! ## Paths -/

/-- A path with one more component; a slash is added only where none stands. -/
def joinPath (path component : String) : String :=
  if path.toList.getLast? = some '/' || path.isEmpty then path ++ component
  else path ++ "/" ++ component

/-- Whether a path starts at the root. -/
def isAbsolute (path : String) : Bool := path.toList.head? = some '/'

/-- The place of the settings file of a user with a home directory; an absolute directory for
settings overrides the one inside the home. -/
def standardPath (home : String) (configHome : Option String) : String :=
  let base :=
    match configHome with
    | some dir => if isAbsolute dir then dir else joinPath home ".config"
    | none => joinPath home ".config"
  joinPath (joinPath base "lsp-bridge") "config.json"

/-- The parts of a path between slashes. -/
def splitPath : List Char → List (List Char)
  | [] => [[]]
  | c :: rest =>
    if c = '/' then [] :: splitPath rest
    else
      match splitPath rest with
      | [] => [[c]]
      | part :: more => (c :: part) :: more

/-- The directories and names along a path. -/
def components (path : String) : List (List Char) :=
  (splitPath path.toList).filter fun part => !part.isEmpty && part != ['.']

/-- What is left of a path without its last component. -/
def parentPath (path : String) : String :=
  let isSlash := fun c : Char => c == '/'
  let trimmed := path.toList.reverse.dropWhile isSlash
  let above := (trimmed.dropWhile fun c => !isSlash c).dropWhile isSlash
  String.ofList above.reverse

/-! ## Storing -/

/-- What a directory tree holds: the paths of directories and of files. -/
structure Tree where
  directories : List (List (List Char))
  files : List (List (List Char))

/-- The longest name, in bytes, that a component of a path may have. -/
def maxNameBytes : Nat := 255

/-- Whether a component may be the name of a file or directory. -/
def isName (component : List Char) : Bool :=
  component.all (fun c => c ≠ '\x00') && (String.ofList component).utf8ByteSize ≤ maxNameBytes

/-- The directory reached by following components; `..` leads back. -/
def follow (components : List (List Char)) : List (List Char) :=
  let step := fun (reached : List (List Char)) (part : List Char) =>
    if part = ['.', '.'] then reached.drop 1 else part :: reached
  (components.foldl step []).reverse

/-- All directories that components lead through, the shortest first. -/
def through (components : List (List Char)) : List (List (List Char)) :=
  (List.range components.length).map fun n => follow (components.take (n + 1))

/-- The tree with the directories on a path made, or none if something is in the way. -/
def Tree.makeDirectories? (t : Tree) (path : String) : Option Tree :=
  let parts := components path
  let wanted := through parts
  if parts.all isName && wanted.all fun d => !t.files.contains d then
    some { t with directories := t.directories ++ wanted }
  else none

/-- Whether a file can be written at a path. -/
def Tree.canWrite (t : Tree) (path : String) : Bool :=
  let target := follow (components path)
  path.toList.getLast? != some '/' && (components path).all isName
    && !t.directories.contains target && !target.isEmpty

/-- The text stored at a path, or the path that stood in the way. -/
def save (t : Tree) (path : String) (s : Settings) : Except String String :=
  let parent := parentPath path
  match t.makeDirectories? parent with
  | none => .error parent
  | some t => if t.canWrite path then .ok s.toText else .error path

end LanguageBridge.Settings
