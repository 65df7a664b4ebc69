import ViewAudit.Files.Basic

/-!
A file system held in memory: a tree of directories with files and symbolic
links, seen from the working directory. Relative paths are resolved from there
and absolute ones from the top of the tree, which is its own parent.
-/

namespace ViewAudit

inductive FileNode where
  | file (contents : List UInt8)
  /-- A symbolic link, relative to the directory that it is in. -/
  | link (target : List UInt8)
  | directory (entries : List (FileName × FileNode))

/-- A directory around another one. -/
structure Enclosure where
  /-- The name that the inner directory has in it. -/
  name : FileName
  /-- The entries apart from the inner directory. -/
  others : List (FileName × FileNode)

/-- A tree with a working directory. -/
structure FileTree where
  /-- The entries of the working directory. -/
  entries : List (FileName × FileNode)
  /-- The directories around the working directory, innermost first. There are
  none if it is the top of the tree. -/
  enclosures : List Enclosure := []

/-! ## Entries -/

/-- The entry of a name; the first one, should there be several. -/
def findEntry? (name : FileName) (entries : List (FileName × FileNode)) : Option FileNode :=
  (entries.find? (·.1 == name)).map Prod.snd

/-- The entries with another node at a name. -/
def setEntry (name : FileName) (node : FileNode) :
    List (FileName × FileNode) → List (FileName × FileNode)
  | [] => [(name, node)]
  | (other, old) :: rest =>
      if other = name then (name, node) :: rest else (other, old) :: setEntry name node rest

/-- The entries with a node put at a path; directories on the way are made, and
a directory is not put in place of another one. -/
def putEntry : List FileName → FileNode → List (FileName × FileNode) →
    List (FileName × FileNode)
  | [], _, entries => entries
  | [name], node, entries =>
      match node, findEntry? name entries with
      | .directory _, some (.directory _) => entries
      | _, _ => setEntry name node entries
  | name :: rest, node, entries =>
      let inner :=
        match findEntry? name entries with
        | some (.directory inner) => inner
        | _ => []
      setEntry name (.directory (putEntry rest node inner)) entries

/-! ## Paths -/

def slash : UInt8 := 0x2F

def dot : UInt8 := 0x2E

/-- The parts of a path between its slashes, of which some may be empty. -/
def splitPath : List UInt8 → List FileName
  | [] => [[]]
  | byte :: rest =>
      if byte = slash then [] :: splitPath rest
      else
        match splitPath rest with
        | [] => [[byte]]
        | name :: names => (byte :: name) :: names

/-- A node and the directories that it is in, innermost first. -/
structure Position where
  node : FileNode
  parents : List FileNode

namespace Position

/-- The directory that a node is in; the top is in itself. -/
def parent (position : Position) : Position :=
  match position.parents with
  | [] => position
  | node :: parents => ⟨node, parents⟩

/-- The top of the tree that a node is in. -/
def top (position : Position) : Position :=
  match position.parents.getLast? with
  | none => position
  | some node => ⟨node, []⟩

end Position

/-- The most bytes that a name may have. -/
def nameLimit : Nat := 255

/-- The fewest bytes that are too many for a path. -/
def pathLimit : Nat := 4096

/-- The most links that are followed on the way to a node. -/
def linkLimit : Nat := 40

/-- Goes from a directory along the parts of a path. What `follow` reaches
along the target of a link and the parts after it is taken for the end of the
way. -/
def advance (follow : List FileName → Position → Except ReadError Position) :
    List FileName → Position → Except ReadError Position
  | [], position => .ok position
  | name :: rest, position =>
      match position.node with
      | .directory entries =>
          if name = [] ∨ name = [dot] then advance follow rest position
          else if name = [dot, dot] then advance follow rest position.parent
          else if nameLimit < name.length then .error .nameTooLong
          else
            match findEntry? name entries with
            | none => .error .missing
            | some (.link target) =>
                follow (splitPath target ++ rest)
                  (if target.head? = some slash then position.top else position)
            | some node => advance follow rest ⟨node, position.node :: position.parents⟩
      | _ => .error .notADirectory

/-- Goes along the parts of a path and follows up to `links` links. -/
def walk : (links : Nat) → List FileName → Position → Except ReadError Position
  | 0 => advance fun _ _ => .error .tooManyLinks
  | links + 1 => advance (walk links)

/-- The directories around a directory, innermost first. -/
def Enclosure.directories : FileNode → List Enclosure → List FileNode
  | _, [] => []
  | inner, enclosure :: outer =>
      let directory := .directory ((enclosure.name, inner) :: enclosure.others)
      directory :: directories directory outer

namespace FileTree

/-- The working directory. -/
def here (tree : FileTree) : Position :=
  ⟨.directory tree.entries, Enclosure.directories (.directory tree.entries) tree.enclosures⟩

/-- What a path leads to, if it ends somewhere; links are followed. -/
def resolve (tree : FileTree) (path : String) : Except ReadError FileNode :=
  let bytes := Utf8.bytes path
  if bytes = [] then .error .missing
  else if bytes.contains 0 then .error .nulInPath
  else if pathLimit ≤ bytes.length then .error .nameTooLong
  else do
    let start := if bytes.head? = some slash then tree.here.top else tree.here
    return (← walk linkLimit (splitPath bytes) start).node

def read (tree : FileTree) (path : String) : Except ReadError (List UInt8) := do
  match ← tree.resolve path with
  | .file contents => .ok contents
  | _ => .error .isADirectory

/-- A link with a slash in front leads on from the top, above which there is
nothing. -/
example :
    let tree : FileTree :=
      { entries := [(Utf8.bytes "a", .file [0x61])]
        enclosures := [⟨Utf8.bytes "work", [(Utf8.bytes "b", .link (Utf8.bytes "/work/a"))]⟩] }
    tree.read "/b" = .ok [0x61] ∧ tree.read "../../b" = .ok [0x61] ∧
      tree.read "b" = .error .missing :=
  ⟨rfl, rfl, rfl⟩

/-- The names of the entries that can be found. -/
def namesOf (entries : List (FileName × FileNode)) : List FileName :=
  (entries.map Prod.fst).eraseDups

def list (tree : FileTree) (path : String) : Option (List FileName) :=
  match tree.resolve path with
  | .ok (.directory entries) => some (namesOf entries)
  | .ok _ => some []
  | .error _ => none

def files (tree : FileTree) : Files where
  read := tree.read
  list := tree.list

/-- An empty working directory, which is all that the directory around it has. -/
def empty : FileTree where
  entries := []
  enclosures := [⟨Utf8.bytes "work", []⟩]

/-- A tree with a node put at a path below the working directory. -/
def put (tree : FileTree) (path : List FileName) (node : FileNode) : FileTree :=
  { tree with entries := putEntry path node tree.entries }

end FileTree

end ViewAudit
