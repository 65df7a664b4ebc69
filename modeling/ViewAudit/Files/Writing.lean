import ViewAudit.Files.Tree

/-!
Writing into a tree by path. Directories on the way are made, links on the way
are followed, and a file is written through a link. What is there already is
kept, but for the contents of files.
-/

namespace ViewAudit.FileTree

/-- The node in some entries that names lead to without a link. -/
def nodeIn? : List FileName → List (FileName × FileNode) → Option FileNode
  | [], entries => some (.directory entries)
  | [name], entries => findEntry? name entries
  | name :: rest, entries =>
      match findEntry? name entries with
      | some (.directory inner) => nodeIn? rest inner
      | _ => none

def node? (tree : FileTree) (names : List FileName) : Option FileNode :=
  nodeIn? names tree.entries

/-- A part of a path; whether it comes from the target of a link, where nothing
is made but the last part, and that only as a file. -/
structure Step where
  name : FileName
  isLinked : Bool

/-- Goes from a directory, given by the names that lead to it, along the parts of
a path, and gives the names that lead to its end without a link. What `follow`
finds after the target of a link is taken for the end. -/
def settleFrom (tree : FileTree) (makesFile : Bool)
    (follow : List Step → List FileName → Option (List FileName)) :
    List Step → List FileName → Option (List FileName)
  | [], directory => some directory
  | ⟨name, isLinked⟩ :: rest, directory =>
      if name = [] ∨ name = [dot] then settleFrom tree makesFile follow rest directory
      else if name = [dot, dot] then
        if directory = [] then none
        else settleFrom tree makesFile follow rest directory.dropLast
      else
        match tree.node? (directory ++ [name]) with
        | some (.directory _) => settleFrom tree makesFile follow rest (directory ++ [name])
        | some (.file _) => if rest.isEmpty then some (directory ++ [name]) else none
        | some (.link target) =>
            if target.head? = some slash then none
            else follow ((splitPath target).map (⟨·, true⟩) ++ rest) directory
        | none =>
            if !isLinked || (rest.isEmpty && makesFile) then
              some (directory ++ name :: rest.map Step.name)
            else none

def settle (tree : FileTree) (makesFile : Bool) :
    (links : Nat) → List Step → List FileName → Option (List FileName)
  | 0 => settleFrom tree makesFile fun _ _ => none
  | links + 1 => settleFrom tree makesFile (settle tree makesFile links)

/-- The names that lead without a link to where a path ends or will end. -/
def place? (tree : FileTree) (makesFile : Bool) (path : List FileName) : Option (List FileName) :=
  tree.settle makesFile linkLimit (path.map (⟨·, false⟩)) []

/-- Whether an entry can have a name. -/
def isEntryName (name : FileName) : Bool := name.length ≤ nameLimit && !name.contains 0

/-- Whether a link can have a target. -/
def isLinkTarget (target : List UInt8) : Bool :=
  !target.isEmpty && target.length < pathLimit && !target.contains 0

/-- The tree after a node was written at a path, if that can be done. -/
def write? (tree : FileTree) (path : List FileName) (node : FileNode) : Option FileTree := do
  if !path.all isEntryName then none
  else match node with
  | .file _ =>
      let place ← tree.place? true path
      match tree.node? place with
      | some (.directory _) => none
      | _ => some (tree.put place node)
  | .directory _ =>
      let place ← tree.place? false path
      match tree.node? place with
      | some (.directory _) => some tree
      | some _ => none
      | none => some (tree.put place node)
  | .link target =>
      if !isLinkTarget target then none
      let name ← path.getLast?
      let directory ← tree.place? false path.dropLast
      match tree.node? directory with
      | some (.directory _) =>
          if (tree.node? (directory ++ [name])).isSome then none
          else some (tree.put (directory ++ [name]) node)
      | some _ => none
      | none => some (tree.put (directory ++ [name]) node)

end ViewAudit.FileTree
