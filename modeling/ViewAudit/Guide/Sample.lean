import ViewAudit.Files.Tree

/-!
A small set of guides, one for each topic, to try the advisor with.
-/

namespace ViewAudit.Sample

def navigationGuide : String :=
  "# Navigation\n\nNavigation should feel effortless.\n\n" ++
    "- Use a tab bar for top-level sections\n" ++
    "- Keep hierarchies shallow\n" ++
    "- Always show where the user is\n"

def actionsGuide : String := "# Actions\n\n- Make tap targets at least 44x44 points\n"

/-- A directory with both guides. -/
def guides : FileTree :=
  (FileTree.empty.put [Utf8.bytes "navigation.md"] (.file (Utf8.bytes navigationGuide))).put
    [Utf8.bytes "actions.md"] (.file (Utf8.bytes actionsGuide))

end ViewAudit.Sample
