import ViewAudit.Proofs.Guide.Loading

/-!
Discovery of guides. What is discovered in a directory is what it has under a
visible name with the right suffix, whatever it may be. Such a name is that of
the file of exactly one guide, so loading neither passes over a candidate for
want of a name nor puts one guide in the place of another.
-/

namespace ViewAudit

/-! ## Names by pattern -/

/-- A text is of the form that a pattern gives: a star stands for any characters,
newlines among them, and every other character for itself. -/
def MatchesGlob : List Char → List Char → Prop
  | [], text => text = []
  | c :: pattern, text =>
      if c = '*' then ∃ run rest, text = run ++ rest ∧ MatchesGlob pattern rest
      else ∃ rest, text = c :: rest ∧ MatchesGlob pattern rest

theorem matchesGlob_iff_eq {word text : List Char} (h : '*' ∉ word) :
    MatchesGlob word text ↔ text = word := by
  induction word generalizing text with
  | nil => exact Iff.rfl
  | cons c rest ih =>
      have hc : c ≠ '*' := fun heq => h (heq ▸ List.mem_cons_self)
      have hrest : '*' ∉ rest := fun hmem => h (List.mem_cons_of_mem _ hmem)
      rw [MatchesGlob, if_neg hc]
      constructor
      · rintro ⟨more, rfl, hmore⟩
        rw [(ih hrest).mp hmore]
      · rintro rfl
        exact ⟨rest, rfl, (ih hrest).mpr rfl⟩

theorem matchesGlob_guidePattern_iff {fileName : String} :
    MatchesGlob guidePattern.toList fileName.toList ↔ ∃ name, fileName = guideFile name := by
  have hpattern : guidePattern.toList = '*' :: guideSuffix := rfl
  rw [← isSuffixOf_toList_iff, List.isSuffixOf_iff_suffix, hpattern, MatchesGlob, if_pos rfl]
  constructor
  · rintro ⟨run, rest, htext, hrest⟩
    rw [(matchesGlob_iff_eq (by decide)).mp hrest] at htext
    exact ⟨run, htext.symm⟩
  · rintro ⟨run, htext⟩
    exact ⟨run, guideSuffix, htext.symm, (matchesGlob_iff_eq (by decide)).mpr rfl⟩

/-- The name of the guide in a file is what stands before the suffix, if
anything does. -/
theorem guideName?_eq_some_iff {fileName name : String} :
    guideName? fileName = some name ↔ name ≠ "" ∧ fileName = guideFile name := by
  constructor
  · intro h
    rw [guideName?] at h
    split at h
    case isFalse => cases h
    case isTrue hboth =>
      obtain ⟨hsuffix, hlength⟩ := Bool.and_eq_true_iff.mp hboth
      obtain ⟨other, rfl⟩ := isSuffixOf_toList_iff.mp hsuffix
      have hother : other ≠ "" := by
        rintro rfl
        cases hlength
      have hname := guideName?_guideFile hother
      rw [guideName?, if_pos hboth, h] at hname
      cases hname
      exact ⟨hother, rfl⟩
  · rintro ⟨hname, rfl⟩
    exact guideName?_guideFile hname

/-! ## Paths -/

theorem splitPath_ne_nil (path : List UInt8) : splitPath path ≠ [] := by
  cases path with
  | nil => exact List.cons_ne_nil _ _
  | cons byte rest =>
      rw [splitPath]
      split
      · exact List.cons_ne_nil _ _
      · split <;> exact List.cons_ne_nil _ _

theorem splitPath_append (front rest : List UInt8) :
    splitPath (front ++ slash :: rest) = splitPath front ++ splitPath rest := by
  induction front with
  | nil => rfl
  | cons byte more ih =>
      rw [List.cons_append, splitPath, splitPath, ih]
      by_cases hbyte : byte = slash
      · rw [if_pos hbyte, if_pos hbyte, List.cons_append]
      · obtain ⟨first, names, hnames⟩ := List.exists_cons_of_ne_nil (splitPath_ne_nil more)
        rw [if_neg hbyte, if_neg hbyte, hnames]
        rfl

theorem splitPath_eq_singleton {name : List UInt8} (h : slash ∉ name) :
    splitPath name = [name] := by
  induction name with
  | nil => rfl
  | cons byte rest ih =>
      have hbyte : byte ≠ slash := fun heq => h (heq ▸ List.mem_cons_self)
      rw [splitPath, if_neg hbyte, ih fun hmem => h (List.mem_cons_of_mem _ hmem)]

/-- A path to a file ends with the name of the file. -/
theorem getLast?_splitPath_joinPath (root : String) {fileName : String}
    (h : slash ∉ Utf8.bytes fileName) :
    (splitPath (Utf8.bytes (joinPath root fileName))).getLast? = some (Utf8.bytes fileName) := by
  have hpath : ∃ front, Utf8.bytes (joinPath root fileName) =
      front ++ slash :: Utf8.bytes fileName := by
    rw [joinPath]
    split
    case isTrue hroot =>
      obtain ⟨front, hfront⟩ := List.getLast?_eq_some_iff.mp hroot
      have hslash : Utf8.encode ['/'] = [slash] := rfl
      refine ⟨Utf8.encode front, ?_⟩
      rw [Utf8.bytes_append, Utf8.bytes, hfront, Utf8.encode_append, hslash, List.append_assoc]
      rfl
    case isFalse =>
      refine ⟨Utf8.bytes root, ?_⟩
      rw [Utf8.bytes_append, Utf8.bytes_append, List.append_assoc]
      rfl
  obtain ⟨front, hfront⟩ := hpath
  rw [hfront, splitPath_append, splitPath_eq_singleton h, List.getLast?_concat]

/-! ## Reading candidates in a row -/

/-- A file is that of a guide, and of one that has no text so far. -/
def LoadedGuides.IsNew (loaded : LoadedGuides) (fileName : String) : Prop :=
  ∃ name, guideName? fileName = some name ∧ ∀ text, (loaded.corpus.exchange name text).1 = none

namespace LoadedGuides

variable (files : Files) (root : String)

theorem readEvents_of_isNew {loaded : LoadedGuides} {fileName : String}
    (h : loaded.IsNew fileName) :
    readEvents files root loaded fileName =
      (skippedGuide? files root fileName).toList.map SkippedGuide.event := by
  obtain ⟨name, hname, hnew⟩ := h
  rw [readEvents, hname, skippedGuide?]
  cases htext : files.readText (joinPath root fileName) with
  | ok text => simp [htext, hnew]
  | error reason => simp [htext]

section Candidates

variable {fileNames : List String} (hfiles : ∀ fileName ∈ fileNames, isGuideFile fileName = true)
  (hnodup : fileNames.Nodup)

include hfiles hnodup

/-- Whenever a candidate comes to be read, its guide is new: only its own file
could have given it a text. -/
theorem isNew_of_split {before after : List String} {fileName : String}
    (h : fileNames = before ++ fileName :: after) :
    (before.foldl (read files root) nothing).IsNew fileName := by
  have hbefore : ∀ other ∈ before, isGuideFile other = true := fun other hmem =>
    hfiles other (h ▸ List.mem_append_left _ hmem)
  have hfile : isGuideFile fileName = true := hfiles fileName (by simp [h])
  obtain ⟨name, hname, -, rfl⟩ := isGuideFile_iff.mp hfile
  have hfresh : guideFile name ∉ before := by
    intro hmem
    rw [h] at hnodup
    exact (List.nodup_append.mp hnodup).2.2 _ hmem _ List.mem_cons_self rfl
  refine ⟨name, guideName?_guideFile hname, fun text => ?_⟩
  rw [Corpus.exchange_eq, get?_foldl_read files root hbefore, textAmong?, if_neg hfresh]
  rfl

/-- The events of reading candidates are those for what is skipped. -/
theorem eventsOfReading_eq :
    eventsOfReading files root nothing fileNames =
      (fileNames.filterMap (skippedGuide? files root)).map SkippedGuide.event := by
  -- by induction on what is still to be read, whatever was read before it
  have hrest (before after : List String) (hsplit : fileNames = before ++ after) :
      eventsOfReading files root (before.foldl (read files root) nothing) after =
        (after.filterMap (skippedGuide? files root)).map SkippedGuide.event := by
    induction after generalizing before with
    | nil => rfl
    | cons fileName rest ih =>
        have hnew := isNew_of_split files root hfiles hnodup hsplit
        have hlater := ih (before ++ [fileName]) (by rw [hsplit, List.append_assoc]; rfl)
        rw [List.foldl_append, List.foldl_cons, List.foldl_nil] at hlater
        rw [eventsOfReading, readEvents_of_isNew files root hnew, hlater]
        cases hskipped : skippedGuide? files root fileName with
        | none => rw [List.filterMap_cons_none hskipped]; rfl
        | some skipped => rw [List.filterMap_cons_some hskipped]; rfl
  exact hrest [] fileNames rfl

end Candidates

end LoadedGuides

/-! ## Discovered guides -/

/-- Discovery at a root finds the files of these names, and they are those of
its guides. -/
structure Files.Discovers (files : Files) (root : String) (fileNames : List String) : Prop where
  paths_eq : discoverGuides files root = fileNames.map (joinPath root)
  nodup_paths : (discoverGuides files root).Nodup
  sorted : fileNames.Pairwise fun first second => Utf8.bytes first < Utf8.bytes second
  mem_iff : ∀ fileName, fileName ∈ fileNames ↔ files.Lists root (Utf8.bytes fileName) ∧
    fileName.toList.head? ≠ some '.' ∧ ∃ name, fileName = name ++ ".md"
  /-- The pattern of the search asks for the suffix and for nothing else. -/
  matchesGlob_iff : ∀ fileName : String,
    MatchesGlob guidePattern.toList fileName.toList ↔ ∃ name, fileName = name ++ ".md"
  paths_eq_nil : (∀ name, ¬ files.Lists root name) → discoverGuides files root = []
  paths_eq_of_perm : ∀ other : Files, Option.Rel List.Perm (other.list root) (files.list root) →
    discoverGuides other root = discoverGuides files root
  /-- A path ends with the name of its file, in which no slash can be. -/
  fileName_eq : ∀ fileName ∈ fileNames, slash ∉ Utf8.bytes fileName →
    (splitPath (Utf8.bytes (joinPath root fileName))).getLast? = some (Utf8.bytes fileName)
  named : ∀ fileName ∈ fileNames, ∃ name,
    guideName? fileName = some name ∧ name ≠ "" ∧ name ++ ".md" = fileName
  names_ne : ∀ first ∈ fileNames, ∀ second ∈ fileNames,
    joinPath root first ≠ joinPath root second → guideName? first ≠ guideName? second
  /-- Whatever was read before a file, its guide has no text yet. -/
  isNew : ∀ before fileName after, fileNames = before ++ fileName :: after →
    (before.foldl (LoadedGuides.read files root) .nothing).IsNew fileName
  loaded_eq : ∀ listing, files.list root = some listing →
    LoadedGuides.ofListing files root listing =
      fileNames.foldl (LoadedGuides.read files root) .nothing
  events_eq : ∀ listing, files.list root = some listing →
    LoadedGuides.eventsOfReading files root .nothing fileNames =
      (LoadedGuides.ofListing files root listing).skipped.map SkippedGuide.event

/-- The files that discovery finds at a root, in terms of the tree that a system
gives access to. -/
structure FileTree.HasDiscovered (tree : FileTree) (files : Files) (root : String)
    (fileNames : List String) : Prop where
  hasChild : ∀ fileName ∈ fileNames, tree.HasChild root (Utf8.bytes fileName)
  /-- Nothing is missed unless the system tells that it did not list it. -/
  mem_iff : files.listFailures root = [] → ∀ fileName, fileName ∈ fileNames ↔
    tree.HasChild root (Utf8.bytes fileName) ∧ fileName.toList.head? ≠ some '.' ∧
      ∃ name, fileName = name ++ ".md"
  /-- There are no guides at a root that is missing or no directory. -/
  paths_eq_nil : (∀ entries, tree.resolve root ≠ .ok (.directory entries)) →
    discoverGuides files root = []

theorem discovers_candidates {files : Files} {root : String} (honce : files.ListsOnce root) :
    files.Discovers root (files.candidates root) := by
  have hnodup := honce.nodup_candidates
  have hfiles : ∀ fileName ∈ files.candidates root, isGuideFile fileName = true :=
    fun fileName hcandidate => (mem_candidates_iff.mp hcandidate).2
  have hcandidates {listing : List FileName} (hlist : files.list root = some listing) :
      files.candidates root = candidatesIn listing := by
    rw [Files.candidates, hlist, Option.getD_some]
  constructor
  case paths_eq => rfl
  case nodup_paths =>
    exact List.pairwise_map.mpr (hnodup.imp fun hne heq => hne (joinPath_injective heq))
  case sorted => exact honce.candidates_sorted
  case mem_iff =>
    intro fileName
    rw [mem_candidates_iff, isGuideFile, Bool.and_eq_true_iff, isSuffixOf_toList_iff, bne_iff_ne]
    rfl
  case matchesGlob_iff =>
    intro fileName
    exact matchesGlob_guidePattern_iff
  case paths_eq_nil =>
    intro hnone
    have hnil : files.candidates root = [] := by
      rw [List.eq_nil_iff_forall_not_mem]
      intro fileName hcandidate
      exact hnone _ (mem_candidates_iff.mp hcandidate).1
    exact congrArg (List.map (joinPath root)) hnil
  case paths_eq_of_perm =>
    intro other hperm
    exact congrArg (List.map (joinPath root)) (candidates_eq_of_perm hperm)
  case fileName_eq =>
    intro fileName _ hslash
    exact getLast?_splitPath_joinPath root hslash
  case named =>
    intro fileName hcandidate
    obtain ⟨name, hname, -, rfl⟩ := isGuideFile_iff.mp (hfiles fileName hcandidate)
    exact ⟨name, guideName?_guideFile hname, hname, rfl⟩
  case names_ne =>
    intro first hfirst second hsecond hpaths heq
    obtain ⟨name, hname, -, rfl⟩ := isGuideFile_iff.mp (hfiles first hfirst)
    rw [guideName?_guideFile hname] at heq
    obtain ⟨-, rfl⟩ := guideName?_eq_some_iff.mp heq.symm
    exact hpaths rfl
  case isNew =>
    intro before fileName after hsplit
    exact LoadedGuides.isNew_of_split files root hfiles hnodup hsplit
  case loaded_eq =>
    intro listing hlist
    rw [hcandidates hlist]
    rfl
  case events_eq =>
    intro listing hlist
    rw [LoadedGuides.eventsOfReading_eq files root hfiles hnodup, hcandidates hlist,
      LoadedGuides.skipped_ofListing]

/-- The log of loading tells what could not be listed, what has no name, what was
skipped and, if there are guides, how many; nothing is ever replaced. -/
theorem loadingEvents_eq {files : Files} {root : String} (honce : files.ListsOnce root)
    {listing : List FileName} (hlist : files.list root = some listing) :
    let loaded := LoadedGuides.ofListing files root listing
    loadingEvents files root =
      discoveryEvents files root listing ++ loaded.skipped.map SkippedGuide.event ++
        if loaded.corpus.isEmpty then [] else [loaded.event root] := by
  have hfound := discovers_candidates honce
  have hcandidates : files.candidates root = candidatesIn listing := by
    rw [Files.candidates, hlist, Option.getD_some]
  simp only [loadingEvents, hlist]
  rw [← hcandidates, hfound.events_eq listing hlist]

theorem FileTree.IsServedBy.hasDiscovered {tree : FileTree} {files : Files} {root : String}
    (hserved : tree.IsServedBy files) {fileNames : List String}
    (h : files.Discovers root fileNames) : tree.HasDiscovered files root fileNames where
  hasChild fileName hmem := hserved.hasChild_of_lists root ((h.mem_iff fileName).mp hmem).1
  mem_iff hnil fileName := by rw [h.mem_iff, hserved.lists_iff_hasChild root hnil]
  paths_eq_nil hnone := by
    refine h.paths_eq_nil fun name hlists => ?_
    obtain ⟨entries, -, hentries, -⟩ := hserved.hasChild_of_lists root hlists
    exact hnone entries hentries

/-- What is discovered at a root is, in the order of the bytes of the names and
each once, every child with a visible name that ends with the suffix. Every one
is the file of a guide and no two of the same one, so reading them never comes
to a file without a guide or to a guide that has a text already. The children
are those of the tree that the system gives access to. -/
theorem discovery_finds_exactly_the_candidates (files : Files) (root : String)
    (honce : files.ListsOnce root) :
    ∃ fileNames, files.Discovers root fileNames ∧
      ∀ tree : FileTree, tree.IsServedBy files → tree.HasDiscovered files root fileNames := by
  have hfound := discovers_candidates honce
  exact ⟨_, hfound, fun tree hserved => hserved.hasDiscovered hfound⟩

/-- A directory behind a link from the top, with a directory and a dangling link
that have names of guides, and names that only come close to them. -/
def oddlyNamedGuides : FileTree where
  entries := [(Utf8.bytes "kept", .directory
    [(Utf8.bytes "x.md.md", .file (Utf8.bytes "- One")),
      (Utf8.bytes "lost.md", .link (Utf8.bytes "nowhere")),
      (Utf8.bytes "..md", .file (Utf8.bytes "- Hidden")),
      (Utf8.bytes ".md", .file (Utf8.bytes "- Without a name")),
      (Utf8.bytes "X.MD", .file (Utf8.bytes "- Loud")),
      (0xFF :: Utf8.bytes ".md", .file (Utf8.bytes "- No text")),
      (Utf8.bytes "a\nb.md", .directory [])])]
  enclosures := [⟨Utf8.bytes "work", [(Utf8.bytes "g", .link (Utf8.bytes "/work/kept"))]⟩]

/-- A system that gives access to these guides. -/
def oddSystem : Files := oddlyNamedGuides.guarded []

theorem oddly_named_guides_are_discovered :
    oddSystem.ListsOnce "/g" ∧
      discoverGuides oddSystem "/g" = ["/g/a\nb.md", "/g/lost.md", "/g/x.md.md"] ∧
      (∃ name, guideName? "x.md.md" = some name ∧ name ≠ "" ∧ name ++ ".md" = "x.md.md") ∧
      guideName? "lost.md" ≠ guideName? "x.md.md" ∧
      (["a\nb.md", "lost.md"].foldl (LoadedGuides.read oddSystem "/g") .nothing).IsNew "x.md.md" ∧
      oddlyNamedGuides.HasChild "/g" (Utf8.bytes "lost.md") ∧
      discoverGuides oddSystem "kept/lost.md" = [] := by
  have hserved : oddlyNamedGuides.IsServedBy oddSystem := oddlyNamedGuides.isServedBy_guarded _
  have honce := hserved.listsOnce "/g"
  have hlisting : oddSystem.list "/g" =
      some [Utf8.bytes "a\nb.md", 0xFF :: Utf8.bytes ".md", Utf8.bytes "X.MD", Utf8.bytes ".md",
        Utf8.bytes "..md", Utf8.bytes "lost.md", Utf8.bytes "x.md.md"] := by
    decide +kernel
  have hcandidates : oddSystem.candidates "/g" = ["a\nb.md", "lost.md", "x.md.md"] := by
    have hperm : [Utf8.bytes "a\nb.md", 0xFF :: Utf8.bytes ".md", Utf8.bytes "X.MD",
          Utf8.bytes ".md", Utf8.bytes "..md", Utf8.bytes "lost.md", Utf8.bytes "x.md.md"].Perm
        [Utf8.bytes "..md", Utf8.bytes ".md", Utf8.bytes "X.MD", Utf8.bytes "a\nb.md",
          Utf8.bytes "lost.md", Utf8.bytes "x.md.md", 0xFF :: Utf8.bytes ".md"] := by
      decide +kernel
    rw [Files.candidates, hlisting, Option.getD_some,
      candidatesIn_eq_of_sorted hperm (by decide +kernel)]
    decide +kernel
  have hpaths : discoverGuides oddSystem "/g" =
      ["a\nb.md", "lost.md", "x.md.md"].map (joinPath "/g") := congrArg (List.map _) hcandidates
  obtain ⟨fileNames, hfound, htree⟩ := discovery_finds_exactly_the_candidates oddSystem "/g" honce
  obtain rfl : fileNames = ["a\nb.md", "lost.md", "x.md.md"] :=
    (List.map_inj_right fun _ _ => joinPath_injective).mp (hfound.paths_eq.symm.trans hpaths)
  obtain ⟨_, -, hnothing⟩ :=
    discovery_finds_exactly_the_candidates oddSystem "kept/lost.md"
      (hserved.listsOnce "kept/lost.md")
  refine ⟨honce, hpaths.trans (by decide), hfound.named "x.md.md" (by decide),
    hfound.names_ne "lost.md" (by decide) "x.md.md" (by decide) (by decide),
    hfound.isNew ["a\nb.md", "lost.md"] "x.md.md" [] rfl,
    (htree _ hserved).hasChild "lost.md" (by decide),
    (hnothing _ hserved).paths_eq_nil fun entries hentries => ?_⟩
  have hresolve : oddlyNamedGuides.resolve "kept/lost.md" = .error .missing := rfl
  rw [hresolve] at hentries
  cases hentries

end ViewAudit
