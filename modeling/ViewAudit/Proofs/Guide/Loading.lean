import ViewAudit.Guide.Loading
import ViewAudit.Proofs.Files.Service
import ViewAudit.Proofs.Guide.Corpus
import ViewAudit.Proofs.Text.Utf8

/-!
Loading guides accounts for every candidate once: the text of a candidate that
can be read is in the corpus, and one that cannot be read is skipped. Nothing
depends on the order in which a system lists a directory.
-/

namespace ViewAudit

/-! ## Names of files and guides -/

/-- The file that a guide is in. -/
def guideFile (name : String) : String := name ++ ".md"

theorem toList_guideFile (name : String) :
    (guideFile name).toList = name.toList ++ guideSuffix := String.toList_append

theorem guideFile_injective {name other : String} (h : guideFile name = guideFile other) :
    name = other := by
  have hchars := congrArg String.toList h
  rw [toList_guideFile, toList_guideFile] at hchars
  exact String.toList_inj.mp (List.append_cancel_right hchars)

theorem isSuffixOf_toList_iff {fileName : String} :
    guideSuffix.isSuffixOf fileName.toList = true ↔ ∃ name, fileName = guideFile name := by
  rw [List.isSuffixOf_iff_suffix]
  constructor
  · rintro ⟨front, hfront⟩
    refine ⟨String.ofList front, ?_⟩
    rw [← String.toList_inj, toList_guideFile, String.toList_ofList, hfront]
  · rintro ⟨name, rfl⟩
    rw [toList_guideFile]
    exact List.suffix_append _ _

theorem guideName?_guideFile {name : String} (h : name ≠ "") :
    guideName? (guideFile name) = some name := by
  have hsuffix : guideSuffix.isSuffixOf (guideFile name).toList = true :=
    isSuffixOf_toList_iff.mpr ⟨name, rfl⟩
  have hlength : guideSuffix.length < (guideFile name).toList.length := by
    rw [toList_guideFile, List.length_append]
    have hpos : 0 < name.toList.length := by
      rw [List.length_pos_iff]
      intro hnil
      exact h (String.toList_inj.mp hnil)
    omega
  rw [guideName?]
  simp only [hsuffix, hlength, decide_true, Bool.and_self, if_true]
  rw [toList_guideFile, List.length_append, Nat.add_sub_cancel, List.take_left,
    String.ofList_toList]

/-- A candidate is a file of a guide whose name does not hide it. -/
theorem isGuideFile_iff {fileName : String} :
    isGuideFile fileName = true ↔
      ∃ name, name ≠ "" ∧ name.toList.head? ≠ some '.' ∧ fileName = guideFile name := by
  rw [isGuideFile, Bool.and_eq_true_iff, isSuffixOf_toList_iff, bne_iff_ne]
  constructor
  · rintro ⟨hvisible, name, rfl⟩
    rw [toList_guideFile] at hvisible
    refine ⟨name, ?_, ?_, rfl⟩
    · rintro rfl
      exact hvisible rfl
    · intro hhead
      exact hvisible (by rw [List.head?_append, hhead]; rfl)
  · rintro ⟨name, hname, hvisible, rfl⟩
    refine ⟨?_, name, rfl⟩
    rw [toList_guideFile]
    cases hchars : name.toList with
    | nil => exact absurd (String.toList_inj.mp hchars) hname
    | cons c rest => simpa [hchars] using hvisible

theorem joinPath_injective {root fileName other : String}
    (h : joinPath root fileName = joinPath root other) : fileName = other := by
  rw [joinPath, joinPath] at h
  split at h
  case isTrue => exact String.append_right_inj _ |>.mp h
  case isFalse => exact String.append_right_inj _ |>.mp h

/-! ## Candidates -/

theorem visitingOrder_perm (listing : List FileName) : (visitingOrder listing).Perm listing :=
  List.mergeSort_perm _ _

theorem visitingOrder_pairwise (listing : List FileName) :
    (visitingOrder listing).Pairwise (· ≤ ·) := by
  have hsorted : (visitingOrder listing).Pairwise fun a b => decide (a ≤ b) = true := by
    apply List.pairwise_mergeSort
    · intro a b c hab hbc
      exact decide_eq_true (List.le_trans (of_decide_eq_true hab) (of_decide_eq_true hbc))
    · intro a b
      simpa using List.le_total a b
  exact hsorted.imp of_decide_eq_true

/-- The order of the visits does not depend on the order of the listing. -/
theorem visitingOrder_eq_of_perm {listing other : List FileName} (h : listing.Perm other) :
    visitingOrder listing = visitingOrder other := by
  have hperm : (visitingOrder listing).Perm (visitingOrder other) :=
    (visitingOrder_perm listing).trans (h.trans (visitingOrder_perm other).symm)
  apply hperm.eq_of_pairwise _ (visitingOrder_pairwise listing) (visitingOrder_pairwise other)
  intro a b _ _ hab hba
  exact List.le_antisymm hab hba

theorem candidatesIn_eq_of_perm {listing other : List FileName} (h : listing.Perm other) :
    candidatesIn listing = candidatesIn other := by
  rw [candidatesIn, candidatesIn, visitingOrder_eq_of_perm h]

/-- Candidates can be told from any sorted list of the names. -/
theorem candidatesIn_eq_of_sorted {listing sorted : List FileName} (hperm : listing.Perm sorted)
    (h : sorted.Pairwise (· ≤ ·)) :
    candidatesIn listing = (sorted.filterMap Utf8.text?).filter isGuideFile := by
  have hfixed : visitingOrder sorted = sorted :=
    List.mergeSort_of_pairwise (h.imp decide_eq_true)
  rw [candidatesIn, visitingOrder_eq_of_perm hperm, hfixed]

theorem mem_candidatesIn {fileName : String} {listing : List FileName} :
    fileName ∈ candidatesIn listing ↔
      Utf8.bytes fileName ∈ listing ∧ isGuideFile fileName = true := by
  rw [candidatesIn, List.mem_filter, List.mem_filterMap]
  refine and_congr_left fun _ => ?_
  constructor
  · rintro ⟨bytes, hmem, htext⟩
    rw [← Utf8.text?_eq_some_iff.mp htext]
    exact (visitingOrder_perm listing).mem_iff.mp hmem
  · intro hmem
    exact ⟨_, (visitingOrder_perm listing).mem_iff.mpr hmem, Utf8.text?_bytes fileName⟩

theorem exists_name_of_mem_candidatesIn {fileName : String} {listing : List FileName}
    (h : fileName ∈ candidatesIn listing) : ∃ name, name ≠ "" ∧ fileName = guideFile name := by
  obtain ⟨name, hname, -, hfile⟩ := isGuideFile_iff.mp (mem_candidatesIn.mp h).2
  exact ⟨name, hname, hfile⟩

/-- Candidates are visited in the order of the bytes of their names, each once. -/
theorem candidatesIn_sorted {listing : List FileName} (h : listing.Nodup) :
    (candidatesIn listing).Pairwise fun first second =>
      Utf8.bytes first < Utf8.bytes second := by
  have hnodup : (visitingOrder listing).Nodup := (visitingOrder_perm listing).nodup_iff.mpr h
  have hsorted : (visitingOrder listing).Pairwise (· < ·) := by
    refine ((visitingOrder_pairwise listing).and hnodup).imp ?_
    rintro a b ⟨hle, hne⟩
    exact (List.le_iff_lt_or_eq.mp hle).resolve_right hne
  rw [candidatesIn]
  refine List.Pairwise.filter _ (hsorted.filterMap _ ?_)
  intro first second hlt a ha b hb
  rwa [← Utf8.text?_eq_some_iff.mp ha, ← Utf8.text?_eq_some_iff.mp hb]

/-! ## Reading candidates -/

/-- The contents of a file are the encoding of a text. -/
def Files.Holds (files : Files) (path text : String) : Prop :=
  files.read path = .ok (Utf8.bytes text)

instance Files.decidableHolds (files : Files) (path text : String) :
    Decidable (files.Holds path text) :=
  match hread : files.read path with
  | .ok bytes =>
      decidable_of_iff (bytes = Utf8.bytes text) (by rw [Files.Holds, hread, Except.ok.injEq])
  | .error _ =>
      .isFalse fun holds => by
        rw [Files.Holds, hread] at holds
        cases holds

theorem textOf_eq_ok_iff {bytes : List UInt8} {text : String} :
    textOf bytes = .ok text ↔ bytes = Utf8.bytes text := by
  rw [← Utf8.text?_eq_some_iff, textOf]
  cases Utf8.text? bytes with
  | none => simp
  | some other => simp

theorem Files.readText_eq_ok_iff {files : Files} {path text : String} :
    files.readText path = .ok text ↔ files.Holds path text := by
  rw [Files.readText, Files.Holds]
  cases hread : files.read path with
  | error reason => simp [bind, Except.bind]
  | ok bytes =>
      rw [Except.ok.injEq, ← textOf_eq_ok_iff]
      rfl

/-- What is noted when a candidate cannot be read. -/
def skippedGuide? (files : Files) (root fileName : String) : Option SkippedGuide :=
  match files.readText (joinPath root fileName) with
  | .ok _ => none
  | .error reason => some ⟨joinPath root fileName, reason⟩

/-- The text of a guide, if its file is one of some candidates and can be read. -/
def textAmong? (files : Files) (root : String) (fileNames : List String) (name : String) :
    Option String :=
  if guideFile name ∈ fileNames then (files.readText (joinPath root (guideFile name))).toOption
  else none

namespace LoadedGuides

variable (files : Files) (root : String)

/-- One candidate adds its text to the corpus or itself to what is skipped. -/
theorem read_cases (loaded : LoadedGuides) {fileName : String}
    (h : isGuideFile fileName = true) :
    ∃ name, fileName = guideFile name ∧
      ((∃ text, files.readText (joinPath root fileName) = .ok text ∧
          read files root loaded fileName =
            { loaded with corpus := loaded.corpus.insert name text }) ∨
        ∃ reason, files.readText (joinPath root fileName) = .error reason ∧
          read files root loaded fileName =
            { loaded with skipped := loaded.skipped ++ [⟨joinPath root fileName, reason⟩] }) := by
  obtain ⟨name, hname, -, rfl⟩ := isGuideFile_iff.mp h
  refine ⟨name, rfl, ?_⟩
  cases htext : files.readText (joinPath root (guideFile name)) with
  | ok text => exact Or.inl ⟨text, rfl, by simp only [read, guideName?_guideFile hname, htext]⟩
  | error reason =>
      exact Or.inr ⟨reason, rfl, by simp only [read, guideName?_guideFile hname, htext]⟩

/-- What is skipped is what cannot be read, in the order of the visits. -/
theorem skipped_foldl_read {fileNames : List String}
    (h : ∀ fileName ∈ fileNames, isGuideFile fileName = true) (loaded : LoadedGuides) :
    (fileNames.foldl (read files root) loaded).skipped =
      loaded.skipped ++ fileNames.filterMap (skippedGuide? files root) := by
  induction fileNames generalizing loaded with
  | nil => simp
  | cons fileName rest ih =>
      obtain ⟨hfile, hrest⟩ := List.forall_mem_cons.mp h
      rw [List.foldl_cons, ih hrest]
      obtain ⟨name, -, ⟨text, htext, hread⟩ | ⟨reason, htext, hread⟩⟩ :=
        read_cases files root loaded hfile
      · have hskipped : skippedGuide? files root fileName = none := by rw [skippedGuide?, htext]
        rw [hread, List.filterMap_cons_none hskipped]
      · have hskipped : skippedGuide? files root fileName =
            some ⟨joinPath root fileName, reason⟩ := by rw [skippedGuide?, htext]
        rw [hread, List.filterMap_cons_some hskipped, List.append_assoc, List.singleton_append]

/-- The corpus has the texts of the candidates that can be read. -/
theorem get?_foldl_read {fileNames : List String}
    (h : ∀ fileName ∈ fileNames, isGuideFile fileName = true) (loaded : LoadedGuides)
    (name : String) :
    (fileNames.foldl (read files root) loaded).corpus.get? name =
      (textAmong? files root fileNames name).or (loaded.corpus.get? name) := by
  induction fileNames generalizing loaded with
  | nil => rfl
  | cons fileName rest ih =>
      obtain ⟨hfile, hrest⟩ := List.forall_mem_cons.mp h
      rw [List.foldl_cons, ih hrest]
      obtain ⟨other, rfl, ⟨text, htext, hread⟩ | ⟨reason, htext, hread⟩⟩ :=
        read_cases files root loaded hfile
      · rw [hread, Corpus.get?_insert]
        -- If the file comes once more in the rest, it has the same text there.
        by_cases hname : name = other
        · subst hname
          by_cases hmem : guideFile name ∈ rest
          · simp [textAmong?, hmem, htext, Except.toOption]
          · simp [textAmong?, hmem, htext, Except.toOption]
        · have hne : guideFile name ≠ guideFile other := fun heq => hname (guideFile_injective heq)
          simp [textAmong?, hne, hname]
      · rw [hread]
        by_cases hname : name = other
        · subst hname
          by_cases hmem : guideFile name ∈ rest
          · simp [textAmong?, hmem]
          · simp [textAmong?, hmem, htext, Except.toOption]
        · have hne : guideFile name ≠ guideFile other := fun heq => hname (guideFile_injective heq)
          simp [textAmong?, hne]

theorem skipped_ofListing (listing : List FileName) :
    (ofListing files root listing).skipped =
      (candidatesIn listing).filterMap (skippedGuide? files root) :=
  skipped_foldl_read files root (fun _ hmem => (mem_candidatesIn.mp hmem).2) nothing

theorem get?_ofListing (listing : List FileName) (name : String) :
    (ofListing files root listing).corpus.get? name =
      textAmong? files root (candidatesIn listing) name := by
  rw [ofListing, get?_foldl_read files root (fun _ hmem => (mem_candidatesIn.mp hmem).2), nothing,
    Corpus.get?_empty, Option.or_none]

theorem isEmpty_ofListing_iff (listing : List FileName) :
    (ofListing files root listing).corpus.isEmpty = true ↔
      ∀ fileName ∈ candidatesIn listing, ∀ text, ¬ files.Holds (joinPath root fileName) text := by
  rw [Corpus.isEmpty_eq_true_iff]
  constructor
  · intro hnone fileName hmem text htext
    obtain ⟨name, -, rfl⟩ := exists_name_of_mem_candidatesIn hmem
    have hget := hnone name
    rw [get?_ofListing, textAmong?, if_pos hmem, Files.readText_eq_ok_iff.mpr htext] at hget
    cases hget
  · intro hunreadable name
    rw [get?_ofListing, textAmong?]
    split
    case isTrue hmem =>
      cases htext : files.readText (joinPath root (guideFile name)) with
      | error reason => rfl
      | ok text => exact absurd (Files.readText_eq_ok_iff.mp htext) (hunreadable _ hmem text)
    case isFalse => rfl

end LoadedGuides

/-! ## Loading -/

/-- The candidates in a directory. -/
def Files.candidates (files : Files) (root : String) : List String :=
  candidatesIn ((files.list root).getD [])

/-- Candidates are the names in a listing that the pattern asks for. -/
theorem mem_candidates_iff {files : Files} {root fileName : String} :
    fileName ∈ files.candidates root ↔
      files.Lists root (Utf8.bytes fileName) ∧ isGuideFile fileName = true := by
  rw [Files.candidates, mem_candidatesIn, Files.Lists]
  refine and_congr_left fun _ => ?_
  cases files.list root with
  | none => simp
  | some listing => simp

/-- A directory has a guide with a text: a file of its name is a candidate and
holds the text. -/
def Files.HasGuide (files : Files) (root name text : String) : Prop :=
  guideFile name ∈ files.candidates root ∧ files.Holds (joinPath root (guideFile name)) text

section Loading

variable {files : Files} {root : String}

theorem loadGuides_eq_ok_iff {loaded : LoadedGuides} :
    loadGuides files root = .ok loaded ↔
      ∃ listing, files.list root = some listing ∧
        loaded = LoadedGuides.ofListing files root listing ∧ loaded.corpus.isEmpty = false := by
  rw [loadGuides]
  cases files.list root with
  | none => simp
  | some listing =>
      simp only [Option.some.injEq, exists_eq_left']
      split
      case isTrue hempty =>
        constructor
        · intro h
          cases h
        · rintro ⟨rfl, hnonempty⟩
          rw [hempty] at hnonempty
          cases hnonempty
      case isFalse hnonempty =>
        rw [Bool.not_eq_true] at hnonempty
        constructor
        · intro h
          cases h
          exact ⟨rfl, hnonempty⟩
        · rintro ⟨rfl, -⟩
          rfl

theorem loadGuides_eq_directoryNotFound_iff :
    loadGuides files root = .error (.directoryNotFound root) ↔ files.list root = none := by
  rw [loadGuides]
  cases files.list root with
  | none => simp
  | some listing =>
      simp only [reduceCtorEq, iff_false]
      split <;> simp

theorem loadGuides_error_cases {failure : LoadError}
    (h : loadGuides files root = .error failure) :
    failure = .directoryNotFound root ∨ failure = .empty root := by
  rw [loadGuides] at h
  cases hlist : files.list root with
  | none =>
      rw [hlist] at h
      cases h
      exact Or.inl rfl
  | some listing =>
      rw [hlist] at h
      dsimp only at h
      split at h
      · cases h
        exact Or.inr rfl
      · cases h

theorem hasGuide_iff {name text : String} :
    files.HasGuide root name text ↔
      textAmong? files root (files.candidates root) name = some text := by
  rw [Files.HasGuide, textAmong?, ← Files.readText_eq_ok_iff]
  split
  case isTrue hmem =>
    cases files.readText (joinPath root (guideFile name)) <;> simp [hmem, Except.toOption]
  case isFalse hmem => simp [hmem]

/-- A guide is loaded exactly if the directory has it. -/
theorem get?_eq_some_iff_hasGuide {loaded : LoadedGuides} (h : loadGuides files root = .ok loaded)
    {name text : String} :
    loaded.corpus.get? name = some text ↔ files.HasGuide root name text := by
  obtain ⟨listing, hlist, rfl, -⟩ := loadGuides_eq_ok_iff.mp h
  rw [LoadedGuides.get?_ofListing, hasGuide_iff, Files.candidates, hlist, Option.getD_some]

/-- Loading fails for want of guides exactly if the directory is there and no
candidate in it can be read. -/
theorem loadGuides_eq_empty_iff :
    loadGuides files root = .error (.empty root) ↔
      files.list root ≠ none ∧
        ∀ fileName ∈ files.candidates root, ∀ text,
          ¬ files.Holds (joinPath root fileName) text := by
  rw [loadGuides, Files.candidates]
  cases files.list root with
  | none => simp
  | some listing =>
      rw [Option.getD_some, ← LoadedGuides.isEmpty_ofListing_iff]
      dsimp only
      split
      case isTrue hempty => exact ⟨fun _ => ⟨Option.some_ne_none _, hempty⟩, fun _ => rfl⟩
      case isFalse hnonempty => exact ⟨nofun, fun h => absurd h.2 hnonempty⟩

theorem loadGuides_succeeds_iff :
    (∃ loaded, loadGuides files root = .ok loaded) ↔
      ∃ fileName ∈ files.candidates root, ∃ text, files.Holds (joinPath root fileName) text := by
  constructor
  · rintro ⟨loaded, h⟩
    obtain ⟨listing, hlist, -, -⟩ := loadGuides_eq_ok_iff.mp h
    refine Classical.byContradiction fun hnone => ?_
    have hempty : loadGuides files root = .error (.empty root) := by
      rw [loadGuides_eq_empty_iff]
      refine ⟨by simp [hlist], fun fileName hmem text htext => ?_⟩
      exact hnone ⟨fileName, hmem, text, htext⟩
    rw [h] at hempty
    cases hempty
  · rintro ⟨fileName, hmem, text, htext⟩
    cases hloaded : loadGuides files root with
    | ok loaded => exact ⟨loaded, rfl⟩
    | error failure =>
        rcases loadGuides_error_cases hloaded with rfl | rfl
        · obtain ⟨⟨listing, hlist, -⟩, -⟩ := mem_candidates_iff.mp hmem
          rw [loadGuides_eq_directoryNotFound_iff.mp hloaded] at hlist
          cases hlist
        · exact absurd htext ((loadGuides_eq_empty_iff.mp hloaded).2 fileName hmem text)

end Loading

/-! ## What is skipped -/

theorem map_path_filterMap_skippedGuide? (files : Files) (root : String)
    (fileNames : List String) :
    (fileNames.filterMap (skippedGuide? files root)).map SkippedGuide.path =
      (fileNames.filter fun fileName => (skippedGuide? files root fileName).isSome).map
        (joinPath root) := by
  induction fileNames with
  | nil => rfl
  | cons fileName rest ih =>
      cases hskipped : skippedGuide? files root fileName with
      | none =>
          rw [List.filterMap_cons_none hskipped, List.filter_cons_of_neg (by simp [hskipped]), ih]
      | some skipped =>
          have hpath : skipped.path = joinPath root fileName := by
            rw [skippedGuide?] at hskipped
            split at hskipped
            · cases hskipped
            · cases hskipped
              rfl
          rw [List.filterMap_cons_some hskipped, List.filter_cons_of_pos (by simp [hskipped]),
            List.map_cons, List.map_cons, ih, hpath]

theorem isSome_skippedGuide?_iff {files : Files} {root fileName : String} :
    (skippedGuide? files root fileName).isSome = true ↔
      ∀ text, ¬ files.Holds (joinPath root fileName) text := by
  rw [skippedGuide?]
  cases htext : files.readText (joinPath root fileName) with
  | ok text =>
      have hholds := Files.readText_eq_ok_iff.mp htext
      simp only [Option.isSome_none, Bool.false_eq_true, false_iff]
      exact fun hnone => hnone text hholds
  | error reason =>
      simp only [Option.isSome_some, true_iff]
      intro text hholds
      rw [Files.readText_eq_ok_iff.mpr hholds] at htext
      cases htext

/-! ## Order of listings -/

section

variable {files : Files} {root : String}

/-- Candidates are visited in one order, in whatever order their names are listed. -/
theorem Files.ListsOnce.candidates_sorted (h : files.ListsOnce root) :
    (files.candidates root).Pairwise fun first second =>
      Utf8.bytes first < Utf8.bytes second := by
  rw [Files.candidates]
  cases hlist : files.list root with
  | none => exact candidatesIn_sorted List.nodup_nil
  | some listing => exact candidatesIn_sorted (h listing hlist)

theorem Files.ListsOnce.nodup_candidates (h : files.ListsOnce root) :
    (files.candidates root).Nodup := by
  refine h.candidates_sorted.imp ?_
  rintro first second hlt rfl
  exact List.lt_irrefl _ hlt

variable {other : Files}

theorem candidates_eq_of_perm (h : Option.Rel List.Perm (other.list root) (files.list root)) :
    other.candidates root = files.candidates root := by
  rw [Files.candidates, Files.candidates]
  generalize other.list root = listed at h
  generalize files.list root = own at h
  cases h with
  | none => rfl
  | some hperm => exact candidatesIn_eq_of_perm hperm

theorem loadGuides_eq_of_perm (hread : other.read = files.read)
    (h : Option.Rel List.Perm (other.list root) (files.list root)) :
    loadGuides other root = loadGuides files root := by
  have hfiles : LoadedGuides.read other root = LoadedGuides.read files root := by
    funext loaded fileName
    rw [LoadedGuides.read, LoadedGuides.read]
    simp only [Files.readText, hread]
  rw [loadGuides, loadGuides]
  generalize other.list root = listed at h
  generalize files.list root = own at h
  cases h with
  | none => rfl
  | @some listing own hperm =>
      have hloaded : LoadedGuides.ofListing other root listing =
          LoadedGuides.ofListing files root own := by
        rw [LoadedGuides.ofListing, LoadedGuides.ofListing, hfiles, candidatesIn_eq_of_perm hperm]
      simp only [hloaded]

end

/-! ## The account of the candidates -/

/-- What becomes of the candidate in one file: its text is in the corpus under
the name of the guide, or it is skipped once and there is no such guide. -/
def LoadedGuides.AccountsFor (files : Files) (root : String) (loaded : LoadedGuides)
    (fileName : String) : Prop :=
  ∃ name, guideName? fileName = some name ∧
    ((∃ text, files.Holds (joinPath root fileName) text ∧ loaded.corpus.get? name = some text ∧
        joinPath root fileName ∉ loaded.skipped.map SkippedGuide.path) ∨
      ((∀ text, ¬ files.Holds (joinPath root fileName) text) ∧ loaded.corpus.get? name = none ∧
        (loaded.skipped.map SkippedGuide.path).count (joinPath root fileName) = 1))

theorem skipped_of_loadGuides {files : Files} {root : String} {loaded : LoadedGuides}
    (h : loadGuides files root = .ok loaded) :
    loaded.skipped = (files.candidates root).filterMap (skippedGuide? files root) := by
  obtain ⟨listing, hlist, rfl, -⟩ := loadGuides_eq_ok_iff.mp h
  rw [LoadedGuides.skipped_ofListing, Files.candidates, hlist, Option.getD_some]

theorem accountsFor_of_mem {files : Files} {root : String} {loaded : LoadedGuides}
    (h : loadGuides files root = .ok loaded) (hnodup : (files.candidates root).Nodup)
    {fileName : String} (hmem : fileName ∈ files.candidates root) :
    loaded.AccountsFor files root fileName := by
  obtain ⟨name, hname, rfl⟩ := exists_name_of_mem_candidatesIn hmem
  have hpaths := congrArg (List.map SkippedGuide.path) (skipped_of_loadGuides h)
  rw [map_path_filterMap_skippedGuide?] at hpaths
  refine ⟨name, guideName?_guideFile hname, ?_⟩
  by_cases hread : ∃ text, files.Holds (joinPath root (guideFile name)) text
  · obtain ⟨text, htext⟩ := hread
    refine Or.inl ⟨text, htext, (get?_eq_some_iff_hasGuide h).mpr ⟨hmem, htext⟩, ?_⟩
    rw [hpaths]
    intro hskipped
    obtain ⟨other, hother, hpath⟩ := List.mem_map.mp hskipped
    obtain rfl := joinPath_injective hpath
    exact isSome_skippedGuide?_iff.mp (List.mem_filter.mp hother).2 text htext
  · have hunread : ∀ text, ¬ files.Holds (joinPath root (guideFile name)) text :=
      fun text htext => hread ⟨text, htext⟩
    refine Or.inr ⟨hunread, ?_, ?_⟩
    · rw [Option.eq_none_iff_forall_not_mem]
      intro text htext
      exact hunread text ((get?_eq_some_iff_hasGuide h).mp htext).2
    · rw [hpaths]
      have hpathsNodup : (((files.candidates root).filter fun fileName =>
          (skippedGuide? files root fileName).isSome).map (joinPath root)).Nodup := by
        refine List.pairwise_map.mpr ((List.Pairwise.filter _ hnodup).imp ?_)
        intro a b hne heq
        exact hne (joinPath_injective heq)
      have hle := List.nodup_iff_count.mp hpathsNodup (joinPath root (guideFile name))
      have hskipped : guideFile name ∈ (files.candidates root).filter fun fileName =>
          (skippedGuide? files root fileName).isSome :=
        List.mem_filter.mpr ⟨hmem, isSome_skippedGuide?_iff.mpr hunread⟩
      exact Nat.le_antisymm hle (List.count_pos_iff.mpr (List.mem_map_of_mem hskipped))

/-- The account that loading gives of the candidates in some files of a
directory, which come in the order of the visits. -/
structure LoadedGuides.Accounts (files : Files) (root : String) (fileNames : List String)
    (loaded : LoadedGuides) : Prop where
  accountsFor : ∀ fileName ∈ fileNames, loaded.AccountsFor files root fileName
  /-- Skipped candidates stay in the order of the visits. -/
  skipped_sublist :
    (loaded.skipped.map SkippedGuide.path).Sublist (fileNames.map (joinPath root))
  skipped_reason : ∀ skipped ∈ loaded.skipped,
    files.readText skipped.path = .error skipped.reason
  mem_names_iff : ∀ name, name ∈ loaded.corpus.names ↔
    ∃ text, loaded.corpus.get? name = some text
  /-- The corpus has no other names. -/
  exists_candidate : ∀ name ∈ loaded.corpus.names, ∃ fileName ∈ fileNames,
    guideName? fileName = some name
  names_sorted : loaded.corpus.names.Pairwise fun first second =>
    Utf8.bytes first < Utf8.bytes second

theorem accounts_of_loadGuides {files : Files} {root : String} {loaded : LoadedGuides}
    (h : loadGuides files root = .ok loaded) (hnodup : (files.candidates root).Nodup) :
    loaded.Accounts files root (files.candidates root) where
  accountsFor fileName hmem := accountsFor_of_mem h hnodup hmem
  skipped_sublist := by
    rw [skipped_of_loadGuides h, map_path_filterMap_skippedGuide?]
    exact List.filter_sublist.map _
  skipped_reason skipped hmem := by
    rw [skipped_of_loadGuides h] at hmem
    obtain ⟨fileName, -, hskipped⟩ := List.mem_filterMap.mp hmem
    rw [skippedGuide?] at hskipped
    split at hskipped
    case h_1 => cases hskipped
    case h_2 reason hreason =>
      cases hskipped
      exact hreason
  mem_names_iff name := by rw [Corpus.mem_names_iff, Option.isSome_iff_exists]
  exists_candidate name hmem := by
    obtain ⟨text, htext⟩ := Option.isSome_iff_exists.mp (Corpus.mem_names_iff.mp hmem)
    have hguide := (get?_eq_some_iff_hasGuide h).mp htext
    obtain ⟨other, hother, heq⟩ := exists_name_of_mem_candidatesIn hguide.1
    obtain rfl := guideFile_injective heq
    exact ⟨guideFile name, hguide.1, guideName?_guideFile hother⟩
  names_sorted := loaded.corpus.names_sorted.imp fun hlt => Utf8.bytes_lt_bytes_iff.mpr hlt

/-- Loading fails if the root leads nowhere or if there is no candidate that can
be read, and otherwise accounts for every candidate, one by one. A system that
lists the directory in another order changes nothing, and a root that leads
nowhere is one that has no end in the tree that the system gives access to. -/
theorem loading_accounts_for_every_candidate (files : Files) (root : String)
    (honce : files.ListsOnce root) :
    (loadGuides files root = .error (.directoryNotFound root) ↔ files.list root = none) ∧
      (loadGuides files root = .error (.empty root) ↔
        (∃ listing, files.list root = some listing) ∧
          ∀ path ∈ discoverGuides files root, ∀ text, ¬ files.Holds path text) ∧
      ((∃ loaded, loadGuides files root = .ok loaded) ↔
        ∃ path ∈ discoverGuides files root, ∃ text, files.Holds path text) ∧
      (∃ fileNames : List String, discoverGuides files root = fileNames.map (joinPath root) ∧
        (fileNames.Pairwise fun first second => Utf8.bytes first < Utf8.bytes second) ∧
        ∀ loaded, loadGuides files root = .ok loaded → loaded.Accounts files root fileNames) ∧
      (∀ other : Files, other.read = files.read →
        Option.Rel List.Perm (other.list root) (files.list root) →
          loadGuides other root = loadGuides files root ∧
            discoverGuides other root = discoverGuides files root) ∧
      ∀ tree : FileTree, tree.IsServedBy files →
        (loadGuides files root = .error (.directoryNotFound root) ↔
          ∃ reason, tree.resolve root = .error reason) := by
  have hdiscover (any : Files) :
      discoverGuides any root = (any.candidates root).map (joinPath root) := rfl
  refine ⟨loadGuides_eq_directoryNotFound_iff, ?_, ?_, ⟨files.candidates root, hdiscover files,
    honce.candidates_sorted, ?_⟩, ?_, ?_⟩
  · rw [loadGuides_eq_empty_iff, hdiscover, List.forall_mem_map, Option.ne_none_iff_exists']
  · rw [loadGuides_succeeds_iff, hdiscover]
    constructor
    · rintro ⟨fileName, hmem, htext⟩
      exact ⟨_, List.mem_map_of_mem hmem, htext⟩
    · rintro ⟨path, hmem, htext⟩
      obtain ⟨fileName, hcandidate, rfl⟩ := List.mem_map.mp hmem
      exact ⟨fileName, hcandidate, htext⟩
  · intro loaded h
    exact accounts_of_loadGuides h honce.nodup_candidates
  · intro other hread hperm
    refine ⟨loadGuides_eq_of_perm hread hperm, ?_⟩
    rw [hdiscover, hdiscover, candidates_eq_of_perm hperm]
  · intro tree hserved
    rw [loadGuides_eq_directoryNotFound_iff, hserved.list_eq_none_iff]

/-- Guides whose names are in another order than their files, next to a
directory that has the name of a file of a guide. -/
def mixedGuides : FileTree where
  entries := [(Utf8.bytes "g", .directory
    [(Utf8.bytes "a.md", .file (Utf8.bytes "- One")),
      (Utf8.bytes ".b.md", .file (Utf8.bytes "- Hidden")),
      (Utf8.bytes "a-b.md", .file (Utf8.bytes "- Two")),
      (Utf8.bytes "c.md", .directory []),
      (Utf8.bytes "d.md", .file (Utf8.bytes "- Three"))])]
  enclosures := [⟨Utf8.bytes "work", []⟩]

/-- A system that may not read the last one of these guides. -/
def mixedSystem : Files := mixedGuides.guarded ["/work/g/d.md"]

/-- Files are visited in the order of their names, in which a hyphen comes before
the dot of a suffix, and guides are named in the order of their own names. -/
theorem mixed_guides_are_accounted_for :
    mixedSystem.ListsOnce "/work/g" ∧
      discoverGuides mixedSystem "/work/g" =
        ["/work/g/a-b.md", "/work/g/a.md", "/work/g/c.md", "/work/g/d.md"] ∧
      ∃ loaded, loadGuides mixedSystem "/work/g" = .ok loaded ∧
        loaded.corpus.names = ["a", "a-b"] ∧
        loaded.skipped = [⟨"/work/g/c.md", .isADirectory⟩,
          ⟨"/work/g/d.md", .system "Permission denied (os error 13)"⟩] ∧
        loaded.Accounts mixedSystem "/work/g" ["a-b.md", "a.md", "c.md", "d.md"] := by
  have hserved : mixedGuides.IsServedBy mixedSystem := mixedGuides.isServedBy_guarded _
  have honce := hserved.listsOnce "/work/g"
  have hcandidates : mixedSystem.candidates "/work/g" = ["a-b.md", "a.md", "c.md", "d.md"] := by
    have hlisting : mixedSystem.list "/work/g" =
        some (["d.md", "c.md", "a-b.md", ".b.md", "a.md"].map Utf8.bytes) := by decide +kernel
    have hperm : (["d.md", "c.md", "a-b.md", ".b.md", "a.md"].map Utf8.bytes).Perm
        ([".b.md", "a-b.md", "a.md", "c.md", "d.md"].map Utf8.bytes) := by decide +kernel
    rw [Files.candidates, hlisting, Option.getD_some,
      candidatesIn_eq_of_sorted hperm (by decide +kernel)]
    decide +kernel
  have hvisits : discoverGuides mixedSystem "/work/g" =
      ["a-b.md", "a.md", "c.md", "d.md"].map (joinPath "/work/g") :=
    congrArg (List.map _) hcandidates
  have hread : mixedSystem.Holds "/work/g/a.md" "- One" := by decide +kernel
  obtain ⟨-, -, hsucceeds, ⟨fileNames, hfileNames, -, haccounts⟩, -, -⟩ :=
    loading_accounts_for_every_candidate mixedSystem "/work/g" honce
  obtain rfl : fileNames = ["a-b.md", "a.md", "c.md", "d.md"] :=
    (List.map_inj_right fun _ _ => joinPath_injective).mp (hfileNames.symm.trans hvisits)
  have hvisited : "/work/g/a.md" ∈ discoverGuides mixedSystem "/work/g" := by
    rw [hvisits]
    decide
  obtain ⟨loaded, hloaded⟩ := hsucceeds.mpr ⟨"/work/g/a.md", hvisited, "- One", hread⟩
  obtain ⟨listing, hlist, rfl, -⟩ := loadGuides_eq_ok_iff.mp hloaded
  rw [Files.candidates, hlist, Option.getD_some] at hcandidates
  refine ⟨honce, hvisits.trans (by decide), _, hloaded, ?_, ?_, haccounts _ hloaded⟩
  · rw [LoadedGuides.ofListing, hcandidates]
    decide +kernel
  · rw [LoadedGuides.ofListing, hcandidates]
    decide +kernel

end ViewAudit
