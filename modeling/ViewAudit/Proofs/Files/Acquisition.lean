import ViewAudit.Proofs.Guide.Loading
import ViewAudit.Proofs.Text.WellFormed
import ViewAudit.Source

/-!
The ways from bytes to a text: standard input, a file that a run is about and a guide.
All of them give the text whose bytes they are, and refuse the same bytes, those that
are not well-formed.
-/

namespace ViewAudit

/-- Every way leads from some bytes to a text, of which nothing is lost. -/
structure IsTextOf (text : String) (bytes : List UInt8) : Prop where
  bytes_eq : Utf8.bytes text = bytes
  standardInput : readStandardInput bytes = .ok text
  noPath : ∀ files, readSource files bytes none = .ok text
  file : ∀ (files : Files) (input : List UInt8) (path : String), files.read path = .ok bytes →
    readSource files input (some path) = .ok text
  guide : ∀ (files : Files) (root fileName : String), fileName ∈ files.candidates root →
    files.read (joinPath root fileName) = .ok bytes →
      ∃ name loaded, guideName? fileName = some name ∧ loadGuides files root = .ok loaded ∧
        loaded.corpus.get? name = some text ∧
        joinPath root fileName ∉ loaded.skipped.map SkippedGuide.path

/-- Every way refuses some bytes; a guide is skipped then, even if there is no other. -/
structure IsNoText (bytes : List UInt8) : Prop where
  standardInput : readStandardInput bytes = .error (.standardInput .invalidText)
  noPath : ∀ files, readSource files bytes none = .error (.standardInput .invalidText)
  file : ∀ (files : Files) (input : List UInt8) (path : String), files.read path = .ok bytes →
    readSource files input (some path) = .error (.file path .invalidText)
  guide : ∀ (files : Files) (root fileName : String), fileName ∈ files.candidates root →
    files.read (joinPath root fileName) = .ok bytes →
      ∃ name listing, guideName? fileName = some name ∧ files.list root = some listing ∧
        let loaded := LoadedGuides.ofListing files root listing
        (loadGuides files root = .ok loaded ∨ loadGuides files root = .error (.empty root)) ∧
          loaded.corpus.get? name = none ∧
          ⟨joinPath root fileName, .invalidText⟩ ∈ loaded.skipped

/-! ## Bytes of files -/

/-- In a tree the bytes of regular files are read, and nothing else is. -/
theorem FileTree.read_eq_ok_iff {tree : FileTree} {path : String} {bytes : List UInt8} :
    tree.files.read path = .ok bytes ↔ tree.resolve path = .ok (.file bytes) := by
  change tree.read path = .ok bytes ↔ _
  rw [FileTree.read]
  cases tree.resolve path with
  | error reason => exact ⟨nofun, nofun⟩
  | ok node =>
      cases node with
      | file contents =>
          constructor
          · intro h
            cases h
            rfl
          · intro h
            cases h
            rfl
      | link target => exact ⟨nofun, nofun⟩
      | directory entries => exact ⟨nofun, nofun⟩

theorem Files.readText_of_read {files : Files} {path : String} {bytes : List UInt8}
    (h : files.read path = .ok bytes) : files.readText path = textOf bytes := by
  rw [Files.readText, h]
  rfl

theorem textOf_eq_error {bytes : List UInt8} (h : ¬ Utf8.IsWellFormed bytes) :
    textOf bytes = .error .invalidText := by
  rw [textOf]
  cases htext : Utf8.text? bytes with
  | none => rfl
  | some text =>
      have hbytes := Utf8.text?_eq_some_iff.mp htext
      exact absurd (Utf8.isWellFormed_iff.mpr ⟨text, hbytes.symm⟩) h

theorem readStandardInput_eq_ok_iff {bytes : List UInt8} {text : String} :
    readStandardInput bytes = .ok text ↔ bytes = Utf8.bytes text := by
  rw [← textOf_eq_ok_iff, readStandardInput]
  cases textOf bytes with
  | error reason => exact ⟨nofun, nofun⟩
  | ok other =>
      change Except.ok other = .ok text ↔ _
      rw [Except.ok.injEq, Except.ok.injEq]

/-! ## Guides -/

section

variable {files : Files} {root fileName : String}

theorem guide_of_holds (hmem : fileName ∈ files.candidates root) {text : String}
    (h : files.Holds (joinPath root fileName) text) :
    ∃ name loaded, guideName? fileName = some name ∧ loadGuides files root = .ok loaded ∧
      loaded.corpus.get? name = some text ∧
      joinPath root fileName ∉ loaded.skipped.map SkippedGuide.path := by
  obtain ⟨name, hname, rfl⟩ := exists_name_of_mem_candidatesIn hmem
  obtain ⟨loaded, hloaded⟩ := loadGuides_succeeds_iff.mpr ⟨_, hmem, text, h⟩
  refine ⟨name, loaded, guideName?_guideFile hname, hloaded,
    (get?_eq_some_iff_hasGuide hloaded).mpr ⟨hmem, h⟩, ?_⟩
  rw [skipped_of_loadGuides hloaded, map_path_filterMap_skippedGuide?]
  intro hskipped
  obtain ⟨other, hother, hpath⟩ := List.mem_map.mp hskipped
  obtain rfl := joinPath_injective hpath
  exact isSome_skippedGuide?_iff.mp (List.mem_filter.mp hother).2 text h

theorem guide_of_readText_eq_error (hmem : fileName ∈ files.candidates root) {reason : ReadError}
    (h : files.readText (joinPath root fileName) = .error reason) :
    ∃ name listing, guideName? fileName = some name ∧ files.list root = some listing ∧
      let loaded := LoadedGuides.ofListing files root listing
      (loadGuides files root = .ok loaded ∨ loadGuides files root = .error (.empty root)) ∧
        loaded.corpus.get? name = none ∧ ⟨joinPath root fileName, reason⟩ ∈ loaded.skipped := by
  obtain ⟨name, hname, rfl⟩ := exists_name_of_mem_candidatesIn hmem
  obtain ⟨⟨listing, hlist, hlists⟩, hfile⟩ := mem_candidates_iff.mp hmem
  have hlisted : guideFile name ∈ candidatesIn listing := mem_candidatesIn.mpr ⟨hlists, hfile⟩
  refine ⟨name, listing, guideName?_guideFile hname, hlist, ?_, ?_, ?_⟩
  · rw [loadGuides, hlist]
    dsimp only
    split
    · exact .inr rfl
    · exact .inl rfl
  · rw [LoadedGuides.get?_ofListing, textAmong?, if_pos hlisted, h]
    rfl
  · rw [LoadedGuides.skipped_ofListing, List.mem_filterMap]
    exact ⟨guideFile name, hlisted, by rw [skippedGuide?, h]⟩

end

/-! ## Texts and bytes that are none -/

theorem isTextOf_bytes (text : String) : IsTextOf text (Utf8.bytes text) := by
  have htext : textOf (Utf8.bytes text) = .ok text := textOf_eq_ok_iff.mpr rfl
  have hinput := readStandardInput_eq_ok_iff.mpr (rfl : Utf8.bytes text = Utf8.bytes text)
  refine ⟨rfl, hinput, fun _ => hinput, ?_, ?_⟩
  · intro files input path hfile
    rw [readSource, Files.readText_of_read hfile, htext]
    rfl
  · intro files root fileName hmem hfile
    exact guide_of_holds hmem hfile

theorem isNoText_of_not_isWellFormed {bytes : List UInt8} (h : ¬ Utf8.IsWellFormed bytes) :
    IsNoText bytes := by
  have htext := textOf_eq_error h
  have hinput : readStandardInput bytes = .error (.standardInput .invalidText) := by
    rw [readStandardInput, htext]
    rfl
  refine ⟨hinput, fun _ => hinput, ?_, ?_⟩
  · intro files input path hfile
    rw [readSource, Files.readText_of_read hfile, htext]
    rfl
  · intro files root fileName hmem hfile
    exact guide_of_readText_eq_error hmem ((Files.readText_of_read hfile).trans htext)

/-- Standard input is read exactly if its bytes are well-formed. The text has these bytes
and no other ones, and the same bytes are read as the same text, or refused, in a file and
in a guide. -/
theorem bytes_are_read_iff_well_formed (bytes : List UInt8) :
    ((∃ text, readStandardInput bytes = .ok text) ↔ Utf8.IsWellFormed bytes) ∧
      (∀ text, readStandardInput bytes = .ok text → IsTextOf text bytes) ∧
      (¬ Utf8.IsWellFormed bytes → IsNoText bytes) := by
  refine ⟨?_, ?_, isNoText_of_not_isWellFormed⟩
  · rw [Utf8.isWellFormed_iff]
    exact exists_congr fun text => readStandardInput_eq_ok_iff.trans eq_comm
  · intro text h
    obtain rfl := readStandardInput_eq_ok_iff.mp h
    exact isTextOf_bytes text

/-- A directory with two guides: one begins with a byte order mark and has a NUL in it, the
other one is half of a surrogate pair. -/
def oddGuides : FileTree where
  entries := [(Utf8.bytes "g", .directory
    [(Utf8.bytes "a.md", .file [0xEF, 0xBB, 0xBF, 0x00, 0x0D, 0x0A]),
      (Utf8.bytes "b.md", .file [0x2D, 0xED, 0xA0, 0x80])])]

/-- The mark, the NUL and the end of the line are kept, and the surrogate is refused, as it
is in standard input. -/
theorem odd_guides_are_read_as_input :
    readStandardInput [0xEF, 0xBB, 0xBF, 0x00, 0x0D, 0x0A] = .ok "\ufeff\x00\r\n" ∧
      readSource oddGuides.files [] (some "g/a.md") = .ok "\ufeff\x00\r\n" ∧
      readSource oddGuides.files [] (some "g/b.md") = .error (.file "g/b.md" .invalidText) ∧
      ∃ name loaded, guideName? "a.md" = some name ∧
        loadGuides oddGuides.files "g" = .ok loaded ∧
        loaded.corpus.get? name = some "\ufeff\x00\r\n" ∧
        "g/a.md" ∉ loaded.skipped.map SkippedGuide.path := by
  obtain ⟨-, htext, -⟩ := bytes_are_read_iff_well_formed [0xEF, 0xBB, 0xBF, 0x00, 0x0D, 0x0A]
  obtain ⟨-, -, hnone⟩ := bytes_are_read_iff_well_formed [0x2D, 0xED, 0xA0, 0x80]
  have hmark : readStandardInput [0xEF, 0xBB, 0xBF, 0x00, 0x0D, 0x0A] = .ok "\ufeff\x00\r\n" :=
    readStandardInput_eq_ok_iff.mpr (by decide +kernel)
  have hmalformed : ¬ Utf8.IsWellFormed [0x2D, 0xED, 0xA0, 0x80] := by
    have hnotext : Utf8.text? [0x2D, 0xED, 0xA0, 0x80] = none := by decide +kernel
    rw [Utf8.isWellFormed_iff]
    rintro ⟨text, htext⟩
    rw [Utf8.text?_eq_some_iff.mpr htext.symm] at hnotext
    cases hnotext
  have hfirst : oddGuides.files.read "g/a.md" = .ok [0xEF, 0xBB, 0xBF, 0x00, 0x0D, 0x0A] :=
    FileTree.read_eq_ok_iff.mpr (by rfl)
  have hsecond : oddGuides.files.read "g/b.md" = .ok [0x2D, 0xED, 0xA0, 0x80] :=
    FileTree.read_eq_ok_iff.mpr (by rfl)
  have hcandidate : "a.md" ∈ oddGuides.files.candidates "g" :=
    mem_candidatesIn.mpr (by decide +kernel)
  exact ⟨hmark, (htext _ hmark).file _ _ _ hfirst, (hnone hmalformed).file _ _ _ hsecond,
    (htext _ hmark).guide _ _ _ hcandidate hfirst⟩

end ViewAudit
