import ViewAudit.Files.Basic
import ViewAudit.Guide.Corpus
import ViewAudit.Log.Event

/-!
Guides in a directory. Every visible file there with the suffix `.md` is a
candidate, whatever kind of file it is; candidates that cannot be read are
skipped. Files are visited in the order of the bytes of their names, so the
order in which the system lists them does not matter.
-/

namespace ViewAudit

/-- The suffix of the files that hold guides. -/
def guideSuffix : List Char := ".md".toList

/-- Guide files as they are described to users. -/
def guidePattern : String := "*.md"

/-- Where guides are looked for if nothing else is said. -/
def defaultGuideRoot : String := "Guides/HIG"

/-- The name of the guide in a file: the name of the file without its suffix. -/
def guideName? (fileName : String) : Option String :=
  let chars := fileName.toList
  if guideSuffix.isSuffixOf chars && guideSuffix.length < chars.length then
    some (String.ofList (chars.take (chars.length - guideSuffix.length)))
  else none

/-- Whether a file is a candidate by its name. -/
def isGuideFile (fileName : String) : Bool :=
  fileName.toList.head? != some '.' && guideSuffix.isSuffixOf fileName.toList

/-- A path to a file in the directory at `root`. -/
def joinPath (root fileName : String) : String :=
  if root.toList.getLast? = some '/' then root ++ fileName else root ++ "/" ++ fileName

/-- The names of files in the order in which they are visited. -/
def visitingOrder (listing : List FileName) : List FileName :=
  listing.mergeSort fun first second => decide (first ≤ second)

/-- The names of the candidates in a directory with the given names. -/
def candidatesIn (listing : List FileName) : List String :=
  ((visitingOrder listing).filterMap Utf8.text?).filter isGuideFile

/-- The names in a directory that are not texts. -/
def unreadableNames (listing : List FileName) : List FileName :=
  listing.filter fun name => (Utf8.text? name).isNone

/-- The paths of the candidates in a directory. -/
def discoverGuides (files : Files) (root : String) : List String :=
  (candidatesIn ((files.list root).getD [])).map (joinPath root)

structure SkippedGuide where
  path : String
  reason : ReadError
  deriving DecidableEq, Repr

/-- What came of reading some candidates. -/
structure LoadedGuides where
  corpus : Corpus
  /-- The candidates that could not be read, in the order of the files. -/
  skipped : List SkippedGuide
  deriving DecidableEq

namespace LoadedGuides

def nothing : LoadedGuides := ⟨.empty, []⟩

/-- Reads one more candidate. -/
def read (files : Files) (root : String) (loaded : LoadedGuides) (fileName : String) :
    LoadedGuides :=
  match guideName? fileName with
  | none => loaded
  | some name =>
      let path := joinPath root fileName
      match files.readText path with
      | .ok text => { loaded with corpus := loaded.corpus.insert name text }
      | .error reason => { loaded with skipped := loaded.skipped ++ [⟨path, reason⟩] }

/-- Reads the candidates in a directory with the given names. -/
def ofListing (files : Files) (root : String) (listing : List FileName) : LoadedGuides :=
  (candidatesIn listing).foldl (read files root) nothing

end LoadedGuides

/-- Why there are no guides. -/
inductive LoadError where
  | directoryNotFound (root : String)
  | empty (root : String)
  deriving DecidableEq, Repr

def LoadError.message : LoadError → String
  | directoryNotFound root => "Guides directory not found: " ++ root
  | empty root => "No guides found in " ++ root

/-- Reads the guides of a directory, of which there must be one. -/
def loadGuides (files : Files) (root : String) : Except LoadError LoadedGuides :=
  match files.list root with
  | none => .error (.directoryNotFound root)
  | some listing =>
      let loaded := LoadedGuides.ofListing files root listing
      if loaded.corpus.isEmpty then .error (.empty root) else .ok loaded

/-- The event for a candidate that was skipped. -/
def SkippedGuide.event (skipped : SkippedGuide) : LogEvent :=
  LogTarget.loading.warn ("Could not load " ++ skipped.path ++ ": " ++ skipped.reason.message)

/-- The event after guides were loaded. -/
def LoadedGuides.event (loaded : LoadedGuides) (root : String) : LogEvent :=
  LogTarget.loading.debug
    ("loaded " ++ loaded.corpus.size.repr ++ " guides from " ++ root ++
      " (" ++ loaded.skipped.length.repr ++ " skipped)")

/-- The event after a guide has taken the place of one of the same name. -/
def replacedEvent (name : String) : LogEvent :=
  LogTarget.loading.debug
    ("guide " ++ name ++ " replaced an earlier document of the same name")

namespace LoadedGuides

/-- The events of reading one more candidate. -/
def readEvents (files : Files) (root : String) (loaded : LoadedGuides) (fileName : String) :
    List LogEvent :=
  match guideName? fileName with
  | none => []
  | some name =>
      let path := joinPath root fileName
      match files.readText path with
      | .ok text =>
          if (loaded.corpus.exchange name text).1.isSome then [replacedEvent name] else []
      | .error reason => [SkippedGuide.event ⟨path, reason⟩]

/-- The events of reading some more candidates, one after the other. -/
def eventsOfReading (files : Files) (root : String) : LoadedGuides → List String → List LogEvent
  | _, [] => []
  | loaded, fileName :: rest =>
      readEvents files root loaded fileName ++
        eventsOfReading files root (read files root loaded fileName) rest

end LoadedGuides

/-- The events of looking for guides in a directory with the given names. What
could not be listed comes before what was. -/
def discoveryEvents (files : Files) (root : String) (listing : List FileName) : List LogEvent :=
  (files.listFailures root).map (fun failure =>
    LogTarget.discovery.warn ("Could not list " ++ root ++ ": " ++ failure)) ++
    (unreadableNames listing).map fun _ =>
      LogTarget.discovery.debug "skipping guide candidate with a non UTF-8 name"

/-- The events of reading the guides of a directory. -/
def loadingEvents (files : Files) (root : String) : List LogEvent :=
  match files.list root with
  | none => []
  | some listing =>
      let loaded := LoadedGuides.ofListing files root listing
      discoveryEvents files root listing ++
        LoadedGuides.eventsOfReading files root .nothing (candidatesIn listing) ++
        if loaded.corpus.isEmpty then [] else [loaded.event root]

end ViewAudit
