import ViewAudit.Guide.Corpus
import ViewAudit.Guide.Point
import ViewAudit.Guide.Topic

/-!
Advice on a text: the first points of the guides on its topics. The list of
recommendations is put together in full and cut to its limit at the end.
-/

namespace ViewAudit

/-- One entry of a list of recommendations. Notices and headers count as
entries, so the limit applies to them too. -/
inductive AdviceEntry where
  /-- No keyword occurs, so that every topic is shown. -/
  | generalNotice
  | guideHeader (guide : String)
  | point (guide text : String)
  deriving DecidableEq, Repr

structure AdviceLimits where
  pointsPerGuide : Nat := 3
  entries : Nat := 5
  deriving DecidableEq, Repr

structure Advice where
  found : TopicMatch
  /-- The recommendations within the limit. -/
  entries : List AdviceEntry
  /-- The number of recommendations before they were cut. -/
  total : Nat
  deriving DecidableEq, Repr

namespace Advice

/-- Whether recommendations were left out. -/
def isTruncated (advice : Advice) : Bool := decide (advice.entries.length < advice.total)

/-- The header and the first points of a guide. -/
def guideEntries (name text : String) (pointsPerGuide : Nat) : List AdviceEntry :=
  .guideHeader name :: (extractPoints text (some pointsPerGuide)).map (.point name)

/-- What a corpus has to say on a topic: nothing, if it has no guide of its
name. -/
def topicEntries (corpus : Corpus) (pointsPerGuide : Nat) (topic : Topic) :
    List AdviceEntry :=
  match corpus.get? topic.name with
  | none => []
  | some text => guideEntries topic.name text pointsPerGuide

/-- All recommendations on some topics. -/
def allEntries (found : TopicMatch) (corpus : Corpus) (pointsPerGuide : Nat) :
    List AdviceEntry :=
  (if found.isGeneral then [.generalNotice] else []) ++
    found.topics.flatMap (topicEntries corpus pointsPerGuide)

/-- The advice that a corpus has on a text. -/
def ofText (text : String) (corpus : Corpus) (limits : AdviceLimits := {}) : Advice :=
  let found := TopicMatch.ofText text
  let entries := allEntries found corpus limits.pointsPerGuide
  { found, entries := entries.take limits.entries, total := entries.length }

end Advice

end ViewAudit
