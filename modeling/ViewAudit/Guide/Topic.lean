import ViewAudit.Text.Search

/-!
The topics of the guidelines, and the choice of those that a text is about. A
topic has the name of the guide that its advice is taken from.
-/

namespace ViewAudit

inductive Topic where
  | navigation
  | actions
  deriving DecidableEq, Repr

namespace Topic

/-- Every topic, in the order of the advice. -/
def all : List Topic := [navigation, actions]

def name : Topic → String
  | navigation => "navigation"
  | actions => "actions"

/-- Words in lower case of which each shows that a text is about the topic. -/
def keywords : Topic → List String
  | navigation => ["navigation", "navigationlink", "navigationstack", "tabview"]
  | actions => ["button", "action", "tap", "gesture", "onclick"]

/-- Whether a keyword of the topic occurs in a text, in any case. -/
def matchesText (text : List Char) (topic : Topic) : Bool :=
  topic.keywords.any fun word => occursIn word.toList (lowerText text)

end Topic

/-- The topics that advice is given on. -/
structure TopicMatch where
  topics : List Topic
  /-- No keyword occurs, so that every topic was taken. -/
  isGeneral : Bool
  deriving DecidableEq, Repr

namespace TopicMatch

/-- The topics of which a keyword occurs in a text, or all of them if there is
none. -/
def ofText (text : String) : TopicMatch :=
  match Topic.all.filter (·.matchesText text.toList) with
  | [] => ⟨Topic.all, true⟩
  | topics => ⟨topics, false⟩

def contains (found : TopicMatch) (topic : Topic) : Bool := found.topics.contains topic

def names (found : TopicMatch) : List String := found.topics.map Topic.name

end TopicMatch

end ViewAudit
