/-!
A corpus holds guides by name. It lists them in the order of their names, by
code points, so that two corpora with the same guides are equal.
-/

namespace ViewAudit

structure Guide where
  name : String
  text : String
  deriving DecidableEq, Repr

/-- The guides with `guide` among them, in place of one of the same name. -/
def insertGuide (guide : Guide) : List Guide → List Guide
  | [] => [guide]
  | first :: rest =>
      if guide.name < first.name then guide :: first :: rest
      else if guide.name = first.name then guide :: rest
      else first :: insertGuide guide rest

theorem mem_of_mem_insertGuide {x guide : Guide} {guides : List Guide}
    (h : x ∈ insertGuide guide guides) : x = guide ∨ x ∈ guides := by
  induction guides with
  | nil => simpa [insertGuide] using h
  | cons first rest ih =>
      simp only [insertGuide] at h
      split at h
      · simpa using h
      · split at h
        · rcases List.mem_cons.mp h with h | h
          · exact .inl h
          · exact .inr (List.mem_cons_of_mem _ h)
        · rcases List.mem_cons.mp h with h | h
          · exact .inr (h ▸ List.mem_cons_self)
          · exact (ih h).imp_right (List.mem_cons_of_mem _)

/-- Names stay in order and without repetition when a guide is put in. -/
theorem sorted_insertGuide (guide : Guide) {guides : List Guide}
    (h : guides.Pairwise (·.name < ·.name)) :
    (insertGuide guide guides).Pairwise (·.name < ·.name) := by
  induction guides with
  | nil => simp [insertGuide]
  | cons first rest ih =>
      have ⟨hfirst, hrest⟩ := List.pairwise_cons.mp h
      simp only [insertGuide]
      split
      case isTrue hlt =>
        refine List.pairwise_cons.mpr ⟨fun x hx => ?_, h⟩
        rcases List.mem_cons.mp hx with rfl | hx
        · exact hlt
        · exact String.lt_trans hlt (hfirst x hx)
      case isFalse hlt =>
        split
        case isTrue heq =>
          exact List.pairwise_cons.mpr ⟨fun x hx => heq ▸ hfirst x hx, hrest⟩
        case isFalse hne =>
          refine List.pairwise_cons.mpr ⟨fun x hx => ?_, ih hrest⟩
          rcases mem_of_mem_insertGuide hx with rfl | hx
          · exact Std.lt_of_le_of_ne (String.not_lt.mp hlt) (Ne.symm hne)
          · exact hfirst x hx

/-- The text that a guide of a name takes the place of when it is put among some
guides. The search ends at the first greater name. -/
def replacedText? (name : String) : List Guide → Option String
  | [] => none
  | first :: rest =>
      if name < first.name then none
      else if name = first.name then some first.text
      else replacedText? name rest

/-- Guides of different names, listed in the order of the names. -/
structure Corpus where
  guides : List Guide
  sorted : guides.Pairwise (·.name < ·.name)
  deriving DecidableEq

namespace Corpus

def empty : Corpus := ⟨[], .nil⟩

/-- A corpus with one more guide, or with another text for a guide it has. -/
def insert (corpus : Corpus) (name text : String) : Corpus :=
  ⟨insertGuide ⟨name, text⟩ corpus.guides, sorted_insertGuide _ corpus.sorted⟩

/-- Puts a guide in and gives the text that it took the place of, if there was
one of its name. -/
def exchange (corpus : Corpus) (name text : String) : Option String × Corpus :=
  (replacedText? name corpus.guides, corpus.insert name text)

/-- The text of the guide of a name. -/
def get? (corpus : Corpus) (name : String) : Option String :=
  (corpus.guides.find? (·.name == name)).map Guide.text

/-- The names of the guides in increasing order. -/
def names (corpus : Corpus) : List String := corpus.guides.map Guide.name

/-- The number of guides. -/
def size (corpus : Corpus) : Nat := corpus.guides.length

def isEmpty (corpus : Corpus) : Bool := corpus.guides.isEmpty

/-- A corpus of some guides, of which the last one of a name counts. -/
def ofList (guides : List Guide) : Corpus :=
  guides.foldl (fun corpus guide => corpus.insert guide.name guide.text) empty

end Corpus

end ViewAudit
