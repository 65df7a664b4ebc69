import Mathlib.Data.Set.Card
import ViewAudit.Guide.Advice
import ViewAudit.Proofs.Guide.Corpus
import ViewAudit.Proofs.Text.Utf8

/-!
Histories of a corpus. Guides are put in one by one, and a corpus is made anew
from a list of guides. After any number of such steps it stands for the map from
names to the texts that were given for them last, and of its history nothing
else is left.
-/

namespace ViewAudit

/-! ## Uses of a corpus -/

inductive CorpusUse where
  | insert (name text : String)
  /-- Makes the corpus anew from some guides. -/
  | collect (guides : List Guide)
  | get (name : String)
  | names
  | size
  | advise (text : String) (limits : AdviceLimits)

/-- What comes of a use of a corpus. -/
inductive CorpusAnswer where
  /-- The text of a guide: for `insert` the one that was replaced. -/
  | text (found : Option String)
  | names (names : List String)
  | size (number : Nat) (isEmpty : Bool)
  | advice (advice : Advice)

/-- Whether a use is meant to change the corpus. -/
def CorpusUse.changes : CorpusUse → Bool
  | .insert _ _ | .collect _ => true
  | .get _ | .names | .size | .advise _ _ => false

namespace Corpus

/-- The answer to a use of a corpus, and what the corpus is after it. -/
def use (corpus : Corpus) : CorpusUse → CorpusAnswer × Corpus
  | .insert name text =>
      let (replaced, corpus) := corpus.exchange name text
      (.text replaced, corpus)
  | .collect guides =>
      let corpus := ofList guides
      (.size corpus.size corpus.isEmpty, corpus)
  | .get name => (.text (corpus.get? name), corpus)
  | .names => (.names corpus.names, corpus)
  | .size => (.size corpus.size corpus.isEmpty, corpus)
  | .advise text limits => (.advice (.ofText text corpus limits), corpus)

/-- A corpus after some more uses. -/
def afterMore (corpus : Corpus) (uses : List CorpusUse) : Corpus :=
  uses.foldl (fun corpus use => (corpus.use use).2) corpus

/-- What some uses make of the empty corpus. -/
def afterUses (history : List CorpusUse) : Corpus := empty.afterMore history

end Corpus

/-! ## Texts given last -/

/-- The text that was given last for a name. -/
def lastText? (guides : List Guide) (name : String) : Option String :=
  (guides.findRev? (·.name == name)).map Guide.text

/-- The guides given since a corpus was made anew, after one more use. -/
def CorpusUse.givenAfter (given : List Guide) : CorpusUse → List Guide
  | .insert name text => given ++ [⟨name, text⟩]
  | .collect guides => guides
  | .get _ | .names | .size | .advise _ _ => given

/-- The guides given since a corpus was last made anew, in the order in which
they were given. -/
def guidesGiven (history : List CorpusUse) : List Guide :=
  history.foldl CorpusUse.givenAfter []

theorem lastText?_cons (guide : Guide) (guides : List Guide) (name : String) :
    lastText? (guide :: guides) name =
      (lastText? guides name).or (if name = guide.name then some guide.text else none) := by
  rw [lastText?, lastText?, List.findRev?]
  cases guides.findRev? (·.name == name) with
  | some found => rfl
  | none =>
      by_cases h : name = guide.name
      · simp [h]
      · simp [h, Ne.symm h]

theorem lastText?_append (guides more : List Guide) (name : String) :
    lastText? (guides ++ more) name = (lastText? more name).or (lastText? guides name) := by
  induction guides with
  | nil => exact Option.or_none.symm
  | cons guide rest ih => rw [List.cons_append, lastText?_cons, lastText?_cons, ih, Option.or_assoc]

/-! ## The map that a corpus stands for -/

/-- All that a corpus shows is said by a map from names to texts. -/
structure Corpus.StandsFor (corpus : Corpus) (texts : String → Option String) : Prop where
  get?_eq : ∀ name, corpus.get? name = texts name
  replaced_eq : ∀ name text, (corpus.use (.insert name text)).1 = .text (texts name)
  mem_names_iff : ∀ name, name ∈ corpus.names ↔ (texts name).isSome = true
  names_sorted : corpus.names.Pairwise fun first second =>
    Utf8.bytes first < Utf8.bytes second
  size_eq : corpus.size = {name | (texts name).isSome = true}.ncard
  isEmpty_iff : corpus.isEmpty = true ↔ corpus.size = 0

namespace Corpus

theorem nodup_names (corpus : Corpus) : corpus.names.Nodup := by
  refine corpus.names_sorted.imp ?_
  rintro first second hlt rfl
  exact String.lt_irrefl _ hlt

theorem size_eq_ncard (corpus : Corpus) :
    corpus.size = {name | (corpus.get? name).isSome = true}.ncard := by
  have hnames :
      {name | (corpus.get? name).isSome = true} = (corpus.names.toFinset : Set String) := by
    ext name
    rw [Set.mem_ofPred_eq, ← mem_names_iff, Finset.mem_coe, List.mem_toFinset]
  rw [hnames, Set.ncard_coe_finset, List.toFinset_card_of_nodup corpus.nodup_names, names,
    List.length_map, size]

theorem standsFor_of_get?_eq {corpus : Corpus} {texts : String → Option String}
    (h : ∀ name, corpus.get? name = texts name) : corpus.StandsFor texts where
  get?_eq := h
  replaced_eq name text := by
    rw [use, exchange_eq, h]
  mem_names_iff name := by
    rw [mem_names_iff, h]
  names_sorted := corpus.names_sorted.imp Utf8.bytes_lt_bytes_iff.mpr
  size_eq := by
    rw [size_eq_ncard]
    simp only [h]
  isEmpty_iff := by
    rw [isEmpty, size, List.isEmpty_iff, List.length_eq_zero_iff]

/-- Of several guides of a name the last one counts. -/
theorem get?_ofList (guides : List Guide) (name : String) :
    (ofList guides).get? name = lastText? guides name := by
  have hinsert (corpus : Corpus) :
      (guides.foldl (fun corpus guide => corpus.insert guide.name guide.text) corpus).get? name =
        (lastText? guides name).or (corpus.get? name) := by
    induction guides generalizing corpus with
    | nil => rfl
    | cons guide rest ih =>
        rw [List.foldl_cons, ih, get?_insert, lastText?_cons, Option.or_assoc]
        by_cases h : name = guide.name
        · rw [if_pos h, if_pos h]
          rfl
        · rw [if_neg h, if_neg h]
          rfl
  rw [ofList, hinsert, get?_empty, Option.or_none]

/-- One more use keeps a corpus in step with the texts that were given last. -/
theorem get?_use {corpus : Corpus} {given : List Guide}
    (h : ∀ name, corpus.get? name = lastText? given name) (use : CorpusUse) (name : String) :
    (corpus.use use).2.get? name = lastText? (use.givenAfter given) name := by
  cases use with
  | insert inserted text =>
      rw [Corpus.use, exchange_eq, CorpusUse.givenAfter, lastText?_append, ← h]
      dsimp only
      rw [get?_insert, lastText?_cons]
      by_cases hname : name = inserted
      · rw [if_pos hname, if_pos hname]
        rfl
      · rw [if_neg hname, if_neg hname]
        rfl
  | collect guides => exact get?_ofList guides name
  | get _ => exact h name
  | names => exact h name
  | size => exact h name
  | advise _ _ => exact h name

theorem get?_afterMore {corpus : Corpus} {given : List Guide}
    (h : ∀ name, corpus.get? name = lastText? given name) (uses : List CorpusUse) (name : String) :
    (corpus.afterMore uses).get? name =
      lastText? (uses.foldl CorpusUse.givenAfter given) name := by
  induction uses generalizing corpus given with
  | nil => exact h name
  | cons use rest ih => exact ih (get?_use h use)

theorem afterMore_filter_changes (corpus : Corpus) (uses : List CorpusUse) :
    corpus.afterMore (uses.filter CorpusUse.changes) = corpus.afterMore uses := by
  induction uses generalizing corpus with
  | nil => rfl
  | cons use rest ih =>
      cases use with
      | insert _ _ => exact ih _
      | collect _ => exact ih _
      | get _ => exact ih _
      | names => exact ih _
      | size => exact ih _
      | advise _ _ => exact ih _

end Corpus

/-- After any history a corpus stands for the map from names to the texts given
last: a guide that is put in changes the text of its own name only, corpora are
equal if they have the same texts, and nothing but `insert` and `collect` makes
a difference. -/
theorem corpus_stands_for_last_texts (history : List CorpusUse) :
    let corpus := Corpus.afterUses history
    corpus.StandsFor (lastText? (guidesGiven history)) ∧
      (∀ name text, Corpus.afterUses (history ++ [.insert name text]) = corpus.insert name text) ∧
      (∀ name text other, (corpus.insert name text).get? other =
        if other = name then some text else corpus.get? other) ∧
      (∀ others, corpus = Corpus.afterUses others ↔
        ∀ name, corpus.get? name = (Corpus.afterUses others).get? name) ∧
      Corpus.afterUses (history.filter CorpusUse.changes) = corpus := by
  intro corpus
  refine ⟨?_, ?_, corpus.get?_insert, ?_, Corpus.empty.afterMore_filter_changes history⟩
  · apply Corpus.standsFor_of_get?_eq
    exact Corpus.get?_afterMore Corpus.get?_empty history
  · intro name text
    rw [Corpus.afterUses, Corpus.afterMore, List.foldl_append]
    rfl
  · intro others
    constructor
    · intro h name
      rw [h]
    · exact Corpus.eq_of_get?_eq

/-- A character of four bytes comes after one of three, and a name after its
beginning. -/
example :
    let corpus := Corpus.afterUses [.insert "𐀀" "a", .collect [⟨"𐀀", "b"⟩, ⟨"\uffff", "c"⟩],
      .insert "\uffffa" "d", .insert "𐀀" "e"]
    corpus.names = ["\uffff", "\uffffa", "𐀀"] ∧ corpus.get? "𐀀" = some "e" := by
  decide

end ViewAudit
