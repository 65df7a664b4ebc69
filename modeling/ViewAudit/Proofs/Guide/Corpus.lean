import ViewAudit.Guide.Corpus

/-!
A corpus as a map from names to texts: a guide that is put in is found by its
name, and nothing else changes. A corpus is nothing more than this map, since
its guides are listed in the order of their names.
-/

namespace ViewAudit

theorem find?_cons_guide (guide : Guide) (guides : List Guide) (name : String) :
    (guide :: guides).find? (·.name == name) =
      if name = guide.name then some guide else guides.find? (·.name == name) := by
  by_cases h : name = guide.name
  · rw [List.find?_cons_of_pos (by rw [h]; exact beq_self_eq_true _), if_pos h]
  · rw [List.find?_cons_of_neg (by simpa using Ne.symm h), if_neg h]

theorem find?_insertGuide (guide : Guide) (guides : List Guide) (name : String) :
    (insertGuide guide guides).find? (·.name == name) =
      if name = guide.name then some guide else guides.find? (·.name == name) := by
  induction guides with
  | nil => exact find?_cons_guide guide [] name
  | cons first rest ih =>
      rw [insertGuide]
      split
      case isTrue => exact find?_cons_guide guide (first :: rest) name
      case isFalse =>
        split
        case isTrue heq =>
          rw [find?_cons_guide, find?_cons_guide]
          by_cases h : name = guide.name
          · rw [if_pos h, if_pos h]
          · rw [if_neg h, if_neg h, if_neg (heq ▸ h)]
        case isFalse hne =>
          rw [find?_cons_guide, find?_cons_guide, ih]
          by_cases h : name = guide.name
          · rw [if_pos h, if_pos h, if_neg (h ▸ hne)]
          · rw [if_neg h, if_neg h]

/-- In the order of the names, the search for a name may end at the first greater
one. -/
theorem replacedText?_eq {guides : List Guide} (h : guides.Pairwise (·.name < ·.name))
    (name : String) :
    replacedText? name guides = (guides.find? (·.name == name)).map Guide.text := by
  induction guides with
  | nil => rfl
  | cons first rest ih =>
      obtain ⟨hfirst, hrest⟩ := List.pairwise_cons.mp h
      rw [replacedText?, find?_cons_guide]
      split
      case isTrue hlt =>
        have hne : name ≠ first.name := fun heq => String.lt_irrefl _ (heq ▸ hlt)
        have hnone : rest.find? (·.name == name) = none := by
          rw [List.find?_eq_none]
          intro guide hmem hname
          have hgreater : name < guide.name := String.lt_trans hlt (hfirst guide hmem)
          rw [eq_of_beq hname] at hgreater
          exact String.lt_irrefl _ hgreater
        rw [if_neg hne, hnone]
        rfl
      case isFalse =>
        split
        case isTrue => rfl
        case isFalse => exact ih hrest

/-- The first guide of a name is the only one. -/
theorem find?_eq_some_iff_mem {guides : List Guide} (h : guides.Pairwise (·.name < ·.name))
    {name : String} {guide : Guide} :
    guides.find? (·.name == name) = some guide ↔ guide ∈ guides ∧ guide.name = name := by
  constructor
  · intro hfound
    have hname := List.find?_some hfound
    exact ⟨List.mem_of_find?_eq_some hfound, eq_of_beq hname⟩
  · rintro ⟨hmem, rfl⟩
    induction guides with
    | nil => cases hmem
    | cons first rest ih =>
        obtain ⟨hfirst, hrest⟩ := List.pairwise_cons.mp h
        rw [find?_cons_guide]
        rcases List.mem_cons.mp hmem with rfl | hmem
        · exact if_pos rfl
        · have hne : guide.name ≠ first.name := fun heq =>
            String.lt_irrefl _ (heq ▸ hfirst guide hmem)
          rw [if_neg hne, ih hrest hmem]

namespace Corpus

theorem get?_empty (name : String) : empty.get? name = none := rfl

/-- The text that was put in last counts, and other guides keep theirs. -/
theorem get?_insert (corpus : Corpus) (name text other : String) :
    (corpus.insert name text).get? other =
      if other = name then some text else corpus.get? other := by
  rw [get?, insert, find?_insertGuide]
  by_cases h : other = name
  · rw [if_pos h, if_pos h]
    rfl
  · rw [if_neg h, if_neg h]
    rfl

/-- What a guide takes the place of is the text that its name had. -/
theorem exchange_eq (corpus : Corpus) (name text : String) :
    corpus.exchange name text = (corpus.get? name, corpus.insert name text) := by
  rw [exchange, replacedText?_eq corpus.sorted, get?]

theorem mem_guides_iff {corpus : Corpus} {guide : Guide} :
    guide ∈ corpus.guides ↔ corpus.get? guide.name = some guide.text := by
  rw [get?, Option.map_eq_some_iff]
  constructor
  · intro hmem
    exact ⟨guide, (find?_eq_some_iff_mem corpus.sorted).mpr ⟨hmem, rfl⟩, rfl⟩
  · rintro ⟨found, hfound, htext⟩
    obtain ⟨hmem, hname⟩ := (find?_eq_some_iff_mem corpus.sorted).mp hfound
    have hsame : found = guide := by
      cases found
      cases guide
      cases hname
      cases htext
      rfl
    exact hsame ▸ hmem

theorem nodup_guides (corpus : Corpus) : corpus.guides.Nodup := by
  refine corpus.sorted.imp ?_
  rintro first second hlt rfl
  exact String.lt_irrefl _ hlt

/-- Corpora with the same texts are equal, however they came about. -/
theorem eq_of_get?_eq {corpus other : Corpus} (h : ∀ name, corpus.get? name = other.get? name) :
    corpus = other := by
  have hperm : corpus.guides.Perm other.guides := by
    rw [List.perm_ext_iff_of_nodup corpus.nodup_guides other.nodup_guides]
    intro guide
    rw [mem_guides_iff, mem_guides_iff, h]
  have hguides : corpus.guides = other.guides := by
    refine hperm.eq_of_pairwise ?_ corpus.sorted other.sorted
    intro first second _ _ hlt hgt
    exact absurd hlt (String.lt_asymm hgt)
  cases corpus
  cases other
  cases hguides
  rfl

theorem mem_names_iff {corpus : Corpus} {name : String} :
    name ∈ corpus.names ↔ (corpus.get? name).isSome = true := by
  rw [names, get?, Option.isSome_map, List.find?_isSome, List.mem_map]
  constructor
  · rintro ⟨guide, hmem, rfl⟩
    exact ⟨guide, hmem, beq_self_eq_true _⟩
  · rintro ⟨guide, hmem, hname⟩
    exact ⟨guide, hmem, eq_of_beq hname⟩

theorem names_sorted (corpus : Corpus) : corpus.names.Pairwise (· < ·) :=
  List.pairwise_map.mpr corpus.sorted

theorem isEmpty_eq_true_iff {corpus : Corpus} :
    corpus.isEmpty = true ↔ ∀ name, corpus.get? name = none := by
  rw [isEmpty, List.isEmpty_iff]
  constructor
  · intro hnil name
    rw [get?, hnil]
    rfl
  · intro hnone
    rw [List.eq_nil_iff_forall_not_mem]
    intro guide hmem
    have hname : guide.name ∈ corpus.names := List.mem_map_of_mem hmem
    rw [mem_names_iff, hnone] at hname
    cases hname

end Corpus

end ViewAudit
