import ViewAudit.Text.Search

/-!
Searching a text finds exactly its substrings. A search for a word of ASCII in
a text in lower case finds what is equal to the word up to ASCII case, and it
finds the same in every lower-case form that a text may have, also in one where
the form of a character depends on its neighbours.
-/

namespace ViewAudit

theorem occursIn_iff {word text : List Char} : occursIn word text = true ↔ word <:+: text := by
  induction text with
  | nil => simp [occursIn]
  | cons c rest ih =>
      rw [List.infix_cons_iff, ← ih]
      simp [occursIn]

theorem occursIn_append {word text : List Char} (more : List Char)
    (h : occursIn word text = true) : occursIn word (text ++ more) = true := by
  rw [occursIn_iff] at h ⊢
  exact List.infix_append_of_infix_left h

/-! ## Lower case -/

/-- Whether every character of a word is one of ASCII. -/
def IsAsciiWord (word : List Char) : Prop := ∀ c ∈ word, c.toNat < 0x80

instance (word : List Char) : Decidable (IsAsciiWord word) :=
  List.decidableBAll (fun c : Char => c.toNat < 0x80) word

theorem IsAsciiWord.tail {c : Char} {word : List Char} (h : IsAsciiWord (c :: word)) :
    IsAsciiWord word :=
  fun d hd => h d (List.mem_cons_of_mem _ hd)

@[simp]
theorem lowerText_nil : lowerText [] = [] := rfl

@[simp]
theorem lowerText_cons (c : Char) (text : List Char) :
    lowerText (c :: text) = lowerForm c ++ lowerText text := rfl

theorem lowerText_append (text more : List Char) :
    lowerText (text ++ more) = lowerText text ++ lowerText more :=
  List.flatMap_append

/-- The characters of which the lower-case form has a letter of ASCII in it. -/
def LowersToAscii (c : Char) : Prop := c.toNat < 0x80 ∨ c = '\u0130' ∨ c = '\u212a'

/-- A way to write texts in lower case. The form of a character may depend on
what stands around it, as that of a sigma at the end of a word does. What is
known of every such way are the forms with letters of ASCII in them. -/
structure LowerCasing where
  /-- The form of a character between the text before it, listed last first, and
  the text after it. -/
  form : (before : List Char) → Char → (after : List Char) → List Char
  form_ascii : ∀ before c after, LowersToAscii c → form before c after = lowerForm c
  form_other : ∀ before c after, ¬ LowersToAscii c →
    form before c after ≠ [] ∧ ∀ d ∈ form before c after, 0x80 ≤ d.toNat

/-- The form of a text that follows on the text `before`. -/
def LowerCasing.lowerAfter (casing : LowerCasing) (before : List Char) : List Char → List Char
  | [] => []
  | c :: rest => casing.form before c rest ++ casing.lowerAfter (c :: before) rest

/-- The form of a whole text. -/
def LowerCasing.lower (casing : LowerCasing) (text : List Char) : List Char :=
  casing.lowerAfter [] text

/-- What is true of every single code point of ASCII is true of its characters. -/
theorem forall_ascii {P : Char → Prop} (h : ∀ n < 0x80, P (Char.ofNat n)) {c : Char}
    (hc : c.toNat < 0x80) : P c := by
  have hchar := h c.toNat hc
  rwa [Char.ofNat_toNat] at hchar

theorem toLower_eq_self {c : Char} (h : 0x80 ≤ c.toNat) : c.toLower = c := by
  have hupper : ¬ (c.val ≥ 'A'.val ∧ c.val ≤ 'Z'.val) := by
    rintro ⟨-, hle⟩
    have hnat : c.toNat ≤ 'Z'.toNat := UInt32.le_iff_toNat_le.mp hle
    have hz : 'Z'.toNat = 0x5A := rfl
    omega
  exact dif_neg hupper

theorem lowerForm_of_not_lowersToAscii {c : Char} (h : ¬ LowersToAscii c) : lowerForm c = [c] := by
  simp only [LowersToAscii, not_or, Nat.not_lt] at h
  obtain ⟨hascii, hdotted, hkelvin⟩ := h
  simp [lowerForm, hdotted, hkelvin, toLower_eq_self hascii]

/-- Only the first character of a form may be one of ASCII. -/
theorem lowerForm_eq_cons (c : Char) :
    ∃ d rest, lowerForm c = d :: rest ∧ ∀ x ∈ rest, 0x80 ≤ x.toNat := by
  unfold lowerForm
  split
  · exact ⟨_, _, rfl, by simp⟩
  · split
    · exact ⟨_, _, rfl, by simp⟩
    · exact ⟨_, _, rfl, by simp⟩

/-! ### Words of ASCII in other blocks -/

/-- A word of ASCII goes on with no other character, unless it is empty. -/
private theorem prefix_cons_iff_of_ascii {word text : List Char} {d : Char}
    (hword : IsAsciiWord word) (hd : 0x80 ≤ d.toNat) : word <+: d :: text ↔ word = [] := by
  cases word with
  | nil => simp
  | cons a word =>
      have ha := hword a List.mem_cons_self
      simp only [List.cons_prefix_cons, reduceCtorEq, iff_false, not_and]
      rintro rfl
      omega

private theorem infix_append_iff_of_ascii {word block text : List Char}
    (hword : IsAsciiWord word) (hblock : ∀ d ∈ block, 0x80 ≤ d.toNat) :
    word <:+: block ++ text ↔ word <:+: text := by
  induction block with
  | nil => rfl
  | cons d block ih =>
      have hd := hblock d List.mem_cons_self
      have hrest := ih fun x hx => hblock x (List.mem_cons_of_mem _ hx)
      rw [List.cons_append, List.infix_cons_iff, hrest, prefix_cons_iff_of_ascii hword hd]
      constructor
      · rintro (rfl | h)
        · exact List.nil_infix
        · exact h
      · exact Or.inr

/-- A word of ASCII begins where a form does or after it, not within it. -/
theorem infix_lowerForm_append {word text : List Char} (hword : IsAsciiWord word) (c : Char) :
    word <:+: lowerForm c ++ text ↔ word <+: lowerForm c ++ text ∨ word <:+: text := by
  obtain ⟨d, rest, heq, hrest⟩ := lowerForm_eq_cons c
  rw [heq, List.cons_append, List.infix_cons_iff, infix_append_iff_of_ascii hword hrest]

private theorem prefix_append_congr {text other : List Char}
    (h : ∀ word, IsAsciiWord word → (word <+: text ↔ word <+: other)) (block : List Char)
    {word : List Char} (hword : IsAsciiWord word) :
    word <+: block ++ text ↔ word <+: block ++ other := by
  induction block generalizing word with
  | nil => exact h word hword
  | cons d block ih =>
      cases word with
      | nil => simp
      | cons a word =>
          simp only [List.cons_append, List.cons_prefix_cons, ih hword.tail]

/-! ### Every way to lower a text -/

theorem LowerCasing.prefix_lowerAfter_iff (casing : LowerCasing) (before text : List Char)
    {word : List Char} (hword : IsAsciiWord word) :
    word <+: casing.lowerAfter before text ↔ word <+: lowerText text := by
  induction text generalizing before word with
  | nil => rfl
  | cons c rest ih =>
      rw [LowerCasing.lowerAfter, lowerText_cons]
      by_cases hc : LowersToAscii c
      · rw [casing.form_ascii before c rest hc]
        exact prefix_append_congr (fun _ hword => ih _ hword) _ hword
      · obtain ⟨hne, hother⟩ := casing.form_other before c rest hc
        obtain ⟨d, more, heq⟩ := List.exists_cons_of_ne_nil hne
        have hd : 0x80 ≤ d.toNat := hother d (heq ▸ List.mem_cons_self)
        have hc : 0x80 ≤ c.toNat := Nat.not_lt.mp fun h => hc (Or.inl h)
        rw [heq, lowerForm_of_not_lowersToAscii ‹_›, List.cons_append, List.singleton_append,
          prefix_cons_iff_of_ascii hword hd, prefix_cons_iff_of_ascii hword hc]

/-- A search for a word of ASCII cannot tell one way to lower a text from another. -/
theorem LowerCasing.infix_lowerAfter_iff (casing : LowerCasing) (before text : List Char)
    {word : List Char} (hword : IsAsciiWord word) :
    word <:+: casing.lowerAfter before text ↔ word <:+: lowerText text := by
  induction text generalizing before with
  | nil => rfl
  | cons c rest ih =>
      have hprefix := casing.prefix_lowerAfter_iff before (c :: rest) hword
      rw [LowerCasing.lowerAfter, lowerText_cons] at hprefix ⊢
      rw [infix_lowerForm_append hword c, ← ih (c :: before), ← hprefix]
      by_cases hc : LowersToAscii c
      · rw [casing.form_ascii before c rest hc, infix_lowerForm_append hword c]
      · obtain ⟨-, hother⟩ := casing.form_other before c rest hc
        rw [infix_append_iff_of_ascii hword hother]
        constructor
        · exact Or.inr
        · rintro (h | h)
          · exact (infix_append_iff_of_ascii hword hother).mp h.isInfix
          · exact h

theorem LowerCasing.occursIn_lower (casing : LowerCasing) {word : List Char}
    (hword : IsAsciiWord word) (text : List Char) :
    occursIn word (casing.lower text) = occursIn word (lowerText text) := by
  rw [Bool.eq_iff_iff, occursIn_iff, occursIn_iff]
  exact casing.infix_lowerAfter_iff [] text hword

theorem LowerCasing.any_occursIn_lower (casing : LowerCasing) {words : List String}
    (hwords : ∀ word ∈ words, IsAsciiWord word.toList) (text : List Char) :
    (words.any fun word => occursIn word.toList (casing.lower text)) =
      words.any fun word => occursIn word.toList (lowerText text) := by
  rw [Bool.eq_iff_iff, List.any_eq_true, List.any_eq_true]
  refine exists_congr fun word => and_congr_right fun hmem => ?_
  rw [casing.occursIn_lower (hwords word hmem)]

/-- Characters have the forms that they have in a search, but for a capital
sigma, which has another form at the end of a word. -/
def LowerCasing.withFinalSigma (isFinal : List Char → List Char → Bool) : LowerCasing where
  form before c after :=
    if c = 'Σ' then (if isFinal before after then ['ς'] else ['σ']) else lowerForm c
  form_ascii before c after h := by
    have hsigma : c ≠ 'Σ' := by
      rintro rfl
      simp [LowersToAscii] at h
    rw [if_neg hsigma]
  form_other before c after h := by
    split
    · split <;> simp
    · rw [lowerForm_of_not_lowersToAscii h]
      simp only [LowersToAscii, not_or, Nat.not_lt] at h
      simpa using h.1

/-! ### Equality up to ASCII case -/

/-- The letter of a search that a character stands for: its lower case in ASCII,
and a `k` for the Kelvin sign. -/
def foldCase (c : Char) : Char := if c = '\u212a' then 'k' else c.toLower

/-- A word of ASCII without an `i` at its end, which may also come from a dotted
capital. -/
structure IsSearchWord (word : List Char) : Prop where
  ascii : IsAsciiWord word
  no_last_i : word.getLast? ≠ some 'i'

instance (word : List Char) : Decidable (IsSearchWord word) :=
  decidable_of_iff (IsAsciiWord word ∧ word.getLast? ≠ some 'i')
    ⟨fun h => ⟨h.1, h.2⟩, fun h => ⟨h.ascii, h.no_last_i⟩⟩

theorem IsSearchWord.tail {c : Char} {word : List Char} (h : IsSearchWord (c :: word)) :
    IsSearchWord word where
  ascii := h.ascii.tail
  no_last_i := by
    cases word with
    | nil => simp
    | cons d word => simpa [List.getLast?_cons_cons] using h.no_last_i

/-- The first letter of such a word is what one character stands for. -/
theorem IsSearchWord.cons_prefix_iff {a : Char} {word text : List Char}
    (hword : IsSearchWord (a :: word)) (c : Char) :
    a :: word <+: lowerForm c ++ text ↔ foldCase c = a ∧ word <+: text := by
  have ha : a.toNat < 0x80 := hword.ascii a List.mem_cons_self
  unfold lowerForm
  split
  case isTrue hdotted =>
    subst hdotted
    have hfold : foldCase '\u0130' ≠ a := by
      rintro rfl
      exact absurd ha (by decide)
    simp only [List.cons_append, List.cons_prefix_cons, hfold, false_and, iff_false]
    rintro ⟨rfl, hmark⟩
    -- The combining dot ends what the word can take, so the `i` is its last letter.
    have hnil := (prefix_cons_iff_of_ascii hword.ascii.tail (by decide)).mp hmark
    exact hword.no_last_i (by simp [hnil])
  case isFalse =>
    unfold foldCase
    split
    case isTrue => simp [List.cons_prefix_cons, eq_comm]
    case isFalse => simp [List.cons_prefix_cons, eq_comm]

/-- A text in lower case starts with a word exactly if the characters at the
start of the text stand for its letters. -/
theorem IsSearchWord.prefix_lowerText_iff {word : List Char} (hword : IsSearchWord word)
    (text : List Char) :
    word <+: lowerText text ↔ ∃ part, part <+: text ∧ part.map foldCase = word := by
  induction text generalizing word with
  | nil => simp [eq_comm]
  | cons c rest ih =>
      cases word with
      | nil => simp
      | cons a word =>
          rw [lowerText_cons, hword.cons_prefix_iff, ih hword.tail]
          constructor
          · rintro ⟨rfl, part, hrest, rfl⟩
            exact ⟨c :: part, List.cons_prefix_cons.mpr ⟨rfl, hrest⟩, rfl⟩
          · rintro ⟨part, hprefix, hmap⟩
            cases part with
            | nil => cases hmap
            | cons b part =>
                obtain ⟨rfl, hrest⟩ := List.cons_prefix_cons.mp hprefix
                obtain ⟨hhead, htail⟩ := List.cons.inj hmap
                exact ⟨hhead, part, hrest, htail⟩

/-- A word occurs in a text in lower case exactly if consecutive characters of
the text stand for its letters. -/
theorem IsSearchWord.occursIn_lowerText_iff {word : List Char} (hword : IsSearchWord word)
    (text : List Char) :
    occursIn word (lowerText text) = true ↔
      ∃ part, part <:+: text ∧ part.map foldCase = word := by
  rw [occursIn_iff]
  induction text with
  | nil => simp [eq_comm]
  | cons c rest ih =>
      have hprefix := hword.prefix_lowerText_iff (c :: rest)
      rw [lowerText_cons] at hprefix ⊢
      rw [infix_lowerForm_append hword.ascii c, hprefix, ih]
      constructor
      · rintro (⟨part, h, heq⟩ | ⟨part, h, heq⟩)
        · exact ⟨part, h.isInfix, heq⟩
        · exact ⟨part, List.infix_cons h, heq⟩
      · rintro ⟨part, h, heq⟩
        rcases List.infix_cons_iff.mp h with h | h
        · exact Or.inl ⟨part, h, heq⟩
        · exact Or.inr ⟨part, h, heq⟩

/-- A word of ASCII that has no `k` either, which may also come from a Kelvin
sign. -/
structure HasPlainLetters (word : List Char) : Prop extends IsSearchWord word where
  no_k : 'k' ∉ word

/-- Letters other than `k` are stood for by characters of ASCII only. -/
theorem HasPlainLetters.map_foldCase_eq_iff {word : List Char} (hword : HasPlainLetters word)
    (part : List Char) : part.map foldCase = word ↔ part.map Char.toLower = word := by
  have hfold {c : Char} (hc : c ≠ '\u212a') : foldCase c = c.toLower := if_neg hc
  have hmap (hpart : '\u212a' ∉ part) : part.map foldCase = part.map Char.toLower := by
    apply List.map_congr_left
    intro c hc
    apply hfold
    rintro rfl
    exact hpart hc
  by_cases hkelvin : '\u212a' ∈ part
  · constructor
    · intro heq
      have hmem : foldCase '\u212a' ∈ word := heq ▸ List.mem_map_of_mem hkelvin
      exact absurd hmem hword.no_k
    · intro heq
      have hmem : Char.toLower '\u212a' ∈ word := heq ▸ List.mem_map_of_mem hkelvin
      exact absurd (hword.ascii _ hmem) (by decide)
  · rw [hmap hkelvin]

/-- A word occurs in a text in lower case exactly if consecutive characters of
the text are equal to it up to ASCII case. -/
theorem HasPlainLetters.occursIn_lowerText_iff {word : List Char} (hword : HasPlainLetters word)
    (text : List Char) :
    occursIn word (lowerText text) = true ↔
      ∃ part, part <:+: text ∧ part.map Char.toLower = word := by
  rw [hword.toIsSearchWord.occursIn_lowerText_iff]
  exact exists_congr fun part => and_congr_right fun _ => hword.map_foldCase_eq_iff part

end ViewAudit
