import ViewAudit.Json.Read
import ViewAudit.Json.Write

/-!
What is written as JSON is read as the same value. The layout between the parts
does not matter as long as it consists of white space, and strings may hold any
characters at all.
-/

namespace ViewAudit.Json

/-- The reader after some more characters. -/
def Reader.feed (reader : Reader) (text : List Char) : Option Reader :=
  text.foldlM Reader.step reader

@[simp]
theorem Reader.feed_nil (reader : Reader) : reader.feed [] = some reader := rfl

theorem Reader.feed_cons (reader : Reader) (c : Char) (text : List Char) :
    reader.feed (c :: text) = (reader.step c).bind fun next => next.feed text := rfl

theorem Reader.feed_append (reader : Reader) (text more : List Char) :
    reader.feed (text ++ more) = (reader.feed text).bind fun next => next.feed more :=
  List.foldlM_append

theorem Reader.feed_append_of_eq {reader next : Reader} {text : List Char}
    (h : reader.feed text = some next) (more : List Char) :
    reader.feed (text ++ more) = next.feed more := by
  rw [Reader.feed_append, h, Option.bind_some]

/-! ## Gaps and words -/

/-- Between tokens a character is read into tokens, which the value goes on with. -/
theorem Reader.step_gap {progress next : Progress} {c : Char} {tokens : List Token}
    (hchar : readGap c = some (tokens, .gap))
    (htokens : tokens.foldlM readToken progress = some next) :
    Reader.step ⟨.gap, progress⟩ c = some ⟨.gap, next⟩ := by
  simp [Reader.step, readChar, hchar, htokens]

theorem readGap_of_isGap {c : Char} (h : isGap c = true) : readGap c = some ([], .gap) := by
  have hcases : c = ' ' ∨ c = '\t' ∨ c = '\n' ∨ c = '\r' := by
    simpa [isGap] using h
  rcases hcases with rfl | rfl | rfl | rfl <;> rfl

theorem isWordPart_of_isGap {c : Char} (h : isGap c = true) : isWordPart c = false := by
  have hcases : c = ' ' ∨ c = '\t' ∨ c = '\n' ∨ c = '\r' := by
    simpa [isGap] using h
  rcases hcases with rfl | rfl | rfl | rfl <;> rfl

theorem readGap_of_isWordPart {c : Char} (h : isWordPart c = true) :
    readGap c = some ([], .word [c]) := by
  have hgap : isGap c = false := by
    cases hgap : isGap c with
    | false => rfl
    | true =>
        rw [isWordPart_of_isGap hgap] at h
        cases h
  unfold readGap
  split
  case h_8 => simp [hgap, h]
  all_goals exact absurd h (by decide)

/-- White space between tokens is passed over. -/
theorem Reader.feed_gaps {gaps : List Char} (hgaps : ∀ c ∈ gaps, isGap c = true)
    (progress : Progress) (rest : List Char) :
    Reader.feed ⟨.gap, progress⟩ (gaps ++ rest) = Reader.feed ⟨.gap, progress⟩ rest := by
  induction gaps with
  | nil => rfl
  | cons c gaps ih =>
      have hstep : Reader.step ⟨.gap, progress⟩ c = some ⟨.gap, progress⟩ :=
        Reader.step_gap (readGap_of_isGap (hgaps c List.mem_cons_self)) rfl
      rw [List.cons_append, Reader.feed_cons, hstep, Option.bind_some]
      exact ih fun d hd => hgaps d (List.mem_cons_of_mem _ hd)

theorem Reader.feed_word {word : List Char} (hword : ∀ c ∈ word, isWordPart c = true)
    (seen : List Char) (progress : Progress) :
    Reader.feed ⟨.word seen, progress⟩ word =
      some ⟨.word (word.reverse ++ seen), progress⟩ := by
  induction word generalizing seen with
  | nil => rfl
  | cons c word ih =>
      have hc := hword c List.mem_cons_self
      have hstep : Reader.step ⟨.word seen, progress⟩ c = some ⟨.word (c :: seen), progress⟩ := by
        simp [Reader.step, readChar, hc]
      rw [Reader.feed_cons, hstep, Option.bind_some,
        ih fun d hd => hword d (List.mem_cons_of_mem _ hd)]
      simp

/-! ## Values whose end shows later -/

/-- The value that is read is known up to here. A word has been read in full, but
only the next character shows it. -/
inductive Reader.Settles : Reader → Progress → Prop where
  | gap {progress : Progress} : Settles ⟨.gap, progress⟩ progress
  | word {seen : List Char} {value : Json} {before progress : Progress}
      (hvalue : atom? seen.reverse = some value)
      (htoken : readToken before (.atom value) = some progress) :
      Settles ⟨.word seen, before⟩ progress

/-- A character that is no part of a word is read as one after a gap. -/
theorem Reader.Settles.step {reader : Reader} {progress : Progress} {c : Char}
    (h : reader.Settles progress) (hc : isWordPart c = false) :
    reader.step c = Reader.step ⟨.gap, progress⟩ c := by
  cases h with
  | gap => rfl
  | word hvalue htoken =>
      simp only [Reader.step, readChar, hc, Bool.false_eq_true, ↓reduceIte, hvalue,
        Option.bind_eq_bind, Option.bind_some]
      cases readGap c with
      | none => rfl
      | some result => simp [htoken]

/-- White space after a value changes nothing. -/
theorem Reader.Settles.exists_feed_gaps {reader : Reader} {progress : Progress}
    (h : reader.Settles progress) {gaps : List Char} (hgaps : ∀ c ∈ gaps, isGap c = true) :
    ∃ next, reader.feed gaps = some next ∧ next.Settles progress := by
  cases gaps with
  | nil => exact ⟨reader, rfl, h⟩
  | cons c gaps =>
      have hc := hgaps c List.mem_cons_self
      have hrest := Reader.feed_gaps (fun d hd => hgaps d (List.mem_cons_of_mem _ hd)) progress []
      have hstep : Reader.step ⟨.gap, progress⟩ c = some ⟨.gap, progress⟩ :=
        Reader.step_gap (readGap_of_isGap hc) rfl
      rw [List.append_nil, Reader.feed_nil] at hrest
      refine ⟨⟨.gap, progress⟩, ?_, Reader.Settles.gap⟩
      rw [Reader.feed_cons, h.step (isWordPart_of_isGap hc), hstep, Option.bind_some, hrest]

/-- A mark after a value, or at a gap, is what the value goes on with. -/
theorem Reader.Settles.feed_mark {reader : Reader} {progress next : Progress} {c : Char}
    {token : Token} (h : reader.Settles progress) (hchar : readGap c = some ([token], .gap))
    (htoken : readToken progress token = some next) (rest : List Char) :
    reader.feed (c :: rest) = Reader.feed ⟨.gap, next⟩ rest := by
  have hword : isWordPart c = false := by
    cases hword : isWordPart c with
    | false => rfl
    | true =>
        rw [readGap_of_isWordPart hword] at hchar
        cases hchar
  have hstep : Reader.step ⟨.gap, progress⟩ c = some ⟨.gap, next⟩ :=
    Reader.step_gap hchar (by simp [htoken])
  rw [Reader.feed_cons, h.step hword, hstep, Option.bind_some]

theorem Reader.Settles.finish? {reader : Reader} {value : Json}
    (h : reader.Settles (.done value [])) : reader.finish? = some value := by
  cases h with
  | gap => rfl
  | word hvalue htoken => simp [Reader.finish?, hvalue, htoken]

/-- A word that stands for a value settles on what the value leads to. -/
theorem Reader.exists_settles_of_atom {word : List Char} {value : Json}
    {before progress : Progress} (hword : ∀ c ∈ word, isWordPart c = true) (hne : word ≠ [])
    (hvalue : atom? word = some value) (htoken : readToken before (.atom value) = some progress) :
    ∃ reader, Reader.feed ⟨.gap, before⟩ word = some reader ∧ reader.Settles progress := by
  obtain ⟨c, rest, rfl⟩ := List.exists_cons_of_ne_nil hne
  have hc := hword c List.mem_cons_self
  have hstep : Reader.step ⟨.gap, before⟩ c = some ⟨.word [c], before⟩ := by
    simp [Reader.step, readChar, readGap_of_isWordPart hc]
  refine ⟨⟨.word (rest.reverse ++ [c]), before⟩, ?_, ?_⟩
  · rw [Reader.feed_cons, hstep, Option.bind_some]
    exact Reader.feed_word (fun d hd => hword d (List.mem_cons_of_mem _ hd)) [c] before
  · apply Reader.Settles.word _ htoken
    simpa using hvalue

/-! ## Strings -/

theorem hexDigit?_digitChar {n : Nat} (h : n < 16) : hexDigit? (Nat.digitChar n) = some n := by
  have hall : ∀ n < 16, hexDigit? (Nat.digitChar n) = some n := by decide
  exact hall n h

/-- The four digits of a control character are read as that character. -/
theorem Reader.feed_unit {c : Char} (hc : c.toNat < 0x20) (seen : List Char)
    (progress : Progress) :
    Reader.feed ⟨.text seen, progress⟩ ['\\', 'u', '0', '0', Nat.digitChar (c.toNat / 16),
      Nat.digitChar (c.toNat % 16)] = some ⟨.text (c :: seen), progress⟩ := by
  have hhigh : hexDigit? (Nat.digitChar (c.toNat / 16)) = some (c.toNat / 16) :=
    hexDigit?_digitChar (by omega)
  have hlow : hexDigit? (Nat.digitChar (c.toNat % 16)) = some (c.toNat % 16) :=
    hexDigit?_digitChar (by omega)
  have hzero : hexDigit? '0' = some 0 := by decide
  have hvalue : c.toNat / 16 * 16 + c.toNat % 16 = c.toNat := by omega
  have hunit : afterUnit? seen none c.toNat = some (.text (c :: seen)) := by
    rw [afterUnit?, if_neg (by omega), if_neg (by omega), Char.ofNat_toNat]
  simp [Reader.feed_cons, Reader.step, readChar, hhigh, hlow, hzero, hvalue, hunit]

/-- An escaped character is read as the character. -/
theorem Reader.feed_escapeChar (c : Char) (seen : List Char) (progress : Progress) :
    Reader.feed ⟨.text seen, progress⟩ (escapeChar c) = some ⟨.text (c :: seen), progress⟩ := by
  unfold escapeChar
  split
  case h_8 hquote hbackslash _ _ _ _ _ =>
    split
    case isTrue hcontrol => exact Reader.feed_unit hcontrol seen progress
    case isFalse hplain =>
      have hquote : c ≠ '"' := hquote
      have hbackslash : c ≠ '\\' := hbackslash
      simp [Reader.feed_cons, Reader.step, readChar, hquote, hbackslash, hplain]
  all_goals rfl

theorem Reader.feed_escaped (text seen : List Char) (progress : Progress) :
    Reader.feed ⟨.text seen, progress⟩ (text.flatMap escapeChar) =
      some ⟨.text (text.reverse ++ seen), progress⟩ := by
  induction text generalizing seen with
  | nil => rfl
  | cons c text ih =>
      rw [List.flatMap_cons, Reader.feed_append_of_eq (Reader.feed_escapeChar c seen progress), ih]
      simp

/-- A string is read as one token, whatever its characters are. -/
theorem Reader.feed_writeString (text : String) {before progress : Progress}
    (htoken : readToken before (.text text) = some progress) :
    Reader.feed ⟨.gap, before⟩ (writeString text) = some ⟨.gap, progress⟩ := by
  have hopen : Reader.step ⟨.gap, before⟩ '"' = some ⟨.text [], before⟩ := rfl
  have hclose : Reader.feed ⟨.text (text.toList.reverse ++ []), before⟩ ['"'] =
      some ⟨.gap, progress⟩ := by
    simp [Reader.feed_cons, Reader.step, readChar, htoken]
  rw [writeString, List.cons_append, Reader.feed_cons, hopen, Option.bind_some,
    Reader.feed_append_of_eq (Reader.feed_escaped text.toList [] before), hclose]

/-! ## Numbers -/

theorem isWordPart_of_isDigit {c : Char} (h : c.isDigit = true) : isWordPart c = true := by
  simp [isWordPart, Char.isAlphanum, h]

theorem isDigit_of_mem_writeNatural {n : Nat} {c : Char} (h : c ∈ writeNatural n) :
    c.isDigit = true :=
  Nat.isDigit_of_mem_toDigits (by decide) (by decide) h

theorem exists_writeNatural_eq_cons (n : Nat) :
    ∃ digit rest, writeNatural n = digit :: rest ∧ digit.isDigit = true := by
  obtain ⟨digit, rest, heq⟩ := List.exists_cons_of_ne_nil (Nat.toDigits_ne_nil (n := n) (b := 10))
  refine ⟨digit, rest, heq, ?_⟩
  apply isDigit_of_mem_writeNatural (n := n)
  rw [writeNatural, heq]
  exact List.mem_cons_self

/-- No number but zero is written with a zero in front. -/
theorem head?_writeNatural_ne {n : Nat} (h : 0 < n) : (writeNatural n).head? ≠ some '0' := by
  induction n using Nat.strongRecOn with
  | _ n ih =>
      by_cases hsmall : n < 10
      · rw [writeNatural, Nat.toDigits_of_lt_base hsmall, List.head?_cons]
        intro heq
        have hzero := Nat.digitChar_eq_zero.mp (Option.some.inj heq)
        omega
      · have hsplit : writeNatural n = writeNatural (n / 10) ++ [Nat.digitChar (n % 10)] :=
          Nat.toDigits_of_base_le (by decide) (by omega)
        have hhead := ih (n / 10) (by omega) (by omega)
        obtain ⟨digit, rest, heq, -⟩ := exists_writeNatural_eq_cons (n / 10)
        rw [heq] at hhead
        rw [hsplit, heq]
        exact hhead

theorem splitDigits_writeNatural (n : Nat) :
    splitDigits (writeNatural n) = (writeNatural n, []) := by
  have hdigits : ∀ c ∈ writeNatural n, c.isDigit = true := fun _ => isDigit_of_mem_writeNatural
  rw [splitDigits, ← List.append_nil (writeNatural n), List.takeWhile_append_of_pos hdigits,
    List.dropWhile_append_of_pos hdigits, List.takeWhile_nil, List.dropWhile_nil]

theorem writeNatural_wellFormed (n : Nat) :
    ((writeNatural n).isEmpty ||
      ((writeNatural n).head? == some '0' && (writeNatural n).length != 1)) = false := by
  have hne : (writeNatural n).isEmpty = false :=
    List.isEmpty_eq_false_iff.mpr Nat.toDigits_ne_nil
  rcases Nat.eq_zero_or_pos n with rfl | hpos
  · rfl
  · have hhead : ((writeNatural n).head? == some '0') = false :=
      beq_eq_false_iff_ne.mpr (head?_writeNatural_ne hpos)
    rw [hne, hhead]
    rfl

theorem ofDigitChars_writeNatural (n : Nat) : Nat.ofDigitChars 10 (writeNatural n) 0 = n :=
  Nat.ofDigitChars_ten_toDigits

theorem magnitude?_writeNatural {n : Nat} (h : n < UInt64.size) :
    magnitude? false (writeNatural n) = some (.integer n) := by
  simp only [magnitude?, splitDigits_writeNatural, writeNatural_wellFormed,
    ofDigitChars_writeNatural, Bool.false_eq_true, ↓reduceIte, h]

theorem magnitude?_writeNatural_negative {n : Nat} (hpos : 0 < n) (h : n ≤ Int64.size / 2) :
    magnitude? true (writeNatural n) = some (.integer (-n)) := by
  simp only [magnitude?, splitDigits_writeNatural, writeNatural_wellFormed,
    ofDigitChars_writeNatural, Bool.false_eq_true, ↓reduceIte, hpos, h, and_self]

/-- The whole numbers that have 64 bits, with a sign or without. -/
def FitsInteger (value : Int) : Prop := -(Int64.size / 2 : Nat) ≤ value ∧ value < UInt64.size

theorem number?_writeInteger {value : Int} (h : FitsInteger value) :
    number? (writeInteger value) = some (.integer value) := by
  obtain ⟨hlow, hhigh⟩ := h
  cases value with
  | ofNat n =>
      obtain ⟨digit, rest, heq, hdigit⟩ := exists_writeNatural_eq_cons n
      have hplain : number? (writeNatural n) = magnitude? false (writeNatural n) := by
        rw [heq, number?]
        rintro word hword
        obtain ⟨rfl, -⟩ := List.cons.inj hword
        exact absurd hdigit (by decide)
      rw [writeInteger, hplain]
      exact magnitude?_writeNatural (Int.ofNat_lt.mp hhigh)
  | negSucc n =>
      rw [writeInteger, number?]
      apply magnitude?_writeNatural_negative (Nat.succ_pos n)
      omega

theorem isWordPart_of_mem_writeInteger {value : Int} {c : Char} (h : c ∈ writeInteger value) :
    isWordPart c = true := by
  cases value with
  | ofNat n => exact isWordPart_of_isDigit (isDigit_of_mem_writeNatural h)
  | negSucc n =>
      rcases List.mem_cons.mp h with rfl | h
      · rfl
      · exact isWordPart_of_isDigit (isDigit_of_mem_writeNatural h)

theorem writeInteger_ne_cons {value : Int} {c : Char} (hdigit : c.isDigit = false)
    (hsign : c ≠ '-') (rest : List Char) : writeInteger value ≠ c :: rest := by
  intro heq
  cases value with
  | ofNat n =>
      have hmem : c ∈ writeNatural n := by
        rw [show writeNatural n = c :: rest from heq]
        exact List.mem_cons_self
      rw [isDigit_of_mem_writeNatural hmem] at hdigit
      cases hdigit
  | negSucc n => exact hsign (List.cons.inj heq).1.symm

theorem writeInteger_ne_nil (value : Int) : writeInteger value ≠ [] := by
  cases value with
  | ofNat n => exact Nat.toDigits_ne_nil
  | negSucc n => exact List.cons_ne_nil _ _

theorem atom?_writeInteger {value : Int} (h : FitsInteger value) :
    atom? (writeInteger value) = some (.number (.integer value)) := by
  have hnull : writeInteger value ≠ "null".toList := writeInteger_ne_cons (by decide) (by decide) _
  have htrue : writeInteger value ≠ "true".toList := writeInteger_ne_cons (by decide) (by decide) _
  have hfalse : writeInteger value ≠ "false".toList :=
    writeInteger_ne_cons (by decide) (by decide) _
  rw [atom?, if_neg hnull, if_neg htrue, if_neg hfalse, number?_writeInteger h]
  rfl

/-! ## Values -/

/-- Values that are read as they were written: their numbers are whole and have
64 bits, and at most `room` containers are nested in them. -/
inductive Readable : (room : Nat) → Json → Prop where
  | null {room : Nat} : Readable room .null
  | bool {room : Nat} (value : Bool) : Readable room (.bool value)
  | integer {room : Nat} {value : Int} (h : FitsInteger value) :
      Readable room (.number (.integer value))
  | string {room : Nat} (value : String) : Readable room (.string value)
  | array {room : Nat} {items : List Json} (h : ∀ item ∈ items, Readable room item) :
      Readable (room + 1) (.array items)
  | object {room : Nat} {members : List (String × Json)}
      (h : ∀ member ∈ members, Readable room member.2) : Readable (room + 1) (.object members)

theorem Readable.mono {room more : Nat} {value : Json} (h : Readable room value)
    (hle : room ≤ more) : Readable more value := by
  induction h generalizing more with
  | null => exact null
  | bool value => exact bool value
  | integer hfits => exact integer hfits
  | string value => exact string value
  | array _ ih =>
      obtain ⟨less, rfl⟩ := Nat.exists_eq_add_of_lt hle
      exact array fun item hitem => ih item hitem (by omega)
  | object _ ih =>
      obtain ⟨less, rfl⟩ := Nat.exists_eq_add_of_lt hle
      exact object fun member hmember => ih member hmember (by omega)

/-- Nothing but white space stands between the parts of containers. -/
structure Layout.IsBlank (layout : Layout) : Prop where
  lineBreak : ∀ depth, ∀ c ∈ layout.lineBreak depth, isGap c = true
  afterColon : ∀ c ∈ layout.afterColon, isGap c = true

/-- A value may begin here, with the open containers `within` around it. -/
def Awaits (progress : Progress) (within : List Container) : Prop :=
  ∀ token next, beginValue within token = some next → readToken progress token = some next

theorem awaits_value (within : List Container) : Awaits (.value within) within :=
  fun _ _ h => h

theorem awaits_firstItem (within : List Container) :
    Awaits (.firstItem within) (.array [] :: within) := by
  intro token next h
  cases token with
  | endArray => cases h
  | _ => exact h

/-- The text of a value is read as the value wherever one may begin, if `room`
more containers may be opened there. -/
def ReadsBack (layout : Layout) (room : Nat) (value : Json) : Prop :=
  ∀ (depth : Nat) (within : List Container) (before : Progress),
    within.length + room ≤ nestingLimit → Awaits before within →
    ∃ reader, Reader.feed ⟨.gap, before⟩ (write layout depth value) = some reader ∧
      reader.Settles (.done value within)

/-- The end of a container, after the white space before it. -/
theorem Reader.Settles.feed_end {layout : Layout} (hlayout : layout.IsBlank) (depth : Nat)
    {reader : Reader} {progress next : Progress} {c : Char} {token : Token}
    (h : reader.Settles progress) (hchar : readGap c = some ([token], .gap))
    (htoken : readToken progress token = some next) :
    reader.feed (layout.lineBreak depth ++ [c]) = some ⟨.gap, next⟩ := by
  obtain ⟨after, hafter, hsettles⟩ := h.exists_feed_gaps (hlayout.lineBreak depth)
  rw [Reader.feed_append_of_eq hafter, hsettles.feed_mark hchar htoken, Reader.feed_nil]

/-- The further items of an array and its end. -/
theorem Reader.Settles.feed_items {layout : Layout} (hlayout : layout.IsBlank) {room : Nat}
    (depth : Nat) {within : List Container} (hroom : within.length + 1 + room ≤ nestingLimit)
    {items : List Json} (hitems : ∀ item ∈ items, ReadsBack layout room item) {reader : Reader}
    {value : Json} {seen : List Json}
    (h : reader.Settles (.done value (.array seen :: within))) :
    reader.feed (writeItems layout (depth + 1) items ++ (layout.lineBreak depth ++ [']'])) =
      some ⟨.gap, .done (.array (seen.reverse ++ value :: items)) within⟩ := by
  induction items generalizing reader value seen with
  | nil =>
      have hend := h.feed_end hlayout depth (c := ']') rfl rfl
      rw [writeItems, List.nil_append, hend, List.reverse_cons]
  | cons item items ih =>
      -- The value that has settled joins those before it, the last one first.
      let opened : List Container := .array (value :: seen) :: within
      obtain ⟨next, hnext, hsettles⟩ := hitems item List.mem_cons_self (depth + 1) opened
        (.value opened) hroom (awaits_value opened)
      have hrest := ih (fun other hother => hitems other (List.mem_cons_of_mem _ hother)) hsettles
      simp only [writeItems, List.append_assoc, List.cons_append]
      rw [h.feed_mark (c := ',') rfl rfl, Reader.feed_gaps (hlayout.lineBreak (depth + 1)),
        Reader.feed_append_of_eq hnext, hrest, List.reverse_cons, List.append_assoc]
      rfl

/-- A member, where its name may come next. -/
theorem Reader.exists_feed_member {layout : Layout} (hlayout : layout.IsBlank) {room : Nat}
    (depth : Nat) {within : List Container} (hroom : within.length + 1 + room ≤ nestingLimit)
    {value : Json} (hvalue : ReadsBack layout room value) {name : String}
    {seen : List (String × Json)} {before : Progress}
    (hname : readToken before (.text name) = some (.colon seen name within)) :
    ∃ reader : Reader, reader.Settles (.done value (.object seen name :: within)) ∧
      ∀ more, Reader.feed ⟨.gap, before⟩ (writeString name ++
        (':' :: (layout.afterColon ++ (write layout depth value ++ more)))) = reader.feed more := by
  let opened : List Container := .object seen name :: within
  obtain ⟨reader, hreader, hsettles⟩ := hvalue depth opened (.value opened) hroom
    (awaits_value opened)
  refine ⟨reader, hsettles, fun more => ?_⟩
  rw [Reader.feed_append_of_eq (Reader.feed_writeString name hname),
    Reader.Settles.gap.feed_mark (c := ':') rfl rfl, Reader.feed_gaps hlayout.afterColon,
    Reader.feed_append_of_eq hreader]

/-- The further members of an object and its end. -/
theorem Reader.Settles.feed_members {layout : Layout} (hlayout : layout.IsBlank)
    {room : Nat} (depth : Nat) {within : List Container}
    (hroom : within.length + 1 + room ≤ nestingLimit) {members : List (String × Json)}
    (hmembers : ∀ member ∈ members, ReadsBack layout room member.2) {reader : Reader}
    {value : Json} {name : String} {seen : List (String × Json)}
    (h : reader.Settles (.done value (.object seen name :: within))) :
    reader.feed (writeMembers layout (depth + 1) members ++ (layout.lineBreak depth ++ ['}'])) =
      some ⟨.gap, .done (.object (seen.reverse ++ (name, value) :: members)) within⟩ := by
  induction members generalizing reader value name seen with
  | nil =>
      have hend := h.feed_end hlayout depth (c := '}') rfl rfl
      rw [writeMembers, List.nil_append, hend, List.reverse_cons]
  | cons member members ih =>
      obtain ⟨key, item⟩ := member
      have hkey : readToken (.key ((name, value) :: seen) within) (.text key) =
          some (.colon ((name, value) :: seen) key within) := rfl
      have hitem : ReadsBack layout room item := hmembers (key, item) List.mem_cons_self
      obtain ⟨next, hsettles, hnext⟩ :=
        Reader.exists_feed_member hlayout (depth + 1) hroom hitem hkey
      have hrest := ih (fun other hother => hmembers other (List.mem_cons_of_mem _ hother)) hsettles
      simp only [writeMembers, List.append_assoc, List.cons_append]
      rw [h.feed_mark (c := ',') rfl rfl, Reader.feed_gaps (hlayout.lineBreak (depth + 1)), hnext,
        hrest, List.reverse_cons, List.append_assoc]
      rfl

theorem readsBack_atom {layout : Layout} {room : Nat} {value : Json} (word : List Char)
    (hwrite : ∀ depth, write layout depth value = word)
    (hword : ∀ c ∈ word, isWordPart c = true) (hne : word ≠ []) (hvalue : atom? word = some value) :
    ReadsBack layout room value := by
  intro depth within before _ hbefore
  rw [hwrite]
  exact Reader.exists_settles_of_atom hword hne hvalue (hbefore _ _ rfl)

theorem readsBack_array {layout : Layout} (hlayout : layout.IsBlank) {room : Nat}
    {items : List Json} (hitems : ∀ item ∈ items, ReadsBack layout room item) :
    ReadsBack layout (room + 1) (.array items) := by
  intro depth within before hroom hbefore
  have hopen : readToken before .beginArray = some (.firstItem within) := by
    apply hbefore
    rw [beginValue, if_pos (by omega)]
  refine ⟨⟨.gap, .done (.array items) within⟩, ?_, Reader.Settles.gap⟩
  cases items with
  | nil =>
      rw [write, Reader.Settles.gap.feed_mark (c := '[') rfl hopen,
        Reader.Settles.gap.feed_mark (c := ']') rfl rfl, Reader.feed_nil]
  | cons item items =>
      have hroom' : within.length + 1 + room ≤ nestingLimit := by omega
      obtain ⟨reader, hreader, hsettles⟩ := hitems item List.mem_cons_self (depth + 1)
        (.array [] :: within) (.firstItem within) hroom' (awaits_firstItem within)
      have hrest := hsettles.feed_items hlayout depth hroom'
        fun other hother => hitems other (List.mem_cons_of_mem _ hother)
      simp only [write, List.append_assoc, List.cons_append]
      rw [Reader.Settles.gap.feed_mark (c := '[') rfl hopen,
        Reader.feed_gaps (hlayout.lineBreak (depth + 1)), Reader.feed_append_of_eq hreader, hrest]
      rfl

theorem readsBack_object {layout : Layout} (hlayout : layout.IsBlank) {room : Nat}
    {members : List (String × Json)}
    (hmembers : ∀ member ∈ members, ReadsBack layout room member.2) :
    ReadsBack layout (room + 1) (.object members) := by
  intro depth within before hroom hbefore
  have hopen : readToken before .beginObject = some (.firstKey within) := by
    apply hbefore
    rw [beginValue, if_pos (by omega)]
  refine ⟨⟨.gap, .done (.object members) within⟩, ?_, Reader.Settles.gap⟩
  cases members with
  | nil =>
      rw [write, Reader.Settles.gap.feed_mark (c := '{') rfl hopen,
        Reader.Settles.gap.feed_mark (c := '}') rfl rfl, Reader.feed_nil]
  | cons member members =>
      obtain ⟨name, value⟩ := member
      have hroom' : within.length + 1 + room ≤ nestingLimit := by omega
      have hname : readToken (.firstKey within) (.text name) = some (.colon [] name within) := rfl
      have hvalue : ReadsBack layout room value := hmembers (name, value) List.mem_cons_self
      obtain ⟨reader, hsettles, hreader⟩ :=
        Reader.exists_feed_member hlayout (depth + 1) hroom' hvalue hname
      have hrest := hsettles.feed_members hlayout depth hroom'
        fun other hother => hmembers other (List.mem_cons_of_mem _ hother)
      simp only [write, List.append_assoc, List.cons_append]
      rw [Reader.Settles.gap.feed_mark (c := '{') rfl hopen,
        Reader.feed_gaps (hlayout.lineBreak (depth + 1)), hreader, hrest]
      rfl

theorem Readable.readsBack {layout : Layout} (hlayout : layout.IsBlank) {room : Nat} {value : Json}
    (h : Readable room value) : ReadsBack layout room value := by
  induction h with
  | null =>
      have hword := List.all_eq_true.mp (show "null".toList.all isWordPart = true by decide)
      exact readsBack_atom "null".toList (fun _ => rfl) hword (by decide) rfl
  | bool value =>
      cases value with
      | false =>
          have hword := List.all_eq_true.mp (show "false".toList.all isWordPart = true by decide)
          exact readsBack_atom "false".toList (fun _ => rfl) hword (by decide) rfl
      | true =>
          have hword := List.all_eq_true.mp (show "true".toList.all isWordPart = true by decide)
          exact readsBack_atom "true".toList (fun _ => rfl) hword (by decide) rfl
  | integer hfits =>
      exact readsBack_atom _ (fun _ => rfl) (fun _ => isWordPart_of_mem_writeInteger)
        (writeInteger_ne_nil _) (atom?_writeInteger hfits)
  | string value =>
      intro depth within before _ hbefore
      exact ⟨_, Reader.feed_writeString value (hbefore (.text value) _ rfl), Reader.Settles.gap⟩
  | array _ ih => exact readsBack_array hlayout ih
  | object _ ih => exact readsBack_object hlayout ih

/-! ## Whole texts -/

/-- A readable value is read from its text, whatever white space follows it. -/
theorem ofChars?_write {layout : Layout} (hlayout : layout.IsBlank) {value : Json}
    (h : Readable nestingLimit value) (depth : Nat) {gaps : List Char}
    (hgaps : ∀ c ∈ gaps, isGap c = true) :
    ofChars? (write layout depth value ++ gaps) = some value := by
  obtain ⟨reader, hreader, hsettles⟩ := h.readsBack hlayout depth [] (.value [])
    (Nat.le_of_eq (Nat.zero_add _)) (awaits_value [])
  obtain ⟨last, hlast, hdone⟩ := hsettles.exists_feed_gaps hgaps
  have hfeed : Reader.start.feed (write layout depth value ++ gaps) = some last := by
    rw [Reader.start, Reader.feed_append_of_eq hreader, hlast]
  rw [ofChars?]
  exact (congrArg (Option.bind · Reader.finish?) hfeed).trans hdone.finish?

theorem indented_isBlank : Layout.indented.IsBlank where
  lineBreak := by
    intro depth c hc
    rcases List.mem_cons.mp hc with rfl | hc
    · rfl
    · rw [List.eq_of_mem_replicate hc]
      rfl
  afterColon := List.all_eq_true.mp (by decide)

theorem ofText?_pretty {value : Json} (h : Readable nestingLimit value) :
    ofText? (value.pretty ++ "\n") = some value := by
  rw [ofText?, pretty, String.toList_append, String.toList_ofList]
  exact ofChars?_write indented_isBlank h 0 (List.all_eq_true.mp (by decide))

/-- No two readable values have the same text. -/
theorem eq_of_pretty_eq {first second : Json} (hfirst : Readable nestingLimit first)
    (hsecond : Readable nestingLimit second) (h : first.pretty = second.pretty) :
    first = second := by
  have hread := ofText?_pretty hfirst
  rw [h, ofText?_pretty hsecond] at hread
  exact (Option.some.inj hread).symm

end ViewAudit.Json
