import ViewAudit.Log.Event
import ViewAudit.Log.ValuePattern
import ViewAudit.Text.Blank
import ViewAudit.Text.Utf8

/-!
Filters say which events are logged. A filter is a list of directives, each of
which sets the greatest level for the events that it is about; for an event the
most specific directive about it counts. What a directive is about is the start
of a target, a span of the program and a field: `target[span{field}]=level`,
where each of the parts may be left out. Events of this program are in no span
and have one field.
-/

namespace ViewAudit

/-- The levels up to one are let through, or none at all. -/
abbrev LevelLimit := Option LogLevel

/-- What a directive asks of a field. -/
structure FieldCondition where
  name : String
  /-- The pattern for what the field holds; without one it need only be there. -/
  value : Option String
  deriving DecidableEq, Repr

structure LogDirective where
  /-- The start of the targets that the directive is about; empty for all. -/
  target : String
  /-- The span that the directive is about, if it is about one. -/
  span : Option String
  field : Option FieldCondition
  limit : LevelLimit
  deriving DecidableEq, Repr

/-- The directive for all events of some targets. -/
def LogDirective.ofTarget (target : String) (limit : LevelLimit) : LogDirective :=
  ⟨target, none, none, limit⟩

abbrev LogFilter := List LogDirective

namespace LogFilter

/-! ## Use -/

/-- Whether an event meets a condition. What a field holds is known in spans
only, so no event meets a condition on that. -/
def meets (condition : FieldCondition) : Bool :=
  condition.name == LogEvent.messageField && condition.value.isNone

/-- Whether a directive is about an event. -/
def covers (event : LogEvent) (directive : LogDirective) : Bool :=
  directive.target.toList.isPrefixOf event.target.toList &&
    directive.span.isNone && directive.field.all meets

/-- Whether a directive is less specific than another: its target is shorter, or
only the other asks for a field. -/
def lessSpecific (first second : LogDirective) : Bool :=
  let length (directive : LogDirective) : Nat := directive.target.toList.length
  decide (length first < length second) ||
    (length first == length second && first.field.isNone && second.field.isSome)

/-- The more specific one of two directives; of two equal ones the later. -/
def moreSpecific (first : Option LogDirective) (second : LogDirective) : LogDirective :=
  match first with
  | none => second
  | some first => if lessSpecific second first then first else second

/-- The directive that counts for an event. -/
def directiveFor? (filter : LogFilter) (event : LogEvent) : Option LogDirective :=
  (filter.filter (covers event)).foldl (fun found directive => some (moreSpecific found directive))
    none

def allows (filter : LogFilter) (event : LogEvent) : Bool :=
  match (filter.directiveFor? event).bind LogDirective.limit with
  | some limit => decide (event.level.rank ≤ limit.rank)
  | none => false

/-! ## Reading -/

/-- The number that a text of digits stands for; a plus sign may come first. -/
def levelNumber? (text : List Char) : Option Nat :=
  let digits :=
    match text with
    | '+' :: digits => digits
    | digits => digits
  if digits.isEmpty || !digits.all Char.isDigit then none
  else some (Nat.ofDigitChars 10 digits 0)

/-- The limit that a text stands for: the name of a level in any case, `off`,
or a number from zero for none to five for all. -/
def limit? (text : List Char) : Option LevelLimit :=
  match levelNumber? text with
  | some 0 => some none
  | some n => (LogLevel.all.find? (·.rank == n)).map some
  | none =>
      let name := text.map Char.toUpper
      if name = "OFF".toList then some none
      else (LogLevel.all.find? (·.name.toList == name)).map some

/-- Everything is let through where no level is set. -/
def defaultLimit : LevelLimit := some .trace

/-- The condition that a text stands for: the name of a field, and a pattern
after an equals sign. A second equals sign ends the pattern. -/
def condition? (text : List Char) : Option FieldCondition :=
  let name := String.ofList (text.takeWhile (· != '='))
  if text.isEmpty then none
  else
    match text.dropWhile (· != '=') with
    | [] => some ⟨name, none⟩
    | _ :: rest =>
        let value := rest.takeWhile (· != '=')
        if ValuePattern.isWellFormed value then some ⟨name, some (String.ofList value)⟩ else none

/-- The characters that a range of the bytes of a text stand for. -/
def slice? (text : List Char) (start length : Nat) : Option (List Char) :=
  Utf8.decode? (((Utf8.encode text).drop start).take length)

/-- A directive, of which `text` still has the blanks around it and `shown` has
not. Its parts are found in the one and cut out of the other at the same bytes. -/
structure DirectiveText where
  text : List Char
  shown : List Char

/-- Where something begins that comes right before `rest` in the directive. -/
def DirectiveText.start (source : DirectiveText) (rest : List Char) : Nat :=
  (Utf8.encode source.shown).length - (Utf8.encode rest).length

/-- Cuts out a part that comes before `rest`. -/
def DirectiveText.part? (source : DirectiveText) (part rest : List Char) : Option (List Char) :=
  slice? source.text (source.start (part ++ rest)) (Utf8.encode part).length

/-- Cuts out all from where `rest` begins. -/
def DirectiveText.from? (source : DirectiveText) (rest : List Char) : Option (List Char) :=
  Utf8.decode? ((Utf8.encode source.text).drop (source.start rest))

/-- The span and the field that a directive asks for, and what comes after the
bracket that closes them. -/
def bracketed? (source : DirectiveText) (inner : List Char) :
    Option (Option String × Option FieldCondition × List Char) :=
  let isSpanPart (c : Char) : Bool := c != ']' && c != '\x7b'
  let span := inner.takeWhile isSpanPart
  let afterSpan := inner.dropWhile isSpanPart
  match afterSpan with
  | ']' :: after => do some (some (String.ofList (← source.part? span afterSpan)), none, after)
  | _ :: rest =>
      let field := rest.takeWhile (· != '\x7d')
      match rest.dropWhile (· != '\x7d') with
      | '\x7d' :: ']' :: after => do
          let span ← source.part? span afterSpan
          let field ← source.part? field ('\x7d' :: ']' :: after)
          some (if span.isEmpty then none else some (String.ofList span),
            some (← condition? field), after)
      | _ => none
  | [] => none

/-- The limit that comes after a target or a bracket. -/
def assignedLimit? (source : DirectiveText) : List Char → Option LevelLimit
  | [] => some defaultLimit
  | '=' :: level => do
      let level ← source.from? level
      if level.isEmpty then some defaultLimit else limit? level
  | _ => none

/-- The characters that a directive may begin with, after blanks. -/
def startsDirective (c : Char) : Bool := isLetterOrNumber c || c ∈ ['-', ':', '_', '[']

/-- The directive that a text stands for. Without brackets and equals sign the
whole text is a level for all targets or else a target. -/
def directive? (text : List Char) : Option LogDirective := do
  let source : DirectiveText := ⟨text, trim text⟩
  let first ← source.shown.head?
  let isTargetPart (c : Char) : Bool := c != '=' && c != '['
  let target := source.shown.takeWhile isTargetPart
  let rest := source.shown.dropWhile isTargetPart
  if !startsDirective first then none
  else if rest.isEmpty then
    match limit? text with
    | some limit => some (.ofTarget "" limit)
    | none => some (.ofTarget (String.ofList text) defaultLimit)
  else
    let target := String.ofList (← source.part? target rest)
    match rest with
    | '[' :: inner =>
        let (span, field, after) ← bracketed? source inner
        some ⟨target, span, field, ← assignedLimit? source after⟩
    | _ => some (.ofTarget target (← assignedLimit? source rest))

/-- The parts of a text between its commas. -/
def splitCommas : List Char → List (List Char)
  | [] => [[]]
  | c :: rest =>
      if c = ',' then [] :: splitCommas rest
      else
        match splitCommas rest with
        | [] => [[c]]
        | part :: parts => (c :: part) :: parts

/-- The filter that a text stands for. Without any directive it lets errors
through. -/
def ofText? (text : String) : Option LogFilter :=
  match (splitCommas text.toList).filter (!·.isEmpty) with
  | [] => some [.ofTarget "" (some .error)]
  | parts => parts.mapM directive?

/-- The filter of a run that was not given one. -/
def standard (verbose : Bool) : LogFilter :=
  .ofTarget "" (some .warn) ::
    LogTarget.families.map fun family =>
      .ofTarget family (some (if verbose then .debug else .warn))

/-- The filter of a run: the one that was set, if it is well-formed. -/
def ofSetting (setting : Option String) (verbose : Bool) : LogFilter :=
  (setting.bind ofText?).getD (standard verbose)

end LogFilter

end ViewAudit
