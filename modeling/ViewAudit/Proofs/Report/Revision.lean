import Mathlib.Data.List.Nodup
import ViewAudit.Proofs.Report.Field
import ViewAudit.Report.Render

/-!
Revisions of written reports. Records may be given in any order of members, with
members that are not theirs, and with null for what is absent: whatever is changed in
this way, a report is read as before. A report that lacks a field or has in it what is
not of its form is not read.
-/

namespace ViewAudit

open Json

namespace ReportType

/-- One value is a revision of another one, as a value of a type: what is changed in it,
if anything, are the order of members, members that are no fields, and whether an absent
field is null. -/
inductive IsRevision : ReportType → Json → Json → Prop
  | refl {type : ReportType} (value : Json) : IsRevision type value value
  | symm {type : ReportType} {value other : Json} (h : IsRevision type value other) :
      IsRevision type other value
  | trans {type : ReportType} {first second third : Json} (h : IsRevision type first second)
      (hthird : IsRevision type second third) : IsRevision type first third
  | permuted {type : ReportType} {members others : List (String × Json)}
      (hrecord : type.isRecord = true) (h : members.Perm others) :
      IsRevision type (.object members) (.object others)
  | foreign {type : ReportType} {before after : List (String × Json)} {name : String} (value : Json)
      (hrecord : type.isRecord = true)
      (h : ∀ field ∈ type.fields (before ++ after), field.1 ≠ name) :
      IsRevision type (.object (before ++ (name, value) :: after)) (.object (before ++ after))
  | absent {type : ReportType} {before after : List (String × Json)} {name : String} {form : Schema}
      (hfield : (name, form) ∈ type.fields (before ++ after)) (hoptional : form.isOptional = true)
      (h : ∀ member ∈ before ++ after, member.1 ≠ name) :
      IsRevision type (.object (before ++ (name, .null) :: after)) (.object (before ++ after))
  | within {type inner : ReportType} {before after : List (String × Json)} {name : String}
      {value other : Json}
      (hfield : (name, .reference inner) ∈ type.fields (before ++ (name, value) :: after))
      (h : IsRevision inner value other) :
      IsRevision type (.object (before ++ (name, value) :: after))
        (.object (before ++ (name, other) :: after))
  | withinItem {type inner : ReportType} {before after : List (String × Json)} {name : String}
      {front rest : List Json} {item other : Json}
      (hfield : (name, .list (.reference inner)) ∈
        type.fields (before ++ (name, .array (front ++ item :: rest)) :: after))
      (h : IsRevision inner item other) :
      IsRevision type (.object (before ++ (name, .array (front ++ item :: rest)) :: after))
        (.object (before ++ (name, .array (front ++ other :: rest)) :: after))

/-- A value has a fault, as a value of a type: a field is missing that is not optional, a
field has a value that is not of its form, a name is none of those that there are, or a
record within the value has a fault. -/
inductive HasFault : ReportType → Json → Prop
  | unknown {type : ReportType} {names : List String} {value : Json}
      (htype : type.form.plain = .choice names)
      (h : ∀ name ∈ names, value ≠ .string name ∧ value ≠ .object [(name, .null)]) :
      HasFault type value
  | missing {type : ReportType} {members : List (String × Json)} {name : String} {form : Schema}
      (hfield : (name, form) ∈ type.fields members) (hrequired : form.isOptional = false)
      (h : ∀ member ∈ members, member.1 ≠ name) : HasFault type (.object members)
  | misfit {type : ReportType} {members : List (String × Json)} {name : String} {form : Schema}
      {value : Json} (hfield : (name, form) ∈ type.fields members)
      (hvalue : (name, value) ∈ members) (h : ¬ form.Holds (fun _ _ => True) value) :
      HasFault type (.object members)
  | within {type inner : ReportType} {members : List (String × Json)} {name : String} {value : Json}
      (hfield : (name, .reference inner) ∈ type.fields members) (hvalue : (name, value) ∈ members)
      (h : HasFault inner value) : HasFault type (.object members)
  | withinItem {type inner : ReportType} {members : List (String × Json)} {name : String}
      {items : List Json} {item : Json}
      (hfield : (name, .list (.reference inner)) ∈ type.fields members)
      (hvalue : (name, .array items) ∈ members) (hitem : item ∈ items) (h : HasFault inner item) :
      HasFault type (.object members)

/-! ## Fields -/

theorem nodup_fields (type : ReportType) (members : List (String × Json)) :
    ((type.fields members).map Prod.fst).Nodup := by
  cases type with
  | adviceEntry =>
      rw [fields]
      split
      · decide
      · split <;> decide
  | _ => simp [fields, form, fullRecord, Schema.members]

theorem form_eq_of_mem_fields {type : ReportType} {members : List (String × Json)} {name : String}
    {form other : Schema} (h : (name, form) ∈ type.fields members)
    (hother : (name, other) ∈ type.fields members) : form = other :=
  (Prod.mk.inj (List.inj_on_of_nodup_map (nodup_fields type members) h hother rfl)).2

theorem isRecord_of_mem_fields {type : ReportType} {members : List (String × Json)}
    {field : String × Schema} (h : field ∈ type.fields members) : type.isRecord = true := by
  cases type with
  | severity => cases h
  | verdictStatus => cases h
  | _ => rfl

end ReportType

/-! ## What is read of a revision -/

section

variable {members others before after : List (String × Json)} {name : String} {form : Schema}
  {field : String × Schema} {value other : Json}

/-- Objects are read alike under a name if readers of members find the same in both. -/
theorem readsAlike_of_reads
    (hrequired : ∀ {α : Type} (read : Json → Option α),
      required? read field.1 members = required? read field.1 others)
    (hoptional : ∀ {α : Type} (read : Json → Option α),
      optional? read field.1 members = optional? read field.1 others) :
    ReadsAlike members others field := by
  unfold ReadsAlike
  split
  · exact hrequired _
  · exact hrequired _
  · exact hoptional
  · exact hoptional
  · exact hrequired

theorem readsAlike_of_filter_eq
    (h : members.filter (·.1 == field.1) = others.filter (·.1 == field.1)) :
    ReadsAlike members others field := by
  apply readsAlike_of_reads <;> intro α read
  · rw [required?, required?, h]
  · rw [optional?, optional?, h]

theorem required?_eq_none_of_length {α : Type} {read : Json → Option α}
    (h : 2 ≤ (members.filter (·.1 == name)).length) : required? read name members = none := by
  rw [required?]
  split
  case h_1 hfilter => simp [hfilter] at h
  case h_2 => rfl

/-- The order of members does not matter: there is at most one of a name, or nothing is
read under it. -/
theorem readsAlike_of_perm (h : members.Perm others) : ReadsAlike members others field := by
  have hperm : (members.filter (·.1 == field.1)).Perm (others.filter (·.1 == field.1)) := h.filter _
  by_cases hmany : 2 ≤ (members.filter (·.1 == field.1)).length
  · have hmany' : 2 ≤ (others.filter (·.1 == field.1)).length := hperm.length_eq ▸ hmany
    apply readsAlike_of_reads <;> intro α read
    · rw [required?_eq_none_of_length hmany, required?_eq_none_of_length hmany']
    · rw [optional?_eq_none_of_length hmany, optional?_eq_none_of_length hmany']
  · apply readsAlike_of_filter_eq
    generalize members.filter (·.1 == field.1) = found at hperm hmany ⊢
    match found with
    | [] => exact hperm.nil_eq
    | [only] => exact List.singleton_perm.mp hperm
    | first :: second :: rest => simp at hmany

theorem readsAlike_drop_of_ne (h : field.1 ≠ name) :
    ReadsAlike (before ++ after) (before ++ (name, value) :: after) field :=
  readsAlike_of_filter_eq (filter_drop_of_ne h.symm).symm

theorem readsAlike_replace_of_ne (h : field.1 ≠ name) :
    ReadsAlike (before ++ (name, value) :: after) (before ++ (name, other) :: after) field :=
  readsAlike_of_filter_eq (filter_replace_of_ne h.symm)

theorem readsAlike_drop_null (hoptional : form.isOptional = true)
    (h : ∀ member ∈ before ++ after, member.1 ≠ name) :
    ReadsAlike (before ++ after) (before ++ (name, .null) :: after) (name, form) := by
  cases form with
  | optionalText => exact fun read => (optional?_drop_null h).symm
  | optionalNatural bits => exact fun read => (optional?_drop_null h).symm
  | _ => cases hoptional

theorem list?_replace {α : Type} {read : Json → Option α} {front rest : List Json}
    {item other : Json} (h : read item = read other) :
    list? read (.array (front ++ item :: rest)) = list? read (.array (front ++ other :: rest)) := by
  simp only [list?, List.mapM_append, List.mapM_cons, h]

end

namespace ReportType

/-- A record is read as before if a single field of it has changed, and that one in a way
that does not show when it is read. -/
theorem read?_eq_of_field {type : ReportType} {members others : List (String × Json)}
    {name : String} {form : Schema} (hfield : (name, form) ∈ type.fields members)
    (hsame : ReadsAlike members others (name, form))
    (hrest : ∀ field : String × Schema, field.1 ≠ name → ReadsAlike members others field) :
    type.read? (.object members) = type.read? (.object others) := by
  refine read?_congr (isRecord_of_mem_fields hfield) fun field hother => ?_
  by_cases hname : field.1 = name
  · obtain ⟨_, other⟩ := field
    subst hname
    rwa [form_eq_of_mem_fields hother hfield]
  · exact hrest field hname

/-- A revision is read as what the revised value is read as. -/
theorem IsRevision.read?_eq {type : ReportType} {value other : Json}
    (h : type.IsRevision value other) : type.read? value = type.read? other := by
  induction h with
  | refl value => rfl
  | symm h ih => exact ih.symm
  | trans h hthird ih ih' => exact ih.trans ih'
  | permuted hrecord h => exact read?_congr hrecord fun field _ => readsAlike_of_perm h
  | foreign value hrecord h =>
      refine (read?_congr hrecord fun field hfield => ?_).symm
      exact readsAlike_drop_of_ne (h field hfield)
  | absent hfield hoptional h =>
      refine (read?_eq_of_field hfield ?_ fun _ => readsAlike_drop_of_ne).symm
      exact readsAlike_drop_null hoptional h
  | within hfield h ih =>
      refine read?_eq_of_field hfield ?_ fun _ => readsAlike_replace_of_ne
      exact required?_replace fun _ => ih
  | withinItem hfield h ih =>
      refine read?_eq_of_field hfield ?_ fun _ => readsAlike_replace_of_ne
      exact required?_replace fun _ => list?_replace ih

/-! ## What has a fault -/

theorem named?_eq_none {α : Type} {label : α → String} {parts : List α} {value : Json}
    (h : ∀ name ∈ parts.map label, value ≠ .string name ∧ value ≠ .object [(name, .null)]) :
    named? label parts value = none := by
  rw [Option.eq_none_iff_forall_ne_some]
  intro part hpart
  have hfind (text : String) (hfound : parts.find? (label · == text) = some part) :
      text ∈ parts.map label := by
    have hlabel := List.find?_some hfound
    rw [beq_iff_eq] at hlabel
    exact List.mem_map.mpr ⟨part, List.mem_of_find?_eq_some hfound, hlabel⟩
  unfold named? at hpart
  split at hpart
  case h_1 text => exact (h text (hfind text hpart)).1 rfl
  case h_2 text => exact (h text (hfind text hpart)).2 rfl
  case h_3 => cases hpart

theorem read?_eq_none_of_unknown {type : ReportType} {names : List String} {value : Json}
    (htype : type.form.plain = .choice names)
    (h : ∀ name ∈ names, value ≠ .string name ∧ value ≠ .object [(name, .null)]) :
    type.read? value = none := by
  cases type with
  | severity =>
      cases htype
      exact named?_eq_none h
  | verdictStatus =>
      cases htype
      exact named?_eq_none h
  | _ => cases htype

theorem read?_eq_none_of_not_hasField {type : ReportType} {members : List (String × Json)}
    {field : String × Schema} (hfield : field ∈ type.fields members)
    (h : ¬ HasField members field) : type.read? (.object members) = none := by
  rw [Option.eq_none_iff_forall_ne_some]
  intro part hpart
  exact h (hasField_of_read? (isRecord_of_mem_fields hfield) hpart field hfield)

/-- What has a fault is not read. -/
theorem HasFault.read?_eq_none {type : ReportType} {value : Json} (h : type.HasFault value) :
    type.read? value = none := by
  induction h with
  | unknown htype h => exact read?_eq_none_of_unknown htype h
  | missing hfield hrequired h =>
      apply read?_eq_none_of_not_hasField hfield
      rintro ⟨hpresent, -⟩
      rw [hrequired] at hpresent
      obtain ⟨value, hvalue⟩ := hpresent.resolve_left Bool.false_ne_true
      exact h _ hvalue rfl
  | misfit hfield hvalue h =>
      apply read?_eq_none_of_not_hasField hfield
      rintro ⟨-, hholds⟩
      exact h ((hholds _ hvalue).mono fun _ _ _ => trivial)
  | within hfield hvalue h ih =>
      apply read?_eq_none_of_not_hasField hfield
      rintro ⟨-, hholds⟩
      obtain ⟨found, hfound⟩ := Option.isSome_iff_exists.mp (hholds _ hvalue)
      rw [ih] at hfound
      cases hfound
  | withinItem hfield hvalue hitem h ih =>
      apply read?_eq_none_of_not_hasField hfield
      rintro ⟨-, hholds⟩
      obtain ⟨items, hitems, hall⟩ := hholds _ hvalue
      cases hitems
      obtain ⟨found, hfound⟩ := Option.isSome_iff_exists.mp (hall _ hitem)
      rw [ih] at hfound
      cases hfound

end ReportType

/-- Reports and runs are read as before after any revision, and so look the same when
they are written again; with a fault in any of their records they are not read. -/
theorem revisions_are_read_alike :
    (∀ value other, ReportType.scanReport.IsRevision value other →
      ScanReport.ofJson? value = ScanReport.ofJson? other ∧
        ∀ format, (ScanReport.ofJson? value).map (·.render format) =
          (ScanReport.ofJson? other).map (·.render format)) ∧
    (∀ value other, ReportType.adviceReport.IsRevision value other →
      AdviceReport.ofJson? value = AdviceReport.ofJson? other ∧
        ∀ format, (AdviceReport.ofJson? value).map (·.render format) =
          (AdviceReport.ofJson? other).map (·.render format)) ∧
    (∀ value other, ReportType.runMeta.IsRevision value other →
      RunMeta.ofJson? value = RunMeta.ofJson? other ∧
        (RunMeta.ofJson? value).map RunMeta.toJson = (RunMeta.ofJson? other).map RunMeta.toJson) ∧
    (∀ value, ReportType.scanReport.HasFault value → ScanReport.ofJson? value = none) ∧
    (∀ value, ReportType.adviceReport.HasFault value → AdviceReport.ofJson? value = none) ∧
    ∀ value, ReportType.runMeta.HasFault value → RunMeta.ofJson? value = none := by
  refine ⟨?_, ?_, ?_, fun _ h => h.read?_eq_none, fun _ h => h.read?_eq_none,
    fun _ h => h.read?_eq_none⟩
  · intro value other h
    have hread : ScanReport.ofJson? value = ScanReport.ofJson? other := h.read?_eq
    exact ⟨hread, fun format => by rw [hread]⟩
  · intro value other h
    have hread : AdviceReport.ofJson? value = AdviceReport.ofJson? other := h.read?_eq
    exact ⟨hread, fun format => by rw [hread]⟩
  · intro value other h
    have hread : RunMeta.ofJson? value = RunMeta.ofJson? other := h.read?_eq
    exact ⟨hread, by rw [hread]⟩

/-- An entry may have the members of another kind, which only count once it is of that
kind. -/
theorem members_of_other_kinds_are_foreign :
    let report (run entry : Json) : Json :=
      .object [("schema", .string ""),
        ("tool", .object [("version", .string ""), ("name", .string "")]), ("run", run),
        ("topics", .array []), ("general", .bool true),
        ("recommendations", .array [.object [("kind", .string "general_notice")], entry]),
        ("recommendations_total", .number (.integer 4294967295)), ("truncated", .bool false),
        ("loaded_guides", .array [])]
    let entry (kind : String) (rest : List (String × Json)) : Json :=
      .object (("kind", .string kind) :: ("guide", .string "") :: rest)
    let run : Json := .object [("started_at", .string "2016-12-31t23:59:60z")]
    let revised : Json :=
      .object [("ended_at", .null), ("started_at", .string "2016-12-31t23:59:60z")]
    let first := report run (entry "guide_header" [])
    let second := report revised (.object [("guide", .string ""), ("kind", .string "guide_header"),
      ("text", .array [])])
    let third := report run (entry "point" [("text", .array [])])
    AdviceReport.ofJson? first = AdviceReport.ofJson? second ∧
      (AdviceReport.ofJson? first).isSome = true ∧ AdviceReport.ofJson? third = none := by
  intro report entry run revised first second third
  obtain ⟨-, hrevision, -, -, hfault, -⟩ := revisions_are_read_alike
  have hrun : ReportType.runMeta.IsRevision run revised := by
    refine .symm (@ReportType.IsRevision.absent _ [] _ "ended_at" .optionalText ?_ rfl ?_)
    · exact .tail _ (.head _)
    · simp
  have hentry : ReportType.adviceEntry.IsRevision (entry "guide_header" [])
      (.object [("guide", .string ""), ("kind", .string "guide_header"), ("text", .array [])]) := by
    have horder := @ReportType.IsRevision.permuted .adviceEntry
      [("kind", .string "guide_header"), ("guide", .string "")]
      [("guide", .string ""), ("kind", .string "guide_header")] rfl (.swap _ _ _)
    refine horder.trans (.symm (@ReportType.IsRevision.foreign _
      [("guide", .string ""), ("kind", .string "guide_header")] [] "text" (.array []) rfl ?_))
    simp [ReportType.fields, required?, text?]
  let between := report revised (entry "guide_header" [])
  have hfirst : ReportType.adviceReport.IsRevision first between :=
    @ReportType.IsRevision.within _ .runMeta [_, _] _ "run" _ _ (.tail _ (.tail _ (.head _))) hrun
  have hsecond : ReportType.adviceReport.IsRevision between second :=
    @ReportType.IsRevision.withinItem _ .adviceEntry [_, _, _, _, _] _ "recommendations" [_] [] _ _
      (.tail _ (.tail _ (.tail _ (.tail _ (.tail _ (.head _)))))) hentry
  refine ⟨(hrevision first second (hfirst.trans hsecond)).1, rfl, hfault third ?_⟩
  refine @ReportType.HasFault.withinItem _ .adviceEntry _ "recommendations" _
    (entry "point" [("text", .array [])])
    (.tail _ (.tail _ (.tail _ (.tail _ (.tail _ (.head _))))))
    (.tail _ (.tail _ (.tail _ (.tail _ (.tail _ (.head _)))))) (.tail _ (.head _)) ?_
  have hmisfit : ¬ Schema.text.Holds (fun _ _ => True) (.array []) := by
    rintro ⟨text, htext⟩
    cases htext
  refine .misfit ?_ (.tail _ (.tail _ (.head _))) hmisfit
  simp [ReportType.fields, required?, text?]

end ViewAudit
