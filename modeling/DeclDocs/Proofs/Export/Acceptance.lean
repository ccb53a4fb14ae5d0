import DeclDocs.Proofs.Export.Answers
import DeclDocs.Proofs.Markup.Grammar

/-! # Which declarations have a record

A dump may say anything of its declarations.  What it must say of one for a record to come
of it (`Entry.IsExportable`) is what the host of the dump is asked about it, and no more:
markup that is not asked for may be malformed (`Dump.record_iff_isExportable`).
-/
namespace DeclDocs

/-- A list is mapped if and only if each of its items is. -/
theorem exists_mapM_iff {ε α β : Type} (f : α → Except ε β) (items : List α) :
    (∃ results, items.mapM f = .ok results) ↔ ∀ item ∈ items, ∃ result, f item = .ok result := by
  induction items with
  | nil => simp [pure, Except.pure]
  | cons item rest ih =>
    rw [List.forall_mem_cons, ← ih]
    simp only [List.mapM_cons, bind_eq_ok_iff, pure, Except.pure]
    constructor
    · rintro ⟨_, result, hitem, results, hrest, -⟩
      exact ⟨⟨result, hitem⟩, results, hrest⟩
    · rintro ⟨⟨result, hitem⟩, results, hrest⟩
      exact ⟨_, result, hitem, results, hrest, rfl⟩

theorem exists_map_iff {ε α β : Type} (f : α → β) (x : Except ε α) :
    (∃ b, f <$> x = .ok b) ↔ ∃ a, x = .ok a := by
  cases x <;> simp [Functor.map, Except.map]

theorem nameParts_eq_splitOn (chars : List Char) : nameParts chars = chars.splitOn '.' := by
  induction chars with
  | nil => rfl
  | cons c rest ih =>
    rw [nameParts, ih, List.splitOn_cons_eq_if_modifyHead]
    cases hparts : rest.splitOn '.' with
    | nil => exact absurd hparts (List.splitOn_ne_nil _ _)
    | cons part parts => by_cases h : c = '.' <;> simp [h]

/-- A name is internal by its form if and only if one of the parts between its dots begins
with an underscore. -/
theorem hasInternalPart_iff (name : String) :
    hasInternalPart name = true ↔ ∃ part ∈ name.toList.splitOn '.', part.head? = some '_' := by
  simp [hasInternalPart, nameParts_eq_splitOn]

theorem Kind.exists_ofWord?_iff (word : String) :
    (∃ kind, ofWord? word = some kind) ↔ word ∈ ["definition", "theorem", "constant", "axiom"] := by
  constructor
  · rintro ⟨kind, h⟩
    unfold ofWord? at h
    -- one case for each known word, and one for all others
    split at h
    all_goals first | decide | cases h
  · intro h
    obtain ⟨kind, -, rfl⟩ := List.mem_map.mp (show word ∈ all.map Kind.word from h)
    exact ⟨kind, ofWord?_word kind⟩

theorem exists_kindTag_iff (word : String) :
    (∃ tag, kindTag word = .ok tag) ↔ word ∈ ["definition", "theorem", "constant", "axiom"] := by
  rw [← Kind.exists_ofWord?_iff, kindTag]
  cases Kind.ofWord? word <;> simp

theorem tag_eq_proposition_iff {word tag : String} (h : kindTag word = .ok tag) :
    tag = Kind.proposition.tag ↔ word = "theorem" := by
  have hword : word ∈ ["definition", "theorem", "constant", "axiom"] :=
    (exists_kindTag_iff word).mp ⟨tag, h⟩
  simp only [List.mem_cons, List.not_mem_nil, or_false] at hword
  rcases hword with rfl | rfl | rfl | rfl <;> (cases h; decide)

theorem exists_readNamed_iff (named : List (String × Json)) :
    (∃ read, readNamed named = .ok read) ↔ ∀ one ∈ named, Markup.IsDump one.2 := by
  rw [readNamed, exists_mapM_iff]
  simp only [← exists_readMarkup_iff]
  exact forall₂_congr fun one _ => exists_map_iff _ _

theorem BinderEntry.exists_read_iff (binder : BinderEntry) :
    (∃ read, binder.read = .ok read) ↔ Markup.IsDump binder.type := by
  rw [← exists_readMarkup_iff]
  exact exists_map_iff _ _

namespace Entry

variable (entry : Entry)

theorem exists_telescope_iff :
    (∃ telescope, entry.telescope = .ok telescope) ↔
      (∀ binder ∈ entry.binders, Markup.IsDump binder.type) ∧ Markup.IsDump entry.type := by
  simp only [← BinderEntry.exists_read_iff]
  rw [← exists_mapM_iff, ← exists_readMarkup_iff]
  simp only [telescope, bind_eq_ok_iff]
  constructor
  · rintro ⟨_, binders, hbinders, body, hbody, -⟩
    exact ⟨⟨binders, hbinders⟩, body, hbody⟩
  · rintro ⟨⟨binders, hbinders⟩, body, hbody⟩
    exact ⟨_, binders, hbinders, body, hbody, rfl⟩

theorem exists_equations_iff :
    (∃ equations, entry.equations.mapM readMarkup = .ok equations) ↔
      ∀ equation ∈ entry.equations, Markup.IsDump equation := by
  rw [exists_mapM_iff]
  exact forall₂_congr fun equation _ => exists_readMarkup_iff equation

/-- A line is refused only if the file is known as well. -/
theorem exists_line_iff :
    (∃ line, lineOf? ((entry.position.map Position.line).getD 0) = some line) ↔
      entry.filename = none ∨ entry.line = none ∨ ∃ line, entry.line = some line ∧ 0 ≤ line := by
  rw [position]
  -- the line counts as zero as long as the position is not complete
  rcases entry.filename with _ | filename
  · simp [lineOf?]
  · rcases entry.line with _ | line
    · simp [lineOf?]
    · cases line with
      | ofNat line => simp [lineOf?]
      | negSucc line => simp [lineOf?]

/-- A declaration that a document passes over in silence. -/
def IsHidden : Prop :=
  entry.internal = true ∨ entry.autoGenerated = true ∨
    ∃ part ∈ entry.name.toList.splitOn '.', part.head? = some '_'

/-- A declaration that has a record.  Equations, fields and constructors need to be markup
only where a record shows them. -/
structure IsExportable : Prop where
  shown : ¬ entry.IsHidden
  kind : entry.kind ∈ ["definition", "theorem", "constant", "axiom"]
  binders : ∀ binder ∈ entry.binders, Markup.IsDump binder.type
  type : Markup.IsDump entry.type
  line : entry.filename = none ∨ entry.line = none ∨ ∃ line, entry.line = some line ∧ 0 ≤ line
  equations : entry.kind ≠ "theorem" → ∀ equation ∈ entry.equations, Markup.IsDump equation
  structureFields :
    entry.isStructure = true → ∀ field ∈ entry.structureFields, Markup.IsDump field.2
  constructors : entry.isInductive = true → entry.isStructure = false →
    ∀ constructor ∈ entry.constructors, Markup.IsDump constructor.2

end Entry

namespace Host.AnswersBy

variable {Memory : Type} {host : Host Memory} {entry : Entry}
  (h : host.AnswersBy entry.name entry)

include h

theorem isHidden_iff : host.isHidden entry.name = .ok true ↔ entry.IsHidden := by
  rw [h.isHidden_eq, Entry.IsHidden, ← hasInternalPart_iff]
  simp only [Except.ok.injEq, Bool.or_eq_true]
  rw [or_right_comm, or_assoc]

theorem isHidden_eq_false_iff : host.isHidden entry.name = .ok false ↔ ¬ entry.IsHidden := by
  rw [← h.isHidden_iff, h.isHidden_eq]
  simp

theorem exists_equationLayouts_iff {tag : String} (htag : kindTag entry.kind = .ok tag) :
    (∃ equations, host.equationLayouts entry.name tag = .ok equations) ↔
      (entry.kind ≠ "theorem" → ∀ equation ∈ entry.equations, Markup.IsDump equation) := by
  rw [h.equationLayouts_eq, ← entry.exists_equations_iff, Ne, ← tag_eq_proposition_iff htag]
  split
  next heq => simp [heq]
  next hne => simpa [hne] using exists_map_iff _ _

theorem exists_fieldLayouts_iff :
    (∃ fields, host.fieldLayouts entry.name = .ok fields) ↔
      (entry.isStructure = true → ∀ field ∈ entry.structureFields, Markup.IsDump field.2) := by
  rw [h.fieldLayouts_eq, ← exists_readNamed_iff]
  cases entry.isStructure with
  | false => simp
  | true => simpa using exists_map_iff _ _

theorem exists_constructorLayouts_iff :
    (∃ constructors, host.constructorLayouts entry.name = .ok constructors) ↔
      (entry.isInductive = true → entry.isStructure = false →
        ∀ constructor ∈ entry.constructors, Markup.IsDump constructor.2) := by
  rw [h.constructorLayouts_eq, ← exists_readNamed_iff]
  cases entry.isInductive with
  | false => simp
  | true =>
    cases entry.isStructure with
    | true => simp
    | false => simpa using exists_map_iff _ _

theorem isExportable_of_record {record : Declaration Empty}
    (hrecord : (host.record? entry.name).1 = some record) : entry.IsExportable := by
  obtain ⟨hshown, tag, telescope, position, houtline, hcompletes⟩ :=
    record?_eq_some_iff.mp hrecord
  obtain ⟨⟨word, hword, htag⟩, htelescope, hposition⟩ := outline_eq_ok_iff.mp houtline
  rw [h.kind, Except.ok.injEq] at hword
  rw [h.position, Except.ok.injEq] at hposition
  rw [h.typeOf] at htelescope
  subst hword hposition
  obtain ⟨hbinders, htype⟩ := entry.exists_telescope_iff.mp ⟨telescope, htelescope⟩
  exact
    { shown := h.isHidden_eq_false_iff.mp hshown
      kind := (exists_kindTag_iff _).mp ⟨tag, htag⟩
      binders := hbinders
      type := htype
      line := entry.exists_line_iff.mp ⟨_, hcompletes.line_eq⟩
      equations := (h.exists_equationLayouts_iff htag).mp ⟨_, hcompletes.equations_eq⟩
      structureFields := h.exists_fieldLayouts_iff.mp ⟨_, hcompletes.structureFields_eq⟩
      constructors := h.exists_constructorLayouts_iff.mp ⟨_, hcompletes.constructors_eq⟩ }

theorem exists_record_of_isExportable (hentry : entry.IsExportable) :
    ∃ record, (host.record? entry.name).1 = some record := by
  -- every query that a record needs has an answer, and the record is made of these
  obtain ⟨tag, htag⟩ := (exists_kindTag_iff _).mpr hentry.kind
  obtain ⟨telescope, htelescope⟩ :=
    entry.exists_telescope_iff.mpr ⟨hentry.binders, hentry.type⟩
  obtain ⟨line, hline⟩ := entry.exists_line_iff.mpr hentry.line
  obtain ⟨equations, hequations⟩ := (h.exists_equationLayouts_iff htag).mpr hentry.equations
  obtain ⟨fields, hfields⟩ := h.exists_fieldLayouts_iff.mpr hentry.structureFields
  obtain ⟨constructors, hconstructors⟩ := h.exists_constructorLayouts_iff.mpr hentry.constructors
  have houtline : host.outline entry.name = .ok (tag, telescope, entry.position) :=
    outline_eq_ok_iff.mpr ⟨⟨entry.kind, h.kind, htag⟩, h.typeOf.trans htelescope, h.position⟩
  let record : Declaration Empty :=
    { name := entry.name, isMeta := entry.isMeta, args := telescope.named.map argLayout
      type := telescope.resultType.normalLayout, docString := entry.docString
      filename := (entry.position.map Position.filename).getD "", line
      attributes := reportedAttributes.filter entry.attributes.contains, equations, kind := tag
      structureFields := fields, constructors }
  have hcompletes : host.Completes entry.name tag telescope entry.position record :=
    ⟨rfl, rfl, rfl, rfl, rfl, hline, h.isMeta, h.docString, h.attributes_eq, hequations, hfields,
      hconstructors⟩
  exact ⟨record, record?_eq_some_iff.mpr
    ⟨h.isHidden_eq_false_iff.mpr hentry.shown, tag, telescope, _, houtline, hcompletes⟩⟩

theorem exists_record_iff :
    (∃ record, (host.record? entry.name).1 = some record) ↔ entry.IsExportable :=
  ⟨fun ⟨_, hrecord⟩ => h.isExportable_of_record hrecord, h.exists_record_of_isExportable⟩

end Host.AnswersBy

namespace Dump

/-- **Which declarations have a record.**  The last declaration that a dump lists with a name
decides: the name has a record if and only if this declaration is exportable.  If it is not,
the name is left out, with a debugging notice and no other if the declaration is hidden, and
otherwise with exactly one warning. -/
theorem record_iff_isExportable (dump : Dump) (before after : List Entry) (entry : Entry)
    (hentry : dump.declarations = before ++ entry :: after)
    (hlast : ∀ later ∈ after, later.name ≠ entry.name) :
    let result := dump.host.record? entry.name
    ((∃ record, result.1 = some record) ↔ entry.IsExportable) ∧
      (¬ entry.IsExportable → result.1 = none ∧
        (entry.IsHidden → result.2 = [Host.hiddenNotice entry.name]) ∧
        (¬ entry.IsHidden → ∃ failure : Failure,
          warnings result.2 = [Document.skipNotice entry.name failure.message])) := by
  intro result
  have hfind : dump.find? entry.name = some entry :=
    find?_eq_some_iff.mpr ⟨before, after, hentry, rfl, hlast⟩
  have h : dump.host.AnswersBy entry.name entry := host_answersBy hfind
  refine ⟨h.exists_record_iff, fun hnot => ⟨?_, ?_, ?_⟩⟩
  · rw [← h.exists_record_iff] at hnot
    exact Option.eq_none_iff_forall_ne_some.mpr fun record hrecord => hnot ⟨record, hrecord⟩
  · intro hhidden
    exact congrArg Prod.snd (Host.record?_of_hidden (h.isHidden_iff.mpr hhidden))
  · intro hshown
    have hwarnings : warnings result.2 = dump.host.losses entry.name := Host.warnings_record?
    rw [hwarnings]
    -- what is neither hidden nor recorded has failed
    cases houtcome : dump.host.outcome entry.name with
    | error failure => exact ⟨failure, Host.losses_of_error houtcome⟩
    | ok result =>
      cases result with
      | none => exact absurd (h.isHidden_iff.mp (Host.outcome_eq_none_iff.mp houtcome)) hshown
      | some record =>
        have hrecord := Host.record?_eq_some_iff_outcome.mpr houtcome
        exact absurd (h.isExportable_of_record hrecord) hnot

/-- A theorem with malformed equations and constructors, which no record of it shows, and with
a negative line in a file that is not known. -/
def tolerated : Entry where
  name := "a.b_"
  kind := "theorem"
  binders := [{ name := "x", type := .obj [("nest", .arr [.bool true, .str "α"])] }]
  type := .obj [("highlight", .arr [.null, .str "p"])]
  line := some (-1)
  equations := [.null]
  isStructure := true
  structureFields := [("fst", .obj [("group", .str "α")])]
  isInductive := true
  constructors := [("mk", .obj [("group", .str "α"), ("group", .str "α")])]

/-- A declaration with a negative line in a file that is known. -/
def misplaced : Entry where
  name := "c"
  kind := "axiom"
  type := .str "q"
  filename := some ""
  line := some (-1)

/-- A dump of the tolerated theorem, which an internal declaration of the same name precedes,
and of the misplaced declaration. -/
def tolerance : Dump where
  declarations :=
    [{ name := "a.b_", kind := "definition", type := .null, internal := true }, tolerated,
      misplaced]

theorem record_iff_isExportable_tolerance :
    tolerated.IsExportable ∧ (∃ record, (tolerance.host.record? "a.b_").1 = some record) ∧
      ¬ misplaced.IsExportable ∧ ∃ failure : Failure,
        warnings (tolerance.host.record? "c").2 = [Document.skipNotice "c" failure.message] := by
  have hshown : ¬ tolerated.IsHidden := by
    rw [Entry.IsHidden, ← hasInternalPart_iff]
    decide
  have htolerated : tolerated.IsExportable :=
    { shown := hshown
      kind := by decide
      binders := by simpa [tolerated] using .nest (.inr ⟨true, rfl⟩) (.raw "α")
      type := .highlight .null (.raw "p")
      line := .inl rfl
      equations := fun hkind => absurd rfl hkind
      structureFields := by simpa [tolerated] using .group (.raw "α")
      constructors := fun _ hstructure => absurd hstructure (by decide) }
  have hmisplaced : ¬ misplaced.IsExportable := by
    intro h
    simpa [misplaced] using h.line
  have hhidden : ¬ misplaced.IsHidden := by
    rw [Entry.IsHidden, ← hasInternalPart_iff]
    decide
  obtain ⟨hrecord, -⟩ := record_iff_isExportable tolerance (tolerance.declarations.take 1)
    [misplaced] tolerated rfl (by decide)
  obtain ⟨-, hnone⟩ := record_iff_isExportable tolerance (tolerance.declarations.take 2)
    [] misplaced rfl (by decide)
  obtain ⟨-, -, hwarning⟩ := hnone hmisplaced
  exact ⟨htolerated, hrecord.mpr htolerated, hmisplaced, hwarning hhidden⟩

end Dump
end DeclDocs
