import DeclDocs.Proofs.Document.Dropping
import DeclDocs.Proofs.Json.ReadBack

/-! # A document reads back

The text of a document is one line of JSON, and reading it gives the document's JSON value
again, with the members of every object in their order (`Document.render_reads_back`).
The texts in a document may hold anything; an integer is read only if it is not too long,
and the only objects whose keys a document does not fix are its module docs, grouped by
file, and its instances, grouped by class.

The limit within which a document is written is on each declaration by itself, while a reader
has the whole document in front of it, which nests two levels deeper than its declarations do.
So the reader that takes back whatever is written must take two levels more than are written at
one go, and integers of no more digits than a dump may hold (`Document.parse_render`).  A reader
that takes just as many levels as are written at one go, as a runtime reads its dumps
(`Dump.readingLimits`), takes back a document unless its declarations use the two deepest ones.
-/
namespace DeclDocs

namespace Layout

theorem toJsonIn_arrays (layout : Layout Empty) :
    layout.toJsonIn .arrays = certain layout.encode := by
  rw [toJsonIn, toJsonIn?, toJson?_eq]

theorem encode_join (left right : Layout Empty) :
    certain (encode (.join left right)) = joinArray (certain left.encode) (certain right.encode) := by
  rw [encode, certain_bind, certain_bind, certain_pure]

theorem isReadable_encode (digitLimit : Nat) (layout : Layout Empty) :
    (certain layout.encode).IsReadable digitLimit := by
  induction layout with
  | leaf s => exact .str s
  | nest child ih =>
    rw [encode, certain_bind, certain_pure]
    exact .arr _ (List.forall_mem_cons.mpr ⟨.str "n", by simpa using ih⟩)
  | join left right ihl ihr =>
    rw [encode_join]
    exact .arr _ (List.forall_mem_cons.mpr ⟨.str "c", by simpa using ⟨ihl, ihr⟩⟩)
  | foreign node => exact node.elim

theorem isReadable_toJsonIn (digitLimit : Nat) (encoding : Encoding) (layout : Layout Empty) :
    (layout.toJsonIn encoding).IsReadable digitLimit := by
  cases encoding with
  | arrays =>
    rw [toJsonIn_arrays]
    exact isReadable_encode digitLimit layout
  | plain =>
    rw [toJsonIn_plain]
    exact .str layout.text

end Layout

namespace Json

theorem isReadable_arr_map {α : Type} {digitLimit : Nat} {items : List α} {json : α → Json}
    (h : ∀ item ∈ items, (json item).IsReadable digitLimit) :
    (Json.arr (items.map json)).IsReadable digitLimit :=
  .arr _ (List.forall_mem_map.mpr h)

theorem isReadable_pair {digitLimit : Nat} {first second : Json}
    (hfirst : first.IsReadable digitLimit) (hsecond : second.IsReadable digitLimit) :
    (Json.arr [first, second]).IsReadable digitLimit :=
  .arr _ (by simpa using ⟨hfirst, hsecond⟩)

end Json

namespace Declaration

theorem isReadable_toJson {digitLimit : Nat} (encoding : Layout.Encoding)
    {record : Declaration Empty} (hline : Decimal.digitCount record.line ≤ digitLimit) :
    (record.toJson encoding).IsReadable digitLimit := by
  have hlayout := Layout.isReadable_toJsonIn digitLimit encoding
  have hnamed : ∀ named : List (String × Layout Empty),
      (Json.arr (named.map fun one => .arr [.str one.1, one.2.toJsonIn encoding])).IsReadable
        digitLimit :=
    fun named => Json.isReadable_arr_map fun one _ => Json.isReadable_pair (.str one.1) (hlayout one.2)
  have hargs : (Json.arr (record.args.map fun arg =>
      .obj [("arg", arg.2.toJsonIn encoding), ("implicit", .bool arg.1)])).IsReadable digitLimit :=
    Json.isReadable_arr_map fun arg _ =>
      .obj _ (show ["arg", "implicit"].Nodup by decide) (by simpa using ⟨hlayout arg.2, .bool arg.1⟩)
  have hequations : (Json.arr (record.equations.map (Layout.toJsonIn encoding))).IsReadable
      digitLimit :=
    Json.isReadable_arr_map fun equation _ => hlayout equation
  rw [toJson_eq]
  refine .obj _ (by simp only [List.map_cons, List.map_nil]; decide) ?_
  simp only [List.forall_mem_cons, List.not_mem_nil, false_imp_iff, implies_true, and_true]
  exact ⟨.str _, .bool _, hargs, hlayout _, .str _, .str _, .int _ hline,
    Json.isReadable_texts _ _, hequations, .str _, hnamed _, hnamed _⟩

end Declaration

theorem ModuleDoc.isReadable_toJson {digitLimit : Nat} {doc : ModuleDoc}
    (hline : Decimal.digitCount doc.line ≤ digitLimit) :
    (Document.moduleDocToJson doc).IsReadable digitLimit :=
  .obj _ (show ["line", "doc"].Nodup by decide) (by simpa using ⟨.int _ hline, .str doc.content⟩)

theorem LabeledTacticDoc.isReadable_toJson (digitLimit : Nat) (doc : LabeledTacticDoc) :
    doc.toJson.IsReadable digitLimit := by
  refine .obj _ (show ["name", "category", "decl_names", "tags", "description", "import"].Nodup by
    decide) ?_
  simp only [TacticDoc.members, List.cons_append, List.nil_append, List.forall_mem_cons,
    List.not_mem_nil, false_imp_iff, implies_true, and_true]
  exact ⟨.str _, .str _, Json.isReadable_texts _ _, Json.isReadable_texts _ _, .str _, .str _⟩

namespace Document

/-- Whether no line in a document has more digits than the limit. -/
structure LinesWithin (digitLimit : Nat) (document : Document Empty) : Prop where
  declarations : ∀ record ∈ document.declarations, Decimal.digitCount record.line ≤ digitLimit
  moduleDocs : ∀ doc ∈ document.moduleDocs, Decimal.digitCount doc.line ≤ digitLimit

theorem LinesWithin.mono {limit greater : Nat} {document : Document Empty}
    (h : document.LinesWithin limit) (hle : limit ≤ greater) : document.LinesWithin greater where
  declarations record hrecord := Nat.le_trans (h.declarations record hrecord) hle
  moduleDocs doc hdoc := Nat.le_trans (h.moduleDocs doc hdoc) hle

theorem isReadable_moduleDocsToJson {digitLimit : Nat} {docs : List ModuleDoc}
    (hlines : ∀ doc ∈ docs, Decimal.digitCount doc.line ≤ digitLimit) :
    (moduleDocsToJson docs).IsReadable digitLimit := by
  refine .obj _ ?_ ?_
  · rw [List.map_map]
    exact Grouped.nodup_keys_of ModuleDoc.filename docs
  · rw [List.forall_mem_map]
    intro group hgroup
    exact Json.isReadable_arr_map fun doc hdoc =>
      ModuleDoc.isReadable_toJson (hlines doc (Grouped.mem_of_mem_of hgroup hdoc))

theorem isReadable_toJson {digitLimit : Nat} (encoding : Layout.Encoding)
    {document : Document Empty} (hlines : document.LinesWithin digitLimit)
    (hinstances : document.instances.keys.Nodup) :
    (document.toJson encoding).IsReadable digitLimit := by
  rw [toJson_eq]
  refine .obj _ (show ["decls", "mod_docs", "notes", "tactic_docs", "instances"].Nodup by
    decide) ?_
  simp only [otherMembers, List.forall_mem_cons, List.not_mem_nil, false_imp_iff, implies_true,
    and_true]
  refine ⟨?_, isReadable_moduleDocsToJson hlines.moduleDocs, ?_, ?_, ?_⟩
  · exact Json.isReadable_arr_map fun record hrecord =>
      record.isReadable_toJson encoding (hlines.declarations record hrecord)
  · exact Json.isReadable_arr_map fun note _ => Json.isReadable_texts _ _
  · exact Json.isReadable_arr_map fun doc _ => doc.isReadable_toJson digitLimit
  · refine .obj _ ?_ ?_
    · rw [List.map_map]
      exact hinstances
    · rw [List.forall_mem_map]
      exact fun entry _ => Json.isReadable_texts _ _

/-! ### What is kept of a document -/

/-- A document without the classes that have no instances. -/
def withoutEmptyClasses (document : Document Empty) : Document Empty :=
  { document with instances := document.instances.filter fun entry => entry.2 ≠ [] }

variable {limit : NestingLimit} {encoding : Layout.Encoding} {document : Document Empty}

/-- Nothing but its classes without instances is missing from what is kept of a document, if
no declaration of it nests too deeply. -/
theorem kept_eq (h : document.tooDeep limit encoding = []) :
    document.kept limit encoding = document.withoutEmptyClasses := by
  have hdeclarations : (document.declarations.filter fun record => !record.isTooDeep limit encoding) =
      document.declarations := by
    rw [List.filter_eq_self]
    intro record hrecord
    have hshallow := List.filter_eq_nil_iff.mp h record hrecord
    simpa using hshallow
  have hentry : (fun entry : String × List String =>
      let left := entry.2.filter (· ∉ ([] : List (Declaration Empty)).map Declaration.name)
      if left = [] then none else some (entry.1, left)) =
        Option.guard fun entry => decide (entry.2 ≠ []) := by
    funext entry
    have hall : entry.2.filter (· ∉ ([] : List (Declaration Empty)).map Declaration.name) =
        entry.2 :=
      List.filter_eq_self.mpr (by simp)
    simp only [hall]
    by_cases hempty : entry.2 = [] <;> simp [hempty, Option.guard]
  rw [kept, h, hdeclarations, hentry, List.filterMap_eq_filter, withoutEmptyClasses]

theorem depth_otherMembers_le (document : Document Empty) :
    ∀ member ∈ document.otherMembers, member.2.depth ≤ 3 := by
  have hmoduleDocs : (moduleDocsToJson document.moduleDocs).depth ≤ 3 := by
    apply Json.depth_obj_le
    rw [List.forall_mem_map]
    intro group _
    apply Json.depth_arr_le
    rw [List.forall_mem_map]
    intro doc _
    show (moduleDocToJson doc).depth ≤ 0 + 1
    exact Json.depth_obj_le (by simp)
  have htacticDocs : (Json.arr (document.tacticDocs.map LabeledTacticDoc.toJson)).depth ≤ 3 := by
    apply Json.depth_arr_le
    rw [List.forall_mem_map]
    intro doc _
    apply Json.depth_obj_le
    simp [TacticDoc.members, Json.depth_texts_le]
  simp only [otherMembers, List.forall_mem_cons, List.not_mem_nil, false_imp_iff, implies_true,
    and_true]
  refine ⟨hmoduleDocs, ?_, htacticDocs, ?_⟩
  · refine Nat.le_succ_of_le (Json.depth_arr_le ?_)
    rw [List.forall_mem_map]
    exact fun note _ => Json.depth_texts_le _
  · refine Nat.le_succ_of_le (Json.depth_obj_le ?_)
    rw [List.forall_mem_map]
    exact fun entry _ => Json.depth_texts_le _

/-- A document nests two levels deeper than its declarations, at most. -/
theorem depth_toJson_le (h : document.tooDeep limit encoding = []) :
    (document.toJson encoding).depth ≤ limit.levels + 2 := by
  have hdeclarations : (Json.arr (document.declarations.map (Declaration.toJson encoding))).depth ≤
      limit.levels + 1 := by
    apply Json.depth_arr_le
    rw [List.forall_mem_map]
    intro record hrecord
    have hshallow := List.filter_eq_nil_iff.mp h record hrecord
    simpa [Declaration.isTooDeep] using hshallow
  rw [toJson_eq]
  apply Json.depth_obj_le
  rw [List.forall_mem_cons]
  refine ⟨hdeclarations, ?_⟩
  intro member hmember
  have hdepth := depth_otherMembers_le document member hmember
  have hlimit := limit.three_le
  omega

/-- What is kept of a document does not nest too deeply. -/
theorem depth_le_of_mem_kept {record : Declaration Empty}
    (h : record ∈ (document.kept limit encoding).declarations) :
    (record.toJson encoding).depth ≤ limit.levels := by
  have hshallow := (List.mem_filter.mp h).2
  simpa [Declaration.isTooDeep] using hshallow

theorem tooDeep_kept (limit : NestingLimit) (encoding : Layout.Encoding)
    (document : Document Empty) : (document.kept limit encoding).tooDeep limit encoding = [] := by
  rw [tooDeep, List.filter_eq_nil_iff]
  intro record hrecord
  simpa [Declaration.isTooDeep] using depth_le_of_mem_kept hrecord

theorem LinesWithin.kept {digitLimit : Nat} (h : document.LinesWithin digitLimit)
    (limit : NestingLimit) (encoding : Layout.Encoding) :
    (document.kept limit encoding).LinesWithin digitLimit where
  declarations record hrecord := h.declarations record (List.mem_filter.mp hrecord).1
  moduleDocs := h.moduleDocs

theorem isReadable_kept {digitLimit : Nat} (limit : NestingLimit) (encoding : Layout.Encoding)
    (hkeys : document.instances.keys.Nodup) (hlines : document.LinesWithin digitLimit) :
    ((document.kept limit encoding).toJson encoding).IsReadable digitLimit := by
  have hkeysKept : (document.kept limit encoding).instances.keys.Nodup := by
    rw [kept_eq_dropping]
    exact hkeys.sublist (keys_dropping_sublist _ document)
  exact isReadable_toJson encoding (hlines.kept limit encoding) hkeysKept

/-- What is kept of a document is read again, whatever has been left out. -/
theorem parse_render_kept (limit : NestingLimit) (encoding : Layout.Encoding)
    (hkeys : document.instances.keys.Nodup)
    (hlines : document.LinesWithin Decimal.digitLimit) {limits : Json.Limits}
    (hnesting : limit.levels + 2 ≤ limits.nesting) (hdigits : Decimal.digitLimit ≤ limits.digits) :
    Json.parse limits ((document.kept limit encoding).toJson encoding).render =
      .ok ((document.kept limit encoding).toJson encoding) := by
  have hdepth := depth_toJson_le (tooDeep_kept limit encoding document)
  exact Json.parse_render (isReadable_kept limit encoding hkeys (hlines.mono hdigits))
    (Nat.le_trans hdepth hnesting)

/-- **One reader takes back every document**: the one that takes two levels more than are written
at one go, and integers as long as those of a dump may be. -/
theorem parse_render (limit : NestingLimit) (encoding : Layout.Encoding)
    (hkeys : document.instances.keys.Nodup) (hlines : document.LinesWithin Decimal.digitLimit) :
    Json.parse ⟨limit.levels + 2, Decimal.digitLimit⟩ (document.render limit encoding).1 =
      .ok ((document.kept limit encoding).toJson encoding) := by
  rw [fst_render]
  exact parse_render_kept limit encoding hkeys hlines (Nat.le_refl _) (Nat.le_refl _)

/-- **A document reads back.**  If a document lists every class once and no declaration is left
out of it, its text is one line of JSON, and a reader whose limits admit what the document
holds takes all of it back to the document's JSON value without the classes that have no
instances, key by key in order.  Two levels more than a declaration may have are enough for
any document. -/
theorem render_reads_back (limit : NestingLimit) (encoding : Layout.Encoding)
    (document : Document Empty) (hinstances : document.instances.keys.Nodup)
    (hlines : document.LinesWithin Decimal.digitLimit)
    (hkept : document.tooDeep limit encoding = []) :
    let text := (document.render limit encoding).1
    let json := document.withoutEmptyClasses.toJson encoding
    (∀ limits : Json.Limits, json.depth ≤ limits.nesting → Decimal.digitLimit ≤ limits.digits →
        Json.parse limits text = .ok json) ∧
      json.depth ≤ limit.levels + 2 ∧ ∀ c ∈ text.toList, 0x20 ≤ c.toNat := by
  intro text json
  have htext : text = json.render := by
    have hrender := fst_render limit encoding document
    rwa [kept_eq hkept] at hrender
  have hreadable : ∀ digits, Decimal.digitLimit ≤ digits → json.IsReadable digits := by
    intro digits hdigits
    have hkeptReadable := isReadable_kept limit encoding hinstances (hlines.mono hdigits)
    rwa [kept_eq hkept] at hkeptReadable
  refine ⟨?_, depth_toJson_le hkept, ?_⟩
  · intro limits hdepth hdigits
    rw [htext]
    exact Json.parse_render (hreadable limits.digits hdigits) hdepth
  · rw [htext]
    exact Json.isOneLine_render (hreadable _ (Nat.le_refl _))

/-- A document whose texts look like JSON, like escapes and like the end of a string. -/
def quotations : Document Empty where
  declarations :=
    [{ name := "a\"b", isMeta := true, args := [(true, .nest (.leaf "[\"n\",\n 1]"))]
       type := .join (.leaf "\\u0041") (.leaf "\\\""), docString := some "\x01é\", \"kind\": \"ax"
       filename := "", line := 120, attributes := ["instance"], equations := [], kind := "def" }]
  moduleDocs := [⟨"b", 7, "\t😀\x7f"⟩, ⟨"a", 0, ""⟩, ⟨"b", 7, ""⟩]
  instances := [("c\\", ["a\"b"]), ("d", [])]

theorem render_reads_back_quotations :
    let limit := NestingLimit.usual
    quotations.instances.keys.Nodup ∧ quotations.LinesWithin Decimal.digitLimit ∧
      quotations.tooDeep limit .arrays = [] ∧
      Json.parse ⟨limit.levels, Decimal.digitLimit⟩ (quotations.render limit .arrays).1 =
        .ok (quotations.withoutEmptyClasses.toJson .arrays) ∧
      ∀ c ∈ (quotations.render limit .arrays).1.toList, 0x20 ≤ c.toNat := by
  intro limit
  have hinstances : quotations.instances.keys.Nodup := by decide
  have hlines : quotations.LinesWithin Decimal.digitLimit :=
    ⟨by decide, by decide⟩
  -- the recursion is evaluated in place of the walk that encodes a layout
  have hkept : quotations.tooDeep limit .arrays = [] := by
    simp only [tooDeep, Declaration.isTooDeep, Declaration.toJson_eq, Layout.toJsonIn_arrays]
    decide +kernel
  have hdepth : (quotations.withoutEmptyClasses.toJson .arrays).depth ≤ limit.levels := by
    simp only [toJson_eq, withoutEmptyClasses, quotations, List.map_cons, List.map_nil,
      Declaration.toJson_eq, Layout.toJsonIn_arrays]
    decide +kernel
  obtain ⟨hread, -, hline⟩ := render_reads_back limit .arrays quotations hinstances hlines hkept
  exact ⟨hinstances, hlines, hkept, hread ⟨limit.levels, Decimal.digitLimit⟩ hdepth (Nat.le_refl _),
    hline⟩

end Document
end DeclDocs
