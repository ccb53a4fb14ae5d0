import DeclDocs.Document.Text

/-! # A document is written as one JSON value

The text of a document is put together from the texts of its declarations, a header and
the texts of its other members.  All the same it is the text of one JSON value: of the
document without the declarations that nest too deeply and without their names among
the instances (`Document.kept`, `Document.render_eq`).

The items of an array and the members of an object are written with a separator in
front that is empty for the first.  That comes to the same as putting commas between
them (`Json.renderItems_eq`, `Json.renderMembers_eq`), as a document does.
-/
namespace DeclDocs

theorem certain_mapM {α β : Type} (f : α → Except Empty β) (items : List α) :
    certain (items.mapM f) = items.map fun item => certain (f item) := by
  induction items with
  | nil => rw [List.mapM_nil, certain_pure, List.map_nil]
  | cons item rest ih =>
    rw [List.mapM_cons, certain_bind, certain_bind, certain_pure, ih, List.map_cons]

namespace Json

/-- What puts a separator before each text, the given one before the first, puts commas
between the texts if there is nothing before the first. -/
theorem eq_intercalate {α : Type} {text : α → String} {write : String → List α → String}
    (hnil : ∀ separator, write separator [] = "")
    (hcons : ∀ separator item rest,
      write separator (item :: rest) = separator ++ text item ++ write ", " rest)
    (items : List α) : write "" items = String.intercalate ", " (items.map text) := by
  have hafter : ∀ (items : List α) (item : α),
      text item ++ write ", " items = String.intercalate ", " (text item :: items.map text) := by
    intro items
    induction items with
    | nil =>
      intro item
      rw [hnil, String.append_empty, List.map_nil, String.intercalate_singleton]
    | cons next rest ih =>
      intro item
      rw [hcons, List.map_cons, String.intercalate_cons_cons, ← ih next]
      simp only [String.append_assoc]
  cases items with
  | nil => rw [hnil, List.map_nil, String.intercalate_nil]
  | cons item rest => rw [hcons, String.empty_append, hafter, List.map_cons]

theorem renderItems_eq (items : List Json) :
    renderItems "" items = String.intercalate ", " (items.map render) := by
  apply eq_intercalate
  · intro separator
    rw [renderItems]
  · intro separator item rest
    rw [renderItems]

theorem renderMembers_eq (members : Members) :
    renderMembers "" members = String.intercalate ", " (members.map Document.memberText) := by
  apply eq_intercalate
  · intro separator
    rw [renderMembers]
  · intro separator member rest
    obtain ⟨key, value⟩ := member
    rw [renderMembers, Document.memberText]
    simp only [String.append_assoc]

theorem itemsDepth_le {items : List Json} {limit : Nat}
    (h : ∀ item ∈ items, item.depth ≤ limit) : itemsDepth items ≤ limit := by
  induction items with
  | nil =>
    rw [itemsDepth]
    exact Nat.zero_le limit
  | cons item rest ih =>
    obtain ⟨hitem, hrest⟩ := List.forall_mem_cons.mp h
    rw [itemsDepth]
    exact Nat.max_le.mpr ⟨hitem, ih hrest⟩

theorem membersDepth_le {members : Members} {limit : Nat}
    (h : ∀ member ∈ members, member.2.depth ≤ limit) : membersDepth members ≤ limit := by
  induction members with
  | nil =>
    rw [membersDepth]
    exact Nat.zero_le limit
  | cons member rest ih =>
    obtain ⟨hmember, hrest⟩ := List.forall_mem_cons.mp h
    rw [membersDepth]
    exact Nat.max_le.mpr ⟨hmember, ih hrest⟩

@[simp] theorem depth_bool (b : Bool) : (Json.bool b).depth = 0 := rfl

@[simp] theorem depth_int (i : Int) : (Json.int i).depth = 0 := rfl

@[simp] theorem depth_str (s : String) : (Json.str s).depth = 0 := rfl

theorem depth_arr_le {items : List Json} {limit : Nat} (h : ∀ item ∈ items, item.depth ≤ limit) :
    (Json.arr items).depth ≤ limit + 1 := by
  rw [depth]
  exact Nat.succ_le_succ (itemsDepth_le h)

theorem depth_obj_le {members : Members} {limit : Nat}
    (h : ∀ member ∈ members, member.2.depth ≤ limit) : (Json.obj members).depth ≤ limit + 1 := by
  rw [depth]
  exact Nat.succ_le_succ (membersDepth_le h)

theorem depth_texts_le (items : List String) : (texts items).depth ≤ 1 := by
  apply depth_arr_le
  intro item hitem
  obtain ⟨s, -, rfl⟩ := List.mem_map.mp hitem
  exact Nat.le_refl 0

end Json

namespace Layout

/-- A layout without foreign nodes in an encoding. -/
def toJsonIn (encoding : Encoding) (layout : Layout Empty) : Json :=
  certain (layout.toJsonIn? encoding)

theorem toJsonIn_plain (layout : Layout Empty) : layout.toJsonIn .plain = .str layout.text := by
  rw [toJsonIn, toJsonIn?, certain_bind, certain_pure, ← text]

end Layout

namespace Declaration

/-- Whether the JSON of a record nests too deeply to be written. -/
def isTooDeep (limit : NestingLimit) (encoding : Layout.Encoding) (record : Declaration Empty) :
    Bool :=
  decide (limit.levels < (record.toJson encoding).depth)

theorem toJson_eq (encoding : Layout.Encoding) (record : Declaration Empty) :
    record.toJson encoding =
      .obj [("name", .str record.name), ("is_meta", .bool record.isMeta),
        ("args", .arr (record.args.map fun arg =>
          .obj [("arg", arg.2.toJsonIn encoding), ("implicit", .bool arg.1)])),
        ("type", record.type.toJsonIn encoding),
        ("doc_string", .str (record.docString.getD "")), ("filename", .str record.filename),
        ("line", .int record.line), ("attributes", .texts record.attributes),
        ("equations", .arr (record.equations.map (Layout.toJsonIn encoding))),
        ("kind", .str record.kind),
        ("structure_fields", .arr (record.structureFields.map fun field =>
          .arr [.str field.1, field.2.toJsonIn encoding])),
        ("constructors", .arr (record.constructors.map fun constructor =>
          .arr [.str constructor.1, constructor.2.toJsonIn encoding]))] := by
  have harg : ∀ arg : Bool × Layout Empty, certain (argToJson? encoding arg) =
      .obj [("arg", arg.2.toJsonIn encoding), ("implicit", .bool arg.1)] := by
    intro arg
    rw [argToJson?, certain_bind, certain_pure, ← Layout.toJsonIn]
  have hnamed : ∀ named : String × Layout Empty, certain (namedToJson? encoding named) =
      .arr [.str named.1, named.2.toJsonIn encoding] := by
    intro named
    rw [namedToJson?, certain_bind, certain_pure, ← Layout.toJsonIn]
  rw [toJson, toJson?]
  simp only [certain_bind, certain_pure, certain_mapM, harg, hnamed]
  rfl

/-- In the plain encoding a record has objects in an array in an object, at most. -/
theorem depth_toJson_plain_le (record : Declaration Empty) :
    (record.toJson .plain).depth ≤ 3 := by
  have hlayout : ∀ layout : Layout Empty, (layout.toJsonIn .plain).depth = 0 := by
    intro layout
    rw [Layout.toJsonIn_plain, Json.depth_str]
  have hmap : ∀ {α : Type} (items : List α) (json : α → Json),
      (∀ item, (json item).depth ≤ 1) → (Json.arr (items.map json)).depth ≤ 2 := by
    intro α items json h
    apply Json.depth_arr_le
    rw [List.forall_mem_map]
    exact fun item _ => h item
  have hargs := hmap record.args
    (fun arg => .obj [("arg", arg.2.toJsonIn .plain), ("implicit", .bool arg.1)])
    fun arg => Json.depth_obj_le (by simp [hlayout])
  have hequations := hmap record.equations (Layout.toJsonIn .plain)
    fun equation => by simp [hlayout]
  have hnamed : ∀ named : List (String × Layout Empty),
      (Json.arr (named.map fun one => .arr [.str one.1, one.2.toJsonIn .plain])).depth ≤ 2 :=
    fun named => hmap named _ fun one => Json.depth_arr_le (by simp [hlayout])
  have hattributes := Nat.le_succ_of_le (Json.depth_texts_le record.attributes)
  rw [toJson_eq]
  apply Json.depth_obj_le
  simp [hlayout, hargs, hequations, hnamed, hattributes]

theorem isTooDeep_plain (limit : NestingLimit) (record : Declaration Empty) :
    record.isTooDeep limit .plain = false := by
  have hdepth := depth_toJson_plain_le record
  have hlimit := limit.three_le
  rw [isTooDeep, decide_eq_false_iff_not]
  omega

end Declaration

namespace Document

/-- The declarations of a document that nest too deeply to be written. -/
def tooDeep (limit : NestingLimit) (encoding : Layout.Encoding) (document : Document Empty) :
    List (Declaration Empty) :=
  document.declarations.filter fun record => record.isTooDeep limit encoding

/-- A document without the declarations that nest too deeply, without their names among
the instances, and without the classes that have no other instances. -/
def kept (limit : NestingLimit) (encoding : Layout.Encoding) (document : Document Empty) :
    Document Empty :=
  { document with
    declarations := document.declarations.filter fun record => !record.isTooDeep limit encoding
    instances := document.instances.filterMap fun entry =>
      let left := entry.2.filter (· ∉ (document.tooDeep limit encoding).map Declaration.name)
      if left = [] then none else some (entry.1, left) }

theorem toJson_eq (encoding : Layout.Encoding) (document : Document Empty) :
    document.toJson encoding =
      .obj (("decls", .arr (document.declarations.map (Declaration.toJson encoding))) ::
        document.otherMembers) := by
  rw [toJson, toJson?, certain_bind, certain_pure, certain_mapM]
  rfl

/-- The text of an object that begins with the declarations. -/
theorem render_obj_decls (declarations : List Json) (members : Json.Members) :
    (Json.obj (("decls", .arr declarations) :: members)).render =
      "\x7b" ++ String.intercalate ", "
        (("\"decls\": [" ++ String.intercalate ", " (declarations.map Json.render) ++ "]") ::
          members.map memberText) ++ "\x7d" := by
  have hheader : Json.stringText "decls" ++ ": " ++ "[" = "\"decls\": [" := by
    decide +kernel
  have hdeclarations : memberText ("decls", .arr declarations) =
      "\"decls\": [" ++ String.intercalate ", " (declarations.map Json.render) ++ "]" := by
    rw [memberText, Json.render, Json.renderItems_eq, ← hheader]
    simp only [String.append_assoc]
  rw [Json.render, Json.renderMembers_eq, List.map_cons, hdeclarations]

/-- The texts of the declarations that can be written, and the names of the others. -/
theorem certain_writeDeclarations (limit : NestingLimit) (encoding : Layout.Encoding)
    (records : List (Declaration Empty)) : certain (writeDeclarations limit encoding records) =
      { texts := (records.filter fun record => !record.isTooDeep limit encoding).map fun record =>
          (record.toJson encoding).render
        dropped := (records.filter fun record => record.isTooDeep limit encoding).map
          Declaration.name } := by
  induction records with
  | nil => rw [writeDeclarations]; rfl
  | cons record rest ih =>
    rw [writeDeclarations, certain_bind, certain_bind, ih, ← Declaration.toJson]
    by_cases hdeep : limit.levels < (record.toJson encoding).depth
    · have htooDeep : record.isTooDeep limit encoding = true := decide_eq_true hdeep
      rw [if_pos hdeep, certain_pure]
      simp [htooDeep]
    · have htooDeep : record.isTooDeep limit encoding = false := decide_eq_false hdeep
      rw [if_neg hdeep, certain_pure]
      simp [htooDeep]

theorem keepInstances_eq (dropped : List String) (instances : Grouped String) :
    keepInstances dropped instances = instances.filterMap fun entry =>
      let left := entry.2.filter (· ∉ dropped)
      if left = [] then none else some (entry.1, left) := by
  induction instances with
  | nil => rfl
  | cons entry rest ih =>
    obtain ⟨name, names⟩ := entry
    have hleft : (names.filter fun n => !dropped.contains n) = names.filter (· ∉ dropped) := by
      simp
    rw [keepInstances] at ih ⊢
    show List.filter _ ((name, names.filter fun n => !dropped.contains n) :: rest.map _) = _
    rw [hleft]
    by_cases hempty : names.filter (· ∉ dropped) = []
    · rw [List.filter_cons_of_neg (by simpa using hempty), ih, List.filterMap_cons_none]
      exact if_pos hempty
    · rw [List.filter_cons_of_pos (by simpa using hempty), ih, List.filterMap_cons_some]
      exact if_neg hempty

/-- The text of a document is that of one JSON value. -/
theorem fst_render (limit : NestingLimit) (encoding : Layout.Encoding)
    (document : Document Empty) :
    (document.render limit encoding).1 =
      ((document.kept limit encoding).toJson encoding).render := by
  rw [render, render?, certain_bind, certain_writeDeclarations, certain_pure, toJson_eq,
    render_obj_decls, List.map_map, ← tooDeep, keepInstances_eq, List.map_map]
  rfl

/-- **A document is written as one JSON value.**  Whatever the limit of the runtime, its text is
that of what is kept of it as a whole, and there is one warning for each declaration left out,
in order.  In the plain encoding none is left out. -/
theorem render_eq :
    (∀ (limit : NestingLimit) (encoding : Layout.Encoding) (document : Document Empty),
      document.render limit encoding =
        (((document.kept limit encoding).toJson encoding).render,
          (document.tooDeep limit encoding).map fun record =>
            ⟨.warning, "Skipping declaration " ++ record.name ++ ": " ++ tooDeepMessage⟩)) ∧
    ∀ (limit : NestingLimit) (document : Document Empty), document.tooDeep limit .plain = [] := by
  constructor
  · intro limit encoding document
    rw [render, render?, certain_bind, certain_writeDeclarations, certain_pure, toJson_eq,
      render_obj_decls, List.map_map, ← tooDeep, keepInstances_eq, List.map_map]
    rfl
  · intro limit document
    apply List.filter_eq_nil_iff.mpr
    intro record _
    rw [Declaration.isTooDeep_plain]
    exact Bool.false_ne_true

end Document
end DeclDocs
