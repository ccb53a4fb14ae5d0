import DeclDocs.Export.Record
import DeclDocs.Host.OfDump
import DeclDocs.Proofs.Telescope.Text

/-! # What a record is made of

A record is made from the answers of the host, one query after another, and there is a
record only if all of them are answered.  The inversions below say so once for each
step (`Host.outline_eq_ok_iff`, `Host.complete_eq_ok_iff`, `Host.record?_eq_some_iff`);
what holds of records is derived from them.

The telescope of a declaration is shown without loss (`Dump.telescope_of_record`): the
named arguments and the type of the record read as its binders and its body, one after
another.  The texts come through normalization unchanged, whatever it does to the
brackets of a binder.
-/
namespace DeclDocs

theorem mapError_eq_ok_iff {ε ε' α : Type} {f : ε → ε'} {x : Except ε α} {a : α} :
    x.mapError f = .ok a ↔ x = .ok a := by
  cases x with
  | ok b =>
    show Except.ok b = Except.ok a ↔ Except.ok b = Except.ok a
    rw [Except.ok.injEq, Except.ok.injEq]
  | error e => exact ⟨fun h => absurd h (by rintro ⟨⟩), fun h => absurd h (by rintro ⟨⟩)⟩

namespace Host

variable {Memory : Type} {host : Host Memory} {name tag : String} {telescope : Telescope}
  {position : Option Position} {record : Declaration Empty}

/-- A record answers for a declaration whose outline is known: each of its parts is
what the host has answered. -/
structure Completes (host : Host Memory) (name tag : String) (telescope : Telescope)
    (position : Option Position) (record : Declaration Empty) : Prop where
  name_eq : record.name = name
  kind_eq : record.kind = tag
  args_eq : record.args = telescope.named.map argLayout
  type_eq : record.type = telescope.resultType.normalLayout
  filename_eq : record.filename = (position.map Position.filename).getD ""
  line_eq : lineOf? ((position.map Position.line).getD 0) = some record.line
  isMeta_eq : host.isMeta name = .ok record.isMeta
  docString_eq : host.docString name = .ok record.docString
  attributes_eq : host.attributes name = .ok record.attributes
  equations_eq : host.equationLayouts name tag = .ok record.equations
  structureFields_eq : host.fieldLayouts name = .ok record.structureFields
  constructors_eq : host.constructorLayouts name = .ok record.constructors

theorem outline_eq_ok_iff :
    host.outline name = .ok (tag, telescope, position) ↔
      (∃ word, host.kind name = .ok word ∧ kindTag word = .ok tag) ∧
        host.typeOf name = .ok telescope ∧ host.position name = .ok position := by
  simp only [outline, bind_eq_ok_iff, pure, Except.pure, Except.ok.injEq, Prod.mk.injEq]
  constructor
  · rintro ⟨word, hword, _, htag, _, htype, _, hposition, rfl, rfl, rfl⟩
    exact ⟨⟨word, hword, htag⟩, htype, hposition⟩
  · rintro ⟨⟨word, hword, htag⟩, htype, hposition⟩
    exact ⟨word, hword, tag, htag, telescope, htype, position, hposition, rfl, rfl, rfl⟩

theorem complete_eq_ok_iff :
    host.complete name tag telescope position = .ok record ↔
      host.Completes name tag telescope position record := by
  simp only [complete, bind_eq_ok_iff]
  constructor
  · rintro ⟨isMeta, hmeta, docString, hdoc, attributes, hattributes, equations, hequations,
      fields, hfields, constructors, hconstructors, h⟩
    split at h
    next => cases h
    next line hline =>
      cases h
      exact ⟨rfl, rfl, rfl, rfl, rfl, hline, hmeta, hdoc, hattributes, hequations, hfields,
        hconstructors⟩
  · intro h
    refine ⟨_, h.isMeta_eq, _, h.docString_eq, _, h.attributes_eq, _, h.equations_eq,
      _, h.structureFields_eq, _, h.constructors_eq, ?_⟩
    rw [h.line_eq]
    obtain ⟨rfl, rfl, hargs, htype, hfilename, -⟩ := h
    simp only [← hargs, ← htype, ← hfilename]
    rfl

theorem describe_eq_ok_iff :
    (host.describe name).1 = .ok record ↔ ∃ tag telescope position,
      host.outline name = .ok (tag, telescope, position) ∧
        host.Completes name tag telescope position record := by
  unfold describe
  cases houtline : host.outline name with
  | error failure => simp
  | ok outline =>
    obtain ⟨tag, telescope, position⟩ := outline
    constructor
    · intro h
      exact ⟨tag, telescope, position, rfl, complete_eq_ok_iff.mp h⟩
    · rintro ⟨_, _, _, heq, hcompletes⟩
      cases heq
      exact complete_eq_ok_iff.mpr hcompletes

/-- There is a record of a declaration if and only if the declaration is not hidden,
its outline is known and the rest of the record can be had. -/
theorem record?_eq_some_iff :
    (host.record? name).1 = some record ↔
      host.isHidden name = .ok false ∧ ∃ tag telescope position,
        host.outline name = .ok (tag, telescope, position) ∧
          host.Completes name tag telescope position record := by
  rw [← describe_eq_ok_iff]
  unfold record?
  cases host.isHidden name with
  | error failure => simp
  | ok hidden =>
    cases hidden with
    | true => simp
    | false =>
      obtain ⟨answer, notices⟩ := host.describe name
      cases answer with
      | error failure => simp
      | ok described => simp

/-- The named arguments of a record and the type after them are those of the telescope
that the host has for the declaration. -/
theorem typeOf_of_record (h : (host.record? name).1 = some record) :
    ∃ telescope, host.typeOf name = .ok telescope ∧
      record.args = telescope.named.map argLayout ∧
      record.type = telescope.resultType.normalLayout := by
  obtain ⟨-, tag, telescope, position, houtline, hcompletes⟩ := record?_eq_some_iff.mp h
  obtain ⟨-, htype, -⟩ := outline_eq_ok_iff.mp houtline
  exact ⟨telescope, htype, hcompletes.args_eq, hcompletes.type_eq⟩

theorem text_argLayout (binder : Binder) :
    (argLayout binder).1 = decide (binder.style ≠ .explicit) ∧
      (argLayout binder).2.text = binder.text := by
  constructor
  · simp [argLayout, bne, BEq.beq]
  · rw [argLayout, Markup.text_normalLayout, Binder.text_markup]

end Host

namespace Dump

theorem get_eq_ok_iff {dump : Dump} {name : String} {entry : Entry} :
    dump.get name = .ok entry ↔ dump.find? name = some entry := by
  unfold get
  cases dump.find? name with
  | none => simp
  | some found => simp

/-- **A telescope is exported without loss.**  For every declaration that has a record,
the binders of its telescope are split before the first ordinary arrow.  The binders
before it are the arguments of the record, in order, each implicit unless it is written
in round brackets, and each with the text of the binder.  The text of the record's type
is that of the other binders in front of the body. -/
theorem telescope_of_record (dump : Dump) (name : String) (record : Declaration Empty)
    (h : (dump.host.record? name).1 = some record) :
    ∃ entry telescope named rest, dump.find? name = some entry ∧
      entry.telescope = .ok telescope ∧ telescope.IsSplit named rest ∧
      (record.args.map fun arg => (arg.1, arg.2.text)) =
        (named.map fun binder => (decide (binder.style ≠ .explicit), binder.text)) ∧
      record.type.text =
        String.join (rest.map Binder.leadingText) ++ telescope.body.text := by
  obtain ⟨telescope, htypeOf, hargs, htype⟩ := Host.typeOf_of_record h
  obtain ⟨entry, hget, htelescope⟩ := bind_eq_ok_iff.mp htypeOf
  refine ⟨entry, telescope, telescope.named, telescope.unnamed, get_eq_ok_iff.mp hget, htelescope,
    telescope.isSplit_named_unnamed, ?_, ?_⟩
  · rw [hargs, List.map_map]
    apply List.map_congr_left
    intro binder _
    obtain ⟨himplicit, htext⟩ := Host.text_argLayout binder
    rw [Function.comp_apply, himplicit, htext]
  · rw [htype, Markup.text_normalLayout, Telescope.resultType, Telescope.text_quantify]

/-- A dump that lists a declaration twice.  The second one, which counts, has an instance
without a name among its arguments, and a named binder after an arrow. -/
def listedTwice : Dump where
  declarations :=
    [{ name := "f", kind := "constant", type := .str "α" },
     { name := "f", kind := "definition"
       binders :=
         [{ name := "α", style := .implicit, type := .str "Type", dependent := true },
          { style := .instImplicit, type := .obj [("compose", .arr [.str "has_add ", .str "α"])],
            dependent := true },
          { name := "_", type := .obj [("nest", .arr [.int 2, .str "(α)"])] },
          { name := "h", style := .strictImplicit, type := .str "p" }]
       type := .obj [("compose", .arr [.str "q", .str ")"])] }]

/-- The record of the declaration that is listed twice. -/
def listedTwiceRecord : Declaration Empty where
  name := "f"
  isMeta := false
  args :=
    [(true, .nest (.join (.leaf "\x7bα :") (.nest (.leaf " Type\x7d")))),
     (true, .nest (.leaf "[has_add α]"))]
  type :=
    .join (.leaf "(α) →") (.nest (.join (.leaf " ∀ ")
      (.join (.nest (.join (.leaf "⦃h :") (.nest (.leaf " p⦄"))))
        (.join (.leaf ",") (.nest (.leaf " q)"))))))
  docString := none
  filename := ""
  line := 0
  attributes := []
  equations := []
  kind := "def"

theorem telescope_of_record_listedTwice :
    (listedTwice.host.record? "f").1 = some listedTwiceRecord ∧
    ∃ entry telescope named rest, listedTwice.find? "f" = some entry ∧
      entry.telescope = .ok telescope ∧ telescope.IsSplit named rest ∧
      (listedTwiceRecord.args.map fun arg => (arg.1, arg.2.text)) =
        (named.map fun binder => (decide (binder.style ≠ .explicit), binder.text)) ∧
      listedTwiceRecord.type.text =
        String.join (rest.map Binder.leadingText) ++ telescope.body.text := by
  have h : (listedTwice.host.record? "f").1 = some listedTwiceRecord := by
    decide +kernel
  exact ⟨h, telescope_of_record listedTwice "f" listedTwiceRecord h⟩

end Dump
end DeclDocs
