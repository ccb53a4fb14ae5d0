import DeclDocs.Dump.Load
import DeclDocs.Proofs.Dump.Validation
import DeclDocs.Proofs.Json.ReadBack
import DeclDocs.Proofs.Text.Utf8

/-! # What can be loaded

A dump is loaded from a file exactly if the file can be read, its bytes are a text, the text is
JSON within the limits, and the value is a dump (`Dump.LoadsFrom`, `Dump.load_eq_ok_iff`).  There
are four ways in which a file gives no dump, one for each of these
(`Dump.Unusable`, `Dump.exists_load_eq_error_iff`).  What has been written of a dump is loaded
again, unless it is too much for the reader (`Dump.loadsFrom_toDump`).
-/
namespace DeclDocs
namespace Dump

variable {nesting : Nat} {content : Except AccessError (List UInt8)} {dump : Dump}

/-- Reads the JSON value that a text holds, whatever ends its lines. -/
def readText (nesting : Nat) (text : String) : Except Json.ReadError Json :=
  Json.parse (readingLimits nesting) (String.ofList (Text.uniformLines text.toList))

/-- The content of a file is a text that holds a dump. -/
inductive LoadsFrom (nesting : Nat) :
    (content : Except AccessError (List UInt8)) → (dump : Dump) → Prop where
  | intro {text : String} {json : Json} {dump : Dump} (hjson : readText nesting text = .ok json)
      (hvalid : check json = .valid dump) : LoadsFrom nesting (.ok text.toUTF8.toList) dump

/-- The ways in which the content of a file is no dump. -/
inductive Unusable (nesting : Nat) : (content : Except AccessError (List UInt8)) → Prop where
  | unread (error : AccessError) : Unusable nesting (.error error)
  | notUtf8 {bytes : List UInt8} (h : ∀ text : String, text.toUTF8.toList ≠ bytes) :
      Unusable nesting (.ok bytes)
  | notJson {text : String} {error : Json.ReadError} (h : readText nesting text = .error error) :
      Unusable nesting (.ok text.toUTF8.toList)
  | notValid {text : String} {json : Json} {issues : List Issue}
      (hjson : readText nesting text = .ok json) (h : check json = .invalid issues) :
      Unusable nesting (.ok text.toUTF8.toList)

theorem load_toUTF8 (nesting : Nat) (text : String) :
    load nesting (.ok text.toUTF8.toList) =
      match readText nesting text with
      | .error .tooDeep => .error .tooDeep
      | .error (.tooManyDigits digits) => .error (.tooManyDigits digits)
      | .error (.malformed complaint place) => .error (.notJson complaint place)
      | .ok json =>
        match check json with
        | .valid dump => .ok dump
        | .invalid issues => .error (.invalid json issues) := by
  show ofBytes nesting text.toUTF8.toList = _
  rw [ofBytes, Utf8.decode_toUTF8]
  rfl

theorem load_of_loadsFrom (h : LoadsFrom nesting content dump) : load nesting content = .ok dump := by
  obtain ⟨hjson, hvalid⟩ := h
  rw [load_toUTF8, hjson]
  dsimp only
  rw [hvalid]

theorem exists_error_of_unusable (h : Unusable nesting content) :
    ∃ failure, load nesting content = .error failure := by
  cases h with
  | unread error => exact ⟨.access error, rfl⟩
  | notUtf8 h =>
    obtain ⟨fault, hfault⟩ := Utf8.exists_decode_eq_error_iff.mpr h
    refine ⟨.notUtf8 fault, ?_⟩
    show ofBytes nesting _ = _
    rw [ofBytes, hfault]
    rfl
  | @notJson text error h =>
    rw [load_toUTF8, h]
    cases error with
    | tooDeep => exact ⟨_, rfl⟩
    | tooManyDigits => exact ⟨_, rfl⟩
    | malformed => exact ⟨_, rfl⟩
  | notValid hjson h =>
    rw [load_toUTF8, hjson]
    dsimp only
    rw [h]
    exact ⟨_, rfl⟩

/-- There is no fifth way. -/
theorem loadsFrom_or_unusable (nesting : Nat) (content : Except AccessError (List UInt8)) :
    (∃ dump, LoadsFrom nesting content dump) ∨ Unusable nesting content := by
  cases content with
  | error error => exact .inr (.unread error)
  | ok bytes =>
    by_cases htext : ∃ text : String, text.toUTF8.toList = bytes
    · obtain ⟨text, rfl⟩ := htext
      cases hjson : readText nesting text with
      | error error => exact .inr (.notJson hjson)
      | ok json =>
        cases hcheck : check json with
        | valid dump => exact .inl ⟨dump, .intro hjson hcheck⟩
        | invalid issues => exact .inr (.notValid hjson hcheck)
    · exact .inr (.notUtf8 (not_exists.mp htext))

theorem load_eq_ok_iff : load nesting content = .ok dump ↔ LoadsFrom nesting content dump := by
  refine ⟨fun h => ?_, load_of_loadsFrom⟩
  rcases loadsFrom_or_unusable nesting content with ⟨dump', hloads⟩ | hunusable
  · rw [load_of_loadsFrom hloads] at h
    exact Except.ok.inj h ▸ hloads
  · obtain ⟨failure, hfailure⟩ := exists_error_of_unusable hunusable
    rw [hfailure] at h
    cases h

/-- A dump is loaded from a file that it has been written to. -/
theorem loadsFrom_toDump (hreadable : dump.toDump.IsReadable Decimal.digitLimit)
    (hdepth : dump.toDump.depth ≤ nesting) :
    dump.LoadsFrom nesting (.ok dump.toDump.render.toUTF8.toList) := by
  have hlines : '\r' ∉ dump.toDump.render.toList := by
    intro hmem
    have hprintable := Json.isOneLine_render hreadable '\r' hmem
    exact absurd hprintable (by decide)
  refine .intro ?_ (check_toDump dump)
  rw [readText, Text.uniformLines_eq_self hlines, String.ofList_toList]
  exact Json.parse_render hreadable hdepth

theorem exists_load_eq_error_iff :
    (∃ failure, load nesting content = .error failure) ↔ Unusable nesting content := by
  refine ⟨?_, exists_error_of_unusable⟩
  rintro ⟨failure, hfailure⟩
  rcases loadsFrom_or_unusable nesting content with ⟨dump, hloads⟩ | hunusable
  · rw [load_of_loadsFrom hloads] at hfailure
    cases hfailure
  · exact hunusable

end Dump
end DeclDocs
