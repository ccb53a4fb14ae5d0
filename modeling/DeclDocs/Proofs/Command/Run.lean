import DeclDocs.Command.Run
import DeclDocs.Proofs.Dump.Loading
import DeclDocs.Proofs.Export.Document
import DeclDocs.Proofs.Workspace.Writing

/-! # All or nothing

What a command prints or writes is the whole text of its document, or nothing.  Unless it ends
with the exit code 0 it prints nothing and leaves every file as it was
(`Command.leaves_nothing`).  If the dump cannot be loaded, the exit code is 1; if it can, there is
a document, and its text is what is printed and what is written.
-/
namespace DeclDocs
namespace Command

variable {runtime : Runtime} {options : Options} {settings : Settings} {workspace : Workspace}

/-- What can be seen of a command once it has ended. -/
structure Outcome.Leaves (outcome : Outcome) (exitCode : Nat) (printed : String)
    (workspace : Workspace) : Prop where
  exitCode_eq : outcome.ending.exitCode = exitCode
  printed_eq : outcome.printed = printed
  workspace_eq : outcome.workspace = workspace

/-- The text that a command has to print or to write, or how it ends without one, with the
notices on the way. -/
def prepared (runtime : Runtime) (options : Options) (settings : Settings)
    (workspace : Workspace) : Except Ending String × List Notice :=
  let path := dumpPath options settings
  prepare runtime options path (workspace.read path)

/-! ### The text of the document -/

theorem exitCode_reported {ending : Ending} (h : ending.exitCode = 1) :
    ending.reported.exitCode = 1 := by
  rw [Ending.reported]
  split
  next => rfl
  next => exact h

theorem prepared_of_unusable
    (h : Dump.Unusable runtime.reading (workspace.read (dumpPath options settings))) :
    ∃ ending, (prepared runtime options settings workspace).1 = .error ending ∧
      ending.exitCode = 1 := by
  obtain ⟨failure, hfailure⟩ := Dump.exists_load_eq_error_iff.mpr h
  refine ⟨(Ending.notLoaded (dumpPath options settings) failure).reported, ?_,
    exitCode_reported rfl⟩
  rw [prepared, prepare, hfailure]

theorem prepared_of_loadsFrom {dump : Dump} {document : Document Empty} {notices : List Notice}
    (h : dump.LoadsFrom runtime.reading (workspace.read (dumpPath options settings)))
    (hdocument : dump.host.document {} = .ok (document, notices)) :
    (prepared runtime options settings workspace).1 =
      .ok (document.render runtime.writing (encoding options)).1 := by
  rw [prepared, prepare, Dump.load_eq_ok_iff.mpr h]
  dsimp only
  rw [hdocument]

/-! ### What becomes of it -/

/-- Notifying adds to the notices, and does nothing else. -/
theorem notifyAll_inWorkspace (options : Options) (notices : List Notice) (scene : Scene) :
    (notifyAll inWorkspace options notices).run scene =
      ((), { scene with notices := scene.notices ++ notices.filter (shows options) }) := by
  rw [notifyAll]
  induction notices.filter (shows options) generalizing scene with
  | nil => rw [List.append_nil]; rfl
  | cons notice rest ih =>
    rw [← List.singleton_append, ← List.append_assoc]
    exact ih { scene with notices := scene.notices ++ [notice] }

theorem write_inWorkspace (path : Path) (content : List UInt8) (scene : Scene) :
    (inWorkspace.write path content).run scene =
      match scene.workspace.write path content with
      | .error error => (.error error, scene)
      | .ok after => (.ok (), { scene with workspace := after }) := rfl

theorem deliver_prints (hprints : options.toFile = false) (text : String) (scene : Scene) :
    (deliver inWorkspace options settings text).run scene =
      (.done, { scene with printed := scene.printed ++ (text ++ "\n") }) := by
  rw [deliver, hprints]
  rfl

section Writes
variable {text : String} {scene : Scene} (hwrites : options.toFile = true)
include hwrites

theorem deliver_writes {after : Workspace}
    (hafter : scene.workspace.write settings.output text.toUTF8.toList = .ok after) :
    (deliver inWorkspace options settings text).run scene =
      (.done, { scene with
        workspace := after
        notices := scene.notices ++ [wroteNotice settings.output].filter (shows options) }) := by
  rw [deliver, if_pos hwrites, StateT.run_bind, write_inWorkspace, hafter]
  exact congrArg (fun noted : Unit × Scene => (Ending.done, noted.2)) (notifyAll_inWorkspace ..)

theorem deliver_cannot_write {error : AccessError}
    (herror : scene.workspace.write settings.output text.toUTF8.toList = .error error) :
    (deliver inWorkspace options settings text).run scene =
      (.notWritten settings.output error, scene) := by
  rw [deliver, if_pos hwrites, StateT.run_bind, write_inWorkspace, herror]
  rfl

end Writes

theorem complain_inWorkspace (words? : Option String) (scene : Scene) :
    (words?.forM inWorkspace.complain).run scene =
      ((), { scene with complaints := scene.complaints ++ words?.toList }) := by
  cases words? with
  | none => rw [Option.toList_none, List.append_nil]; rfl
  | some words => rfl

/-- Complaining changes neither what has been printed nor any file. -/
theorem leaves_of_attempt {arguments : List String} {ending : Ending} {scene : Scene}
    (h : (attempt inWorkspace runtime arguments settings).run { workspace } = (ending, scene)) :
    (run runtime arguments settings workspace).Leaves ending.exitCode scene.printed
      scene.workspace := by
  have hcarried : (carryOut inWorkspace runtime arguments settings).run { workspace } =
      (ending, { scene with complaints := scene.complaints ++ ending.words?.toList }) := by
    rw [carryOut, StateT.run_bind, h]
    exact congrArg (fun told : Unit × Scene => (ending, told.2)) (complain_inWorkspace ..)
  rw [run, hcarried]
  exact ⟨rfl, rfl, rfl⟩

theorem leaves_of_misuse {arguments : List String} {error : UsageError}
    (h : Options.parse arguments = .error error) :
    (run runtime arguments settings workspace).Leaves 2 "" workspace := by
  have hattempt : (attempt inWorkspace runtime arguments settings).run { workspace } =
      (.misused error, { workspace }) := by
    rw [attempt, h]
    rfl
  exact leaves_of_attempt hattempt

section Parsed
variable {arguments : List String} (hparse : Options.parse arguments = .ok options)
include hparse

/-- A command notifies of what has been noticed on the way, and then delivers its text. -/
theorem attempt_of_parse (runtime : Runtime) (settings : Settings) (workspace : Workspace) :
    (attempt inWorkspace runtime arguments settings).run { workspace } =
      let scene : Scene :=
        { workspace
          notices := (prepared runtime options settings workspace).2.filter (shows options) }
      match (prepared runtime options settings workspace).1 with
      | .error ending => (ending, scene)
      | .ok text => (deliver inWorkspace options settings text).run scene := by
  rw [attempt, hparse]
  show StateT.run (do
    notifyAll inWorkspace options (prepared runtime options settings workspace).2
    match (prepared runtime options settings workspace).1 with
      | .error ending => return ending
      | .ok text => deliver inWorkspace options settings text) { workspace } = _
  rw [StateT.run_bind, notifyAll_inWorkspace]
  cases (prepared runtime options settings workspace).1 <;> rfl

theorem leaves_of_error {ending : Ending}
    (h : (prepared runtime options settings workspace).1 = .error ending) :
    (run runtime arguments settings workspace).Leaves ending.exitCode "" workspace := by
  have hattempt := attempt_of_parse hparse runtime settings workspace
  dsimp only at hattempt
  rw [h] at hattempt
  exact leaves_of_attempt hattempt

section Text
variable {text : String} (h : (prepared runtime options settings workspace).1 = .ok text)
include h

/-- If there is a text, delivering it is what is left to do. -/
theorem attempt_of_text :
    ∃ notices, (attempt inWorkspace runtime arguments settings).run { workspace } =
      (deliver inWorkspace options settings text).run { workspace, notices } := by
  have hattempt := attempt_of_parse hparse runtime settings workspace
  dsimp only at hattempt
  rw [h] at hattempt
  exact ⟨_, hattempt⟩

theorem leaves_of_prints (hprints : options.toFile = false) :
    (run runtime arguments settings workspace).Leaves 0 (text ++ "\n") workspace := by
  obtain ⟨notices, hattempt⟩ := attempt_of_text hparse h
  rw [deliver_prints hprints, String.empty_append] at hattempt
  exact leaves_of_attempt hattempt

theorem leaves_of_writes (hwrites : options.toFile = true) {after : Workspace}
    (hafter : workspace.write settings.output text.toUTF8.toList = .ok after) :
    (run runtime arguments settings workspace).Leaves 0 "" after := by
  obtain ⟨notices, hattempt⟩ := attempt_of_text hparse h
  rw [deliver_writes hwrites hafter] at hattempt
  exact leaves_of_attempt hattempt

theorem leaves_of_cannot_write (hwrites : options.toFile = true) {error : AccessError}
    (herror : workspace.write settings.output text.toUTF8.toList = .error error) :
    (run runtime arguments settings workspace).Leaves 1 "" workspace := by
  obtain ⟨notices, hattempt⟩ := attempt_of_text hparse h
  rw [deliver_cannot_write hwrites herror] at hattempt
  exact leaves_of_attempt hattempt

end Text

end Parsed

/-- Whatever it is given, a command that does not end well leaves nothing behind. -/
theorem leaves_nothing (runtime : Runtime) (arguments : List String) (settings : Settings)
    (workspace : Workspace) (h : (run runtime arguments settings workspace).ending.exitCode ≠ 0) :
    (run runtime arguments settings workspace).printed = "" ∧
      (run runtime arguments settings workspace).workspace = workspace := by
  cases hparse : Options.parse arguments with
  | error =>
    have hleaves : (run runtime arguments settings workspace).Leaves 2 "" workspace :=
      leaves_of_misuse hparse
    exact ⟨hleaves.printed_eq, hleaves.workspace_eq⟩
  | ok options =>
    cases hprepared : (prepared runtime options settings workspace).1 with
    | error ending =>
      have hleaves := leaves_of_error hparse hprepared
      exact ⟨hleaves.printed_eq, hleaves.workspace_eq⟩
    | ok text =>
      cases hfile : options.toFile with
      | false => exact absurd (leaves_of_prints hparse hprepared hfile).exitCode_eq h
      | true =>
        cases hwrite : workspace.write settings.output text.toUTF8.toList with
        | ok after => exact absurd (leaves_of_writes hparse hprepared hfile hwrite).exitCode_eq h
        | error =>
          have hleaves := leaves_of_cannot_write hparse hprepared hfile hwrite
          exact ⟨hleaves.printed_eq, hleaves.workspace_eq⟩

/-- **A command writes all or nothing, and the same text to either place.**  If what is at the
path of the dump is unusable, the exit code is 1, nothing is printed and no file is changed.  If
it is a dump, there is a document of it, and its text in the chosen encoding and within the limit
of the runtime, which depends on nothing else, is what the command prints, followed by a line
feed, with no file changed, or what it leaves as the content of the output file, with no other
file changed.  Only if the output file cannot be written does the command fail, and then it
leaves nothing behind. -/
theorem run_all_or_nothing :
    (∀ (runtime : Runtime) arguments options settings workspace,
      Options.parse arguments = .ok options →
      Dump.Unusable runtime.reading (workspace.read (dumpPath options settings)) →
        (run runtime arguments settings workspace).Leaves 1 "" workspace) ∧
    ∀ (dump : Dump) encoding, ∃ document notices,
      dump.host.document {} = .ok (document, notices) ∧
      ∀ (runtime : Runtime) arguments options settings workspace,
        Options.parse arguments = .ok options →
        Command.encoding options = encoding →
        dump.LoadsFrom runtime.reading (workspace.read (dumpPath options settings)) →
        let text := (document.render runtime.writing encoding).1
        let bytes := text.toUTF8.toList
        let outcome := run runtime arguments settings workspace
        (options.toFile = false → outcome.Leaves 0 (text ++ "\n") workspace) ∧
        (options.toFile = true →
          (∀ after, workspace.write settings.output bytes = .ok after →
            outcome.Leaves 0 "" after ∧ after.read settings.output = .ok bytes ∧
            ∃ place, workspace.place? settings.output = some place ∧
              ∀ other, other ≠ place → after.file? other = workspace.file? other) ∧
          ∀ error, workspace.write settings.output bytes = .error error →
            outcome.Leaves 1 "" workspace) := by
  constructor
  · intro runtime arguments options settings workspace hparse hunusable
    obtain ⟨ending, hending, hcode⟩ := prepared_of_unusable hunusable
    rw [← hcode]
    exact leaves_of_error hparse hending
  · intro dump encoding
    obtain ⟨document, notices, hassembles, -⟩ := dump.host_answersInventory.exists_assembles {}
    have hdocument := Host.document_eq_ok_iff.mpr ⟨_, hassembles⟩
    refine ⟨document, notices, hdocument, ?_⟩
    rintro runtime arguments options settings workspace hparse rfl hloads text bytes outcome
    have hprepared : (prepared runtime options settings workspace).1 = .ok text :=
      prepared_of_loadsFrom hloads hdocument
    refine ⟨leaves_of_prints hparse hprepared, fun hwrites => ⟨fun after hafter => ?_,
      fun error herror => leaves_of_cannot_write hparse hprepared hwrites herror⟩⟩
    obtain ⟨place, hplace, rfl⟩ := Workspace.write_eq_ok_iff.mp hafter
    have hread := Workspace.read_placing (Workspace.isPlace_of_place? hplace) bytes hplace
    rw [if_pos rfl] at hread
    refine ⟨leaves_of_writes hparse hprepared hwrites hafter, hread, place, hplace, ?_⟩
    intro other hother
    rw [Workspace.file?_placing, if_neg hother]

/-- A dump of one declaration, which is an instance. -/
def oneInstance : Dump where
  declarations :=
    [{ name := "i", kind := "definition", type := .str "c (x)", filename := some "f"
       line := some 7, attributes := ["instance"], instanceClass := some "c" }]

/-- The text of the document for this dump. -/
def oneInstanceText : String :=
  "\x7b\"decls\": [\x7b\"name\": \"i\", \"is_meta\": false, \"args\": [], \"type\": \"c (x)\", " ++
    "\"doc_string\": \"\", \"filename\": \"f\", \"line\": 7, \"attributes\": [\"instance\"], " ++
    "\"equations\": [], \"kind\": \"def\", \"structure_fields\": [], \"constructors\": []\x7d], " ++
    "\"mod_docs\": \x7b\x7d, \"notes\": [], \"tactic_docs\": [], \"instances\": \x7b\"c\": [\"i\"]\x7d\x7d"

/-- A workspace with this dump, with a file that is no dump, and with the output of another run. -/
def occupied : Workspace where
  files :=
    [(["environment.json"], oneInstance.toDump.render.toUTF8.toList),
     (["list.json"], "[]".toUTF8.toList), (["json_export.txt"], "old".toUTF8.toList)]

theorem run_all_or_nothing_occupied :
    let settings := Settings.ofVariables none none
    Dump.Unusable 1000 (occupied.read (.ofString "list.json")) ∧
      oneInstance.LoadsFrom 1000 (occupied.read settings.dump) ∧
      occupied.read settings.output = .ok "old".toUTF8.toList ∧
      (run .usual ["-e", "list.json"] settings occupied).Leaves 1 "" occupied ∧
      (run .usual [] settings occupied).Leaves 0 (oneInstanceText ++ "\n") occupied ∧
      ∃ after, (run .usual ["--to-file"] settings occupied).Leaves 0 "" after ∧
        after.read settings.output = .ok oneInstanceText.toUTF8.toList ∧
        after.file? ["environment.json"] = occupied.file? ["environment.json"] := by
  intro settings
  obtain ⟨hbad, hgood⟩ := run_all_or_nothing
  obtain ⟨document, notices, hdocument, hruns⟩ := hgood oneInstance .arrays
  have hunusable : Dump.Unusable 1000 (occupied.read (.ofString "list.json")) :=
    show Dump.Unusable 1000 (.ok "[]".toUTF8.toList) from .notValid rfl rfl
  have hreadable : oneInstance.toDump.IsReadable Decimal.digitLimit := by
    have hline : Decimal.digitCount (7 : Int).natAbs ≤ Decimal.digitLimit := by decide
    simp [oneInstance, Dump.toDump, Entry.toDump, Entry.namedToDump, Json.text?, Json.texts,
      Json.isReadable_arr_iff, Json.isReadable_obj_iff, Json.IsReadable.null,
      Json.IsReadable.bool, Json.IsReadable.str, Json.IsReadable.int _ hline]
  have hloads : oneInstance.LoadsFrom 1000 (occupied.read settings.dump) :=
    show oneInstance.LoadsFrom 1000 (.ok oneInstance.toDump.render.toUTF8.toList) from
      Dump.loadsFrom_toDump hreadable (by decide +kernel)
  have htext : (document.render Runtime.usual.writing .arrays).1 = oneInstanceText := by
    have hrender : (oneInstance.host.document {}).toOption.map (fun exported =>
        (exported.1.render Runtime.usual.writing .arrays).1) = some oneInstanceText := by
      decide +kernel
    rw [hdocument] at hrender
    exact Option.some.inj hrender
  obtain ⟨hprints, -⟩ := hruns .usual [] {} settings occupied rfl rfl hloads
  obtain ⟨-, hwrites⟩ := hruns .usual ["--to-file"] { toFile := true } settings occupied rfl rfl
    hloads
  rw [htext] at hprints hwrites
  obtain ⟨hfile, hread, place, hplace, hothers⟩ := (hwrites rfl).1 _ rfl
  obtain rfl : ["json_export.txt"] = place := Option.some.inj hplace
  exact ⟨hunusable, hloads, rfl,
    hbad .usual ["-e", "list.json"] { environment := some "list.json" } settings occupied rfl
      hunusable,
    hprints rfl, _, hfile, hread, hothers ["environment.json"] (by decide)⟩

end Command
end DeclDocs
