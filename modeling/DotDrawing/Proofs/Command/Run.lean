import DotDrawing.Command.Run
import DotDrawing.Proofs.Command.Files

/-!
All or nothing.

Each stage of a run fails by itself or not (`World.failureAt?`), whatever comes of the others. A run
comes to the failure of the first stage that fails, with the world as it was, or else every stage
goes well and the text is delivered (`World.run_cases`). Main statement: `World.run_all_or_nothing`.
-/

namespace DotDrawing

/-! ### Settings that can be used -/

/-- The file whose settings are at fault. -/
def ConfigFault.path? : ConfigFault → Option String
  | unusable _ => none
  | missingFile path | malformedFile path | unusableFile path _ => some path

lemma Format.eq_unsupportedFormat_of_named {name : String} {failure : Failure}
    (h : Format.named name = .error failure) : failure = .unsupportedFormat name := by
  unfold Format.named at h
  split at h
  · cases h
  · cases h
    rfl

lemma Config.check_standard : Config.standard.check = .ok () := rfl

lemma Config.exists_drawSource {c : Config} (h : c.check = .ok ()) (source : String)
    (format : Format) : ∃ text, c.drawSource source format = .ok text := by
  cases format with
  | svg =>
    refine ⟨((c.scene (Graph.parse source)).drawing c).text, ?_⟩
    rw [drawSource, drawGraph, draw, h]
    rfl

lemma Config.eq_unsupportedFormat_of_render {c : Config} (h : c.check = .ok ())
    {source format : String} {failure : Failure} (hr : c.render source format = .error failure) :
    failure = .unsupportedFormat format := by
  cases hformat : Format.named format with
  | error failure' =>
    rw [render, hformat] at hr
    cases hr
    exact Format.eq_unsupportedFormat_of_named hformat
  | ok f =>
    obtain ⟨text, htext⟩ := exists_drawSource h source f
    rw [render, hformat] at hr
    cases htext.symm.trans hr

namespace Command

namespace View

variable {v : View} {path : String} {config : Config}

/-- The file that the settings come from, if they come from a file. -/
def configPath? (v : View) : Option String → Option String
  | some path => some path
  | none => v.places.find? fun path => (v.look path).isThere

lemma loadConfig_eq (v : View) (config? : Option String) : v.loadConfig config? =
    (v.configPath? config?).elim (.ok Config.standard) v.readConfig := by
  cases config? with
  | some path => rfl
  | none =>
    rw [loadConfig, configPath?]
    cases v.places.find? fun path => (v.look path).isThere <;> rfl

/-- What the text of the file at a path comes to as settings. -/
def settingsIn (path text : String) : Except Failure Config :=
  match (Toml.read? text).bind (Config.ofValue? .ignored) with
  | none => .error (.config (.malformedFile path))
  | some config =>
    match config.check with
    | .error fault => .error (.config (.unusableFile path fault))
    | .ok () => .ok config

lemma readConfig_eq (v : View) (path : String) : v.readConfig path =
    match v.look path with
    | .file bytes => (Sight.decode bytes).mapError Failure.file >>= settingsIn path
    | _ => .error (.config (.missingFile path)) := by
  unfold readConfig
  cases v.look path with
  | nothing fault => rfl
  | directory => rfl
  | file bytes =>
    dsimp only [Sight.read]
    cases Sight.decode bytes <;> rfl

lemma settingsIn_cases (path text : String) :
    (∃ config, settingsIn path text = .ok config ∧ config.check = .ok ()) ∨
      ∃ fault, settingsIn path text = .error (.config fault) ∧ fault.path? = some path := by
  unfold settingsIn
  split
  · exact Or.inr ⟨_, rfl, rfl⟩
  · split
    · exact Or.inr ⟨_, rfl, rfl⟩
    · next hcheck => exact Or.inl ⟨_, rfl, hcheck⟩

lemma readConfig_cases (v : View) (path : String) :
    (∃ config, v.readConfig path = .ok config ∧ config.check = .ok ()) ∨
      (∃ fault, v.readConfig path = .error (.file fault)) ∨
      ∃ fault, v.readConfig path = .error (.config fault) ∧ fault.path? = some path := by
  rw [readConfig_eq]
  split
  · next bytes _ =>
    cases Sight.decode bytes with
    | error fault => exact Or.inr (Or.inl ⟨fault, rfl⟩)
    | ok text => exact (settingsIn_cases path text).imp_right Or.inr
  · exact Or.inr (Or.inr ⟨_, rfl, rfl⟩)

lemma check_of_loadConfig {config? : Option String} (h : v.loadConfig config? = .ok config) :
    config.check = .ok () := by
  rw [loadConfig_eq] at h
  cases hpath : v.configPath? config? with
  | none =>
    rw [hpath] at h
    cases h
    exact Config.check_standard
  | some path =>
    rw [hpath, Option.elim_some] at h
    rcases readConfig_cases v path with ⟨c, hc, hcheck⟩ | ⟨_, hc⟩ | ⟨_, hc, -⟩
    · rw [hc] at h
      cases h
      exact hcheck
    · cases hc.symm.trans h
    · cases hc.symm.trans h

lemma exists_path_of_loadConfig {config? : Option String} {fault : ConfigFault}
    (h : v.loadConfig config? = .error (.config fault)) :
    ∃ path, v.configPath? config? = some path ∧ fault.path? = some path ∧
      v.readConfig path = .error (.config fault) := by
  rw [loadConfig_eq] at h
  cases hpath : v.configPath? config? with
  | none =>
    rw [hpath] at h
    cases h
  | some path =>
    rw [hpath, Option.elim_some] at h
    rcases readConfig_cases v path with ⟨_, hc, -⟩ | ⟨_, hc⟩ | ⟨fault', hc, hname⟩
    · cases hc.symm.trans h
    · cases hc.symm.trans h
    · have heq := hc.symm.trans h
      simp only [Except.error.injEq, Failure.config.injEq] at heq
      subst heq
      exact ⟨path, rfl, hname, h⟩

end View

/-! ### Stages of a run -/

/-- What a run does, in order. -/
inductive Stage
  | format
  | settings
  | input
  | output
  deriving DecidableEq, Repr

def Stage.all : List Stage := [format, settings, input, output]

/-- Why there is no result, if there is none. -/
def failure? {α : Type} : Except Failure α → Option Failure
  | .error failure => some failure
  | .ok _ => none

lemma failure?_eq_some_iff {α : Type} {x : Except Failure α} {failure : Failure} :
    failure? x = some failure ↔ x = .error failure := by
  cases x <;> simp [failure?]

namespace World

variable {w w' : World} {a : Arguments} {path text : String}

/-- Why a stage of a run fails by itself. The output fails when not even an empty text can be
written. -/
def failureAt? (w : World) (a : Arguments) : Stage → Option Failure
  | .format => failure? (Format.named a.format)
  | .settings => failure? (w.view.loadConfig a.config?)
  | .input => failure? (w.view.readInput a.input)
  | .output => failure? (w.deliver a.output "")

lemma mapError_file_ne {α : Type} (x : Except FileFault α) (fault : ConfigFault) :
    x.mapError Failure.file ≠ .error (.config fault) := by
  cases x <;> nofun

lemma deliver_ne (w : World) (path text : String) (fault : ConfigFault) :
    w.deliver path text ≠ .error (.config fault) := by
  unfold deliver
  split
  · nofun
  · cases w.files.write path text <;> nofun

lemma loadConfig_of_failureAt? {stage : Stage} {fault : ConfigFault}
    (h : w.failureAt? a stage = some (.config fault)) :
    w.view.loadConfig a.config? = .error (.config fault) := by
  cases stage with
  | format =>
    rw [failureAt?, failure?_eq_some_iff] at h
    cases Format.eq_unsupportedFormat_of_named h
  | settings => rwa [failureAt?, failure?_eq_some_iff] at h
  | input =>
    rw [failureAt?, failure?_eq_some_iff, View.readInput] at h
    exact absurd h (mapError_file_ne _ fault)
  | output =>
    rw [failureAt?, failure?_eq_some_iff] at h
    exact absurd h (deliver_ne w a.output "" fault)

/-! ### What a run reads -/

/-- The text is the content of the file at the path, or of the standard input. -/
def HasInput (w : World) (path text : String) : Prop :=
  ∃ bytes, (if path = standardStream then w.stdin = bytes else w.files.look path = .file bytes) ∧
    String.fromUTF8? bytes = some text

lemma decode_eq_ok_iff {bytes : ByteArray} :
    Sight.decode bytes = .ok text ↔ String.fromUTF8? bytes = some text := by
  unfold Sight.decode
  cases String.fromUTF8? bytes <;> simp

lemma readInput_eq_ok_iff : w.view.readInput path = .ok text ↔ w.HasInput path text := by
  rw [View.readInput, mapError_eq_ok_iff, HasInput]
  by_cases hpath : path = standardStream
  · -- all of the standard input is read
    rw [if_pos hpath, decode_eq_ok_iff]
    simp only [hpath, if_true, exists_eq_left']
    rfl
  · rw [if_neg hpath]
    simp only [hpath, if_false]
    change (w.files.look path).read = .ok text ↔ _
    cases w.files.look path <;> simp [Sight.read, decode_eq_ok_iff]

/-! ### What a run writes -/

/-- Behind the text the worlds are the same: it is at the end of the standard output, or else in the
file at the path. -/
def Delivered (w w' : World) (path text : String) : Prop :=
  if path = standardStream then w' = { w with stdout := w.stdout ++ text }
  else ∃ files, w' = { w with files } ∧ w.files.Replaces files path text.toUTF8

lemma delivered_of_deliver (h : w.deliver path text = .ok w') : w.Delivered w' path text := by
  unfold deliver at h
  unfold Delivered
  split at h
  · next hpath =>
    cases h
    rw [if_pos hpath]
  · next hpath =>
    rw [if_neg hpath]
    cases hwrite : w.files.write path text with
    | error fault =>
      rw [hwrite] at h
      cases h
    | ok files =>
      rw [hwrite] at h
      cases h
      exact ⟨files, rfl, Files.replaces_of_write hwrite⟩

lemma failure?_deliver (w : World) (path text : String) :
    failure? (w.deliver path text) = failure? (w.deliver path "") := by
  unfold deliver
  split
  · rfl
  · rw [Files.write_eq, Files.write_eq]
    cases w.files.target path <;> rfl

/-! ### Runs -/

/-- A run comes to its first failure and leaves the world as it was, or no stage fails and the
drawing is delivered. -/
lemma run_cases (w : World) (a : Arguments) :
    (∃ failure, Stage.all.findSome? (w.failureAt? a) = some failure ∧
      w.run a = (.error failure, w)) ∨
    (Stage.all.findSome? (w.failureAt? a) = none ∧ ∃ config source text w',
      w.view.loadConfig a.config? = .ok config ∧ w.view.readInput a.input = .ok source ∧
        config.render source a.format = .ok text ∧ w.deliver a.output text = .ok w' ∧
        w.run a = (.ok (), w')) := by
  -- in the order of the stages; nothing is written before the last one
  cases hformat : Format.named a.format with
  | error failure =>
    refine Or.inl ⟨failure, by simp [Stage.all, failureAt?, hformat, failure?], ?_⟩
    rw [run, View.prepare, hformat]
    rfl
  | ok format =>
    cases hconfig : w.view.loadConfig a.config? with
    | error failure =>
      refine Or.inl ⟨failure, by simp [Stage.all, failureAt?, hformat, hconfig, failure?], ?_⟩
      rw [run, View.prepare, hformat, hconfig]
      rfl
    | ok config =>
      cases hinput : w.view.readInput a.input with
      | error failure =>
        refine Or.inl
          ⟨failure, by simp [Stage.all, failureAt?, hformat, hconfig, hinput, failure?], ?_⟩
        rw [run, View.prepare, hformat, hconfig, hinput]
        rfl
      | ok source =>
        -- settings that were loaded lead to a drawing
        obtain ⟨text, htext⟩ :=
          Config.exists_drawSource (View.check_of_loadConfig hconfig) source format
        have hprepare : w.view.prepare a = .ok text := by
          rw [View.prepare, hformat, hconfig, hinput]
          exact htext
        have hrender : config.render source a.format = .ok text := by
          rw [Config.render, hformat]
          exact htext
        -- whether the output fails does not depend on the text
        have hstages : Stage.all.findSome? (w.failureAt? a) =
            failure? (w.deliver a.output text) := by
          rw [failure?_deliver]
          simp [Stage.all, failureAt?, hformat, hconfig, hinput, failure?]
        rw [hstages, run, hprepare]
        dsimp only
        cases hdeliver : w.deliver a.output text with
        | error failure => exact Or.inl ⟨failure, rfl, rfl⟩
        | ok w' =>
          exact Or.inr ⟨rfl, config, source, text, w', rfl, rfl, hrender, hdeliver, rfl⟩

/-- **All or nothing**: a run comes to the failure of its first stage that fails, and then the world
is as it was. When no stage fails, the drawing of the source that was at the input, with the settings
that were loaded, is delivered, and nothing else is changed. The source is read exactly when the
bytes at the input are a text. Settings that are loaded can be used, so that a drawing fails for its
format only, and a fault of settings is one of the file that they come from. -/
theorem run_all_or_nothing (w : World) (a : Arguments) :
    (w.run a).1 = (Stage.all.findSome? (w.failureAt? a)).elim (.ok ()) .error ∧
      (∀ failure, (w.run a).1 = .error failure → (w.run a).2 = w) ∧
      ((w.run a).1 = .ok () → ∃ config source text,
        w.view.loadConfig a.config? = .ok config ∧ w.HasInput a.input source ∧
          config.render source a.format = .ok text ∧ w.Delivered (w.run a).2 a.output text) ∧
      (∀ source, w.view.readInput a.input = .ok source ↔ w.HasInput a.input source) ∧
      (∀ config? config, w.view.loadConfig config? = .ok config → config.check = .ok () ∧
        ∀ source format failure, config.render source format = .error failure →
          failure = .unsupportedFormat format) ∧
      ∀ fault, (w.run a).1 = .error (.config fault) →
        ∃ path, w.view.configPath? a.config? = some path ∧ fault.path? = some path ∧
          w.view.readConfig path = .error (.config fault) := by
  have hsettings : ∀ config? config, w.view.loadConfig config? = .ok config →
      config.check = .ok () ∧ ∀ source format failure,
        config.render source format = .error failure → failure = .unsupportedFormat format := by
    intro config? config h
    have hcheck := View.check_of_loadConfig h
    exact ⟨hcheck, fun _ _ _ => Config.eq_unsupportedFormat_of_render hcheck⟩
  rcases run_cases w a with ⟨failure, hstages, hrun⟩ |
    ⟨hstages, config, source, text, w', hconfig, hsource, htext, hdeliver, hrun⟩
  · -- a stage has failed, and only the settings fail with a fault of settings
    rw [hstages, hrun]
    refine ⟨rfl, fun _ _ => rfl, nofun, fun _ => readInput_eq_ok_iff, hsettings, ?_⟩
    rintro fault ⟨⟩
    obtain ⟨stage, -, hstage⟩ := List.exists_of_findSome?_eq_some hstages
    exact View.exists_path_of_loadConfig (loadConfig_of_failureAt? hstage)
  · -- the drawing is delivered
    rw [hstages, hrun]
    exact ⟨rfl, nofun, fun _ => ⟨config, source, text, hconfig, readInput_eq_ok_iff.1 hsource, htext,
      delivered_of_deliver hdeliver⟩, fun _ => readInput_eq_ok_iff, hsettings, nofun⟩

/-- Settings of one key that nothing asks for, and a source with one statement. -/
def twoTongues : String := "a = \"b\" # ; c -> d;"

/-- A world with one file in a directory. -/
def oneFile : World where
  files := Files.empty.addFile "dir/all" twoTongues.toUTF8
  stdin := .empty
  stdout := ""
  settings? := none

/-- Arguments by which one file has the settings and the source and is to have the drawing. -/
def toItself : Arguments where
  input := "dir/all"
  output := "./dir//all"
  config? := some "dir/../dir/all"

/-- The drawing takes the place of the settings and of the source that it was made from, unless its
format is none. -/
theorem run_all_or_nothing_toItself :
    (oneFile.run toItself).1 = .ok () ∧ (Graph.parse twoTongues).nodeIds = ["c", "d"] ∧
      (∃ text, Config.standard.render twoTongues "svg" = .ok text ∧
        oneFile.Delivered (oneFile.run toItself).2 "./dir//all" text) ∧
      (oneFile.run { toItself with format := "png" }).1 = .error (.unsupportedFormat "png") ∧
      (oneFile.run { toItself with format := "png" }).2 = oneFile := by
  obtain ⟨hrun, -, hok, hinput, -⟩ := run_all_or_nothing oneFile toItself
  have hstages : Stage.all.findSome? (oneFile.failureAt? toItself) = none := by decide +kernel
  rw [hstages] at hrun
  obtain ⟨config, source, text, hconfig, hsource, htext, hdelivered⟩ := hok hrun
  have hstandard : (oneFile.view.loadConfig toItself.config?).toOption = some Config.standard := by
    decide +kernel
  have hread : (oneFile.view.readInput toItself.input).toOption = some twoTongues := by
    decide +kernel
  rw [hconfig] at hstandard
  rw [(hinput source).2 hsource] at hread
  cases hstandard
  cases hread
  obtain ⟨hrun', hfail, -⟩ := run_all_or_nothing oneFile { toItself with format := "png" }
  have hfirst : Stage.all.findSome? (oneFile.failureAt? { toItself with format := "png" }) =
      some (.unsupportedFormat "png") := by decide +kernel
  rw [hfirst] at hrun'
  exact ⟨hrun, by decide +kernel, ⟨text, htext, hdelivered⟩, hrun', hfail _ hrun'⟩

end World

end Command

end DotDrawing
