import DotDrawing.Proofs.Command.Run

/-!
Where settings come from.

Settings in a file are those that can be used, a fault of reading, or a fault of settings that names
the file (`comesFrom_readConfig`). Without a path the file is taken from the first place where
something is found. That is the first place with a file, unless something else stands in front of
it. Main statement: `loadConfig_discovery`.
-/

namespace DotDrawing.Command

lemma Sight.isThere_of_isFile {s : Sight} (h : s.isFile) : s.isThere := by
  cases s with
  | file bytes => rfl
  | nothing | directory => cases h

namespace View

variable {v : View} {path : String} {config : Config} {fault : FileFault}

/-! ### The file at a path -/

/-- The file at the path is a text with these settings, which can be used. -/
def HasSettings (v : View) (path : String) (config : Config) : Prop :=
  ∃ bytes text, v.look path = .file bytes ∧ Sight.decode bytes = .ok text ∧
    (Toml.read? text).bind (Config.ofValue? .ignored) = some config ∧ config.check = .ok ()

/-- The file at the path is no text. -/
def HasNoText (v : View) (path : String) (fault : FileFault) : Prop :=
  ∃ bytes, v.look path = .file bytes ∧ Sight.decode bytes = .error fault

/-- The result is what the path comes to: the settings in its file if they can be used, a fault of
reading if the file is no text, and else a fault of settings that names the path. -/
structure ComesFrom (v : View) (path : String) (result : Except Failure Config) : Prop where
  settings : ∀ config, result = .ok config ↔ v.HasSettings path config
  noText : ∀ fault, result = .error (.file fault) ↔ v.HasNoText path fault
  otherwise : (∀ config, ¬ v.HasSettings path config) → (∀ fault, ¬ v.HasNoText path fault) →
    ∃ fault, result = .error (.config fault) ∧ fault.path? = some path

lemma settingsIn_eq_ok_iff {text : String} : settingsIn path text = .ok config ↔
    (Toml.read? text).bind (Config.ofValue? .ignored) = some config ∧ config.check = .ok () := by
  constructor
  · intro h
    unfold settingsIn at h
    split at h
    · cases h
    · next found hread =>
      split at h
      · cases h
      · next hcheck =>
        cases h
        exact ⟨hread, hcheck⟩
  · rintro ⟨hread, hcheck⟩
    rw [settingsIn, hread]
    dsimp only
    rw [hcheck]

lemma readConfig_eq_ok_iff : v.readConfig path = .ok config ↔ v.HasSettings path config := by
  rw [readConfig_eq, HasSettings]
  cases v.look path with
  | nothing | directory => simp
  | file bytes => simp [bind_eq_ok_iff, mapError_eq_ok_iff, settingsIn_eq_ok_iff]

lemma settingsIn_ne_file {text : String} : settingsIn path text ≠ .error (.file fault) := by
  rcases settingsIn_cases path text with ⟨config, h, -⟩ | ⟨other, h, -⟩
  · rw [h]
    nofun
  · rw [h]
    nofun

lemma readConfig_eq_file_iff :
    v.readConfig path = .error (.file fault) ↔ v.HasNoText path fault := by
  rw [readConfig_eq, HasNoText]
  cases v.look path with
  | nothing | directory => simp
  | file bytes => simp [bind_eq_error_iff, mapError_eq_error_iff, settingsIn_ne_file]

lemma comesFrom_readConfig (v : View) (path : String) :
    v.ComesFrom path (v.readConfig path) where
  settings _ := readConfig_eq_ok_iff
  noText _ := readConfig_eq_file_iff
  otherwise hsettings htext := by
    rcases readConfig_cases v path with ⟨config, h, -⟩ | ⟨fault, h⟩ | h
    · exact absurd (readConfig_eq_ok_iff.1 h) (hsettings config)
    · exact absurd (readConfig_eq_file_iff.1 h) (htext fault)
    · exact h

lemma readConfig_of_not_isFile (h : ¬ (v.look path).isFile) :
    v.readConfig path = .error (.config (.missingFile path)) := by
  rw [readConfig_eq]
  cases hlook : v.look path with
  | nothing | directory => rfl
  | file bytes =>
    rw [hlook] at h
    exact absurd rfl h

/-! ### The first place -/

/-- The first place with a file. -/
def filePath? (v : View) : Option String := v.places.find? fun path => (v.look path).isFile

lemma configPath?_eq_filePath? (h : ∀ path, v.configPath? none = some path → (v.look path).isFile) :
    v.configPath? none = v.filePath? := by
  rw [configPath?] at h ⊢
  rw [filePath?]
  generalize v.places = places at h ⊢
  induction places with
  | nil => rfl
  | cons place places ih =>
    rw [List.find?_cons] at h ⊢
    rw [List.find?_cons]
    cases hthere : (v.look place).isThere with
    | true =>
      -- the first place with something in it holds a file
      have hfile : (v.look place).isFile := h place (by rw [hthere])
      rw [hfile]
    | false =>
      have hfile : (v.look place).isFile = false := by
        rw [Bool.eq_false_iff]
        intro hfile
        rw [Sight.isThere_of_isFile hfile] at hthere
        cases hthere
      rw [hthere] at h
      rw [hfile]
      exact ih h

/-- **Discovery of settings**: a path that is given decides alone about the settings. Without one
the settings come from the first file among the places, and they are the standard ones when no place
has a file, as long as what is found first is a file. Otherwise this place is reported as missing.
The places are that in the working directory and, if there is a directory for the settings of all
programs, that in it. -/
theorem loadConfig_discovery (v : View) :
    (∀ path, v.ComesFrom path (v.loadConfig (some path))) ∧
    ((∀ path, v.configPath? none = some path → (v.look path).isFile) →
      (∀ path, v.filePath? = some path → v.ComesFrom path (v.loadConfig none)) ∧
        (v.filePath? = none → v.loadConfig none = .ok Config.standard)) ∧
    (∀ path, v.configPath? none = some path → ¬ (v.look path).isFile →
      v.loadConfig none = .error (.config (.missingFile path))) ∧
    ∀ w : World, w.view.places = localPlace :: (w.settings?.map placeIn).toList := by
  refine ⟨comesFrom_readConfig v, fun hfirst => ⟨?_, ?_⟩, ?_, fun w => rfl⟩
  · intro path hpath
    rw [loadConfig_eq, configPath?_eq_filePath? hfirst, hpath]
    exact comesFrom_readConfig v path
  · intro hnone
    rw [loadConfig_eq, configPath?_eq_filePath? hfirst, hnone]
    rfl
  · intro path hpath hfile
    rw [loadConfig_eq, hpath]
    exact readConfig_of_not_isFile hfile

/-- A world with settings in the second place only. -/
def secondPlace : World where
  files := Files.empty.addFile "home/dotviz/config.toml" "[style]\narrow_size = 9".toUTF8
  stdin := .empty
  stdout := ""
  settings? := some "home"

/-- The same world with a directory at the first place. -/
def blockedPlace : World :=
  { secondPlace with files := secondPlace.files.addDirectory localPlace }

/-- The settings of the second place. -/
def largeArrows : Config :=
  { Config.standard with style := { Config.defaultStyle with arrowSize := 9 } }

/-- The settings come from the second place unless a directory stands at the first. -/
theorem loadConfig_discovery_secondPlace :
    (∀ path, secondPlace.view.configPath? none = some path →
      (secondPlace.view.look path).isFile) ∧
    secondPlace.view.filePath? = some (placeIn "home") ∧
    secondPlace.view.loadConfig none = .ok largeArrows ∧
    (blockedPlace.view.configPath? none = some localPlace ∧
      ¬ (blockedPlace.view.look localPlace).isFile) ∧
    blockedPlace.view.loadConfig none = .error (.config (.missingFile localPlace)) := by
  have hfound : secondPlace.view.configPath? none = some (placeIn "home") := by decide +kernel
  have hfirst : ∀ path, secondPlace.view.configPath? none = some path →
      (secondPlace.view.look path).isFile := by
    intro path hpath
    rw [hfound] at hpath
    cases hpath
    decide +kernel
  have hfile : secondPlace.view.filePath? = some (placeIn "home") := by decide +kernel
  have hsettings : secondPlace.view.HasSettings (placeIn "home") largeArrows := by
    refine ⟨"[style]\narrow_size = 9".toUTF8, "[style]\narrow_size = 9", ?_, ?_, ?_, ?_⟩
    · rfl
    · rfl
    · decide +kernel
    · rfl
  have hblocked : blockedPlace.view.configPath? none = some localPlace := by decide +kernel
  have hdirectory : ¬ (blockedPlace.view.look localPlace).isFile := by decide +kernel
  obtain ⟨-, hnone, -⟩ := loadConfig_discovery secondPlace.view
  obtain ⟨-, -, hmissing, -⟩ := loadConfig_discovery blockedPlace.view
  exact ⟨hfirst, hfile, (((hnone hfirst).1 _ hfile).settings _).2 hsettings,
    ⟨hblocked, hdirectory⟩, hmissing _ hblocked hdirectory⟩

/-- Not every world without a file among the places has the standard settings: a directory where a
file should be stands in the way. -/
theorem not_loadConfig_standard : ¬ ∀ w : World,
    (∀ path ∈ w.view.places, ¬ (w.view.look path).isFile) →
      w.view.loadConfig none = .ok Config.standard := by
  intro h
  have hnone : ∀ path ∈ (World.view { blockedPlace with settings? := none }).places,
      ¬ ((World.view { blockedPlace with settings? := none }).look path).isFile := by
    decide +kernel
  have hmissing : (World.view { blockedPlace with settings? := none }).loadConfig none =
      .error (.config (.missingFile localPlace)) := by
    rfl
  cases hmissing.symm.trans (h _ hnone)

end View

end DotDrawing.Command
