import FlatKnit.Proofs.Settings.RoundTrip

/-! Settings files: valid settings are loaded and saved, and a refusal changes no file. -/

namespace FlatKnit

namespace FileTree

/-- A file can be written: the folders above it can be created, and no folder is in its place. -/
def Permits (tree : FileTree) (path : String) : Prop :=
  ∃ above place, tree.createFolder (folderPath path) = (above, .ok ()) ∧
    above.resolve path = .ok place ∧ above.isFolder place = false

variable {tree : FileTree} {path : String}

/-- A text is written wherever a file can be written. -/
theorem write_of_permits (permits : tree.Permits path) (text : String) :
    ∃ written, tree.write path text = (written, .ok ()) := by
  obtain ⟨above, place, created, resolved, free⟩ := permits
  exact ⟨above.put place text, by simp [write, created, writeFile, resolved, free]⟩

end FileTree

namespace FileFormat

/-- A path ends in one of the extensions of settings files. -/
def Supports (path : String) : Prop :=
  pathExtension path = some "json" ∨ pathExtension path = some "toml"

instance (path : String) : Decidable (Supports path) :=
  inferInstanceAs (Decidable (_ ∨ _))

variable {path : String}

/-- A path with such an extension has a format. -/
theorem ofPath_of_supports (supported : Supports path) :
    ∃ document, ofPath path = .ok document := by
  rcases supported with extension | extension
  · exact ⟨.json, by simp [ofPath, extension]⟩
  · exact ⟨.toml, by simp [ofPath, extension]⟩

/-- Any other path has none, and its extension is told. -/
theorem ofPath_of_not_supports (unsupported : ¬ Supports path) :
    ofPath path = .error (.unsupportedFormat (pathExtension path)) := by
  -- The two extensions are the only ones that are matched.
  obtain ⟨notJson, notToml⟩ := not_or.mp unsupported
  unfold ofPath
  split
  case h_1 extension => exact absurd extension notJson
  case h_2 extension => exact absurd extension notToml
  case h_3 => rfl

end FileFormat

namespace TextLayer

variable {layer : TextLayer} {settings : Settings} {tree : FileTree} {path : String}

/-- A file holds settings: its text says them in the format of its path, and they are valid. -/
def HeldBy (layer : TextLayer) (settings : Settings) (tree : FileTree) (path : String) : Prop :=
  ∃ document text, FileFormat.ofPath path = .ok document ∧ tree.read path = .ok text ∧
    layer.parse document text = .ok settings ∧ settings.Valid

/-- Settings are loaded exactly from the files that hold them. -/
theorem load_eq_ok_iff : layer.load tree path = .ok settings ↔ layer.HeldBy settings tree path := by
  -- Loading is a chain, and a file holds settings when every step of it gives a result.
  simp only [load, bind_eq_ok_iff, mapError_eq_ok_iff, Settings.checked_eq_ok_iff]
  constructor
  · rintro ⟨document, format, text, read, said, parsed, valid, rfl⟩
    exact ⟨document, text, format, read, parsed, valid⟩
  · rintro ⟨document, text, format, read, parsed, valid⟩
    exact ⟨document, format, text, read, settings, parsed, valid, rfl⟩

/-- A file that holds no settings is not loaded. -/
theorem load_of_not_heldBy (broken : ∀ settings, ¬ layer.HeldBy settings tree path) :
    ∃ error, layer.load tree path = .error error := by
  cases loaded : layer.load tree path with
  | error error => exact ⟨error, rfl⟩
  | ok settings => exact absurd (load_eq_ok_iff.mp loaded) (broken settings)

/-- A run that finds a file at the default path takes what it loads from there. -/
theorem loadOrStandard_of_isFile {folder : String}
    (present : tree.isFile (Settings.defaultPath folder) = true) :
    layer.loadOrStandard tree (some folder) none =
      layer.load tree (Settings.defaultPath folder) :=
  if_pos present

/-- Settings without a text for their file are not saved, and all files stay as they are. -/
theorem save_of_error {error : SettingsError}
    (refused : layer.renderAt settings path = .error error) :
    layer.save settings path tree = (tree, .error error) := by
  rw [save, refused]

/-- Settings with a fault have no text, whatever the path is. -/
theorem renderAt_of_fault {fault : SettingsError} (invalid : settings.checked = .error fault) :
    layer.renderAt settings path = .error fault := by
  rw [renderAt, invalid, error_bind]

/-- Under a path without a format, no settings have a text. -/
theorem renderAt_of_not_supports (unsupported : ¬ FileFormat.Supports path) :
    ∃ error, layer.renderAt settings path = .error error := by
  -- The settings are checked before the format is asked for, so a fault of theirs is told first.
  cases checked : settings.checked with
  | error fault => exact ⟨fault, renderAt_of_fault checked⟩
  | ok passed =>
    rw [renderAt, checked, ok_bind, FileFormat.ofPath_of_not_supports unsupported]
    exact ⟨_, rfl⟩

/-- Valid settings have a text in the format of the path. -/
theorem renderAt_of_valid {document : FileFormat} (passes : settings.checked = .ok settings)
    (format : FileFormat.ofPath path = .ok document) :
    layer.renderAt settings path = .ok (layer.render document settings) := by
  rw [renderAt, passes, ok_bind, format, ok_bind]
  rfl

/-- What is rendered and can be written is saved. -/
theorem save_of_write {text : String} {written : FileTree}
    (rendered : layer.renderAt settings path = .ok text)
    (done : tree.write path text = (written, .ok ())) :
    layer.save settings path tree = (written, .ok ()) := by
  simp only [save, rendered, done]
  rfl

/-- A file that was saved holds its settings, if the layer keeps them. -/
theorem heldBy_of_save {document : FileFormat} {written : FileTree}
    (format : FileFormat.ofPath path = .ok document) (keeps : layer.Keeps document settings)
    (saved : layer.save settings path tree = (written, .ok ())) :
    layer.HeldBy settings written path :=
  load_eq_ok_iff.mp (Settings.load_of_save format keeps saved)

end TextLayer

namespace Settings

/--
Only valid settings are loaded, and only valid settings are saved.

Settings with a fault are not saved, and neither are any under a path whose extension is not that
of a settings file: the tree stays as it is. All others are saved where a file can be written, and
the file then holds them if the text layer gives back their tree. A file that is asked for, or that
is at the default path, is never passed over when it is broken.
-/
theorem guarded (layer : TextLayer) (tree : FileTree) (folder : Option String) :
    (∀ path settings, layer.load tree path = .ok settings → settings.checked = .ok settings) ∧
    (∀ path settings, layer.loadOrStandard tree folder path = .ok settings →
      settings.checked = .ok settings) ∧
    (∀ (settings : Settings) path fault, settings.checked = .error fault →
      layer.save settings path tree = (tree, .error fault)) ∧
    (∀ (settings : Settings) path, ¬ FileFormat.Supports path →
      ∃ error, layer.save settings path tree = (tree, .error error)) ∧
    (∀ (settings : Settings) path, settings.checked = .ok settings → FileFormat.Supports path →
      tree.Permits path → ∃ document written, FileFormat.ofPath path = .ok document ∧
        layer.save settings path tree = (written, .ok ()) ∧
        written.read path = .ok (layer.render document settings) ∧
        (layer.Keeps document settings → layer.HeldBy settings written path)) ∧
    (∀ path, (∀ settings, ¬ layer.HeldBy settings tree path) →
      ∃ error, layer.loadOrStandard tree folder (some path) = .error error) ∧
    (∀ place, folder = some place → tree.isFile (defaultPath place) = true →
      (∀ settings, ¬ layer.HeldBy settings tree (defaultPath place)) →
      ∃ error, layer.loadOrStandard tree folder none = .error error) := by
  -- Loading checks what it has read, and saving checks before it writes, so that either way the
  -- check is met first.
  refine ⟨?_, ?_, ?_, ?_, ?_, ?_, ?_⟩
  · exact fun path settings loaded => checked_eq_ok_iff.mpr ⟨valid_of_load loaded, rfl⟩
  · exact fun path settings loaded => checked_eq_ok_iff.mpr ⟨valid_of_loadOrStandard loaded, rfl⟩
  · exact fun settings path fault invalid =>
      TextLayer.save_of_error (TextLayer.renderAt_of_fault invalid)
  · intro settings path unsupported
    obtain ⟨error, refused⟩ := TextLayer.renderAt_of_not_supports unsupported
    exact ⟨error, TextLayer.save_of_error refused⟩
  · intro settings path passes supported permits
    obtain ⟨document, format⟩ := FileFormat.ofPath_of_supports supported
    obtain ⟨written, done⟩ := FileTree.write_of_permits permits (layer.render document settings)
    have saved := TextLayer.save_of_write (TextLayer.renderAt_of_valid passes format) done
    exact ⟨document, written, format, saved, FileTree.read_of_write done,
      fun keeps => TextLayer.heldBy_of_save format keeps saved⟩
  · -- A file that is asked for is loaded, whatever stands at the default path.
    intro path broken
    cases folder <;> exact TextLayer.load_of_not_heldBy broken
  · -- A file at the default path is loaded, and the standard is not asked for.
    rintro place rfl present broken
    rw [TextLayer.loadOrStandard_of_isFile present]
    exact TextLayer.load_of_not_heldBy broken

/-- A tree with two broken files: the one at the default path, and one that is no text. -/
def brokenHome : FileTree :=
  ⟨[(["xdg", "knitkit", "config.toml"], "[gauge"), (["yarn.toml"], .bytes)], []⟩

/-- There is a file at the default path. -/
theorem resolve_brokenHome : brokenHome.resolve (defaultPath "xdg") =
    .ok ["xdg", "knitkit", "config.toml"] := by
  rw [FileTree.resolve_eq_walk brokenHome (by decide)]
  rfl

/-- The file at the default path holds no settings. -/
theorem not_heldBy_brokenHome (settings : Settings) :
    ¬ TextLayer.own.HeldBy settings brokenHome (defaultPath "xdg") := by
  -- The path has the extension of one format, and in that the text cannot be read.
  rintro ⟨document, text, format, read, parsed, _⟩
  have extension : pathExtension (defaultPath "xdg") = some "toml" := by decide
  obtain rfl : FileFormat.toml = document := by simpa [FileFormat.ofPath, extension] using format
  obtain rfl : "[gauge" = text := by
    rw [FileTree.read, resolve_brokenHome] at read
    exact Except.ok.inj read
  have unread : (TextLayer.own.parse .toml "[gauge").toOption.isNone = true := by decide +kernel
  simp [parsed, Except.toOption] at unread

/-- A file that is no text holds no settings in any layer. -/
theorem not_heldBy_bytes (layer : TextLayer) (settings : Settings) :
    ¬ layer.HeldBy settings brokenHome "yarn.toml" := by
  rintro ⟨document, text, format, read, _⟩
  rw [FileTree.read, FileTree.resolve_eq_walk brokenHome (by decide)] at read
  cases read

/-- A file can be written into a folder that has to be created first. -/
theorem permits_brokenHome : brokenHome.Permits "conf/knit.json" := by
  -- The folder is created, the file then resolves inside it, and nothing is in its way.
  have clean : pathFault "conf" = none := pathFault_eq_none_iff.mpr (by decide)
  have folder : folderPath "conf/knit.json" = "conf" := by decide
  refine ⟨brokenHome.putFolder ["conf"], ["conf", "knit.json"], ?_, ?_, by decide⟩
  · rw [folder, FileTree.createFolder, clean]
    rfl
  · rw [FileTree.resolve_eq_walk _ (by decide)]
    rfl

/-- Broken files are reported, bad settings and paths are refused, and good settings are held. -/
theorem brokenHome_guarded :
    (∃ error, TextLayer.own.loadOrStandard brokenHome (some "xdg") none = .error error) ∧
    (∃ error, TextLayer.own.loadOrStandard brokenHome (some "xdg") (some "yarn.toml")
      = .error error) ∧
    (∃ fault, TextLayer.own.save { standard with size := 0.0 } "conf/knit.json" brokenHome
      = (brokenHome, .error fault)) ∧
    (∃ error, TextLayer.own.save standard "conf/knit.yaml" brokenHome
      = (brokenHome, .error error)) ∧
    ∃ written, TextLayer.own.save standard "conf/knit.json" brokenHome = (written, .ok ()) ∧
      TextLayer.own.HeldBy standard written "conf/knit.json" := by
  obtain ⟨_, _, faulty, unsupported, saved, asked, found⟩ :=
    guarded .own brokenHome (some "xdg")
  refine ⟨found _ rfl ?_ not_heldBy_brokenHome, asked _ (not_heldBy_bytes _),
    ⟨_, faulty _ _ _ rfl⟩, unsupported _ _ (by decide), ?_⟩
  · rw [FileTree.isFile, resolve_brokenHome]
    rfl
  · have passes := checked_eq_ok_iff.mpr ⟨valid_standard, rfl⟩
    obtain ⟨document, written, format, done, _, held⟩ :=
      saved _ _ passes (.inl (by decide)) permits_brokenHome
    have extension : pathExtension "conf/knit.json" = some "json" := by decide
    obtain rfl : FileFormat.json = document := by simpa [FileFormat.ofPath, extension] using format
    -- The numbers of the standard settings are read back from their digits.
    exact ⟨written, done, held (own_keeps_json valid_standard (by decide +kernel)
      (by decide +kernel) (by decide +kernel))⟩

end Settings

end FlatKnit
