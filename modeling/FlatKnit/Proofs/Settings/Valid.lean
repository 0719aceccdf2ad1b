import FlatKnit.Proofs.Files.Write
import FlatKnit.Settings.Store

/-! Valid settings: what every way of loading settings has checked. -/

namespace FlatKnit

namespace Settings

/-- Every number can be used, and the level of the log is known when its case is ignored. -/
structure Valid (settings : Settings) : Prop where
  gauge : settings.gauge.usable = true
  size : isUsable settings.size = true
  level : String.ofList (settings.logLevel.toList.map Char.toLower) ∈ logLevels

variable {settings : Settings}

/-- Settings without a fault are the valid ones. -/
theorem fault?_eq_none_iff : settings.fault? = none ↔ settings.Valid := by
  -- The search for a fault goes through the three numbers before it comes to the level.
  have sought : settings.fault? = none ↔
      (isUsable settings.gauge.stitches = true ∧ isUsable settings.gauge.rows = true ∧
        isUsable settings.size = true) ∧
      String.ofList (settings.logLevel.toList.map Char.toLower) ∈ logLevels := by
    simp [fault?, multipliers]
  rw [sought]
  constructor
  · rintro ⟨⟨stitches, rows, size⟩, level⟩
    exact ⟨by rw [Gauge.usable, stitches, rows]; rfl, size, level⟩
  · rintro ⟨gauge, size, level⟩
    rw [Gauge.usable, Bool.and_eq_true] at gauge
    exact ⟨⟨gauge.1, gauge.2, size⟩, level⟩

/-- The check lets valid settings pass as they are. -/
theorem checked_eq_ok_iff {passed : Settings} :
    settings.checked = .ok passed ↔ settings.Valid ∧ settings = passed := by
  rw [← fault?_eq_none_iff, checked]
  cases settings.fault? <;> simp

/-- The settings of a run without a settings file are valid. -/
theorem valid_standard : standard.Valid :=
  fault?_eq_none_iff.mp (by decide)

variable {layer : TextLayer} {tree : FileTree} {folder : Option String}

/-- Settings that are read from a file are valid. -/
theorem valid_of_load {path : String} (loaded : layer.load tree path = .ok settings) :
    settings.Valid := by
  -- The check is the last step of loading.
  obtain ⟨_, _, loaded⟩ := bind_eq_ok_iff.mp loaded
  obtain ⟨_, _, loaded⟩ := bind_eq_ok_iff.mp loaded
  obtain ⟨read, _, checked⟩ := bind_eq_ok_iff.mp loaded
  obtain ⟨valid, rfl⟩ := checked_eq_ok_iff.mp checked
  exact valid

/-- The settings of a run are valid, wherever they come from. -/
theorem valid_of_loadOrStandard {path : Option String}
    (loaded : layer.loadOrStandard tree folder path = .ok settings) : settings.Valid := by
  -- Without a path the file at the default path is loaded, and without that the standard is taken.
  unfold TextLayer.loadOrStandard at loaded
  split at loaded
  case h_1 => exact valid_of_load loaded
  case h_2 place _ =>
    by_cases present : tree.isFile place = true
    · rw [if_pos present] at loaded
      exact valid_of_load loaded
    · rw [if_neg present] at loaded
      obtain rfl := Except.ok.inj loaded
      exact valid_standard
  case h_3 =>
    obtain rfl := Except.ok.inj loaded
    exact valid_standard

/-- There is a file at the default path, for which a folder for settings must be known. -/
def HasDefault (tree : FileTree) (folder : Option String) : Prop :=
  ∃ place, folder = some place ∧ tree.isFile (defaultPath place) = true

/-- Without a file to load, the settings are the standard. -/
theorem loadOrStandard_of_absent (absent : ¬ HasDefault tree folder) :
    layer.loadOrStandard tree folder none = .ok standard := by
  cases folder with
  | none => rfl
  | some place => exact if_neg fun present => absent ⟨place, rfl, present⟩

/-- Where a folder on the default path is missing, the settings are the standard. -/
theorem loadOrStandard_of_lost
    (lost : tree.walk (pathStart (defaultPath "")) (pathSteps (defaultPath "")) = .error .absent) :
    layer.loadOrStandard tree (some "") none = .ok standard := by
  -- The way to the file ends before it gets there, so that no file is found.
  apply loadOrStandard_of_absent
  rintro ⟨_, ⟨⟩, present⟩
  rw [FileTree.isFile, FileTree.resolve_eq_walk tree (by decide), lost] at present
  cases present

end Settings

end FlatKnit
