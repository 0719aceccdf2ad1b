import FlatKnit.Files.Tree
import FlatKnit.Proofs.Chain

/-! Writing files: the paths that can be followed, and reading again what is written under them. -/

namespace FlatKnit

/-- Nothing is wrong with a path of some characters, none of them unnameable, and few bytes. -/
theorem pathFault_eq_none_iff {path : String} : pathFault path = none ↔
    path.isEmpty = false ∧ path.toList.contains '\x00' = false ∧ path.utf8ByteSize ≤ pathLimit := by
  -- The three tests are made one after another, each with a fault of its own.
  rw [pathFault, String.contains_char_eq]
  by_cases unnameable : '\x00' ∈ path.toList <;> cases path.isEmpty <;> simp [unnameable]

namespace FileTree

variable {tree written : FileTree} {place other : Place} {content : FileContent}
  {path text : String}

/-- A path with nothing wrong with it is followed step by step. -/
theorem resolve_eq_walk (tree : FileTree) (clean : path.isEmpty = false ∧
    path.toList.contains '\x00' = false ∧ path.utf8ByteSize ≤ pathLimit) :
    tree.resolve path = tree.walk (pathStart path) (pathSteps path) := by
  rw [resolve, pathFault_eq_none_iff.mpr clean]

/-- Looking a place up finds the content that replaces the one of its file. -/
theorem lookup_replaced (content : FileContent) {files : List (Place × FileContent)}
    (held : (files.lookup place).isSome = true) :
    (files.map fun (other, old) => (other, if other == place then content else old)).lookup place
      = some content := by
  induction files with
  | nil => cases held
  | cons first files ih =>
    obtain ⟨found, old⟩ := first
    by_cases same : found = place
    · simp [same]
    · -- A file elsewhere is passed over, before the change as after it.
      have passed : (place == found) = false := beq_eq_false_iff_ne.mpr (Ne.symm same)
      rw [List.lookup_cons, passed] at held
      rw [List.map_cons, List.lookup_cons]
      simp only [passed]
      exact ih held

/-- The content that was put at a place is the content of the file there. -/
theorem file?_put (tree : FileTree) (place : Place) (content : FileContent) :
    (tree.put place content).file? place = some content := by
  -- A file that is there is replaced where it stands; a new one is put behind all others.
  unfold put
  split
  case isTrue held => exact lookup_replaced content held
  case isFalse absent =>
    rw [Bool.not_eq_true, Option.isSome_eq_false_iff, Option.isNone_iff_eq_none] at absent
    rw [file?] at absent ⊢
    simp [List.lookup_append, absent]

/-- A folder stays a folder when a file is put somewhere. -/
theorem isFolder_put (held : tree.isFolder other = true) :
    (tree.put place content).isFolder other = true := by
  unfold put
  split
  case isTrue =>
    -- The places of the files are what they were.
    simpa [isFolder, List.any_map, Function.comp_def] using held
  case isFalse =>
    simp only [isFolder, List.any_append, Bool.or_eq_true] at held ⊢
    rcases held with above | below
    · exact .inl above
    · exact .inr (.inl below)

/-- A path leads where it led before, when a file is put somewhere. -/
theorem walk_put {names : List String} {reached : Place} {start : Place}
    (walked : tree.walk start names = .ok reached) :
    (tree.put place content).walk start names = .ok reached := by
  induction names generalizing start with
  | nil => exact walked
  | cons name names ih =>
    -- Every step was made from a folder, and that is still there.
    rw [walk] at walked ⊢
    split at walked
    case isFalse =>
      split at walked <;> cases walked
    case isTrue folder =>
      rw [if_pos (isFolder_put folder)]
      split at walked
      case isTrue => cases walked
      case isFalse fits => rw [if_neg fits, ih walked]

/-- What is written under a path is read under it. -/
theorem read_of_writeFile (done : tree.writeFile path text = (written, .ok ())) :
    written.read path = .ok text := by
  unfold writeFile at done
  split at done
  case h_1 => cases done
  case h_2 reached resolved =>
    split at done
    case isTrue => cases done
    case isFalse =>
      obtain rfl := congrArg Prod.fst done
      -- The path led to the place before, and putting a file there leaves the way as it was.
      have found : (tree.put reached text).resolve path = .ok reached := by
        unfold resolve at resolved ⊢
        split at resolved
        case h_1 => cases resolved
        case h_2 clean =>
          exact walk_put resolved
      rw [read, found, ok_bind, file?_put]
      rfl

/-- A file that is written is there, whatever folders were created for it. -/
theorem read_of_write (done : tree.write path text = (written, .ok ())) :
    written.read path = .ok text := by
  -- Creating the folders comes first, and the file is then written in the tree that has them.
  unfold write at done
  split at done
  case h_1 => cases done
  case h_2 => exact read_of_writeFile done

end FileTree

end FlatKnit
