/-
# GeoFeed.Proofs.Command.Disk -- what a written file changes

A path leads to a file, or to a place where one may be made, or to neither
(`Disk.target?`).  A file that is written under names is found by every path that led to
these names, in whatever way they were spelled.  Every other path leads where it led before,
but for what is below the place of a file that was made: there was nothing, and now there can
be nothing (`Becomes.below`).

One step of a path keeps this relation between the places before and after (`becomes_step`),
and so does a whole path (`becomes_walk`).  What carries it is that a file stands, and is
made, in a directory that is there, so writing it makes no directories (`isDirectory_put`).

Main statement: `Disk.rewritten_put`.
-/
import GeoFeed.Command.Disk

namespace GeoFeed.Command

set_option autoImplicit false

namespace Disk

/-- The names of the file that a path leads to, or of the one that may be made there. -/
def target? (d : Disk) (working : List String) (path : String) : Option (List String) :=
  match d.find working path with
  | .file names _ => some names
  | .vacant names => some names
  | _ => none

theorem write?_eq (d : Disk) (working : List String) (path : String) (content : ByteArray) :
    d.write? working path content = (d.target? working path).map (d.put · content) := by
  unfold write? target?
  cases d.find working path <;> rfl

variable {d : Disk} {working names : List String} {content : ByteArray}

/-! ## Directories -/

theorem isDirectory_iff {folder : List String} : d.isDirectory working folder = true ↔
    folder <+: working ∨ ∃ file ∈ d.files, folder <+: file.1 ∧ folder.length < file.1.length := by
  rw [isDirectory, Bool.or_eq_true, List.any_eq_true]
  simp only [Bool.and_eq_true, List.isPrefixOf_iff_prefix, decide_eq_true_eq]

/-- What is above a directory is a directory. -/
theorem isDirectory_of_within {above folder : List String} (within : above <+: folder)
    (directory : d.isDirectory working folder = true) : d.isDirectory working above = true := by
  rw [isDirectory_iff] at directory ⊢
  rcases directory with below | ⟨file, member, below, longer⟩
  · exact .inl (within.trans below)
  · exact .inr ⟨file, member, within.trans below, Nat.lt_of_le_of_lt within.length_le longer⟩

theorem mem_files_put {file : List String × ByteArray} : file ∈ (d.put names content).files
    ↔ file = (names, content) ∨ file ∈ d.files ∧ file.1 ≠ names := by
  rw [put, List.mem_cons, List.mem_filter, bne_iff_ne]

/-- **A file that is put in a directory makes no directories** and removes none. -/
theorem isDirectory_put (parent : d.isDirectory working names.dropLast = true)
    (folder : List String) :
    (d.put names content).isDirectory working folder = d.isDirectory working folder := by
  rw [Bool.eq_iff_iff]
  constructor
  · intro directory
    rcases isDirectory_iff.1 directory with below | ⟨file, member, below, longer⟩
    · exact isDirectory_iff.2 (.inl below)
    · rcases mem_files_put.1 member with rfl | ⟨member, -⟩
      · refine isDirectory_of_within ?_ parent
        rw [List.prefix_iff_eq_take.1 below, List.dropLast_eq_take]
        exact List.take_prefix_take_left (by simp at longer; omega)
      · exact isDirectory_iff.2 (.inr ⟨file, member, below, longer⟩)
  · intro directory
    rcases isDirectory_iff.1 directory with below | ⟨file, member, below, longer⟩
    · exact isDirectory_iff.2 (.inl below)
    · by_cases same : file.1 = names
      · rw [same] at below longer
        exact isDirectory_iff.2 (.inr ⟨_, mem_files_put.2 (.inl rfl), below, longer⟩)
      · exact isDirectory_iff.2 (.inr ⟨file, mem_files_put.2 (.inr ⟨member, same⟩), below, longer⟩)

/-! ## Places -/

theorem lookup_filter_ne {α β : Type} [BEq α] [LawfulBEq α] {entries : List (α × β)} {key other : α}
    (ne : other ≠ key) : (entries.filter fun e => e.1 != key).lookup other = entries.lookup other := by
  induction entries with
  | nil => rfl
  | cons e rest ih =>
      obtain ⟨first, value⟩ := e
      by_cases same : first = key
      · subst same
        have skip : (other == first) = false := by simpa using ne
        simp [List.lookup_cons, skip, ih]
      · simp [List.lookup_cons, same, ih]

theorem lookup_put (other : List String) : (d.put names content).files.lookup other
    = if other = names then some content else d.files.lookup other := by
  rw [put, List.lookup_cons]
  by_cases same : other = names
  · simp [same]
  · have skip : (other == names) = false := by simpa using same
    rw [skip, if_neg same]
    exact lookup_filter_ne same

end Disk

/-- A place that is what the disk has there: what stands or may stand somewhere does so in a directory
that is there. -/
inductive Place.On (d : Disk) (working : List String) : Place → Prop where
  | file {names : List String} {content : ByteArray} (found : d.files.lookup names = some content)
      (parent : d.isDirectory working names.dropLast = true) : On d working (.file names content)
  | directory {names : List String} (found : d.isDirectory working names = true) :
      On d working (.directory names)
  | vacant {names : List String} (missing : d.files.lookup names = none)
      (none_ : d.isDirectory working names = false)
      (parent : d.isDirectory working names.dropLast = true) : On d working (.vacant names)
  | nowhere : On d working .nowhere
  | blocked : On d working .blocked

/-- How a place changes when a file is written under names. -/
inductive Place.Becomes (names : List String) (content : ByteArray) : Place → Place → Prop where
  | written (old : ByteArray) : Becomes names content (.file names old) (.file names content)
  | made : Becomes names content (.vacant names) (.file names content)
  | file {other : List String} (ne : other ≠ names) (kept : ByteArray) :
      Becomes names content (.file other kept) (.file other kept)
  | vacant {other : List String} (ne : other ≠ names) :
      Becomes names content (.vacant other) (.vacant other)
  | directory (other : List String) : Becomes names content (.directory other) (.directory other)
  | nowhere : Becomes names content .nowhere .nowhere
  /-- What is below a file that was made: nothing before, and nothing that can be. -/
  | below : Becomes names content .nowhere .blocked
  | blocked : Becomes names content .blocked .blocked

namespace Disk

open Place (On Becomes)

variable {d : Disk} {working names : List String} {content : ByteArray}

theorem on_placeOf {folder : List String} (parent : d.isDirectory working folder = true)
    (name : String) : On d working (d.placeOf working (folder ++ [name])) := by
  have above : d.isDirectory working (folder ++ [name]).dropLast = true := by
    rwa [List.dropLast_concat]
  unfold placeOf
  cases found : d.files.lookup (folder ++ [name]) with
  | some content => exact .file found above
  | none =>
      cases directory : d.isDirectory working (folder ++ [name]) with
      | true => exact .directory directory
      | false => exact .vacant found directory above

theorem on_step {here : Place} (on : On d working here) (name : String) :
    On d working (d.step working here name) := by
  cases on with
  | directory found =>
      unfold step
      dsimp only
      split
      · exact .directory found
      · split
        · exact .directory (isDirectory_of_within (List.dropLast_prefix _) found)
        · split
          · exact .blocked
          · exact on_placeOf found name
  | file => exact .blocked
  | vacant => exact .nowhere
  | nowhere => exact .nowhere
  | blocked => exact .blocked

theorem on_walk {start : List String} (directory : d.isDirectory working start = true)
    (path : List Char) : On d working (d.walk working start path) := by
  unfold walk
  generalize (Text.pieces (· == '/') path).map String.ofList = steps
  have on : On d working (.directory start) := .directory directory
  generalize Place.directory start = here at on
  induction steps generalizing here with
  | nil => exact on
  | cons name rest ih => exact ih _ (on_step on name)

/-- Every path leads to a place on the disk. -/
theorem on_find (d : Disk) (working : List String) (path : String) :
    On d working (d.find working path) := by
  unfold find
  split
  · exact .nowhere
  · exact on_walk (isDirectory_iff.2 (.inl List.nil_prefix)) _
  · exact on_walk (isDirectory_iff.2 (.inl (List.prefix_refl _))) _

/-! ## Writing -/

/-- Names under which a file may be written: they are not those of a directory, and the directory
above them is there. -/
structure Writable (d : Disk) (working names : List String) : Prop where
  free : d.files.lookup names = none → d.isDirectory working names = false
  parent : d.isDirectory working names.dropLast = true

theorem writable_of_target? {path : String} (target : d.target? working path = some names) :
    d.Writable working names := by
  have on := d.on_find working path
  unfold target? at target
  split at target
  · rename_i found
    cases target
    rw [found] at on
    cases on with
    | file found parent =>
        refine ⟨?_, parent⟩
        intro missing
        rw [found] at missing
        cases missing
  · rename_i found
    cases target
    rw [found] at on
    cases on with
    | vacant _ none_ parent => exact ⟨fun _ => none_, parent⟩
  · cases target

section Put

variable (writable : d.Writable working names)

include writable

theorem becomes_placeOf (other : List String) :
    Becomes names content (d.placeOf working other)
      ((d.put names content).placeOf working other) := by
  unfold placeOf
  rw [lookup_put, isDirectory_put writable.parent]
  by_cases same : other = names
  · subst same
    rw [if_pos rfl]
    cases found : d.files.lookup other with
    | some old => exact .written old
    | none =>
        rw [writable.free found]
        exact .made
  · rw [if_neg same]
    cases d.files.lookup other with
    | some kept => exact .file same kept
    | none =>
        cases d.isDirectory working other with
        | true => exact .directory other
        | false => exact .vacant same

/-- **A step keeps what has become of a place.** -/
theorem becomes_step {here here' : Place} (becomes : Becomes names content here here')
    (name : String) : Becomes names content (d.step working here name)
      ((d.put names content).step working here' name) := by
  cases becomes with
  | directory folder =>
      unfold step
      dsimp only
      split
      · exact .directory folder
      · split
        · exact .directory _
        · split
          · exact .blocked
          · exact becomes_placeOf writable _
  | made => exact .below
  | below => exact .below
  | vacant => exact .nowhere
  | nowhere => exact .nowhere
  | written => exact .blocked
  | file => exact .blocked
  | blocked => exact .blocked

theorem becomes_walk (start : List String) (path : List Char) :
    Becomes names content (d.walk working start path)
      ((d.put names content).walk working start path) := by
  unfold walk
  generalize (Text.pieces (· == '/') path).map String.ofList = steps
  -- The places part at the step that finds the file, so the induction is over any two.
  suffices becomes : ∀ {here here' : Place}, Becomes names content here here' →
      Becomes names content (steps.foldl (d.step working) here)
        (steps.foldl ((d.put names content).step working) here') from becomes (.directory start)
  induction steps with
  | nil => exact id
  | cons name rest ih =>
      intro here here' becomes
      exact ih (becomes_step writable becomes name)

/-- **Every path leads where it led,** but for the written file and what is below it. -/
theorem becomes_find (path : String) :
    Becomes names content (d.find working path) ((d.put names content).find working path) := by
  unfold find
  split
  · exact .nowhere
  · exact becomes_walk writable _ _
  · exact becomes_walk writable _ _

end Put

/-- A disk after the file that a path leads to has been written: all paths to it find the new
content, and all other paths find the files that they found before, and no others. -/
structure Rewritten (d : Disk) (working : List String) (path : String) (content : ByteArray)
    (d' : Disk) : Prop where
  written : ∀ other, d.target? working other = d.target? working path →
    d'.read other working = .bytes content
  kept : ∀ other, d.target? working other ≠ d.target? working path →
    ∀ bytes, d'.read other working = .bytes bytes ↔ d.read other working = .bytes bytes

/-- **Writing a file changes this file and no other.** -/
theorem rewritten_put {path : String} (target : d.target? working path = some names)
    (content : ByteArray) : d.Rewritten working path content (d.put names content) := by
  have writable := writable_of_target? target
  constructor
  · intro other same
    have becomes : Becomes names content _ _ := becomes_find writable other
    rw [target] at same
    unfold target? at same
    unfold read
    generalize d.find working other = here at becomes same
    generalize (d.put names content).find working other = here' at becomes ⊢
    cases becomes with
    | written => rfl
    | made => rfl
    | file ne => exact absurd (Option.some.inj same) ne
    | vacant ne => exact absurd (Option.some.inj same) ne
    | _ => cases same
  · intro other ne bytes
    have becomes : Becomes names content _ _ := becomes_find writable other
    rw [target] at ne
    unfold target? at ne
    unfold read
    generalize d.find working other = here at becomes ne ⊢
    generalize (d.put names content).find working other = here' at becomes ⊢
    cases becomes with
    | written => exact absurd rfl ne
    | made => exact absurd rfl ne
    | below => exact ⟨nofun, nofun⟩
    | _ => exact Iff.rfl

end Disk

end GeoFeed.Command
