import Zrotext.Failover.Store.Codec
import Zrotext.Foundation.Crash

/-!
# The directory of the consensus store

The file operations of `store.rs`, each one atomic, and the directory they work
on.  A file keeps its inode until another one is renamed over it, so an append
handle that was opened before the rename writes to a file that no name leads to
any more.
-/

namespace Zrotext.Failover

open Foundation

/-- The files that belong to one member. -/
inductive Artifact
  | journal | checkpoint | journalTemp | checkpointTemp
deriving DecidableEq

namespace Artifact

/-- What the file name adds to the member identifier. -/
def suffix : Artifact → Text
  | .journal => ".journal".toList
  | .checkpoint => ".checkpoint".toList
  | .journalTemp => ".journal.tmp".toList
  | .checkpointTemp => ".checkpoint.tmp".toList

/-- The file name of a member's artifact. -/
def file (artifact : Artifact) (member : Text) : Text := member ++ artifact.suffix

end Artifact

/-- The file of the journal of a member. -/
abbrev journalFile (member : Text) : Text := Artifact.journal.file member

/-- The file of the checkpoint of a member. -/
abbrev checkpointFile (member : Text) : Text := Artifact.checkpoint.file member

/-- The suffixes of the entries that the store recognizes. -/
def knownEntrySuffixes : List Text :=
  [Artifact.journal, .checkpoint, .journalTemp, .checkpointTemp].map Artifact.suffix

/-- An entry of the observations directory is an artifact of a member. -/
def isKnownEntry (members : List Text) (name : Text) (isFile : Bool) : Bool :=
  knownEntrySuffixes.any fun suffix =>
    isFile && (name.dropSuffix? suffix).any members.contains

namespace Artifact

/-- A file name determines the artifact and the member. -/
theorem file_inj {artifact other : Artifact} (same : artifact.file member = other.file owner) :
    artifact = other ∧ member = owner := by
  have unrelated : ∀ first second : Artifact,
      first.suffix <:+ second.suffix → first = second := by
    intro first second
    cases first <;> cases second <;> decide
  have left : artifact.suffix <:+ artifact.file member := ⟨member, rfl⟩
  have right : other.suffix <:+ artifact.file member := ⟨owner, same.symm⟩
  have sameArtifact : artifact = other := by
    rcases List.suffix_or_suffix_of_suffix left right with below | above
    · exact unrelated _ _ below
    · exact (unrelated _ _ above).symm
  subst sameArtifact
  exact ⟨rfl, List.append_cancel_right same⟩

/-- The artifacts of members are recognized. -/
theorem isKnownEntry_file (artifact : Artifact) (listed : member ∈ members) :
    isKnownEntry members (artifact.file member) true := by
  have stripped : (artifact.file member).dropSuffix? artifact.suffix = some member :=
    List.dropSuffix?_eq_some_iff.mpr ⟨artifact.suffix, rfl, by simp⟩
  unfold isKnownEntry
  rw [List.any_eq_true]
  refine ⟨artifact.suffix, ?_, ?_⟩
  · cases artifact <;> decide
  · rw [stripped]
    simpa using listed

end Artifact

/-- The file operations of the store.  `none` answers an input or output
error; a read distinguishes a missing file from an error. -/
inductive DiskOp
  | readMembership | listObservations | createObservations
  | createMembership (content : Text)
  | readFile (name : Text)
  | createFile (name : Text)
  | writeFile (name content : Text)
  | rename (source destination : Text)
  | openAppend (name : Text)
  | append (name : Text) (handle : Nat) (line : Text)
deriving DecidableEq

/-- The answers to each operation. -/
abbrev DiskOp.Answer : DiskOp → Type
  | .readMembership => Option (Option Text)
  | .listObservations => Option (Option (List (Text × Bool)))
  | .createObservations => Bool
  | .createMembership _ => Bool
  | .readFile _ => Option (Option Text)
  | .createFile _ => Bool
  | .writeFile _ _ => Bool
  | .rename _ _ => Bool
  | .openAppend _ => Option Nat
  | .append _ _ _ => Bool

/-- The signature of the store's programs. -/
abbrev diskCalls : Signature where
  Op := DiskOp
  Answer := DiskOp.Answer

/-- A file. -/
structure DiskFile where
  inode : Nat
  content : Text
deriving DecidableEq

/-- The store directory: the membership record, the files of the observations
directory if it exists, and the next free inode.  The destination of the last
rename is remembered for the statements about crashes; no operation reads it. -/
structure Disk where
  membership : Option Text
  observations : Option (AList fun _ : Text => DiskFile)
  nextInode : Nat
  lastRenamed : Option Text

namespace Disk

/-- A directory that no store ever used. -/
def empty : Disk :=
  { membership := none, observations := none, nextInode := 0, lastRenamed := none }

variable (disk : Disk) (name : Text)

/-- The file under a name. -/
def file? : Option DiskFile := disk.observations.bind fun files => files.lookup name

/-- The content of the file under a name. -/
def content? : Option Text := (disk.file? name).map DiskFile.content

/-- The observations directory exists. -/
def isCreated : Bool := disk.observations.isSome

/-- Put a file under a name. -/
def put (file : DiskFile) : Disk :=
  { disk with
    observations := disk.observations.map fun files => files.insert name file }

/-- Put a new file under a name. -/
def putNew (content : Text) : Disk :=
  { disk.put name ⟨disk.nextInode, content⟩ with nextInode := disk.nextInode + 1 }

/-- Create a file, which must not exist. -/
def createFile : Bool × Disk :=
  if disk.isCreated && (disk.file? name).isNone then
    (true, disk.putNew name [])
  else
    (false, disk)

/-- Write the whole content of a file, which need not exist. -/
def writeFile (content : Text) : Bool × Disk :=
  if disk.isCreated then
    match disk.file? name with
    | some file => (true, disk.put name { file with content })
    | none => (true, disk.putNew name content)
  else
    (false, disk)

/-- Rename a file over another. -/
def rename (source destination : Text) : Bool × Disk :=
  match disk.file? source with
  | none => (false, disk)
  | some file =>
    (true,
      { disk with
        observations := disk.observations.map fun files =>
          (files.erase source).insert destination file
        lastRenamed := some destination })

/-- Append a line through a handle: the line is only visible if the file under
the name is still the one that the handle was opened on. -/
def append (handle : Nat) (line : Text) : Bool × Disk :=
  match disk.file? name with
  | none => (true, disk)
  | some file =>
    if file.inode = handle then
      (true, disk.put name { file with content := file.content ++ line })
    else
      (true, disk)

/-- The directory answers every operation. -/
def handler : Handler diskCalls Disk
  | .readMembership, disk => (some disk.membership, disk)
  | .listObservations, disk =>
    (some (disk.observations.map fun files =>
      files.keys.map fun name => (name, true)), disk)
  | .createObservations, disk =>
    (true, { disk with observations := some (disk.observations.getD ∅) })
  | .createMembership content, disk =>
    if disk.isCreated && disk.membership.isNone then
      (true, { disk with membership := some content })
    else
      (false, disk)
  | .readFile name, disk => (some (disk.content? name), disk)
  | .createFile name, disk => disk.createFile name
  | .writeFile name content, disk => disk.writeFile name content
  | .rename source destination, disk => disk.rename source destination
  | .openAppend name, disk => ((disk.file? name).map DiskFile.inode, disk)
  | .append name handle line, disk => disk.append name handle line

variable {disk : Disk} {name : Text}

/-- The listed names are those that lead to a file. -/
theorem mem_keys_iff (created : disk.observations = some files) (name : Text) :
    name ∈ files.keys ↔ (disk.file? name).isSome := by
  unfold file?
  rw [created, Option.bind_some, AList.lookup_isSome, AList.mem_keys]

@[simp] theorem isCreated_put (disk : Disk) (name : Text) (file : DiskFile) :
    (disk.put name file).isCreated = disk.isCreated := by
  simp [put, isCreated]

/-- The name leads to the file that was put under it. -/
theorem file?_put_self (created : disk.isCreated) (name : Text) (file : DiskFile) :
    (disk.put name file).file? name = some file := by
  obtain ⟨files, filesEq⟩ := Option.isSome_iff_exists.mp created
  simp [put, file?, filesEq]

/-- Other names lead where they led before. -/
theorem file?_put_ne (disk : Disk) (different : other ≠ name) (file : DiskFile) :
    (disk.put name file).file? other = disk.file? other := by
  unfold put file?
  cases disk.observations with
  | none => rfl
  | some files => exact AList.lookup_insert_ne different

theorem isCreated_of_file? (found : disk.file? name = some file) : disk.isCreated := by
  obtain ⟨files, filesEq, _⟩ := Option.bind_eq_some_iff.mp found
  unfold isCreated
  rw [filesEq]
  rfl

/-- Two directories differ at most in the files with some names, and in what was
renamed last. -/
structure AgreeOff (changed : Text → Prop) (before after : Disk) : Prop where
  membership : after.membership = before.membership
  created : after.isCreated = before.isCreated
  files : ∀ name, ¬ changed name → after.file? name = before.file? name

namespace AgreeOff

theorem refl (changed : Text → Prop) (disk : Disk) : AgreeOff changed disk disk :=
  ⟨rfl, rfl, fun _ _ => rfl⟩

theorem trans (earlier : AgreeOff changed first second) (later : AgreeOff changed second third) :
    AgreeOff changed first third where
  membership := later.membership.trans earlier.membership
  created := later.created.trans earlier.created
  files name kept := (later.files name kept).trans (earlier.files name kept)

theorem mono (agree : AgreeOff changed first second) (widen : ∀ name, changed name → more name) :
    AgreeOff more first second where
  membership := agree.membership
  created := agree.created
  files name kept := agree.files name fun change => kept (widen name change)

/-- The contents under unchanged names are the same. -/
theorem content (agree : AgreeOff changed first second) (kept : ¬ changed name) :
    second.content? name = first.content? name := by
  unfold content?
  rw [agree.files name kept]

end AgreeOff

/-- Putting a file changes nothing under other names. -/
theorem agreeOff_put (disk : Disk) (name : Text) (file : DiskFile) :
    AgreeOff (· = name) disk (disk.put name file) where
  membership := rfl
  created := isCreated_put disk name file
  files _ different := file?_put_ne disk different file

theorem putNew_spec (created : disk.isCreated) (name content : Text) :
    AgreeOff (· = name) disk (disk.putNew name content) ∧
      (disk.putNew name content).content? name = some content := by
  have agree := agreeOff_put disk name ⟨disk.nextInode, content⟩
  refine ⟨⟨agree.membership, agree.created, agree.files⟩, ?_⟩
  exact congrArg (Option.map DiskFile.content) (file?_put_self created name _)

/-- A file that does not exist is created empty. -/
theorem createFile_spec (created : disk.isCreated) (missing : disk.file? name = none) :
    (disk.createFile name).1 ∧ AgreeOff (· = name) disk (disk.createFile name).2 ∧
      (disk.createFile name).2.content? name = some [] ∧
      (disk.createFile name).2.lastRenamed = disk.lastRenamed := by
  have new : (disk.isCreated && (disk.file? name).isNone) := by
    rw [created, missing]
    rfl
  unfold createFile
  rw [if_pos new]
  obtain ⟨agree, content⟩ := putNew_spec created name []
  exact ⟨rfl, agree, content, rfl⟩

/-- A file has what was written, whether or not it existed. -/
theorem writeFile_spec (created : disk.isCreated) (name content : Text) :
    (disk.writeFile name content).1 ∧
      AgreeOff (· = name) disk (disk.writeFile name content).2 ∧
      (disk.writeFile name content).2.content? name = some content ∧
      (disk.writeFile name content).2.lastRenamed = disk.lastRenamed := by
  unfold writeFile
  rw [if_pos created]
  cases disk.file? name with
  | some file =>
    refine ⟨rfl, agreeOff_put disk name _, ?_, rfl⟩
    exact congrArg (Option.map DiskFile.content) (file?_put_self created name { file with content })
  | none =>
    obtain ⟨agree, written⟩ := putNew_spec created name content
    exact ⟨rfl, agree, written, rfl⟩

/-- A renamed file is found under its new name. -/
theorem rename_spec (written : disk.content? source = some content) (destination : Text) :
    (disk.rename source destination).1 ∧
      AgreeOff (fun name => name = source ∨ name = destination) disk
        (disk.rename source destination).2 ∧
      (disk.rename source destination).2.content? destination = some content ∧
      (disk.rename source destination).2.lastRenamed = some destination := by
  obtain ⟨file, found, rfl⟩ := Option.map_eq_some_iff.mp written
  obtain ⟨files, filesEq, lookedUp⟩ := Option.bind_eq_some_iff.mp found
  unfold rename
  rw [found]
  refine ⟨rfl, ⟨rfl, ?_, ?_⟩, ?_, rfl⟩
  · simp [isCreated]
  · intro name kept
    rw [not_or] at kept
    unfold file?
    rw [filesEq]
    exact (AList.lookup_insert_ne kept.2).trans (AList.lookup_erase_ne kept.1)
  · unfold content? file?
    rw [filesEq]
    simp only [Option.map_some, Option.bind_some, AList.lookup_insert]

/-- A line that is appended through an open handle is visible. -/
theorem append_spec (found : disk.file? name = some file) (line : Text) :
    (disk.append name file.inode line).1 ∧
      AgreeOff (· = name) disk (disk.append name file.inode line).2 ∧
      (disk.append name file.inode line).2.file? name =
        some { file with content := file.content ++ line } ∧
      (disk.append name file.inode line).2.lastRenamed = disk.lastRenamed := by
  unfold append
  rw [found]
  simp only [if_true]
  exact ⟨trivial, agreeOff_put disk name _, file?_put_self (isCreated_of_file? found) name _, rfl⟩

end Disk
end Zrotext.Failover
