import PluginKit.Proofs.Files
import PluginKit.Sample.Artifact

/-!
# Uploads into files

An upload makes the directory that its target lies in and copies the source there. All that can fail
comes before the first file is written, so a failed upload may leave new directories but changes no
file. One that succeeds writes the target alone, and the target then holds what the source holds. This
is what the source held before only if the source does not lie at the same place: otherwise the file
has been emptied before it was read, and the upload succeeds with nothing.

There are no links among the files, so a file lies at one place, and source and target are the same file
if and only if their paths lead to the same place. With links a file could have several places; an upload
from one of them to another one would empty it as well.

## Main statements

- `run_upload_cases`: the ways in which an upload can end.
- `stored_unless_same`: when an upload succeeds, and what the files are after it.
- `lost_onto_itself`: a file that is uploaded to its own place, by another path, is lost.
-/

namespace PluginKit.Sample.ArtifactStore

open Files

variable {s : Scheme} {r : Wire.UploadRequest} {fs : Files}

/-- The directory of a target is made, if it lies in one. -/
def prepared (fs : Files) (path : String) : Except IoError Unit × Files :=
  match Path.parent? path with
  | some dir => fs.makeDirectories dir
  | none => (.ok (), fs)

theorem grows_prepared (fs : Files) (path : String) : Grows fs (prepared fs path).2 := by
  unfold prepared
  split
  · exact Grows.makeDirectories fs _
  · exact Grows.refl fs

/-- An upload of a local file to an artifact. -/
theorem run_upload {a : Artifact} (reads : artifactOf s r.resource = .ok a)
    (nearby : r.source.kind = .localFile) : (upload s r).run fs =
      match prepared fs a.path with
      | (.error e, made) => (.error (.io e), made)
      | (.ok (), made) =>
        match made.copy r.source.value a.path with
        | .error e => (.error (refusal r.source.value e), made)
        | .ok (size, after) => (.ok ⟨{ r.resource with size := some size }⟩, after) := by
  simp only [upload, Effect.run_ofFunction, reads, if_pos nearby, prepared]
  cases Path.parent? a.path with
  | none => rfl
  | some dir =>
    rcases result : fs.makeDirectories dir with ⟨e | u, made⟩
    · simp only [result]
    · cases copied : made.copy r.source.value a.path with
      | error e => simp only [result, copied]
      | ok sized => simp only [result, copied]

/-- The conditions for an upload to succeed. -/
structure Ready (s : Scheme) (r : Wire.UploadRequest) (fs made : Files) (a : Artifact) (p q : Names)
    (content : Text.Octets) (mode : Nat) : Prop where
  reads : artifactOf s r.resource = .ok a
  nearby : r.source.kind = .localFile
  directory : prepared fs a.path = (.ok (), made)
  source : made.resolve r.source.value = .ok p
  file : made.FileAt p content mode
  target : made.Writable a.path q

/-- An upload that is ready copies its source. -/
theorem run_upload_of_ready {made : Files} {a : Artifact} {p q : Names} {content : Text.Octets}
    {mode : Nat} (ready : Ready s r fs made a p q content mode) :
    ∃ after, (upload s r).run fs =
        (.ok ⟨{ r.resource with size := some (stored p q content).size }⟩, after) ∧
      Copied made after content mode p q := by
  obtain ⟨after, done, copied⟩ := copy_of_fileAt ready.source ready.file ready.target
  refine ⟨after, ?_, copied⟩
  rw [run_upload ready.reads ready.nearby, ready.directory]
  simp only [done]

/-- An upload was ready, or it fails and makes directories at most. -/
theorem run_upload_cases (s : Scheme) (r : Wire.UploadRequest) (fs : Files) :
    (∃ made a p q content mode, Ready s r fs made a p q content mode) ∨
      ∃ fault after, (upload s r).run fs = (.error fault, after) ∧ Grows fs after := by
  cases reads : artifactOf s r.resource with
  | error fault =>
    refine .inr ⟨fault, fs, ?_, Grows.refl fs⟩
    simp only [upload, Effect.run_ofFunction, reads]
  | ok a =>
    by_cases nearby : r.source.kind = .localFile
    · have grows := grows_prepared fs a.path
      rw [run_upload reads nearby]
      rcases directory : prepared fs a.path with ⟨e | u, made⟩
      · rw [directory] at grows
        exact .inr ⟨.io e, made, rfl, grows⟩
      · rw [directory] at grows
        cases copied : made.copy r.source.value a.path with
        | error e => exact .inr ⟨refusal r.source.value e, made, by simp only [copied], grows⟩
        | ok result =>
          obtain ⟨p, q, content, mode, source, file, target⟩ := exists_of_copy copied
          exact .inl ⟨made, a, p, q, content, mode, reads, nearby, directory, source, file, target⟩
    · refine .inr ⟨.rejected 400 ("cannot upload from " ++ r.source.kind.label ++ " locations"), fs, ?_,
        Grows.refl fs⟩
      simp only [upload, Effect.run_ofFunction, reads, if_neg nearby]

/-- A failed upload changes no file. One that succeeds has copied the file that its source leads to. No
file changes but the target. If the source does not lie where the target does, the target holds what the
source held before and the source still holds it, and the answer is the resource with the number of these
octets as its size; otherwise the file is empty afterwards and the size is zero. An upload succeeds if and
only if the access specification can be read, the source is a local file, the directory of the target can
be made, the source leads to a file then, and the target to a file or to nothing. Among files without
links two paths lead to one file if and only if they lead to one place. -/
theorem stored_unless_same (s : Scheme) (r : Wire.UploadRequest) (fs : Files) :
    (match (upload s r).run fs with
      | (.error _, after) => ∀ n content mode, after.FileAt n content mode ↔ fs.FileAt n content mode
      | (.ok m, after) => ∃ a p q content mode, artifactOf s r.resource = .ok a ∧
          after.resolve r.source.value = .ok p ∧ after.resolve a.path = .ok q ∧
          fs.FileAt p content mode ∧
          (∀ n content' mode', n ≠ q →
            (after.FileAt n content' mode' ↔ fs.FileAt n content' mode')) ∧
          if p = q then after.FileAt q .empty mode ∧ m = ⟨{ r.resource with size := some 0 }⟩
          else after.FileAt q content mode ∧ after.FileAt p content mode ∧
            m = ⟨{ r.resource with size := some content.size }⟩) ∧
      ((∃ m, ((upload s r).run fs).1 = .ok m) ↔
        ∃ made a p q content mode, Ready s r fs made a p q content mode) := by
  rcases run_upload_cases s r fs with ⟨made, a, p, q, content, mode, ready⟩ | ⟨fault, after, failed, grows⟩
  -- the directories come first, so what is said of the files is carried over from before them
  · obtain ⟨after, done, copied⟩ := run_upload_of_ready ready
    rw [done]
    refine ⟨?_, ⟨fun _ => ⟨made, a, p, q, content, mode, ready⟩, fun _ => ⟨_, rfl⟩⟩⟩
    have grows := grows_prepared fs a.path
    rw [ready.directory] at grows
    have before : fs.FileAt p content mode := grows.fileAt_iff.1 ready.file
    refine ⟨a, p, q, content, mode, ready.reads, ?source, ?target, before, ?others, ?written⟩
    case source => exact resolve_of_keepsDirectories copied.keepsDirectories ready.source
    case target => exact resolve_of_keepsDirectories copied.keepsDirectories ready.target.leads
    case others =>
      intro n content' mode' other
      rw [FileAt, copied.others n other]
      exact grows.fileAt_iff
    case written =>
      have written := copied.target
      unfold stored at written ⊢
      split
      · next same =>
        rw [if_pos same] at written
        exact ⟨written, rfl⟩
      · next other =>
        rw [if_neg other] at written
        refine ⟨written, ?_, rfl⟩
        rw [FileAt, copied.others p other]
        exact ready.file
  · rw [failed]
    refine ⟨fun n content mode => grows.fileAt_iff, ?_, ?_⟩
    · rintro ⟨m, done⟩
      cases done
    -- had the upload been ready, it would not have failed
    · rintro ⟨made, a, p, q, content, mode, ready⟩
      obtain ⟨after', done, -⟩ := run_upload_of_ready ready
      cases failed.symm.trans done

/-! ## One file and two targets -/

/-- A scheme that knows artifacts. -/
def artifactScheme : Scheme :=
  Scheme.empty.bind Artifact.prototype.name Artifact.schema [.versioned "SampleArtifact" "v1"]

/-- A directory with one file in it. -/
def room : Files where
  entries := [(["room"], .directory), (["room", "blob"], .file (Text.encode "hello") 0o644)]
  workingDir := ["room"]

/-- The file above is to be stored at a path. -/
def storing (path : String) : Wire.UploadRequest where
  resource :=
    { name := "blob", version := "1", type := "blob", relation := "local"
      access := some { tag := .versioned "SampleArtifact" "v1", fields := [("path", .str path)] } }
  source := Location.localFile "blob"

/-- In a directory yet to be made the file above is stored, and it is still there itself. -/
theorem stored_in_new_directory : ∃ after, (upload artifactScheme (storing "kept/blob")).run room =
      (.ok ⟨{ (storing "kept/blob").resource with size := some 5 }⟩, after) ∧
    after.FileAt ["room", "kept", "blob"] (Text.encode "hello") 0o644 ∧
    after.FileAt ["room", "blob"] (Text.encode "hello") 0o644 := by
  have told := (stored_unless_same artifactScheme (storing "kept/blob") room).1
  have done : (upload artifactScheme (storing "kept/blob")).run room =
    (.ok ⟨{ (storing "kept/blob").resource with size := some 5 }⟩, _) := rfl
  rw [done] at told
  obtain ⟨a, p, q, content, mode, reads, source, target, before, -, written⟩ := told
  cases reads
  cases source
  cases target
  cases before
  exact ⟨_, done, written.1, written.2.1⟩

/-- At its own place the file above is emptied, by an upload that succeeds. -/
theorem lost_onto_itself : room.FileAt ["room", "blob"] (Text.encode "hello") 0o644 ∧
    ∃ after, (upload artifactScheme (storing "../room/blob")).run room =
        (.ok ⟨{ (storing "../room/blob").resource with size := some 0 }⟩, after) ∧
      after.FileAt ["room", "blob"] .empty 0o644 :=
  ⟨rfl, _, rfl, rfl⟩

end PluginKit.Sample.ArtifactStore
