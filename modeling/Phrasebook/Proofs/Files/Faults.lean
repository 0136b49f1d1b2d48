import Phrasebook.Failure
import Phrasebook.Files.Discovery
import Phrasebook.Proofs.Layout.Faults

/-!
# Faults of files

What is looked for among the files fails with a fault of the file system, or because the path cannot
be a path at all.  A file that is there and cannot be read as a text fails in a few ways more.

* `FaultKind.ofFiles`, `Failure.IsAmong`: faults of some kinds, beside errors of the language;
* `Files.readText_fails`, `Files.readText_utf8_fails`: texts of files.
-/

namespace Phrasebook

/-! ## Kinds of failures -/

/-- The kinds of fault that the file system causes. -/
def FaultKind.ofFiles : List FaultKind := [.missingFile, .isDirectory, .notDirectory, .fileSystem]

/-- A fault of one of these kinds. -/
def Fault.IsAmong (kinds : List FaultKind) (f : Fault) : Prop := f.kind ∈ kinds

/-- An error of the language, or a fault of one of these kinds. -/
def Failure.IsAmong (kinds : List FaultKind) : Failure → Prop
  | .template _ => True
  | .fault f => f.IsAmong kinds
  | _ => False

section

variable {kinds kinds' : List FaultKind} {α : Type}

theorem Fault.IsAmong.mono {f : Fault} (h : f.IsAmong kinds) (hsub : kinds ⊆ kinds') :
    f.IsAmong kinds' := hsub h

theorem Failure.IsAmong.mono {f : Failure} (h : f.IsAmong kinds) (hsub : kinds ⊆ kinds') :
    f.IsAmong kinds' := by
  cases f with
  | fault f => exact Fault.IsAmong.mono h hsub
  | template e => exact trivial
  | _ => exact h.elim

/-- The result is right, or a failure of this sort. -/
abbrev Among (kinds : List FaultKind) (x : Except Failure α) : Prop :=
  FailsIn (Failure.IsAmong kinds) x

theorem among_orFail {x : Except Fault α} (h : FailsIn (Fault.IsAmong kinds) x) :
    Among kinds (Fault.orFail x) := .mapError h fun _ hf => hf

theorem Among.mono {x : Except Failure α} (h : Among kinds x) (hsub : kinds ⊆ kinds') :
    Among kinds' x := FailsIn.mono h fun _ hf => hf.mono hsub

theorem among_template (e : TemplateError) : Among kinds (.error (.template e) : Except Failure α) :=
  .error trivial

end

/-! ## Files -/

theorem Obstacle.fault_isAmong (path : Path) (o : Obstacle) :
    (o.fault path).IsAmong (FaultKind.ofFiles ++ [.value]) := by
  cases o <;> simp [fault, Fault.badValue, Fault.IsAmong, FaultKind.ofFiles]

namespace Files

variable (files : Files)

theorem entry?_fails (path : Path) : FailsIn (Fault.IsAmong [.fileSystem]) (files.entry? path) := by
  unfold entry?
  split
  · exact .ok _
  · exact .error (List.mem_singleton_self _)
  · exact .ok _

theorem has_fails (path : Path) : FailsIn (Fault.IsAmong [.fileSystem]) (files.has path) :=
  .map _ (files.entry?_fails path)

theorem isDirectory_fails (path : Path) :
    FailsIn (Fault.IsAmong [.fileSystem]) (files.isDirectory path) :=
  .map _ (files.entry?_fails path)

theorem discover_fails (root : Path) (extensions : List Text) :
    FailsIn (Fault.IsAmong [.fileSystem]) (files.discover root extensions) := by
  refine .bind (files.entry?_fails root) fun e => ?_
  split <;> exact .ok _

theorem readBytes_fails (path : Path) :
    FailsIn (Fault.IsAmong (FaultKind.ofFiles ++ [.value])) (files.readBytes path) := by
  unfold readBytes
  split
  · exact .ok _
  · exact .error (Obstacle.fault_isAmong path .isDirectory)
  · exact .error (Obstacle.fault_isAmong path _)

/-- **What reading a text fails with**: the file is not there, its path or the name of the encoding
is none, or the bytes are no text in the encoding. -/
theorem readText_fails (encoding : Text) (path : Path) :
    FailsIn (Fault.IsAmong (FaultKind.ofFiles ++ [.value, .lookup, .decoding, .byteOrder]))
      (files.readText encoding path) := by
  unfold readText
  split
  · exact .error (show FaultKind.value ∈ _ by decide)
  · refine .bind ((files.readBytes_fails path).mono fun _ hf => hf.mono (by decide)) fun bytes => ?_
    refine .bind ((Encoding.named_fails encoding).mono fun f hf => ?_) fun e =>
      .bind ((e.decode_fails bytes).mono fun f hf => ?_) fun _ => .ok _
    · rcases hf with h | h <;> simp [Fault.IsAmong, h]
    · rcases hf with h | h <;> simp [Fault.IsAmong, h]

/-- In UTF-8 only the bytes may be no text. -/
theorem readText_utf8_fails (path : Path) :
    FailsIn (Fault.IsAmong (FaultKind.ofFiles ++ [.value, .decoding]))
      (files.readText "utf-8" path) := by
  have hnamed : Encoding.named "utf-8" = .ok .utf8 := rfl
  unfold readText
  rw [if_neg (by decide)]
  refine .bind ((files.readBytes_fails path).mono fun _ hf => hf.mono (by decide)) fun bytes => ?_
  rw [hnamed]
  show FailsIn _ (Encoding.utf8.decode bytes >>= fun text => pure text.unifyLineEnds)
  refine .bind ((Encoding.utf8_decode_fails bytes).mono fun f hf => ?_) fun _ => .ok _
  simp [Fault.IsAmong, hf]

end Files

end Phrasebook
