import QuipNet.Library.Effect

/-!
# One file and the system's answers

The contents of a file are absent or a byte string. Writing first truncates the
file, so an error may leave a leading part of the new bytes; only a write that is
refused when the file is opened leaves the old ones.
-/

namespace QuipNet.Library.File
open QuipNet.Library.Effect

variable {ε : Type}

abbrev Contents := Option (List UInt8)

inductive WriteAnswer (ε : Type)
  | refused (error : ε)
  | stopped (count : ℕ) (error : ε)
  | complete
deriving DecidableEq, Repr

/-- Read the whole file: `missing` is the answer when there is none, `denied` the one
when it exists and cannot be read. -/
def read (missing : ε) (denied : Option ε) : Contents → Except ε (List UInt8)
  | none => .error missing
  | some bytes => match denied with
    | some error => .error error
    | none => .ok bytes

def write (answer : WriteAnswer ε) (bytes : List UInt8) : EStateM ε Contents Unit := fun contents =>
  match answer with
  | .refused error => .error error contents
  | .stopped count error => .error error (some (bytes.take count))
  | .complete => .ok () (some bytes)

@[simp] theorem read_of_some (missing : ε) (bytes : List UInt8) :
    read missing none (some bytes) = .ok bytes := rfl

theorem eq_some_of_read {missing : ε} {denied : Option ε} {contents : Contents}
    {bytes : List UInt8} (h : read missing denied contents = .ok bytes) :
    contents = some bytes := by
  cases contents with
  | none => cases h
  | some old =>
    cases denied with
    | none =>
      cases h
      rfl
    | some error => cases h

/-- The old contents survive a write of `bytes`. -/
def Survives (answer : WriteAnswer ε) (bytes : List UInt8) (contents : Contents) : Prop :=
  match answer with
  | .refused _ => True
  | .stopped count _ => contents = some (bytes.take count)
  | .complete => False

theorem write_error_unchanged_iff (answer : WriteAnswer ε) (bytes : List UInt8)
    (contents : Contents) :
    (∃ error, write answer bytes contents = .error error contents) ↔
      Survives answer bytes contents := by
  cases answer with
  | refused error => simp [write, Survives]
  | stopped count error =>
    simp only [write, Survives, EStateM.Result.error.injEq, exists_eq_left', eq_comm]
  | complete => simp [write, Survives]

/-! ## Several files -/

section Paths
variable {π : Type} [DecidableEq π]

def writeAt (path : π) (answer : WriteAnswer ε) (bytes : List UInt8) :
    EStateM ε (π → Contents) Unit :=
  zoom (fun files => files path) (fun contents files => Function.update files path contents)
    (write answer bytes)

theorem writeAt_run (path : π) (answer : WriteAnswer ε) (bytes : List UInt8)
    (files : π → Contents) :
    writeAt path answer bytes files = match answer with
      | .refused error => .error error files
      | .stopped count error => .error error (Function.update files path (some (bytes.take count)))
      | .complete => .ok () (Function.update files path (some bytes)) := by
  cases answer with
  | refused error => simp only [writeAt, zoom, write, Function.update_eq_self]
  | stopped count error => rfl
  | complete => rfl

theorem eq_update_of_writeAt {path : π} {answer : WriteAnswer ε} {bytes : List UInt8}
    {files written : π → Contents} (h : writeAt path answer bytes files = .ok () written) :
    written = Function.update files path (some bytes) := by
  rw [writeAt_run] at h
  cases answer with
  | refused error => cases h
  | stopped count error => cases h
  | complete =>
    cases h
    rfl

end Paths

end QuipNet.Library.File
