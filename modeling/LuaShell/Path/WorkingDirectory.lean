import LuaShell.Path.Home
import LuaShell.Path.Normal
import LuaShell.FileSystem.Error

/-!
# The working directory

The shell keeps a directory of its own and never moves the process.  Relative
paths start from it; a leading `~` starts from the home directory instead, and an
absolute path stands for itself.  Changing the directory by a path folds the dots
away and asks that a directory be there; walking up needs no directory at all.
-/

namespace LuaShell

/-- Why the working directory cannot be had or changed. -/
inductive PathError where
  | notDirectory (path : Path)
  | noHome
  | unknown (cause : IoError)
  deriving DecidableEq

namespace PathError

/-- The wording of a failure. -/
def message : PathError → String
  | .notDirectory path => s!"{path.display} is not a directory"
  | .noHome => "Home directory not found"
  | .unknown cause => s!"cannot determine the working directory: {cause.message}"

/-- The failure below this one. -/
def source? : PathError → Option String
  | .unknown cause => some cause.message
  | _ => none

end PathError

/-- Where to go. -/
inductive DirectoryTarget where
  /-- Up so many directories; the root stays the root. -/
  | up (steps : UInt64)
  | path (raw : Path)

/-- The shell's directory, and the home directory that a leading `~` stands for. -/
structure WorkingDirectory where
  current : Path
  home : Option Path

namespace WorkingDirectory

/-- The path that a text stands for, starting from the working directory. -/
def resolve (d : WorkingDirectory) (raw : Path) : Path :=
  if raw.isAbsolute then raw
  else if raw.isHomePath then
    match raw.expandHome d.home with
    | some p => if p.isAbsolute then p else d.current.join raw
    | none => d.current.join raw
  else d.current.join raw

/-- Up so many directories, or as far as it goes, and the number of steps that are tried: one
that finds nothing above is the last. -/
def walkUpCounted : Nat → Path → Path × Nat
  | 0, p => (p, 0)
  | n + 1, p => match p.parent with
    | none => (p, 1)
    | some above =>
        let (top, tried) := walkUpCounted n above
        (top, tried + 1)

/-- Up so many directories, or as far as it goes. -/
def walkUp (steps : Nat) (p : Path) : Path :=
  (walkUpCounted steps p).1

theorem walkUp_zero (p : Path) : walkUp 0 p = p := rfl

theorem walkUp_succ (n : Nat) (p : Path) :
    walkUp (n + 1) p = match p.parent with
      | none => p
      | some above => walkUp n above := by
  rw [walkUp, walkUpCounted]
  cases p.parent <;> rfl

/-- Go somewhere, if there is a directory. -/
def change (d : WorkingDirectory) (isDirectory : Path → Bool) :
    DirectoryTarget → Except PathError WorkingDirectory
  | .up steps => .ok { d with current := walkUp steps.toNat d.current }
  | .path raw =>
      let candidate := (d.resolve raw).normalize
      if isDirectory candidate then .ok { d with current := candidate }
      else .error (.notDirectory candidate)

end WorkingDirectory

end LuaShell
