import LuaShell.FileSystem.Basic

/-!
# Looking up paths

A path is followed name by name.  Every name but the last has to lead to a
directory, two dots lead to the directory above, and a link is replaced by the
path it holds, forty times at most.  A slash at the end of a path asks for a
directory, as a dot after it would.
-/

namespace LuaShell

namespace Path

/-- The longest name that an entry can have. -/
def maxName : Nat := 255

/-- A path of this length is too long. -/
def maxLength : Nat := 4096

/-- How many links one lookup goes through at most. -/
def maxLinks : Nat := 40

/-- The parts of a path between slashes, dots included, empty ones left out. -/
def steps (p : Path) : List Name :=
  (parts p.bytes).filter (· ≠ [])

/-- Whether a path ends in a slash. -/
def endsInSlash (p : Path) : Bool :=
  p.bytes.getLast? = some slash

/-- The steps of a lookup; a slash at the end is a step that stays. -/
def lookupSteps (p : Path) : List Name :=
  if p.endsInSlash then p.steps ++ [[dot]] else p.steps

/-- What is wrong with a path before any directory has been looked at. -/
def refusal? (p : Path) : Option IoError :=
  if p.bytes.contains 0 then some .zeroInPath
  else if p.bytes = [] then some (.system Errno.noEntry)
  else if maxLength ≤ p.bytes.length then some (.system Errno.nameTooLong)
  else none

end Path

/-- The last step of a path, which decides what can be done there. -/
inductive LastStep where
  /-- A name, and whether slashes come after it. -/
  | name (n : Name) (slash : Bool)
  | current
  | parent
  | root

namespace FileSystem

open LuaShell.Path (dot)

/-- What one step from a directory comes to. -/
inductive Turn where
  /-- An entry that is no link stands there. -/
  | place (l : Location)
  /-- A link, and the path that it holds. -/
  | link (target : Path)

/-- What stepping onto the entry at a location comes to. -/
def Turn.onto (l : Location) : Node → Turn
  | .link target => .link target
  | _ => .place l

/-- Take one step from the directory at `here`. -/
def turn (root : Node) (here : Location) (c : Name) : Except Errno Turn :=
  match root.at? here with
  | some (.dir entries) =>
      if Path.maxName < c.length then .error Errno.nameTooLong
      else if c = [dot] then .ok (.place here)
      else if c = [dot, dot] then .ok (.place here.dropLast)
      else match entries.lookup c with
        | none => .error Errno.noEntry
        | some n => .ok (.onto (here ++ [c]) n)
  | _ => .error Errno.notDirectory

/-- Where the path that a link in the directory at `here` holds starts from. -/
def linkStart (target : Path) (here : Location) : Location :=
  if target.isAbsolute then [] else here

/-- Follow steps from the directory at `here`, through `links` links at most. `follow` says
whether a link in the last place is gone through. The answer is where the steps lead, and how
many links are left to go through. -/
def walk (root : Node) (follow : Bool) (links : Nat) (here : Location) (path : List Name) :
    Except Errno (Location × Nat) :=
  match path with
  | [] => .ok (here, links)
  | c :: rest =>
      match turn root here c with
      | .error e => .error e
      | .ok (.place l) => walk root follow links l rest
      | .ok (.link target) =>
          if rest = [] && !follow then .ok (here ++ [c], links)
          else match links with
            | 0 => .error Errno.tooManyLinks
            | n + 1 => walk root follow n (linkStart target here) (target.lookupSteps ++ rest)
termination_by (links, path.length)

theorem walk_nil (root : Node) (follow : Bool) (links : Nat) (here : Location) :
    walk root follow links here [] = .ok (here, links) := by
  rw [walk]

theorem walk_cons (root : Node) (follow : Bool) (links : Nat) (here : Location) (c : Name)
    (rest : List Name) :
    walk root follow links here (c :: rest) =
      match turn root here c with
      | .error e => .error e
      | .ok (.place l) => walk root follow links l rest
      | .ok (.link target) =>
          if rest = [] && !follow then .ok (here ++ [c], links)
          else match links with
            | 0 => .error Errno.tooManyLinks
            | n + 1 => walk root follow n (linkStart target here) (target.lookupSteps ++ rest) := by
  rw [walk]

/-- A lookup never has more links left than it began with. -/
theorem walk_links_le {root : Node} {follow : Bool} {links left : Nat} {here l : Location}
    {path : List Name} (h : walk root follow links here path = .ok (l, left)) : left ≤ links := by
  fun_induction walk root follow links here path with
  | case1 | case4 =>
      cases h
      exact Nat.le_refl _
  | case2 | case5 => cases h
  | case3 _ _ _ _ _ _ ih => exact ih h
  | case6 _ _ _ _ _ _ _ ih => exact Nat.le_succ_of_le (ih h)

/-- Where the lookup of a path starts. -/
def start (fs : FileSystem) (p : Path) : Except Errno Location :=
  if p.isAbsolute then .ok []
  else match fs.here with
    | some l => .ok l
    | none => .error Errno.noEntry

/-- The location of the entry that a path leads to. -/
def find (fs : FileSystem) (follow : Bool) (p : Path) : Except IoError Location :=
  match p.refusal? with
  | some e => .error e
  | none => (((fs.start p).bind fun l => walk fs.root follow Path.maxLinks l p.lookupSteps).map
      (·.1)).mapError .system

/-- The entry that a path leads to, through a link in the last place too. -/
def stat (fs : FileSystem) (p : Path) : Except IoError Node :=
  match fs.find true p with
  | .error e => .error e
  | .ok l => match fs.at? l with
    | some n => .ok n
    | none => .error (.system Errno.noEntry)

/-- The entry that a path leads to, a link in the last place being an entry itself. -/
def lstat (fs : FileSystem) (p : Path) : Except IoError Node :=
  match fs.find false p with
  | .error e => .error e
  | .ok l => match fs.at? l with
    | some n => .ok n
    | none => .error (.system Errno.noEntry)

/-- Whether a path leads to an entry. -/
def pathExists (fs : FileSystem) (p : Path) : Bool :=
  (fs.stat p).isOk

/-- Whether a path leads to a directory. -/
def isDirectory (fs : FileSystem) (p : Path) : Bool :=
  match fs.stat p with
  | .ok n => n.isDir
  | .error _ => false

/-- The last of the steps. -/
def lastStep (p : Path) : LastStep :=
  match p.steps.getLast? with
  | none => .root
  | some n =>
      if n = [dot] then .current
      else if n = [dot, dot] then .parent
      else .name n p.endsInSlash

/-- The directory in which the last step is taken, looked up from `origin`, and how many links
are left to go through. -/
def parentFrom (root : Node) (links : Nat) (origin : Location) (p : Path) :
    Except Errno (Location × Nat) :=
  match walk root true links origin p.steps.dropLast with
  | .error e => .error e
  | .ok (l, left) => match root.at? l with
    | some (.dir _) => .ok (l, left)
    | _ => .error Errno.notDirectory

theorem parentFrom_links_le {root : Node} {links left : Nat} {origin l : Location} {p : Path}
    (h : parentFrom root links origin p = .ok (l, left)) : left ≤ links := by
  unfold parentFrom at h
  split at h
  · cases h
  · next hwalk =>
      split at h
      · cases h
        exact walk_links_le hwalk
      · cases h

/-- The directory in which the last step of a path is taken, and that step. -/
def findParent (fs : FileSystem) (p : Path) : Except IoError (Location × LastStep) :=
  match p.refusal? with
  | some e => .error e
  | none => (((fs.start p).bind fun l => parentFrom fs.root Path.maxLinks l p).map
      fun above => (above.1, lastStep p)).mapError .system

/-- The entry of a name in the directory at `l`, if there is one. -/
def entryAt (fs : FileSystem) (l : Location) (name : Name) : Except IoError (Option Node) :=
  if Path.maxName < name.length then .error (.system Errno.nameTooLong)
  else .ok ((fs.at? l).bind (·.child? name))

end FileSystem

end LuaShell
