import LuaShell.Process.Launch
import LuaShell.Process.Script
import LuaShell.SystemShell.Calculation

/-!
# Programs of the system

How a name is turned into something that runs.  A name with a slash is a path; any
other is looked for in the directories of the search path, one after the other.
The file has to be executable; it is one of the programs that are always there, or
begins with a line that names its interpreter.
-/

namespace LuaShell.Program

open SystemShell (Run)

/-- The bytes that begin a program in machine code; the name of the program follows. -/
def mark : List UInt8 := [127, 69, 76, 70]

/-- The file of a program that is always there. -/
def image (name : String) : ByteArray :=
  ⟨(mark ++ Text.toBytes name).toArray⟩

/-- The small programs that are always there, and their names. -/
def utilities : List (String × SystemShell.Utility) :=
  ("expr", SystemShell.Calculation.expr) :: SystemShell.Utility.all ++ SystemShell.Search.all

/-- The programs that run another one, which their arguments name. -/
def wrappers : List String := ["env", "nice", "nohup", "timeout", "setsid", "xargs"]

/-- The programs that are always there. -/
def installed : List String :=
  "sh" :: wrappers ++ utilities.map (·.1)

/-- The directories that are searched when the environment names none. -/
def defaultSearchPath : String := "/bin:/usr/bin"

/-- The interpreter of a script and the argument for it, read off the first line. -/
def interpreter? (bytes : List UInt8) : Option (String × List String) :=
  match bytes with
  | 35 :: 33 :: rest =>
      let line := (Text.decodeLossy (rest.takeWhile (· ≠ 10))).take 253
      match Text.words line with
      | [] => none
      | name :: more =>
          let tail := Text.trim ((Text.trimStart line).drop name.length)
          some (String.ofList name, if more.isEmpty then [] else [String.ofList tail])
  | _ => none

/-- Whether a file has bits that let it run. -/
def isExecutable (f : File) : Bool :=
  f.mode % 2 = 1 || f.mode / 8 % 2 = 1 || f.mode / 64 % 2 = 1

/-- What a name and its arguments will run. Programs that run others do so in the same way, as
deep as `nested` says. -/
abbrev Finder := SystemShell.Launch

/-- Run a program for another one. -/
def runFor (find : Finder) (name : String) (words : List String) (r : Run) : Run :=
  match words with
  | [] => r.done 0
  | program :: _ => match find words r with
    | .ok act => act r
    | .error e =>
        let status := if e = Errno.noEntry then 127 else 126
        let what := match name with
          | "timeout" | "nohup" => "failed to run command "
          | "setsid" => "failed to execute "
          | _ => ""
        let shown := if name = "setsid" || name = "xargs" then
            (if name = "xargs" then program else what ++ program) else what ++ s!"'{program}'"
        r.fail status s!"{name}: {shown}: {Errno.text e}"

/-- What `env` is asked for: variables are set or unset before a program is run. -/
def env (find : Finder) : Nat → List String → Run → Run
  | 0, _, r => r
  | n + 1, args, r => match args with
    | "-i" :: rest | "-" :: rest => env find n rest { r with bindings := [], exported := [] }
    | "-u" :: name :: rest => env find n rest (r.unsetVariable name)
    | "--" :: rest => env find n rest r
    | [] => SystemShell.Utility.env [] r
    | a :: rest =>
        if a.toList.contains '=' then
          let (name, r) := SystemShell.Builtin.assign a r
          env find n rest (r.exportVariable name)
        else runFor find "env" args r

/-- Run one of the programs that are always there. -/
def run (find : Finder) (name : String) (arguments : List String) (r : Run) : Run :=
  match name with
  | "sh" => SystemShell.Script.main find arguments r
  | "env" => env find (arguments.length + 1) arguments r
  | "nice" => match arguments with
    | "-n" :: _ :: words => runFor find name words r
    | words => runFor find name words r
  | "nohup" | "setsid" => runFor find name arguments r
  | "timeout" => match arguments with
    | _ :: words => runFor find name words r
    | [] => SystemShell.Utility.misused r "timeout" "missing operand" 125
  | "xargs" =>
      let (bytes, r) := r.takeInput
      let words := (Text.words (Text.decodeLossy bytes)).map String.ofList
      runFor find name ((if arguments.isEmpty then ["echo"] else arguments) ++ words) r
  | name => match utilities.lookup name with
    | some utility => utility arguments r
    | none => r.done 0

/-- Load the file at a path: what will run, or the system's refusal. -/
def load (find : Finder) (levels : Nat) (fs : FileSystem) (p : Path) (arguments : List String) :
    Except Errno (Run → Run) :=
  match fs.stat p with
  | .error (.system e) => .error e
  | .error _ => .error Errno.noEntry
  | .ok node => match fs.file? node with
    | none => .error Errno.accessDenied
    | some f =>
        let bytes := f.bytes.data.toList
        if !isExecutable f then .error Errno.accessDenied
        else if mark.isPrefixOf bytes then
          .ok (run find (String.ofList (Text.decodeLossy (bytes.drop mark.length))) arguments)
        else match interpreter? bytes, levels with
          | none, _ => .error Errno.badFormat
          | some _, 0 => .error Errno.tooManyLinks
          | some (name, more), levels + 1 =>
              load find levels fs (Path.ofString name) (more ++ p.display :: arguments)

/-- Scripts whose interpreters are scripts may be nested so deep. -/
def maxInterpreters : Nat := 5

/-- Try the directories of a search path. A directory without the program is passed over;
a refusal of access is remembered. -/
def search (finder : Finder) (fs : FileSystem) (name : String) (arguments : List String)
    (denied : Bool) (last : Errno) : List String → Except Errno (Run → Run)
  | [] => .error (if denied then Errno.accessDenied else last)
  | d :: ds =>
      let p := if d.isEmpty then Path.ofString name
        else (Path.ofString d).join (Path.ofString name)
      match load finder maxInterpreters fs p arguments with
      | .ok program => .ok program
      | .error e =>
          if e = Errno.accessDenied then search finder fs name arguments true last ds
          else if e = Errno.noEntry || e = Errno.notDirectory then
            search finder fs name arguments denied e ds
          else .error e

/-- What words will run, when programs can be nested so deep. -/
def find : Nat → Finder
  | 0, _, _ => .error Errno.again
  | n + 1, words, r => match words with
    | [] => .error Errno.noEntry
    | name :: arguments =>
        if name.isEmpty then .error Errno.noEntry
        else if name.toList.contains '/' then
          load (find n) maxInterpreters r.host.files (Path.ofString name) arguments
        else
          let searchPath := (r.lookup? "PATH").getD defaultSearchPath
          search (find n) r.host.files name arguments false Errno.noEntry
            (searchPath.splitOn ":")

/-- How deep programs can be nested. -/
def maxDepth : Nat := 1000

/-- How a program has ended. -/
def endingOf (r : Run) : Ending :=
  if r.flow.signal?.isSome then .killed else .exited r.status

/-- Start a program on the host. -/
def start (words : List String) (h : Host) : Except Errno (Child Host) × Host :=
  let name := (words.head?).getD ""
  match find maxDepth words (.start h name []) with
  | .error e => (.error e, h)
  | .ok program =>
      let finish (h : Host) : Ending × Host :=
        let r := Run.isolated (.start h name []) program
        (endingOf r, { r.host with nextPid := h.nextPid + 1 })
      (.ok ⟨h.nextPid, 0, id, finish⟩, h)

/-- The system as the platform of a host. -/
def platform : Platform Host where
  start := start
  write text h := h.print text
  trace text h := h.record .debug "luash::process::posix" text

end LuaShell.Program

namespace LuaShell.Host

/-- Hand a request to whoever starts programs. -/
def dispatch (h : Host) (r : Request) : Except ProcessError Exit × Host :=
  match h.spawner with
  | .posix => Launch.launch Program.platform r h
  | .unsupported => (.error .unsupported, h)
  | .recording answer =>
      let h := { h with requests := h.requests.push r }
      match answer with
      | .ok code => (.ok ⟨7, code⟩, h)
      | .error e => (.error e, h)

/-- Run a program to its end; a file of its name in the working directory goes first. -/
def spawn (h : Host) (r : Request) : Except ProcessError Exit × Host :=
  let found := r.resolveProgram h.directory h.files
  let h := match r.localProgram? h.directory h.files with
    | some here => h.record .debug "luash::process" s!"using local executable {here.display}"
    | none => h
  let h := h.record .debug "luash::core::session"
    s!"running {found.program} {Text.quoteList found.arguments} via {h.spawner.name}"
  h.dispatch found

end LuaShell.Host
