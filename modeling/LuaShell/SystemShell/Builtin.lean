import LuaShell.SystemShell.Expansion
import LuaShell.SystemShell.Utility

/-!
# Commands of the interpreter itself

Commands that change the running script, and those that the interpreter has of its own
although there are programs of the same names.
-/

namespace LuaShell.SystemShell.Builtin

/-- Commands after which variables that were set before them keep their values. -/
def special : List String :=
  [":", ".", "break", "continue", "eval", "exec", "exit", "export", "readonly", "return", "set",
   "shift", "times", "trap", "unset"]

/-- A whole number, or a complaint that ends the script. -/
def withNumber (name text : String) (r : Run) (act : Nat → Run) : Run :=
  match text.toNat? with
  | some n => act n
  | none => { r.failHere 2 s!"{name}: Illegal number: {text}" with flow := .exit }

/-- `exit`. -/
def exit : Utility := fun args r =>
  match args with
  | [] => { r with flow := .exit }
  | n :: _ => withNumber "exit" n r fun n => { r.done (n % 256) with flow := .exit }

/-- `return`. -/
def giveBack : Utility := fun args r =>
  match args with
  | [] => { r with flow := .giveBack }
  | n :: _ => withNumber "return" n r fun n => { r.done (n % 256) with flow := .giveBack }

/-- `break` or `continue`. Outside of loops nothing is done. -/
def outOf (name : String) (flow : Nat → Flow) : Utility := fun args r =>
  let out (n : Nat) : Run :=
    if r.loops = 0 then r.done 0 else { r.done 0 with flow := flow (min n r.loops) }
  match args with
  | [] => out 1
  | "0" :: _ => { r.failHere 2 s!"{name}: Illegal number: 0" with flow := .exit }
  | n :: _ => withNumber name n r out

/-- The numbers of signals. -/
def signals : List (String × Nat) :=
  [("HUP", 1), ("INT", 2), ("QUIT", 3), ("KILL", 9), ("USR1", 10), ("USR2", 12), ("PIPE", 13),
   ("ALRM", 14), ("TERM", 15)]

/-- The signal that a text names. -/
def signal? (text : String) : Option Nat :=
  match text.toNat? with
  | some n => some n
  | none => signals.lookup (if text.startsWith "SIG" then (text.drop 3).toString else text)

/-- The name of a signal. -/
def signalName (n : Nat) : String :=
  ((signals.find? (·.2 = n)).map (·.1)).getD (toString n)

/-- How `kill` is used. -/
def killUsage : String :=
  "kill: Usage: kill [-s sigspec | -signum | -sigspec] [pid | job]... or\nkill -l [exitstatus]"

/-- What a process says of another one that a signal ended; nothing of an interrupt and of a
pipe that nobody reads. -/
def endText (signal : Nat) : String :=
  if signal = 2 || signal = 13 then ""
  else
    let what := ([(1, "Hangup"), (3, "Quit"), (6, "Aborted"), (9, "Killed"),
      (10, "User defined signal 1"), (12, "User defined signal 2"), (14, "Alarm clock"),
      (15, "Terminated")].lookup signal).getD s!"Signal {signal}"
    what ++ "\n"

/-- The script gets a signal. -/
def receive (signal : Nat) (r : Run) : Run :=
  let ended : Run := { r with flow := .killed r.process signal }
  match r.traps.lookup signal with
  | some action =>
      if signal = 9 then ended
      else if action.isEmpty then r.done 0
      else { r.done 0 with signalled := r.signalled ++ [signal] }
  | none => if signal = 0 || signal = 17 || signal = 18 then r.done 0 else ended

/-- `kill`. The script itself is the only program that runs. -/
def kill : Utility := fun args r =>
  let (signal, targets) : Option Nat × List String := match args with
    | "-s" :: name :: rest => (signal? name, rest)
    | "--" :: rest => (some 15, rest)
    | a :: rest => if a.startsWith "-" then (signal? (a.drop 1).toString, rest) else (some 15, args)
    | [] => (some 15, [])
  if args.head? = some "-l" then
    (r.say (String.join ("0\n" :: signals.map fun n => n.1 ++ "\n"))).done 0
  else match signal with
  | none =>
      let name := (((args.head?).getD "").drop 1).toString
      r.failHere 2 s!"kill: invalid signal number or name: {name}"
  | some signal =>
      if targets.contains (toString r.process) then receive signal r
      else match targets with
        | [] => r.failHere 2 killUsage
        | target :: _ =>
            if (target.toInt?).isSome then r.failHere 1 "kill: No such process\n"
            else r.failHere 2 s!"kill: Illegal number: {target}"

/-- Set a variable as `name=value` says, if that is what it says. -/
def assign (a : String) (r : Run) : String × Run :=
  match a.splitOn "=" with
  | [name] => (name, r)
  | name :: rest => (name, r.setVariable name ("=".intercalate rest))
  | [] => ("", r)

/-- `export`. -/
def exportAll : Utility := fun args r =>
  let args := args.filter (· ≠ "-p")
  if args.isEmpty then
    (r.say (String.join (r.environment.map fun (k, v) => s!"export {k}='{v}'\n"))).done 0
  else (args.foldl (fun r a =>
    let (name, r) := assign a r
    r.exportVariable name) r).done 0

/-- `readonly`. -/
def readonly : Utility := fun args r =>
  let after := args.foldl (fun r a =>
    let (name, r) := assign a r
    { r with fixed := name :: r.fixed }) r
  if after.goesOn then after.done 0 else after

/-- `local`. -/
def makeLocal : Utility := fun args r =>
  match r.locals with
  | [] => r.failHere 2 "local: not in a function"
  | frame :: frames =>
      let r := args.foldl (fun (r : Run) a =>
        let name := ((a.splitOn "=").head?).getD ""
        let frame := (name, r.lookup? name) :: (r.locals.head?).getD frame
        let r := { r with locals := frame :: frames }
        (assign a r).2) r
      r.done 0

/-- `unset`. -/
def unset : Utility := fun args r =>
  (args.foldl (fun (r : Run) a => match a with
    | "-v" | "-f" => r
    | name =>
        let r := { r with functions := r.functions.filter (·.1 ≠ name) }
        r.unsetVariable name) r).done 0

/-- `shift`. -/
def shift : Utility := fun args r =>
  let by_ (n : Nat) : Run :=
    if r.arguments.length < n then
      { r.failHere 2 "shift: can't shift that many" with flow := .exit }
    else { r with arguments := r.arguments.drop n }.done 0
  match args with
  | [] => by_ 1
  | n :: _ => withNumber "shift" n r by_

/-- Options by their names and letters. -/
def optionNames : List (String × Char) :=
  [("errexit", 'e'), ("noglob", 'f'), ("ignoreeof", 'I'), ("interactive", 'i'), ("monitor", 'm'),
   ("noexec", 'n'), ("stdin", 's'), ("xtrace", 'x'), ("verbose", 'v'), ("vi", 'V'),
   ("emacs", 'E'), ("noclobber", 'C'), ("allexport", 'a'), ("notify", 'b'), ("nounset", 'u'),
   ("privileged", 'p'), ("nolog", '_'), ("debug", '.')]

/-- `set`. -/
def set : Nat → Utility
  | 0, _, r => r
  | n + 1, args, r => match args with
    | [] =>
        let vs := r.bindings.mergeSort fun a b => a.1 ≤ b.1
        (r.say (String.join (vs.map fun (k, v) => s!"{k}='{v}'\n"))).done 0
    | "--" :: rest => { r with arguments := rest }.done 0
    | "-o" :: name :: rest | "+o" :: name :: rest =>
        let letter := (optionNames.lookup name).toList
        let isOn := args.head? = some "-o"
        let options := if isOn then letter ++ r.options
          else r.options.filter fun c => !letter.contains c
        let r := { r with options := options }
        if rest.isEmpty then r.done 0 else set n rest r
    | ["-o"] =>
        let row (name : String) (letter : Char) : String :=
          name ++ "".pushn ' ' (16 - name.length) ++
            (if r.options.contains letter then "on\n" else "off\n")
        (r.say ("Current option settings\n" ++ String.join (optionNames.map fun o => row o.1 o.2))).done 0
    | a :: rest => match a.toList with
      | '-' :: c :: cs =>
          match (c :: cs).find? fun c => !(optionNames.any (·.2 = c)) with
          | some bad => { r.failHere 2 s!"set: Illegal option -{bad}" with flow := .exit }
          | none =>
          let r := { r with options := (c :: cs) ++ r.options }
          if rest.isEmpty then r.done 0 else set n rest r
      | '+' :: cs =>
          let r := { r with options := r.options.filter fun c => !cs.contains c }
          if rest.isEmpty then r.done 0 else set n rest r
      | _ => { r with arguments := args }.done 0

/-- `cd`. -/
def cd : Utility := fun args r =>
  let target := match args with
    | [] => (r.lookup? "HOME").getD ""
    | "-" :: _ => (r.lookup? "OLDPWD").getD ""
    | d :: _ => d
  let fs := r.host.files
  let p := Path.ofString (if target.isEmpty then "." else target)
  match if fs.isDirectory p then fs.find true p else .error .notFound with
  | .error _ => r.failHere 2 s!"cd: can't cd to {target}"
  | .ok l =>
      let before := r.directory
      let r := { r with host := { r.host with files := { fs with here := some l } } }
      let r := (r.setVariable "OLDPWD" before).setVariable "PWD" r.directory
      if args.head? = some "-" then (r.say (r.directory ++ "\n")).done 0 else r.done 0

/-- `test` or `[`. -/
def test (isBracket : Bool) : Utility := fun args r =>
  let name := if isBracket then "[" else "test"
  let tested := if isBracket then args.dropLast else args
  if isBracket && args.getLast? ≠ some "]" then r.failHere 2 "[: missing ]"
  else match Test.judge r.host.files (args.length + 1) false tested with
    | .ok v => r.done (if v then 0 else 1)
    | .error e => r.failHere 2 s!"{name}: {e.message}"

/-- The next line of the input, whether it had an end, and what follows it. A backslash guards a
character, or takes a line end away. -/
def takeLine (isRaw : Bool) : List UInt8 → List (UInt8 × Bool) × Bool × List UInt8
  | [] => ([], false, [])
  | 92 :: b :: rest =>
      if isRaw then
        let (l, ends, rest) := takeLine isRaw (b :: rest)
        ((92, false) :: l, ends, rest)
      else
        let (l, ends, rest) := takeLine isRaw rest
        if b = 10 then (l, ends, rest) else ((b, true) :: l, ends, rest)
  | b :: rest =>
      if b = 10 then ([], true, rest)
      else
        let (l, ends, rest) := takeLine isRaw rest
        ((b, false) :: l, ends, rest)

/-- The fields of a line for so many variables; the last one takes all that is left. -/
def lineFields (separators : List Char) : Nat → List Filled → List String
  | 0, _ => []
  | n + 1, fs =>
      let isBlank (f : Filled) : Bool := match f with
        | .loose c => separators.contains c && " \t".toList.contains c
        | _ => false
      let isEnd (f : Filled) : Bool := match f with
        | .loose c => separators.contains c
        | _ => false
      let fs := fs.dropWhile isBlank
      if n = 0 then
        let kept := (fs.reverse.dropWhile isBlank).reverse
        [String.ofList (Expansion.textOf kept)]
      else
        let field := fs.takeWhile fun f => !isEnd f
        let rest := (fs.drop field.length).dropWhile isBlank
        let rest := match rest with
          | f :: more => if isEnd f then more else rest
          | [] => []
        let rest := match fs.drop field.length with
          | f :: _ => if isBlank f then (fs.drop field.length).dropWhile isBlank else rest
          | [] => []
        String.ofList (Expansion.textOf field) :: lineFields separators n rest

/-- `read`. -/
def read : Utility := fun args r =>
  let (letters, names) := Utility.options args
  if names.isEmpty then r.failHere 2 "read: arg count" else
  let (line, ends, rest) := takeLine (letters.contains 'r') r.host.input
  let r := { r with host := { r.host with input := rest } }
  let filled : List Filled := line.flatMap fun (b, isGuarded) =>
    let c := Char.ofNat b.toNat
    if isGuarded then [.mark ⟨c, true⟩] else [.loose c]
  let values := lineFields (Expansion.separators r) names.length filled
  let r := (names.zip values).foldl (fun r v => r.setVariable v.1 v.2) r
  r.done (if ends then 0 else 1)

/-- The condition that a text names; zero is the end of the script. -/
def condition? (text : String) : Option Nat :=
  if text = "EXIT" then some 0 else (signal? text).filter (· < 65)

/-- `trap` for one condition. -/
def trapOne (action : Option String) (r : Run) (text : String) : Run :=
  match condition? text with
  | none => r.failHere 1 s!"trap: {text}: bad trap"
  | some 0 => { r with farewell := action.map String.toList }
  | some n =>
      let others := r.traps.filter (·.1 ≠ n)
      { r with traps := (action.map fun a => (n, a)).toList ++ others }

/-- `trap`. -/
def trap : Utility := fun args r =>
  let args := if args.head? = some "--" then args.drop 1 else args
  match args with
  | [] =>
      let last := (r.farewell.map fun a => (0, String.ofList a)).toList
      let all := last ++ r.traps.mergeSort fun a b => a.1 ≤ b.1
      (r.say (String.join (all.map fun (n, action) =>
        let name := if n = 0 then "EXIT" else signalName n
        s!"trap -- '{action}' {name}\n"))).done 0
  | [one] => trapOne none (r.done 0) one
  | action :: conditions =>
      if action.toNat?.isSome then (action :: conditions).foldl (trapOne none) (r.done 0)
      else conditions.foldl (trapOne (if action = "-" then none else some action)) (r.done 0)

/-- `wait`. What ran while the script went on has come to its end. -/
def wait : Utility := fun args r =>
  let r := r.settle
  match args with
  | [] => r.done 0
  | id :: _ =>
      if some id = r.parameter? "!" then r.done (r.behind.getD 0) else r.done 127

/-- A command about another one that runs beside the script; there is none. -/
def noJob (name : String) : Utility := fun _ r => r.failHere 2 s!"{name}: No current job"

/-- The commands that need no other ones. -/
def plain : List (String × Utility) :=
  [(":", fun _ r => r.done 0), ("true", fun _ r => r.done 0), ("false", fun _ r => r.done 1),
   ("exit", exit), ("return", giveBack), ("break", outOf "break" .leave),
   ("continue", outOf "continue" .again), ("kill", kill), ("export", exportAll),
   ("readonly", readonly), ("local", makeLocal), ("unset", unset), ("shift", shift),
   ("set", fun args r => set (args.length + 1) args r), ("cd", cd), ("test", test false),
   ("[", test true), ("read", read), ("trap", trap), ("pwd", Utility.pwd),
   ("echo", fun args r => (Utility.put (Printed.echoText args) r).done 0),
   ("printf", fun args r => Utility.printfAs s!"{r.name}: {r.line}: printf" args r),
   ("umask", fun args r => (if args.isEmpty then r.say "0022\n" else r).done 0),
   ("wait", wait),
   ("bg", noJob "bg"), ("fg", noJob "fg"), ("ulimit", fun _ r => (r.say "unlimited\n").done 0),
   ("times", fun _ r => (r.say "0m0.00s 0m0.00s\n0m0.00s 0m0.00s\n").done 0),
   ("hash", fun _ r => r.done 0), ("alias", fun _ r => r.done 0), ("jobs", fun _ r => r.done 0)]

/-- The command of a name. -/
def plain? (name : String) : Option Utility := plain.lookup name

/-- The commands that run others. -/
def running : List String := ["eval", "exec", "command", ".", "type"]

end LuaShell.SystemShell.Builtin
