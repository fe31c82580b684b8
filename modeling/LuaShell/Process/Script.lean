import LuaShell.SystemShell.Builtin
import LuaShell.SystemShell.Grammar

/-!
# Running commands of system scripts

Commands are carried out one after the other; those of a pipeline too, each of which
reads what the one before has written.  A script can be left in the middle, by a
request of its own or by a signal.
-/

namespace LuaShell.SystemShell

/-- How programs are run that are no part of the interpreter. -/
abbrev Launch := List String → Run → Except Errno (Run → Run)

namespace Script

variable (launch : Launch)

/-! ## Streams -/

/-- A stream is read from given bytes. -/
def feed (bytes : ByteArray) (r : Run) : Run :=
  { r with host := { r.host with input := bytes.data.toList } }

/-- Change one stream; what cannot be done is answered. -/
def redirect (capture : Capture) (x : Redirection) (r : Run) : Except Run Run :=
  match x.redirect with
  | .here =>
      let (text, r) := Expansion.text capture x.target r
      .ok (feed text.toUTF8 r)
  | how =>
      let (name, r) := Expansion.text capture x.target r
      let p := Path.ofString name
      let refusal (what : String) (e : IoError) : Except Run Run :=
        let cause := match e with
          | .system n => if n = Errno.noEntry then
              (if what = "create" then "Directory nonexistent" else "No such file")
            else Errno.text n
          | e => e.message
        .error (r.failAt 2 s!"cannot {what} {name}: {cause}")
      let opened (mode : OpenMode) : Except Run Run :=
        match Run.namedStream? name with
        | some n => .ok (r.setSink x.stream (r.sink n))
        | none => match r.host.files.openFile p mode with
        | .error e => refusal "create" e
        | .ok (target, fs) =>
            let r := { r with host := { r.host with files := fs } }
            .ok (r.setSink x.stream (match target with
              | .file id => .file id
              | _ => .nowhere))
      match how with
      | .write => opened ⟨false, true, true, true, false⟩
      | .append => opened ⟨false, true, true, false, true⟩
      | .duplicate =>
          if name = "-" then .ok (r.setSink x.stream .nowhere)
          else if x.stream = 0 then
            if name = "0" || (name.toNat?.bind fun n => r.streams.lookup n).isSome then .ok r
            else .error (r.failAt 2 s!"{name}: Bad file descriptor")
          else match name.toNat? with
            | some n =>
                if (r.streams.lookup n).isSome then .ok (r.setSink x.stream (r.sink n))
                else .error (r.failAt 2 s!"{n}: Bad file descriptor")
            | none => opened ⟨false, true, true, true, false⟩
      | _ =>
          if p.bytes = FileSystem.sinkPath.bytes then .ok (feed .empty r)
          else if Run.namedStream? name = some 0 then .ok r
          else match r.host.files.readFile p with
            | .ok bytes => .ok (feed bytes r)
            | .error e =>
                if e = .system Errno.isDirectory then .ok (feed .empty r)
                else refusal "open" e

/-- Change streams one after the other. -/
def redirectAll (capture : Capture) : List Redirection → Run → Except Run Run
  | [], r => .ok r
  | x :: xs, r => match redirect capture x r with
    | .ok r => redirectAll capture xs r
    | failed => failed

/-- Whether something else is read after a redirection. -/
def reads (xs : List Redirection) : Bool :=
  xs.any fun x => x.stream = 0

/-- Do something with changed streams, which are as before afterwards. -/
def withStreams (capture : Capture) (xs : List Redirection) (r : Run) (act : Run → Run) : Run :=
  let streams := r.streams
  let input := r.host.input
  let after := match redirectAll capture xs r with
    | .ok r => act r
    | .error r => r
  let host := if reads xs then { after.host with input := input } else after.host
  { after with streams := streams, host := host }

/-- Do something in a script of its own and keep what it writes. -/
def kept (r : Run) (act : Run → Run) : ByteArray × Run :=
  let place := r.kept.size
  let streams := r.streams
  let r := { r with kept := r.kept.push .empty }
  let after := r.isolated fun r => act (r.setSink 1 (.kept place))
  let bytes := after.kept.getD place .empty
  (bytes, { after with streams := streams, kept := after.kept.extract 0 place })

/-! ## Programs -/

/-- A failure ends the script if that has been asked for. -/
def checked (r : Run) : Run :=
  if r.status ≠ 0 && r.options.contains 'e' && !r.isTested && r.flow = .normal then
    { r with flow := .exit }
  else r

/-- The status and the wording of a refusal to run a program. -/
def refusal (name : String) (e : Errno) : Nat × String :=
  if name.isEmpty then (127, s!"{name}: Permission denied")
  else if e = Errno.noEntry || e = Errno.notDirectory then (127, s!"{name}: not found")
  else if e = Errno.isDirectory || e = Errno.accessDenied then (126, s!"{name}: Permission denied")
  else (126, s!"{name}: {Errno.text e}")

/-- Run a program of the system; `before` begins complaints. -/
def external (runFile : String → List String → Run → Run) (before name : String)
    (words : List String) (r : Run) : Run :=
  match launch (name :: words) r with
  | .ok program =>
      let child := r.process + 1
      let after := r.isolated fun r => program { r with process := child, loops := 0 }
      match after.flow with
      | .killed process signal =>
          if process = child then
            { after.complain (Builtin.endText signal) with flow := r.flow, status := 128 + signal }
          else after
      | _ => after
  | .error e =>
      if e = Errno.badFormat then r.isolated (runFile name words)
      else
        let (status, message) := refusal name e
        r.failAt status (before ++ message)

/-- The file that a name stands for in the search path. -/
def whereIs? (name : String) (r : Run) : Option String :=
  if name.toList.contains '/' then
    if r.host.files.pathExists (Path.ofString name) then some name else none
  else
    let dirs := ((r.lookup? "PATH").getD "/bin:/usr/bin").splitOn ":"
    (dirs.map fun d => d ++ "/" ++ name).find? fun f =>
      r.host.files.pathExists (Path.ofString f) &&
        !r.host.files.isDirectory (Path.ofString f)

/-- What a name stands for: as `command -v` says it, and as `type` does. -/
def meaning? (name : String) (r : Run) : Option (String × String) :=
  let isBuiltin := (Builtin.plain? name).isSome || Builtin.running.contains name
  if Grammar.reserved.contains name then some (name, "a shell keyword")
  else if (r.functions.lookup name).isSome then some (name, "a shell function")
  else if isBuiltin && Builtin.special.contains name then some (name, "a special shell builtin")
  else if isBuiltin then some (name, "a shell builtin")
  else (whereIs? name r).map fun f => (f, f)

/-- Say what names stand for. -/
def sayMeanings (names : List String) (r : Run) : Run :=
  names.foldl (fun r name => match meaning? name r with
    | some (_, text) => r.say s!"{name} is {text}\n"
    | none => (r.say s!"{name}: not found\n").done 127) (r.done 0)

/-- Variables set for one command only. -/
def withVariables (vs : List (String × String)) (r : Run) (act : Run → Run) : Run :=
  let before := vs.map fun v => (v.1, r.lookup? v.1, r.exported.contains v.1)
  let inside := vs.foldl (fun r v => (r.setVariable v.1 v.2).exportVariable v.1) r
  let after := act inside
  before.foldl (fun (r : Run) (name, value, wasExported) =>
    let r := match value with
      | some v => r.setVariable name v
      | none => r.unsetVariable name
    if wasExported then r else { r with exported := r.exported.filter (· ≠ name) }) after

/-- Whether a word holds the output of a script. -/
def holdsOutput (w : Word) : Bool :=
  w.any fun
    | .output .. => true
    | _ => false

/-- The variables as they were before a function. -/
def restoreLocals (r : Run) : Run :=
  match r.locals with
  | [] => r
  | frame :: frames =>
      frame.foldl (fun (r : Run) v => match v.2 with
        | some value => r.setVariable v.1 value
        | none => r.unsetVariable v.1) { r with locals := frames }

/-- How a loop goes on after one round: whether it does, and the script. -/
def afterRound (r : Run) : Bool × Run :=
  match r.flow with
  | .leave n => (false, { r with flow := if n ≤ 1 then .normal else .leave (n - 1) })
  | .again n =>
      if n ≤ 1 then (true, { r with flow := .normal })
      else (false, { r with flow := .again (n - 1) })
  | .normal => (true, r)
  | _ => (false, r)

mutual

/-- Carry out a command. -/
def execute : Nat → Command → Run → Run
  | 0, _, r => r
  | n + 1, c, r =>
      let capture : Capture := fun source r => output n source r
      if r.options.contains 'n' then r
      else match c with
      | .simple line assignments words => checked (simple n line assignments words { r with line := line })
      | .redirected (.simple line assignments words) xs =>
          let r := { r with line := line }
          if words.all (fun w => w.plain? = some "exec") && words.length = 1 then
            match redirectAll capture xs r with
            | .ok r => r.done 0
            | .error r => { r with flow := .exit }
          else
            checked (withStreams capture xs r fun r => simple n line assignments words r)
      | .redirected c xs => withStreams capture xs r fun r => execute n c r
      | .pipeline isNegated parts =>
          let wasTested := r.isTested
          let r := parts_ n parts { r with isTested := wasTested || isNegated }
          let r := { r with isTested := wasTested }
          if isNegated then r.done (if r.status = 0 then 1 else 0) else checked r
      | .both a b =>
          let r := tested n a r
          if r.goesOn && r.status = 0 then execute n b r else r
      | .either a b =>
          let r := tested n a r
          if r.goesOn && r.status ≠ 0 then execute n b r else r
      | .sequence a b =>
          let r := execute n a r
          if r.goesOn then execute n b r else r
      | .background c =>
          let input := r.host.input
          let after := r.isolated fun r =>
            farewell n (execute n c { r with isBehind := true, host := { r.host with input := [] } })
          { after with
            behind := some after.status
            host := { after.host with input := input } }.done 0
      | .subshell body => checked (r.isolated fun r => farewell n (execute n body r))
      | .conditional condition body otherwise =>
          let r := tested n condition r
          if !r.goesOn then r
          else if r.status = 0 then execute n body r
          else match otherwise with
            | some c => execute n c r
            | none => r.done 0
      | .loop isUntil condition body =>
          let after := loop n isUntil condition body 0 { r with loops := r.loops + 1 }
          { after with loops := r.loops }
      | .forEach name words body =>
          let (items, r) := match words with
            | some ws => Expansion.allFields capture ws r
            | none => (r.arguments, r)
          if r.goesOn then
            let after := each n name body items { r.done 0 with loops := r.loops + 1 }
            { after with loops := r.loops }
          else r
      | .choice word arms =>
          let (text, r) := Expansion.text capture word r
          choose n text.toList arms (r.done 0)
      | .function name body =>
          { r with functions := (name, body) :: r.functions.filter (·.1 ≠ name) }.done 0

/-- Carry out a command whose failure is of no importance. -/
def tested : Nat → Command → Run → Run
  | 0, _, r => r
  | n + 1, c, r =>
      let wasTested := r.isTested
      let r := execute n c { r with isTested := true }
      { r with isTested := wasTested }

/-- Commands that read what the one before writes. -/
def parts_ : Nat → List Command → Run → Run
  | 0, _, r | _, [], r => r
  | n + 1, [c], r => r.isolated fun r => farewell n (execute n c r)
  | n + 1, c :: cs, r =>
      let (bytes, r) := kept r fun r => farewell n (execute n c r)
      let input := r.host.input
      let r := parts_ n cs (feed bytes r)
      feed ⟨input.toArray⟩ r

/-- The rounds of a loop; `status` is that of the last round. -/
def loop : Nat → Bool → Command → Command → Nat → Run → Run
  | 0, _, _, _, _, r => r
  | n + 1, isUntil, condition, body, status, r =>
      let r := tested n condition r
      let (mayGoOn, r) := afterRound r
      if !mayGoOn then r
      else if (r.status = 0) = isUntil then r.done status
      else
        let r := execute n body r
        let (goesOn, r) := afterRound r
        if goesOn then loop n isUntil condition body r.status r else r

/-- A loop over items. -/
def each : Nat → String → Command → List String → Run → Run
  | 0, _, _, _, r | _, _, _, [], r => r
  | n + 1, name, body, item :: items, r =>
      let r := execute n body (r.setVariable name item)
      let (goesOn, r) := afterRound r
      if goesOn then each n name body items r else r

/-- The first arm that fits. -/
def choose : Nat → List Char → List (List Word × Command) → Run → Run
  | 0, _, _, r | _, _, [], r => r
  | n + 1, text, (patterns, body) :: arms, r =>
      let capture : Capture := fun source r => output n source r
      let (isMatch, r) := patterns.foldl (fun (found, r) w =>
        let (fs, r) := Expansion.fill capture w r
        (found || Pattern.isMatch (Expansion.marks fs) text, r)) (false, r)
      if isMatch then execute n body r else choose n text arms r

/-- A simple command after its words have been filled in. -/
def simple : Nat → Nat → List (String × Word) → List Word → Run → Run
  | 0, _, _, _, r => r
  | n + 1, _, assignments, words, r =>
      let capture : Capture := fun source r => output n source r
      let (fields, r) := Expansion.allFields capture words r
      let (values, r) := assignments.foldl (fun (vs, r) a =>
        let (text, r) := Expansion.text capture a.2 r
        if fields.isEmpty then (vs, r.setVariable a.1 text) else (vs ++ [(a.1, text)], r))
        (([] : List (String × String)), r)
      if !r.goesOn then r
      else match fields with
        | [] =>
            if (assignments.map (·.2) ++ words).any holdsOutput then r else r.done 0
        | name :: args =>
            let r := if r.options.contains 'x' then
                r.complain ("+ " ++ " ".intercalate
                  (values.map (fun v => v.1 ++ "=" ++ v.2) ++ fields) ++ "\n") else r
            trapped n (
              if Builtin.special.contains name then
                call n name args (values.foldl (fun r v => r.setVariable v.1 v.2) r)
              else withVariables values r fun r => call n name args r)

/-- Carry out what is to be done on the signals that came. -/
def trapped : Nat → Run → Run
  | 0, r => r
  | n + 1, r => match r.signalled with
    | [] => r
    | signal :: rest =>
        let status := r.status
        let r := script n (Scan.ofText ((r.traps.lookup signal).getD "").toList)
          { r with signalled := rest }
        trapped n (if r.goesOn then r.done status else r)

/-- Run a command with its arguments. -/
def call : Nat → String → List String → Run → Run
  | 0, _, _, r => r
  | n + 1, name, args, r =>
      match r.functions.lookup name with
      | some body =>
          let arguments := r.arguments
          let loops := r.loops
          let r := execute n body { r with arguments := args, locals := [] :: r.locals, loops := 0 }
          let r := restoreLocals { r with arguments := arguments, loops := loops }
          if r.flow = .giveBack then { r with flow := .normal } else r
      | none => command n name args r

/-- Run a command that is no function. -/
def command : Nat → String → List String → Run → Run
  | 0, _, _, r => r
  | n + 1, name, args, r =>
      match name with
      | "eval" => script n (Scan.ofText (" ".intercalate args).toList) (r.done 0)
      | "exec" => match args with
        | [] => r.done 0
        | program :: rest =>
            let r := external launch (runFile n) "exec: " program rest r
            { r with flow := if r.flow.signal?.isSome then r.flow else .exit, farewell := none }
      | "command" => match args with
        | "-v" :: wanted :: _ => match meaning? wanted r with
          | some (text, _) => (r.say (text ++ "\n")).done 0
          | none => r.done 127
        | "-V" :: names => sayMeanings names r
        | "-p" :: program :: rest => command n program rest r
        | program :: rest => command n program rest r
        | [] => r.done 0
      | "type" => sayMeanings args r
      | "." => match args with
        | file :: _ => match r.host.files.readFile (Path.ofString file) with
          | .ok bytes =>
              let source := r.source
              let r := script n (Scan.ofText (Text.ofBytesLossy bytes).toList)
                { r.done 0 with source := some file }
              let r := { r with source := source }
              if r.flow = .giveBack then { r with flow := .normal } else r
          | .error _ =>
              { r.failHere 2 s!".: cannot open {file}: No such file" with flow := .exit }
        | [] => r.done 0
      | name => match Builtin.plain? name with
        | some act => act args r
        | none => external launch (runFile n) "" name args r

/-- Run a file as a script of its own. -/
def runFile : Nat → String → List String → Run → Run
  | 0, _, _, r => r
  | n + 1, name, args, r => match r.host.files.readFile (Path.ofString name) with
    | .ok bytes =>
        let r := { r with name := name, arguments := args, functions := [], options := [] }
        farewell n (script n (Scan.ofText (Text.ofBytesLossy bytes).toList) r)
    | .error e => r.failHere 126 s!"{name}: {Utility.systemText e}"

/-- The output of a script. -/
def output : Nat → List Char → Run → List Char × Run
  | 0, _, r => ([], r)
  | n + 1, source, r =>
      let (bytes, r) := kept r fun r => farewell n (script n (Scan.ofText source) (r.done 0))
      (Text.decodeLossy bytes.data.toList, r)

/-- Carry out the lines of a script. -/
def script : Nat → List Token → Run → Run
  | 0, _, r => r
  | n + 1, ts, r => match Grammar.line ts with
    | .error (cause, line) =>
        { ({ r with line := line }).failAt 2 cause.message with flow := .exit }
    | .ok (none, _) => r
    | .ok (some c, ts) =>
        let r := execute n c r
        if r.goesOn then script n ts r else r

/-- Carry out what was left for the end. -/
def farewell : Nat → Run → Run
  | 0, r => r
  | n + 1, r => match r.farewell with
    | none => r
    | some source =>
        let status := r.status
        let flow := r.flow
        let r := script n (Scan.ofText source) { r with farewell := none, flow := .normal }
        { r with
          status := if r.flow = .exit then r.status else status
          flow := if r.flow.signal?.isSome then r.flow else flow }

end

/-- How many steps a script can have. -/
def maxSteps : Nat := 0x1000000000

/-- Run the text of a script. -/
def interpret (source : String) (r : Run) : Run :=
  (farewell launch maxSteps (script launch maxSteps (Scan.ofText source.toList) r)).settle

/-- The interpreter as a program. -/
def main (args : List String) (r : Run) : Run :=
  let (letters, args) := Utility.options args
  let fresh (name : String) (arguments : List String) : Run :=
    { r with
      name := name, arguments := arguments, fixed := [], functions := [], locals := [], status := 0
      options := letters.filter (· ≠ 'c'), line := 1, isTested := false, farewell := none
      traps := r.traps.filter (·.2.isEmpty), signalled := [], source := none
      behind := none
      bindings := r.environment, loops := 0 }
  if letters.contains 'c' then match args with
    | [] => (fresh "sh" []).fail 2 "sh: 0: -c requires an argument"
    | source :: [] => interpret launch source (fresh "sh" [])
    | source :: name :: rest => interpret launch source (fresh name rest)
  else if letters.contains 's' || args.isEmpty then
    let (bytes, r) := (fresh "sh" args).takeInput
    interpret launch (String.ofList (Text.decodeLossy bytes)) r
  else match args with
    | [] => r
    | file :: rest => match r.host.files.readFile (Path.ofString file) with
      | .ok bytes => interpret launch (Text.ofBytesLossy bytes) (fresh file rest)
      | .error _ => (fresh "sh" []).fail 2 s!"sh: 0: cannot open {file}: No such file"

end Script

end LuaShell.SystemShell
