import LuaShell.FileSystem.Tree
import LuaShell.SystemShell.Printed
import LuaShell.SystemShell.Test

/-!
# Programs of the system

The small programs that are always there: each takes arguments, reads the input,
writes to the streams, and ends with a status.
-/

namespace LuaShell.SystemShell

/-- A program: its arguments, and what it does. -/
abbrev Utility := List String → Run → Run

namespace Utility

/-! ## Arguments -/

/-- The letters of the options at the beginning, and the other arguments. -/
def options : List String → List Char × List String
  | [] => ([], [])
  | a :: rest =>
      if a = "--" then ([], rest)
      else match a.toList with
        | '-' :: c :: cs =>
            let (letters, others) := options rest
            (c :: cs ++ letters, others)
        | _ => ([], a :: rest)

/-- What an error of the system is called. -/
def systemText : IoError → String
  | .system n => Errno.text n
  | e => e.message

/-- Change the files, or complain. -/
def change (r : Run) (message : String) (answer : Except IoError FileSystem) : Run :=
  match answer with
  | .ok fs => { r with host := { r.host with files := fs } }
  | .error e => r.fail 1 s!"{message}: {systemText e}"

/-- The same with a change of a whole tree. -/
def changeTree (r : Run) (message : String) (answer : FileSystem.Outcome) : Run :=
  let r := { r with host := { r.host with files := answer.2 } }
  match answer.1 with
  | .ok () => r
  | .error e => r.fail 1 s!"{message}: {systemText e}"

/-- Carry something out for each argument; the status is that of the worst. -/
def forAll (args : List String) (act : String → Run → Run) (r : Run) : Run :=
  args.foldl (fun r a =>
    let after := act a (r.done 0)
    after.done (max r.status after.status)) (r.done 0)

/-- The complaint of a program about a file that cannot be read. -/
def readFault (name file : String) (e : IoError) : Nat × String :=
  let isFolder : Bool := match e with
    | .system n => n = Errno.isDirectory
    | _ => false
  match name with
  | "head" | "tail" =>
      (1, if isFolder then s!"{name}: error reading '{file}': {systemText e}"
        else s!"{name}: cannot open '{file}' for reading: {systemText e}")
  | "sort" =>
      (2, if isFolder then s!"sort: read failed: {file}: {systemText e}"
        else s!"sort: cannot read: {file}: {systemText e}")
  | "tac" =>
      (1, if isFolder then s!"tac: {file}: read error: {systemText e}"
        else s!"tac: failed to open '{file}' for reading: {systemText e}")
  | "rev" => (1, s!"rev: cannot open {file}: {systemText e}")
  | "grep" => (2, s!"grep: {file}: {systemText e}")
  | _ => (1, s!"{name}: {file}: {systemText e}")

/-- The bytes of a file, or of the input for a dash. -/
def contents (name file : String) (r : Run) : Option (List UInt8) × Run :=
  if file = "-" || file = "/dev/stdin" then
    let (bytes, r) := r.takeInput
    (some bytes, r)
  else if file = FileSystem.sinkPath.display then (some [], r)
  else match r.host.files.readFile (Path.ofString file) with
    | .ok bytes => (some bytes.data.toList, r)
    | .error e =>
        let (status, message) := readFault name file e
        (none, r.fail status message)

/-- Do something with the bytes of each of some files, or with the input. -/
def forContents (name : String) (files : List String) (act : List UInt8 → Run → Run)
    (r : Run) : Run :=
  forAll (if files.isEmpty then ["-"] else files) (fun file r =>
    match contents name file r with
    | (some bytes, r) => act bytes r
    | (none, r) => r) r

/-- The bytes of all of some files together. -/
def together (name : String) (files : List String) (r : Run) : List UInt8 × Run :=
  (if files.isEmpty then ["-"] else files).foldl (fun (all, r) file =>
    match contents name file r with
    | (some bytes, r) => (all ++ bytes, r)
    | (none, r) => (all, r)) ([], r.done 0)

/-- Write bytes to the standard output. -/
def put (bytes : List UInt8) (r : Run) : Run :=
  r.write 1 ⟨bytes.toArray⟩

/-- Lines of a text, without their ends; a text that ends in a line end has no line after it. -/
def lines (bytes : List UInt8) : List (List UInt8) :=
  match bytes with
  | [] => []
  | bytes => go [] bytes
where
  go (line : List UInt8) : List UInt8 → List (List UInt8)
    | [] => if line.isEmpty then [] else [line.reverse]
    | b :: rest => if b = 10 then line.reverse :: go [] rest else go (b :: line) rest

/-- Lines with their ends. -/
def unlines (ls : List (List UInt8)) : List UInt8 :=
  ls.flatMap (· ++ [10])

/-- A complaint about how a program is used. -/
def misused (r : Run) (name message : String) (status : Nat) : Run :=
  r.fail status s!"{name}: {message}\nTry '{name} --help' for more information."

/-! ## Output -/

/-- `echo`: the arguments with blanks between them. -/
def echo : Utility := fun args r =>
  let isOption (a : String) : Bool := match a.toList with
    | '-' :: cs => !cs.isEmpty && cs.all "neE".toList.contains
    | _ => false
  let given := args.takeWhile isOption
  let letters := given.flatMap fun a => a.toList.drop 1
  let cs := (" ".intercalate (args.drop given.length)).toList
  let escapes := (letters.filter (· ≠ 'n')).getLast? = some 'e'
  let out : Printed.Output :=
    if escapes then Printed.escaped true (cs.length + 1) cs
    else ⟨Text.toBytes (String.ofList cs), false⟩
  let newline := if letters.contains 'n' || out.isOver then [] else [10]
  (put (out.bytes ++ newline) r).done 0

/-- `printf`. `prefixText` begins its complaints. -/
def printfAs (before : String) : Utility := fun args r =>
  match if args.head? = some "--" then args.drop 1 else args with
  | [] => r.fail 2 s!"{before}: usage: printf format [arg ...]"
  | format :: args =>
      let out := Printed.passes format.toList (args.length + 1) args
      let r := (put out.bytes r).done 0
      let r := out.faults.foldl (fun r a => r.fail 1 s!"{before}: {a}: expected numeric value") r
      match out.bad with
      | some cs =>
          let shown := String.ofList (cs.take 1)
          r.fail 2 s!"{before}: %{shown}: invalid directive"
      | none => r

/-- `printf`. -/
def printf : Utility := fun args r =>
  match args with
  | [] => misused r "printf" "missing operand" 1
  | format :: args =>
      let out := Printed.passes format.toList (args.length + 1) args
      let r := (put out.bytes r).done 0
      out.faults.foldl (fun r a => r.fail 1 s!"printf: '{a}': expected a numeric value") r

/-- Lines with their ends, the last of which may have none. -/
def wholeLines (bytes : List UInt8) : List (List UInt8) :=
  let ls := lines bytes
  match bytes.getLast? with
  | some 10 | none => ls.map (· ++ [10])
  | some _ => ls.dropLast.map (· ++ [10]) ++ ls.getLast?.toList

/-- Lines as `cat` shows them, from a number on; answers the next number too. -/
def shownLines (letters : List Char) :
    Nat → Bool → List (List UInt8) → List (List UInt8) × Nat
  | n, _, [] => ([], n)
  | n, afterBlank, l :: ls =>
      let isBlank := l = [10]
      if letters.contains 's' && isBlank && afterBlank then shownLines letters n true ls
      else
        let isNumbered := if letters.contains 'b' then !isBlank else letters.contains 'n'
        let number := toString n
        let title := if isNumbered then
            Text.toBytes ("".pushn ' ' (6 - number.length) ++ number ++ "\t") else []
        let body := if letters.any "TA".toList.contains then
            l.flatMap fun b => if b = 9 then [94, 73] else [b] else l
        let body := if letters.any "EA".toList.contains && body.getLast? = some 10 then
            body.dropLast ++ [36, 10] else body
        let (rest, next) := shownLines letters (if isNumbered then n + 1 else n) isBlank ls
        ((title ++ body) :: rest, next)

/-- Whether the output goes to the end of a file that is to be read, and that holds something. -/
def isOwnOutput (r : Run) (file : String) : Bool :=
  match r.sink 1, r.host.files.stat (Path.ofString file) with
  | .file id, .ok (.file other) => id = other && 0 < (r.host.files.bytesOf id).size
  | _, _ => false

/-- `cat`. -/
def cat : Utility := fun args r =>
  let (letters, files) := options args
  (forAll (if files.isEmpty then ["-"] else files) (fun file r =>
    if isOwnOutput r file then r.fail 1 s!"cat: {file}: input file is output file"
    else match contents "cat" file r with
      | (some bytes, r) =>
          if letters.isEmpty then put bytes r
          else put (shownLines letters 1 false (wholeLines bytes)).1.flatten r
      | (none, r) => r) r)

/-- `pwd`. -/
def pwd : Utility := fun _ r => (r.say (r.directory ++ "\n")).done 0

/-- `tee`. -/
def tee : Utility := fun args r =>
  let (letters, files) := options args
  let (bytes, r) := r.takeInput
  let r := put bytes r
  forAll files (fun file r =>
    let p := Path.ofString file
    let before := if letters.contains 'a' then
        ((r.host.files.readFile p).toOption.getD .empty).data.toList else []
    change r s!"tee: {file}" (r.host.files.writeFile p ⟨(before ++ bytes).toArray⟩)) r

/-! ## Conditions and numbers -/

/-- `test`, or what it is called. -/
def testAs (name : String) : Utility := fun args r =>
  match Test.judgeByNumber r.host.files args with
  | .ok v => r.done (if v then 0 else 1)
  | .error e => r.fail 2 s!"{name}: {e.programMessage}"

/-- `[`. -/
def bracket : Utility := fun args r =>
  if args.getLast? = some "]" then testAs "[" args.dropLast r else r.fail 2 "[: missing ']'"

/-- A decimal: its digits as a whole number, and how many of them stand after the point. -/
def decimal? (text : String) : Option (Int × Nat) :=
  let (negative, cs) := match text.toList with
    | '-' :: cs => (true, cs)
    | '+' :: cs => (false, cs)
    | cs => (false, cs)
  let whole := cs.takeWhile Char.isDigit
  let part := match cs.drop whole.length with
    | '.' :: ds => if ds.all Char.isDigit then some ds else none
    | [] => some []
    | _ => none
  part.bind fun part =>
    if whole.isEmpty && part.isEmpty then none
    else
      let n : Nat := (whole ++ part).foldl (fun n c => 10 * n + (c.toNat - 48)) 0
      some (if negative then -n else n, part.length)

/-- The text of a decimal with so many places. -/
def decimalText (n : Int) (places : Nat) : String :=
  let digits := Notation.padZero (places + 1) (toString n.natAbs)
  let cs := digits.toList
  let whole := String.ofList (cs.take (cs.length - places))
  let part := String.ofList (cs.drop (cs.length - places))
  (if n < 0 then "-" else "") ++ whole ++ (if places = 0 then "" else "." ++ part)

/-- The numbers from one to another by steps. -/
def progression (last step : Int) : Nat → Int → List Int
  | 0, _ => []
  | n + 1, i =>
      if (0 < step && last < i) || (step < 0 && i < last) then []
      else i :: progression last step n (i + step)

/-- Write numbers from one to another. -/
def countUp (first step last : Int × Nat) (separator : String) (isEven : Bool) (r : Run) : Run :=
  let places := max first.2 step.2
  let scale (x : Int × Nat) (places : Nat) : Int := x.1 * Nat.pow 10 (places - x.2)
  let most := max places last.2
  let unit : Int := Nat.pow 10 (most - places)
  let a := scale first most
  let s := scale step most
  let b := scale last most
  let count := ((b - a) / (if s = 0 then 1 else s)).toNat + 2
  let texts := (progression b s count a).map fun n => decimalText (n / unit) places
  let width := texts.foldl (fun w t => max w t.length) 0
  let texts := if !isEven then texts else texts.map fun t =>
    if t.startsWith "-" then "-" ++ Notation.padZero (width - 1) (t.drop 1).toString
    else Notation.padZero width t
  if texts.isEmpty then r.done 0
  else (r.say (separator.intercalate texts ++ "\n")).done 0

/-- What `seq` has besides its numbers. -/
def seqOptions : List String → String × Bool × List String
  | "-s" :: s :: rest =>
      let (_, e, args) := seqOptions rest
      (s, e, args)
  | "-w" :: rest =>
      let (s, _, args) := seqOptions rest
      (s, true, args)
  | args@(a :: rest) => match a.toList with
    | '-' :: 's' :: cs =>
        let (_, e, args) := seqOptions rest
        (String.ofList cs, e, args)
    | _ => ("\n", false, args)
  | [] => ("\n", false, [])

/-- `seq`. -/
def seq : Utility := fun args r =>
  let (separator, isEven, args) := seqOptions args
  match args.find? fun a => (decimal? a).isNone with
  | some bad => misused r "seq" s!"invalid floating point argument: '{bad}'" 1
  | none => match args.filterMap decimal? with
    | [last] => countUp (1, 0) (1, 0) last separator isEven r
    | [first, last] => countUp first (1, 0) last separator isEven r
    | [first, step, last] =>
        if step.1 = 0 then
          let shown := (args[1]?).getD ""
          misused r "seq" s!"invalid Zero increment value: '{shown}'" 1
        else countUp first step last separator isEven r
    | [] => misused r "seq" "missing operand" 1
    | _ =>
        let extra := (args[3]?).getD ""
        misused r "seq" s!"extra operand '{extra}'" 1

/-! ## Names and directories -/

/-- The last name of a path. -/
def lastName (path : String) : String :=
  let cs := (path.toList.reverse.dropWhile (· = '/'))
  if cs.isEmpty then (if path.isEmpty then "" else "/")
  else String.ofList (cs.takeWhile (· ≠ '/')).reverse

/-- `basename`. -/
def basename : Utility := fun args r =>
  match args with
  | [] => misused r "basename" "missing operand" 1
  | path :: rest =>
      let name := lastName path
      let ending := (rest.head?).getD ""
      let name := if name ≠ ending && name.endsWith ending then
          String.ofList (name.toList.take (name.length - ending.length)) else name
      (r.say (name ++ "\n")).done 0

/-- A path without its last name. -/
def withoutLast (path : String) : String :=
  let cs := path.toList.reverse.dropWhile (· = '/')
  if cs.isEmpty then (if path.isEmpty then "." else "/")
  else
    let above := cs.dropWhile (· ≠ '/')
    if above.isEmpty then "."
    else
      let above := above.dropWhile (· = '/')
      if above.isEmpty then "/" else String.ofList above.reverse

/-- `dirname`. -/
def dirname : Utility := fun args r =>
  match args with
  | [] => misused r "dirname" "missing operand" 1
  | paths => (r.say (String.join (paths.map fun p => withoutLast p ++ "\n"))).done 0

/-- Names of a directory in order; those that begin with a dot only if asked for. -/
def shownNames (letters : List Char) (es : List (Name × Node)) : List String :=
  let names := (es.map fun e => (Path.mk e.1).display).mergeSort (· ≤ ·)
  let all := if letters.contains 'a' then ["." , ".."] ++ names else names
  if letters.contains 'a' || letters.contains 'A' then all
  else names.filter fun n => !n.startsWith "."

/-- The kind and the permissions of a node as nine letters after one. -/
def modeText (fs : FileSystem) (n : Node) : String :=
  let (kind, mode) : Char × Nat := match n with
    | .dir _ => ('d', 0o755)
    | .link _ => ('l', 0o777)
    | .file id => ('-', ((fs.files[id]?).map (·.mode)).getD 0o644)
  let letter (shift : Nat) (c : Char) : Char := if mode / shift % 2 = 1 then c else '-'
  let group (shift : Nat) : List Char :=
    [letter (4 * shift) 'r', letter (2 * shift) 'w', letter shift 'x']
  String.ofList (kind :: group 64 ++ group 8 ++ group 1)

/-- How many bytes a node holds. -/
def nodeSize (fs : FileSystem) : Node → Nat
  | .dir _ => 4096
  | .link target => target.bytes.length
  | .file id => (fs.bytesOf id).size

/-- What `ls` shows for a node after its name. -/
def ending (letters : List Char) (fs : FileSystem) (n : Node) : String :=
  let kind := (modeText fs n).toList
  match n with
  | .dir _ => if letters.any "Fp".toList.contains then "/" else ""
  | .link target =>
      if letters.contains 'l' then " -> " ++ target.display
      else if letters.contains 'F' then "@" else ""
  | .file _ => if letters.contains 'F' && kind.contains 'x' then "*" else ""

/-- A line of `ls` for each of some nodes with their names. -/
def listing (letters : List Char) (fs : FileSystem) (rows : List (String × Node)) : String :=
  let size (n : Node) : String := toString (nodeSize fs n)
  let width := rows.foldl (fun w row => max w (size row.2).length) 0
  String.join (rows.map fun (name, n) =>
    let text := name ++ ending letters fs n ++ "\n"
    if letters.contains 'l' then
      let links := match n with
        | .dir _ => "2"
        | _ => "1"
      modeText fs n ++ " " ++ links ++ " root root " ++
        "".pushn ' ' (width - (size n).length) ++ size n ++ " Jan  1 00:00 " ++ text
    else text)

/-- `ls`. -/
def ls : Utility := fun args r =>
  let (letters, files) := options args
  let order (names : List String) : List String :=
    let sorted := names.mergeSort (· ≤ ·)
    if letters.contains 'r' then sorted.reverse else sorted
  let files := order (if files.isEmpty then ["."] else files)
  let fs := r.host.files
  let node (f : String) : Except IoError Node := fs.lstat (Path.ofString f)
  let isPlain (f : String) : Bool :=
    letters.contains 'd' || !fs.isDirectory (Path.ofString f)
  let r := files.foldl (fun r f => match node f with
    | .ok _ => r
    | .error e => r.fail 2 s!"ls: cannot access '{f}': {systemText e}") (r.done 0)
  let present := files.filter fun f => (node f).isOk
  let plain := present.filter isPlain
  let rows (names : List String) (above : String) : List (String × Node) :=
    names.filterMap fun name => (node (above ++ name)).toOption.map fun n => (name, n)
  let r := r.say (listing letters fs (rows plain ""))
  let dirs := present.filter fun f => !isPlain f
  let titled := 1 < files.length
  (dirs.foldl (fun (isFirst, r) d => match fs.readDirectory (Path.ofString d) with
    | .ok es =>
        let title := if titled then (if isFirst then "" else "\n") ++ d ++ ":\n" else ""
        let found := rows (order (shownNames letters es)) (d ++ "/")
        let total := if letters.contains 'l' then
            let blocks := found.foldl (fun n row => match row.2 with
              | .link _ => n
              | node => n + 4 * ((nodeSize fs node + 4095) / 4096)) 0
            s!"total {blocks}\n"
          else ""
        (false, r.say (title ++ total ++ listing letters fs found))
    | .error _ => (isFirst, r)) (plain.isEmpty, r)).2

/-- `mkdir`. -/
def mkdir : Utility := fun args r =>
  let (letters, dirs) := options args
  if dirs.isEmpty then misused r "mkdir" "missing operand" 1
  else forAll dirs (fun d r =>
    let message := s!"mkdir: cannot create directory '{d}'"
    if letters.contains 'p' then
      changeTree r message (r.host.files.makeAllDirectories (Path.ofString d))
    else change r message (r.host.files.makeDirectory (Path.ofString d))) r

/-- `rmdir`. -/
def rmdir : Utility := fun args r =>
  let (_, dirs) := options args
  if dirs.isEmpty then misused r "rmdir" "missing operand" 1
  else forAll dirs (fun d r =>
    change r s!"rmdir: failed to remove '{d}'"
      (r.host.files.removeDirectory (Path.ofString d))) r

/-- `rm`. -/
def rm : Utility := fun args r =>
  let (letters, files) := options args
  let isForced := letters.contains 'f'
  if files.isEmpty then if isForced then r.done 0 else misused r "rm" "missing operand" 1
  else forAll files (fun f r =>
    let p := Path.ofString f
    let message := s!"rm: cannot remove '{f}'"
    match r.host.files.lstat p with
    | .error e => if isForced then r else r.fail 1 s!"{message}: {systemText e}"
    | .ok (.dir _) =>
        if letters.contains 'r' || letters.contains 'R' then
          changeTree r message (r.host.files.removeTree p)
        else r.fail 1 s!"{message}: Is a directory"
    | .ok _ => change r message (r.host.files.removeFile p)) r

/-- `touch`. -/
def touch : Utility := fun args r =>
  let (_, files) := options args
  if files.isEmpty then misused r "touch" "missing file operand" 1
  else forAll files (fun f r =>
    let p := Path.ofString f
    if r.host.files.pathExists p then r
    else change r s!"touch: cannot touch '{f}'" (r.host.files.writeFile p .empty)) r

/-- Where a file goes that is copied or moved to a target. -/
def destination (r : Run) (source target : String) : String :=
  if r.host.files.isDirectory (Path.ofString target) then
    (if target.endsWith "/" then target else target ++ "/") ++ lastName source
  else target

/-- `cp`. -/
def cp : Utility := fun args r =>
  let (letters, files) := options args
  match files.reverse with
  | [] => misused r "cp" "missing file operand" 1
  | [f] => misused r "cp" s!"missing destination file operand after '{f}'" 1
  | target :: sources => forAll sources.reverse (fun f r =>
      let p := Path.ofString f
      let goal := destination r f target
      match r.host.files.stat p with
      | .error e => r.fail 1 s!"cp: cannot stat '{f}': {systemText e}"
      | .ok (.dir _) =>
          if letters.any "rRa".toList.contains then
            changeTree r s!"cp: cannot copy '{f}'" (r.host.files.copyTree p (Path.ofString goal))
          else r.fail 1 s!"cp: -r not specified; omitting directory '{f}'"
      | .ok _ =>
          change r s!"cp: cannot create regular file '{goal}'"
            (r.host.files.copyFile p (Path.ofString goal))) r

/-- `mv`. -/
def mv : Utility := fun args r =>
  let (_, files) := options args
  match files.reverse with
  | [] => misused r "mv" "missing file operand" 1
  | [f] => misused r "mv" s!"missing destination file operand after '{f}'" 1
  | target :: sources => forAll sources.reverse (fun f r =>
      let p := Path.ofString f
      let goal := destination r f target
      match r.host.files.lstat p with
      | .error e => r.fail 1 s!"mv: cannot stat '{f}': {systemText e}"
      | .ok _ =>
          change r s!"mv: cannot move '{f}' to '{goal}'"
            (r.host.files.rename p (Path.ofString goal))) r

/-- `ln`. -/
def ln : Utility := fun args r =>
  let (letters, files) := options args
  match files with
  | [source, target] =>
      let goal := destination r source target
      let fs := r.host.files
      let p := Path.ofString goal
      match fs.findParent p with
      | .error e => r.fail 1 s!"ln: failed to create link '{goal}': {systemText e}"
      | .ok (l, .name n _) =>
          let taken := (fs.lstat p).isOk && !letters.contains 'f'
          let kind := if letters.contains 's' then "symbolic" else "hard"
          if taken then r.fail 1 s!"ln: failed to create {kind} link '{goal}': File exists"
          else
            let node? : Except IoError Node :=
              if letters.contains 's' then .ok (.link (Path.ofString source))
              else fs.lstat (Path.ofString source)
            match node? with
            | .ok node => { r with host := { r.host with files := fs.insert l n node } }.done 0
            | .error e => r.fail 1 s!"ln: failed to access '{source}': {systemText e}"
      | .ok _ => r.fail 1 s!"ln: failed to create link '{goal}': File exists"
  | _ => misused r "ln" "missing file operand" 1

/-- `readlink`. -/
def readlink : Utility := fun args r =>
  let (_, files) := options args
  forAll files (fun f r => match r.host.files.lstat (Path.ofString f) with
    | .ok (.link target) => r.say (target.display ++ "\n")
    | _ => r.done 1) r

/-- `chmod` with a number, or with execution for all. -/
def chmod : Utility := fun args r =>
  match args with
  | mode :: files =>
      forAll files (fun f r => match r.host.files.stat (Path.ofString f) with
        | .ok (.file id) => match r.host.files.files[id]? with
          | some file =>
              let changed : Nat := match mode.toList with
                | '+' :: 'x' :: _ | 'a' :: '+' :: 'x' :: _ => file.mode ||| 0o111
                | 'u' :: '+' :: 'x' :: _ => file.mode ||| 0o100
                | '-' :: 'x' :: _ | 'a' :: '-' :: 'x' :: _ => file.mode &&& 0o666
                | cs => if cs.all Printed.isOctal then Printed.octal cs else file.mode
              let fs := r.host.files.setFile id { file with mode := changed }
              { r with host := { r.host with files := fs } }
          | none => r
        | .ok _ => r
        | .error e => r.fail 1 s!"chmod: cannot access '{f}': {systemText e}") r
  | [] => misused r "chmod" "missing operand" 1

/-! ## Lines -/

/-- The number that an option gives, such as `-n 3`, `-n3` or `-3`, and the files. -/
def countOption (letter : Char) (otherwise : Int) : List String → Int × Bool × List String
  | [] => (otherwise, false, [])
  | a :: rest =>
      let number (cs : List Char) : Option (Int × Bool) := match cs with
        | '+' :: ds => (String.ofList ds).toNat?.map fun n => ((n : Int), true)
        | cs => (String.ofList cs).toInt?.map fun n => (n, false)
      match a.toList with
      | '-' :: c :: cs =>
          if c = letter then match cs, rest with
            | [], value :: rest => match number value.toList with
              | some (n, plus) => (n, plus, rest)
              | none => (otherwise, false, rest)
            | cs, rest => match number cs with
              | some (n, plus) => (n, plus, rest)
              | none => (otherwise, false, rest)
          else if c.isDigit then match number (c :: cs) with
            | some (n, plus) => (n, plus, rest)
            | none => (otherwise, false, rest)
          else (otherwise, false, a :: rest)
      | _ => (otherwise, false, a :: rest)

/-- `head`. -/
def head : Utility := fun args r =>
  let (isBytes, (n, _, files)) := match args with
    | a :: _ => if a.startsWith "-c" then (true, countOption 'c' 10 args)
        else (false, countOption 'n' 10 args)
    | [] => (false, (10, false, []))
  forContents "head" files (fun bytes r =>
    let parts := if isBytes then bytes.map fun b => [b] else wholeLines bytes
    let count := if 0 ≤ n then n.toNat else parts.length - n.natAbs
    put (parts.take count).flatten r) r

/-- `tail`. -/
def tail : Utility := fun args r =>
  let (isBytes, (n, fromStart, files)) := match args with
    | a :: _ => if a.startsWith "-c" then (true, countOption 'c' 10 args)
        else (false, countOption 'n' 10 args)
    | [] => (false, (10, false, []))
  forContents "tail" files (fun bytes r =>
    let parts := if isBytes then bytes.map fun b => [b] else wholeLines bytes
    let skipped := if fromStart then n.toNat - 1 else parts.length - n.natAbs
    put (parts.drop skipped).flatten r) r

/-- How many words some bytes hold. -/
def countWords (bytes : List UInt8) : Nat :=
  (bytes.foldl (fun (count, inside) b =>
    let isBlank := b = 32 || (9 ≤ b && b ≤ 13)
    (if !isBlank && !inside then count + 1 else count, !isBlank)) ((0 : Nat), false)).1

/-- `wc`. -/
def wc : Utility := fun args r =>
  let (letters, files) := options args
  let letters := if letters.isEmpty then ['l', 'w', 'c'] else letters
  let counts (bytes : List UInt8) : List Nat :=
    (if letters.contains 'l' then [(bytes.filter (· = 10)).length] else []) ++
    (if letters.contains 'w' then [countWords bytes] else []) ++
    (if letters.contains 'm' || letters.contains 'c' then [bytes.length] else [])
  let names := if files.isEmpty then ["-"] else files
  let (rows, r) := names.foldl (fun (rows, r) f => match contents "wc" f r with
    | (some bytes, r) => (rows ++ [(counts bytes, bytes.length, f)], r)
    | (none, r) => (rows, r)) (([] : List (List Nat × Nat × String)), r.done 0)
  let total := rows.foldl (fun t row => if t.isEmpty then row.1 else t.zipWith (· + ·) row.1) []
  let size := rows.foldl (fun n row => n + row.2.1) 0
  let single := letters.length = 1 && names.length = 1
  let width := if single then 1
    else if files.isEmpty then 7 else (toString size).length
  let show_ (ns : List Nat) (name : String) : String :=
    let texts := ns.map fun n =>
      let t := toString n
      "".pushn ' ' (width - t.length) ++ t
    " ".intercalate texts ++ (if files.isEmpty then "" else " " ++ name) ++ "\n"
  let r := rows.foldl (fun r row => r.say (show_ row.1 row.2.2)) r
  if 1 < names.length then r.say (show_ total "total") else r

/-- The number at the beginning of a line. -/
def leadingNumber (l : List UInt8) : Int :=
  let cs := l.dropWhile fun b => b = 32 || b = 9
  let (negative, cs) := match cs with
    | 45 :: rest => (true, rest)
    | cs => (false, cs)
  let n : Nat := (cs.takeWhile fun b => 48 ≤ b && b ≤ 57).foldl
    (fun n b => 10 * n + (b.toNat - 48)) 0
  if negative then -n else n

/-- Lines of which no two neighbours are the same, and how many there were of each. -/
def runs : List (List UInt8) → List (Nat × List UInt8)
  | [] => []
  | l :: ls => match runs ls with
    | (n, m) :: rest => if l = m then (n + 1, m) :: rest else (1, l) :: (n, m) :: rest
    | [] => [(1, l)]

/-- `sort`. -/
def sort : Utility := fun args r =>
  let (letters, files) := options args
  let (bytes, r) := together "sort" files r
  if r.status ≠ 0 then r else
  let before (a b : List UInt8) : Bool :=
    if letters.contains 'n' then
      let x := leadingNumber a
      let y := leadingNumber b
      x < y || (x = y && !(b < a))
    else !(b < a)
  let ls := (lines bytes).mergeSort before
  let ls := if letters.contains 'r' then ls.reverse else ls
  let ls := if letters.contains 'u' then (runs ls).map (·.2) else ls
  put (unlines ls) r

/-- `uniq`. -/
def uniq : Utility := fun args r =>
  let (letters, files) := options args
  let (bytes, r) := together "uniq" (files.take 1) r
  let rows := (runs (lines bytes)).filter fun row =>
    (!letters.contains 'd' || 1 < row.1) && (!letters.contains 'u' || row.1 = 1)
  put (rows.flatMap fun row =>
    let number := toString row.1
    let count := if letters.contains 'c' then
        Text.toBytes ("".pushn ' ' (7 - number.length) ++ number ++ " ") else []
    count ++ row.2 ++ [10]) r

/-- `tac`. -/
def tac : Utility := fun args r =>
  forContents "tac" (options args).2 (fun bytes r => put (wholeLines bytes).reverse.flatten r) r

/-- `rev`. -/
def rev : Utility := fun args r =>
  forContents "rev" (options args).2 (fun bytes r =>
    put (unlines ((lines bytes).map List.reverse)) r) r

/-- The characters that a set of `tr` stands for. -/
def charSet : Nat → List Char → List Char
  | 0, _ | _, [] => []
  | n + 1, cs =>
      let classes := [("[:alpha:]", Char.isAlpha), ("[:digit:]", Char.isDigit),
        ("[:upper:]", Char.isUpper), ("[:lower:]", Char.isLower), ("[:alnum:]", Char.isAlphanum),
        ("[:space:]", fun c => c.isWhitespace || c.toNat = 11 || c.toNat = 12)]
      match classes.find? fun k => k.1.toList.isPrefixOf cs with
      | some (text, holds) =>
          ((List.range 128).map Char.ofNat).filter holds ++ charSet n (cs.drop text.length)
      | none =>
          let (c, rest) : Char × List Char := match cs with
            | '\\' :: d :: rest => (((Printed.escape? d).map fun b => Char.ofNat b.toNat).getD d, rest)
            | c :: rest => (c, rest)
            | [] => (' ', [])
          match rest with
          | '-' :: d :: rest =>
              ((List.range (d.toNat + 1 - c.toNat)).map fun i => Char.ofNat (c.toNat + i)) ++
                charSet n rest
          | _ => c :: charSet n rest

/-- `tr`. -/
def tr : Utility := fun args r =>
  let (letters, sets) := options args
  if sets.isEmpty then misused r "tr" "missing operand" 1 else
  if sets.length = 1 && !letters.any "ds".toList.contains then
    let first := (sets.head?).getD ""
    misused r "tr" (s!"missing operand after '{first}'\n" ++
      "Two strings must be given when translating.") 1
  else
  let set (i : Nat) : List Char :=
    let cs := ((sets[i]?).getD "").toList
    charSet (cs.length + 1) cs
  let first := set 0
  let isIn (c : Char) : Bool := first.contains c != (letters.any "cC".toList.contains)
  let (bytes, r) := r.takeInput
  let cs := Text.decodeLossy bytes
  let squeezed (within : List Char) (cs : List Char) : List Char :=
    (cs.foldl (fun out c => match out with
      | d :: _ => if c = d && within.contains c then out else c :: out
      | [] => [c]) []).reverse
  let out :=
    if letters.contains 'd' then
      let kept := cs.filter fun c => !isIn c
      if letters.contains 's' then squeezed (set 1) kept else kept
    else if sets.length < 2 then squeezed first cs
    else
      let target := set 1
      let last := (target.getLast?).getD ' '
      let mapped := cs.map fun c =>
        if !isIn c then c
        else if letters.any "cC".toList.contains then last
        else (target[(first.findIdx? (· = c)).getD 0]?).getD last
      if letters.contains 's' then squeezed target mapped else mapped
  (r.say (String.ofList out)).done 0

/-- The ranges of a list such as `1,3-4,6-`. -/
def ranges (text : String) : List (Nat × Option Nat) :=
  (text.splitOn ",").map fun part => match part.splitOn "-" with
    | [a] => (a.toNat?.getD 1, some (a.toNat?.getD 1))
    | [a, b] => (a.toNat?.getD 1, b.toNat?)
    | _ => (1, none)

/-- Items whose numbers, counted from one, are in some ranges. -/
def picked {α : Type} (rs : List (Nat × Option Nat)) (items : List α) : List α :=
  (items.zipIdx.filter fun (_, i) =>
    rs.any fun (a, b) => a ≤ i + 1 && b.all fun b => i + 1 ≤ b).map (·.1)

/-- What `cut` is asked for: the letter, its list, and the delimiter. -/
structure Cut where
  letter : Char
  list : String
  delimiter : String
  onlyDelimited : Bool
  files : List String

/-- The arguments of `cut`. -/
def cutArguments : Cut → List String → Cut
  | c, [] => c
  | c, a :: rest => match a.toList with
    | ['-', 's'] => cutArguments { c with onlyDelimited := true } rest
    | ['-', l] => match rest with
      | value :: rest =>
          cutArguments (if l = 'd' then { c with delimiter := value }
            else { c with letter := l, list := value }) rest
      | [] => c
    | '-' :: l :: cs =>
        let value := String.ofList cs
        cutArguments (if l = 'd' then { c with delimiter := value }
          else { c with letter := l, list := value }) rest
    | _ => cutArguments { c with files := c.files ++ [a] } rest

/-- `cut`. -/
def cut : Utility := fun args r =>
  let c := cutArguments ⟨'f', "", "\t", false, []⟩ args
  if c.list.isEmpty then
    misused r "cut" "you must specify a list of bytes, characters, or fields" 1
  else
    let rs := ranges c.list
    forContents "cut" c.files (fun bytes r =>
      (lines bytes).foldl (fun r l =>
        if c.letter = 'f' then
          let text := String.ofList (Text.decodeLossy l)
          let parts := text.splitOn c.delimiter
          if parts.length = 1 then if c.onlyDelimited then r else r.say (text ++ "\n")
          else r.say (c.delimiter.intercalate (picked rs parts) ++ "\n")
        else put (picked rs l ++ [10]) r) r) r

/-! ## The system -/

/-- `env` and `printenv` without a program. -/
def env : Utility := fun args r =>
  match args with
  | [] => (r.say (String.join (r.environment.map fun (k, v) => s!"{k}={v}\n"))).done 0
  | names => forAll names (fun name r => match r.environment.lookup name with
      | some v => r.say (v ++ "\n")
      | none => r.done 1) r

/-- Whether a text says how long something takes. -/
def isDuration (text : String) : Bool :=
  let cs := text.toList
  let digits := if cs.getLast?.any "smhd".toList.contains then cs.dropLast else cs
  text = "infinity" || (!digits.isEmpty && (decimal? (String.ofList digits)).any fun d => 0 ≤ d.1)

/-- `sleep`. -/
def sleep : Utility := fun args r =>
  if args.isEmpty then misused r "sleep" "missing operand" 1
  else match args.find? fun a => !isDuration a with
    | some bad => misused r "sleep" s!"invalid time interval '{bad}'" 1
    | none => r.done 0

/-- How many lines an output has that would not end. -/
def endlessLines : Nat := 20000

/-- `yes`. -/
def yes : Utility := fun args r =>
  let line := (if args.isEmpty then "y" else " ".intercalate args) ++ "\n"
  (put ((List.replicate endlessLines (Text.toBytes line)).flatten) r).done 0

/-- `id`. -/
def id_ : Utility := fun args r =>
  let (letters, _) := options args
  let text := if letters.any "ug".toList.contains || letters.contains 'G' then
      (if letters.contains 'n' then "root" else "0")
    else "uid=0(root) gid=0(root) groups=0(root)"
  (r.say (text ++ "\n")).done 0

/-- The programs and their names. -/
def all : List (String × Utility) :=
  [("true", fun _ r => r.done 0), ("false", fun _ r => r.done 1), ("echo", echo), ("cat", cat),
   ("pwd", pwd), ("ls", ls), ("printf", printf), ("seq", seq), ("test", testAs "test"), ("[", bracket),
   ("tee", tee), ("basename", basename), ("dirname", dirname), ("mkdir", mkdir),
   ("rmdir", rmdir), ("rm", rm), ("touch", touch), ("cp", cp), ("mv", mv), ("ln", ln),
   ("readlink", readlink), ("chmod", chmod), ("head", head), ("tail", tail), ("wc", wc),
   ("sort", sort), ("uniq", uniq), ("tac", tac), ("rev", rev), ("tr", tr), ("cut", cut),
   ("printenv", env), ("env", env), ("sleep", sleep), ("yes", yes), ("id", id_),
   ("whoami", fun _ r => (r.say "root\n").done 0), ("uname", fun _ r => (r.say "Linux\n").done 0)]

end Utility

end LuaShell.SystemShell
