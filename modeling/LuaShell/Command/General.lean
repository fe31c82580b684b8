import LuaShell.Command.Running

/-!
# General commands

`print`, `read`, `version` and `help`.
-/

namespace LuaShell.GeneralCommand

open Lua (Value)

/-! ## Help -/

/-- Commands and what they do, under headings. -/
def manual : List (String × List (String × String)) :=
  [("File System:",
    [("cd(path)/changeDirectory(path)/changeDir(path)",
      "Changes the working directory. A number n walks up n parent directories; no argument prints it."),
     ("ls(printToStd = true)/ll(printToStd = true)",
      "Prints the working directory content. ls(false) returns a table of \x7b filename, isDirectory \x7d."),
     ("createFile(filename)/touch(filename)", "Creates a new, empty file."),
     ("createDirectory(dirname)/createDir(dirname)/mkdir(dirname)", "Creates a new directory."),
     ("removeFile(filename)/rf(filename)", "Removes a file."),
     ("removeDirectory(dirname)/removeDir(dirname)/rd(dirname)",
      "Recursively removes a directory and its contents."),
     ("rm(entity)", "Removes a file, or recursively a directory and its contents."),
     ("rename(from, to)", "Renames a file or directory inside its directory."),
     ("move(from, to)/mv(from, to)", "Moves a file or directory to a new location."),
     ("copy(from, to)/cp(from, to)", "Copies a file or directory to a new location.")]),
   ("Execution:",
    [("execute(filename, ...)", "Reads, compiles and runs Lua script files."),
     ("runSync(program, params, verbose = true)",
      "Runs a program and waits for it. 'params' is an optional table of arguments; returns the exit code.")]),
   ("General Functions:",
    [("print(...)", "Prints its arguments separated by ';'."),
     ("read(filename)", "Returns the content of a file as a string."),
     ("quit(code = 0)/exit(code = 0)", "Terminates the shell."),
     ("version()", "Returns the Lua version string."),
     ("help()", "Shows this listing.")])]

/-- The lines of the manual. -/
def helpLines (palette : Palette) : List String :=
  "~Available functions~" :: manual.flatMap fun (title, entries) =>
    palette.paint .heading title ::
      (entries.map fun (signature, text) =>
        palette.paint .command signature ++ " - " ++ text) ++ [""]

/-- Print the manual. -/
def help (h : Host) : CommandResult :=
  (.ok [], h.print (String.join ((helpLines h.palette).map (· ++ "\n"))))

/-! ## Reading and printing -/

/-- Answer the bytes of a file. -/
def read (values : List Value) (h : Host) : CommandResult :=
  let a : Arguments := ⟨"read", values⟩
  if values.length ≠ 1 then (.error (.command (.badParameters "read")), h)
  else match a.string 0 "filename" with
    | .error e => (.error e, h)
    | .ok raw => match h.files.readFile (h.resolve raw) with
      | .error e => (.error (.command (.unreadable raw e)), h)
      | .ok bytes => (.ok [.str bytes], h)

section

variable {ε χ : Type} (E : Engine ε χ)

/-- Print values with semicolons between them. -/
def print (values : List Value) (m : Machine ε) : Answer ε (List Value) :=
  let (line, m) := E.displayValues ";" values m
  (.ok [], m.mapHost (·.printLine line))

/-- Answer the version that the engine names. -/
def version (m : Machine ε) : Answer ε (List Value) :=
  match E.getGlobal "_VERSION" m with
  | (.error e, m) => (.error e, m)
  | (.ok v, m) => match v.asText? with
    | .error e => (.error e, m)
    | .ok text => (.ok [.ofString text], m)

end

end LuaShell.GeneralCommand
