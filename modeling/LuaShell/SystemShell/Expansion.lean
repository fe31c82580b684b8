import LuaShell.SystemShell.Arithmetic
import LuaShell.SystemShell.Pattern
import LuaShell.SystemShell.Run

/-!
# Words filled in

Parameters, the output of commands and arithmetic take the place of what names them.
What came in this way without quotes is split into fields, and fields with patterns
become the names of files that fit.
-/

namespace LuaShell.SystemShell

/-- A character of a word that has been filled in. -/
inductive Filled where
  | mark (m : Mark)
  /-- It came in without quotes. -/
  | loose (c : Char)
  /-- A field ends here in any case. -/
  | cut
  /-- A pair of quotes, which makes a field even if it is empty. -/
  | quotes

/-- How scripts in words are run: their output. -/
abbrev Capture := List Char → Run → List Char × Run

namespace Expansion

/-- Characters that came in by a parameter. -/
def came (cs : List Char) (isQuoted : Bool) : List Filled :=
  if isQuoted then .quotes :: cs.map fun c => .mark ⟨c, true⟩ else cs.map .loose

/-- What was filled in for a parameter, of which nothing is quoted that had no quotes. -/
def loosened (fs : List Filled) : List Filled :=
  fs.map fun
    | .mark ⟨c, false⟩ => .loose c
    | f => f

/-- All arguments, as fields of their own. -/
def eachArgument : List String → List Filled
  | [] => []
  | [a] => came a.toList true
  | a :: rest => came a.toList true ++ .cut :: eachArgument rest

/-- The marks of a word that has been filled in. -/
def marks (fs : List Filled) : List Mark :=
  fs.filterMap fun
    | .mark m => some m
    | .loose c => some ⟨c, false⟩
    | .cut => some ⟨' ', true⟩
    | .quotes => none

/-- The text of a word that has been filled in. -/
def textOf (fs : List Filled) : List Char :=
  Pattern.textOf (marks fs)

/-- A text without the shortest or the longest part at its beginning that fits a pattern. -/
def withoutFront (pattern : List Mark) (isLongest : Bool) (cs : List Char) : List Char :=
  let sizes := List.range (cs.length + 1)
  let sizes := if isLongest then sizes.reverse else sizes
  match sizes.find? fun n => Pattern.isMatch pattern (cs.take n) with
  | some n => cs.drop n
  | none => cs

/-- A text without the shortest or the longest part at its end that fits a pattern. -/
def withoutBack (pattern : List Mark) (isLongest : Bool) (cs : List Char) : List Char :=
  let sizes := List.range (cs.length + 1)
  let sizes := if isLongest then sizes else sizes.reverse
  match sizes.find? fun n => Pattern.isMatch pattern (cs.drop n) with
  | some n => cs.take n
  | none => cs

/-- What a tilde at the beginning of a word stands for. -/
def home (r : Run) (w : Word) : Word :=
  match w with
  | .text ('~' :: cs) :: rest =>
      if cs.isEmpty || cs.head? = some '/' then match r.lookup? "HOME" with
        | some h => .quoted h.toList :: .text cs :: rest
        | none => w
      else w
  | w => w

/-- The script ends with a complaint. -/
def abort (r : Run) (message : String) : Run :=
  { r.failAt 2 message with flow := .exit }

/-- The complaint about an arithmetic expression. -/
def arithmeticMessage (what : String) (fs : List Filled) : String :=
  let shown := String.ofList (textOf fs)
  s!"arithmetic expression: {what}: \"{shown}\""

/-- What stands between arguments that become one text. -/
def joint (r : Run) : List Char :=
  match r.lookup? "IFS" with
  | some text => text.toList.take 1
  | none => [' ']

mutual

/-- The parts of a word, filled in. -/
def pieces (capture : Capture) : Nat → List Piece → Run → List Filled × Run
  | 0, _, r | _, [], r => ([], r)
  | n + 1, p :: ps, r =>
      let (a, r) := piece capture n p r
      let (b, r) := pieces capture n ps r
      (a ++ b, r)

/-- One part of a word, filled in. -/
def piece (capture : Capture) : Nat → Piece → Run → List Filled × Run
  | 0, _, r => ([], r)
  | n + 1, p, r => match p with
    | .text cs => (cs.map fun c => .mark ⟨c, false⟩, r)
    | .quoted cs => (.quotes :: cs.map (fun c => .mark ⟨c, true⟩), r)
    | .output source isQuoted =>
        let (cs, r) := capture source r
        let kept := (cs.reverse.dropWhile (· = '\n')).reverse
        (came kept isQuoted, r)
    | .arithmetic source isQuoted =>
        let (fs, r) := pieces capture n (Scan.documentBody (source.length + 1) [] source) r
        match Arithmetic.evaluate (fun name => (r.parameter? name).getD "") (textOf fs) with
        | .ok (v, assigned) =>
            let r := assigned.foldr (fun a r => r.setVariable a.1 a.2) r
            (came (toString v).toList isQuoted, r)
        | .error (.noNumber text) => ([], abort r s!"Illegal number: {text}")
        | .error .divisionByZero => ([], abort r (arithmeticMessage "division by zero" fs))
        | .error (.expecting what) =>
            ([], abort r (arithmeticMessage s!"expecting {what}" fs))
    | .parameter name action isQuoted => parameter capture n name action isQuoted r

/-- A parameter after what is done with its value. -/
def parameter (capture : Capture) : Nat → String → List Char → Bool → Run → List Filled × Run
  | 0, _, _, _, r => ([], r)
  | n + 1, name, action, isQuoted, r =>
      let value := r.parameter? name
      let plain : List Filled :=
        if name = "@" && isQuoted then eachArgument r.arguments
        else if name = "*" && isQuoted then
          came ((r.arguments.map String.toList).intersperse (joint r)).flatten true
        else if name = "@" || (name = "*" && !isQuoted) then
          (r.arguments.map fun a => came a.toList isQuoted).intersperse [.cut] |>.flatten
        else came (value.getD "").toList isQuoted
      let word (cs : List Char) (r : Run) : List Filled × Run :=
        if isQuoted then pieces capture n (Scan.documentBody (cs.length + 1) [] cs) r
        else
          let (fs, r) := pieces capture n (home r (Scan.wholeWord cs)) r
          (loosened fs, r)
      let isEmpty := value.all (·.isEmpty)
      let unset : Bool := match action with
        | ':' :: _ => isEmpty
        | _ => value.isNone
      if name = "" then ([], abort r "Bad substitution")
      else match action with
      | [] =>
          if value.isNone && r.options.contains 'u' && name ≠ "@" && name ≠ "*" then
            ([], abort r s!"{name}: parameter not set")
          else (plain, r)
      | ['#'] => (came (toString (value.getD "").length).toList isQuoted, r)
      | '%' :: '%' :: cs =>
          let (fs, r) := word cs r
          (came (withoutBack (marks fs) true (value.getD "").toList) isQuoted, r)
      | '%' :: cs =>
          let (fs, r) := word cs r
          (came (withoutBack (marks fs) false (value.getD "").toList) isQuoted, r)
      | '#' :: '#' :: cs =>
          let (fs, r) := word cs r
          (came (withoutFront (marks fs) true (value.getD "").toList) isQuoted, r)
      | '#' :: cs =>
          let (fs, r) := word cs r
          (came (withoutFront (marks fs) false (value.getD "").toList) isQuoted, r)
      | action =>
          let cs := if action.head? = some ':' then action.drop 1 else action
          match cs with
          | '-' :: cs => if unset then word cs r else (plain, r)
          | '+' :: cs => if unset then (came [] isQuoted, r) else word cs r
          | '=' :: cs =>
              if unset then
                let (fs, r) := word cs r
                (fs, r.setVariable name (String.ofList (textOf fs)))
              else (plain, r)
          | '?' :: cs =>
              if unset then
                let (fs, r) := word cs r
                let message := if fs.isEmpty then
                    if action.head? = some ':' then "parameter not set or null"
                    else "parameter not set"
                  else String.ofList (textOf fs)
                ([], abort r s!"{name}: {message}")
              else (plain, r)
          | _ => ([], abort r "Bad substitution")

end

/-- How deep words can be nested in each other. -/
def depth (w : Word) : Nat :=
  2000 + 2 * w.length

/-- A word, filled in. -/
def fill (capture : Capture) (w : Word) (r : Run) : List Filled × Run :=
  pieces capture (depth w) (home r w) r

/-- The text of a word that is not split. -/
def text (capture : Capture) (w : Word) (r : Run) : String × Run :=
  let (fs, r) := fill capture w r
  (String.ofList (textOf fs), r)

/-! ## Fields -/

/-- A field that is being read, last character first; `none` if there is none yet. -/
abbrev Field := Option (List Mark)

/-- Cut a word into fields. `after` says whether blanks have just ended a field. -/
def split (separators : List Char) : Field → Bool → List Filled → List (List Mark)
  | field, _, [] => (field.map List.reverse).toList
  | field, after, f :: fs =>
      match f with
      | .mark m => split separators (some (m :: field.getD [])) false fs
      | .quotes => split separators (some (field.getD [])) false fs
      | .cut => (field.map List.reverse).toList ++ split separators none false fs
      | .loose c =>
          if !separators.contains c then
            split separators (some (⟨c, false⟩ :: field.getD [])) false fs
          else if " \t\n".toList.contains c then
            (field.map List.reverse).toList ++
              split separators none (after || field.isSome) fs
          else if after && field.isNone then split separators none false fs
          else ((field.getD []).reverse) :: split separators none false fs

/-- The characters that separate fields. -/
def separators (r : Run) : List Char :=
  ((r.lookup? "IFS").getD " \t\n").toList

/-! ## Names of files -/

/-- Marks cut at slashes that are not quoted. -/
def components : List Mark → List (List Mark)
  | [] => [[]]
  | m :: ms =>
      if m.char = '/' then [] :: components ms
      else match components ms with
        | [] => [[m]]
        | c :: cs => (m :: c) :: cs

/-- The paths that fit the components of a pattern, given those that fit the first ones. A path
ends in a slash or is empty while more comes. -/
def paths (fs : FileSystem) : List (List Mark) → List String → List String
  | [], found => found
  | c :: rest, found =>
      let text := String.ofList (Pattern.textOf c)
      let slash := if rest.isEmpty then "" else "/"
      let next := found.flatMap fun above =>
        if !Pattern.isPattern c then
          let path := above ++ text
          if text.isEmpty || fs.pathExists (Path.ofString path) ||
              (fs.lstat (Path.ofString path)).isOk then [path ++ slash] else []
        else
          let here := if above.isEmpty then "." else above
          match fs.readDirectory (Path.ofString here) with
          | .error _ => []
          | .ok es =>
              let names := es.map fun e => (Path.mk e.1).display
              let fitting := names.filter fun name =>
                Pattern.isMatch c name.toList && (!name.startsWith "." || text.startsWith ".")
              let good := if rest.isEmpty then fitting
                else fitting.filter fun name => fs.isDirectory (Path.ofString (above ++ name))
              good.map fun name => above ++ name ++ slash
      paths fs rest next

/-- The names of files that a field stands for, or its text. -/
def names (r : Run) (field : List Mark) : List String :=
  let text := String.ofList (Pattern.textOf field)
  if !Pattern.isPattern field || r.options.contains 'f' then [text]
  else match (paths r.host.files (components field) [""]).mergeSort (· ≤ ·) with
    | [] => [text]
    | found => found

/-- The fields that a word stands for. -/
def fields (capture : Capture) (w : Word) (r : Run) : List String × Run :=
  let (fs, r) := fill capture w r
  ((split (separators r) none false fs).flatMap (names r), r)

/-- The fields that some words stand for. -/
def allFields (capture : Capture) : List Word → Run → List String × Run
  | [], r => ([], r)
  | w :: ws, r =>
      let (a, r) := fields capture w r
      let (b, r) := allFields capture ws r
      (a ++ b, r)

end Expansion

end LuaShell.SystemShell
