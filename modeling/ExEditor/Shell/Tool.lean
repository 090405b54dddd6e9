import ExEditor.Shell.Condition
import ExEditor.Shell.Printf
import ExEditor.Shell.Record.Run
import ExEditor.Shell.Script.Run
import ExEditor.Shell.Tool.Bytes
import ExEditor.Shell.Tool.Calculation
import ExEditor.Shell.Tool.Digest
import ExEditor.Shell.Tool.Files
import ExEditor.Shell.Tool.Letters
import ExEditor.Shell.Tool.Lines
import ExEditor.Shell.Tool.Merge
import ExEditor.Shell.Tool.Numbers

/-! The tools that a shell finds by their names. -/
namespace ExEditor
namespace Shell

/-- Tools that are part of the shell. -/
def ownTools : List (String × Tool) :=
  [("echo", echo), ("printf", printf), ("test", test), ("[", bracket), (":", fun _ s => s.finish 0),
   ("true", fun _ s => s.finish 0), ("false", fun _ s => s.finish 1)]

/-- A tool that writes one line and no more. -/
def writesLine (line : String) : Tool := fun _ s => (s.emit (line.toList ++ ['\n'])).finish 0

/-- Tools that are programs of their own. -/
def programs : List (String × Tool) :=
  [("arch", writesLine "x86_64"), ("awk", awk), ("base64", base64), ("basename", basename), ("cat", cat),
   ("chmod", chmod), ("cksum", cksum), ("cmp", cmp), ("comm", comm), ("cp", cp), ("cut", cut), ("diff", diff),
   ("dirname", dirname), ("egrep", egrep), ("expand", expand), ("expr", expr), ("factor", factor),
   ("fgrep", fgrep), ("find", find), ("fold", fold), ("grep", grep), ("groups", writesLine "root"),
   ("head", head), ("id", id), ("join", join), ("ln", ln), ("ls", ls), ("mawk", awk),
   ("md5sum", showDigest "md5sum" Digest.md5), ("mkdir", mkdir), ("mv", mv), ("nl", nl), ("od", od),
   ("paste", paste), ("printenv", printenv), ("readlink", readlink), ("realpath", realpath), ("rev", rev),
   ("rm", rm), ("rmdir", rmdir), ("sed", sed), ("seq", seq), ("sha1sum", showDigest "sha1sum" Digest.sha1),
   ("sha256sum", showDigest "sha256sum" Digest.sha256), ("sleep", fun _ s => s.finish 0), ("sort", sort),
   ("stat", stat), ("sync", fun _ s => s.finish 0), ("tac", tac), ("tail", tail), ("tee", tee),
   ("touch", touch), ("tr", tr), ("tty", fun _ s => (s.emit "not a tty\n".toList).finish 1),
   ("uname", writesLine "Linux"), ("unexpand", unexpand), ("uniq", uniq), ("wc", wc),
   ("whoami", writesLine "root"), ("yes", yes)]

/-- Directories that programs are found in. -/
def programPlaces : List Text := ["/bin", "/usr/bin"].map String.toList

/-- A name as it is looked up: the last part of a path to where programs are found. -/
def programName (name : Text) : Text :=
  if programPlaces.contains ((Path.parent? name).getD []) then (Path.fileName? name).getD name else name

/-- The program of a name, which may be a path. -/
def program? (name : Text) : Option Tool :=
  let bare := String.ofList (programName name)
  programs.lookup bare <|> if name.contains '/' then ownTools.lookup bare else none

/-- Programs that run others, which the shell carries out itself. -/
def runners : List String := ["sh", "dash", "bash", "env", "xargs", "which", "nice", "nohup", "timeout"]

/-- Whether there is a program of a name besides what the shell has of that name. -/
def isProgram (name : Text) : Bool :=
  let bare := String.ofList (programName name)
  (program? name).isSome || (ownTools.lookup bare).isSome && bare ≠ ":" || runners.contains bare

/-- The path of a program. -/
def programPath (name : Text) : Text := if name.contains '/' then name else "/usr/bin/".toList ++ name

end Shell
end ExEditor
