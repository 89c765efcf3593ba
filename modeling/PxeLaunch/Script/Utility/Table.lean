import PxeLaunch.Script.Program
import PxeLaunch.Script.Utility.Columns
import PxeLaunch.Script.Utility.Differences
import PxeLaunch.Script.Utility.Dump
import PxeLaunch.Script.Utility.Editor
import PxeLaunch.Script.Utility.Files
import PxeLaunch.Script.Utility.Finder
import PxeLaunch.Script.Utility.Launchers
import PxeLaunch.Script.Utility.Lines
import PxeLaunch.Script.Utility.Machine
import PxeLaunch.Script.Utility.Numbers
import PxeLaunch.Script.Utility.Order
import PxeLaunch.Script.Utility.Records.Command
import PxeLaunch.Script.Utility.Search

/-!
The programs of the system by their names.
-/

set_option autoImplicit false

namespace PxeLaunch.Script

/-- Programs that run other programs. -/
def launcher? (name : String) : Option (Spawn → Utility) :=
  match name with
  | "env" => some withEnvironment
  | "xargs" => some runForItems
  | "awk" => some Records.workOnRecords
  | "mawk" => some Records.workOnRecords
  | "find" => some Finder.findFiles
  | "timeout" => some runWithin
  | "nohup" => some runOnward
  | "nice" => some runNicely
  | "stdbuf" => some runBuffered
  | "setsid" => some runDetached
  | _ => none

/-- Programs that do their work alone. -/
def utility? (name : String) : Option Utility :=
  match name with
  | "cat" => some showFiles
  | "head" => some (showSpan "head" false)
  | "tail" => some (showSpan "tail" true)
  | "wc" => some countLines
  | "nl" => some numberLines
  | "tac" => some reverseFiles
  | "rev" => some reverseLines
  | "fold" => some foldLines
  | "paste" => some pasteLines
  | "tee" => some teeFiles
  | "uniq" => some uniqueLines
  | "comm" => some commonLines
  | "sort" => some sortLines
  | "cut" => some cutLines
  | "tr" => some translate
  | "grep" => some (searchLines false false)
  | "egrep" => some (searchLines false true)
  | "fgrep" => some (searchLines true false)
  | "sed" => some Editor.editLines
  | "mkdir" => some makeFolders
  | "rmdir" => some removeFolders
  | "touch" => some touchFiles
  | "rm" => some removeFiles
  | "truncate" => some truncateFiles
  | "chmod" => some changeModes
  | "cp" => some copyFiles
  | "mv" => some moveFiles
  | "ln" => some linkFiles
  | "install" => some installFiles
  | "mktemp" => some makeTemporary
  | "ls" => some listFiles
  | "basename" => some baseNames
  | "dirname" => some folderNames
  | "realpath" => some realPaths
  | "readlink" => some readLinks
  | "stat" => some statFiles
  | "seq" => some showRow
  | "expr" => some showExpr
  | "od" => some dumpBytes
  | "base64" => some showLetters
  | "cmp" => some compareBytes
  | "diff" => some showDifferences
  | "printenv" => some printEnvironment
  | "sleep" => some sleepFor
  | "uname" => some showMachine
  | "id" => some showUser
  | "whoami" => some (showFact "whoami" "root")
  | "groups" => some (showFact "groups" "root")
  | "hostname" => some (showFact "hostname" "localhost")
  | "arch" => some (showFact "arch" "x86_64")
  | "nproc" => some (showFact "nproc" "1")
  | "tty" => some showTerminal
  | "which" => some showPrograms
  | "echo" => some showArguments
  | "printf" => some showFormatted
  | "yes" => some repeatArguments
  | "pwd" => some showPresentFolder
  | "test" => some (testAlone false)
  | "[" => some (testAlone true)
  | "date" => some showDate
  | "true" => some fun _ s => s.answer 0
  | "false" => some fun _ s => s.answer 1
  | "sync" => some fun _ s => s.answer 0
  | _ => none

end PxeLaunch.Script
