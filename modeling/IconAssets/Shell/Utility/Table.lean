import IconAssets.Shell.Utility.Block
import IconAssets.Shell.Utility.Calendar
import IconAssets.Shell.Utility.Column
import IconAssets.Shell.Utility.Compare
import IconAssets.Shell.Utility.Count
import IconAssets.Shell.Utility.Edit
import IconAssets.Shell.Utility.Encode
import IconAssets.Shell.Utility.Find
import IconAssets.Shell.Utility.Reckon
import IconAssets.Shell.Utility.Scan
import IconAssets.Shell.Utility.Search
import IconAssets.Shell.Utility.Translate

/-!
# The utilities of a machine
-/

namespace IconAssets
namespace Shell
namespace Utility

/-- Tests a condition. -/
def condition (c : Call) (args : List Text) : Effect :=
  match Condition.evaluate (.ofVolume c.disk) args with
  | .ok b => c.finish (if b then 0 else 1)
  | .error message => c.refuse 2 message

/-- The utilities that start no other programs, by their names. -/
def workers : List (String × (Call → Effect)) :=
  [("true", ending 0), ("false", ending 1), ("echo", echo), ("printf", printf),
    ("test", fun c => condition c c.arguments),
    ("[", fun c =>
      if c.arguments.getLast? = some [']'] then condition c c.arguments.dropLast
      else c.refuse 2 (say "missing " ++ c.quote [']'])),
    ("pwd", pwd), ("cat", cat), ("head", head), ("tail", tail), ("tac", tac), ("rev", rev), ("nl", nl),
    ("tee", tee), ("wc", wc), ("tr", tr), ("sort", sort), ("uniq", uniq), ("comm", comm),
    ("cut", cut), ("paste", paste), ("fold", fold), ("expand", expand), ("unexpand", unexpand),
    ("join", join), ("ls", ls), ("dir", dir), ("vdir", vdir), ("mkdir", mkdir), ("rmdir", rmdir),
    ("touch", touch), ("date", date), ("dd", dd), ("mkfifo", mkfifo), ("rm", rm), ("cp", cp), ("mv", mv), ("ln", ln), ("install", install),
    ("chmod", chmod), ("unlink", unlink), ("truncate", truncate), ("stat", stat), ("mktemp", mktemp),
    ("dirname", dirname), ("basename", basename), ("realpath", realpath), ("readlink", readlink),
    ("seq", seq), ("uname", uname), ("arch", constant "x86_64\n"), ("id", id),
    ("whoami", constant "root\n"), ("groups", constant "root\n"), ("printenv", printenv),
    ("factor", factor), ("expr", expr), ("od", od), ("cmp", cmp), ("diff", diff), ("cksum", cksum), ("sum", sum), ("base64", encoded .sextets), ("base32", encoded .quintets), ("which", which), ("sync", idle 1), ("nproc", constant "1\n"),
    ("hostname", constant "localhost\n"), ("tty", fun c => c.withOptions "s" ["silent,s", "quiet,s"] 2 fun _ _ => { c.ok (say "not a tty\n") with status := 1 }),
    ("grep", grep), ("sed", sed), ("egrep", grepAs "-E"), ("fgrep", grepAs "-F"), ("users", idle 1), ("who", idle 1), ("chown", ending 0), ("chgrp", ending 0)] ++
    (digestKinds.map fun k => (k.1, digests k.2)) ++ strangers.map fun s => (s.1, idle s.2)
where
  /-- The utilities of which only that they know no options is told, with their statuses. -/
  strangers : List (String × Nat) :=
    [("df", 1), ("du", 1)]

/-- The utilities that start other programs, by their names. -/
def starters : List (String × Start) :=
  [("env", env), ("nice", nice), ("nohup", nohup), ("stdbuf", stdbuf), ("setsid", setsid),
    ("timeout", timeout), ("sleep", sleep), ("yes", yes), ("xargs", xargs), ("find", find), ("awk", scan), ("mawk", scan)]

/-- The utility of a name. -/
def find? (name : String) : Option Utility :=
  (workers.lookup name).map .working <|> (starters.lookup name).map .starting

/-- The names of all utilities. -/
def names : List String := workers.map (·.1) ++ starters.map (·.1)

end Utility
end Shell
end IconAssets
