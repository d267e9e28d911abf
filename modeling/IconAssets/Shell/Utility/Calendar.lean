import IconAssets.Shell.Calendar.Format
import IconAssets.Shell.Utility.Listing

/-!
# Utilities for times

One tells the time, or another moment, in a format.  The other one sets the times of files, and
makes those that are not there.
-/

namespace IconAssets
namespace Shell
namespace Utility

open Pattern (pathOf)

/-- The moment at which a utility is called. -/
def now (c : Call) : Moment := .ofTime c.disk.clock

/-- The time of the last change of what a path names. -/
def timeOf? (c : Call) (t : Text) : Option Int :=
  match c.disk.resolve (pathOf t) with
  | .ok p => (c.disk.lookup p).map (·.changed)
  | .error _ => none

/-- The complaint about a text that tells no moment. -/
def noDate (c : Call) (words : String) (t : Text) : Effect :=
  c.refuse 1 (say words ++ c.quote t)

/-- The formats of the standards by their names. -/
def standardFormats : List (String × String) :=
  [("date", "%Y-%m-%d"), ("hours", "%Y-%m-%dT%H%:z"), ("minutes", "%Y-%m-%dT%H:%M%:z"),
    ("seconds", "%Y-%m-%dT%H:%M:%S%:z"), ("ns", "%Y-%m-%dT%H:%M:%S,%N%:z")]

/-- A name that may be cut short as long as it is told apart. -/
def unshortened? (names : List String) (t : Text) : Option String :=
  match names.filter fun n => t.isPrefixOf n.toList with
  | [n] => some n
  | found => found.find? fun n => n.toList = t

/-- The formats that options ask for. -/
def formatsOf (options : List Setting) : List Text :=
  options.filterMap fun (k, v) =>
    match k with
    | "R" => some (say "%a, %d %b %Y %H:%M:%S %z")
    | "I" =>
      ((unshortened? (standardFormats.map (·.1)) (if v = [] then say "date" else v)).bind
        fun n => standardFormats.lookup n).map say
    | "rfc-3339" => ((unshortened? ["date", "seconds", "ns"] v).bind fun n =>
        ([("date", "%Y-%m-%d"), ("seconds", "%Y-%m-%d %H:%M:%S%:z"),
          ("ns", "%Y-%m-%d %H:%M:%S.%N%:z")] : List (String × String)).lookup n).map say
    | _ => none

/-- Tells a moment. -/
def date (c : Call) : Effect :=
  c.withOptions "d:f:I::r:Rs:u" ["date=,d", "debug", "file=,f", "iso-8601?=,I", "reference=,r",
    "resolution", "rfc-email,R", "rfc-822,R", "rfc-2822,R", "rfc-3339=", "set=,s", "uct,u", "utc,u",
    "universal,u"] 1 fun options operands =>
    let formats := formatsOf options
    let sources := (["d", "f", "r", "resolution"] : List String).filter fun k => isSet options k
    let format := (operands.head?).bind fun t => if t.head? = some '+' then some (t.drop 1) else none
    let bad := options.findSome? fun (k, v) =>
      match k with
      | "I" =>
        if v = [] || (unshortened? (standardFormats.map (·.1)) v).isSome then none
        else some (choices c v "--iso-8601" [["hours"], ["minutes"], ["date"], ["seconds"], ["ns"]])
      | "rfc-3339" =>
        if (unshortened? ["date", "seconds", "ns"] v).isSome then none
        else some (choices c v "--rfc-3339" [["date"], ["seconds"], ["ns"]])
      | _ => none
    if let some message := bad then c.misuse 1 message
    else if 1 < formats.length || (formats ≠ [] && format.isSome) then
      c.refuse 1 (say "multiple output formats specified")
    else if 1 < sources.length then
      c.misuse 1 (say "the options to specify dates for printing are mutually exclusive")
    else
      match operands with
      | _ :: t :: _ => c.misuse 1 (say "extra operand " ++ c.quote t)
      | [t] =>
        if format.isNone && (sources ≠ [] || isSet options "s") then
          c.misuse 1 (say "the argument " ++ c.quote t ++ say (" lacks a leading '+';\n" ++
            "when using an option to specify date(s), any non-option\n" ++
            "argument must be a format string beginning with '+'"))
        else if format.isNone then noDate c "invalid date " t
        else tell options (format.getD [])
      | [] => tell options (formats.headD (say "%a %b %e %H:%M:%S %Z %Y"))
where
  /-- Tells the moment that is asked for in a format. -/
  tell (options : List Setting) (format : Text) : Effect :=
    let shown (time : Int) : Text := (Moment.ofTime time).text format ++ ['\n']
    let told (c : Call) (t : Text) : Effect :=
      match (now c).timeOf? t with
      | some time => c.ok (shown time)
      | none => noDate c "invalid date " t
    match settingOf? options "d", settingOf? options "r", settingOf? options "f" with
    | some t, _, _ => told c t
    | none, some t, _ =>
      match c.disk.resolve (pathOf t) with
      | .error e => c.refuse 1 (c.shown t ++ say ": " ++ faultWords e)
      | .ok p => c.ok (shown (((c.disk.lookup p).map (·.changed)).getD 0))
    | none, none, some t =>
      let lines (data : Text) : Effect :=
        let data := if data.getLast? = some '\n' then data.dropLast else data
        if data = [] then c.finish 0 else forEach c (Text.pieces '\n' data) told
      if t = ['-'] then (lines c.input).usingInput
      else
        match c.disk.readFile (pathOf t) with
        | .error e => c.refuse 1 (c.shown t ++ say ": " ++ faultWords e)
        | .ok data => lines (ofBytes data)
    | none, none, none => c.ok (shown c.disk.clock)

/-- Sets the time of a file, which is made if it is not there. -/
def touchOne (options : List Setting) (time : Int) (c : Call) (t : Text) : Effect :=
  let changes := isSet options "m" || !isSet options "a"
  let refuse (words : String) (fault : Disk.Fault) : Effect :=
    c.refuse 1 (say words ++ c.named t ++ say ": " ++ faultWords fault)
  if t = ['-'] then c.finish 0
  else
    match c.disk.resolve (pathOf t) with
    | .ok p =>
      match c.disk.number? p with
      | some k => if changes then Call.changed (c.disk.setTime k time) else c.finish 0
      | none => c.finish 0
    | .error fault =>
      if t ≠ [] && t.getLast? = some '/' then refuse "setting times of " fault
      else if isSet options "c" then
        if fault = .missing then c.finish 0 else refuse "setting times of " fault
      else
        match c.disk.create (pathOf t) Volume.usualRights with
        | .ok (d, k) => Call.changed (if changes then d.setTime k time else d)
        | .error e => refuse "cannot touch " e

/-- Sets the times of files. -/
def touch (c : Call) : Effect :=
  c.withOptions "acd:fhmr:t:" ["time=", "no-create,c", "date=,d", "reference=,r",
    "no-dereference,h"] 1 fun options files =>
    let stamp := settingOf? options "t"
    let reference := settingOf? options "r"
    let words := settingOf? options "d"
    let kinds := (options.filterMap fun (k, v) => if k = "time" then some v else none).map fun v =>
      (v, unshortened? ["atime", "access", "use", "mtime", "modify"] v)
    match kinds.find? fun k => k.2.isNone with
    | some (v, _) => c.misuse 1 (say "invalid argument " ++ c.quote v ++ say " for " ++ c.quote (say "--time") ++
        '\n' :: say "Valid arguments are:\n  - " ++ c.quote (say "atime") ++ say ", " ++
        c.quote (say "access") ++ say ", " ++ c.quote (say "use") ++ say "\n  - " ++
        c.quote (say "mtime") ++ say ", " ++ c.quote (say "modify"))
    | none =>
      let options := options ++ kinds.map fun k =>
        (if k.2 = some "mtime" || k.2 = some "modify" then "m" else "a", [])
      let badStamp := stamp.filter fun t => ((now c).timeOfDigits? t).isNone
      let badReference := reference.filter fun t => (timeOf? c t).isNone
      match badStamp, badReference with
      | some t, _ => noDate c "invalid date format " t
      | none, some t =>
        if stamp.isSome then
          c.misuse 1 (say "cannot specify times from more than one source")
        else
          c.refuse 1 (say "failed to get attributes of " ++ c.named t ++ say ": " ++
            faultWords (match c.disk.resolve (pathOf t) with
              | .error e => e
              | .ok _ => .missing))
      | none, none =>
        if stamp.isSome && (reference.isSome || words.isSome) then
          c.misuse 1 (say "cannot specify times from more than one source")
        else
          let start := (reference.bind (timeOf? c)).getD c.disk.clock
          match words with
          | some t =>
            match (Moment.ofTime start).timeOf? t with
            | some time => go options time files
            | none => noDate c "invalid date format " t
          | none => go options ((stamp.bind (now c).timeOfDigits?).getD start) files
where
  /-- Goes on with a time that is known. -/
  go (options : List Setting) (time : Int) (files : List Text) : Effect :=
    if files = [] then c.missing "file operand" else forEach c files (touchOne options time)

end Utility
end Shell
end IconAssets
