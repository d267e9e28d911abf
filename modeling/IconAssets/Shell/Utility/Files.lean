import IconAssets.Shell.Builtin.Limit
import IconAssets.Shell.Utility.Listing

/-!
# Utilities that change the disk

Each makes, removes, copies or moves files and folders.  A file that it cannot work on is
complained about and does not keep it from the others.
-/

namespace IconAssets
namespace Shell
namespace Utility

open Pattern (pathOf)

/-- A path without the slashes at its end. -/
def withoutSlashes (t : Text) : Text :=
  let u := (t.reverse.dropWhile (· = '/')).reverse
  if u = [] then t.take 1 else u

/-- The last name of a path. -/
def lastName (t : Text) : Text :=
  let u := withoutSlashes t
  ((Text.pieces '/' u).getLast?).getD []

/-- Tells of something that has been done, if the option for it is on. -/
def told (options : List Setting) (d : Volume) (message : Text) : Effect :=
  ⟨d, if isSet options "v" then [(false, message ++ ['\n'])] else [], 0, none, false⟩

/-- The answer to a question: whether the next line of the input starts with a yes. -/
def asked (c : Call) (question : Text) (yes : Call → Effect) : Effect :=
  let line := c.input.takeWhile (· ≠ '\n')
  let c' := { c with input := c.input.drop (line.length + 1) }
  let e : Effect := ⟨c.disk, [(true, c.name ++ say ": " ++ question ++ say "? ")], 0, some c'.input, false⟩
  if line.head? = some 'y' || line.head? = some 'Y' then e.andThen fun _ => yes c' else e

/-- The paths to a place that are to be made for a path: the path up to each of its names. -/
def ancestry (t : Text) : List Text :=
  ((List.range (t.length + 1)).filter fun i =>
    0 < i && t[i - 1]? ≠ some '/' && (t[i]? = some '/' || i = t.length)).map t.take

/-- The volume with the rights of what a path names changed by a text. -/
def withRights (d : Volume) (mode : Option Text) (t : Text) : Volume :=
  match mode.bind Rights.steps?, d.numberOf? (pathOf t) with
  | some steps, some k =>
    d.onNode k fun n =>
      { n with rights := Rights.applyAll steps n.isFolder d.lacking Volume.folderRights }
  | _, _ => d

/-- Makes a folder. -/
def makeFolder (c : Call) (options : List Setting) (t : Text) : Effect :=
  match c.disk.makeFolder (pathOf t) with
  | .ok d =>
    told options (withRights d (settingOf? options "m") t)
      (c.name ++ say ": created directory " ++ c.named t)
  | .error e =>
    c.refuse 1 (say "cannot create directory " ++ c.quote t ++ say ": " ++ faultWords e)

/-- Makes a folder together with those above it. -/
def makeChain (c : Call) (options : List Setting) (t : Text) : Effect :=
  let r := (ancestry t).foldl (fun (e, goesOn) u =>
    if !goesOn then (e, false)
    else
      let c := { c with disk := e.disk }
      let isLast : Bool := u = withoutSlashes t
      match c.disk.find? (pathOf u) with
      | some n =>
        if n.isFolder then (e, true)
        else
          (e.andThen fun _ => c.refuse 1 (say "cannot create directory " ++ c.quote u ++ say ": " ++
            faultWords (if isLast then .taken else .notFolder)), false)
      | none =>
        let made := makeFolder c (if isLast then options else options.filter (·.1 ≠ "m")) u
        (e.andThen fun _ => made, made.status = 0)) (c.finish 0, true)
  if t = [] then makeFolder c options t else r.1

/-- Makes folders. -/
def mkdir (c : Call) : Effect :=
  c.withOptions "pm:vZ" ["mode=,m", "parents,p", "verbose,v", "context?=,Z"] 1 fun options folders =>
    match settingOf? options "m" with
    | some m =>
      if (Rights.steps? m).isNone then c.refuse 1 (say "invalid mode " ++ c.quote m)
      else go options folders
    | none => go options folders
where
  /-- Goes on with options that can be used. -/
  go (options : List Setting) (folders : List Text) : Effect :=
    if folders = [] then c.missing "operand"
    else forEach c folders fun c t =>
      if isSet options "p" then makeChain c options t else makeFolder c options t

/-- Makes pipes with names. -/
def mkfifo (c : Call) : Effect :=
  c.withOptions "m:Z" ["mode=,m", "context?=,Z"] 1 fun options paths =>
    let mode := settingOf? options "m"
    match mode with
    | some m =>
      if (Rights.steps? m).isNone then c.refuse 1 (say "invalid mode")
      else go mode paths
    | none => go mode paths
where
  /-- Goes on with rights that can be set. -/
  go (mode : Option Text) (paths : List Text) : Effect :=
    if paths = [] then c.missing "operand"
    else forEach c paths fun c t =>
      match c.disk.makeNode (pathOf t) (.pipe none) Volume.usualRights with
      | .ok d =>
        match mode.bind Rights.steps?, d.numberOf? (pathOf t) with
        | some steps, some k =>
          Call.changed (d.onNode k fun n =>
            { n with rights := Rights.applyAll steps false d.lacking Volume.usualRights })
        | _, _ => Call.changed d
      | .error e => c.refuse 1 (say "cannot create fifo " ++ c.named t ++ say ": " ++ faultWords e)

/-- Removes a folder that is empty. -/
def removeEmpty (c : Call) (options : List Setting) (word t : Text) : Effect :=
  let refuse (message : Text) : Effect :=
    c.refuse 1 (say "failed to remove " ++ word ++ c.named t ++ say ": " ++ message)
  let e := told options c.disk (c.name ++ say ": removing directory, " ++ c.named t)
  e.andThen fun _ =>
    match c.disk.resolve (pathOf t) with
    | .error e => refuse (faultWords e)
    | .ok p =>
      if lastName t = ['.'] then refuse (say "Invalid argument")
      else if !c.disk.isFolderAt p then refuse (faultWords .notFolder)
      else if c.disk.children p ≠ [] then
        if isSet options "ignore-fail-on-non-empty" then c.finish 0
        else refuse (say "Directory not empty")
      else Call.changed (c.disk.clear p)

/-- Removes folders that are empty. -/
def rmdir (c : Call) : Effect :=
  c.withOptions "pv" ["ignore-fail-on-non-empty", "parents,p", "verbose,v"] 1 fun options folders =>
    if folders = [] then c.missing "operand"
    else forEach c folders fun c t =>
      let first := removeEmpty c options [] t
      if first.status ≠ 0 || !isSet options "p" then first
      else
        (((ancestry (withoutSlashes t)).dropLast.reverse).foldl (fun (e, goesOn) u =>
          if !goesOn then (e, false)
          else
            let more := removeEmpty { c with disk := e.disk } options (say "directory ") u
            (e.andThen fun _ => more, more.status = 0)) (first, true)).1

/-- The words that tell of what has been removed below and at a place. -/
def removedWords (c : Call) (d : Volume) (t : Text) (p : Place) : List (Bool × Text) :=
  let entry (name : Text) (n : Node) : Bool × Text :=
    (false, (if n.isFolder then say "removed directory " else say "removed ") ++ c.named name ++ ['\n'])
  ((d.below p).reverse.map fun e =>
    entry (e.1.foldl (fun path n => inside path (Shell.ofText n)) t) e.2) ++
    ((d.lookup p).map (entry t)).toList

/-- The words for what a node is. -/
def kindWords (n : Node) : Text :=
  match n.body with
  | .folder _ => say "directory"
  | .file [] => say "regular empty file"
  | .file _ => say "regular file"
  | .device _ => say "character special file"
  | .pipe _ => say "fifo"

/-- Removes a file, or a folder if asked to. -/
def removeOne (options : List Setting) (c : Call) (t : Text) : Effect :=
  let on (k : String) : Bool := isSet options k
  let forced := lastOf options ["f", "i", "I"] = some "f"
  let asks := lastOf options ["f", "i", "I"] = some "i"
  let refuse (message : Text) : Effect :=
    c.refuse 1 (say "cannot remove " ++ c.named t ++ say ": " ++ message)
  let recursive := on "r" || on "R"
  match c.disk.resolve (pathOf t) with
  | .error e =>
    if forced && (e = .missing || e = .notFolder) then c.finish 0 else refuse (faultWords e)
  | .ok p =>
    let last := lastName t
    let remove (c : Call) : Effect :=
      ⟨c.disk.clear p, if on "v" then removedWords c c.disk t p else [], 0, none, false⟩
    match (c.disk.lookup p).filter fun n => !n.isFolder with
    | some n =>
      if asks then
        asked c (say "remove " ++ kindWords n ++ [' '] ++ c.named t) remove
      else remove c
    | none =>
      if !recursive && !on "d" then refuse (faultWords .isFolder)
      else if last = ['.'] || last = ['.', '.'] then
        c.refuse 1 (say "refusing to remove " ++ c.named ['.'] ++ say " or " ++
          c.named ['.', '.'] ++ say " directory: skipping " ++ c.named t)
      else if p = [] then
        c.refuse 1 (say "it is dangerous to operate recursively on " ++ c.named ['/'] ++ '\n' ::
          c.name ++ say ": use --no-preserve-root to override this failsafe")
      else if !recursive && c.disk.children p ≠ [] then refuse (say "Directory not empty")
      else if asks then asked c (say "remove directory " ++ c.named t) remove
      else remove c

/-- Removes files, and folders if asked to.  A file that was taken for an option is pointed out. -/
def rm (c : Call) : Effect :=
  match Options.read (.ofTables letters names) c.arguments with
  | .error message =>
    match c.arguments.find? fun a =>
      a.head? = some '-' && a.length ≠ 1 && c.disk.hasObject (pathOf a) with
    | some a => c.misuse 1 (message ++ say "\nTry '" ++ c.name ++ say " ./" ++
        quoteIfOdd c.speaksUtf8 a ++ say "' to remove the file " ++ c.named a ++ ['.'])
    | none => c.misuse 1 message
  | .ok (options, files) =>
    if files = [] && lastOf options ["f", "i", "I"] ≠ some "f" then c.missing "operand"
    else forEach c files (removeOne options)
where
  /-- The letters of the options. -/
  letters : String := "dfirvIR"
  /-- The long names of the options. -/
  names : List String := ["force,f", "interactive?=,i", "one-file-system", "no-preserve-root",
    "preserve-root?=", "recursive,r", "dir,d", "verbose,v"]

end Utility
end Shell
end IconAssets
