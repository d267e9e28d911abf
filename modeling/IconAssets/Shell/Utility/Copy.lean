import IconAssets.Shell.Utility.Files

/-!
# Copying and moving

Files and folders are copied, moved or linked into a folder or to a new name.  What is there already
may be replaced by something of its kind; nothing is put into itself.
-/

namespace IconAssets
namespace Shell
namespace Utility

open Pattern (pathOf)

/-- What is to be put where. -/
structure Transfer where
  sources : List Text
  target : Text
  /-- Whether the target is a folder that the sources go into. -/
  intoFolder : Bool

/-- Finds out what is to be put where. -/
def transferOf (c : Call) (options : List Setting) (args : List Text) :
    Except Effect Transfer :=
  let isFolder (t : Text) : Bool := c.disk.isFolder (pathOf t)
  let targetFault (word t : Text) : Effect :=
    c.refuse 1 (word ++ c.named t ++ say ": " ++
      faultWords (if c.disk.hasObject (pathOf t) then .notFolder else .missing))
  match settingOf? options "t", args.reverse with
  | some t, [] => .error (if isFolder t then c.missing "file operand" else targetFault (say "target directory ") t)
  | some t, _ =>
    if isFolder t then .ok ⟨args, t, true⟩ else .error (targetFault (say "target directory ") t)
  | none, [] => .error (c.missing "file operand")
  | none, [t] => .error (c.misuse 1 (say "missing destination file operand after " ++ c.named t))
  | none, target :: [source] =>
    if isSet options "T" then .ok ⟨[source], target, false⟩
    else
      match c.disk.resolve (pathOf target) with
      | .error .notFolder =>
        .error (c.refuse 1 (say "cannot stat " ++ c.named target ++ say ": " ++ faultWords .notFolder))
      | _ => .ok ⟨[source], target, isFolder target⟩
  | none, target :: extra :: sources =>
    if isSet options "T" then .error (c.misuse 1 (say "extra operand " ++ c.named extra))
    else if isFolder target then .ok ⟨(extra :: sources).reverse, target, true⟩
    else .error (targetFault (say "target ") target)

/-- Where a source goes. -/
def Transfer.pathFor (t : Transfer) (source : Text) : Text :=
  if t.intoFolder then inside t.target (lastName source) else t.target

/-- A line that tells of a copy. -/
def arrow (c : Call) (source target : Text) : Bool × Text :=
  (false, c.named source ++ say " -> " ++ c.named target ++ ['\n'])

/-- Puts the content of a node somewhere.  A new file gets its rights, less those that new files
lack. -/
def putFile (d : Volume) (n : Node) (target : Path) : Except Disk.Fault Volume :=
  match d.create target (n.rights &&& Volume.folderRights) with
  | .error e => .error e
  | .ok (d, k) => .ok (d.setData k n.data)

/-- What of a node is kept when it is copied. -/
structure Kept where
  rights : Bool
  time : Bool

/-- What options say about what is kept. -/
def keptBy (options : List Setting) : Kept :=
  let all := isSet options "p" || isSet options "a"
  let lists := (options.filter fun o => o.1 = "preserve").map fun o =>
    if o.2 = [] then say "mode,timestamps" else o.2
  let names := lists.flatMap fun t => (Text.pieces ',' t).map String.ofList
  let has (name : String) : Bool := all || "all" ∈ names || name ∈ names
  ⟨has "mode", has "timestamps"⟩

/-- The volume with what is kept of a node at a path. -/
def Kept.restore (k : Kept) (d : Volume) (n : Node) (target : Text) : Volume :=
  match d.numberOf? (pathOf target) with
  | none => d
  | some m =>
    let d := if k.rights then d.setRights m n.rights else d
    if k.time then d.setTime m n.changed else d

/-- Copies a file. -/
def copyFile (c : Call) (options : List Setting) (p : Place) (n : Node) (source target : Text) :
    Effect :=
  let target' := pathOf target
  let link : Bool := isSet options "l"
  let made : Except Disk.Fault Volume :=
    if link && !c.disk.hasObject target' then
      match c.disk.locate target', c.disk.number? p with
      | .ok ⟨folder, some name, _⟩, some k => .ok (c.disk.attach (folder ++ [name]) k)
      | .error e, _ => .error e
      | _, _ => .error .isFolder
    else if link then .error .taken
    else (putFile c.disk n target').map fun d => (keptBy options).restore d n target
  match made with
  | .ok d => ⟨d, if isSet options "v" then [arrow c source target] else [], 0, none, false⟩
  | .error e =>
    if link then
      c.refuse 1 (say "cannot create hard link " ++ c.named target ++ say " to " ++ c.named source ++
        say ": " ++ faultWords e)
    else
      c.refuse 1 (say "cannot create regular file " ++ c.named target ++ say ": " ++
        faultWords (if e = .isFolder && target.getLast? = some '/' then .notFolder else e))

/-- Copies what is at a place, and what is below it. -/
def copyTree (options : List Setting) : Nat → Call → Text → Place → Text → Effect
  | 0, c, _, _, _ => c.finish 0
  | levels + 1, c, source, p, target =>
    let there := c.disk.find? (pathOf target)
    match c.disk.lookup p with
    | none => c.finish 0
    | some n =>
      if !n.isFolder then
        if there.any Node.isFolder then
          c.refuse 1 (say "cannot overwrite directory " ++ c.named target ++
            say " with non-directory")
        else copyFile c options p n source target
      else if there.any fun m => !m.isFolder then
        c.refuse 1 (say "cannot overwrite non-directory " ++ c.named target ++
          say " with directory " ++ c.named source)
      else
        let made : Effect :=
          if there.isSome then c.finish 0
          else
            match c.disk.makeNode (pathOf target) (.folder []) n.rights with
            | .ok d => ⟨d, if isSet options "v" then [arrow c source target] else [], 0, none, false⟩
            | .error e =>
              c.refuse 1 (say "cannot create directory " ++ c.named target ++ say ": " ++ faultWords e)
        if made.status ≠ 0 then made
        else
          let copied := (c.disk.children p).foldl (fun e name =>
            e.andThen fun d => copyTree options levels { c with disk := d }
              (inside source (Shell.ofText name)) (p ++ [name]) (inside target (Shell.ofText name)))
            made
          { copied with disk := (keptBy options).restore copied.disk n target }

/-- Whether a target that is there is to be left alone; `some true` if it has to be asked about. -/
def sparing (options : List Setting) : Option Bool :=
  match lastOf options ["n", "i", "f"] with
  | some "n" => some false
  | some "i" => some true
  | _ =>
    match (settingOf? options "update").map String.ofList with
    | some "none" => some false
    | some "all" => none
    | _ => if isSet options "u" || isSet options "update" then some false else none

/-- Whether what is at a place has been changed later than what a path names. -/
def isNewer (d : Volume) (p : Place) (target : Text) : Bool :=
  match d.lookup p, d.find? (pathOf target) with
  | some m, some n => n.changed < m.changed
  | _, _ => true

/-- Copies one source. -/
def copyOne (options : List Setting) (t : Transfer) (c : Call) (source : Text) : Effect :=
  let on (k : String) : Bool := isSet options k
  let target := t.pathFor source
  match c.disk.resolve (pathOf source) with
  | .error e => c.refuse 1 (say "cannot stat " ++ c.named source ++ say ": " ++ faultWords e)
  | .ok p =>
    let isFolder : Bool := c.disk.isFolderAt p
    if isFolder && !(on "r" || on "R" || on "a") then
      c.refuse 1 (say "-r not specified; omitting directory " ++ c.named source)
    else
      let q := (c.disk.resolve (pathOf target)).toOption <|>
        (match c.disk.locate (pathOf target) with
        | .ok ⟨folder, some name, _⟩ => some (folder ++ [name])
        | _ => none)
      if isFolder && q.any fun q => p.isPrefixOf q then
        (copyTree options (c.disk.height + 1) c source p target).andThen fun d =>
          { c with disk := d }.refuse 1 (say "cannot copy a directory, " ++ c.named source ++
            say ", into itself, " ++ c.named target)
      else if (q.bind c.disk.number?) = c.disk.number? p then
        c.refuse 1 (c.named source ++ say " and " ++ c.named target ++ say " are the same file")
      else
        let copy (c : Call) : Effect := copyTree options (c.disk.height + 1) c source p target
        let isThere := (c.disk.find? (pathOf target)).any fun n => !n.isFolder
        match sparing options with
        | some asks =>
          if !isThere then copy c
          else if asks then asked c (say "overwrite " ++ c.named target) copy
          else if isSet options "u" && isNewer c.disk p target then copy c
          else c.finish 0
        | none => copy c

/-- Copies files, and folders if asked to. -/
def cp (c : Call) : Effect :=
  c.withOptions "abdfHilLnprst:uvxPRS:TZ" ["archive,a", "attributes-only", "backup?=", "force,f",
    "interactive,i", "link,l", "dereference,L", "no-clobber,n", "no-dereference,P", "no-preserve=",
    "no-target-directory,T", "one-file-system,x", "parents", "path,parents", "preserve?=",
    "recursive,R", "remove-destination", "sparse=", "reflink?=", "strip-trailing-slashes", "suffix=,S",
    "symbolic-link,s", "target-directory=,t", "update?=", "verbose,v", "debug"] 1 fun options args =>
    match transferOf c options args with
    | .error e => e
    | .ok t =>
      let warned : Effect := ⟨c.disk, if isSet options "n" then
        [(true, c.name ++ say ": warning: behavior of -n is non-portable and may change in future; use --update=none instead\n")]
        else [], 0, none, false⟩
      warned.andThen fun _ =>
        if isSet options "parents" then
          if !c.disk.isFolder (pathOf t.target) then
            c.misuse 1 (say "with --parents, the destination must be a directory")
          else forEach c t.sources fun c source =>
            let target := inside t.target source
            let folder := ((ancestry target).dropLast.getLast?).getD t.target
            (makeChain c [] folder).andThen fun d =>
              copyOne options ⟨[source], target, false⟩ { c with disk := d } source
        else forEach c t.sources (copyOne options t)

/-- Moves what is at a place to another one, where nothing of another kind may be. -/
def moveOne (options : List Setting) (t : Transfer) (c : Call) (source : Text) : Effect :=
  let target := t.pathFor source
  let cannot (message : Text) : Effect := c.refuse 1 (say "cannot " ++ message)
  match c.disk.resolve (pathOf source) with
  | .error e => cannot (say "stat " ++ c.named source ++ say ": " ++ faultWords e)
  | .ok p =>
    let move (q : Place) (c : Call) : Effect :=
      ⟨if c.disk.number? p = c.disk.number? q then c.disk.clear p else c.disk.move p q,
        if isSet options "v" then
          [(false, say "renamed " ++ c.named source ++ say " -> " ++ c.named target ++ ['\n'])]
        else [], 0, none, false⟩
    let isFolder : Bool := c.disk.isFolderAt p
    let last := lastName source
    if last = ['.'] || last = ['.', '.'] then
      cannot (say "move " ++ c.named source ++ say " to " ++ c.named target ++
        say ": Device or resource busy")
    else
      match c.disk.resolve (pathOf target) with
      | .ok q =>
        if q = p && !isFolder then
          c.refuse 1 (c.named source ++ say " and " ++ c.named target ++ say " are the same file")
        else if isFolder && p.isPrefixOf q then
          cannot (say "move " ++ c.named source ++ say " to a subdirectory of itself, " ++ c.named target)
        else
          match c.disk.isFolderAt q, isFolder with
          | true, false =>
            cannot (say "overwrite directory " ++ c.named target ++ say " with non-directory")
          | false, true =>
            cannot (say "overwrite non-directory " ++ c.named target ++ say " with directory " ++
              c.named source)
          | true, true =>
            if c.disk.children q ≠ [] then
              cannot (say "overwrite " ++ c.named target ++ say ": Directory not empty")
            else move q c
          | false, false =>
            match sparing options with
            | some false =>
              if isSet options "n" then c.refuse 1 (say "not replacing " ++ c.named target)
              else if isSet options "u" && isNewer c.disk p target then move q c
              else c.finish 0
            | some true => asked c (say "overwrite " ++ c.named target) (move q)
            | none => move q c
      | .error _ =>
        match c.disk.locate (pathOf target) with
        | .ok ⟨folder, some name, slash⟩ =>
          let q := folder ++ [name]
          if slash && !isFolder then
            cannot (say "move " ++ c.named source ++ say " to " ++ c.named target ++ say ": " ++
              faultWords .notFolder)
          else if isFolder && p.isPrefixOf q then
            cannot (say "move " ++ c.named source ++ say " to a subdirectory of itself, " ++
              c.named target)
          else if Disk.isTooLong name then
            cannot (say "move " ++ c.named source ++ say " to " ++ c.named target ++ say ": " ++
              faultWords .nameTooLong)
          else move q c
        | .ok ⟨_, none, _⟩ =>
          cannot (say "move " ++ c.named source ++ say " to " ++ c.named target ++ say ": " ++
            faultWords .taken)
        | .error e =>
          cannot (say "move " ++ c.named source ++ say " to " ++ c.named target ++ say ": " ++
            faultWords e)

/-- Moves files and folders. -/
def mv (c : Call) : Effect :=
  c.withOptions "bfint:uvS:TZ" ["backup?=", "force,f", "interactive,i", "no-clobber,n",
    "no-copy", "no-target-directory,T", "strip-trailing-slashes", "suffix=,S", "target-directory=,t",
    "update?=", "verbose,v", "debug", "exchange"] 1 fun options args =>
    match transferOf c options args with
    | .error e => e
    | .ok t => forEach c t.sources (moveOne options t)

/-- Gives files further names, each with the content of the file. -/
def ln (c : Call) : Effect :=
  c.withOptions "bdfFiLnPrst:vS:T" ["backup?=", "directory,d", "force,f", "interactive,i",
    "logical,L", "no-dereference,n", "physical,P", "relative,r", "symbolic,s",
    "target-directory=,t", "no-target-directory,T", "verbose,v", "suffix=,S"] 1 fun options args =>
    let kind := if isSet options "s" then "symbolic" else "hard"
    let link (t : Transfer) (c : Call) (source : Text) : Effect :=
      let target := t.pathFor source
      let refuse (message : Text) : Effect :=
        c.refuse 1 (say ("failed to create " ++ kind ++ " link ") ++ c.named target ++ message)
      match c.disk.resolve (pathOf source) with
      | .error e =>
        c.refuse 1 (say "failed to access " ++ c.named source ++ say ": " ++ faultWords e)
      | .ok p =>
        if c.disk.isFolderAt p then
          c.refuse 1 (c.shown source ++ say ": hard link not allowed for directory")
        else if c.disk.hasObject (pathOf target) then
          if !isSet options "f" then refuse (say ": File exists")
          else if c.disk.numberOf? (pathOf target) = c.disk.number? p then
            c.refuse 1 (c.named source ++ say " and " ++ c.named target ++ say " are the same file")
          else attach c p source target options
        else attach c p source target options
    match args with
    | [t] => link ⟨args, ['.'], true⟩ c t
    | _ =>
      match transferOf c options args with
      | .error e => e
      | .ok t => forEach c t.sources (link t)
where
  /-- Gives what is at a place a further name. -/
  attach (c : Call) (p : Place) (source target : Text) (options : List Setting) : Effect :=
    match c.disk.locate (pathOf target), c.disk.number? p with
    | .ok ⟨folder, some name, _⟩, some k =>
      told options (c.disk.attach (folder ++ [name]) k) (c.named target ++ say " => " ++ c.named source)
    | .error e, _ => failed c source target e
    | _, _ => failed c source target .taken
  /-- A complaint about a name that cannot be given. -/
  failed (c : Call) (source target : Text) (e : Disk.Fault) : Effect :=
    c.refuse 1 (say "failed to create hard link " ++ c.named target ++ say " => " ++
      c.named source ++ say ": " ++ faultWords e)

/-- The rights of installed files. -/
def installedRights : Nat := 493

/-- Puts a node somewhere as a new file with rights of its own. -/
def installFile (d : Volume) (options : List Setting) (n : Node) (target : Text) :
    Except Disk.Fault Volume :=
  let cleared := match d.resolve (pathOf target) with
    | .ok q => if d.isFolderAt q then d else d.clear q
    | .error _ => d
  match putFile cleared n (pathOf target) with
  | .error e => .error e
  | .ok d =>
    match d.numberOf? (pathOf target) with
    | none => .ok d
    | some k =>
      let rights := match (settingOf? options "m").bind Rights.steps? with
        | some steps => Rights.applyAll steps false 0 0
        | none => installedRights
      let d := d.setRights k rights
      .ok (if isSet options "p" then d.setTime k n.changed else d)

/-- Copies files to where they are used. -/
def install (c : Call) : Effect :=
  c.withOptions "bcCdDg:m:o:pst:TvS:Z" ["mode=,m", "directory,d", "target-directory=,t",
    "no-target-directory,T", "verbose,v", "compare,C", "owner=,o", "group=,g", "strip,s",
    "preserve-timestamps,p"] 1 fun options args =>
    let quiet := options.filter fun o => o.1 ≠ "v"
    if isSet options "d" then
      if args = [] then c.missing "file operand" else forEach c args fun c t => makeChain c quiet t
    else
      match transferOf c options args with
      | .error e => e
      | .ok t => forEach c t.sources fun c source =>
        let target := t.pathFor source
        let folder := (ancestry target).dropLast.getLast?
        let made := match isSet options "D", folder with
          | true, some f => makeChain c [] f
          | _, _ => c.finish 0
        made.andThen fun d =>
          let c := { c with disk := d }
          match c.disk.find? (pathOf source) with
          | none => c.refuse 1 (say "cannot stat " ++ c.named source ++ say ": " ++
              faultWords (faultOf c.disk source))
          | some n =>
            if n.isFolder then c.refuse 1 (say "omitting directory " ++ c.named source)
            else
              match installFile c.disk options n target with
              | .error e =>
                c.refuse 1 (say "cannot create regular file " ++ c.named target ++ say ": " ++
                  faultWords e)
              | .ok d => ⟨d, if isSet options "v" then [arrow c source target] else [], 0, none, false⟩
where
  /-- Why a path names nothing. -/
  faultOf (d : Volume) (t : Text) : Disk.Fault :=
    match d.resolve (pathOf t) with
    | .error e => e
    | .ok _ => .missing

end Utility
end Shell
end IconAssets
