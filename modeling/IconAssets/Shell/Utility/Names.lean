import IconAssets.Shell.Utility.Copy

/-!
# Names and rights of files

Utilities that take paths apart or follow them, and that tell or change what is known of files.
-/

namespace IconAssets
namespace Shell
namespace Utility

open Pattern (pathOf)

/-- The path without its last name. -/
def folderOf (t : Text) : Text :=
  let u := withoutSlashes t
  let front := u.take (u.length - (lastName u).length)
  if front = [] then (if u.head? = some '/' then ['/'] else ['.'])
  else withoutSlashes front

/-- Writes paths without their last names. -/
def dirname (c : Call) : Effect :=
  c.withOptions "+z" ["zero,z"] 1 fun options paths =>
    let ending := if isSet options "z" then '\x00' else '\n'
    if paths = [] then c.missing "operand"
    else c.ok (paths.flatMap fun t => folderOf t ++ [ending])

/-- Writes the last names of paths, without an ending. -/
def basename (c : Call) : Effect :=
  c.withOptions "+as:z" ["multiple,a", "suffix=,s", "zero,z"] 1 fun options args =>
    let ending := if isSet options "z" then '\x00' else '\n'
    let plain (t : Text) : Text :=
      if t ≠ [] && t.all (· = '/') then ['/'] else lastName t
    let cut (suffix t : Text) : Text :=
      let name := plain t
      (if suffix.isSuffixOf name && name ≠ suffix then name.take (name.length - suffix.length)
      else name) ++ [ending]
    let suffix := (settingOf? options "s").getD []
    if args = [] then c.missing "operand"
    else if isSet options "a" || isSet options "s" then c.ok (args.flatMap (cut suffix))
    else
      match args with
      | [t] => c.ok (cut [] t)
      | [t, suffix] => c.ok (cut suffix t)
      | _ :: _ :: t :: _ => c.misuse 1 (say "extra operand " ++ c.quote t)
      | [] => c.finish 0

/-- How much of a path has to be there. -/
inductive Presence where
  | all
  | folders
  | nothing
  deriving DecidableEq

/-- A place as a path. -/
def placeText (p : Place) : Text := '/' :: Shell.ofText (Text.glue '/' p)

/-- The place that a path leads to. -/
def placeFor (d : Volume) (presence : Presence) (t : Text) : Except Disk.Fault Place :=
  match presence, d.resolve (pathOf t) with
  | _, .ok p => .ok p
  | .all, .error e => .error e
  | .folders, .error .missing =>
    match d.locate (pathOf t) with
    | .ok ⟨folder, some name, _⟩ => .ok (folder ++ [name])
    | .ok ⟨_, none, _⟩ => .error .missing
    | .error e => .error e
  | .folders, .error e => .error e
  | .nothing, .error _ =>
    .ok (Disk.travel (d.start (pathOf t)) (Text.pieces '/' (toText t)))

/-- A place as a path from a folder on. -/
def relativeTo (base p : Place) : Text :=
  let common := ((base.zip p).takeWhile fun e => e.1 = e.2).length
  let names := (List.replicate (base.length - common) ['.', '.']) ++ p.drop common
  if names = [] then ['.'] else Shell.ofText (Text.glue '/' names)

/-- Writes the paths from the root folder on that lead where paths lead. -/
def realpath (c : Call) : Effect :=
  c.withOptions "eEmLPqsz" ["canonicalize,E", "canonicalize-existing,e", "canonicalize-missing,m",
    "logical,L", "physical,P", "quiet,q", "no-symlinks,s", "strip,s", "zero,z", "relative-to=",
    "relative-base="] 1 fun options paths =>
    let presence : Presence := match lastOf options ["e", "E", "m"] with
      | some "e" => .all
      | some "m" => .nothing
      | _ => .folders
    let ending := if isSet options "z" then '\x00' else '\n'
    let base := (settingOf? options "relative-to").bind fun t =>
      (placeFor c.disk presence t).toOption
    if paths = [] then c.missing "operand"
    else forEach c paths fun c t =>
      match placeFor c.disk presence t with
      | .ok p =>
        c.ok ((match base with
          | some b => relativeTo b p
          | none => placeText p) ++ [ending])
      | .error e => if isSet options "q" then c.finish 1 else unreadable c t e

/-- Writes where paths lead; without options it has nothing to tell, as there are no links. -/
def readlink (c : Call) : Effect :=
  c.withOptions "efmnqsvz" ["canonicalize,f", "canonicalize-existing,e", "canonicalize-missing,m",
    "no-newline,n", "quiet,q", "silent,s", "verbose,v", "zero,z"] 1 fun options paths =>
    let presence : Option Presence := (lastOf options ["e", "f", "m"]).map fun k =>
      if k = "e" then .all else if k = "m" then .nothing else .folders
    let ending : Text := if isSet options "n" && paths.length = 1 then []
      else if isSet options "z" then ['\x00'] else ['\n']
    if paths = [] then c.missing "operand"
    else forEach c paths fun c t =>
      let failed (fault : Disk.Fault) (words : Text) : Effect :=
        if isSet options "v" then
          c.refuse 1 (c.shown t ++ say ": " ++ if words = [] then faultWords fault else words)
        else c.finish 1
      match presence with
      | none =>
        match c.disk.resolve (pathOf t) with
        | .ok _ => failed .missing (say "Invalid argument")
        | .error e => failed e []
      | some presence =>
        match placeFor c.disk presence t with
        | .ok p => c.ok (placeText p ++ ending)
        | .error e => failed e []

/-- Writes the path of the working folder. -/
def pwd (c : Call) : Effect :=
  c.withOptions "LP" ["logical,L", "physical,P"] 1 fun _ args =>
    let ignored : List (Bool × Text) :=
      if args = [] then [] else [(true, c.name ++ say ": ignoring non-option arguments\n")]
    ⟨c.disk, ignored ++ [(false, placeText c.disk.working ++ ['\n'])], 0, none, false⟩

/-- Whether an argument is a mode that starts with a hyphen. -/
def isMinusMode (a : Text) : Bool :=
  match a with
  | '-' :: c :: _ => c ∈ ['r', 'w', 'x', 'X', 's', 't', 'u', 'g', 'o', 'a', ',', '+', '='] || c.isDigit
  | _ => false

/-- Rights in base eight. -/
def octalText (width rights : Nat) : Text := Quantity.zeros width (Nat.toDigits 8 rights)

/-- Rights in base eight and in letters. -/
def modeText (rights : Nat) : Text :=
  octalText 4 rights ++ say " (" ++ Rights.letters rights ++ [')']

/-- Changes the rights of files. -/
def chmod (c : Call) : Effect :=
  let front := c.arguments.takeWhile (· ≠ ['-', '-'])
  let behind := c.arguments.drop front.length
  let minus := front.filter isMinusMode
  (c.withArguments (front.filter (fun a => !isMinusMode a) ++ behind)).withOptions "Rcfv"
    ["changes,c", "recursive,R", "no-preserve-root", "preserve-root", "quiet,f", "silent,f",
      "verbose,v", "reference="] 1 fun options args =>
    let reference := settingOf? options "reference"
    let (mode, files) : Text × List Text :=
      if reference.isSome then ([], args)
      else if minus ≠ [] then (Text.glue ',' minus, args)
      else (args.headD [], args.drop 1)
    let referenceMode := (reference.bind fun t => c.disk.find? (pathOf t)).map (·.rights)
    let steps := match referenceMode with
      | some n => [⟨'=', Rights.all, .bits n, Rights.all⟩]
      | none => (Rights.steps? mode).getD []
    if mode = [] && reference.isNone && args = [] then c.missing "operand"
    else if reference.isSome && referenceMode.isNone then
      c.refuse 1 (say "failed to get attributes of " ++ c.named (reference.getD []) ++ say ": " ++
        faultWords .missing)
    else if files = [] then c.misuse 1 (say "missing operand after " ++ c.quote mode)
    else if reference.isNone && (Rights.steps? mode).isNone then
      c.misuse 1 (say "invalid mode: " ++ c.quote mode)
    else forEach c files fun c t =>
      match c.disk.resolve (pathOf t) with
      | .error e =>
        if isSet options "f" then c.finish 1
        else c.refuse 1 (say "cannot access " ++ c.named t ++ say ": " ++ faultWords e)
      | .ok p =>
        let below := if isSet options "R" then (c.disk.below p).map fun e => (p ++ e.1, e.1) else []
        ((p, []) :: below).foldl (fun e (p, names) => e.andThen fun d =>
          change { c with disk := d } options steps (minus ≠ []) p
            (names.foldl (fun t n => inside t (Shell.ofText n)) t)) (c.finish 0)
where
  /-- Changes the rights of what is at a place. -/
  change (c : Call) (options : List Setting) (steps : List RightsStep) (surprises : Bool) (p : Place)
      (t : Text) : Effect :=
    match c.disk.number? p, c.disk.lookup p with
    | some k, some n =>
      let after (lacking : Nat) : Nat := Rights.applyAll steps n.isFolder lacking n.rights
      let new := after c.disk.lacking
      let name := c.named t
      let told :=
        if new = n.rights then
          if isSet options "v" then
            say "mode of " ++ name ++ say " retained as " ++ modeText n.rights ++ ['\n']
          else []
        else if isSet options "v" || isSet options "c" then
          say "mode of " ++ name ++ say " changed from " ++ modeText n.rights ++ say " to " ++
            modeText new ++ ['\n']
        else []
      let e : Effect :=
        ⟨c.disk.setRights k new, if told = [] then [] else [(false, told)], 0, none, false⟩
      if surprises && Rights.without new (after 0) ≠ 0 then
        e.andThen fun d => { c with disk := d }.refuse 1 (c.shown t ++ say ": new permissions are " ++
          Rights.letters new ++ say ", not " ++ Rights.letters (after 0))
      else e
    | _, _ => c.finish 0

/-- Removes one file. -/
def unlink (c : Call) : Effect :=
  c.withOptions "+" [] 1 fun _ args =>
    match args with
    | [] => c.missing "operand"
    | _ :: t :: _ => c.misuse 1 (say "extra operand " ++ c.quote t)
    | [t] =>
      let refuse (e : Disk.Fault) : Effect :=
        c.refuse 1 (say "cannot unlink " ++ c.named t ++ say ": " ++ faultWords e)
      match c.disk.resolve (pathOf t) with
      | .error e => refuse e
      | .ok p => if c.disk.isFolderAt p then refuse .isFolder else Call.changed (c.disk.clear p)

/-- Makes files longer or shorter. -/
def truncate (c : Call) : Effect :=
  c.withOptions "cor:s:" ["no-create,c", "io-blocks,o", "reference=,r", "size=,s"] 1
    fun options files =>
    let spec := settingOf? options "s"
    let signs : List Char := ['+', '-', '<', '>', '/', '%']
    let sign := spec.bind fun t => (t.head?).filter (· ∈ signs)
    let digits := spec.map fun t => if sign.isSome then t.drop 1 else t
    let given := digits.map (readSize c "number")
    let base := (settingOf? options "r").map fun t => c.disk.readFile (pathOf t)
    match spec, base, given with
    | none, none, _ =>
      c.misuse 1 (say "you must specify either " ++ c.quote (say "--size") ++ say " or " ++
        c.quote (say "--reference"))
    | some t, _, some (.error _) => c.refuse 1 (say "Invalid number: " ++ c.quote t)
    | _, some (.error e), _ =>
      c.refuse 1 (say "cannot stat " ++ c.named ((settingOf? options "r").getD []) ++ say ": " ++
        faultWords e)
    | _, _, _ =>
      if files = [] then c.missing "file operand"
      else forEach c files fun c t =>
        let old := (c.disk.readFile (pathOf t)).toOption
        if old.isNone && isSet options "c" then c.finish 0
        else
          let data := old.getD []
          let n := (given.bind Except.toOption).getD 0
          let from_ := match base with
            | some (.ok b) => b.length
            | _ => data.length
          let size := match spec, sign with
            | none, _ => from_
            | _, none => n
            | _, some '+' => from_ + n
            | _, some '-' => from_ - n
            | _, some '<' => min from_ n
            | _, some '>' => max from_ n
            | _, some '/' => from_ / max n 1 * max n 1
            | _, some _ => (from_ + max n 1 - 1) / max n 1 * max n 1
          match c.disk.writeFile (pathOf t) (data.take size ++ List.replicate (size - data.length) 0) with
          | .ok d => Call.changed d
          | .error e =>
            c.refuse 1 (say "cannot open " ++ c.named t ++ say " for writing: " ++ faultWords e)

/-- The bits for what a node is. -/
def kindBits (n : Node) : Nat :=
  match n.body with
  | .folder _ => 16384
  | .file _ => 32768
  | .device _ => 8192
  | .pipe _ => 4096

/-- A number of seconds, with as many digits behind the point as a precision says. -/
def secondsText (precision : Option Nat) (time : Int) : Text :=
  let m := Moment.ofTime time
  match precision with
  | none => m.text (say "%s")
  | some n => m.text (say "%s.%" ++ Text.ofNat n ++ ['N'])

/-- What a directive of a format tells of a file. -/
def statDirective (c : Call) (t : Text) (e : Entry) (flags : Text) (directive : Char) : Text :=
  let precision : Option Nat :=
    if '.' ∈ flags then some ((digits? ((flags.dropWhile (· ≠ '.')).drop 1)).getD 9) else none
  match directive with
  | 'n' => t
  | 'N' => c.named t
  | 's' => Text.ofNat e.size
  | 'F' => kindWords e.node
  | 'a' => octalText 1 e.node.rights
  | 'A' => e.rights
  | 'f' => Nat.toDigits 16 (e.node.rights + kindBits e.node)
  | 'h' => Text.ofNat e.links
  | 'u' | 'g' | 't' | 'T' | 'W' => ['0']
  | 'w' => ['-']
  | 'x' | 'y' | 'z' => (Moment.ofTime e.node.changed).text (say "%F %T.%N %z")
  | 'X' | 'Y' | 'Z' => secondsText precision e.node.changed
  | 'U' | 'G' => say "root"
  | 'b' => Text.ofNat (e.blocks * 2)
  | 'B' => say "512"
  | 'o' => say "4096"
  | 'm' => ['/']
  | 'i' => Text.ofNat e.number
  | 'd' => ['1']
  | '%' => ['%']
  | x => ['?', x]

/-- A format with what it tells of a file.  A directive is told by its flags, its letter and what
comes behind, of which it may take a part. -/
def statText (tell : Text → Char → Text → Text × Text) (escapes : Bool) : Nat → Text → Text
  | 0, _ => []
  | _ + 1, [] => []
  | fuel + 1, '%' :: t =>
    let flags := t.takeWhile fun x => x ∈ ['-', '+', ' ', '#', '0', '\''] || x.isDigit || x = '.'
    match t.drop flags.length with
    | [] => '%' :: flags
    | x :: rest =>
      let width := (digits? ((flags.takeWhile (· ≠ '.')).filter Char.isDigit)).getD 0
      let (value, rest) := tell flags x rest
      (if '-' ∈ flags then padRight width value else padLeft width value) ++
        statText tell escapes fuel rest
  | fuel + 1, '\\' :: t =>
    if escapes then
      let r := escapeAt t
      r.1 :: statText tell escapes fuel r.2
    else '\\' :: statText tell escapes fuel t
  | fuel + 1, x :: t => x :: statText tell escapes fuel t

/-- Tells what is known of files. -/
def stat (c : Call) : Effect :=
  c.withOptions "c:fLt" ["format=,c", "printf=", "dereference,L", "file-system,f", "terse,t"] 1
    fun options files =>
    if files = [] then c.missing "operand"
    else forEach c files fun c t =>
      match c.disk.resolve (pathOf t) with
      | .error e => c.refuse 1 (say "cannot statx " ++ c.named t ++ say ": " ++ faultWords e)
      | .ok p =>
        match Entry.at? c.disk p t with
        | none => c.finish 0
        | some e =>
          let tell (flags : Text) (x : Char) (rest : Text) : Text × Text :=
            (statDirective c t e flags x, rest)
          match lastOf options ["c", "printf"] with
          | some "printf" =>
            let f := (settingOf? options "printf").getD []
            c.ok (statText tell true (f.length + 1) f)
          | _ =>
            let f := (settingOf? options "c").getD (say "  File: %n\n  Size: %s\t%F")
            c.ok (statText tell false (f.length + 1) f ++ ['\n'])

/-- The characters of the names that are made up. -/
def madeUp : Text := say "aZ4kQ9xT2m"

/-- Makes a file or a folder with a name that is made up. -/
def mktemp (c : Call) : Effect :=
  c.withOptions "dp:qtuV" ["directory,d", "dry-run,u", "quiet,q", "suffix=", "tmpdir?=,tmpdir"] 1
    fun options args =>
    let fallback := ((c.vars.lookup (say "TMPDIR")).filter (· ≠ [])).getD (say "/tmp")
    let template := args.headD (say "tmp.XXXXXXXXXX")
    let suffix := (settingOf? options "suffix").getD []
    let marks := (template.reverse.dropWhile (· ≠ 'X')).takeWhile (· = 'X')
    let folder : Option Text :=
      match settingOf? options "p" <|> settingOf? options "tmpdir" with
      | some t => some (if t = [] then fallback else t)
      | none => if args = [] || isSet options "t" then some fallback else none
    if 1 < args.length then c.misuse 1 (say "too many templates")
    else if marks.length < 3 then
      c.refuse 1 (say "too few X's in template " ++ c.quote (template ++ suffix))
    else
      let behind := template.reverse.takeWhile (· ≠ 'X')
      let stem := template.take (template.length - marks.length - behind.length)
      let pathWith (n : Nat) : Text :=
        let made := ((madeUp.drop (n % 10)) ++ madeUp ++ Text.ofNat n).reverse.take marks.length
        let name := stem ++ made.reverse ++
          List.replicate (marks.length - made.length) 'x' ++ behind.reverse ++ suffix
        match folder with
        | some f => inside f name
        | none => name
      let path := (((List.range 1000).find? fun n => !c.disk.hasObject (pathOf (pathWith n))).map
        pathWith).getD []
      let shown := match folder with
        | some f => inside f (template ++ suffix)
        | none => template ++ suffix
      let made := if isSet options "u" then .ok c.disk
        else if isSet options "d" then c.disk.makeNode (pathOf path) (.folder []) 448
        else (c.disk.create (pathOf path) 384).map (·.1)
      match made with
      | .ok d => ⟨d, [(false, path ++ ['\n'])], 0, none, false⟩
      | .error e =>
        c.refuse 1 (say ("failed to create " ++ (if isSet options "d" then "directory" else "file") ++
          " via template ") ++ c.quote shown ++ say ": " ++ faultWords e)

end Utility
end Shell
end IconAssets
