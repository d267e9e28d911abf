import IconAssets.Shell.Utility.Listing

/-!
# Copying in blocks

A file is read block by block and written block by block, perhaps from some block on and with other
characters.  What has been read and written is told at the end.
-/

namespace IconAssets
namespace Shell
namespace Utility

open Pattern (pathOf)

/-- What is copied, and how. -/
structure BlockCopy where
  source : Option Text
  target : Option Text
  inputSize : Nat
  outputSize : Nat
  /-- The size of records that stand for lines. -/
  recordSize : Nat
  /-- The blocks of the input that are left out. -/
  skipped : Nat
  /-- The blocks of the output that are kept. -/
  kept : Nat
  most : Option Nat
  conversions : List Text
  status : Text

namespace BlockCopy

/-- The transfer that nothing is said about. -/
def usual : BlockCopy := ⟨none, none, 512, 512, 0, 0, 0, none, [], []⟩

/-- The units behind a number. -/
def units : List (String × Nat) :=
  [("", 1), ("c", 1), ("w", 2), ("b", 512), ("kB", 1000), ("K", 1024), ("k", 1024), ("KiB", 1024),
    ("MB", 1000000), ("M", 1048576), ("MiB", 1048576), ("GB", 1000000000), ("G", 1073741824)]

/-- A number with a unit behind it; several of them are multiplied. -/
def number? (t : Text) : Option Nat :=
  (Text.pieces 'x' t).foldl (fun product part =>
    let digits := part.takeWhile Char.isDigit
    match product, digits? digits, units.lookup (String.ofList (part.drop digits.length)) with
    | some n, some m, some unit => some (n * (m * unit))
    | _, _, _ => none) (some 1)

/-- The conversions that can be asked for. -/
def known : List String :=
  ["ucase", "lcase", "swab", "notrunc", "noerror", "sync", "block", "unblock", "fdatasync", "fsync",
    "excl", "nocreat", "sparse", "ascii", "ebcdic", "ibm"]

/-- Whether a conversion is asked for. -/
def converts (x : BlockCopy) (name : String) : Bool := say name ∈ x.conversions

/-- The transfer with what an operand says, or what is wrong with the operand. -/
def read (c : Call) (x : BlockCopy) (t : Text) : Except Text BlockCopy :=
  let key := t.takeWhile (· ≠ '=')
  let value := t.drop (key.length + 1)
  let number (least : Nat) (f : Nat → BlockCopy) : Except Text BlockCopy :=
    match number? value with
    | some n => if least ≤ n then .ok (f n) else .error (say "invalid number: " ++ c.named value)
    | none => .error (say "invalid number: " ++ c.named value)
  if key.length = t.length then .error (unknown c t)
  else
    match String.ofList key with
    | "if" => .ok { x with source := some value }
    | "of" => .ok { x with target := some value }
    | "ibs" => number 1 fun n => { x with inputSize := n }
    | "obs" => number 1 fun n => { x with outputSize := n }
    | "bs" => number 1 fun n => { x with inputSize := n, outputSize := n }
    | "cbs" => number 1 fun n => { x with recordSize := n }
    | "skip" | "iseek" => number 0 fun n => { x with skipped := n }
    | "seek" | "oseek" => number 0 fun n => { x with kept := n }
    | "count" => number 0 fun n => { x with most := some n }
    | "conv" =>
      match (Text.pieces ',' value).find? fun v => String.ofList v ∉ known with
      | some v => .error (wrong c "conversion" v)
      | none => .ok { x with conversions := x.conversions ++ Text.pieces ',' value }
    | "status" =>
      if String.ofList value ∈ ["none", "noxfer", "progress"] then .ok { x with status := value }
      else .error (wrong c "status level" value)
    | "iflag" | "oflag" => .ok x
    | _ => .error (unknown c t)
where
  /-- The end of a complaint about how the utility is used. -/
  hint (c : Call) : Text := say "\nTry '" ++ c.name ++ say " --help' for more information."
  /-- The complaint about an operand that is unknown. -/
  unknown (c : Call) (t : Text) : Text := say "unrecognized operand " ++ c.named t ++ hint c
  /-- The complaint about a value. -/
  wrong (c : Call) (what : String) (t : Text) : Text :=
    say ("invalid " ++ what ++ ": ") ++ c.quote t ++ hint c

/-- The blocks of a text, the last of which may be short. -/
def blocks (size : Nat) : Nat → Text → List Text
  | 0, _ => []
  | fuel + 1, t => if t = [] then [] else t.take size :: blocks size fuel (t.drop size)

/-- A text with the characters of each pair exchanged. -/
def exchanged : Text → Text
  | a :: b :: t => b :: a :: exchanged t
  | t => t

/-- Lines as records of one size, and the number of those that were too long. -/
def toRecords (size : Nat) (t : Text) : Text × Nat :=
  let lines := Text.pieces '\n' (if t.getLast? = some '\n' then t.dropLast else t)
  (lines.flatMap fun l => (l ++ List.replicate (size - l.length) ' ').take size,
    (lines.filter fun l => size < l.length).length)

/-- Records of one size as lines without the blanks at their ends. -/
def ofRecords (size : Nat) (t : Text) : Text :=
  (blocks size (t.length + 1) t).flatMap fun r =>
    (r.reverse.dropWhile (· = ' ')).reverse ++ ['\n']

/-- What is written for the blocks that have been read, and the number of records that were cut. -/
def converted (x : BlockCopy) (read : List Text) : Text × Nat :=
  let fill := if x.converts "block" || x.converts "unblock" then ' ' else '\x00'
  let full := if x.converts "sync" then
      read.map fun b => b ++ List.replicate (x.inputSize - b.length) fill
    else read
  let t := full.flatMap fun b => if x.converts "swab" then exchanged b else b
  let t := if x.converts "ucase" then t.map Char.toUpper
    else if x.converts "lcase" then t.map Char.toLower else t
  if x.converts "block" && 0 < x.recordSize then toRecords x.recordSize t
  else if x.converts "unblock" && 0 < x.recordSize then (ofRecords x.recordSize t, 0)
  else (t, 0)

/-- The numbers of full and of short blocks. -/
def counted (size length : Nat) : Text :=
  Text.ofNat (length / size) ++ '+' :: (if length % size = 0 then ['0'] else ['1'])

/-- What is told at the end. -/
def told (x : BlockCopy) (read written cut : Nat) : Text :=
  if x.status = say "none" then []
  else
    counted x.inputSize read ++ say " records in\n" ++ counted x.outputSize written ++
      say " records out\n" ++
      (if cut = 0 then [] else Text.ofNat cut ++ say (" truncated record" ++ (if cut = 1 then "" else "s") ++ "\n")) ++
      if x.status = say "noxfer" then []
      else Text.ofNat written ++ say ((if written = 1 then " byte" else " bytes") ++ " copied, 0.0001 s, " ++
        "0.0 kB/s\n")

end BlockCopy

/-- What can be read of a file; of endless zeros, as much as is wanted. -/
def sourceOf (c : Call) (t : Text) (wanted : Option Nat) : Except Disk.Fault Text :=
  if isInput t then .ok c.input
  else
    match c.disk.resolve (pathOf t) with
    | .error e => .error e
    | .ok p =>
      match (c.disk.lookup p).map Node.body, wanted with
      | some (.device .zeros), some n => .ok (List.replicate n '\x00')
      | _, _ => (c.disk.readFile (pathOf t)).map ofBytes

/-- Writes to a file what is copied, behind the blocks that are kept. -/
def writeTarget (c : Call) (x : BlockCopy) (t out : Text) : Except Disk.Fault Volume :=
  let isThere := c.disk.hasObject (pathOf t)
  if x.converts "nocreat" && !isThere then .error .missing
  else if x.converts "excl" && isThere then .error .taken
  else
    match c.disk.create (pathOf t) Volume.usualRights with
    | .error e => .error e
    | .ok (d, k) =>
      let before := ((d.node? k).map Node.data).getD []
      let kept := x.kept * x.outputSize
      .ok (d.setData k (Volume.splice (if x.converts "notrunc" then before else before.take kept)
        kept (toBytes out)))

/-- Copies a file in blocks. -/
def dd (c : Call) : Effect :=
  match c.arguments.foldlM (BlockCopy.read c) BlockCopy.usual with
  | .error message => c.refuse 1 message
  | .ok x =>
    let source := x.source.getD ['-']
    let wanted := x.most.map fun n => (x.skipped + n) * x.inputSize
    match sourceOf c source wanted with
    | .error e => c.refuse 1 (say "failed to open " ++ c.named source ++ say ": " ++ faultWords e)
    | .ok all =>
      let taken := match wanted with
        | some n => all.take n
        | none => all
      let read := BlockCopy.blocks x.inputSize (taken.length + 1) (taken.drop (x.skipped * x.inputSize))
      let (out, cut) := x.converted read
      let length := read.foldl (fun n b => n + b.length) 0
      let told := [(true, x.told length out.length cut)]
      let written : Except Disk.Fault Effect := match x.target with
        | none => .ok (c.ok out)
        | some t =>
          if t = say "/dev/stdout" then .ok (c.ok out) else (writeTarget c x t out).map Call.changed
      match written with
      | .error e =>
        c.refuse 1 (say "failed to open " ++ c.named (x.target.getD []) ++ say ": " ++ faultWords e)
      | .ok e =>
        let e := { e with written := e.written ++ told }
        if isInput source then
          { e with rest := some (c.input.drop taken.length), sated := wanted.any (· ≤ c.input.length) }
        else e

end Utility
end Shell
end IconAssets
