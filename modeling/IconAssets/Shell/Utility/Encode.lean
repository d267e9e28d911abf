import IconAssets.Shell.Digest
import IconAssets.Shell.Utility.Dump

/-!
# Digests and encodings of files

Some utilities write a digest for each file, or compare the digests that a file lists; others write
the octets of a file as letters and digits, and back.
-/

namespace IconAssets
namespace Shell

namespace Utility

/-- A kind of digest, with the name that it has in tagged lines. -/
structure DigestKind where
  tag : String
  mixed : Unit → Digest.Mixed

namespace DigestKind

/-- The digest of a text, in base sixteen. -/
def of (k : DigestKind) (t : Text) : Text :=
  ((k.mixed ()).digest (t.map Char.toNat)).flatMap fun b =>
    [Nat.digitChar (b / 16), Nat.digitChar (b % 16)]

/-- The digest and the name of a file that a line tells, if it tells them. -/
def ofLine? (k : DigestKind) (line : Text) : Option (Text × Text) :=
  let width := 2 * (k.mixed ()).size
  let isDigest (t : Text) : Bool := t.length = width && t.all fun c => c.isDigit || ('a' ≤ c.toLower && c.toLower ≤ 'f')
  let tagged := say (k.tag ++ " (")
  if tagged.isPrefixOf line then
    let digest := (line.reverse.take width).reverse
    let front := line.take (line.length - width)
    let name := (front.drop tagged.length).take (front.length - tagged.length - 4)
    if isDigest digest && say ") = " = front.drop (front.length - 4) then some (digest.map Char.toLower, name)
    else none
  else
    let digest := line.take width
    match line.drop width with
    | ' ' :: ' ' :: name | ' ' :: '*' :: name =>
      if isDigest digest && name ≠ [] then some (digest.map Char.toLower, name) else none
    | _ => none

end DigestKind

/-- A warning that counts something. -/
def counted (c : Call) (n : Nat) (one many : String) : Effect :=
  if n = 0 then c.finish 0
  else { c.refuse 0 (say ("WARNING: " ++ toString n ++ " " ++ if n = 1 then one else many)) with status := 0 }

/-- Compares the digests that a text lists with those of the files. -/
def checkDigests (k : DigestKind) (c : Call) (options : List Setting) (list : Text) (data : Text) : Effect :=
  let on (o : String) : Bool := isSet options o
  let quiet := on "status"
  let lines := (linesOf data).zipIdx.filter fun l => l.1 ≠ [] && l.1.head? ≠ some '#'
  let entries := lines.map fun l => (l.2 + 1, k.ofLine? l.1)
  let shown := c.shown (if isInput list then say "standard input" else list)
  let step (r : Effect × Nat × Nat × Nat) (entry : Nat × Option (Text × Text)) :
      Effect × Nat × Nat × Nat :=
    let (e, failed, absent, matched) := r
    match entry with
    | (number, none) =>
      if on "w" then
        (e.andThen fun _ => { c.refuse 0 (shown ++ say (": " ++ toString number ++
          ": improperly formatted " ++ k.tag ++ " checksum line")) with status := 0 }, failed, absent, matched)
      else r
    | (_, some (digest, name)) =>
    let telling (word : String) : Effect := c.ok (name ++ say (": " ++ word ++ "\n"))
    match contentOf c name with
    | .error fault =>
      if on "ignore-missing" && fault = .missing then r
      else
        (e.andThen fun _ => { (unreadable c name fault).andThen fun _ =>
          if quiet then c.finish 0 else telling "FAILED open or read" with status := 0 }, failed, absent + 1, matched)
    | .ok content =>
      if k.of content = digest then
        (e.andThen fun _ => if quiet || on "quiet" then c.finish 0 else telling "OK", failed, absent, matched + 1)
      else (e.andThen fun _ => if quiet then c.finish 0 else telling "FAILED", failed + 1, absent, matched)
  let (e, failed, absent, matched) := entries.foldl step (c.finish 0, 0, 0, 0)
  let bad := (entries.filter fun l => l.2.isNone).length
  if bad = entries.length then c.refuse 1 (shown ++ say ": no properly formatted checksum lines found")
  else
    let status := if failed ≠ 0 || absent ≠ 0 || (on "strict" && bad ≠ 0) then 1 else 0
    let e := e.andThen fun _ =>
      if quiet then c.finish status
      else
        let told := (counted c bad "line is improperly formatted" "lines are improperly formatted").andThen fun _ =>
          (counted c absent "listed file could not be read" "listed files could not be read").andThen fun _ =>
            counted c failed "computed checksum did NOT match" "computed checksums did NOT match"
        { told with status := status }
    if on "ignore-missing" && failed + absent + matched = 0 then
      e.andThen fun _ => if quiet then c.finish 1 else c.refuse 1 (shown ++ say ": no file was verified")
    else e

/-- Writes the digests of files, or compares them with those that files list. -/
def digests (k : DigestKind) (c : Call) : Effect :=
  c.withOptions "bctwz" ["binary,b", "check,c", "ignore-missing", "quiet", "status", "strict", "tag",
    "text,t", "warn,w", "zero,z"] 1 fun options files =>
    let on (o : String) : Bool := isSet options o
    let checkOnly := ["ignore-missing", "quiet", "status", "strict"].filter on
    if !on "c" && checkOnly ≠ [] then
      c.misuse 1 (say ("the --" ++ checkOnly.headD "" ++
        " option is meaningful only when verifying checksums"))
    else
      forContents c files (unreadable c) fun c t data =>
        if on "c" then checkDigests k c options t data
        else
          let escapes := !on "z" && t.any fun x => x = '\\' || x = '\n' || x = '\r'
          let name := if escapes then t.flatMap fun x =>
              if x = '\\' then ['\\', '\\'] else if x = '\n' then ['\\', 'n'] else if x = '\r' then ['\\', 'r'] else [x]
            else t
          c.ok ((if escapes then ['\\'] else []) ++
            (if on "tag" then say (k.tag ++ " (") ++ name ++ say ") = " ++ k.of data
            else k.of data ++ ' ' :: (if on "b" then '*' else ' ') :: name) ++
            [if on "z" then '\x00' else '\n'])

/-- The kinds of digests, by the names of their utilities. -/
def digestKinds : List (String × DigestKind) :=
  [("md5sum", ⟨"MD5", fun _ => Digest.short⟩), ("sha1sum", ⟨"SHA1", fun _ => Digest.middle⟩),
    ("sha224sum", ⟨"SHA224", fun _ => Digest.long224⟩), ("sha256sum", ⟨"SHA256", fun _ => Digest.long256⟩),
    ("sha384sum", ⟨"SHA384", fun _ => Digest.long384⟩), ("sha512sum", ⟨"SHA512", fun _ => Digest.long512⟩)]

/-- Writes the remainders and the sizes of files. -/
def cksum (c : Call) : Effect :=
  c.withOptions "" [] 1 fun _ files =>
    forContents c files (unreadable c) fun c t data =>
      c.ok (Text.ofNat (Digest.remainder (data.map Char.toNat)) ++ ' ' :: Text.ofNat data.length ++
        (if files = [] then [] else ' ' :: t) ++ ['\n'])

/-- Writes the sums of the octets of files, and their sizes in blocks. -/
def sum (c : Call) : Effect :=
  c.withOptions "rs" ["sysv,s"] 1 fun options files =>
    let isPlain := lastOf options ["r", "s"] = some "s"
    forContents c files (unreadable c) fun c t data =>
      let bytes := data.map Char.toNat
      c.ok ((if isPlain then
          Text.ofNat (Digest.plainSum bytes) ++ ' ' :: Text.ofNat ((data.length + 511) / 512)
        else Dump.digitsIn 10 5 (Digest.turnedSum bytes) ++ ' ' ::
          padLeft 5 (Text.ofNat ((data.length + 1023) / 1024))) ++
        (if files = [] then [] else ' ' :: t) ++ ['\n'])

/-- A way of writing octets as letters and digits: the characters, how many digits in base two each
of them stands for, and how many of them make a group. -/
structure Encoding where
  characters : Text
  bits : Nat
  group : Nat
  /-- Whether nothing is made of a group that is cut short. -/
  wantsGroups : Bool

namespace Encoding

/-- The pieces of a text that have a size; the last one may be smaller. -/
def pieces (size : Nat) : Nat → Text → List Text
  | 0, _ => []
  | _ + 1, [] => []
  | fuel + 1, t => t.take size :: pieces size fuel (t.drop size)

/-- Writes octets. -/
def encode (e : Encoding) (t : Text) : Text :=
  (pieces (e.bits * e.group / 8) (t.length + 1) t).flatMap fun piece =>
    let used := (8 * piece.length + e.bits - 1) / e.bits
    let n := (piece.foldl (fun n c => 256 * n + c.toNat) 0) * Nat.pow 2 (used * e.bits - 8 * piece.length)
    let digits := (List.range used).map fun i =>
      e.characters.getD (n / Nat.pow 2 (e.bits * (used - 1 - i)) % Nat.pow 2 e.bits) '='
    digits ++ List.replicate (e.group - used) '='

/-- Whether a character stands for digits. -/
def isDigit (e : Encoding) (c : Char) : Bool := c ∈ e.characters

/-- Reads a group; the flag tells whether it is right. -/
def decodeGroup (e : Encoding) (t : Text) : Text × Bool :=
  let digits := t.takeWhile e.isDigit
  let whole := 8 * (e.bits * digits.length / 8)
  let rest := t.drop digits.length
  let unused := e.bits * digits.length - whole
  let isRight := t.length = e.group && rest.all (· = '=') && 0 < whole && unused < e.bits
  let n := (digits.foldl (fun n c => Nat.pow 2 e.bits * n + e.characters.idxOf c) 0) / Nat.pow 2 unused
  let bytes := (List.range (whole / 8)).map fun i => Char.ofNat (n / Nat.pow 256 (whole / 8 - 1 - i) % 256)
  (if e.wantsGroups && t.length < e.group then [] else bytes, isRight)

/-- Reads octets; the flag tells whether all groups are right, and nothing is read behind one that is
not. -/
def decode (e : Encoding) (t : Text) : Text × Bool :=
  (pieces e.group (t.length + 1) (t.filter (· ≠ '\n'))).foldl (fun r g =>
    if r.2 then
      let (bytes, isRight) := e.decodeGroup g
      (r.1 ++ bytes, isRight)
    else r) ([], true)

/-- Six digits in base two for each character. -/
def sextets : Encoding :=
  ⟨say "ABCDEFGHIJKLMNOPQRSTUVWXYZabcdefghijklmnopqrstuvwxyz0123456789+/", 6, 4, false⟩

/-- Five digits in base two for each character. -/
def quintets : Encoding := ⟨say "ABCDEFGHIJKLMNOPQRSTUVWXYZ234567", 5, 8, true⟩

end Encoding

/-- Writes a file in an encoding, or back. -/
def encoded (e : Encoding) (c : Call) : Effect :=
  c.withOptions "diw:" ["decode,d", "ignore-garbage,i", "wrap=,w"] 1 fun options args =>
    let width? : Option Nat := match settingOf? options "w" with
      | none => some 76
      | some t => digits? t
    match width?, args with
    | none, _ => c.refuse 1 (say "invalid wrap size: " ++ c.quote ((settingOf? options "w").getD []))
    | some _, _ :: extra :: _ => c.misuse 1 (say "extra operand " ++ c.quote extra)
    | some width, _ =>
      let file := args.headD ['-']
      match contentOf c file with
      | .error .isFolder => c.refuse 1 (say "read error: " ++ faultWords .isFolder)
      | .error fault => unreadable c file fault
      | .ok data =>
        let effect : Effect :=
          if isSet options "d" then
            let data := if isSet options "i" then data.filter fun x => e.isDigit x || x = '=' else data
            let (out, isRight) := e.decode data
            if isRight then c.ok out else (c.ok out).andThen fun _ => c.refuse 1 (say "invalid input")
          else
            let out := e.encode data
            c.ok (if width = 0 then out else asLines (Encoding.pieces width (out.length + 1) out))
        if isInput file then effect.usingInput else effect

end Utility

end Shell
end IconAssets
