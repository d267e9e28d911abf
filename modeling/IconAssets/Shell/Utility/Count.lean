import IconAssets.Shell.Utility.Lines

/-!
# Counting

The numbers of lines, words, characters and bytes in files, in columns that are wide enough for the
greatest number that can occur.
-/

namespace IconAssets
namespace Shell

namespace Utility

open Pattern (pathOf)

/-- Whether a character separates words. -/
def isWordGap (c : Char) : Bool :=
  c = ' ' || ('\t' ≤ c && c ≤ '\r') ||
    (128 ≤ c.toNat && c ∉ ['\x85'] && Text.isBlank c)

/-- What is counted in a text: lines, words, characters, bytes, and the width of the widest line. -/
def countsOf (utf8 : Bool) (t : Text) : List Nat :=
  let cs := spelled utf8 t
  let isGap (s : Spelled) : Bool := s.char.any isWordGap
  let words := (cs.foldl (fun (s : Bool × Nat) c =>
    if isGap c then (false, s.2)
    else if c.char.isNone && utf8 then s
    else (true, if s.1 then s.2 else s.2 + 1)) (false, 0)).2
  let widths := cs.foldl (fun (s : Nat × Nat) c =>
    match c.char with
    | some '\n' | some '\r' | some '\x0c' => (0, max s.1 s.2)
    | some '\t' => (s.1 + 8 - s.1 % 8, s.2)
    | _ => (if c.isVisible then s.1 + 1 else s.1, s.2)) (0, 0)
  [(t.filter (· = '\n')).length, words, (cs.filter fun s => s.char.isSome || !utf8).length,
    t.length, max widths.1 widths.2]

/-- Counts lines, words, characters and bytes. -/
def wc (c : Call) : Effect :=
  c.withOptions "clLmw" ["bytes,c", "chars,m", "lines,l", "words,w", "max-line-length,L",
    "total="] 1 fun options files =>
    let chosen := options.filter fun o => o.1 ≠ "total"
    let wanted : List Bool := ["l", "w", "m", "c", "L"].map fun k =>
      if chosen = [] then ["l", "w", "c"].contains k else isSet chosen k
    let kept (ns : List Nat) : List Nat :=
      ((ns.zip wanted).filter (·.2)).map (·.1)
    let isSingle := (wanted.filter id).length = 1
    let sizes := (if files = [] then [['-']] else files).map fun t =>
      if isInput t then (if c.inputIsFile then some (some c.input.length) else some none)
      else
        (c.disk.find? (pathOf t)).map fun n => if n.isFile then some n.size else none
    let width :=
      if (files.length ≤ 1 && isSingle) || settingOf? options "total" = some "only".toList then 1
      else
        let total := (sizes.filterMap (·.join)).foldl (· + ·) 0
        max (Text.ofNat total).length (if some none ∈ sizes then 7 else 1)
    let row (ns : List Nat) (name : Text) : Text :=
      Text.glue ' ' ((kept ns).map fun n => padLeft width (Text.ofNat n)) ++
        (if name = [] then [] else ' ' :: name) ++ ['\n']
    let only := settingOf? options "total" = some "only".toList
    let step (r : Effect × List Nat) (t : Text) : Effect × List Nat :=
      let c := { c with disk := r.1.disk, input := r.1.rest.getD c.input }
      let shown (ns : List Nat) (name : Text) : Effect := if only then c.finish 0 else c.ok (row ns name)
      let name := if files = [] then [] else t
      match contentOf c t with
      | .ok data =>
        let ns := countsOf c.speaksUtf8 data
        (r.1.andThen fun _ => if isInput t then (shown ns name).usingInput else shown ns name,
          List.zipWith (· + ·) r.2 ns)
      | .error fault =>
        (r.1.andThen fun _ => (unreadable c t fault).andThen fun _ =>
          if fault = .isFolder then shown [0, 0, 0, 0, 0] t else c.finish 0, r.2)
    let (e, total) := (if files = [] then [['-']] else files).foldl step
      (c.finish 0, [0, 0, 0, 0, 0])
    let totals := match (settingOf? options "total").map String.ofList with
      | some "always" => row total (say "total")
      | some "only" => row total []
      | some "never" => []
      | _ => if 1 < files.length then row total (say "total") else []
    (e.andThen fun _ => if totals = [] then c.finish 0 else c.ok totals).complaintsFirst

end Utility

end Shell
end IconAssets
