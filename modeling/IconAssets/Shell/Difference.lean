import IconAssets.Shell.Octet

/-!
# Differences of two rows

A difference says which members of two rows of texts have to change to make one row out of the
other.  It is found by looking, from both ends at once, for a place in the middle of a shortest way
from row to row, and then for the ways to and from this place.  Last, runs of changes are moved as
far behind as they can be, so that they meet others.
-/

namespace IconAssets
namespace Shell
namespace Difference

/-- Two rows, and a part of each. -/
structure Span where
  old : Array Text
  new : Array Text
  oldStart : Nat
  oldStop : Nat
  newStart : Nat
  newStop : Nat

namespace Span

/-- Whether the members at two places are the same. -/
def agrees (s : Span) (x y : Nat) : Bool :=
  match s.old[x]?, s.new[y]? with
  | some a, some b => a = b
  | _, _ => false

/-- The number of places, up to some number, at which members from two places on are the same. -/
def common (s : Span) : Nat → Nat → Nat → Nat
  | 0, _, _ => 0
  | n + 1, x, y => if s.agrees x y then s.common n (x + 1) (y + 1) + 1 else 0

/-- The number of places, up to some number, at which members in front of two places are the
same. -/
def commonBefore (s : Span) : Nat → Nat → Nat → Nat
  | 0, _, _ => 0
  | n + 1, x, y =>
    if 0 < x && 0 < y && s.agrees (x - 1) (y - 1) then s.commonBefore n (x - 1) (y - 1) + 1 else 0

/-- The part without what is the same at its ends. -/
def trimmed (s : Span) : Span :=
  let a := s.common (min (s.oldStop - s.oldStart) (s.newStop - s.newStart)) s.oldStart s.newStart
  let s := { s with oldStart := s.oldStart + a, newStart := s.newStart + a }
  let b := s.commonBefore (min (s.oldStop - s.oldStart) (s.newStop - s.newStart)) s.oldStop s.newStop
  { s with oldStop := s.oldStop - b, newStop := s.newStop - b }

end Span

/-- How far a search has come on the diagonals from `least` to `most`, which are those at which the
search can be after its last step. -/
structure Search where
  least : Int
  most : Int
  /-- The places that have been reached, from that of the diagonal `first` on. -/
  places : Array Int
  first : Int

namespace Search

/-- The place that has been reached on a diagonal. -/
def reached (s : Search) (diagonal : Int) : Int := s.places.getD (diagonal - s.first).toNat 0

/-- The search with one more place on a diagonal. -/
def set (s : Search) (diagonal place : Int) : Search :=
  { s with places := s.places.setIfInBounds (diagonal - s.first).toNat place }

/-- The search with room for one more step, up to the outermost diagonals; `nowhere` stands for what
has not been reached. -/
def widened (s : Search) (lower upper nowhere : Int) : Search :=
  let s := if lower < s.least then { s.set (s.least - 2) nowhere with least := s.least - 1 }
    else { s with least := s.least + 1 }
  if s.most < upper then { s.set (s.most + 2) nowhere with most := s.most + 1 }
  else { s with most := s.most - 1 }

/-- The diagonals of a search, from the most to the least. -/
def diagonals (s : Search) : List Int :=
  if s.most < s.least then []
  else (List.range (((s.most - s.least) / 2).toNat + 1)).map fun (k : Nat) => s.most - 2 * (k : Int)

/-- Takes a step on each diagonal; the answer is a place where the search meets another one. -/
def advance (s : Search) (step : Search → Int → Int) (meets : Int → Int → Bool) :
    Except (Int × Int) Search :=
  s.diagonals.foldlM (fun s d =>
    let x := step s d
    if meets d x then .error (x, x - d) else .ok (s.set d x)) s

end Search

/-- A place on a shortest way through a part, between whose ends nothing is the same; both searches
take steps in turn. -/
def middle (s : Span) : Nat → Search → Search → Nat × Nat
  | 0, _, _ => (s.oldStop, s.newStart)
  | fuel + 1, ahead, back =>
    let lower : Int := s.oldStart - s.newStop
    let upper : Int := s.oldStop - s.newStart
    let isOdd := ((s.oldStart - s.newStart : Int) - (s.oldStop - s.newStop)) % 2 ≠ 0
    let nowhere : Int := s.old.size + s.new.size + 2
    let forwards (f : Search) (d : Int) : Int :=
      let x := max (f.reached (d - 1) + 1) (f.reached (d + 1))
      let y := x - d
      if x < 0 || y < 0 then x
      else x + s.common (min (s.oldStop - x.toNat) (s.newStop - y.toNat)) x.toNat y.toNat
    let backwards (b : Search) (d : Int) : Int :=
      let x := min (b.reached (d - 1)) (b.reached (d + 1) - 1)
      let y := x - d
      if x < 0 || y < 0 then x
      else x - s.commonBefore (min (x.toNat - s.oldStart) (y.toNat - s.newStart)) x.toNat y.toNat
    let meetsBack (d x : Int) : Bool := isOdd && back.least ≤ d && d ≤ back.most && back.reached d ≤ x
    match (ahead.widened lower upper (-1)).advance forwards meetsBack with
    | .error (x, y) => (x.toNat, y.toNat)
    | .ok ahead =>
      let meetsAhead (d x : Int) : Bool :=
        !isOdd && ahead.least ≤ d && d ≤ ahead.most && x ≤ ahead.reached d
      match (back.widened lower upper nowhere).advance backwards meetsAhead with
      | .error (x, y) => (x.toNat, y.toNat)
      | .ok back => middle s fuel ahead back

/-- The members of the old and of the new row that are on no shortest way; the number of calls inside
each other is limited. -/
def changed : Nat → Span → List Nat × List Nat
  | 0, _ => ([], [])
  | fuel + 1, s =>
    let s := s.trimmed
    let olds := (List.range (s.oldStop - s.oldStart)).map (s.oldStart + ·)
    let news := (List.range (s.newStop - s.newStart)).map (s.newStart + ·)
    if olds = [] || news = [] then (olds, news)
    else
      let starting (d place : Int) : Search :=
        ⟨d, d, Array.replicate (olds.length + news.length + 3) place, s.oldStart - s.newStop - 1⟩
      let (x, y) := middle s (olds.length + news.length + 2)
        (starting (s.oldStart - s.newStart) s.oldStart) (starting (s.oldStop - s.newStop) s.oldStop)
      let first := changed fuel { s with oldStop := x, newStop := y }
      let second := changed fuel { s with oldStart := x, newStart := y }
      (first.1 ++ second.1, first.2 ++ second.2)

/-- A row with marks on the members that change, and the marks on the other row. -/
structure Marked where
  row : Array Text
  marks : Array Bool
  others : Array Bool

namespace Marked

/-- Whether the member at a place changes. -/
def isMarked (m : Marked) (i : Int) : Bool := 0 ≤ i && m.marks.getD i.toNat false

/-- Whether the member of the other row at a place changes. -/
def isOther (m : Marked) (j : Int) : Bool := 0 ≤ j && m.others.getD j.toNat false

/-- The row with other marks on two members. -/
def swapped (m : Marked) (marked cleared : Int) : Marked :=
  { m with marks := (m.marks.setIfInBounds cleared.toNat false).setIfInBounds marked.toNat true }

/-- Whether two members are the same. -/
def same (m : Marked) (i k : Int) : Bool :=
  0 ≤ i && 0 ≤ k && i < m.row.size && k < m.row.size && m.row.getD i.toNat [] = m.row.getD k.toNat []

/-- The first place from a given one on where a test fails. -/
def upwards (p : Int → Bool) : Nat → Int → Int
  | 0, i => i
  | n + 1, i => if p i then upwards p n (i + 1) else i

/-- The first place from a given one downwards where a test fails. -/
def downwards (p : Int → Bool) : Nat → Int → Int
  | 0, i => i
  | n + 1, i => if p i then downwards p n (i - 1) else i

/-- A run of changes, and the place of the other row that corresponds to what is behind it. -/
structure Run where
  start : Int
  stop : Int
  other : Int

/-- A number that no place of the rows exceeds. -/
def size (m : Marked) : Nat := m.marks.size + m.others.size + 1

/-- Moves a run towards the front as long as nothing changes by that. -/
def moveBack : Nat → Marked → Run → Marked × Run
  | 0, m, r => (m, r)
  | fuel + 1, m, r =>
    if 0 < r.start && m.same (r.start - 1) (r.stop - 1) then
      let m := m.swapped (r.start - 1) (r.stop - 1)
      let start := downwards (fun i => m.isMarked (i - 1)) m.size (r.start - 1)
      moveBack fuel m ⟨start, r.stop - 1, downwards m.isOther m.size (r.other - 1)⟩
    else (m, r)

/-- Moves a run towards the end as long as nothing changes by that; the last number is the last stop
at which changes of the other row end too. -/
def moveOn : Nat → Marked → Run → Int → Marked × Run × Int
  | 0, m, r, last => (m, r, last)
  | fuel + 1, m, r, last =>
    if r.stop < m.row.size && m.same r.start r.stop then
      let m := m.swapped r.stop r.start
      let stop := upwards m.isMarked m.size (r.stop + 1)
      let other := upwards m.isOther m.size (r.other + 1)
      moveOn fuel m ⟨r.start + 1, stop, other⟩ (if r.other + 1 < other then stop else last)
    else (m, r, last)

/-- Moves a run until it meets no other ones any more. -/
def settle : Nat → Marked → Run → Marked × Run × Int
  | 0, m, r => (m, r, m.row.size)
  | fuel + 1, m, r =>
    let (m, s) := moveBack m.size m r
    let last := if m.isOther (s.other - 1) then s.stop else m.row.size
    let (m, s, last) := moveOn m.size m s last
    if s.stop - s.start = r.stop - r.start then (m, s, last) else settle fuel m s

/-- Moves a run towards the front up to a stop. -/
def returnTo (last : Int) : Nat → Marked → Run → Marked × Run
  | 0, m, r => (m, r)
  | fuel + 1, m, r =>
    if last < r.stop then
      let m := m.swapped (r.start - 1) (r.stop - 1)
      returnTo last fuel m ⟨r.start - 1, r.stop - 1, downwards m.isOther m.size (r.other - 1)⟩
    else (m, r)

/-- Moves all runs from two corresponding places on. -/
def settleAll : Nat → Marked → Int → Int → Marked
  | 0, m, _, _ => m
  | fuel + 1, m, i, j =>
    if (m.row.size : Int) ≤ i then m
    else if m.isMarked i then
      let stop := upwards m.isMarked m.size (i + 1)
      let r : Run := ⟨i, stop, upwards m.isOther m.size j⟩
      let (m, r, last) := settle m.size m r
      let (m, r) := returnTo last m.size m r
      settleAll fuel m r.stop r.other
    else settleAll fuel m (i + 1) (upwards m.isOther m.size j + 1)

end Marked

/-- Members that stand in the place of others. -/
structure Change where
  oldStart : Nat
  oldCount : Nat
  newStart : Nat
  newCount : Nat
  deriving DecidableEq, Repr

/-- The changes that some marks on two rows stand for, from two places on. -/
def changesFrom (old new : Array Bool) : Nat → Nat → Nat → List Change
  | 0, _, _ => []
  | fuel + 1, i, j =>
    if old.size ≤ i && new.size ≤ j then []
    else
      let a := (old.toList.drop i).takeWhile id |>.length
      let b := (new.toList.drop j).takeWhile id |>.length
      if a = 0 && b = 0 then changesFrom old new fuel (i + 1) (j + 1)
      else ⟨i, a, j, b⟩ :: changesFrom old new fuel (i + a) (j + b)

/-- The members of a row that are in another one, with their places. -/
def sharedWith (other row : Array Text) : Array (Text × Nat) :=
  row.zipIdx.filter fun e => other.contains e.1

/-- The changes that make the second row out of the first one. -/
def betweenAll (old new : Array Text) : List Change :=
  let olds := sharedWith new old
  let news := sharedWith old new
  let (a, b) := changed (olds.size + news.size + 1)
    ⟨olds.map (·.1), news.map (·.1), 0, olds.size, 0, news.size⟩
  let marks (row : Array Text) (shared : Array (Text × Nat)) (gone : List Nat) : Array Bool :=
    (shared.zipIdx.foldl (fun marks e =>
      if gone.contains e.2 then marks else marks.setIfInBounds e.1.2 false)
      (Array.replicate row.size true))
  let oldMarks := marks old olds a
  let newMarks := marks new news b
  let m := Marked.settleAll (old.size + 1) ⟨old, oldMarks, newMarks⟩ 0 0
  let n := Marked.settleAll (new.size + 1) ⟨new, newMarks, m.marks⟩ 0 0
  changesFrom m.marks n.marks (old.size + new.size + 1) 0 0

/-- The changes that make the second row out of the first one, where only the keys of members count.
What is the same at the ends of the rows is left alone, save for a number of members at each end. -/
def between (key : Text → Text) (around : Nat) (old new : Array Text) : List Change :=
  let whole : Span := ⟨old, new, 0, old.size, 0, new.size⟩
  let size := min old.size new.size
  let front := whole.common size 0 0 - around
  let behind := whole.commonBefore (size - front) old.size new.size - around
  let part (row : Array Text) : Array Text := (row.extract front (row.size - behind)).map key
  (betweenAll (part old) (part new)).map fun h =>
    { h with oldStart := h.oldStart + front, newStart := h.newStart + front }

end Difference
end Shell
end IconAssets
