import IconAssets.Log.Event
import IconAssets.Log.ValuePattern

/-!
# Choosing events

A filter is a list of directives separated by commas.  A directive names a level, or a target with
or without a level; without one, all levels of the target are shown.  It may also name a field that
an event must have.  Of the directives that are for the beginning of an event's target, or for all
targets, the one with the longest target decides, and of these one with a field before one without;
of two that are for the same events, the later one.

A directive may ask for a named span around events, or for spans with a certain value in a field.
There are no spans here, so it chooses nothing.
-/

namespace IconAssets
namespace Log

/-- The levels up to a rank, of the events that are reported by the targets that start with a text
and that have certain fields. -/
structure Directive where
  target : Option Text
  fields : List Text
  /-- The greatest rank that is shown; zero shows nothing. -/
  rank : Nat
  deriving DecidableEq, Repr

/-- The directives of a filter. -/
abbrev Filter := List Directive

/-- The rank of all levels. -/
def allRanks : Nat := 5

/-- The value of a text of digits, perhaps behind a plus sign. -/
def number? (t : Text) : Option Nat :=
  let digits := if t.head? = some '+' then t.tail else t
  if digits ≠ [] && digits.all Char.isDigit then
    some (digits.foldl (fun n c => n * 10 + (c.toNat - '0'.toNat)) 0)
  else none

/-- The rank that a level's name or number stands for. -/
def rank? (t : Text) : Option Nat :=
  match number? t with
  | some n => if n ≤ allRanks then some n else none
  | none =>
    [("off".toList, 0), ("error".toList, 1), ("warn".toList, 2), ("info".toList, 3),
      ("debug".toList, 4), ("trace".toList, 5)].lookup (Text.lowerAscii t)

/-- The rank behind an equals sign; nothing there stands for all levels. -/
def rankBehind? (t : Text) : Option Nat := if t = [] then some allRanks else rank? t

/-- Whether a directive may start with this character. -/
def mayStart (c : Char) : Bool :=
  c = '[' || c = '-' || c = ':' || c = '_' || Text.isAlphanumeric c

/-- What is asked about spans and fields. -/
structure Condition where
  /-- The name of a span. -/
  span : Option Text
  /-- The name of a field. -/
  field : Option Text
  /-- Whether the field must also have a certain value. -/
  valued : Bool
  deriving DecidableEq, Repr

/-- What a directive says. -/
structure Clause where
  target : Option Text
  condition : Condition
  rank : Nat
  deriving DecidableEq, Repr

/-- The clause as a directive, if it is not about spans alone. -/
def Clause.directive? (c : Clause) : Option Directive :=
  if c.condition.span.isSome || c.condition.valued then none
  else some ⟨c.target, c.condition.field.toList, c.rank⟩

/-- The part of a text between two places, which are counted in bytes. -/
def between (t : Text) (start stop : Nat) : Text :=
  Utf8.decodeLenient (((Utf8.encode t).take stop).drop start)

/-- The condition on a field: its name, and perhaps a value or a pattern of values. -/
def condition? (span : Option Text) (t : Text) : Option Condition :=
  match Text.pieces '=' t with
  | name :: value :: _ =>
    if ValuePattern.isWellFormed value then some ⟨span, some name, true⟩ else none
  | _ => if t = [] then none else some ⟨span, some t, false⟩

/-- Reads the end of a clause, at a place of the whole text. -/
def clauseEnd? (t : Text) (target : Option Text) (c : Condition) (place : Nat) :
    Text → Option Clause
  | [] => some ⟨target, c, allRanks⟩
  | '=' :: _ => (rankBehind? (between t (place + 1) (Text.byteLength t))).map (⟨target, c, ·⟩)
  | _ => none

/-- Reads a clause from behind its opening bracket on, at a place of the whole text. -/
def clauseInBrackets? (t : Text) (target : Option Text) (place : Nat) (inner : Text) :
    Option Clause :=
  let name := inner.takeWhile fun c => c ≠ ']' && c ≠ '\x7b'
  let stop := place + Text.byteLength name
  let span := between t place stop
  match inner.drop name.length with
  | [] => none
  | c :: rest =>
    if c = ']' then clauseEnd? t target ⟨some span, none, false⟩ (stop + 1) rest
    else
      let field := rest.takeWhile (· ≠ '\x7d')
      let last := stop + 1 + Text.byteLength field
      match rest.drop (field.length + 1) with
      | ']' :: behind =>
        match condition? (if span = [] then none else some span) (between t (stop + 1) last) with
        | none => none
        | some c => clauseEnd? t target c (last + 2) behind
      | _ => none

/-- What a directive says; none if it cannot be read.  Blanks at its ends do not count where its
signs are looked for, but its parts are cut out of the text with these blanks. -/
def clause? (t : Text) : Option Clause :=
  let shape := Text.trim t
  let always : Condition := ⟨none, none, false⟩
  if !shape.head?.any mayStart then none
  else
    let front := shape.takeWhile fun c => c ≠ '=' && c ≠ '['
    let stop := Text.byteLength front
    let target := between t 0 stop
    match shape.drop front.length with
    | [] =>
      match rank? t with
      | some r => some ⟨none, always, r⟩
      | none => some ⟨some t, always, allRanks⟩
    | '[' :: inner => clauseInBrackets? t (if front = [] then none else some target) (stop + 1) inner
    | behind => clauseEnd? t (some target) always stop behind

/-- Puts directives in order: a later one takes the place of one for the same events. -/
def Filter.add (f : Filter) (d : Directive) : Filter :=
  f.filter (fun e => e.target ≠ d.target || e.fields ≠ d.fields) ++ [d]

/-- Shows errors only. -/
def Filter.errors : Filter := [⟨none, [], Level.error.rank⟩]

/-- Shows everything down to the level of information. -/
def Filter.standard : Filter := [⟨none, [], Level.info.rank⟩]

/-- Reads a filter.  A text without directives stands for errors only. -/
def Filter.parse (t : Text) : Option Filter :=
  ((Text.pieces ',' t).filter (· ≠ [])).mapM clause? |>.map fun cs =>
    if cs = [] then errors else (cs.filterMap Clause.directive?).foldl add []

/-- The filter of a setting: the standard one if there is none or it cannot be read. -/
def Filter.ofSetting (setting : Option Text) : Filter := (setting.bind parse).getD standard

/-- The fields of events: there is nothing to an event but its message. -/
def eventFields : List Text := ["message".toList]

/-- Whether a directive is for the events of a target. -/
def Directive.covers (d : Directive) (target : Text) : Bool :=
  (match d.target with
    | none => true
    | some start => start.isPrefixOf target) && d.fields.all (· ∈ eventFields)

/-- How much a directive says about its targets. -/
def Directive.weight (d : Directive) : Nat :=
  match d.target with
  | none => 0
  | some start => Text.byteLength start + 1

/-- Whether a directive says less about its events than another. -/
def Directive.isVaguer (d e : Directive) : Bool :=
  d.weight < e.weight || (d.weight = e.weight && d.fields.length < e.fields.length)

/-- The directive that decides about a target. -/
def Filter.decisive? (f : Filter) (target : Text) : Option Directive :=
  (f.filter (·.covers target)).foldl (fun best d =>
    match best with
    | none => some d
    | some b => if b.isVaguer d then some d else some b) none

/-- Whether an event is shown. -/
def Filter.shows (f : Filter) (e : Event) : Bool :=
  match f.decisive? e.reporter.target.toList with
  | none => false
  | some d => e.level.rank ≤ d.rank

/-- A character of a message as it is shown: those that steer a terminal are spelled out. -/
def shownChar (c : Char) : Text :=
  if c = '\x1b' then "\\x1b".toList
  else if c = '\x07' then "\\x07".toList
  else if c = '\x08' then "\\x08".toList
  else if c = '\x0c' then "\\x0c".toList
  else if c = '\x7f' then "\\x7f".toList
  else if 0x80 ≤ c.toNat && c.toNat ≤ 0x9F then
    "\\u\x7b".toList ++ Nat.toDigits 16 c.toNat ++ ['\x7d']
  else [c]

/-- The line that shows an event: its level in five columns, and its message. -/
def line (e : Event) : Text :=
  let level := e.level.name.toList
  List.replicate (5 - level.length) ' ' ++ level ++ ' ' :: e.message.toList.flatMap shownChar ++
    ['\n']

/-- The lines of the events that a filter shows. -/
def Filter.lines (f : Filter) (events : List Event) : Text := (events.filter f.shows).flatMap line

end Log
end IconAssets
