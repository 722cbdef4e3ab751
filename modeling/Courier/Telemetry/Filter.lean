import Courier.Text.Blank
import Courier.Text.Alphanumeric
import Courier.Telemetry.Pattern
import Courier.Config

namespace Courier

/-! Filter directives choose which log events are written.

A filter is a comma-separated list of directives. A directive is a bare
verbosity (`info`, `3`), a bare target (`my_crate`, which enables everything
under it), or `target[span{field,...}]=verbosity`, where each part is optional.
A directive that names a span, or a field with a value, only applies inside
spans; the others are static and decide events on their own. A field's value
that is neither a boolean nor a number is a pattern, which must compile.

A directive is read character by character once blanks are trimmed from both
of its ends, but its parts are cut from the untrimmed text at the byte offsets
counted in the trimmed one. So a directive with leading blanks has its parts
shifted, the last part keeps trailing blanks, and a cut may fall inside a
character, which makes the reader give up.

An event is written when the most specific static directive that applies to it
allows its verbosity: one with a longer target is more specific, then one that
names more fields; of two directives with the same target and fields the later
wins. A directive applies when its target is a prefix of the event's target and
the event has every field it names. When no directive applies, the event is
not written. -/

/-- How much is logged, from nothing to everything. -/
inductive Verbosity where
  | off
  | error
  | warn
  | info
  | debug
  | trace
  deriving DecidableEq, Repr, Inhabited

namespace Verbosity

/-- The rank of a verbosity: more is written at a higher rank. -/
def rank : Verbosity → Nat
  | .off => 0
  | .error => 1
  | .warn => 2
  | .info => 3
  | .debug => 4
  | .trace => 5

/-- The verbosity of a number from 0 to 5. -/
def ofRank? : Nat → Option Verbosity
  | 0 => some .off
  | 1 => some .error
  | 2 => some .warn
  | 3 => some .info
  | 4 => some .debug
  | 5 => some .trace
  | _ => none

/-- The verbosity named by a text: a number from 0 to 5 (an unsigned word with an
optional plus sign), or a name in any case; the empty text means errors only. -/
def parse? (text : String) : Option Verbosity :=
  match (BusConfig.parseWord? text).bind ofRank? with
  | some v => some v
  | none =>
    match lowerAscii text with
    | "" => some .error
    | "error" => some .error
    | "warn" => some .warn
    | "info" => some .info
    | "debug" => some .debug
    | "trace" => some .trace
    | "off" => some .off
    | _ => none

end Verbosity

inductive FilterError where
  /-- A directive that does not follow the grammar. -/
  | invalidDirective
  /-- A verbosity that is neither a name nor a number from 0 to 5. -/
  | invalidLevel
  /-- A field's value pattern that does not compile. -/
  | invalidField (issue : Pattern.Issue)
  /-- A part of a directive was cut inside a character: the reader gives up. -/
  | cutCharacter
  deriving DecidableEq, Repr

def FilterError.message : FilterError → String
  | .invalidDirective => "invalid filter directive"
  | .invalidLevel =>
    "error parsing level filter: expected one of \"off\", \"error\", \"warn\", \"info\", " ++
      "\"debug\", \"trace\", or a number 0-5"
  | .invalidField issue => "invalid field filter: " ++ issue.message
  | .cutCharacter => "a directive was cut inside a character"

/-- A field a directive names, with the value it requires if any. -/
structure FieldMatch where
  name : String
  value : Option String
  deriving DecidableEq, Repr

/-- The pieces of a list of characters between separators. -/
def splitChars (sep : Char) : List Char → List (List Char)
  | [] => [[]]
  | c :: rest =>
    let pieces := splitChars sep rest
    if c = sep then [] :: pieces
    else match pieces with
      | first :: others => (c :: first) :: others
      | [] => [[c]]

example : splitChars ',' "a,,b".toList = ["a".toList, [], "b".toList] := by decide

/-- Whether a text is a decimal number: an optional sign, then `inf`,
`infinity` or `nan` in any case, or digits with an optional point and exponent,
with a digit before or after the point. -/
def isNumberText (text : String) : Bool :=
  let chars := match text.toList with
    | '+' :: rest | '-' :: rest => rest
    | rest => rest
  let word := String.ofList (chars.map Char.toLower)
  if word = "inf" || word = "infinity" || word = "nan" then true
  else
    let whole := chars.takeWhile Char.isDigit
    let rest := chars.drop whole.length
    let (fraction, rest) := match rest with
      | '.' :: more => let f := more.takeWhile Char.isDigit; (f, more.drop f.length)
      | more => ([], more)
    let mantissa := !(whole.isEmpty && fraction.isEmpty)
    let exponentOk := match rest with
      | [] => true
      | 'e' :: more | 'E' :: more =>
        let digits := match more with
          | '+' :: ds | '-' :: ds => ds
          | ds => ds
        !digits.isEmpty && digits.all Char.isDigit
      | _ => false
    mantissa && exponentOk

example : isNumberText "-1.5e3" = true := by decide
example : isNumberText "." = false := by decide
example : isNumberText "1e" = false := by decide

/-- The field match of `name` or `name=value`; text after a second `=` is
dropped. A value other than a boolean or a number must compile as a pattern. -/
def FieldMatch.parse (text : String) : Except FilterError FieldMatch :=
  match text.splitOn "=" with
  | name :: value :: _ =>
    if value = "true" || value = "false" || isNumberText value then .ok ⟨name, some value⟩
    else match Pattern.issue? value with
      | some issue => .error (.invalidField issue)
      | none => .ok ⟨name, some value⟩
  | _ => .ok ⟨text, none⟩

structure Directive where
  verbosity : Verbosity
  target : Option String
  span : Option String
  fields : List FieldMatch
  deriving DecidableEq, Repr

namespace Directive

/-- Where the reader of a directive stands: which part it reads, with the byte
offset where that part began. -/
inductive Part where
  | start
  | levelOrTarget (start : Nat)
  | span (start : Nat)
  | field (start : Nat)
  | fields
  | target
  | level (start : Nat)
  deriving Repr

/-- Whether a character may begin a directive's target. -/
def beginsTarget (c : Char) : Bool := c = '-' || c = ':' || c = '_' || isAlphanumericChar c

/-- The characters of a text with the byte offset of each. -/
def offsets : Nat → List Char → List (Nat × Char)
  | _, [] => []
  | at_, c :: rest => (at_, c) :: offsets (at_ + c.utf8Size) rest

/-- Whether a byte offset of UTF-8 bytes lies between two characters. -/
def isCharBoundary (bytes : ByteArray) (at_ : Nat) : Bool :=
  if h : at_ < bytes.size then !(0x80 ≤ bytes[at_] && bytes[at_] < 0xC0) else at_ = bytes.size

/-- The text between two byte offsets; an offset inside a character cuts it. -/
def slice (bytes : ByteArray) (start stop : Nat) : Except FilterError String :=
  if start ≤ stop && isCharBoundary bytes start && isCharBoundary bytes stop then
    .ok ((String.fromUTF8? (bytes.extract start stop)).getD "")
  else .error .cutCharacter

/-- The verbosity of a text, or the error for a bad one. -/
def verbosityOf (text : String) : Except FilterError Verbosity :=
  match Verbosity.parse? text with
  | some v => .ok v
  | none => .error .invalidLevel

/-- Read one character of a directive, found at byte offset `at_` of the trimmed
text; parts are cut from `bytes`, the untrimmed text. Directives hold no commas:
the filter splits at them. -/
def step (bytes : ByteArray) (acc : Directive × Part) (entry : Nat × Char) :
    Except FilterError (Directive × Part) := do
  let (d, part) := acc
  let (at_, c) := entry
  match part with
  | .start =>
    if c = '[' then return (d, .span (at_ + 1))
    else if beginsTarget c then return (d, .levelOrTarget at_)
    else throw .invalidDirective
  | .levelOrTarget start =>
    if c = '=' then return ({ d with target := some (← slice bytes start at_) }, .level (at_ + 1))
    else if c = '[' then return ({ d with target := some (← slice bytes start at_) }, .span (at_ + 1))
    else return (d, part)
  | .span start =>
    if c = ']' then return ({ d with span := some (← slice bytes start at_) }, .target)
    else if c = '{' then
      let name ← slice bytes start at_
      return ({ d with span := if name.isEmpty then none else some name }, .field (at_ + 1))
    else return (d, part)
  | .field start =>
    if c = '}' || c = ',' then
      let text ← slice bytes start at_
      if text.isEmpty then throw .invalidDirective
      let field ← FieldMatch.parse text
      return ({ d with fields := d.fields ++ [field] }, if c = '}' then .fields else .field (at_ + 1))
    else return (d, part)
  | .fields => if c = ']' then return (d, .target) else throw .invalidDirective
  | .target => if c = '=' then return (d, .level (at_ + 1)) else throw .invalidDirective
  | .level _ => return (d, part)

/-- Finish a directive once its characters are read: a part still open runs to
the end of the untrimmed text. -/
def finish (bytes : ByteArray) (acc : Directive × Part) : Except FilterError Directive := do
  let (d, part) := acc
  match part with
  | .levelOrTarget start =>
    let text ← slice bytes start bytes.size
    if text.isEmpty then return d
    match Verbosity.parse? text with
    | some v => return { d with verbosity := v }
    | none => return { d with target := some text }
  | .level start =>
    let text ← slice bytes start bytes.size
    if text.isEmpty then return d
    return { d with verbosity := ← verbosityOf text }
  | .target => return d
  | _ => throw .invalidDirective

def parse (text : String) : Except FilterError Directive := do
  let bytes := text.toUTF8
  let initial : Directive := ⟨.trace, none, none, []⟩
  let acc ← (offsets 0 (trimBlank text).toList).foldlM (step bytes) (initial, .start)
  finish bytes acc

/-- Whether a directive decides events on its own, outside spans. -/
def isStatic (d : Directive) : Bool := d.span.isNone && d.fields.all (·.value.isNone)

/-- The names of the fields a directive requires. -/
def fieldNames (d : Directive) : List String := d.fields.map (·.name)

end Directive

/-- Read a filter: its directives, separated by commas; empty pieces are skipped. -/
def parseFilter (text : String) : Except FilterError (List Directive) :=
  (((splitChars ',' text.toList).filter (!·.isEmpty)).map String.ofList).mapM Directive.parse

/-- A log event as a filter sees it. -/
structure LogEvent where
  target : String
  verbosity : Verbosity
  fields : List String

def compareNames : List String → List String → Ordering
  | [], [] => .eq
  | [], _ :: _ => .lt
  | _ :: _, [] => .gt
  | a :: as, b :: bs => (compare a b).then (compareNames as bs)

def compareOption {α : Type} (cmp : α → α → Ordering) : Option α → Option α → Ordering
  | none, none => .eq
  | none, some _ => .lt
  | some _, none => .gt
  | some a, some b => cmp a b

/-- How specific a directive is compared with another: by the length of its
target, then the number of its fields, then by target and fields. -/
def compareSpecificity (a b : Directive) : Ordering :=
  (compareOption compare (a.target.map String.length) (b.target.map String.length)).then
    ((compare a.fields.length b.fields.length).then
      ((compareOption compare a.target b.target).then (compareNames a.fieldNames b.fieldNames)))

/-- Whether a static directive applies to an event. -/
def Directive.appliesTo (d : Directive) (event : LogEvent) : Bool :=
  (match d.target with
    | some t => t.toList.isPrefixOf event.target.toList
    | none => true) &&
  d.fieldNames.all (event.fields.contains ·)

/-- The directive that decides an event: the most specific static one that
applies, the later of two equally specific ones. -/
def decidingDirective (directives : List Directive) (event : LogEvent) : Option Directive :=
  (directives.filter fun d => d.isStatic && d.appliesTo event).foldl
    (fun best d => match best with
      | none => some d
      | some b => if compareSpecificity d b = .lt then some b else some d)
    none

def enables (directives : List Directive) (event : LogEvent) : Bool :=
  match decidingDirective directives event with
  | some d => event.verbosity.rank ≤ d.verbosity.rank
  | none => false

example : (parseFilter "warn,bus_telemetry::logging=info").toOption.map
    (enables · ⟨"bus_telemetry", .info, ["message"]⟩) = some false := by decide +kernel
example : (parseFilter "warn,bus_telemetry::logging=info").toOption.map
    (enables · ⟨"bus_telemetry::logging", .info, ["message"]⟩) = some true := by decide +kernel
example : (match parseFilter "=info" with | .error e => some e | .ok _ => none) =
    some .invalidDirective := by decide +kernel
example : (match parseFilter "a=b" with | .error e => some e | .ok _ => none) =
    some .invalidLevel := by decide +kernel
/-- A trailing blank stays with the verbosity, which then names none. -/
example : (match parseFilter "b=info " with | .error e => some e | .ok _ => none) =
    some .invalidLevel := by decide +kernel
/-- A leading blank shifts the cut of the target into the first letter. -/
example : (match parseFilter " \u00e9=info" with | .error e => some e | .ok _ => none) =
    some .cutCharacter := by decide +kernel

end Courier
