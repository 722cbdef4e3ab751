import Courier.Text.Blank
import Courier.Text.Alphanumeric

namespace Courier

/-! # Field value patterns

A directive of a log filter may require a field to hold a value. A value that
reads as neither a boolean nor a number is a regular expression, which the
filter compiles into an automaton before it accepts the directive. This module
decides whether such a pattern compiles.

The syntax is that of common regular expressions:

* a repetition (`*`, `+`, `?`, `{m}`, `{m,}`, `{m,n}`, each optionally lazy with
  a trailing `?`) needs something before it to repeat other than a change of
  flags; a `{` always begins a counted repetition, whose counts are 32-bit
  numbers, the smaller first;
* groups are `(…)`, `(?:…)`, `(?flags:…)`, `(?flags)`, `(?P<name>…)` and
  `(?<name>…)`; look-around is refused; flags are `i`, `m`, `s`, `U`, `u`, `x`
  and `R`, each at most once, negated after a `-`; a name begins with `_` or a
  letter and goes on with `_`, `.`, `[`, `]`, letters and digits;
* an escape is a punctuation mark, one of `\a \f \t \n \r \v`, a code point
  in hexadecimal (`\x`, `\u`, `\U`, with a fixed number of digits or any number
  in braces), a class (`\d \s \w` and their negations, Unicode classes `\p`
  and `\P`) or an assertion (`\A \z \b \B \< \>`, `\b{start}` and its kin);
  a digit, any other letter and a character beyond ASCII are refused;
* a bracketed class may nest classes, name ASCII classes (`[:alpha:]`), combine
  sets with `&&`, `--` and `~~`, and hold ranges whose ends are single
  characters in order; `]` first in a class and `-` first or before `]` are
  literal;
* with the `x` flag, blanks and comments from `#` to the end of the line are
  skipped between the pieces of the pattern, inside classes, and between the
  digits of an escape.

The syntax may nest 250 levels deep, counting each group, repetition,
alternation, sequence of two or more pieces, bracketed class, union of two or
more class items and set operation on its path.

The automaton is built without Unicode tables. With Unicode on, which is the
default, the classes `\d \s \w` and the Unicode classes are unknown, and the
`i` flag cannot fold case, so a literal or a class under it is refused; word
boundaries are accepted by the syntax, but the automaton cannot test them.
With Unicode off, the pattern must still match text only: a character beyond
ASCII, `.`, a negated class, and a negated ASCII or Perl class are refused.
A pattern also fails when its automaton would be too large: it has about one
state per byte of each literal it must match, repeated as often as counted
repetitions ask. -/

-- Powers of numbers are those of the core library, also where more algebra is
-- in scope; a literal exponent is given its type so that no default instance picks it.
attribute [local instance (high)] instPowNat

namespace Pattern

inductive Issue where
  /-- The pattern breaks the syntax, or its automaton would be too large. -/
  | automaton
  /-- The pattern tests a Unicode word boundary. -/
  | unicodeWordBoundary
  deriving DecidableEq, Repr

def Issue.message : Issue → String
  | .automaton => "error building NFA"
  | .unicodeWordBoundary =>
    "unsupported regex feature for DFAs: cannot build DFAs for regexes with Unicode word " ++
      "boundaries; switch to ASCII word boundaries, or heuristically enable Unicode word " ++
      "boundaries or use a different regex engine"

/-- Checking a pattern, which may find an issue. -/
abbrev Checking := Except Issue


/-- The flags that change how the rest of a pattern is read. -/
structure Flags where
  /-- Classes, `.`, literals and word boundaries cover Unicode, not only ASCII. -/
  unicode : Bool
  /-- Letters match without regard to case. -/
  caseless : Bool
  /-- Blanks and comments from `#` to the end of a line are skipped. -/
  verbose : Bool
  deriving DecidableEq, Repr

def Flags.initial : Flags := ⟨true, false, false⟩

/-- What a piece of a pattern adds: the automaton states it needs, and how
many levels of syntax nest in it. -/
structure Shape where
  states : Nat
  height : Nat
  deriving DecidableEq, Repr

/-- Two pieces side by side: their states add up, and the deeper one counts. -/
def Shape.merge (a b : Shape) : Shape := ⟨a.states + b.states, max a.height b.height⟩

/-- How deeply the syntax of a pattern may nest. -/
def nestLimit : Nat := 250

/-- Estimated automaton states of `.` when Unicode is on. -/
def anyCharStates : Nat := 10

/-- The most bytes of automaton states that a pattern may need. -/
def stateBytesLimit : Nat := 10 * 2 ^ (20 : Nat)

def bytesPerState : Nat := 32

/-! ## Blanks and comments -/

/-- Drop the blanks and comments at the front of a text; `inComment` says
whether a comment is open, which the next line feed closes. -/
def skipSpaceFrom (inComment : Bool) : List Char → List Char
  | [] => []
  | c :: rest =>
    if inComment then skipSpaceFrom (c != '\n') rest
    else if isBlankChar c then skipSpaceFrom false rest
    else if c = '#' then skipSpaceFrom true rest
    else c :: rest

/-- Drop the blanks and comments at the front of a text when they are skipped. -/
def skipSpace (verbose : Bool) (s : List Char) : List Char :=
  if verbose then skipSpaceFrom false s else s

/-- The first character that is neither blank nor the `#` that opens a comment;
after that `#` the first character that is not blank is given, whatever it is. -/
def peekSpaceFrom (inComment : Bool) : List Char → Option Char
  | [] => none
  | c :: rest =>
    if isBlankChar c then peekSpaceFrom inComment rest
    else if !inComment && c = '#' then peekSpaceFrom true rest
    else some c

/-- The character a class looks ahead to after a `-` when it decides whether
the `-` makes a range; when blanks are skipped and nothing follows them, the
character right after the `-` is given. -/
def peekSpace (verbose : Bool) (after : List Char) : Option Char :=
  if verbose then
    match peekSpaceFrom false after with
    | some c => some c
    | none => after.head?
  else after.head?

/-- Take the characters that satisfy `p` from the front of a text, skipping
blanks and comments after each when they are skipped; `fuel` bounds the
characters taken. Returns them and what follows. -/
def takeSpaced (verbose : Bool) (p : Char → Bool) : Nat → List Char → List Char × List Char
  | 0, s => ([], s)
  | _ + 1, [] => ([], [])
  | fuel + 1, c :: rest =>
    if p c then
      let (taken, after) := takeSpaced verbose p fuel (skipSpace verbose rest)
      (c :: taken, after)
    else ([], c :: rest)

/-! ## Escapes -/

inductive Escape where
  /-- A single character. -/
  | literal (c : Char)
  /-- One of the classes `\d \s \w`, or its negation. -/
  | perlClass (negated : Bool)
  /-- An assertion about the position; `word` when it tests a word boundary. -/
  | assertion (word : Bool)
  deriving DecidableEq, Repr

/-- The characters that have a meaning of their own and are literal when escaped. -/
def isMetaChar (c : Char) : Bool := "\\.+*?()|[]{}^$#&-~".toList.contains c

/-- Whether a character may be escaped to stand for itself: a meta character, or
any ASCII character that is neither a letter, a digit nor an angle bracket. -/
def isEscapable (c : Char) : Bool :=
  isMetaChar c || (c.toNat < 0x80 && !c.isAlphanum && c != '<' && c != '>')

def hexValue? (c : Char) : Option Nat :=
  if c.isDigit then some (c.toNat - 48)
  else if 'a' ≤ c && c ≤ 'f' then some (c.toNat - 87)
  else if 'A' ≤ c && c ≤ 'F' then some (c.toNat - 55)
  else none

def isHexDigit (c : Char) : Bool := (hexValue? c).isSome

def hexNumber (digits : List Char) : Nat :=
  digits.foldl (fun n c => n * 16 + (hexValue? c).getD 0) 0

/-- A code point that names a character: below the limit of Unicode and no surrogate. -/
def isScalar (n : Nat) : Bool := n < 0x110000 && !(0xD800 ≤ n && n ≤ 0xDFFF)

/-- Read `count` more digits of a fixed-width hexadecimal escape onto `value`,
skipping blanks after each when they are skipped. -/
def hexDigits (verbose : Bool) : Nat → Nat → List Char → Checking (Nat × List Char)
  | 0, value, s => .ok (value, s)
  | _ + 1, _, [] => .error .automaton
  | count + 1, value, c :: rest =>
    match hexValue? c with
    | some d => hexDigits verbose count (value * 16 + d) (skipSpace verbose rest)
    | none => .error .automaton

/-- Read a code point written in hexadecimal after `\x`, `\u` or `\U`: exactly
`width` digits, or one or more of them in braces. -/
def hexEscape (verbose : Bool) (width : Nat) (s : List Char) : Checking (Escape × List Char) := do
  let (value, rest) ← match skipSpace verbose s with
    | [] => throw .automaton
    | '{' :: more =>
      let (digits, after) := takeSpaced verbose isHexDigit more.length (skipSpace verbose more)
      match after with
      | '}' :: rest =>
        if digits.isEmpty then throw .automaton
        pure (hexNumber digits, skipSpace verbose rest)
      | _ => throw .automaton
    | s => hexDigits verbose width 0 s
  if isScalar value then return (.literal (Char.ofNat value), rest) else throw .automaton

/-- The names of the special word boundaries written `\b{…}`. -/
def specialBoundaries : List String := ["start", "end", "start-half", "end-half"]

/-- Whether a character may stand in the name of a special word boundary. -/
def isBoundaryNameChar (c : Char) : Bool := c.isAlpha || c = '-'

/-- Read a word boundary after `\b`: a `{` that begins a name makes it a special
boundary, which the name must be; any other `{` is left to a counted repetition. -/
def wordBoundary (verbose : Bool) : List Char → Checking (Escape × List Char)
  | '{' :: more =>
    match skipSpace verbose more with
    | [] => .error .automaton
    | c :: rest =>
      if isBoundaryNameChar c then
        let (name, after) := takeSpaced verbose isBoundaryNameChar (rest.length + 1) (c :: rest)
        match after with
        | '}' :: after =>
          if specialBoundaries.contains (String.ofList name) then .ok (.assertion true, after)
          else .error .automaton
        | _ => .error .automaton
      else .ok (.assertion true, '{' :: more)
  | rest => .ok (.assertion true, rest)

/-- Read an escape after its backslash. Unicode classes are refused here, since
no Unicode tables are at hand to build them and without Unicode they are not
allowed at all. -/
def escape (verbose : Bool) : List Char → Checking (Escape × List Char)
  | [] => .error .automaton
  | c :: rest =>
    match c with
    | 'x' => hexEscape verbose 2 rest
    | 'u' => hexEscape verbose 4 rest
    | 'U' => hexEscape verbose 8 rest
    | 'p' | 'P' => .error .automaton
    | 'd' | 's' | 'w' => .ok (.perlClass false, rest)
    | 'D' | 'S' | 'W' => .ok (.perlClass true, rest)
    | _ =>
      if isEscapable c then .ok (.literal c, rest)
      else match c with
        | 'a' => .ok (.literal (Char.ofNat 7), rest)
        | 'f' => .ok (.literal (Char.ofNat 12), rest)
        | 't' => .ok (.literal '\t', rest)
        | 'n' => .ok (.literal '\n', rest)
        | 'r' => .ok (.literal '\r', rest)
        | 'v' => .ok (.literal (Char.ofNat 11), rest)
        | 'A' | 'z' => .ok (.assertion false, rest)
        | 'B' | '<' | '>' => .ok (.assertion true, rest)
        | 'b' => wordBoundary verbose rest
        | _ => .error .automaton

/-! ## What the flags allow -/

/-- Whether a literal character, alone or in a class, may be matched: with
Unicode on, case cannot be folded; with it off, only ASCII is text. -/
def literalAllowed (flags : Flags) (c : Char) : Bool :=
  if flags.unicode then !flags.caseless else c.toNat < 0x80

/-- Whether a Perl class may be matched: only its ASCII form, not negated. -/
def perlAllowed (flags : Flags) (negated : Bool) : Bool := !flags.unicode && !negated

/-- Whether an ASCII class in brackets may be matched: with Unicode on, case
cannot be folded; with it off, a negated one would match bytes beyond ASCII. -/
def asciiAllowed (flags : Flags) (negated : Bool) : Bool :=
  if flags.unicode then !flags.caseless else !negated

/-- The shape of an escape that stands in a class, if it may. -/
def classEscapeShape (flags : Flags) : Escape → Checking Shape
  | .literal c => if literalAllowed flags c then .ok ⟨c.utf8Size, 0⟩ else .error .automaton
  | .perlClass negated => if perlAllowed flags negated then .ok ⟨1, 0⟩ else .error .automaton
  | .assertion _ => .error .automaton

/-! ## Bracketed classes -/

/-- The names of ASCII classes, written `[:name:]` inside a bracketed class. -/
def asciiClassNames : List String :=
  ["alnum", "alpha", "ascii", "blank", "cntrl", "digit", "graph", "lower", "print", "punct",
   "space", "upper", "word", "xdigit"]

/-- Read an ASCII class at `[`: whether it is negated and what follows it. -/
def asciiClass? : List Char → Option (Bool × List Char)
  | '[' :: ':' :: rest =>
    let (negated, rest) := match rest with
      | '^' :: more => (true, more)
      | other => (false, other)
    let name := rest.takeWhile (· != ':')
    match rest.drop name.length with
    | ':' :: ']' :: after =>
      if asciiClassNames.contains (String.ofList name) then some (negated, after) else none
    | _ => none
  | _ => none

/-- An open bracketed class: the items of its current union, how many and how
deeply the deepest nests, the left side of a set operation waiting for its
right side, by how deeply it nests, and the states of everything read. -/
structure ClassFrame where
  count : Nat
  height : Nat
  pending : Option Nat
  states : Nat

namespace ClassFrame

/-- A class with `count` literal items of one byte each. -/
def withLiterals (count : Nat) : ClassFrame := ⟨count, 0, none, count⟩

/-- How deeply the current union nests: a union of two or more items adds a level. -/
def unionHeight (f : ClassFrame) : Nat := if 2 ≤ f.count then f.height + 1 else f.height

/-- How deeply the set of the class nests: a set operation adds a level. -/
def setHeight (f : ClassFrame) : Nat :=
  match f.pending with
  | none => f.unionHeight
  | some left => max left f.unionHeight + 1

def add (f : ClassFrame) (item : Shape) : ClassFrame :=
  { f with count := f.count + 1, height := max f.height item.height,
           states := f.states + item.states }

/-- Begin the right side of a set operation. -/
def operator (f : ClassFrame) : ClassFrame :=
  { f with count := 0, height := 0, pending := some f.setHeight }

/-- The shape of the class once it is closed. -/
def close (f : ClassFrame) : Shape := ⟨f.states, f.setHeight + 1⟩

end ClassFrame

/-- Read the start of a bracketed class after its `[`: an optional `^`, then any
`-` and, when there is none, a `]` as literal characters. -/
def classOpen (flags : Flags) (s : List Char) : Checking (ClassFrame × List Char) := do
  let (negated, s) := match skipSpace flags.verbose s with
    | '^' :: rest => (true, skipSpace flags.verbose rest)
    | rest => (false, rest)
  if negated && !flags.unicode then throw .automaton
  let (dashes, s) := takeSpaced flags.verbose (· = '-') s.length s
  let (count, s) := match dashes, s with
    | [], ']' :: rest => (1, skipSpace flags.verbose rest)
    | _, rest => (dashes.length, rest)
  if 0 < count && !literalAllowed flags '-' then throw .automaton
  return (.withLiterals count, s)

/-- Read one item of a class: an escape or a single character. -/
def classItem (verbose : Bool) : List Char → Checking (Escape × List Char)
  | [] => .error .automaton
  | '\\' :: rest => escape verbose rest
  | c :: rest => .ok (.literal c, rest)

/-- Read an item of a class or a range of two: a `-` makes a range unless a `]`
or another `-` comes after it. -/
def classRange (flags : Flags) (s : List Char) : Checking (Shape × List Char) := do
  let (first, rest) ← classItem flags.verbose s
  let rest := skipSpace flags.verbose rest
  match rest with
  | [] => throw .automaton
  | '-' :: after =>
    let next := peekSpace flags.verbose after
    if next = some ']' || next = some '-' then return (← classEscapeShape flags first, rest)
    let (last, after) ← classItem flags.verbose (skipSpace flags.verbose after)
    match first, last with
    | .literal low, .literal high =>
      if high < low then throw .automaton
      if !(literalAllowed flags low && literalAllowed flags high) then throw .automaton
      return (⟨high.utf8Size, 0⟩, after)
    | _, _ => throw .automaton
  | _ => return (← classEscapeShape flags first, rest)

/-- Read the rest of a bracketed class, with the classes it is nested in,
innermost first. Returns the shape of the outermost class and what follows it. -/
def classBody (flags : Flags) : Nat → ClassFrame → List ClassFrame → List Char →
    Checking (Shape × List Char)
  | 0, _, _, _ => .error .automaton
  | fuel + 1, frame, outer, s =>
    match skipSpace flags.verbose s with
    | [] => .error .automaton
    | '[' :: rest =>
      match asciiClass? ('[' :: rest) with
      | some (negated, after) =>
        if asciiAllowed flags negated then classBody flags fuel (frame.add ⟨1, 0⟩) outer after
        else .error .automaton
      | none => do
        let (opened, after) ← classOpen flags rest
        classBody flags fuel opened (frame :: outer) after
    | ']' :: rest =>
      match outer with
      | [] => .ok (frame.close, rest)
      | parent :: outer => classBody flags fuel (parent.add frame.close) outer rest
    | '&' :: '&' :: rest => classBody flags fuel frame.operator outer rest
    | '-' :: '-' :: rest => classBody flags fuel frame.operator outer rest
    | '~' :: '~' :: rest => classBody flags fuel frame.operator outer rest
    | s => do
      let (item, after) ← classRange flags s
      classBody flags fuel (frame.add item) outer after

def bracketClass (flags : Flags) (s : List Char) : Checking (Shape × List Char) := do
  let (frame, rest) ← classOpen flags s
  classBody flags (rest.length + 1) frame [] rest

/-! ## Repetitions -/

/-- A decimal count with blanks around it, if there are digits; a count that does
not fit 32 bits is refused. -/
def decimal (s : List Char) : Checking (Option Nat × List Char) := do
  let s := s.dropWhile isBlankChar
  let digits := s.takeWhile Char.isDigit
  let rest := (s.drop digits.length).dropWhile isBlankChar
  if digits.isEmpty then return (none, rest)
  let n : Nat := digits.foldl (fun n c => n * 10 + (c.toNat - 48)) 0
  if 2 ^ (32 : Nat) ≤ n then throw .automaton
  return (some n, rest)

/-- How a counted repetition multiplies the states of what it repeats. -/
inductive Count where
  | exactly (n : Nat)
  | atLeast (n : Nat)
  | between (low high : Nat)

/-- The states of a repetition of something with `states` states. -/
def Count.states (states : Nat) : Count → Nat
  | .exactly n => n * states
  | .atLeast n => n * states + states + 1
  | .between low high => high * states + (high - low)

/-- Read a counted repetition after its `{`, and the lazy mark after it. -/
def counted (verbose : Bool) (s : List Char) : Checking (Count × List Char) := do
  let (low, rest) ← decimal (skipSpace verbose s)
  let (count, rest) ← match rest with
    | ',' :: more => do
      let (high, more) ← decimal (skipSpace verbose more)
      match low, high with
      | some low, some high =>
        if high < low then throw .automaton
        pure (Count.between low high, more)
      | some low, none => pure (Count.atLeast low, more)
      | none, _ => throw .automaton
    | more => match low with
      | some n => pure (Count.exactly n, more)
      | none => throw .automaton
  match rest with
  | '}' :: after =>
    match skipSpace verbose after with
    | '?' :: after => return (count, after)
    | _ => return (count, after)
  | _ => throw .automaton

/-! ## Groups and flags -/

/-- The flags a flag group sets, starting from the flags in force, up to the
`:` or `)` that ends them: the flags, that character, what follows it, and
whether any flag was named. -/
def groupFlags (flags : Flags) : List Char → List Char → Bool → Bool →
    Checking (Flags × Char × List Char × Bool)
  | _, [], _, _ => .error .automaton
  | seen, c :: rest, negated, afterDash =>
    if c = ':' || c = ')' then
      if afterDash then .error .automaton else .ok (flags, c, rest, !seen.isEmpty)
    else if c = '-' then
      if negated then .error .automaton else groupFlags flags ('-' :: seen) rest true true
    else if "imsUuxR".toList.contains c then
      if seen.contains c then .error .automaton
      else
        let flags := match c with
          | 'u' => { flags with unicode := !negated }
          | 'i' => { flags with caseless := !negated }
          | 'x' => { flags with verbose := !negated }
          | _ => flags
        groupFlags flags (c :: seen) rest negated false
    else .error .automaton

/-- Whether a character may stand in a group's name, first or later. -/
def isNameChar (first : Bool) (c : Char) : Bool :=
  c = '_' || (if first then isAlphabeticChar c
    else c = '.' || c = '[' || c = ']' || isAlphanumericChar c)

/-- Read a group's name up to its `>`. -/
def groupName (s : List Char) : Checking (String × List Char) := do
  let name := s.takeWhile (· != '>')
  match s.drop name.length with
  | '>' :: rest =>
    match name with
    | [] => throw .automaton
    | first :: others =>
      if isNameChar true first && others.all (isNameChar false) then return (String.ofList name, rest)
      else throw .automaton
  | _ => throw .automaton

/-! ## The whole pattern -/

/-- An open level of a pattern: the whole pattern or a group. -/
structure Level where
  /-- The alternatives already ended: their states with one to join each, and
  the deepest. -/
  ended : Shape
  /-- How many alternatives have ended. -/
  branches : Nat
  /-- The pieces of the current alternative before its last. -/
  items : Shape
  /-- How many pieces the current alternative has, changes of flags included. -/
  count : Nat
  /-- The last piece, if there is one that a repetition may repeat. -/
  last : Option Shape
  /-- The flags in force on this level. -/
  flags : Flags

namespace Level

def fresh (flags : Flags) : Level := ⟨⟨0, 0⟩, 0, ⟨0, 0⟩, 0, none, flags⟩

/-- The shape of the current alternative: a sequence of two or more pieces adds
a level. -/
def sequence (l : Level) : Shape :=
  let pieces := l.items.merge (l.last.getD ⟨0, 0⟩)
  if 2 ≤ l.count then ⟨pieces.states, pieces.height + 1⟩ else pieces

/-- The shape of a level: a choice between alternatives adds a level. -/
def shape (l : Level) : Shape :=
  if l.branches = 0 then l.sequence
  else ⟨l.ended.states + l.sequence.states, max l.ended.height l.sequence.height + 1⟩

def push (l : Level) (piece : Shape) : Level :=
  { l with items := l.items.merge (l.last.getD ⟨0, 0⟩), count := l.count + 1, last := some piece }

/-- Add a piece that may not be repeated: a change of flags. -/
def pushFlags (l : Level) (flags : Flags) : Level :=
  { l with items := l.items.merge (l.last.getD ⟨0, 0⟩), count := l.count + 1, last := none,
           flags }

def alternate (l : Level) : Level :=
  ⟨⟨l.ended.states + l.sequence.states + 1, max l.ended.height l.sequence.height⟩,
   l.branches + 1, ⟨0, 0⟩, 0, none, l.flags⟩

/-- Repeat the last piece, whose states become `f` of what they were. -/
def repeatLast (l : Level) (f : Nat → Nat) : Checking Level :=
  match l.last with
  | some piece => .ok { l with last := some ⟨f piece.states, piece.height + 1⟩ }
  | none => .error .automaton

end Level

structure Reader where
  /-- The innermost open level. -/
  level : Level
  /-- The levels around it, innermost first. -/
  outer : List Level
  /-- The names given to groups so far. -/
  names : List String
  /-- Whether a word boundary is tested with Unicode on. -/
  unicodeBoundary : Bool

/-- Open a group whose pieces are read under `flags`. -/
def Reader.openGroup (r : Reader) (flags : Flags) : Reader :=
  { r with level := .fresh flags, outer := r.level :: r.outer }

/-- Read a pattern, piece by piece; `fuel` bounds the pieces read. -/
def read : Nat → Reader → List Char → Checking Reader
  | 0, _, _ => .error .automaton
  | fuel + 1, r, s =>
    let l := r.level
    match skipSpace l.flags.verbose s with
    | [] => if r.outer.isEmpty then .ok r else .error .automaton
    | c :: rest =>
      match c with
      | '(' =>
        match skipSpace l.flags.verbose rest with
        | '?' :: '=' :: _ | '?' :: '!' :: _ | '?' :: '<' :: '=' :: _ | '?' :: '<' :: '!' :: _ =>
          .error .automaton
        | '?' :: 'P' :: '<' :: more | '?' :: '<' :: more => do
          let (name, more) ← groupName more
          if r.names.contains name then throw .automaton
          read fuel ({ r with names := name :: r.names }.openGroup l.flags) more
        | '?' :: more => do
          let (flags, ending, more, named) ← groupFlags l.flags [] more false false
          if ending = ')' then
            -- a group of flags alone changes the rest of the level
            if !named then throw .automaton
            read fuel { r with level := l.pushFlags flags } more
          else read fuel (r.openGroup flags) more
        | more => read fuel (r.openGroup l.flags) more
      | ')' =>
        match r.outer with
        | [] => .error .automaton
        | parent :: outer =>
          let inner := l.shape
          read fuel { r with level := parent.push ⟨inner.states, inner.height + 1⟩, outer } rest
      | '|' => read fuel { r with level := l.alternate } rest
      | '*' | '+' | '?' => do
        let level ← l.repeatLast (· + 1)
        let rest := match rest with
          | '?' :: more => more
          | more => more
        read fuel { r with level } rest
      | '{' => do
        let (count, rest) ← counted l.flags.verbose rest
        read fuel { r with level := ← l.repeatLast (count.states ·) } rest
      | '[' => do
        let (shape, rest) ← bracketClass l.flags rest
        read fuel { r with level := l.push shape } rest
      | '\\' => do
        let (e, rest) ← escape l.flags.verbose rest
        match e with
        | .literal c =>
          if literalAllowed l.flags c then read fuel { r with level := l.push ⟨c.utf8Size, 0⟩ } rest
          else throw .automaton
        | .perlClass negated =>
          if perlAllowed l.flags negated then read fuel { r with level := l.push ⟨1, 0⟩ } rest
          else throw .automaton
        | .assertion word =>
          read fuel { r with level := l.push ⟨1, 0⟩,
                             unicodeBoundary := r.unicodeBoundary || (word && l.flags.unicode) } rest
      | '.' =>
        if l.flags.unicode then read fuel { r with level := l.push ⟨anyCharStates, 0⟩ } rest
        else .error .automaton
      | '^' | '$' => read fuel { r with level := l.push ⟨1, 0⟩ } rest
      | c =>
        if literalAllowed l.flags c then read fuel { r with level := l.push ⟨c.utf8Size, 0⟩ } rest
        else .error .automaton

/-- Check that a pattern compiles into an automaton the matcher can run. -/
def check (pattern : String) : Checking Unit := do
  let chars := pattern.toList
  let r ← read (chars.length + 1) ⟨.fresh .initial, [], [], false⟩ chars
  let shape := r.level.shape
  if nestLimit < shape.height then throw .automaton
  if stateBytesLimit < shape.states * bytesPerState then throw .automaton
  if r.unicodeBoundary then throw .unicodeWordBoundary

/-- Why a pattern does not compile, if it does not. -/
def issue? (pattern : String) : Option Issue :=
  match check pattern with
  | .ok () => none
  | .error issue => some issue

example : issue? "a+b" = none := by decide +kernel
example : issue? "(" = some .automaton := by decide +kernel
example : issue? "*" = some .automaton := by decide +kernel
example : issue? "a)" = some .automaton := by decide +kernel
example : issue? "x{99999999}" = some .automaton := by decide +kernel
example : issue? "[a-z]?" = none := by decide +kernel
example : issue? "\\bx" = some .unicodeWordBoundary := by decide +kernel
example : issue? "\\d" = some .automaton := by decide +kernel
example : issue? "(?i)k" = some .automaton := by decide +kernel
example : issue? "k(?i)" = none := by decide +kernel
example : issue? "(?-u)\\xFF" = some .automaton := by decide +kernel
example : issue? "(?-u)(?u:\\xFF)" = none := by decide +kernel
example : issue? "(?x)\\x4 1" = none := by decide +kernel
example : issue? "(?x)[ ]" = some .automaton := by decide +kernel
example : issue? "(?P<\u00B2>x)" = some .automaton := by decide +kernel

end Pattern

end Courier
