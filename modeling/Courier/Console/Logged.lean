import Courier.Telemetry.Setup
import Courier.Json.Reader
import Courier.Time.Rfc3339

namespace Courier

/-! # What a started process logged

Telemetry is started in a child process, and the console reads what the child
writes, line by line: a line ends at a line feed, and a carriage return just
before it is dropped. Lines that hold only blanks are skipped, and so are the
lines on which the child reports its result, which begin with a marker. The
terminal control sequences of a line, each an escape character and `[` up to
the next ASCII letter, are removed; what is left is shown as a
JSON value if it reads as one, without its time stamp and with its file name
cut to start at the crates directory. Otherwise it is shown as text, without
its leading blanks and without a leading time stamp, that is a first word in
the strict RFC 3339 form followed by a space. Blanks at the end of a text line
stay. -/

namespace Console

/-- The marker that begins the line on which a child process reports its result. -/
def resultMarker : String := "@@oracle-result@@"

/-- The escape character that begins a terminal escape sequence. -/
def escapeChar : Char := Char.ofNat 27

/-- Whether a character ends a control sequence: an ASCII letter. -/
def isFinalChar (c : Char) : Bool := ('a' ≤ c && c ≤ 'z') || ('A' ≤ c && c ≤ 'Z')

/-- Where the reading of control sequences stands: in plain text, just after an
escape character, or inside a sequence begun with the characters held (in
reverse). -/
inductive StyleScan where
  | plain
  | escaped
  | sequence (held : List Char)

/-- The characters held by a sequence that did not complete, in reverse. -/
def StyleScan.held : StyleScan → List Char
  | .plain => []
  | .escaped => [escapeChar]
  | .sequence held => held

/-- One plain character: it is kept, unless it begins a sequence. -/
def plainStep (kept : List Char) (c : Char) : List Char × StyleScan :=
  if c = escapeChar then (kept, .escaped) else (c :: kept, .plain)

/-- One step of removing control sequences: the characters kept so far, in
reverse, and where the reading stands. A sequence is an escape character and
`[`, then any characters up to and including the first ASCII letter; an escape
character that no `[` follows is kept, and the character after it is read as
plain text. -/
def styleStep (acc : List Char × StyleScan) (c : Char) : List Char × StyleScan :=
  let (kept, scan) := acc
  match scan with
  | .plain => plainStep kept c
  | .escaped =>
    if c = '[' then (kept, .sequence ['[', escapeChar])
    else plainStep (escapeChar :: kept) c
  | .sequence held => if isFinalChar c then (kept, .plain) else (kept, .sequence (c :: held))

/-- Characters without their terminal control sequences; a sequence that never
ends stays as it is. -/
def stripStyles (chars : List Char) : List Char :=
  let (kept, scan) := chars.foldl styleStep ([], .plain)
  (scan.held ++ kept).reverse

example : stripStyles "a\x1b[3mb".toList = "ab".toList := by decide +kernel
example : stripStyles "\x1b[12;34Hz".toList = "z".toList := by decide +kernel
example : stripStyles "\x1b(Bx".toList = "\x1b(Bx".toList := by decide +kernel
example : stripStyles "a\x1b[ \x1b[3mb".toList = "ab".toList := by decide +kernel
example : stripStyles "a\x1b[1\u00e9mb\x1b[1".toList = "ab\x1b[1".toList := by decide +kernel

/-- A line without a leading time stamp: a first word, ended by a space, in the
strict RFC 3339 form, with the blanks after it. -/
def dropTimeStamp (line : String) : String :=
  let chars := line.toList
  let word := chars.takeWhile (· != ' ')
  if word.length < chars.length && (Instant.parseStrict (String.ofList word)).isSome then
    String.ofList ((chars.drop (word.length + 1)).dropWhile isBlankChar)
  else line

/-- A JSON line without its time stamp, its file name cut to start at the
crates directory. -/
def tidyJsonLine (value : Json) : Json :=
  match value with
  | .object members =>
    .object ((members.filter (·.1 != "timestamp")).map fun (k, v) =>
      if k == "filename" then
        match v with
        | .string path =>
          match path.splitOn "crates/" with
          | _ :: after@(_ :: _) => (k, .string ("crates/" ++ "crates/".intercalate after))
          | _ => (k, v)
        | _ => (k, v)
      else (k, v))
  | other => other

/-- The entry of one written line, unless it is skipped. -/
def lineEntry (line : String) : Option Json :=
  let trimmed := trimBlank line
  if trimmed.isEmpty || trimmed.startsWith resultMarker then none
  else
    let plain := String.ofList (stripStyles line.toList)
    match Json.readText plain with
    | .ok value => some (.object [("json", tidyJsonLine value)])
    | .error _ => some (.object [("text", .string (dropTimeStamp (trimBlankStart plain)))])

/-- A written line without the carriage return that ends it, if one does. -/
def dropReturn (line : String) : String :=
  if line.endsWith "\r" then String.ofList line.toList.dropLast else line

def loggedEntries (lines : List LogLine) : List Json :=
  lines.flatMap fun
    | .json value => [.object [("json", value)]]
    | .text text => (text.splitOn "\n").filterMap fun line => lineEntry (dropReturn line)

end Console

end Courier
