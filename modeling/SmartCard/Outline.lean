/-
The structure of a value, written out.

An outline is a word, a name around one inner outline, or a name over named parts.
It is written in one of two ways: `line` keeps everything on one line, `block` gives
each part a line of its own, four blanks deeper than the name it belongs to and
ended by a comma, so that both show the same words in the same order.

Text inside an outline stands in double quotes.  A quote, a backslash and the
control characters are escaped there, which makes the end of the text visible; the
rule is for ASCII text, and characters beyond ASCII are kept as they are.

A failure has an outline for people who look for its cause.  Where `Error.message` is
a sentence, the outline of an error names the cause and every value it carries, all
numbers in decimal.  A cause without values is its bare name, one with a single
unnamed value wraps it, and all others are records.
-/
import SmartCard.Error

namespace SmartCard

/-- The structure of a value: names, parts and words. -/
inductive Outline
  /-- A single word. -/
  | word (text : String)
  /-- A name around one part that has no name of its own. -/
  | wrap (name : String) (inner : Outline)
  /-- A name over named parts. -/
  | record (name : String) (parts : List (String × Outline))

namespace Outline

/-! ### Quoted text -/

/-- How a character is written between double quotes. -/
def escape (c : Char) : List Char :=
  match c with
  | '"' => ['\\', '"']
  | '\\' => ['\\', '\\']
  | '\t' => ['\\', 't']
  | '\n' => ['\\', 'n']
  | '\r' => ['\\', 'r']
  | '\x00' => ['\\', '0']
  | c =>
      if c.toNat < 32 ∨ c.toNat = 127 then
        ['\\', 'u', '\x7b'] ++ Nat.toDigits 16 c.toNat ++ ['\x7d']
      else [c]

/-- A text between double quotes. -/
def quoted (text : String) : Outline :=
  word (String.ofList (['"'] ++ text.toList.flatMap escape ++ ['"']))

/-- A number in decimal. -/
def number (n : Nat) : Outline :=
  word (toString n)

/-! ### On one line -/

mutual

/-- The outline on one line. -/
def line : Outline → String
  | word text => text
  | wrap name inner => name ++ "(" ++ line inner ++ ")"
  | record name parts => name ++ " \x7b " ++ ", ".intercalate (lineParts parts) ++ " \x7d"

/-- Each named part on one line. -/
def lineParts : List (String × Outline) → List String
  | [] => []
  | (name, part) :: rest => (name ++ ": " ++ line part) :: lineParts rest

end

/-! ### As an indented block -/

/-- The blanks in front of a line at a given depth. -/
def margin (depth : Nat) : String :=
  String.ofList (List.replicate (4 * depth) ' ')

mutual

/-- The outline as a block whose first line starts in place and whose further lines
start at the margin of `depth`. -/
def blockAt (depth : Nat) : Outline → String
  | word text => text
  | wrap name inner =>
      name ++ "(\n" ++ margin (depth + 1) ++ blockAt (depth + 1) inner ++ ",\n"
        ++ margin depth ++ ")"
  | record name parts =>
      name ++ " \x7b\n" ++ blockParts (depth + 1) parts ++ margin depth ++ "\x7d"

/-- Each named part on lines of its own. -/
def blockParts (depth : Nat) : List (String × Outline) → String
  | [] => ""
  | (name, part) :: rest =>
      margin depth ++ name ++ ": " ++ blockAt depth part ++ ",\n" ++ blockParts depth rest

end

/-- The outline as an indented block. -/
def block (outline : Outline) : String :=
  blockAt 0 outline

end Outline

/-! ### Failures -/

/-- The name of a protocol inside an outline. -/
def Protocol.outline : Protocol → Outline
  | t0 => .word "T0"
  | t1 => .word "T1"
  | raw => .word "Raw"

/-- Control information as a record of its three parts. -/
def Pci.outline (pci : Pci) : Outline :=
  .record "ProtocolHeader"
    [("protocol", pci.protocol.outline),
     ("pci_protocol", .number pci.code.toNat),
     ("pci_length", .number pci.length.toNat)]

/-- A driver's fault as a record of its code and its quoted description. -/
def DriverFault.outline (fault : DriverFault) : Outline :=
  .record "DriverError"
    [("code", .number fault.code.toNat),
     ("message", .quoted fault.message)]

namespace Error

/-- The cause and the values it carries. -/
def outline (e : Error) : Outline :=
  match e with
  | notOpen => .word e.kind
  | transmit pci fault => .record e.kind [("header", pci.outline), ("source", fault.outline)]
  | tooShort needed actual =>
      .record e.kind [("expected", .number needed), ("actual", .number actual)]
  | statusWord expected actual =>
      .record e.kind [("expected", .number expected.toNat), ("actual", .number actual.toNat)]
  | fileType code => .wrap e.kind (.number code.toNat)
  | communicationMode code => .wrap e.kind (.number code.toNat)
  | accessKey number => .wrap e.kind (.number number.toNat)
  | tooLong limit actual => .record e.kind [("max", .number limit), ("actual", .number actual)]
  | refused instruction status =>
      .record e.kind [("ins", .number instruction.toNat), ("status", .number status.toNat)]

end Error

end SmartCard
