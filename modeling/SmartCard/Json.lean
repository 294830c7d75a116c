/-
JSON values and their text.

An object keeps its members in the order in which they were written, since that
order is visible in its text, and it may have several members of one name.  Who looks
for a member by its name finds it only if it is the only one of that name.

Numbers are kept apart by how they are written: an integer is a number without a
fraction and without an exponent, and no other number counts as one even if its value
is whole.

The text is compact: no blanks outside of strings.  In a string the quote, the
backslash and the characters below blank are escaped, those of them that have a
letter of their own by that letter.
-/
import SmartCard.Bytes

namespace SmartCard

/-- A JSON value. -/
inductive Json
  | null
  | bool (value : Bool)
  /-- A number written as an integer. -/
  | int (value : Int)
  /-- A number written with a fraction or an exponent: `mantissa * 10 ^ -exponent`. -/
  | decimal (mantissa : Int) (exponent : Nat)
  | str (text : String)
  | arr (elements : List Json)
  | obj (members : List (String × Json))
deriving Inhabited, Repr

namespace Json

/-- A natural number as an integer. -/
def nat (n : Nat) : Json :=
  int (Int.ofNat n)

/-- An object whose members are named fields, in the order of the names. -/
def record (names : List String) (values : List Json) : Json :=
  obj (names.zip values)

/-! ### Text -/

/-- How a character is written in a string. -/
def escape (c : Char) : List Char :=
  match c with
  | '"' => ['\\', '"']
  | '\\' => ['\\', '\\']
  | '\x08' => ['\\', 'b']
  | '\x0c' => ['\\', 'f']
  | '\n' => ['\\', 'n']
  | '\r' => ['\\', 'r']
  | '\t' => ['\\', 't']
  | c => if c.toNat < 32 then ['\\', 'u'] ++ Hex.padded 4 c.toNat else [c]

/-- The text of a string. -/
def quoted (text : String) : String :=
  String.ofList (['"'] ++ text.toList.flatMap escape ++ ['"'])

mutual

/-- The text of a value. -/
def render : Json → String
  | null => "null"
  | bool value => if value then "true" else "false"
  | int value => toString value
  | decimal mantissa exponent => toString mantissa ++ "e-" ++ toString exponent
  | str text => quoted text
  | arr elements => "[" ++ ",".intercalate (renderElements elements) ++ "]"
  | obj members => "\x7b" ++ ",".intercalate (renderMembers members) ++ "\x7d"

/-- The texts of the elements of an array. -/
def renderElements : List Json → List String
  | [] => []
  | element :: rest => render element :: renderElements rest

/-- The texts of the members of an object. -/
def renderMembers : List (String × Json) → List String
  | [] => []
  | (name, value) :: rest => (quoted name ++ ":" ++ render value) :: renderMembers rest

end

/-! ### Views

What a reader of a value looks for.  Each view answers `none` if the value has not
the shape asked for.
-/

/-- A truth value. -/
def bool? : Json → Option Bool
  | bool value => some value
  | _ => none

/-- An integer from zero up to, but not including, a limit. -/
def natBelow? (limit : Nat) : Json → Option Nat
  | int value => if 0 ≤ value ∧ value < limit then some value.toNat else none
  | _ => none

/-- An integer that is a byte. -/
def u8? (json : Json) : Option UInt8 :=
  (json.natBelow? UInt8.size).map UInt8.ofNat

/-- An integer of four bytes. -/
def u32? (json : Json) : Option UInt32 :=
  (json.natBelow? UInt32.size).map UInt32.ofNat

/-- The elements of an array. -/
def elements? : Json → Option (List Json)
  | arr elements => some elements
  | _ => none

/-- The value of the member of a name.  Two members of that name are as bad as none. -/
def member? (name : String) (members : List (String × Json)) : Option Json :=
  match members.filter (·.1 == name) with
  | [(_, value)] => some value
  | _ => none

/-- The values of named fields: from an object by name, each of them once and whatever
else is in it, and from an array by position, with nothing else in it. -/
def fields? (names : List String) : Json → Option (List Json)
  | obj members => names.mapM fun name => member? name members
  | arr elements => if elements.length = names.length then some elements else none
  | _ => none

/-- The name of an alternative that carries nothing: a string, or an object whose only
member has that name and is null. -/
def alternative? : Json → Option String
  | str name => some name
  | obj [(name, null)] => some name
  | _ => none

/-- The name and the content of an alternative: the only member of an object. -/
def tagged? : Json → Option (String × Json)
  | obj [member] => some member
  | _ => none

end Json

end SmartCard
