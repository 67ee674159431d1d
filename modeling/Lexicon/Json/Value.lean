import Lexicon.Json.Scalar

/-! JSON documents. -/
namespace Lexicon.Json

inductive Value where
  | null
  | bool (value : Bool)
  | number (value : Number)
  | string (value : String)
  | array (items : List Value)
  | object (members : List (String × Value))
  deriving Repr

/-- The value as something that was found where it does not belong. -/
def Value.found : Value → String
  | null => "null"
  | bool value => "boolean `" ++ toString value ++ "`"
  | number value => value.found
  | string value => "string " ++ quoted value
  | array _ => "sequence"
  | object _ => "map"

/-- How deep brackets and braces may nest. -/
def depthLimit : Nat := 128

namespace Tape

/-- A reader of one item. -/
abbrev Reader (α : Type) := Tape → Except Error (α × Tape)

/-- The colon after a key. -/
def colon (t : Tape) : Except Error Tape :=
  let t := t.skipSpace
  match t.rest with
  | [] => t.fail .endInObject
  | ':' :: _ => .ok t.next
  | _ => t.failAhead .expectedColon

/-- Moves to the next item of a list; none if the list ends here. The tape then stands at the closing
bracket. -/
def nextItem (first : Bool) (t : Tape) : Except Error (Bool × Tape) :=
  let t := t.skipSpace
  match t.rest with
  | [] => t.fail .endInList
  | ']' :: _ => .ok (false, t)
  | x :: _ =>
    if first then .ok (true, t)
    else if x = ',' then
      let t := t.next.skipSpace
      match t.rest with
      | [] => t.fail .endInValue
      | ']' :: _ => t.failAhead .trailingComma
      | _ => .ok (true, t)
    else t.failAhead .expectedListCommaOrEnd

/-- Moves to the next key of an object; none if the object ends here. The tape then stands at the
closing brace. -/
def nextKey (first : Bool) (t : Tape) : Except Error (Option String × Tape) :=
  let key (t : Tape) := t.string.map fun (name, t') => (some name, t')
  let t := t.skipSpace
  match t.rest with
  | [] => t.fail .endInObject
  | '\x7d' :: _ => .ok (none, t)
  | x :: _ =>
    if first then (if x = '"' then key t else t.failAhead .keyMustBeString)
    else if x = ',' then
      let t := t.next.skipSpace
      match t.rest with
      | [] => t.fail .endInValue
      | '"' :: _ => key t
      | '\x7d' :: _ => t.failAhead .trailingComma
      | _ => t.failAhead .keyMustBeString
    else t.failAhead .expectedObjectCommaOrEnd

/-- The items of a list up to its closing bracket, which is passed over. -/
def items {α : Type} (item : Reader α) (first : Bool) : (steps : Nat) → Reader (List α)
  | 0, t => t.fail .endInList
  | steps + 1, t =>
    match t.nextItem first with
    | .error e => .error e
    | .ok (false, t1) => .ok ([], t1.next)
    | .ok (true, t1) =>
      match item t1 with
      | .error e => .error e
      | .ok (x, t2) =>
        match items item false steps t2 with
        | .error e => .error e
        | .ok (xs, t3) => .ok (x :: xs, t3)

/-- The members of an object up to its closing brace, which is passed over. -/
def members {α : Type} (value : Reader α) (first : Bool) : (steps : Nat) → Reader (List (String × α))
  | 0, t => t.fail .endInObject
  | steps + 1, t =>
    match t.nextKey first with
    | .error e => .error e
    | .ok (none, t1) => .ok ([], t1.next)
    | .ok (some name, t1) =>
      match t1.colon with
      | .error e => .error e
      | .ok t2 =>
        match value t2 with
        | .error e => .error e
        | .ok (x, t3) =>
          match members value false steps t3 with
          | .error e => .error e
          | .ok (xs, t4) => .ok ((name, x) :: xs, t4)

/-- A value that holds no other value; the tape stands at its first character. -/
def scalar (t : Tape) : Except Error (Value × Tape) :=
  match t.rest with
  | [] => t.fail .endInValue
  | 'n' :: _ => (word ['u', 'l', 'l'] t.next).map (.null, ·)
  | 't' :: _ => (word ['r', 'u', 'e'] t.next).map (.bool true, ·)
  | 'f' :: _ => (word ['a', 'l', 's', 'e'] t.next).map (.bool false, ·)
  | '"' :: _ => t.string.map fun (text, t') => (.string text, t')
  | '-' :: _ => (t.next.number true).map fun (n, t') => (.number n, t')
  | x :: _ =>
    if x.isDigit then (t.number false).map fun (n, t') => (.number n, t')
    else t.failAhead .expectedValue

/-- A value in which fewer than `depth` brackets and braces may be open at once. -/
def value : (depth : Nat) → Reader Value
  | 0, t => t.skipSpace.failAhead .recursionLimit
  | depth + 1, t =>
    let t := t.skipSpace
    match t.rest with
    | '[' :: _ =>
      if depth = 0 then t.failAhead .recursionLimit
      else (items (value depth) true (t.rest.length + 1) t.next).map fun (xs, t') => (.array xs, t')
    | '\x7b' :: _ =>
      if depth = 0 then t.failAhead .recursionLimit
      else (members (value depth) true (t.rest.length + 1) t.next).map fun (xs, t') => (.object xs, t')
    | _ => t.scalar

/-- Blanks up to the end of the text. -/
def finish (t : Tape) : Except Error Unit :=
  let t := t.skipSpace
  if t.rest.isEmpty then .ok () else t.failAhead .trailingCharacters

/-- What is found where something else is expected. Brackets and braces are not read any further. -/
def mismatch {α : Type} (expected : String) (t : Tape) : Except Error α :=
  match t.rest with
  | '[' :: _ => t.fail (.invalidType "sequence" expected)
  | '\x7b' :: _ => t.fail (.invalidType "map" expected)
  | _ =>
    match t.scalar with
    | .error e => .error e
    | .ok (v, t') => t'.fail (.invalidType v.found expected)

end Tape

/-- Reads a whole text as one document. -/
def Value.ofText (text : List Char) : Except Error Value :=
  match Tape.value depthLimit (.start text) with
  | .error e => .error e
  | .ok (v, t) => t.finish.map fun _ => v

/-- A string in a document: quotes, backslashes and control characters are escaped. -/
def writeChar (c : Char) : List Char :=
  if c = '"' then ['\\', '"']
  else if c = '\\' then ['\\', '\\']
  else if c = '\x08' then ['\\', 'b']
  else if c = '\x0c' then ['\\', 'f']
  else if c = '\n' then ['\\', 'n']
  else if c = '\r' then ['\\', 'r']
  else if c = '\t' then ['\\', 't']
  else if c.toNat < 0x20 then
    ['\\', 'u', '0', '0', Nat.digitChar (c.toNat / 16), Nat.digitChar (c.toNat % 16)]
  else [c]

def writeString (text : String) : String :=
  String.ofList ('"' :: text.toList.flatMap writeChar ++ ['"'])

end Lexicon.Json
