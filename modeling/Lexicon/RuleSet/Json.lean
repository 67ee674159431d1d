import Lexicon.Json.Value
import Lexicon.RuleSet.Basic

/-! Rule files. A rule file is a JSON array of objects with one member each, `token` or `skip`, whose value
is an object with a kind and a pattern. The rules are read straight off the text, so that the first
fault of any sort is the one reported. -/
namespace Lexicon

namespace Json.Tape

/-- What is left of a list after a fault in it: the fault is placed behind blanks and the end of the list,
or behind a comma and more blanks. -/
def afterItem (t : Tape) : Tape :=
  let t := t.skipSpace
  match t.rest with
  | ']' :: _ => t.next
  | ',' :: _ => t.next.skipSpace
  | _ => t

/-- What is left of an object after a fault in it: the fault is placed behind blanks and the end of the
object. -/
def afterMember (t : Tape) : Tape :=
  let t := t.skipSpace
  match t.rest with
  | '\x7d' :: _ => t.next
  | _ => t

/-- A string where nothing else will do. -/
def expectString (t : Tape) : Except Error (String × Tape) :=
  let t := t.skipSpace
  match t.rest with
  | [] => t.fail .endInValue
  | '"' :: _ => t.string
  | _ => t.mismatch "a string"

end Json.Tape

namespace RuleSet
open Json

/-- The two sorts of rules. -/
inductive Variant where
  | token
  | skip
  deriving DecidableEq, Repr

def Variant.ofName? : String → Option Variant
  | "token" => some token
  | "skip" => some skip
  | _ => none

def Variant.expected : Variant → String
  | token => "struct variant Rule::Token"
  | skip => "struct variant Rule::Skip"

/-- Sets an optional string: a string, or null for none. A second setting is a fault. -/
def setOnce (name : String) (old : Option (Option String)) : Json.Value → Except Cause (Option String)
  | v =>
    if old.isSome then .error (.duplicateField name)
    else match v with
      | .null => .ok none
      | .string s => .ok (some s)
      | v => .error (.invalidType v.found "a string")

/-- The pattern among the members of a rule. Other members mean nothing. -/
def patternOf (regex literal : Option (Option String)) :
    List (String × Json.Value) → Except Cause PatternSpec
  | [] => .ok ⟨regex.join, literal.join⟩
  | (name, v) :: rest =>
    if name = "regex" then
      match setOnce name regex v with
      | .error e => .error e
      | .ok r => patternOf (some r) literal rest
    else if name = "literal" then
      match setOnce name literal v with
      | .error e => .error e
      | .ok l => patternOf regex (some l) rest
    else patternOf regex literal rest

/-- How many brackets and braces may be open at once inside a member of a rule: three are open around
it. -/
def memberDepth : Nat := depthLimit - 3

/-- The members of a rule up to the closing brace, at which the tape then stands: the kind, if the rule
has one, and the other members. -/
def fields (variant : Variant) (first : Bool) (kind : Option String) :
    (steps : Nat) → Tape → Except Error ((Option String × List (String × Json.Value)) × Tape)
  | 0, t => t.fail .endInObject
  | steps + 1, t =>
    match t.nextKey first with
    | .error e => .error e
    | .ok (none, t1) => .ok ((kind, []), t1)
    | .ok (some name, t1) =>
      if variant = .token ∧ name = "kind" then
        if kind.isSome then t1.afterMember.fail (.duplicateField name)
        else match t1.colon with
          | .error e => .error e
          | .ok t2 =>
            match t2.expectString with
            | .error e => .error e
            | .ok (text, t3) => fields variant false (some text) steps t3
      else match t1.colon with
        | .error e => .error e
        | .ok t2 =>
          match Tape.value memberDepth t2 with
          | .error e => .error e
          | .ok (v, t3) =>
            match fields variant false kind steps t3 with
            | .error e => .error e
            | .ok ((kind, others), t4) => .ok ((kind, (name, v) :: others), t4)

/-- The rule that the members make. -/
def assemble (variant : Variant) (kind : Option String) (others : List (String × Json.Value)) :
    Except Cause Rule :=
  match variant, kind with
  | .token, none => .error (.missingField "kind")
  | .token, some kind => (patternOf none none others).map (.token kind)
  | .skip, _ => (patternOf none none others).map .skip

/-- The value of a rule's only member. -/
def body (variant : Variant) (t : Tape) : Except Error (Rule × Tape) :=
  let t := t.skipSpace
  match t.rest with
  | [] => t.fail .endInValue
  | '\x7b' :: _ =>
    match fields variant true none (t.rest.length + 1) t.next with
    | .error e => .error e
    | .ok ((kind, others), t1) =>
      match assemble variant kind others with
      | .error cause => t1.next.fail cause
      | .ok rule => .ok (rule, t1.next)
  | _ => t.mismatch variant.expected

/-- The name of a rule's sort; the tape stands at its opening quote. -/
def variantName (t : Tape) : Except Error (Variant × Tape) :=
  match t.string with
  | .error e => .error e
  | .ok (name, t') =>
    match Variant.ofName? name with
    | none => t'.fail (.unknownVariant name)
    | some variant => .ok (variant, t')

/-- One rule. A name alone lacks its value. -/
def rule (t : Tape) : Except Error (Rule × Tape) :=
  match t.rest with
  | '"' :: _ =>
    match variantName t with
    | .error e => .error e
    | .ok (_, t') => t'.afterItem.fail (.invalidType "unit variant" "newtype variant")
  | '\x7b' :: _ =>
    let t1 := t.next.skipSpace
    match t1.rest with
    | [] => t1.fail .endInObject
    | '"' :: _ =>
      match variantName t1 with
      | .error e => .error e
      | .ok (variant, t2) =>
        match t2.colon with
        | .error e => .error e
        | .ok t3 =>
          match body variant t3 with
          | .error e => .error e
          | .ok (r, t4) =>
            let t5 := t4.skipSpace
            match t5.rest with
            | [] => t5.fail .endInObject
            | '\x7d' :: _ => .ok (r, t5.next)
            | _ => t5.fail .expectedValue
    | '\x7d' :: _ => t1.failAhead .expectedValue
    | _ => t1.failAhead .keyMustBeString
  | _ => t.failAhead .expectedValue

/-- Reads a rule file. -/
def ofJson (text : String) : Except Error RuleSet :=
  let t := (Tape.start text.toList).skipSpace
  match t.rest with
  | [] => t.fail .endInValue
  | '[' :: _ =>
    match t.next.items rule true (t.rest.length + 1) with
    | .error e => .error e
    | .ok (rules, t1) => t1.finish.map fun _ => ⟨rules⟩
  | _ => t.mismatch "a sequence"

/-- The members of a pattern that are set, each after a comma if `comma`. -/
def writePattern (comma : Bool) (p : PatternSpec) : String :=
  let member (name : String) (value : String) := writeString name ++ ":" ++ writeString value
  let members := (p.regex.map (member "regex")).toList ++ (p.literal.map (member "literal")).toList
  (if comma && !members.isEmpty then "," else "") ++ ",".intercalate members

def writeRule : Rule → String
  | .token kind pattern =>
    "\x7b\"token\":\x7b\"kind\":" ++ writeString kind ++ writePattern true pattern ++ "\x7d\x7d"
  | .skip pattern => "\x7b\"skip\":\x7b" ++ writePattern false pattern ++ "\x7d\x7d"

/-- Writes a rule file without blanks; members that are not set are left out. -/
def toJson (rs : RuleSet) : String :=
  "[" ++ ",".intercalate (rs.rules.map writeRule) ++ "]"

end RuleSet
end Lexicon
