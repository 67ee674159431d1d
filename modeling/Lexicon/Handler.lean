import Lexicon.Decimal.Integer
import Lexicon.Registry

/-! Handlers for tokens whose values are texts, integers and references. -/
namespace Lexicon

namespace Failure

def ofMessage (message : String) : Failure := ⟨message, []⟩

/-- The messages of a failure and its causes, separated by angle brackets. -/
def ofChain (chain : String) : Failure :=
  match chain.splitOn ">" with
  | [] => ofMessage chain
  | message :: causes => ⟨message, causes⟩

def ofInteger (fault : Decimal.IntegerFault) : Failure := ofMessage fault.message

end Failure

namespace Handler
variable {σ : Type}

/-- A handler that gives every token one kind, and finds the value without the shared state. -/
def ofValue (kind : String) (value : String → ValueTable Int → Except Failure (Value Int)) :
    Handler σ String Int :=
  fun text table s => ((value text table).map (kind, ·), s)

/-- Stores the text. -/
def stored (kind : String) : Handler σ String Int := ofValue kind fun text _ => .ok (.text text)

/-- Stores the same text for every token. -/
def constant (kind content : String) : Handler σ String Int :=
  ofValue kind fun _ _ => .ok (.text content)

/-- The text without the characters of a set at its ends. -/
def trim (set text : List Char) : List Char :=
  ((text.dropWhile set.contains).reverse.dropWhile set.contains).reverse

def trimmed (kind set : String) : Handler σ String Int :=
  ofValue kind fun text _ => .ok (.text (String.ofList (trim set.toList text.toList)))

/-- Takes the text, in capitals, as the kind. -/
def upperKind : Handler σ String Int := fun text _ s => (.ok (text.map Char.toUpper, .text text), s)

/-- Reads an integer of 64 bits, in which underscores mean nothing. -/
def integer (kind : String) : Handler σ String Int :=
  ofValue kind fun text _ =>
    match Decimal.readInt 0x8000000000000000 (text.toList.filter (· ≠ '_')) with
    | .error fault => .error (.ofInteger fault)
    | .ok n => .ok (.literal n)

/-- Counts the characters of the text. -/
def characterCount (kind : String) : Handler σ String Int :=
  ofValue kind fun text _ => .ok (.literal text.length)

/-- Counts the tokens so far. -/
def tokenCount (kind : String) : Handler σ String Int :=
  ofValue kind fun _ table => .ok (.literal table.size)

/-- Refers to the token before. -/
def previous (kind : String) : Handler σ String Int :=
  ofValue kind fun _ table =>
    match table.lastId? with
    | none => .error (.ofMessage "nothing to refer to")
    | some id => .ok (.ref id)

/-- Refers to the token itself. -/
def itself (kind : String) : Handler σ String Int :=
  ofValue kind fun _ table =>
    match table.nextId? with
    | none => .error (.ofMessage "no further number")
    | some id => .ok (.ref id)

/-- Refers to the token whose number is written in the text. -/
def numbered (kind : String) : Handler σ String Int :=
  ofValue kind fun text _ =>
    match Decimal.readNat 0xFFFFFFFF (text.toList.filter Char.isDigit) with
    | .error fault => .error (.ofInteger fault)
    | .ok n =>
      match TokenId.ofNat? n with
      | none => .error (.ofMessage "zero is not an id")
      | some id => .ok (.ref id)

/-- Refers to the first token with the same text, if there is one, and stores the text otherwise. -/
def interned (kind : String) : Handler σ String Int :=
  ofValue kind fun text table =>
    match table.toList.find? fun (_, value, _) => value = .text text with
    | none => .ok (.text text)
    | some (id, _) => .ok (.ref id)

/-- Stores once more what the token before stands for. -/
def copied (kind : String) : Handler σ String Int :=
  ofValue kind fun _ table =>
    match table.lastId?.bind table.resolve with
    | none => .error (.ofMessage "nothing to copy")
    | some value => .ok value

/-- Fails. -/
def failing (failure : Failure) : Handler σ String Int := fun _ _ s => (.error failure, s)

/-- Fails with the text. -/
def failingWithText : Handler σ String Int := fun text _ s => (.error (.ofMessage text), s)

/-- Fails in the first calls and stores the text in later ones. The calls are counted from zero by `tick` in
the shared state. -/
def failingAtFirst (tick : σ → Nat × σ) (kind : String) (calls : Nat) : Handler σ String Int :=
  fun text _ s =>
    match tick s with
    | (call, s') =>
      if call < calls then (.error (.ofMessage ("call " ++ toString call)), s')
      else (.ok (kind, .text text), s')

end Handler
end Lexicon
