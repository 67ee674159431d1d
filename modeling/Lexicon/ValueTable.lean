import Lexicon.Text.Outline
import Lexicon.Text.Span

/-! The values of tokens and where they stand in the source, found by the numbers of the tokens. -/
namespace Lexicon

/-- The number of a token. The first token has number one. -/
structure TokenId where
  number : Nat
  positive : 0 < number
  small : number < 0x100000000
  deriving DecidableEq

namespace TokenId

def ofNat? (number : Nat) : Option TokenId :=
  if h : 0 < number ∧ number < 0x100000000 then some ⟨number, h.1, h.2⟩ else none

theorem eq_of_number {a b : TokenId} (same : a.number = b.number) : a = b := by
  cases a
  cases b
  simpa using same

theorem ofNat?_number (id : TokenId) : ofNat? id.number = some id := dif_pos ⟨id.positive, id.small⟩

def text (id : TokenId) : String := "#" ++ toString id.number

def outline (id : TokenId) : Outline := .tuple "TokenId" [.ofNat id.number]

end TokenId

/-- What is stored for a token: text, a computed value, or another token that it refers to. -/
inductive Value (ν : Type) where
  | text (text : String)
  | literal (value : ν)
  | ref (target : TokenId)
  deriving DecidableEq

namespace Value

def outline {ν : Type} (literalOutline : ν → Outline) : Value ν → Outline
  | text s => .tuple "Text" [.ofText s]
  | literal v => .tuple "Literal" [literalOutline v]
  | ref target => .tuple "TokenRef" [target.outline]

end Value

/-- A token's value, and its stretch of the source in characters and in bytes. -/
structure Entry (ν : Type) where
  value : Value ν
  range : Span
  bytes : Span
  deriving DecidableEq

def Entry.outline {ν : Type} (literalOutline : ν → Outline) (e : Entry ν) : Outline :=
  .record "Entry" [
    .field "value" (e.value.outline literalOutline), .field "start" (.ofNat e.range.start),
    .field "end" (.ofNat e.range.stop), .field "bytes" (.atom e.bytes.text)]

/-- The entries of the tokens so far, in order. Entries are only ever added. -/
structure ValueTable (ν : Type) where
  entries : Array (Entry ν)

namespace ValueTable
variable {ν : Type}

def empty : ValueTable ν := ⟨#[]⟩

def size (t : ValueTable ν) : Nat := t.entries.size

def isEmpty (t : ValueTable ν) : Bool := t.entries.isEmpty

/-- The number that the next token gets, while there are numbers left. -/
def nextId? (t : ValueTable ν) : Option TokenId := TokenId.ofNat? (t.size + 1)

def lastId? (t : ValueTable ν) : Option TokenId := TokenId.ofNat? t.size

def contains (t : ValueTable ν) (id : TokenId) : Bool := id.number ≤ t.size

def entry? (t : ValueTable ν) (id : TokenId) : Option (Entry ν) := t.entries[id.number - 1]?

def value? (t : ValueTable ν) (id : TokenId) : Option (Value ν) := (t.entry? id).map (·.value)

def range? (t : ValueTable ν) (id : TokenId) : Option Span := (t.entry? id).map (·.range)

def start? (t : ValueTable ν) (id : TokenId) : Option Nat := (t.range? id).map (·.start)

def stop? (t : ValueTable ν) (id : TokenId) : Option Nat := (t.range? id).map (·.stop)

def bytes? (t : ValueTable ν) (id : TokenId) : Option Span := (t.entry? id).map (·.bytes)

/-- Why an entry is refused. -/
inductive Refusal where
  | reversed (range bytes : Span)
  | full
  deriving DecidableEq, Repr

def Refusal.message : Refusal → String
  | reversed range bytes => "invalid token range " ++ range.text ++ " (bytes " ++ bytes.text ++ ")"
  | full => "the table is full"

/-- Adds an entry, whose stretches must not be reversed, and gives its number. -/
def append (t : ValueTable ν) (value : Value ν) (range bytes : Span) :
    Except Refusal (TokenId × ValueTable ν) :=
  if range.start ≤ range.stop ∧ bytes.start ≤ bytes.stop then
    match t.nextId? with
    | none => .error .full
    | some id => .ok (id, ⟨t.entries.push ⟨value, range, bytes⟩⟩)
  else .error (.reversed range bytes)

/-- A new entry comes last, and its number is how many entries there are then. -/
theorem append_ok {t t' : ValueTable ν} {value : Value ν} {range bytes : Span} {id : TokenId}
    (stored : t.append value range bytes = .ok (id, t')) :
    id.number = t.size + 1 ∧ t' = ⟨t.entries.push ⟨value, range, bytes⟩⟩ := by
  unfold append nextId? TokenId.ofNat? at stored
  split at stored
  · split at stored
    · simp at stored
    · next found =>
      split at found
      · simp only [Option.some.injEq] at found
        simp only [Except.ok.injEq, Prod.mk.injEq] at stored
        exact ⟨by rw [← stored.1, ← found], stored.2.symm⟩
      · simp at found
  · simp at stored

/-- Follows references to earlier tokens up to a value that is none. A reference that does not go to an
earlier token leads nowhere. -/
def resolve (t : ValueTable ν) (id : TokenId) : Option (Value ν) :=
  match t.value? id with
  | some (.ref target) => if target.number < id.number then t.resolve target else none
  | other => other
termination_by id.number

/-- All tokens with their values and ranges, in order. -/
def toList (t : ValueTable ν) : List (TokenId × Value ν × Span) :=
  t.entries.toList.zipIdx.filterMap fun (e, i) =>
    (TokenId.ofNat? (i + 1)).map fun id => (id, e.value, e.range)

def outline (literalOutline : ν → Outline) (t : ValueTable ν) : Outline :=
  .record "ValueTable" [
    .field "entries" (.list (t.entries.toList.map (Entry.outline literalOutline)))]

end ValueTable
end Lexicon
