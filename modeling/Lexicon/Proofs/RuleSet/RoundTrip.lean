import Lexicon.Proofs.Json.Lists
import Lexicon.RuleSet.Json

/-! Rule files round-trip: what is written is read back as the same rules, whatever their strings are and whichever
members of their patterns are set. -/
namespace Lexicon
open Json Json.Tape

theorem Json.Tape.expectString_read (text : String) : Reads expectString (writeString text).toList text := by
  intro t more stands
  obtain ⟨t', read, rest⟩ := string_read text t more stands
  rw [writeString_toList, List.cons_append] at stands
  exact ⟨t', by simp [expectString, skipSpace_of stands rfl, stands, read], rest⟩

namespace RuleSet

/-- The members of a pattern that are set. -/
def patternMembers (p : PatternSpec) : List (String × String) :=
  (p.regex.map ("regex", ·)).toList ++ (p.literal.map ("literal", ·)).toList

theorem patternMembers_names {p : PatternSpec} {member : String × String} (inside : member ∈ patternMembers p) :
    member.1 ≠ "kind" := by
  obtain ⟨_ | regex, _ | literal⟩ := p <;> simp [patternMembers] at inside
  · simp [inside]
  · simp [inside]
  · rcases inside with rfl | rfl <;> simp

/-- A written member of an object: a name and a string. -/
def writeMember (member : String × String) : String := writeString member.1 ++ ":" ++ writeString member.2

theorem writeMember_toList (member : String × String) :
    (writeMember member).toList = (writeString member.1).toList ++ ':' :: (writeString member.2).toList := by
  simp [writeMember]

/-- Written members, a comma before each but the first. -/
def writeMembers (first : Bool) (members : List (String × String)) : List Char :=
  separated (fun member => (writeMember member).toList) first members

theorem writeMembers_cons (first : Bool) (member : String × String) (members : List (String × String))
    (more : List Char) : writeMembers first (member :: members) ++ more =
      (comma first ++ (writeString member.1).toList) ++
        ':' :: ((writeString member.2).toList ++ (writeMembers false members ++ more)) := by
  simp [writeMembers, separated, writeMember_toList]

theorem length_le_writeMembers (first : Bool) (members : List (String × String)) :
    members.length ≤ (writeMembers first members).length :=
  length_le_separated (fun member => by simp [writeMember_toList]) first members

theorem writePattern_toList (comma : Bool) (p : PatternSpec) :
    (writePattern comma p).toList = writeMembers (!comma) (patternMembers p) := by
  obtain ⟨_ | regex, _ | literal⟩ := p <;> cases comma <;>
    simp [writePattern, patternMembers, writeMembers, writeMember, separated, Json.comma]

/-- The members of a rule, as values. -/
def values (members : List (String × String)) : List (String × Json.Value) :=
  members.map fun member => (member.1, .string member.2)

/-- A pattern is put together from its members. -/
theorem patternOf_members (p : PatternSpec) : patternOf none none (values (patternMembers p)) = .ok p := by
  obtain ⟨_ | regex, _ | literal⟩ := p <;> rfl

/-- Members other than a token's kind are kept. -/
theorem fields_others (variant : Variant) {members : List (String × String)}
    (others : variant = .token → ∀ member ∈ members, member.1 ≠ "kind") (kind : Option String) {first : Bool}
    {steps : Nat} (enough : members.length < steps) {t : Tape} {more : List Char}
    (stands : t.rest = writeMembers first members ++ '\x7d' :: more) :
    ∃ t', fields variant first kind steps t = .ok ((kind, values members), t') ∧ t'.rest = '\x7d' :: more := by
  induction members generalizing first steps t with
  | nil =>
    obtain ⟨steps, rfl⟩ := Nat.exists_eq_add_one.mpr enough
    exact ⟨t, by simp only [fields, nextKey_end stands]; rfl, stands⟩
  | cons member members ih =>
    obtain ⟨steps, rfl⟩ := Nat.exists_eq_add_one.mpr (Nat.zero_lt_of_lt enough)
    have fewer : members.length < steps := Nat.lt_of_succ_lt_succ enough
    have notKind : ¬(variant = .token ∧ member.1 = "kind") := fun both =>
      others both.1 member List.mem_cons_self both.2
    rw [writeMembers_cons] at stands
    obtain ⟨t1, name, atColon⟩ := nextKey_read first member.1 t _ stands
    obtain ⟨t3, text, between⟩ := value_read (memberDepth - 1) member.2 t1.next _ (next_rest atColon)
    obtain ⟨t4, rest, behind⟩ := ih (fun token other inside => others token other (List.mem_cons_of_mem _ inside))
      fewer between
    refine ⟨t4, ?_, behind⟩
    -- brackets may still be opened at this depth, so a value can be read
    have depth : memberDepth - 1 + 1 = memberDepth := rfl
    rw [depth] at text
    simp only [fields, name, notKind, if_false, colon_of atColon, text, rest]
    rfl

/-- A token's kind is its first member. -/
theorem fields_kind (kind : String) {members : List (String × String)}
    (others : ∀ member ∈ members, member.1 ≠ "kind") {steps : Nat} (enough : members.length + 1 < steps) {t : Tape}
    {more : List Char}
    (stands : t.rest = writeMembers true (("kind", kind) :: members) ++ '\x7d' :: more) :
    ∃ t', fields .token true none steps t = .ok ((some kind, values members), t') ∧ t'.rest = '\x7d' :: more := by
  obtain ⟨steps, rfl⟩ := Nat.exists_eq_add_one.mpr (Nat.zero_lt_of_lt enough)
  rw [writeMembers_cons] at stands
  obtain ⟨t1, name, atColon⟩ := nextKey_read true "kind" t _ stands
  obtain ⟨t3, text, between⟩ := expectString_read kind t1.next _ (next_rest atColon)
  have fewer : members.length < steps := Nat.lt_of_succ_lt_succ enough
  obtain ⟨t4, rest, behind⟩ := fields_others .token (fun _ => others) (some kind) fewer between
  refine ⟨t4, ?_, behind⟩
  simp [fields, name, colon_of atColon, text, rest]

/-- The sort of a rule. -/
def Variant.ofRule : Rule → Variant
  | .token .. => token
  | .skip .. => skip

def Variant.name : Variant → String
  | token => "token"
  | skip => "skip"

theorem Variant.ofName?_name (variant : Variant) : ofName? variant.name = some variant := by
  cases variant <;> rfl

/-- The members of a written rule. -/
def ruleMembers : Rule → List (String × String)
  | .token kind pattern => ("kind", kind) :: patternMembers pattern
  | .skip pattern => patternMembers pattern

theorem writeRule_toList (r : Rule) : (writeRule r).toList =
    '\x7b' :: ((writeString (Variant.ofRule r).name).toList ++
      ':' :: '\x7b' :: (writeMembers true (ruleMembers r) ++ ['\x7d', '\x7d'])) := by
  have closed : "\x7d\x7d".toList = ['\x7d', '\x7d'] := rfl
  -- unfolded first, since `simp` takes long to find the equations of `writeRule`
  cases r with
  | token kind pattern =>
    have opened : "\x7b\"token\":\x7b\"kind\":".toList =
        '\x7b' :: ((writeString "token").toList ++ ':' :: '\x7b' :: ((writeString "kind").toList ++ [':'])) := rfl
    unfold writeRule
    simp only [String.toList_append, opened, closed, writePattern_toList, ruleMembers, writeMembers_cons,
      Variant.ofRule, Variant.name, comma]
    simp
  | skip pattern =>
    have opened : "\x7b\"skip\":\x7b".toList = '\x7b' :: ((writeString "skip").toList ++ [':', '\x7b']) := rfl
    unfold writeRule
    simp only [String.toList_append, opened, closed, writePattern_toList, ruleMembers, Variant.ofRule, Variant.name]
    simp

/-- The members of a rule make the rule. -/
theorem fields_assemble (r : Rule) {steps : Nat} (enough : (ruleMembers r).length < steps) {t : Tape}
    {more : List Char} (stands : t.rest = writeMembers true (ruleMembers r) ++ '\x7d' :: more) :
    ∃ kind others t', fields (Variant.ofRule r) true none steps t = .ok ((kind, others), t') ∧
      assemble (Variant.ofRule r) kind others = .ok r ∧ t'.rest = '\x7d' :: more := by
  cases r with
  | token kind pattern =>
    obtain ⟨t', read, rest⟩ := fields_kind kind (fun _ inside => patternMembers_names inside) enough stands
    refine ⟨some kind, _, t', read, ?_, rest⟩
    simp only [Variant.ofRule, assemble, patternOf_members, Except.map]
  | skip pattern =>
    obtain ⟨t', read, rest⟩ := fields_others .skip (fun _ _ inside => patternMembers_names inside) none enough stands
    refine ⟨none, _, t', read, ?_, rest⟩
    simp only [Variant.ofRule, assemble, patternOf_members, Except.map]

theorem body_read (r : Rule) :
    Reads (body (Variant.ofRule r)) ('\x7b' :: (writeMembers true (ruleMembers r) ++ ['\x7d'])) r := by
  intro t more stands
  rw [List.cons_append, List.append_assoc, List.singleton_append] at stands
  have enough := steps_enough stands (length_le_writeMembers true (ruleMembers r))
  obtain ⟨kind, others, t1, read, made, closing⟩ := fields_assemble r enough (next_rest stands)
  refine ⟨t1.next, ?_, next_rest closing⟩
  rw [stands] at read
  simp only [body, skipSpace_of stands rfl, stands, read, made]

theorem variantName_read (variant : Variant) : Reads variantName (writeString variant.name).toList variant := by
  intro t more stands
  obtain ⟨t', read, rest⟩ := string_read variant.name t more stands
  exact ⟨t', by simp only [variantName, read, variant.ofName?_name], rest⟩

theorem rule_read (r : Rule) : Reads rule (writeRule r).toList r := by
  intro t more stands
  simp only [writeRule_toList, List.cons_append, List.append_assoc, List.nil_append] at stands
  have inner := next_rest stands
  obtain ⟨t2, name, atColon⟩ := variantName_read (Variant.ofRule r) t.next _ inner
  have value := next_rest atColon
  -- of the two braces at the end, the value takes one and leaves the other to the rule
  obtain ⟨t4, read, closing⟩ := body_read r t2.next ('\x7d' :: more) (by simpa using value)
  refine ⟨t4.next, ?_, next_rest closing⟩
  rw [writeString_toList, List.cons_append] at inner
  unfold rule
  simp only [stands, skipSpace_of inner rfl, inner, name, colon_of atColon, read, skipSpace_of closing rfl, closing]

theorem writeRule_opens (r : Rule) : Opens (writeRule r).toList := by
  rw [writeRule_toList]
  exact ⟨_, _, rfl, rfl, by decide⟩

theorem toJson_toList (rs : RuleSet) :
    rs.toJson.toList = '[' :: (separated (fun r => (writeRule r).toList) true rs.rules ++ [']']) := by
  rw [toJson, String.toList_append, String.toList_append, intercalate_toList]
  rfl

theorem ofJson_toJson (rs : RuleSet) : ofJson rs.toJson = .ok rs := by
  have stands : (Tape.start rs.toJson.toList).rest = _ := toJson_toList rs
  have enough := steps_enough stands (length_le_separated (fun r => (writeRule_opens r).ne_nil) true rs.rules)
  obtain ⟨t, rules, rest⟩ := items_read writeRule_opens rule_read rs.rules enough
    (Tape.start rs.toJson.toList).next [] (by rw [next_rest stands, List.append_nil])
  rw [stands] at rules
  simp only [ofJson, skipSpace_of stands rfl, stands, rules, finish_of rest, Except.map]

/-- Rules that are written are read back as they were. So the rules of any text that can be read are the same when
they are written and read again; from a text that cannot be read there is nothing to write. -/
theorem rules_round_trip :
    (∀ rs : RuleSet, ofJson rs.toJson = .ok rs) ∧
      ∀ text : String, ((ofJson text).bind fun rs => ofJson rs.toJson) = ofJson text := by
  refine ⟨ofJson_toJson, fun text => ?_⟩
  cases ofJson text with
  | error e => rfl
  | ok rs => exact ofJson_toJson rs

end RuleSet
end Lexicon
