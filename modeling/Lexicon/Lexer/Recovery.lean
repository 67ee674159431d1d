import Lexicon.Lexer.Basic

/-! Ways to recover where no definition matches. -/
namespace Lexicon.Recovery

/-- The action for a call, counted from zero. The last action is repeated; without actions the scan
fails. -/
def scripted (actions : List Recovery) (call : Nat) : Recovery :=
  match actions[call]? with
  | some action => action
  | none => actions.getLast?.getD .fail

/-- Passes over what is before the first character of a set; if there is none, the scan fails. -/
def upTo (set remaining : List Char) : Recovery :=
  match remaining.findIdx? set.contains with
  | some count => .skip count
  | none => .fail

end Lexicon.Recovery
