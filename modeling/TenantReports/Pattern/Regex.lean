import TenantReports.Pattern.Letters

/-!
# Regular expressions

`Regex.ends` gives the places at which a match can end that starts at one of a set of places;
`Regex.isMatch` asks whether an expression matches somewhere in a text. Which of several matches is
meant is of no concern here.
-/

namespace TenantReports.Pattern

/-- What a place in a text may have to satisfy. -/
inductive Anchor
  | textStart
  | textEnd
  | lineStart
  | lineEnd
  /-- The start of a line, where a carriage return and a line feed end a line alone or together. -/
  | lineStartCr
  | lineEndCr
  | boundary (ascii : Bool)
  | notBoundary (ascii : Bool)
  | wordStart (ascii : Bool)
  | wordEnd (ascii : Bool)
  | wordStartHalf (ascii : Bool)
  | wordEndHalf (ascii : Bool)
  deriving DecidableEq, Repr

/-- A regular expression. -/
inductive Regex
  | empty
  | letter (set : Letters)
  | anchor (kind : Anchor)
  | concat (a b : Regex)
  | either (a b : Regex)
  /-- At least `least` and at most `most` matches one after another. -/
  | times (a : Regex) (least : Nat) (most : Option Nat)
  deriving Repr, Inhabited

/-- Whether the character before a place is one of a word. -/
def wordBefore (ascii : Bool) (text : Array Char) (i : Nat) : Bool :=
  match i with
  | 0 => false
  | j + 1 => text[j]?.any (if ascii then isAsciiWordChar else isWordChar)

/-- Whether the character after a place is one of a word. -/
def wordAfter (ascii : Bool) (text : Array Char) (i : Nat) : Bool :=
  text[i]?.any (if ascii then isAsciiWordChar else isWordChar)

/-- The character before a place. -/
def charBefore? (text : Array Char) : Nat → Option Char
  | 0 => none
  | j + 1 => text[j]?

/-- Whether a place satisfies an anchor. -/
def Anchor.holds (anchor : Anchor) (text : Array Char) (i : Nat) : Bool :=
  let before := charBefore? text i
  let after := text[i]?
  match anchor with
  | .textStart => i == 0
  | .textEnd => i == text.size
  | .lineStart => i == 0 || before == some '\n'
  | .lineEnd => i == text.size || after == some '\n'
  | .lineStartCr => i == 0 || before == some '\n' || (before == some '\r' && after != some '\n')
  | .lineEndCr =>
    i == text.size || after == some '\r' || (after == some '\n' && before != some '\r')
  | .boundary ascii => wordBefore ascii text i != wordAfter ascii text i
  | .notBoundary ascii => wordBefore ascii text i == wordAfter ascii text i
  | .wordStart ascii => !wordBefore ascii text i && wordAfter ascii text i
  | .wordEnd ascii => wordBefore ascii text i && !wordAfter ascii text i
  | .wordStartHalf ascii => !wordBefore ascii text i
  | .wordEndHalf ascii => !wordAfter ascii text i

/-- Two sets of places in one. -/
def merge (a b : List Nat) : List Nat :=
  a ++ b.filter fun i => !a.contains i

/-- Applies a step to a set of places until `fuel` runs out or no place is left. -/
def exactly (step : List Nat → List Nat) : Nat → List Nat → List Nat
  | 0, places => places
  | n + 1, places => if places.isEmpty then [] else exactly step n (step places)

/-- All places that at most `fuel` steps lead to. -/
def atMost (step : List Nat → List Nat) : Nat → List Nat → List Nat → List Nat
  | 0, _, seen => seen
  | n + 1, fresh, seen =>
    let next := (step fresh).filter fun i => !seen.contains i
    if next.isEmpty then seen else atMost step n next (seen ++ next)

/-- The places at which a match can end that starts at one of the given places. -/
def Regex.ends (text : Array Char) : Regex → List Nat → List Nat
  | .empty, places => places
  | .letter set, places =>
    places.filterMap fun i => if text[i]?.any set.mem then some (i + 1) else none
  | .anchor kind, places => places.filter fun i => kind.holds text i
  | .concat a b, places => b.ends text (a.ends text places)
  | .either a b, places => merge (a.ends text places) (b.ends text places)
  | .times a least most, places =>
    let start := exactly (a.ends text) least places
    let more := match most with
      | some n => min (n - least) (text.size + 1)
      | none => text.size + 1
    atMost (a.ends text) more start start

/-- Whether an expression matches somewhere in a text. -/
def Regex.isMatch (regex : Regex) (s : String) : Bool :=
  let text := s.toList.toArray
  !(regex.ends text (List.range (text.size + 1))).isEmpty

/-- The room a set takes, in units of a single range. -/
def Letters.size : Letters → Nat
  | .range _ _ => 1
  | .blank => 10
  | .digit => 100
  | .word => 1500
  | .categories list => list.length * 300
  | .union a b | .intersection a b | .difference a b | .symmetricDifference a b => a.size + b.size
  | .negate a | .anyCase a => a.size

/-- The room an expression takes when its repetitions are written out. -/
def Regex.size : Regex → Nat
  | .empty => 0
  | .letter set => set.size
  | .anchor _ => 1
  | .concat a b | .either a b => a.size + b.size + 1
  | .times a least most => (a.size + 1) * max 1 (most.getD (least + 1))

end TenantReports.Pattern
