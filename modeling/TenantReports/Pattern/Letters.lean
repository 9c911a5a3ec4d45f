import TenantReports.Text.Blank
import TenantReports.Text.Category
import TenantReports.Text.Fold

/-!
# Classes of characters in patterns

A `Letters` describes a set of characters; `Letters.mem` decides membership.
-/

namespace TenantReports.Pattern

/-- The characters of words: letters, marks, digits, letter-like numbers and symbols, connecting
punctuation, and the two joiners. -/
def isWordChar (c : Char) : Bool :=
  let category := Text.categoryOf c
  let n := c.toNat
  category.isLetter || category.isMark || category == .nd || category == .nl || category == .pc ||
    n == 0x200C || n == 0x200D || (0x24B6 ≤ n && n ≤ 0x24E9) || (0x1F130 ≤ n && n ≤ 0x1F149) ||
    (0x1F150 ≤ n && n ≤ 0x1F169) || (0x1F170 ≤ n && n ≤ 0x1F189)

/-- The characters of words among those of ASCII. -/
def isAsciiWordChar (c : Char) : Bool :=
  c.isAlphanum || c == '_'

/-- The characters that are the same letter as `c` up to case, itself included. -/
def letterCases (c : Char) : List Char :=
  let folded := Text.foldCase c
  let n : Int := folded.toNat
  c :: folded :: Text.foldRuns.filterMap fun run =>
    let m := (n - run.shift).toNat
    if run.covers m then some (Char.ofNat m) else none

/-- A set of characters. -/
inductive Letters
  | range (first last : Char)
  /-- The blank characters. -/
  | blank
  /-- The decimal digits of all scripts. -/
  | digit
  /-- The characters of words. -/
  | word
  /-- The characters whose general category is listed. -/
  | categories (list : List Text.Category)
  | union (a b : Letters)
  | intersection (a b : Letters)
  | difference (a b : Letters)
  | symmetricDifference (a b : Letters)
  | negate (a : Letters)
  /-- The characters that are the same letter as one of the set, up to case. -/
  | anyCase (a : Letters)
  deriving Repr, Inhabited

namespace Letters

/-- Whether a character is in a set. -/
def mem : Letters → Char → Bool
  | .range first last, c => first ≤ c && c ≤ last
  | .blank, c => Text.isBlank c
  | .digit, c => Text.categoryOf c == .nd
  | .word, c => isWordChar c
  | .categories list, c => list.contains (Text.categoryOf c)
  | .union a b, c => a.mem c || b.mem c
  | .intersection a b, c => a.mem c && b.mem c
  | .difference a b, c => a.mem c && !b.mem c
  | .symmetricDifference a b, c => a.mem c != b.mem c
  | .negate a, c => !a.mem c
  | .anyCase a, c => (letterCases c).any a.mem

/-- A single character. -/
def single (c : Char) : Letters :=
  .range c c

/-- No character. -/
def none : Letters :=
  .range 'b' 'a'

/-- All characters. -/
def all : Letters :=
  .negate none

/-- The characters of a list of ranges. -/
def ofRanges (ranges : List (Char × Char)) : Letters :=
  ranges.foldr (fun (first, last) rest => .union (.range first last) rest) none

/-- A class by the name that it has between `[:` and `:]`. -/
def named? (name : String) : Option Letters :=
  match name with
  | "alnum" => some (ofRanges [('0', '9'), ('A', 'Z'), ('a', 'z')])
  | "alpha" => some (ofRanges [('A', 'Z'), ('a', 'z')])
  | "ascii" => some (ofRanges [('\x00', '\x7f')])
  | "blank" => some (ofRanges [('\t', '\t'), (' ', ' ')])
  | "cntrl" => some (ofRanges [('\x00', '\x1f'), ('\x7f', '\x7f')])
  | "digit" => some (ofRanges [('0', '9')])
  | "graph" => some (ofRanges [('!', '~')])
  | "lower" => some (ofRanges [('a', 'z')])
  | "print" => some (ofRanges [(' ', '~')])
  | "punct" => some (ofRanges [('!', '/'), (':', '@'), ('[', '\x60'), ('\x7b', '~')])
  | "space" => some (ofRanges [('\t', '\r'), (' ', ' ')])
  | "upper" => some (ofRanges [('A', 'Z')])
  | "word" => some (ofRanges [('0', '9'), ('A', 'Z'), ('_', '_'), ('a', 'z')])
  | "xdigit" => some (ofRanges [('0', '9'), ('A', 'F'), ('a', 'f')])
  | _ => Option.none

/-- A class by the name of a property of Unicode, in small letters without blanks, hyphens and
underscores. -/
def property? (name : String) : Option Letters :=
  match name with
  | "any" => some all
  | "ascii" => some (.range '\x00' '\x7f')
  | "assigned" => some (.negate (.categories [.cn]))
  | "l" | "letter" => some (.categories [.lu, .ll, .lt, .lm, .lo])
  | "lc" | "casedletter" => some (.categories [.lu, .ll, .lt])
  | "lu" | "uppercaseletter" => some (.categories [.lu])
  | "ll" | "lowercaseletter" => some (.categories [.ll])
  | "lt" | "titlecaseletter" => some (.categories [.lt])
  | "lm" | "modifierletter" => some (.categories [.lm])
  | "lo" | "otherletter" => some (.categories [.lo])
  | "m" | "mark" | "combiningmark" => some (.categories [.mn, .mc, .me])
  | "mn" | "nonspacingmark" => some (.categories [.mn])
  | "mc" | "spacingmark" => some (.categories [.mc])
  | "me" | "enclosingmark" => some (.categories [.me])
  | "n" | "number" => some (.categories [.nd, .nl, .no])
  | "nd" | "decimalnumber" | "digit" => some (.categories [.nd])
  | "nl" | "letternumber" => some (.categories [.nl])
  | "no" | "othernumber" => some (.categories [.no])
  | "p" | "punctuation" | "punct" => some (.categories [.pc, .pd, .pe, .pf, .pi, .po, .ps])
  | "pc" | "connectorpunctuation" => some (.categories [.pc])
  | "pd" | "dashpunctuation" => some (.categories [.pd])
  | "pe" | "closepunctuation" => some (.categories [.pe])
  | "pf" | "finalpunctuation" => some (.categories [.pf])
  | "pi" | "initialpunctuation" => some (.categories [.pi])
  | "po" | "otherpunctuation" => some (.categories [.po])
  | "ps" | "openpunctuation" => some (.categories [.ps])
  | "s" | "symbol" => some (.categories [.sc, .sk, .sm, .so])
  | "sc" | "currencysymbol" => some (.categories [.sc])
  | "sk" | "modifiersymbol" => some (.categories [.sk])
  | "sm" | "mathsymbol" => some (.categories [.sm])
  | "so" | "othersymbol" => some (.categories [.so])
  | "z" | "separator" => some (.categories [.zl, .zp, .zs])
  | "zl" | "lineseparator" => some (.categories [.zl])
  | "zp" | "paragraphseparator" => some (.categories [.zp])
  | "zs" | "spaceseparator" => some (.categories [.zs])
  | "c" | "other" => some (.categories [.cc, .cf, .cn, .co, .cs])
  | "cc" | "control" | "cntrl" => some (.categories [.cc])
  | "cf" | "format" => some (.categories [.cf])
  | "cn" | "unassigned" => some (.categories [.cn])
  | "co" | "privateuse" => some (.categories [.co])
  | "whitespace" | "wspace" | "space" => some .blank
  | _ => Option.none

end Letters

end TenantReports.Pattern
