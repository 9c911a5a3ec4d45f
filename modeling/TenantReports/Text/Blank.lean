/-!
# Blank characters

The characters Unicode gives the property White_Space, and what is cut by them: `trim` takes a
text's blanks off at both ends, `words` takes it apart at every run of them.
-/

namespace TenantReports.Text

/-- The property White_Space of Unicode. -/
def isBlank (c : Char) : Bool :=
  let n := c.toNat
  (9 ≤ n && n ≤ 13) || n == 0x20 || n == 0x85 || n == 0xA0 || n == 0x1680 ||
    (0x2000 ≤ n && n ≤ 0x200A) || n == 0x2028 || n == 0x2029 || n == 0x202F || n == 0x205F ||
    n == 0x3000

/-- The text without the blanks it starts with. -/
def trimStart (s : List Char) : List Char :=
  s.dropWhile isBlank

/-- The text without the blanks it ends with. -/
def trimEnd (s : List Char) : List Char :=
  (s.reverse.dropWhile isBlank).reverse

/-- The text without the blanks at either end. -/
def trim (s : List Char) : List Char :=
  trimEnd (trimStart s)

/-- `trim` on strings. -/
def trimmed (s : String) : String :=
  String.ofList (trim s.toList)

/-- The pieces between the characters that satisfy `cut`; there is one more piece than there are
such characters. -/
def splitWhen (cut : Char → Bool) : List Char → List (List Char)
  | [] => [[]]
  | c :: rest =>
    match splitWhen cut rest with
    | [] => [[c]]
    | piece :: pieces => if cut c then [] :: piece :: pieces else (c :: piece) :: pieces

/-- The non-empty pieces between blanks. -/
def words (s : List Char) : List (List Char) :=
  (splitWhen isBlank s).filter (fun piece => !piece.isEmpty)

theorem splitWhen_ne_nil (cut : Char → Bool) (s : List Char) : splitWhen cut s ≠ [] := by
  cases s with
  | nil => simp [splitWhen]
  | cons c rest =>
    simp only [splitWhen]
    split
    · simp
    · split <;> simp

end TenantReports.Text
