/-!
# Finding one text in another

`splitAt? pattern s` cuts `s` around the first place where `pattern` stands in it; `contains` asks
whether there is such a place, `replaceFirst` puts another text there.

* `splitAt?_eq_append`: nothing is lost by the cut.
-/

namespace TenantReports.Text

/-- What stands before and after the first occurrence of `pattern`. -/
def splitAt? (pattern : List Char) : List Char → Option (List Char × List Char)
  | [] => if pattern.isEmpty then some ([], []) else none
  | c :: rest =>
    match pattern.isPrefixOf? (c :: rest) with
    | some after => some ([], after)
    | none => (splitAt? pattern rest).map fun (before, after) => (c :: before, after)

/-- Whether `pattern` stands somewhere in the text. -/
def contains (pattern s : List Char) : Bool :=
  (splitAt? pattern s).isSome

/-- `contains` on strings. -/
def hasPart (pattern s : String) : Bool :=
  contains pattern.toList s.toList

/-- The text with the first occurrence of `pattern` replaced. -/
def replaceFirst (pattern replacement s : List Char) : List Char :=
  match splitAt? pattern s with
  | some (before, after) => before ++ replacement ++ after
  | none => s

theorem isPrefixOf?_eq_append {pattern s after : List Char}
    (starts : pattern.isPrefixOf? s = some after) : s = pattern ++ after := by
  induction pattern generalizing s with
  | nil =>
    have whole : ([] : List Char).isPrefixOf? s = some s := rfl
    rw [whole, Option.some.injEq] at starts
    exact starts
  | cons p ps ih =>
    cases s with
    | nil => cases starts
    | cons c cs =>
      have step : (p :: ps).isPrefixOf? (c :: cs) =
          if p == c then ps.isPrefixOf? cs else none := rfl
      rw [step] at starts
      by_cases same : p == c
      · rw [if_pos same] at starts
        rw [← eq_of_beq same, ih starts, List.cons_append]
      · rw [if_neg same] at starts
        cases starts

theorem splitAt?_eq_append {pattern s before after : List Char}
    (h : splitAt? pattern s = some (before, after)) : s = before ++ pattern ++ after := by
  induction s generalizing before after with
  | nil =>
    simp only [splitAt?] at h
    split at h <;> simp_all
  | cons c rest ih =>
    simp only [splitAt?] at h
    split at h
    · rename_i tail htail
      simp only [Option.some.injEq, Prod.mk.injEq] at h
      obtain ⟨rfl, rfl⟩ := h
      simpa using isPrefixOf?_eq_append htail
    · simp only [Option.map_eq_some_iff, Prod.mk.injEq, Prod.exists] at h
      obtain ⟨b, a, hba, rfl, rfl⟩ := h
      simp [ih hba]

end TenantReports.Text
