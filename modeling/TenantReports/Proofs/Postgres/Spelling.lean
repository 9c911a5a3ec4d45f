import TenantReports.Proofs.Postgres.Lexemes
import TenantReports.Proofs.Text.Spelling

/-!
# The casts of a statement that is spelt

**The reader of a statement does not care how characters beyond ASCII are written.** It takes each
of them as it is, in code, in a literal and in a comment, and all that it adds is of ASCII.

* `castFrom_cons_far`: what a character beyond ASCII leads to.
* `ascii_castOf`: what is added.
* `castFrom_flatMap`: a statement that is spelt gets its casts where the statement gets them.
-/

namespace TenantReports.Postgres

open Text (IsSpelling ascii_of_isAlphanum)

variable {inferred : List String}

/-! ### Characters beyond ASCII -/

section Beyond

variable {c : Char} (far : 0x80 ≤ c.toNat)
include far

theorem ne_of_far {sign : Char} (ascii : sign.toNat < 0x80) : c ≠ sign := by
  rintro rfl
  exact absurd ascii (Nat.not_lt.mpr far)

theorem isAlphanum_of_far : c.isAlphanum = false := by
  by_contra alphanum
  exact absurd (ascii_of_isAlphanum (by simpa using alphanum)) (Nat.not_lt.mpr far)

theorem isDigit_of_far : c.isDigit = false :=
  (Bool.or_eq_false_iff.mp (isAlphanum_of_far far)).2

theorem continuesName_of_far : continuesName c = false := by
  have score : (c == '_') = false := beq_eq_false_iff_ne.mpr (ne_of_far far (by decide))
  rw [continuesName, isAlphanum_of_far far, score]
  rfl

/-- It has no meaning in code. -/
theorem placeAfter_of_far (previous : Option Char) : placeAfter previous c = .code (some c) :=
  placeAfter_plain
    ⟨ne_of_far far (by decide), ne_of_far far (by decide), ne_of_far far (by decide)⟩
    (fun both => ne_of_far far (by decide) both.2) (fun both => ne_of_far far (by decide) both.2)

/-- It gives none to what follows. -/
theorem castFrom_after_far (s : List Char) :
    castFrom inferred (.code (some c)) s = castFrom inferred (.code none) s := by
  have other : ∀ sign : Char, sign.toNat < 0x80 → (some c == some sign) = false := by
    intro sign ascii
    exact beq_eq_false_iff_ne.mpr fun same => ne_of_far far ascii (Option.some.inj same)
  cases s with
  | nil => rfl
  | cons next s =>
    have same : placeAfter (some c) next = placeAfter none next := by
      unfold placeAfter
      rw [other '-' (by decide), other '/' (by decide), Option.any_some,
        continuesName_of_far far]
      rfl
    simp only [castFrom, castStep, same]

end Beyond

/-- Where a character beyond ASCII leads. -/
def Place.beyond : Place → Place
  | .code _ | .dollar _ | .placeholder _ => .code none
  | .blockComment _ => .blockComment false
  | place => place

/-- What is added before a character beyond ASCII. -/
def Place.before (inferred : List String) : Place → List Char
  | .placeholder reversed => castAfter inferred reversed.reverse
  | _ => []

/-- The reader goes over a character beyond ASCII. -/
theorem castFrom_cons_far {c : Char} (far : 0x80 ≤ c.toNat) (place : Place) (s : List Char) :
    castFrom inferred place (c :: s) =
      place.before inferred ++ c :: castFrom inferred place.beyond s := by
  have other : ∀ sign : Char, sign.toNat < 0x80 → (c == sign) = false := by
    intro sign ascii
    exact beq_eq_false_iff_ne.mpr (ne_of_far far ascii)
  cases place with
  | code previous =>
    simp only [castFrom, castStep, placeAfter_of_far far, castFrom_after_far far]
    rfl
  | dollar named =>
    simp only [castFrom, castStep, isDigit_of_far far, Bool.false_and, Bool.false_eq_true,
      if_false, placeAfter_of_far far, castFrom_after_far far]
    rfl
  | placeholder reversed =>
    simp only [castFrom, castStep, isDigit_of_far far, Bool.false_eq_true, if_false,
      placeAfter_of_far far, castFrom_after_far far]
    rfl
  | literal =>
    simp only [castFrom, castStep, other '\'' (by decide), Bool.false_eq_true, if_false]
    rfl
  | quotedName =>
    simp only [castFrom, castStep, other '"' (by decide), Bool.false_eq_true, if_false]
    rfl
  | lineComment =>
    simp only [castFrom, castStep, other '\n' (by decide), Bool.false_eq_true, if_false]
    rfl
  | blockComment star =>
    simp only [castFrom, castStep, other '/' (by decide), other '*' (by decide), Bool.false_and,
      Bool.false_eq_true, if_false]
    rfl

/-- So it goes over any number of them. -/
theorem castFrom_append_far {os : List Char} (nonempty : os ≠ []) (far : ∀ o ∈ os, 0x80 ≤ o.toNat)
    (place : Place) (s : List Char) :
    castFrom inferred place (os ++ s) =
      place.before inferred ++ os ++ castFrom inferred place.beyond s := by
  induction os generalizing place with
  | nil => exact absurd rfl nonempty
  | cons o os ih =>
    obtain ⟨first, others⟩ := List.forall_mem_cons.mp far
    have again : place.beyond.beyond = place.beyond ∧ place.beyond.before inferred = [] := by
      cases place <;> exact ⟨rfl, rfl⟩
    rw [List.cons_append, castFrom_cons_far first]
    cases os with
    | nil => rw [List.nil_append, List.append_assoc, List.singleton_append]
    | cons next os =>
      rw [ih (List.cons_ne_nil _ _) others, again.1, again.2, List.nil_append, List.append_assoc,
        ← List.cons_append]

/-! ### Casts are of ASCII -/

theorem ascii_toLower {c : Char} (ascii : c.toNat < 0x80) : c.toLower.toNat < 0x80 := by
  have all : ∀ n : Fin 128, (Char.ofNat n.val).toLower.toNat < 0x80 := by decide +kernel
  have one := all ⟨c.toNat, ascii⟩
  rwa [Char.ofNat_toNat] at one

theorem ascii_of_isTypeNameChar {c : Char} (named : isTypeNameChar c = true) :
    c.toNat < 0x80 := by
  simp only [isTypeNameChar, Bool.or_eq_true, beq_iff_eq] at named
  rcases named with ((alphanum | rfl) | rfl) | rfl
  · exact ascii_of_isAlphanum alphanum
  · decide
  · decide
  · decide

theorem ascii_castTarget {typeName : String} (needs : needsCast typeName = true) :
    ∀ c ∈ (castTarget typeName).toList, c.toNat < 0x80 := by
  unfold castTarget
  split
  case isTrue =>
    have text : ("bpchar[]".toList.all fun c => c.toNat < 0x80) = true := by decide
    exact fun c member => of_decide_eq_true (List.all_eq_true.mp text c member)
  case isFalse =>
    intro c member
    rw [String.toList_ofList] at member
    obtain ⟨letter, own, rfl⟩ := List.mem_map.mp member
    have plain := (Bool.and_eq_true_iff.mp needs).2
    exact ascii_toLower (ascii_of_isTypeNameChar (List.all_eq_true.mp plain letter own))

/-- **Every cast is of ASCII**, whatever the types are called. -/
theorem ascii_castOf (number : Nat) : ∀ c ∈ (castOf inferred number).toList, c.toNat < 0x80 := by
  intro c member
  cases number with
  | zero => cases member
  | succ number =>
    simp only [castOf] at member
    cases found : inferred[number]? with
    | none =>
      simp only [found] at member
      cases member
    | some typeName =>
      simp only [found] at member
      split at member
      case isTrue needs =>
        rw [String.toList_append] at member
        rcases List.mem_append.mp member with colon | target
        · have colons : ("::".toList.all fun c => c.toNat < 0x80) = true := by decide
          exact of_decide_eq_true (List.all_eq_true.mp colons c colon)
        · exact ascii_castTarget needs c target
      case isFalse => cases member

theorem ascii_castAfter (ds : List Char) : ∀ c ∈ castAfter inferred ds, c.toNat < 0x80 := by
  rw [castAfter_eq_castOf]
  exact ascii_castOf _

/-! ### The reader of a spelling -/

theorem castFrom_cons (place : Place) (c : Char) (s : List Char) :
    castFrom inferred place (c :: s) =
      (castStep inferred place c).1 ++ c :: castFrom inferred (castStep inferred place c).2 s := by
  cases place <;> rfl

/-- **A text that is spelt gets its casts where the text gets them.** -/
theorem castFrom_flatMap {spell : Char → List Char} (spelling : IsSpelling spell) (place : Place)
    (s : List Char) :
    castFrom inferred place (s.flatMap spell) = (castFrom inferred place s).flatMap spell := by
  induction s generalizing place with
  | nil =>
    cases place with
    | placeholder reversed => exact (spelling.flatMap_ascii (ascii_castAfter _)).symm
    | _ => rfl
  | cons c s ih =>
    by_cases ascii : c.toNat < 0x80
    · have added : ∀ o ∈ (castStep inferred place c).1, o.toNat < 0x80 := by
        rw [castStep_eq]
        exact ascii_castOf _
      rw [List.flatMap_cons, spelling.ascii ascii, List.singleton_append, castFrom_cons,
        castFrom_cons, ih, List.flatMap_append, spelling.flatMap_ascii added, List.flatMap_cons,
        spelling.ascii ascii, List.singleton_append]
    · have far : 0x80 ≤ c.toNat := Nat.not_lt.mp ascii
      have added : ∀ o ∈ place.before inferred, o.toNat < 0x80 := by
        cases place with
        | placeholder reversed => exact ascii_castAfter _
        | _ =>
          intro o member
          cases member
      rw [List.flatMap_cons, castFrom_append_far (spelling.nonempty c) (spelling.beyond far), ih,
        castFrom_cons_far far, List.flatMap_append, spelling.flatMap_ascii added,
        List.flatMap_cons, List.append_assoc]

end TenantReports.Postgres
