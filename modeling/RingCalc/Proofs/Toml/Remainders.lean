import RingCalc.Toml.Moment
import RingCalc.Toml.Number
import RingCalc.Toml.Text

/-!
# What readers leave

A reader takes characters from a text and leaves others in their order.  What it leaves is never
longer than the text, and has no more of any character.

This module shows it of the readers that either find what they look for or leave the text to others:
those of digits, numbers, dates and times.
-/

namespace RingCalc.Toml

variable {α β : Type} {text part rest : List Char}

/-- What is left of a text is part of it, if anything is found. -/
def Leaves (text : List Char) (found : Option (α × List Char)) : Prop :=
  ∀ value rest, found = some (value, rest) → rest.Sublist text

namespace Leaves

variable {result : Option (α × List Char)}

theorem nothing : Leaves text (none : Option (α × List Char)) := nofun

theorem found {value : α} (within : rest.Sublist text) : Leaves text (some (value, rest)) := by
  rintro _ _ ⟨⟩
  exact within

theorem within (leaves : Leaves part result) (smaller : part.Sublist text) :
    Leaves text result :=
  fun value rest same => (leaves value rest same).trans smaller

theorem bind {next : α × List Char → Option (β × List Char)} (leaves : Leaves text result)
    (goesOn : ∀ value rest, Leaves rest (next (value, rest))) : Leaves text (result.bind next) := by
  intro value rest same
  obtain ⟨⟨first, behind⟩, taken, same⟩ := Option.bind_eq_some_iff.mp same
  exact (goesOn first behind value rest same).trans (leaves first behind taken)

theorem map {change : α × List Char → β × List Char} (leaves : Leaves text result)
    (keeps : ∀ found, (change found).2 = found.2) : Leaves text (result.map change) := by
  intro value rest same
  obtain ⟨⟨first, behind⟩, taken, same⟩ := Option.map_eq_some_iff.mp same
  have kept := keeps (first, behind)
  rw [same] at kept
  cases kept
  exact leaves first rest taken

theorem getD (leaves : Leaves text result) (value : α) :
    (result.getD (value, text)).2.Sublist text := by
  cases result with
  | none => exact .refl text
  | some pair => exact leaves pair.1 pair.2 rfl

end Leaves

/-! ## Numbers -/

theorem sublist_takeDigits (isDigit : Char → Bool) (text : List Char) :
    (takeDigits isDigit text).2.Sublist text := by
  fun_induction takeDigits isDigit text with
  | case1 c rest digit digits after taken inductionHypothesis =>
    rw [taken] at inductionHypothesis
    exact (inductionHypothesis.cons c).cons '_'
  | case2 => exact .refl _
  | case3 c rest other digit digits after taken inductionHypothesis =>
    rw [taken] at inductionHypothesis
    exact inductionHypothesis.cons c
  | case4 => exact .refl _
  | case5 => exact .refl _

theorem leaves_digitRun? (isDigit : Char → Bool) (text : List Char) :
    Leaves text (digitRun? isDigit text) := by
  unfold digitRun?
  split
  · split
    · exact .found (sublist_takeDigits isDigit _)
    · exact .nothing
  · exact .nothing

theorem leaves_basedInteger? (text : List Char) : Leaves text (basedInteger? text) := by
  have based (first second : Char) (rest : List Char) (base : Nat) (isDigit : Char → Bool) :
      Leaves (first :: second :: rest) ((digitRun? isDigit rest).map fun found =>
        (digitsValue base found.1, found.2)) := by
    refine Leaves.within ?_ ((List.sublist_cons_self second rest).cons first)
    exact (leaves_digitRun? isDigit rest).map fun _ => rfl
  unfold basedInteger?
  split
  · exact based _ _ _ _ _
  · exact based _ _ _ _ _
  · exact based _ _ _ _ _
  · exact .nothing

theorem sublist_takeSign (text : List Char) : (takeSign text).2.Sublist text := by
  unfold takeSign
  split
  · exact List.sublist_cons_self _ _
  · exact List.sublist_cons_self _ _
  · exact .refl text

theorem leaves_wholeDigits? (text : List Char) : Leaves text (wholeDigits? text) := by
  unfold wholeDigits?
  split
  · exact .found (List.sublist_cons_self _ _)
  · exact leaves_digitRun? Char.isDigit text

theorem leaves_fractionDigits? (text : List Char) : Leaves text (fractionDigits? text) := by
  unfold fractionDigits?
  split
  · exact (leaves_digitRun? Char.isDigit _).within (List.sublist_cons_self _ _)
  · exact .nothing

theorem leaves_exponent? (text : List Char) : Leaves text (exponent? text) := by
  unfold exponent?
  split
  next c rest =>
    split
    · refine Leaves.within ?_ ((sublist_takeSign rest).cons c)
      exact (leaves_digitRun? Char.isDigit _).map fun _ => rfl
    · exact .nothing
  · exact .nothing

theorem leaves_decimalNumber? (text : List Char) : Leaves text (decimalNumber? text) := by
  unfold decimalNumber?
  refine Leaves.within (Leaves.bind (leaves_wholeDigits? (takeSign text).2) fun whole rest => ?_)
    (sublist_takeSign text)
  have fraction := (leaves_fractionDigits? rest).getD []
  have exponent := ((leaves_exponent? _).getD 0).trans fraction
  dsimp only
  split
  · exact .found exponent
  · split
    · exact .found exponent
    · exact .found exponent

theorem leaves_specialNumber? (text : List Char) : Leaves text (specialNumber? text) := by
  have sign := sublist_takeSign text
  unfold specialNumber?
  dsimp only
  split
  next same =>
    rw [same] at sign
    exact .found ((List.sublist_append_right ['i', 'n', 'f'] _).trans sign)
  next same =>
    rw [same] at sign
    exact .found ((List.sublist_append_right ['n', 'a', 'n'] _).trans sign)
  · exact .nothing

/-! ## Dates and times -/

theorem leaves_fixedNumber? (count : Nat) (text : List Char) :
    Leaves text (fixedNumber? count text) := by
  unfold fixedNumber?
  dsimp only
  split
  · exact .found (List.drop_sublist count text)
  · exact .nothing

theorem leaves_boundedPair? (least most : Nat) (text : List Char) :
    Leaves text (boundedPair? least most text) := by
  refine (leaves_fixedNumber? 2 text).bind fun number rest => ?_
  dsimp only
  split
  · exact .found (.refl rest)
  · exact .nothing

/-- What is read after a character leaves part of what it is read from. -/
theorem leaves_after? (c : Char) {next : List Char → Option (β × List Char)}
    (goesOn : ∀ rest, Leaves rest (next rest)) : Leaves text ((after? c text).bind next) := by
  cases text with
  | nil => exact .nothing
  | cons first rest =>
    rw [after?]
    split
    · exact (goesOn rest).within (List.sublist_cons_self first rest)
    · exact .nothing

theorem leaves_date? (text : List Char) : Leaves text (date? text) := by
  refine (leaves_fixedNumber? 4 text).bind fun year rest => ?_
  refine leaves_after? '-' fun rest => (leaves_boundedPair? 1 12 rest).bind fun month rest => ?_
  refine leaves_after? '-' fun rest => (leaves_boundedPair? 1 31 rest).bind fun day rest => ?_
  exact .found (.refl rest)

theorem sublist_microseconds (text : List Char) : (microseconds text).2.Sublist text := by
  unfold microseconds
  split
  next rest =>
    dsimp only
    split
    · exact .refl _
    · exact (List.dropWhile_sublist Char.isDigit).cons '.'
  · exact .refl text

theorem leaves_time? (text : List Char) : Leaves text (time? text) := by
  refine (leaves_boundedPair? 0 23 text).bind fun hour rest => ?_
  refine leaves_after? ':' fun rest => (leaves_boundedPair? 0 59 rest).bind fun minute rest => ?_
  refine leaves_after? ':' fun rest => (leaves_boundedPair? 0 59 rest).bind fun second rest => ?_
  exact .found (sublist_microseconds rest)

theorem leaves_offset? (text : List Char) : Leaves text (offset? text) := by
  unfold offset?
  split
  · exact .found (List.sublist_cons_self _ _)
  · exact .found (List.sublist_cons_self _ _)
  next sign rest _ _ =>
    dsimp only
    by_cases unsigned : sign ≠ '+' ∧ sign ≠ '-'
    · rw [if_pos unsigned]
      exact .nothing
    · rw [if_neg unsigned]
      refine Leaves.within (Leaves.bind (leaves_boundedPair? 0 23 rest) fun hours rest => ?_)
        (List.sublist_cons_self sign rest)
      refine leaves_after? ':' fun rest =>
        (leaves_boundedPair? 0 59 rest).bind fun minutes rest => ?_
      exact .found (.refl rest)
  · exact .nothing

theorem sublist_timeAfterDate? {time : Time} {offset : Option Int}
    (found : timeAfterDate? text = some (time, offset, rest)) : rest.Sublist text := by
  unfold timeAfterDate? at found
  split at found
  next separator behind =>
    split at found
    · cases found
    · obtain ⟨⟨taken, after⟩, read, found⟩ := Option.bind_eq_some_iff.mp found
      have left := leaves_time? behind taken after read
      dsimp only at found
      split at found
      next read =>
        cases found
        exact ((leaves_offset? after _ _ read).trans left).cons separator
      · cases found
        exact left.cons separator
  · cases found

theorem leaves_moment? (text : List Char) : Leaves text (moment? text) := by
  unfold moment?
  split
  next date behind read =>
    have left := leaves_date? text date behind read
    cases after : timeAfterDate? behind with
    | none => exact .found left
    | some result =>
      obtain ⟨time, offset, rest⟩ := result
      exact .found ((sublist_timeAfterDate? after).trans left)
  · exact (leaves_time? text).map fun _ => rfl

end RingCalc.Toml
