/-!
# Terminal styling

Text for a terminal may hold sequences that choose colours or move the cursor: an escape character,
an opening bracket, digits with semicolons and question marks, and a letter.  Plain text has none.
-/

namespace RingCalc.Text

/-- Whether a character may stand between the bracket and the letter of a sequence. -/
def isStylingParameter (c : Char) : Bool := c.isDigit || c == ';' || c == '?'

/-- What follows a styling sequence, of which the escape character has been read. -/
def afterStyling? (text : List Char) : Option (List Char) :=
  match text with
  | '[' :: inner =>
    match inner.dropWhile isStylingParameter with
    | letter :: after => if letter.isAlpha then some after else none
    | [] => none
  | _ => none

theorem length_of_afterStyling? {text after : List Char}
    (found : afterStyling? text = some after) : after.length < text.length := by
  unfold afterStyling? at found
  split at found
  · rename_i inner
    have bound := (List.dropWhile_sublist isStylingParameter (l := inner)).length_le
    split at found
    · rename_i letter rest parameters
      rw [parameters, List.length_cons] at bound
      split at found <;> cases found
      exact Nat.lt_succ_of_lt (Nat.lt_of_succ_le bound)
    · cases found
  · cases found

def dropStyling (text : List Char) : List Char :=
  match text with
  | [] => []
  | c :: rest =>
    if c = '\x1b' then
      match _found : afterStyling? rest with
      | some after => dropStyling after
      | none => c :: dropStyling rest
    else c :: dropStyling rest
termination_by text.length
decreasing_by
  · exact Nat.lt_succ_of_lt (length_of_afterStyling? _found)
  · exact Nat.lt_succ_self _
  · exact Nat.lt_succ_self _

theorem dropStyling_append {front : List Char} (plain : '\x1b' ∉ front) (text : List Char) :
    dropStyling (front ++ text) = front ++ dropStyling text := by
  induction front with
  | nil => rfl
  | cons c rest inductionHypothesis =>
    rw [List.mem_cons, not_or] at plain
    rw [List.cons_append, dropStyling, if_neg (Ne.symm plain.1), inductionHypothesis plain.2]
    rfl

theorem dropStyling_eq_self {text : List Char} (plain : '\x1b' ∉ text) :
    dropStyling text = text := by
  have nothing : dropStyling [] = [] := by rw [dropStyling]
  have dropped := dropStyling_append plain []
  rwa [List.append_nil, nothing, List.append_nil] at dropped

end RingCalc.Text
