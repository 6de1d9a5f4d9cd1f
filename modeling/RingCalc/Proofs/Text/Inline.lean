import RingCalc.Text.Quoted

/-!
# Inline texts

An inline text has no control characters: it stays on one line, and nothing in it steers a terminal.
Numbers are written inline, and so is every text that is quoted.
-/

namespace RingCalc.Text

/-- Characters that stand on one line as they are: none of them is a control character. -/
def Inline (text : List Char) : Prop := ∀ c ∈ text, 0x20 ≤ c.toNat

instance (text : List Char) : Decidable (Inline text) :=
  List.decidableBAll (fun c : Char => 0x20 ≤ c.toNat) text

namespace Inline

variable {text left right : List Char}

theorem append (leftInline : Inline left) (rightInline : Inline right) : Inline (left ++ right) :=
  List.forall_mem_append.mpr ⟨leftInline, rightInline⟩

theorem not_mem {c : Char} (inline : Inline text) (control : c.toNat < 0x20) : c ∉ text :=
  fun member => Nat.not_le_of_lt control (inline c member)

theorem flatMap {β : Type} {items : List β} {shown : β → List Char}
    (inline : ∀ item ∈ items, Inline (shown item)) : Inline (items.flatMap shown) := by
  intro c member
  obtain ⟨item, itemMember, inside⟩ := List.mem_flatMap.mp member
  exact inline item itemMember c inside

end Inline

theorem forall_mem_intercalate {property : Char → Prop} {separator : List Char}
    {texts : List (List Char)} (between : ∀ c ∈ separator, property c)
    (inside : ∀ text ∈ texts, ∀ c ∈ text, property c) :
    ∀ c ∈ separator.intercalate texts, property c := by
  induction texts with
  | nil => exact nofun
  | cons text rest inductionHypothesis =>
    obtain ⟨first, others⟩ := List.forall_mem_cons.mp inside
    cases rest with
    | nil => simpa using first
    | cons next rest =>
      rw [List.intercalate_cons_cons, List.forall_mem_append, List.forall_mem_append]
      exact ⟨⟨first, between⟩, inductionHypothesis others⟩

theorem inline_singleton {c : Char} (shown : 0x20 ≤ c.toNat) : Inline [c] :=
  List.forall_mem_singleton.mpr shown

theorem inline_replicate {c : Char} (shown : 0x20 ≤ c.toNat) (count : Nat) :
    Inline (List.replicate count c) := by
  intro d member
  rwa [List.eq_of_mem_replicate member]

theorem inline_digitChar (digit : Nat) : Inline [digit.digitChar] := by
  by_cases small : digit < 16
  · have all : ∀ digit < 16, Inline [Nat.digitChar digit] := by decide
    exact all digit small
  · rw [Nat.digitChar_eq_star.mpr (Nat.not_lt.mp small)]
    decide

theorem inline_toDigits {base : Nat} (large : 1 < base) (number : Nat) :
    Inline (Nat.toDigits base number) := by
  induction number using Nat.strongRecOn with
  | _ number inductionHypothesis =>
    rw [Nat.toDigits_eq_if large]
    split
    · exact inline_digitChar number
    · have smaller : number / base < number := Nat.div_lt_self (by omega) large
      exact (inductionHypothesis _ smaller).append (inline_digitChar _)

theorem inline_int (value : Int) : Inline (toString value).toList := by
  rw [Int.toString_eq_repr, Int.repr_eq_if]
  split
  · rw [Nat.toList_repr]
    exact inline_toDigits (by decide) _
  · rw [String.toList_append, Nat.toList_repr]
    exact Inline.append (by decide) (inline_toDigits (by decide) _)

/-! ## Quoted texts -/

theorem le_toNat_of_isPrintable {c : Char} (printable : isPrintable c = true) :
    0x20 ≤ c.toNat := by
  -- The control characters are the first range of those that are not printable.
  have first : (0x0, 0x1f) ∈ unprintableRanges := List.mem_cons_self
  rw [isPrintable, Bool.not_eq_true', List.any_eq_false] at printable
  have outside := printable _ first
  simp only [Nat.zero_le, decide_true, Bool.true_and, decide_eq_true_eq] at outside
  omega

theorem inline_hexDigits (width number : Nat) : Inline (hexDigits width number) :=
  (inline_replicate (by decide) _).append (inline_toDigits (by decide) number)

theorem inline_escapedPoint (c : Char) : Inline (escapedPoint c) := by
  simp only [escapedPoint]
  split
  · exact Inline.append (by decide) (inline_hexDigits 2 _)
  · split
    · exact Inline.append (by decide) (inline_hexDigits 4 _)
    · exact Inline.append (by decide) (inline_hexDigits 8 _)

theorem inline_quotedChar {quote : Char} (shown : 0x20 ≤ quote.toNat) (c : Char) :
    Inline (quotedChar quote c) := by
  unfold quotedChar
  split
  · rename_i special
    obtain rfl | rfl := special
    · have slash : Inline ['\\'] := by decide
      exact slash.append (inline_singleton shown)
    · decide
  · split
    · decide
    · split
      · decide
      · split
        · decide
        · split
          · exact inline_singleton (le_toNat_of_isPrintable ‹_›)
          · exact inline_escapedPoint c

theorem inline_quoted (text : String) : Inline (quoted text).toList := by
  have shown : 0x20 ≤ (quoteFor text.toList).toNat := by
    unfold quoteFor
    split <;> decide
  have quote := inline_singleton shown
  have inside : Inline (text.toList.flatMap (quotedChar (quoteFor text.toList))) :=
    .flatMap fun c _ => inline_quotedChar shown c
  simp only [quoted, String.toList_ofList]
  exact quote.append (inside.append quote)

end RingCalc.Text
