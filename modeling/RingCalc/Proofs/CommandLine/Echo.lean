import RingCalc.Main
import RingCalc.Proofs.Ring.Calls
import RingCalc.Proofs.Text.Inline

/-!
# Texts that are printed as they are

Printing drops styling sequences, which begin with an escape character.  The texts that the program
makes itself have no control characters at all, so they are printed as they are and stay on one
line.  Of a registry this can only be said if its rings take part: if neither the names of the rings
nor what they show has an escape character.
-/

namespace RingCalc

/-! ## Messages -/

theorem Symbol.inline_text (symbol : Symbol) : Text.Inline symbol.text.toList := by
  cases symbol with
  | number value =>
    cases value with
    | none => decide
    | some value => exact Text.inline_int value
  | operator op => cases op <;> decide
  | _ => decide

theorem Token.inline_textOfAll (tokens : List Token) :
    Text.Inline (Token.textOfAll tokens).toList := by
  rw [textOfAll, String.toList_intercalate]
  have space : Text.Inline " ".toList := by decide
  refine Text.forall_mem_intercalate space fun text member => ?_
  rw [List.map_map] at member
  obtain ⟨token, -, rfl⟩ := List.mem_map.mp member
  exact token.symbol.inline_text

theorem LexCause.inline_message (cause : LexCause) : Text.Inline cause.message.toList := by
  cases cause <;> decide

/-- Only the message of a ring may have control characters. -/
theorem ParseCause.literal_or_inline (cause : ParseCause) :
    (∃ failure, cause = .literal failure) ∨ Text.Inline cause.message.toList := by
  cases cause with
  | literal failure => exact .inl ⟨failure, rfl⟩
  | lexical cause => exact .inr cause.inline_message
  | unhandled symbol =>
    have label : Text.Inline "Unhandled token: ".toList := by decide
    have shown := label.append symbol.inline_text
    rw [← String.toList_append] at shown
    exact .inr shown
  | _ => exact .inr (by decide)

theorem CheckedInt.inline_message {σ : Type} {call : RingCall CheckedInt} {memory after : σ}
    {error : RingError}
    (failed : (CheckedInt.ring σ).perform call memory = (.error error, after)) :
    Text.Inline error.message.toList := by
  -- Whatever ends in the range check fails with an overflow only.
  have overflow : ∀ {value : Int}, CheckedInt.ofInt value = .error error →
      Text.Inline error.message.toList := by
    intro value missed
    obtain ⟨rfl, -⟩ := CheckedInt.ofInt_eq_error_iff.mp missed
    decide
  have answer := congrArg Prod.fst failed
  cases call with
  | zero => cases answer
  | ofInt value => exact overflow answer
  | add left right => exact overflow answer
  | sub left right => exact overflow answer
  | mul left right => exact overflow answer
  | div left right =>
    change CheckedInt.div left right = .error error at answer
    unfold CheckedInt.div at answer
    split at answer
    · cases answer
      decide
    · split at answer
      · cases answer
        decide
      · exact overflow answer

theorem inline_caretLine (width : Nat) : Text.Inline (caretLine width).toList := by
  rw [caretLine, String.toList_ofList]
  exact (Text.inline_replicate (by decide) _).append (by decide)

/-! ## Plain texts -/

/-- A text without escape characters. -/
def Text.Plain (text : String) : Prop := ∀ c ∈ text.toList, c ≠ '\x1b'

instance (text : String) : Decidable (Text.Plain text) :=
  List.decidableBAll (fun c : Char => c ≠ '\x1b') text.toList

theorem Text.Inline.plain {text : String} (inline : Inline text.toList) : Plain text := by
  rintro c member rfl
  exact inline.not_mem (by decide) member

theorem Text.Plain.append {left right : String} (leftPlain : Plain left)
    (rightPlain : Plain right) : Plain (left ++ right) := by
  rw [Plain, String.toList_append]
  exact List.forall_mem_append.mpr ⟨leftPlain, rightPlain⟩

theorem CommandLine.echo_of_plain {text : String} (plain : Text.Plain text) :
    echo text = text ++ "\n" := by
  rw [echo, Text.dropStyling_eq_self fun member => plain _ member rfl, String.ofList_toList]

/-! ### Rings -/

/-- Neither the elements nor the errors of a ring show an escape character. -/
structure PackedRing.Unstyled (packed : PackedRing) : Prop where
  display : ∀ element, Text.Plain (packed.display element)
  message : ∀ {call memory error after},
    packed.ring.perform call memory = (.error error, after) → Text.Plain error.message

/-- The names in a registry and the rings behind them show no escape character. -/
structure Registry.Unstyled (rings : Registry PackedRing) : Prop where
  name : ∀ name ∈ rings.names, Text.Plain name
  ring : ∀ {name packed}, rings.get? name = some packed → packed.Unstyled

theorem Registry.Unstyled.unknownMessage {rings : Registry PackedRing} (unstyled : rings.Unstyled)
    (name : String) : Text.Plain (rings.unknownMessage name) := by
  have listed : Text.Plain (", ".intercalate rings.names) := by
    rw [Text.Plain, String.toList_intercalate]
    have comma : Text.Plain ", " := by decide
    refine Text.forall_mem_intercalate comma fun text member => ?_
    obtain ⟨name, known, rfl⟩ := List.mem_map.mp member
    exact unstyled.name name known
  have quoted : Text.Plain (Text.quoted name) := (Text.inline_quoted name).plain
  have opening : Text.Plain "Unknown ring: " := by decide
  have between : Text.Plain " (available: " := by decide
  have closing : Text.Plain ")" := by decide
  exact (((opening.append quoted).append between).append listed).append closing

theorem standardRings_unstyled : standardRings.Unstyled where
  name := by decide
  ring := by
    intro name packed found
    have entry : "int" = name ∧
        packed = ⟨Unit, CheckedInt, CheckedInt.ring Unit, (), toString⟩ := by
      rw [standardRings, Registry.get?_register] at found
      split at found
      · exact ⟨‹_›, (Option.some.inj found).symm⟩
      · cases found
    obtain ⟨-, rfl⟩ := entry
    exact ⟨fun element => (Text.inline_int element.val).plain,
      fun failed => (CheckedInt.inline_message failed).plain⟩

end RingCalc
