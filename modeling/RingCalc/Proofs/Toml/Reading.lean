import RingCalc.Proofs.Toml.Drafts
import RingCalc.Proofs.Toml.Remainders
import RingCalc.Toml.Document

/-!
# What reading a document comes to

The table that a document stands for has each key once, and so has every table in it.  There are two
failures other than that of an invalid document.  A document with an integer of more digits than are
ever read is longer than that, and a document that is nested more deeply than there is room for opens
more arrays and tables than there is room for.

Both bounds are met: one long integer suffices, and one array in an array in an array.
-/

namespace RingCalc.Toml

variable {room : Nat} {text part : List Char} {α : Type}

/-! ## Scans

Nothing that is scanned can be too long or too deep, but for a number. -/

/-- Whatever comes of a scan, nothing in it is too long or too deep, and what it leaves is part of the
text. -/
abbrev Scans (text : List Char) (result : Except ReadError (α × List Char)) : Prop :=
  Reads 0 [] (fun found => found.2.Sublist text) result

theorem Scans.leaving {result : Except ReadError (α × List Char)} (scans : Scans part result)
    (smaller : part.Sublist text) : Scans text result :=
  scans.weaken fun _ left => left.trans smaller

theorem Reads.reading {scan : Scan α} (good : α → List Char → Prop)
    (reads : Reads room text (fun found => good found.1 found.2) (scan part)) :
    Reads room text (fun found => good found.value found.rest) (scan.reading part) := by
  refine reads.bind fun ⟨value, rest⟩ holds => ?_
  dsimp only
  split
  · exact .ok holds
  · exact .invalid

theorem Scans.reading {scan : Scan α} (scans : Scans text (scan text)) :
    Reads 0 [] (fun found => found.rest.Sublist text) (scan.reading text) :=
  Reads.reading (fun _ rest => rest.Sublist text) scans

theorem sublist_skipBlanks (text : List Char) : (skipBlanks text).Sublist text :=
  List.dropWhile_sublist isInlineBlank

theorem cons_sublist_first? {reading : Reading Char text} (found : first? text = some reading) :
    (reading.value :: reading.rest).Sublist text := by
  cases text with
  | nil => cases found
  | cons c rest =>
    cases found
    exact .refl (c :: rest)

theorem sublist_first? {reading : Reading Char text} (found : first? text = some reading) :
    reading.rest.Sublist text :=
  (List.sublist_cons_self _ _).trans (cons_sublist_first? found)

theorem scans_point (count : Nat) (text : List Char) : Scans text (scanPoint count text) := by
  unfold scanPoint
  dsimp only
  split
  · split
    · exact .ok (List.drop_sublist count text)
    · exact .invalid
  · exact .invalid

theorem scans_escape (multiline : Bool) (text : List Char) :
    Scans text (scanEscape multiline text) := by
  unfold scanEscape
  split
  · exact .invalid
  next c rest =>
    have behind := List.sublist_cons_self c rest
    split
    · have left := sublist_skipBlanks (c :: rest)
      split
      · exact .ok (List.nil_sublist _)
      next same =>
        rw [same] at left
        exact .ok (((List.dropWhile_sublist _).cons '\n').trans left)
      · exact .invalid
    · split
      · exact (scans_point 4 rest).leaving behind
      · split
        · exact (scans_point 8 rest).leaving behind
        · split
          · exact .ok behind
          · exact .invalid

theorem scans_basic (multiline : Bool) (text : List Char) :
    Scans text (scanBasic multiline text) := by
  induction text using scanBasic.induct multiline with
  | case1 =>
    rw [scanBasic]
    exact .invalid
  | case2 rest single =>
    rw [scanBasic, if_pos single]
    exact .ok (List.sublist_cons_self _ _)
  | case3 rest several closed =>
    rw [scanBasic, if_neg several, if_pos closed]
    exact .ok ((List.drop_sublist 2 rest).cons _)
  | case4 rest several inner inductionHypothesis =>
    rw [scanBasic, if_neg several, if_neg inner]
    exact inductionHypothesis.bind fun _ left => .ok (left.cons _)
  | case5 rest inductionHypothesis =>
    rw [scanBasic]
    refine (scans_escape multiline rest).reading.bind fun escaped within => ?_
    refine (inductionHypothesis escaped.rest escaped.shorter).bind fun _ left => .ok ?_
    exact (left.trans within).cons _
  | case6 c rest noQuote noEscape control =>
    rw [scanBasic, if_pos control]
    · exact .invalid
    · exact noQuote
    · exact noEscape
  | case7 c rest noQuote noEscape shown inductionHypothesis =>
    rw [scanBasic, if_neg shown]
    · exact inductionHypothesis.bind fun _ left => .ok (left.cons c)
    · exact noQuote
    · exact noEscape

theorem scans_literal (text : List Char) : Scans text (scanLiteral text) := by
  have left := List.dropWhile_sublist (· != '\'') (l := text)
  unfold scanLiteral
  dsimp only
  split
  · exact .invalid
  next same =>
    rw [same] at left
    split
    · exact .invalid
    · exact .ok ((List.sublist_cons_self _ _).trans left)

theorem scans_multilineLiteral (text : List Char) : Scans text (scanMultilineLiteral text) := by
  fun_induction scanMultilineLiteral text with
  | case1 => exact .invalid
  | case2 => exact .ok (List.sublist_append_right ['\'', '\'', '\''] _)
  | case3 => exact .invalid
  | case4 c _ _ _ inductionHypothesis =>
    exact inductionHypothesis.bind fun _ left => .ok (left.cons c)

theorem sublist_scanExtraQuotes (quote : Char) (text : List Char) :
    (scanExtraQuotes quote text).2.Sublist text := by
  unfold scanExtraQuotes
  split
  next first second rest =>
    split
    · split
      · exact List.sublist_append_right [first, second] rest
      · exact List.sublist_cons_self first _
    · exact .refl _
  · split
    · exact List.nil_sublist _
    · exact .refl _
  · exact .refl _

theorem scans_multiline {quote : Char} {scanBody : Scan (List Char)}
    (body : ∀ text, Scans text (scanBody text)) (text : List Char) :
    Scans text (scanMultiline quote scanBody text) := by
  unfold scanMultiline
  dsimp only
  split
  next rest =>
    refine (body rest).bind fun found left => .ok ?_
    exact ((sublist_scanExtraQuotes quote found.2).trans left).cons '\n'
  · refine (body text).bind fun found left => .ok ?_
    exact (sublist_scanExtraQuotes quote found.2).trans left

theorem scans_lineString (text : List Char) : Scans text (scanLineString text) := by
  unfold scanLineString
  split
  · exact (scans_basic false _).leaving (List.sublist_cons_self _ _)
  · exact (scans_literal _).leaving (List.sublist_cons_self _ _)
  · exact .invalid

theorem scans_string (text : List Char) : Scans text (scanString text) := by
  unfold scanString
  split
  next rest =>
    exact (scans_multiline (scans_basic true) rest).leaving
      (List.sublist_append_right ['"', '"', '"'] rest)
  next rest =>
    exact (scans_multiline scans_multilineLiteral rest).leaving
      (List.sublist_append_right ['\'', '\'', '\''] rest)
  · exact scans_lineString text

theorem scans_keyPart (text : List Char) : Scans text (scanKeyPart text) := by
  unfold scanKeyPart
  split
  · exact .invalid
  · split
    · exact .ok (List.dropWhile_sublist isBareKeyChar)
    · exact (scans_lineString _).bind fun _ left => .ok left

theorem scans_comment (text : List Char) :
    Reads 0 [] (fun rest => rest.Sublist text) (skipComment text) := by
  unfold skipComment
  split
  · split
    · exact .invalid
    · exact .ok ((List.dropWhile_sublist _).cons _)
  · exact .ok (.refl text)

theorem scans_fill (text : List Char) (inComment : Bool) :
    Reads 0 [] (fun filled => filled.1.Sublist text) (skipFill text inComment) := by
  fun_induction skipFill text inComment with
  | case1 => exact .ok (.refl _)
  | case2 => exact .invalid
  | case3 c _ _ inductionHypothesis =>
    exact inductionHypothesis.bind fun _ left => .ok (left.cons c)
  | case4 _ c _ _ _ inductionHypothesis =>
    exact inductionHypothesis.bind fun _ left => .ok (left.cons c)
  | case5 => exact .ok (.refl _)

/-! ## Numbers -/

theorem length_takeDigits (isDigit : Char → Bool) (text : List Char) :
    (takeDigits isDigit text).1.length ≤ text.length := by
  fun_induction takeDigits isDigit text with
  | case1 c rest digit digits after taken inductionHypothesis =>
    rw [taken] at inductionHypothesis
    exact Nat.succ_le_succ (Nat.le_succ_of_le inductionHypothesis)
  | case2 => exact Nat.zero_le _
  | case3 c rest other digit digits after taken inductionHypothesis =>
    rw [taken] at inductionHypothesis
    exact Nat.succ_le_succ inductionHypothesis
  | case4 => exact Nat.zero_le _
  | case5 => exact Nat.zero_le _

theorem length_digitRun? {isDigit : Char → Bool} {text digits rest : List Char}
    (found : digitRun? isDigit text = some (digits, rest)) : digits.length ≤ text.length := by
  cases text with
  | nil => cases found
  | cons c tail =>
    have bound := length_takeDigits isDigit (c :: tail)
    rw [digitRun?] at found
    split at found
    · rwa [Option.some.inj found] at bound
    · cases found

theorem length_wholeDigits? {text digits rest : List Char}
    (found : wholeDigits? text = some (digits, rest)) : digits.length ≤ text.length := by
  unfold wholeDigits? at found
  split at found
  · cases found
    exact Nat.succ_le_succ (Nat.zero_le _)
  · exact length_digitRun? found

theorem reads_decimalNumber {text rest : List Char} {result : Except ReadError Value}
    (found : decimalNumber? text = some (result, rest)) :
    Reads room text Value.Distinct result := by
  unfold decimalNumber? at found
  obtain ⟨⟨whole, after⟩, taken, found⟩ := Option.bind_eq_some_iff.mp found
  dsimp only at found
  split at found
  · cases found
    exact .ok (.floating _)
  · split at found
    next long =>
      cases found
      -- The digits that are counted stand in the text, behind the sign.
      have bound := Nat.le_trans (length_wholeDigits? taken) (sublist_takeSign text).length_le
      exact .integerTooLong (Nat.lt_of_lt_of_le long bound)
    · cases found
      exact .ok (.integer _)

theorem distinct_specialNumber {text rest : List Char} {value : Value}
    (found : specialNumber? text = some (value, rest)) : value.Distinct := by
  unfold specialNumber? at found
  dsimp only at found
  split at found
  · cases found
    exact .floating _
  · cases found
    exact .floating _
  · cases found

theorem reads_number (text : List Char) :
    Reads room text (fun found => found.1.Distinct ∧ found.2.Sublist text) (scanNumber text) := by
  unfold scanNumber
  split
  next found => exact .ok ⟨.integer _, leaves_basedInteger? text _ _ found⟩
  · split
    next value rest found =>
      have read : Reads room text Value.Distinct (.ok value) := reads_decimalNumber found
      cases read with
      | ok distinct => exact .ok ⟨distinct, leaves_decimalNumber? text _ _ found⟩
    next error rest found =>
      have read : Reads room text Value.Distinct (.error error) := reads_decimalNumber found
      exact read.failure
    · split
      next found special =>
        exact .ok ⟨distinct_specialNumber special, leaves_specialNumber? text _ _ special⟩
      · exact .invalid

theorem reads_moment {rest : List Char} {result : Except ReadError Moment}
    (found : moment? text = some (result, rest)) : Reads 0 [] (fun _ => True) result := by
  unfold moment? at found
  split at found
  · cases found
    split
    · exact .ok trivial
    · exact .invalid
  · obtain ⟨⟨time, after⟩, -, same⟩ := Option.map_eq_some_iff.mp found
    cases same
    exact .ok trivial

theorem reads_scalar (text : List Char) :
    Reads room text (fun found => found.1.Distinct ∧ found.2.Sublist text) (scanScalar text) := by
  unfold scanScalar
  split
  · exact (scans_string _).anywhere.bind fun _ left => .ok ⟨.string _, left⟩
  · exact (scans_string _).anywhere.bind fun _ left => .ok ⟨.string _, left⟩
  next rest => exact .ok ⟨.boolean true, List.sublist_append_right ['t', 'r', 'u', 'e'] rest⟩
  next rest =>
    exact .ok ⟨.boolean false, List.sublist_append_right ['f', 'a', 'l', 's', 'e'] rest⟩
  · split
    next found => exact .ok ⟨.moment _, leaves_moment? text _ _ found⟩
    next error _ found =>
      have read : Reads room text _ (.error error : Except ReadError Moment) :=
        (reads_moment found).anywhere
      exact read.failure
    · exact reads_number text

/-! ## Keys and values

The readers of values, of the items of arrays and of the pairs of tables call each other, and so do
the proofs.  Each goes on from a shorter text, but the first item of an array is read from the very
text that the items are.

The items and the pairs stand behind an opening, from which the calls to them take their room. -/

theorem reads_key (text : List Char) :
    Reads 0 [] (fun found => found.2.Sublist text ∧ found.2.length < text.length)
      (scanKey text) := by
  induction text using scanKey.induct with
  | case1 text inductionHypothesis =>
    rw [scanKey]
    refine (scans_keyPart text).reading.bind ?_
    rintro ⟨part, rest, shorter⟩ left
    have blanks := (sublist_skipBlanks rest).trans left
    have bound := (afterBlanks rest).2
    dsimp only
    split
    next inner dot found =>
      have innerBound := (afterBlanks inner).2
      refine (inductionHypothesis rest shorter _ bound inner dot _ innerBound).bind ?_
      rintro _ ⟨within, taken⟩
      refine .ok ⟨?_, ?_⟩
      · exact (within.trans (sublist_skipBlanks inner)).trans ((sublist_first? found).trans blanks)
      · exact Nat.lt_of_lt_of_le taken (by omega)
    · exact .ok ⟨blanks, Nat.lt_of_le_of_lt bound shorter⟩

mutual

theorem reads_value (room : Nat) (text : List Char) :
    Reads room text (fun found => found.value.Distinct ∧ found.rest.Sublist text)
      (readValue room text) := by
  rw [readValue]
  split
  next rest bracket opened =>
    have whole : ('[' :: rest).Sublist text := cons_sublist_first? opened
    refine ((reads_items room rest).within whole).bind fun _ ⟨sound, left⟩ => .ok ⟨.array sound, ?_⟩
    exact (left.cons '[').trans whole
  next rest brace opened =>
    have whole : ('\x7b' :: rest).Sublist text := cons_sublist_first? opened
    dsimp only
    split
    next closed =>
      refine .ok ⟨Value.Distinct.table List.nodup_nil (List.forall_mem_nil _), ?_⟩
      have behind := (sublist_first? closed).trans (sublist_skipBlanks rest)
      exact (behind.cons '\x7b').trans whole
    · refine ((reads_pairs room rest .nil).within whole).bind fun _ ⟨distinct, left⟩ =>
        .ok ⟨distinct.finish, ?_⟩
      exact (left.cons '\x7b').trans whole
  · exact Reads.reading (fun (value : Value) rest => value.Distinct ∧ rest.Sublist text)
      (reads_scalar text)
termination_by 2 * text.length

theorem reads_items (room : Nat) (text : List Char) :
    Reads room ('[' :: text)
      (fun found => (∀ item ∈ found.value, item.Distinct) ∧ found.rest.Sublist text)
      (readItems room text) := by
  rw [readItems]
  refine (scans_fill text false).anywhere.bind fun ⟨start, filled⟩ behind => ?_
  dsimp only
  split
  next closed => exact .ok ⟨List.forall_mem_nil _, (sublist_first? closed).trans behind⟩
  · refine (Reads.roomAfter rfl (by decide)).bind fun inner spent => ?_
    have within : Reads room ('[' :: start) _ (readValue inner start) :=
      .inside rfl (by decide) spent (reads_value inner start)
    refine (within.within (behind.cons_cons '[')).bind fun ⟨item, rest, taken⟩ ⟨sound, left⟩ => ?_
    refine (scans_fill rest false).anywhere.bind fun ⟨last, after⟩ fill => ?_
    have kept := (fill.trans left).trans behind
    dsimp only
    split
    next closed =>
      exact .ok ⟨List.forall_mem_singleton.mpr sound, (sublist_first? closed).trans kept⟩
    next more comma found =>
      have further := (sublist_first? found).trans kept
      have shorter : more.length < text.length := by omega
      exact ((reads_items room more).within (further.cons_cons '[')).bind fun _ ⟨others, rest⟩ =>
        .ok ⟨List.forall_mem_cons.mpr ⟨sound, others⟩, rest.trans further⟩
    · exact .invalid
termination_by 2 * text.length + 1

theorem reads_pairs (room : Nat) (text : List Char) {draft : Draft} (distinct : draft.Distinct) :
    Reads room ('\x7b' :: text)
      (fun found => found.value.Distinct ∧ found.rest.Sublist text)
      (readPairs room text draft) := by
  have start := (afterBlanks text).2
  rw [readPairs]
  dsimp only
  have key : Scans (afterBlanks text).1 (scanKey (afterBlanks text).1) :=
    (reads_key _).weaken fun _ => And.left
  refine key.reading.anywhere.bind fun ⟨key, rest, shorter⟩ keyed => ?_
  have behind := keyed.trans (sublist_skipBlanks text)
  dsimp only
  split
  next equal equals found =>
    have bound := (afterBlanks equal).2
    have valued := (sublist_skipBlanks equal).trans ((sublist_first? found).trans behind)
    refine (Reads.roomAfter rfl (by decide)).bind fun inner spent => ?_
    have within : Reads room ('\x7b' :: (afterBlanks equal).1) _ (readValue inner _) :=
      .inside rfl (by decide) spent (reads_value inner (afterBlanks equal).1)
    refine (within.within (valued.cons_cons _)).bind fun ⟨value, last, taken⟩ ⟨sound, left⟩ => ?_
    refine (Draft.keeps_alongDots (Draft.keeps_put sound) 0 _ draft distinct).bind
      fun after kept => ?_
    have gap := (afterBlanks last).2
    have lasting := (sublist_skipBlanks last).trans (left.trans valued)
    split
    next closed => exact .ok ⟨kept, (sublist_first? closed).trans lasting⟩
    next more comma found =>
      dsimp only at comma
      have further := (sublist_first? found).trans lasting
      -- A key, an equals sign, a value and the comma have been taken by now.
      have shorter : more.length < text.length := by omega
      exact ((reads_pairs room more kept).within (further.cons_cons _)).bind
        fun _ ⟨distinct, rest⟩ => .ok ⟨distinct, rest.trans further⟩
    · exact .invalid
  · exact .invalid
termination_by 2 * text.length + 1

end

/-! ## Documents -/

namespace Document

variable {document : Document} {path : List String}

theorem keeps_openTable (distinct : document.draft.Distinct) :
    Reads room text (fun after => after.draft.Distinct) (document.openTable path) :=
  (Draft.keeps_alongHeader Draft.keeps_openTable _ _ distinct).bind fun _ kept => .ok kept

theorem keeps_addTable (distinct : document.draft.Distinct) :
    Reads room text (fun after => after.draft.Distinct) (document.addTable path) :=
  (Draft.keeps_alongHeader Draft.keeps_addTable _ _ distinct).bind fun _ kept => .ok kept

theorem keeps_put {value : Value} (sound : value.Distinct) (distinct : document.draft.Distinct) :
    Reads room text (fun after => after.draft.Distinct) (document.put path value) :=
  (Draft.keeps_alongHeader (Draft.keeps_alongDots (Draft.keeps_put sound) _ _) _ _ distinct).bind
    fun _ kept => .ok kept

theorem reads_statement (distinct : document.draft.Distinct) (room : Nat) (text : List Char) :
    Reads room text (fun found => found.1.draft.Distinct ∧ found.2.Sublist text)
      (document.statement room text) := by
  unfold statement
  split
  next rest =>
    have behind := (sublist_skipBlanks rest).trans (List.sublist_append_right ['[', '['] rest)
    refine (reads_key _).anywhere.bind fun _ keyed => ?_
    split
    next last =>
      have left := keyed.1
      have closed := (List.sublist_append_right [']', ']'] last).trans (left.trans behind)
      exact (keeps_addTable distinct).bind fun _ kept => .ok ⟨kept, closed⟩
    · exact .invalid
  next rest _ =>
    have behind := (sublist_skipBlanks rest).trans (List.sublist_cons_self '[' rest)
    refine (reads_key _).anywhere.bind fun _ keyed => ?_
    split
    next last =>
      have left := keyed.1
      have closed := (List.sublist_cons_self ']' last).trans (left.trans behind)
      exact (keeps_openTable distinct).bind fun _ kept => .ok ⟨kept, closed⟩
    · exact .invalid
  · exact .ok ⟨distinct, .refl _⟩
  · refine (reads_key text).anywhere.bind fun _ keyed => ?_
    split
    next rest =>
      have left := keyed.1
      have behind := (sublist_skipBlanks rest).trans ((List.sublist_cons_self '=' rest).trans left)
      refine ((reads_value room _).within behind).bind fun _ ⟨sound, after⟩ => ?_
      exact (keeps_put sound distinct).bind fun _ kept => .ok ⟨kept, after.trans behind⟩
    · exact .invalid

theorem reads_endLine (text : List Char) :
    Reads 0 [] (fun rest => rest.Sublist text) (endLine text) := by
  refine (scans_comment _).bind fun behind left => ?_
  have within := left.trans (sublist_skipBlanks text)
  split
  · exact .ok (List.nil_sublist _)
  · exact .ok ((List.sublist_cons_self _ _).trans within)
  · exact .invalid

theorem reads_line (distinct : document.draft.Distinct) (room : Nat) (text : List Char) :
    Reads room text (fun found => found.1.draft.Distinct ∧ found.2.Sublist text)
      (document.line room text) := by
  have blanks := sublist_skipBlanks text
  unfold line
  split
  · exact .ok ⟨distinct, List.nil_sublist _⟩
  next rest same =>
    rw [same] at blanks
    exact .ok ⟨distinct, (List.sublist_cons_self _ _).trans blanks⟩
  · have stated := (reads_statement distinct room _).within blanks
    refine stated.bind fun ⟨after, rest⟩ ⟨kept, left⟩ => ?_
    exact (reads_endLine rest).anywhere.bind fun _ ended =>
      .ok ⟨kept, ended.trans (left.trans blanks)⟩

theorem reads_lines (distinct : document.draft.Distinct) (room : Nat) (text : List Char) :
    Reads room text (fun after => after.draft.Distinct) (document.lines room text) := by
  induction document, text using lines.induct with
  | case1 document text empty =>
    rw [lines, if_pos empty]
    exact .ok distinct
  | case2 document text filled inductionHypothesis =>
    rw [lines, if_neg filled]
    have first := Reads.reading
      (fun (after : Document) rest => after.draft.Distinct ∧ rest.Sublist text)
      (reads_line distinct room text)
    refine first.bind fun ⟨after, rest, shorter⟩ ⟨kept, left⟩ => ?_
    exact (inductionHypothesis after rest shorter kept).within left

end Document

theorem sublist_joinLineEnds (text : List Char) : (joinLineEnds text).Sublist text := by
  fun_induction joinLineEnds text with
  | case1 rest inductionHypothesis => exact (inductionHypothesis.cons_cons '\n').cons '\r'
  | case2 c rest _ inductionHypothesis => exact inductionHypothesis.cons_cons c
  | case3 => exact .refl []

theorem reads_document (room : Nat) (source : String) :
    Reads room source.toList (fun table => Value.Distinct (.table table)) (read room source) := by
  refine ((Document.reads_lines ?_ room _).within (sublist_joinLineEnds _)).bind
    fun _ kept => .ok kept.finish
  exact Draft.Distinct.nil

theorem distinct_of_read {source : String} {table : Table}
    (found : read room source = .ok table) : Value.Distinct (.table table) := by
  have reads := reads_document room source
  rw [found] at reads
  cases reads with
  | ok distinct => exact distinct

theorem long_of_integerTooLong {source : String}
    (failed : read room source = .error .integerTooLong) : maxIntegerDigits < source.length := by
  have reads := reads_document room source
  rw [failed] at reads
  cases reads with
  | integerTooLong long => rwa [String.length_toList] at long

theorem deep_of_tooDeep {source : String} (failed : read room source = .error .tooDeep) :
    room < tableCalls * openings source.toList := by
  have reads := reads_document room source
  rw [failed] at reads
  cases reads with
  | tooDeep deep => exact deep

/-! ## A single value

A document of one key and its value fails as its value does. -/

theorem scanKey_letter (rest : List Char) :
    scanKey ('n' :: '=' :: rest) = .ok (["n"], '=' :: rest) := by
  have part : scanKeyPart.reading ('n' :: '=' :: rest) =
      .ok ⟨"n", '=' :: rest, Nat.lt_succ_self _⟩ := by
    have scanned : scanKeyPart ('n' :: '=' :: rest) = .ok ("n", '=' :: rest) := rfl
    rw [Scan.reading, scanned]
    exact dif_pos (Nat.lt_succ_self _)
  rw [scanKey, part]
  rfl

theorem read_of_readValue {error : ReadError}
    (failed : readValue room (skipBlanks (joinLineEnds text)) = .error error) :
    read room (String.ofList ('n' :: '=' :: text)) = .error error := by
  have joined : joinLineEnds ('n' :: '=' :: text) = 'n' :: '=' :: joinLineEnds text := rfl
  have statement : Document.start.statement room ('n' :: '=' :: joinLineEnds text) =
      .error error := by
    change scanKey ('n' :: '=' :: joinLineEnds text) >>= _ = _
    rw [scanKey_letter]
    change readValue room (skipBlanks (joinLineEnds text)) >>= _ = _
    rw [failed]
    rfl
  have line : Document.start.line room ('n' :: '=' :: joinLineEnds text) = .error error := by
    change Document.start.statement room ('n' :: '=' :: joinLineEnds text) >>= _ = _
    rw [statement]
    rfl
  rw [read, String.toList_ofList, joined, Document.lines, Scan.reading, line]
  rfl

/-! ## Integers that are too long -/

section

variable {digits : List Char}

theorem takeDigits_of_digits (all : ∀ c ∈ digits, c.isDigit = true) :
    takeDigits Char.isDigit digits = (digits, []) := by
  induction digits with
  | nil => rfl
  | cons c rest inductionHypothesis =>
    obtain ⟨digit, behind⟩ := List.forall_mem_cons.mp all
    rw [takeDigits, inductionHypothesis behind, if_pos digit]
    rintro other more same
    cases same
    cases digit

theorem decimalNumber?_of_digits (all : ∀ c ∈ digits, c.isDigit = true)
    (lead : digits.head? ≠ some '0') (many : maxIntegerDigits < digits.length) :
    decimalNumber? digits = some (.error .integerTooLong, []) := by
  have taken := takeDigits_of_digits all
  cases digits with
  | nil => exact absurd many (Nat.not_lt_zero _)
  | cons c rest =>
    have digit := all c List.mem_cons_self
    have unsigned : takeSign (c :: rest) = (false, c :: rest) := by
      unfold takeSign
      split
      next same => cases same; cases digit
      next same => cases same; cases digit
      · rfl
    have whole : wholeDigits? (c :: rest) = some (c :: rest, []) := by
      unfold wholeDigits?
      split
      next same =>
        cases same
        exact absurd rfl lead
      · rw [digitRun?, if_pos digit, taken]
    simp only [decimalNumber?, unsigned]
    rw [whole]
    simp only [fractionDigits?, exponent?]
    exact if_pos many

theorem rest_of_fixedNumber? {count number : Nat} {text rest : List Char}
    (found : fixedNumber? count text = some (number, rest)) : rest = text.drop count := by
  unfold fixedNumber? at found
  dsimp only at found
  split at found
  · cases found
    rfl
  · cases found

theorem after?_of_digits {separator : Char} (other : separator.isDigit = false)
    (all : ∀ c ∈ digits, c.isDigit = true) : after? separator digits = none := by
  cases digits with
  | nil => rfl
  | cons c rest =>
    refine if_neg fun same => ?_
    rw [← same, all c List.mem_cons_self] at other
    cases other

theorem moment?_of_digits (all : ∀ c ∈ digits, c.isDigit = true) : moment? digits = none := by
  have behind : ∀ {separator : Char} (count : Nat), separator.isDigit = false →
      after? separator (digits.drop count) = none := fun count other =>
    after?_of_digits other fun c member => all c (List.mem_of_mem_drop member)
  have date : date? digits = none := by
    refine Option.eq_none_iff_forall_ne_some.mpr fun result found => ?_
    obtain ⟨⟨year, rest⟩, taken, found⟩ := Option.bind_eq_some_iff.mp found
    obtain ⟨_, dash, -⟩ := Option.bind_eq_some_iff.mp found
    rw [rest_of_fixedNumber? taken, behind 4 rfl] at dash
    cases dash
  have time : time? digits = none := by
    refine Option.eq_none_iff_forall_ne_some.mpr fun result found => ?_
    obtain ⟨⟨hour, rest⟩, taken, found⟩ := Option.bind_eq_some_iff.mp found
    obtain ⟨_, colon, -⟩ := Option.bind_eq_some_iff.mp found
    obtain ⟨⟨number, after⟩, taken, kept⟩ := Option.bind_eq_some_iff.mp taken
    dsimp only at kept
    split at kept
    · cases kept
      rw [rest_of_fixedNumber? taken, behind 2 rfl] at colon
      cases colon
    · cases kept
  rw [moment?, date, time]
  rfl

theorem scanScalar_of_digits (all : ∀ c ∈ digits, c.isDigit = true)
    (lead : digits.head? ≠ some '0') (many : maxIntegerDigits < digits.length) :
    scanScalar digits = .error .integerTooLong := by
  have noBase : basedInteger? digits = none := by
    unfold basedInteger?
    split <;> first | rfl | exact absurd rfl lead
  have read : scanNumber digits = .error .integerTooLong := by
    rw [scanNumber, noBase, decimalNumber?_of_digits all lead many]
  unfold scanScalar
  have head : ∀ c rest, digits = c :: rest → c.isDigit = true := by
    rintro c rest rfl
    exact all c List.mem_cons_self
  split
  next => cases head _ _ rfl
  next => cases head _ _ rfl
  next => cases head _ _ rfl
  next => cases head _ _ rfl
  · rw [moment?_of_digits all, read]

theorem readValue_of_digits (all : ∀ c ∈ digits, c.isDigit = true)
    (lead : digits.head? ≠ some '0') (many : maxIntegerDigits < digits.length) :
    readValue room digits = .error .integerTooLong := by
  have refused : scanScalar.reading digits = .error .integerTooLong := by
    rw [Scan.reading, scanScalar_of_digits all lead many]
    rfl
  cases digits with
  | nil => exact absurd many (Nat.not_lt_zero _)
  | cons c rest =>
    have digit := all c List.mem_cons_self
    rw [readValue]
    split
    next same => cases same; cases digit
    next same => cases same; cases digit
    · exact refused

theorem joinLineEnds_eq_self (plain : '\r' ∉ text) : joinLineEnds text = text := by
  fun_induction joinLineEnds text with
  | case1 => exact absurd List.mem_cons_self plain
  | case2 c rest _ inductionHypothesis =>
    rw [inductionHypothesis fun member => plain (List.mem_cons_of_mem c member)]
  | case3 => rfl

/-- An integer with more digits than are ever read makes the whole document fail. -/
theorem read_of_digits (all : ∀ c ∈ digits, c.isDigit = true)
    (lead : digits.head? ≠ some '0') (many : maxIntegerDigits < digits.length) :
    read room (String.ofList ('n' :: '=' :: digits)) = .error .integerTooLong := by
  have plain : '\r' ∉ digits := fun member => absurd (all _ member) (by decide)
  have unblank : skipBlanks digits = digits := by
    cases digits with
    | nil => rfl
    | cons c rest =>
      have digit := all c List.mem_cons_self
      refine List.dropWhile_cons_of_neg fun blank => ?_
      rw [isInlineBlank, Bool.or_eq_true, beq_iff_eq, beq_iff_eq] at blank
      obtain rfl | rfl := blank
      · cases digit
      · cases digit
  apply read_of_readValue
  rw [joinLineEnds_eq_self plain, unblank]
  exact readValue_of_digits all lead many

end

/-! ## Arrays that are too deep -/

theorem skipFill_bracket (text : List Char) :
    skipFill ('[' :: text) false = .ok ⟨'[' :: text, Nat.le_refl _⟩ := by
  rw [skipFill]
  rfl

theorem readValue_bracket {error : ReadError} (failed : readItems room text = .error error) :
    readValue room ('[' :: text) = .error error := by
  rw [readValue]
  change readItems room text >>= _ = _
  rw [failed]
  rfl

theorem readItems_bracket {error : ReadError}
    (failed : roomAfter arrayCalls room >>= (readValue · ('[' :: text)) = .error error) :
    readItems room ('[' :: text) = .error error := by
  rw [readItems, skipFill_bracket]
  cases spent : roomAfter arrayCalls room with
  | error reason =>
    rw [spent] at failed
    cases failed
    rfl
  | ok left =>
    rw [spent] at failed
    change readValue left ('[' :: text) = .error error at failed
    change readValue left ('[' :: text) >>= _ = _
    rw [failed]
    rfl

theorem readValue_of_brackets {depth : Nat} (deep : room < arrayCalls * depth)
    (rest : List Char) :
    readValue room (List.replicate (depth + 1) '[' ++ rest) = .error .tooDeep := by
  induction depth generalizing room with
  | zero => exact absurd deep (Nat.not_lt_zero room)
  | succ depth inductionHypothesis =>
    refine readValue_bracket (readItems_bracket ?_)
    -- Two calls lead to the next bracket, if there is room for them.
    by_cases enough : arrayCalls ≤ room
    · rw [roomAfter, if_pos enough]
      refine inductionHypothesis ?_
      rw [Nat.mul_succ] at deep
      omega
    · rw [roomAfter, if_neg enough]
      rfl

/-- An array nested in arrays, in more of them than there is room for, makes the whole document
fail, whatever stands behind it. -/
theorem read_of_brackets {depth : Nat} (deep : room < arrayCalls * depth) (rest : List Char) :
    read room (String.ofList ('n' :: '=' :: (List.replicate (depth + 1) '[' ++ rest))) =
      .error .tooDeep := by
  have joined (count : Nat) : joinLineEnds (List.replicate count '[' ++ rest) =
      List.replicate count '[' ++ joinLineEnds rest := by
    induction count with
    | zero => rfl
    | succ count inductionHypothesis =>
      rw [List.replicate_succ, List.cons_append, List.cons_append, ← inductionHypothesis]
      rfl
  apply read_of_readValue
  rw [joined]
  exact readValue_of_brackets deep (joinLineEnds rest)

end RingCalc.Toml
