import RingCalc.Proofs.Parser.Invariant
import RingCalc.Ring.CheckedInt

/-!
# The parser and canonical trees

The parser gives a tree for some tokens exactly when the tree is canonical and the tokens spell it;
else it refuses them.  One direction reads the invariant off where the tokens end.  For the other
the symbols of a canonical tree are followed from right to left: they leave its first atom, or a
sign, above the operators that join up to the tree again.
-/

namespace RingCalc

variable {σ α : Type}

/-! ## Canonical trees from right to left -/

/-- A frame is an operator that binds at least as tightly as a given precedence. -/
def Frame.BindsFrom (least : Nat) : Frame α → Prop
  | .operator op _ _ => least ≤ op.precedence
  | .group .. => False

theorem Frame.BindsFrom.mono {least most : Nat} {frame : Frame α} (le : least ≤ most)
    (binds : frame.BindsFrom most) : frame.BindsFrom least := by
  cases frame with
  | operator op right pos => exact Nat.le_trans le binds
  | group pos outerInGroup => exact binds

theorem Frame.fromGroup_append {least : Nat} {tops : List (Frame α)}
    (operators : ∀ frame ∈ tops, frame.BindsFrom least) (frames : List (Frame α)) :
    fromGroup (tops ++ frames) = fromGroup frames := by
  induction tops with
  | nil => rfl
  | cons frame below inductionHypothesis =>
    rw [List.forall_mem_cons] at operators
    cases frame with
    | operator op right pos => exact inductionHypothesis operators.2
    | group pos outerInGroup => exact operators.1.elim

namespace Expr

theorem attachAll_append {least : Nat} {tops : List (Frame α)}
    (operators : ∀ frame ∈ tops, frame.BindsFrom least) (left : Expr α) (frames : List (Frame α)) :
    left.attachAll (tops ++ frames) = (left.attachAll tops).attachAll frames := by
  induction tops generalizing left with
  | nil => cases frames <;> rfl
  | cons frame below inductionHypothesis =>
    rw [List.forall_mem_cons] at operators
    cases frame with
    | operator op right pos => exact inductionHypothesis operators.2 _
    | group pos outerInGroup => exact operators.1.elim

/-- Operators that bind more tightly than the root of a tree join its right operand. -/
theorem attachAll_binary {op : Operator} {tops : List (Frame α)}
    (tight : ∀ frame ∈ tops, frame.BindsFrom (op.precedence + 1)) (left : Expr α)
    {right : Expr α} (binds : op.precedence + 1 ≤ right.precedence) :
    (Expr.binary op left right).attachAll tops = .binary op left (right.attachAll tops) := by
  induction tops generalizing right with
  | nil => rfl
  | cons frame below inductionHypothesis =>
    rw [List.forall_mem_cons] at tight
    cases frame with
    | operator tighter operand pos =>
      have loose : op.precedence < tighter.precedence := tight.1
      -- Above the looser of two levels there is only one, so the right operand does not rotate.
      have level : tighter.precedence ≤ right.precedence := by
        have low := tighter.precedence_le_one
        omega
      rw [attachAll, attachAll, attach_of_lt loose, attach_of_le level]
      exact inductionHypothesis tight.2 loose
    | group pos outerInGroup => exact tight.1.elim

/-- What reading a tree from right to left leaves: its first atom in the hand and operators on the
stack or, where the tree begins with a sign, an empty hand and the sign on top of them. -/
inductive Spread (tree : Expr α) : Option (Expr α) → List (Frame α) → Prop where
  | plain {first : Expr α} {tops : List (Frame α)} (sealed : first.isSealed = true)
      (makes : first.attachAll tops = tree)
      (tight : ∀ frame ∈ tops, frame.BindsFrom tree.precedence) : Spread tree (some first) tops
  | signed {right : Expr α} {pos : Int} {below : List (Frame α)}
      (makes : (Expr.negate right).attachAll below = tree)
      (operators : ∀ frame ∈ below, frame.BindsFrom 0) :
      Spread tree none (.operator .sub right pos :: below)

namespace Spread

theorem atom {tree : Expr α} (sealed : tree.isSealed = true) : Spread tree (some tree) [] :=
  .plain sealed rfl fun _ member => by cases member

theorem bindsFrom_zero {tree : Expr α} {held : Option (Expr α)} {tops : List (Frame α)}
    (spread : Spread tree held tops) : ∀ frame ∈ tops, frame.BindsFrom 0 := by
  cases spread with
  | plain _ _ tight => exact fun frame member => (tight frame member).mono (Nat.zero_le _)
  | signed _ operators => exact List.forall_mem_cons.mpr ⟨Nat.zero_le _, operators⟩

/-- An operator and its right operand, spread to the right of a spread left operand. -/
theorem binary {op : Operator} {left right first : Expr α} {held : Option (Expr α)}
    {leftTops rightTops : List (Frame α)} {atFront : Bool}
    (canonical : (Expr.binary op left right).isCanonical atFront = true)
    (leftSpread : Spread left held leftTops) (rightSpread : Spread right (some first) rightTops)
    (pos : Int) :
    Spread (.binary op left right) held (leftTops ++ .operator op first pos :: rightTops) := by
  simp only [isCanonical, bindsFrom, Bool.and_eq_true, decide_eq_true_eq] at canonical
  obtain ⟨⟨⟨leftBinds, rightBinds⟩, -⟩, -⟩ := canonical
  -- A right operand has no sign in front, so it leaves an atom, the right operand of the operator.
  cases rightSpread with
  | plain sealed makes tight =>
    have firstBinds : op.precedence + 1 ≤ first.precedence := by
      simpa only [bindsFrom, decide_eq_true_eq] using bindsFrom_of_isSealed sealed op
    have joined : (left.attach op first).attachAll rightTops = .binary op left right := by
      rw [attach_of_le leftBinds, attachAll_binary _ left firstBinds, makes]
      exact fun frame member => (tight frame member).mono rightBinds
    have rightOperators : ∀ frame ∈ rightTops, frame.BindsFrom op.precedence :=
      fun frame member => (tight frame member).mono (by omega)
    cases leftSpread with
    | plain leftSealed leftMakes leftTight =>
      refine .plain leftSealed ?_ ?_
      · rw [attachAll_append leftTight, leftMakes]
        exact joined
      · refine List.forall_mem_append.mpr ⟨fun frame member => ?_, ?_⟩
        · exact (leftTight frame member).mono leftBinds
        · exact List.forall_mem_cons.mpr ⟨Nat.le_refl _, rightOperators⟩
    | signed leftMakes operators =>
      rw [List.cons_append]
      refine .signed ?_ ?_
      · rw [attachAll_append operators, leftMakes]
        exact joined
      · refine List.forall_mem_append.mpr ⟨operators, List.forall_mem_cons.mpr ⟨Nat.zero_le _, ?_⟩⟩
        exact fun frame member => (rightOperators frame member).mono (Nat.zero_le _)

/-- Above a group, or on an empty stack, what a tree leaves makes the tree again. -/
theorem tree? {tree : Expr α} {held : Option (Expr α)} {tops : List (Frame α)}
    (spread : Spread tree held tops) (inGroup : Bool) {frames : List (Frame α)}
    (ends : Frame.fromGroup frames = frames) :
    Station.tree? ⟨held, inGroup, tops ++ frames⟩ = some tree := by
  have ended : ∀ left : Expr α, left.attachAll frames = left := by
    intro left
    obtain ⟨noGroup, -⟩ | ⟨pos, outerInGroup, below, group, -⟩ := Frame.fromGroup_cases frames
    · rw [← ends, noGroup]
      rfl
    · rw [← ends, group]
      rfl
  cases spread with
  | plain sealed makes tight =>
    simp only [Station.tree?]
    rw [attachAll_append tight, makes, ended]
  | signed makes operators =>
    simp only [Station.tree?, List.cons_append]
    rw [attachAll_append operators, makes, ended]

end Spread

end Expr

/-! ## Completeness -/

/-- Reading the tokens of a canonical tree spreads it over the hand and the stack of the parser. -/
theorem reads_tree {ring : Ring σ α} {literal : α → Int}
    (lifts : ∀ element memory, ring.ofInt (literal element) memory = (.ok element, memory))
    {tree : Expr α} {atFront : Bool} (canonical : tree.isCanonical atFront = true)
    {tokens : List Token} (spelled : tokens.map Token.symbol = tree.symbols literal)
    (inGroup : Bool) (frames : List (Frame α)) (memory : σ) :
    ∃ held tops,
      Reads ring ⟨none, inGroup, frames⟩ memory tokens ⟨held, inGroup, tops ++ frames⟩ memory ∧
      tree.Spread held tops ∧ (atFront = false → held ≠ none) ∧
      (tree.isSealed = true → held = some tree ∧ tops = []) := by
  induction tree generalizing atFront tokens inGroup frames with
  | leaf element =>
    obtain ⟨⟨symbol, pos⟩, rfl, rfl⟩ := List.map_eq_singleton_iff.mp spelled
    exact ⟨some (.leaf element), [], .number pos (lifts element memory), .atom rfl,
      fun _ => Option.some_ne_none _, fun _ => ⟨rfl, rfl⟩⟩
  | group inner inductionHypothesis =>
    obtain ⟨⟨left, leftPos⟩, rest, rfl, rfl, restSpelled⟩ := List.map_eq_cons_iff.mp spelled
    obtain ⟨middle, last, rfl, middleSpelled, lastSpelled⟩ := List.map_eq_append_iff.mp restSpelled
    obtain ⟨⟨right, rightPos⟩, rfl, rfl⟩ := List.map_eq_singleton_iff.mp lastSpelled
    have innerCanonical : inner.isCanonical true = true := canonical
    obtain ⟨held, tops, reads, spread, -, -⟩ :=
      inductionHypothesis innerCanonical middleSpelled true (.group rightPos inGroup :: frames)
    have makes := spread.tree? true (Frame.fromGroup_group rightPos inGroup frames)
    have group := Frame.fromGroup_append spread.bindsFrom_zero (.group rightPos inGroup :: frames)
    refine ⟨some (.group inner), [], ?_, .atom canonical, fun _ => Option.some_ne_none _,
      fun _ => ⟨rfl, rfl⟩⟩
    have inside := Reads.append (.rightParen rightPos) reads
    exact inside.cons (.leftParen leftPos rfl makes group)
  | negate operand inductionHypothesis =>
    simp only [Expr.isCanonical, Bool.and_eq_true] at canonical
    obtain ⟨⟨rfl, atom⟩, operandCanonical⟩ := canonical
    have sealed : operand.isSealed = true := by rw [Expr.isSealed, atom, operandCanonical]; rfl
    obtain ⟨⟨symbol, pos⟩, rest, rfl, rfl, restSpelled⟩ := List.map_eq_cons_iff.mp spelled
    obtain ⟨held, tops, reads, -, -, whole⟩ :=
      inductionHypothesis operandCanonical restSpelled inGroup frames
    obtain ⟨rfl, rfl⟩ := whole sealed
    refine ⟨none, [.operator .sub operand pos], ?_, .signed rfl ?_, fun back => (by cases back),
      fun sealed => (by cases sealed)⟩
    · exact reads.cons (.operator .sub operand pos)
    · exact fun frame member => by cases member
  | binary op left right leftHypothesis rightHypothesis =>
    have both := canonical
    simp only [Expr.isCanonical, Bool.and_eq_true] at both
    obtain ⟨leftTokens, rest, rfl, leftSpelled, restSpelled⟩ := List.map_eq_append_iff.mp spelled
    obtain ⟨⟨symbol, pos⟩, rightTokens, rfl, rfl, rightSpelled⟩ :=
      List.map_eq_cons_iff.mp restSpelled
    obtain ⟨rightHeld, rightTops, rightReads, rightSpread, held, -⟩ :=
      rightHypothesis both.2 rightSpelled inGroup frames
    obtain ⟨first, rfl⟩ := Option.ne_none_iff_exists'.mp (held rfl)
    obtain ⟨leftHeld, leftTops, leftReads, leftSpread, leftFirst, -⟩ :=
      leftHypothesis both.1.2 leftSpelled inGroup
        (.operator op first pos :: (rightTops ++ frames))
    -- The right operand is read first, and the left one above the frames that it left.
    refine ⟨leftHeld, leftTops ++ .operator op first pos :: rightTops, ?_,
      leftSpread.binary canonical rightSpread pos, leftFirst, fun sealed => (by cases sealed)⟩
    rw [List.append_assoc, List.cons_append]
    exact (rightReads.cons (.operator op first pos)).append leftReads
  | foreign typeName => cases canonical

theorem parseTokens_of_isCanonical {ring : Ring σ α} {literal : α → Int}
    (lifts : ∀ element memory, ring.ofInt (literal element) memory = (.ok element, memory))
    {tree : Expr α} (canonical : tree.isCanonical true = true) {tokens : List Token}
    (spelled : tokens.map Token.symbol = tree.symbols literal) (memory : σ) :
    parseTokens ring tokens memory = (.ok tree, memory) := by
  obtain ⟨held, tops, reads, spread, -, -⟩ :=
    reads_tree lifts canonical spelled false [] memory
  exact parseTokens_of_tree? reads (spread.tree? false rfl)
    (Frame.fromGroup_append spread.bindsFrom_zero [])

/-! ## Soundness -/

theorem isCanonical_of_parseTokens {ring : Ring σ α} {literal : α → Int}
    (faithful : ring.Faithful literal) {tokens : List Token}
    (valued : ∀ token ∈ tokens, token.symbol ≠ .number none) {tree : Expr α} {memory last : σ}
    (parsed : parseTokens ring tokens memory = (.ok tree, last)) :
    tree.isCanonical true = true ∧ tree.symbols literal = tokens.map Token.symbol := by
  cases progress ring memory valued with
  | through reads known _ =>
    obtain ⟨made, makes, closed, outcome⟩ | ⟨error, -, outcome⟩ := known.conclude reads
    · rw [parsed] at outcome
      cases outcome
      refine ⟨known.isCanonical_of_tree? makes, ?_⟩
      -- No group is left, so the tree has taken all the symbols of the station.
      have taken := Station.symbols_of_tree? literal makes
      rw [closed, known.symbols literal faithful] at taken
      rw [← taken, List.flatMap_nil, List.append_nil]
    · rw [parsed] at outcome
      cases outcome
  | blocked before reads _ _ stops _ | unlifted before reads _ _ _ stops =>
    have outcome := parseTokens_of_stops (reads.stops stops) before
    rw [List.singleton_append, parsed] at outcome
    cases outcome

/-! ## Checked integers -/

/-- A number has a value, and it is in the range of the checked integers. -/
def Symbol.Fits : Symbol → Prop
  | .number none => False
  | .number (some value) => CheckedInt.minVal ≤ value ∧ value ≤ CheckedInt.maxVal
  | _ => True

namespace CheckedInt

theorem faithful_ring (σ : Type) : (ring σ).Faithful val := by
  intro value memory after element lifted
  exact ofInt_eq_ok_iff.mp (congrArg Prod.fst lifted)

theorem ring_ofInt_val (element : CheckedInt) (memory : σ) :
    (ring σ).ofInt element.val memory = (.ok element, memory) := by
  change (ofInt element.val, memory) = _
  rw [ofInt_eq_ok_iff.mpr rfl]

end CheckedInt

theorem valued_of_fits {tokens : List Token} (fits : ∀ token ∈ tokens, token.symbol.Fits) :
    ∀ token ∈ tokens, token.symbol ≠ .number none := by
  intro token member same
  have fit := fits token member
  rw [same] at fit
  exact fit

theorem CheckedInt.lifts_of_fits {tokens : List Token}
    (fits : ∀ token ∈ tokens, token.symbol.Fits) (memory : σ) :
    (CheckedInt.ring σ).Lifts memory tokens memory := by
  induction tokens with
  | nil => rfl
  | cons token rest inductionHypothesis =>
    obtain ⟨fit, restFits⟩ := List.forall_mem_cons.mp fits
    have lifts := inductionHypothesis restFits
    obtain ⟨symbol, pos⟩ := token
    cases symbol with
    | number value =>
      cases value with
      | none => exact lifts
      | some value =>
        have answer := CheckedInt.ring_ofInt_val ⟨value, fit.1, fit.2⟩ memory
        exact ⟨memory, _, lifts, answer⟩
    | _ => exact lifts

theorem covered_of_fits {tokens : List Token} (fits : ∀ token ∈ tokens, token.symbol.Fits) :
    Derives.Covered CheckedInt.val (tokens.map Token.symbol) := by
  intro value member
  obtain ⟨token, tokenMember, same⟩ := List.mem_map.mp member
  have fit := fits token tokenMember
  rw [same] at fit
  exact ⟨⟨value, fit.1, fit.2⟩, rfl⟩

/-- Over checked integers the parser gets through some tokens or blames one of them; there is an
element for every literal that fits. -/
theorem checked_progress {tokens : List Token} (fits : ∀ token ∈ tokens, token.symbol.Fits)
    (memory : σ) :
    (∃ station, Reads (CheckedInt.ring σ) .initial memory tokens station memory ∧
        station.After (CheckedInt.ring σ) tokens) ∨
      ∃ before token read station error, tokens = before ++ token :: read ∧
        Reads (CheckedInt.ring σ) .initial memory read station memory ∧
        station.After (CheckedInt.ring σ) read ∧
        Stops (CheckedInt.ring σ) station memory [token] error memory ∧ Fault token read error := by
  have stateless := CheckedInt.ring_stateless σ
  cases progress (CheckedInt.ring σ) memory (valued_of_fits fits) with
  | through reads known still =>
    rw [still stateless] at reads
    exact .inl ⟨_, reads, known⟩
  | @blocked before token read station after error reads known still stops fault =>
    rw [still stateless] at reads stops
    exact .inr ⟨before, token, read, station, error, rfl, reads, known, stops, fault⟩
  | @unlifted before value pos read station after last error reads known still failed stops =>
    have fit := fits ⟨.number (some value), pos⟩ (List.mem_append_right _ List.mem_cons_self)
    have lifted := CheckedInt.ring_ofInt_val ⟨value, fit.1, fit.2⟩ after
    rw [failed] at lifted
    cases lifted

/-- Over checked integers the memory stays what it is. -/
theorem parseTokens_checked {tokens : List Token} (fits : ∀ token ∈ tokens, token.symbol.Fits)
    (memory : σ) :
    (∃ tree, parseTokens (CheckedInt.ring σ) tokens memory = (.ok tree, memory)) ∨
      ∃ error, parseTokens (CheckedInt.ring σ) tokens memory =
        (.error (.refused error), memory) := by
  obtain ⟨station, reads, known⟩ | ⟨before, token, read, station, error, rfl, reads, -, stops, -⟩ :=
    checked_progress fits memory
  · obtain ⟨tree, -, -, outcome⟩ | ⟨error, -, outcome⟩ := known.conclude reads
    · exact .inl ⟨tree, outcome⟩
    · exact .inr ⟨error, outcome⟩
  · exact .inr ⟨error, parseTokens_of_stops (reads.stops stops) before⟩

theorem parseTokens_checked_eq_ok_iff {tokens : List Token}
    (fits : ∀ token ∈ tokens, token.symbol.Fits) (memory : σ) (tree : Expr CheckedInt) :
    parseTokens (CheckedInt.ring σ) tokens memory = (.ok tree, memory) ↔
      tree.isCanonical true = true ∧
        tree.symbols CheckedInt.val = tokens.map Token.symbol := by
  constructor
  · exact isCanonical_of_parseTokens (CheckedInt.faithful_ring σ) (valued_of_fits fits)
  · rintro ⟨canonical, spelled⟩
    exact parseTokens_of_isCanonical CheckedInt.ring_ofInt_val canonical spelled.symm memory

/-- Parsing finds the canonical tree that the tokens spell, and refuses tokens that spell none.  The
tokens with such a tree are the sentences of the grammar, and each has only one. -/
theorem parseTokens_eq_ok_iff {tokens : List Token}
    (fits : ∀ token ∈ tokens, token.symbol.Fits) (memory : σ) :
    (∀ tree, parseTokens (CheckedInt.ring σ) tokens memory = (.ok tree, memory) ↔
      tree.isCanonical true = true ∧
        tree.symbols CheckedInt.val = tokens.map Token.symbol) ∧
    ((¬ ∃ tree : Expr CheckedInt, tree.isCanonical true = true ∧
        tree.symbols CheckedInt.val = tokens.map Token.symbol) →
      ∃ error, parseTokens (CheckedInt.ring σ) tokens memory =
        (.error (.refused error), memory)) ∧
    ((∃ tree, parseTokens (CheckedInt.ring σ) tokens memory = (.ok tree, memory)) ↔
      Derives .expression (tokens.map Token.symbol)) ∧
    ∀ first second : Expr CheckedInt, first.isCanonical true = true →
      second.isCanonical true = true →
      first.symbols CheckedInt.val = tokens.map Token.symbol →
      second.symbols CheckedInt.val = tokens.map Token.symbol → first = second := by
  have found := parseTokens_checked_eq_ok_iff fits memory
  refine ⟨found, ?_, ?_, ?_⟩
  · intro noTree
    obtain ⟨tree, parsed⟩ | refused := parseTokens_checked fits memory
    · exact absurd ⟨tree, (found tree).mp parsed⟩ noTree
    · exact refused
  · rw [Derives.iff_exists_canonical (covered_of_fits fits)]
    exact exists_congr found
  · intro first second firstCanonical secondCanonical spelled other
    have parsed := (found first).mpr ⟨firstCanonical, spelled⟩
    rw [(found second).mpr ⟨secondCanonical, other⟩] at parsed
    cases parsed
    rfl

/-- The tokens of `-1+2*(3)`. -/
theorem parseTokens_eq_ok_iff_signed_sum :
    (∀ token ∈ [(⟨.operator .sub, 0⟩ : Token), ⟨.number (some 1), 1⟩, ⟨.operator .add, 2⟩,
        ⟨.number (some 2), 3⟩, ⟨.operator .mul, 4⟩, ⟨.leftParen, 5⟩, ⟨.number (some 3), 6⟩,
        ⟨.rightParen, 7⟩], token.symbol.Fits) ∧
      parseTokens (CheckedInt.ring Unit) [⟨.operator .sub, 0⟩, ⟨.number (some 1), 1⟩,
        ⟨.operator .add, 2⟩, ⟨.number (some 2), 3⟩, ⟨.operator .mul, 4⟩, ⟨.leftParen, 5⟩,
        ⟨.number (some 3), 6⟩, ⟨.rightParen, 7⟩] () =
        (.ok (.binary .add (.negate (.leaf ⟨1, by decide, by decide⟩))
          (.binary .mul (.leaf ⟨2, by decide, by decide⟩)
            (.group (.leaf ⟨3, by decide, by decide⟩)))), ()) := by
  have fits : ∀ token ∈ [(⟨.operator .sub, 0⟩ : Token), ⟨.number (some 1), 1⟩, ⟨.operator .add, 2⟩,
      ⟨.number (some 2), 3⟩, ⟨.operator .mul, 4⟩, ⟨.leftParen, 5⟩, ⟨.number (some 3), 6⟩,
      ⟨.rightParen, 7⟩], token.symbol.Fits := by
    simp [Symbol.Fits, CheckedInt.minVal, CheckedInt.maxVal]
  exact ⟨fits, ((parseTokens_eq_ok_iff fits ()).1 _).mpr ⟨rfl, rfl⟩⟩

end RingCalc
