import Phrasebook.Engine
import Phrasebook.Proofs.Text.Ends
import Phrasebook.Proofs.Text.Words

/-!
# Expressions that are a single name

A plain name, when it stands alone as an expression, is read as that name, and its value is what
the scope binds it to.

* `Text.IsPlainName`: identifiers of ASCII characters that mean nothing else;
* `Lexeme.cut_identifier_append`: an identifier is one lexeme wherever something else follows it;
* `Expr.ofText?_identifier`: how identifiers are read;
* `Engine.sandboxed_name`: what the standard engine makes of them.
-/

namespace Phrasebook

/-- An ASCII identifier that is neither a reserved word nor hidden. -/
structure Text.IsPlainName (x : Text) : Prop where
  ascii : ∀ c ∈ x, c.toNat < 128
  identifier : Text.isIdentifier x = true
  free : x ∉ Lexeme.reservedWords
  visible : Context.isHidden x = false

namespace Text

/-! ## Digits and line ends -/

/-- A name does not begin with a digit. -/
theorem isDigit_of_start {c : Char} (h : (c.isAlpha || c == '_') = true) : c.isDigit = false := by
  rw [Bool.or_eq_true, beq_iff_eq] at h
  rw [Bool.eq_false_iff]
  intro hdigit
  have hcode := code_of_isDigit hdigit
  rcases h with h | rfl
  · have := code_of_isAlpha h
    omega
  · cases hdigit

theorem unifyLineEnds_of_notMem {t : Text} (h : '\r' ∉ t) : unifyLineEnds t = t := by
  induction t with
  | nil => rfl
  | cons c t ih =>
    rw [List.mem_cons, not_or] at h
    unfold unifyLineEnds
    split
    · cases ‹_ = []›
    · rename_i heq
      cases heq
      exact absurd rfl h.1
    · rename_i heq
      cases heq
      exact absurd rfl h.1
    · rename_i heq
      cases heq
      rw [ih h.2]

end Text

namespace Text.IsPlainName

variable {x : Text}

/-! ## Its characters -/

theorem split (hx : x.IsPlainName) :
    ∃ c rest, x = c :: rest ∧ (c.isAlpha || c == '_') = true ∧
      ∀ d ∈ x, (d.isAlphanum || d == '_') = true := by
  obtain ⟨hascii, hidentifier, -, -⟩ := hx
  cases x with
  | nil => cases hidentifier
  | cons c rest =>
    rw [isIdentifier, Bool.and_eq_true, List.all_eq_true] at hidentifier
    obtain ⟨hc, hrest⟩ := hidentifier
    rw [isIdentifierStart, if_pos (hascii c List.mem_cons_self)] at hc
    refine ⟨c, rest, rfl, hc, ?_⟩
    intro d hd
    rcases List.mem_cons.1 hd with rfl | hmem
    · rw [Char.isAlphanum]
      rw [Bool.or_eq_true] at hc ⊢
      rcases hc with hc | hc
      · exact .inl (by rw [hc, Bool.true_or])
      · exact .inr hc
    · have hd' := hrest d hmem
      rwa [isIdentifierRest, if_pos (hascii d hd)] at hd'

theorem ne_nil (hx : x.IsPlainName) : x ≠ [] := by
  obtain ⟨c, rest, rfl, -⟩ := hx.split
  exact List.cons_ne_nil c rest

theorem ne_of_mem (hx : x.IsPlainName) {c d : Char} (hc : c ∈ x)
    (hd : (d.isAlphanum || d == '_') = false) : c ≠ d := by
  rintro rfl
  obtain ⟨-, -, -, -, hall⟩ := hx.split
  rw [hall c hc] at hd
  cases hd

theorem isBlank_of_mem (hx : x.IsPlainName) {c : Char} (hc : c ∈ x) : isBlank c = false := by
  obtain ⟨-, -, -, -, hall⟩ := hx.split
  exact isBlank_of_letter (hall c hc)

/-- There is nothing to trim. -/
theorem trim_eq (hx : x.IsPlainName) : trim x = x :=
  strip_eq_self (fun _ hc => hx.isBlank_of_mem (List.mem_of_mem_head? hc))
    fun _ hc => hx.isBlank_of_mem (List.mem_of_getLast? hc)

end Text.IsPlainName

namespace Lexeme

variable {x : Text}

/-! ## Identifiers as lexemes -/

theorem isNameChar_of_word {c : Char} (h : (c.isAlphanum || c == '_') = true) :
    isNameChar c = true := by
  rw [isNameChar, h, Bool.true_or]

theorem isNameChar_of_isIdentifierRest {c : Char} (h : Text.isIdentifierRest c = true) :
    isNameChar c = true := by
  rw [Text.isIdentifierRest] at h
  split at h
  · exact isNameChar_of_word h
  · rw [isNameChar, decide_eq_true (by omega), Bool.or_true]

theorem isNameChar_of_isIdentifierStart {c : Char} (h : Text.isIdentifierStart c = true) :
    isNameChar c = true := by
  rw [Text.isIdentifierStart] at h
  split at h
  · rw [isNameChar, Char.isAlphanum, Bool.or_right_comm c.isAlpha, h, Bool.true_or, Bool.true_or]
  · rw [isNameChar, decide_eq_true (by omega), Bool.or_true]

theorem isDigit_of_isIdentifierStart {c : Char} (h : Text.isIdentifierStart c = true) :
    c.isDigit = false := by
  rw [Text.isIdentifierStart] at h
  split at h
  · exact Text.isDigit_of_start h
  · rw [Bool.eq_false_iff]
    intro hdigit
    have := Text.code_of_isDigit hdigit
    omega

/-- The characters of an identifier. -/
theorem split_identifier (hx : Text.isIdentifier x = true) :
    ∃ c more, x = c :: more ∧ Text.isIdentifierStart c = true ∧ ∀ d ∈ x, isNameChar d = true := by
  cases x with
  | nil => cases hx
  | cons c more =>
    rw [Text.isIdentifier, Bool.and_eq_true, List.all_eq_true] at hx
    refine ⟨c, more, rfl, hx.1, List.forall_mem_cons.2 ⟨isNameChar_of_isIdentifierStart hx.1, ?_⟩⟩
    exact fun d hd => isNameChar_of_isIdentifierRest (hx.2 d hd)

theorem ne_of_isNameChar {c d : Char} (hc : isNameChar c = true) (hd : isNameChar d = false) :
    c ≠ d := by
  rintro rfl
  rw [hc] at hd
  cases hd

theorem skipEmptyLines_identifier (hx : Text.isIdentifier x = true) (rest : Text) :
    skipEmptyLines false (x ++ rest) = (x ++ rest, false) := by
  obtain ⟨c, more, rfl, -, hall⟩ := split_identifier hx
  have hc : ∀ d, isNameChar d = false → c ≠ d :=
    fun d hd => ne_of_isNameChar (hall c List.mem_cons_self) hd
  rw [List.cons_append]
  unfold skipEmptyLines
  split
  · cases ‹c :: (more ++ rest) = []›
  all_goals rename_i heq
  · exact absurd (List.cons.inj heq).1 (hc ' ' (by decide))
  · exact absurd (List.cons.inj heq).1 (hc '\t' (by decide))
  · exact absurd (List.cons.inj heq).1 (hc '\x0c' (by decide))
  · exact absurd (List.cons.inj heq).1 (hc '\n' (by decide))
  · exact absurd (List.cons.inj heq).1 (hc '\\' (by decide))
  · exact absurd (List.cons.inj heq).1 (hc '#' (by decide))
  · rw [heq]

/-- Where a name ends: no character of a name and no quote follows. -/
def EndsName (rest : Text) : Prop :=
  ∀ c ∈ rest.head?, isNameChar c = false ∧ c ≠ '\'' ∧ c ≠ '"'

/-- An identifier that is no reserved word is cut off as one lexeme, in its compatible spelling. -/
theorem cut_identifier_append (hx : Text.isIdentifier x = true) (hfree : x ∉ reservedWords)
    {rest : Text} (hrest : EndsName rest) (fuel : Nat) (due : List Char) :
    cut (fuel + 1) due (x ++ rest) =
      (cut fuel due rest).map (.name (Text.compatible x) :: ·) := by
  obtain ⟨c, more, rfl, hstart, hname⟩ := split_identifier hx
  have hc := hname c List.mem_cons_self
  have hne : ∀ d, isNameChar d = false → c ≠ d := fun d hd => ne_of_isNameChar hc hd
  have hdigit := isDigit_of_isIdentifierStart hstart
  have hstop : rest.takeWhile isNameChar = [] ∧ rest.dropWhile isNameChar = rest := by
    cases rest with
    | nil => exact ⟨rfl, rfl⟩
    | cons d rest =>
      have hd : ¬ isNameChar d = true := by
        rw [(hrest d rfl).1]
        exact Bool.false_ne_true
      exact ⟨List.takeWhile_cons_of_neg hd, List.dropWhile_cons_of_neg hd⟩
  have htake : (c :: (more ++ rest)).takeWhile isNameChar = c :: more := by
    rw [← List.cons_append, List.takeWhile_append_of_pos hname, hstop.1, List.append_nil]
  have hdrop : (c :: (more ++ rest)).dropWhile isNameChar = rest := by
    rw [← List.cons_append, List.dropWhile_append_of_pos hname, hstop.2]
  have hlineBlank : isLineBlank c = false := by
    simp only [isLineBlank, Bool.or_eq_false_iff, beq_eq_false_iff_ne]
    exact ⟨⟨hne _ (by decide), hne _ (by decide)⟩, hne _ (by decide)⟩
  have hreserved : reservedWords.contains (c :: more) = false := by
    rw [List.contains_eq_mem, decide_eq_false_iff_not]
    exact hfree
  generalize hnext : cut fuel due rest = next
  generalize hspelling : Text.compatible (c :: more) = spelling
  rw [List.cons_append]
  unfold cut
  split
  · cases ‹c :: (more ++ rest) = []›
  · rename_i heq
    cases heq
    exact absurd rfl (hne '\n' (by decide))
  · rename_i heq
    exact absurd (List.cons.inj heq).1 (hne '\\' (by decide))
  · rename_i heq
    cases heq
    exact absurd rfl (hne '#' (by decide))
  · rename_i c' rest' _ _ _ heq
    cases heq
    rw [hlineBlank, if_neg Bool.false_ne_true, hdigit, Bool.false_or,
      beq_eq_false_iff_ne.2 (hne '.' (by decide)), Bool.false_and, if_neg Bool.false_ne_true,
      if_pos hc]
    simp only [htake, hdrop]
    rw [hreserved, if_neg Bool.false_ne_true, if_pos hx, hnext, hspelling]
    -- a quote behind the name would have made it the beginning of a literal
    split
    · exact absurd rfl (hrest '\'' rfl).2.1
    · exact absurd rfl (hrest '"' rfl).2.2
    · cases next <;> rfl

theorem compatible_name (hx : x.IsPlainName) : Text.compatible x = x := by
  rw [Text.compatible, if_pos]
  rw [List.all_eq_true]
  exact fun d hd => decide_eq_true (hx.ascii d hd)

/-- A plain name is cut off as one lexeme. -/
theorem cut_name_append (hx : x.IsPlainName) {rest : Text} (hrest : EndsName rest) (fuel : Nat)
    (due : List Char) :
    cut (fuel + 1) due (x ++ rest) = (cut fuel due rest).map (.name x :: ·) := by
  rw [cut_identifier_append hx.identifier hx.free hrest, compatible_name hx]

theorem endsName_nil : EndsName [] := nofun

/-- An identifier that is no reserved word is a single lexeme. -/
theorem ofText?_identifier (hx : Text.isIdentifier x = true) (hfree : x ∉ reservedWords) :
    ofText? x = some [.name (Text.compatible x)] := by
  have hskip := skipEmptyLines_identifier hx []
  have hcut := cut_identifier_append hx hfree endsName_nil x.length []
  rw [List.append_nil] at hskip hcut
  obtain ⟨c, more, hsplit, -, hall⟩ := split_identifier hx
  have hreturn : '\r' ∉ x := fun hmem => ne_of_isNameChar (hall _ hmem) (by decide) rfl
  rw [ofText?, Text.unifyLineEnds_of_notMem hreturn, hskip]
  dsimp only
  rw [if_neg Bool.false_ne_true, hcut, hsplit]
  rfl

end Lexeme

namespace Expr

/-! ## How it is read -/

theorem readExpression_name (fuel : Nat) (x : Text) :
    readExpression (fuel + 30) [.name x] = some (.name x, []) := by
  rfl

/-- An identifier that is no reserved word is read as the name of its compatible spelling. -/
theorem ofText?_identifier {x : Text} (hx : Text.isIdentifier x = true)
    (hfree : x ∉ Lexeme.reservedWords) : ofText? x = some (.name (Text.compatible x)) := by
  obtain ⟨fuel, hfuel⟩ : ∃ fuel, roundsPerCharacter * (x.length + 1) = fuel + 30 :=
    ⟨roundsPerCharacter * (x.length + 1) - 30, by rw [roundsPerCharacter]; omega⟩
  rw [ofText?, Lexeme.ofText?_identifier hx hfree]
  dsimp only
  rw [hfuel, readTop, readExpression_name]

end Expr

/-! ## What it means -/

/-- A name that the scope binds stands for what it is bound to. -/
theorem Context.lookup_name (lib : Library) (functions : Registry) (known : Text → Bool) {x : Text}
    (hx : x.IsPlainName) {entries : List (Value × Value)} {v : Value}
    (hv : Value.lookupName? entries x = some v) :
    Context.lookup ⟨.dict entries, functions, lib, known⟩ x = .ok v := by
  rw [Context.lookup, hx.visible, if_neg Bool.false_ne_true]
  simp only [hv]

namespace Engine

/-- The standard engine gives for an identifier what its compatible spelling denotes. -/
theorem sandboxed_identifier {lib : Library} {functions : Registry} {known : Text → Bool} {x : Text}
    (hx : Text.isIdentifier x = true) (hfree : x ∉ Lexeme.reservedWords) (htrim : Text.trim x = x)
    {scope v : Value}
    (hv : Context.lookup ⟨scope, functions, lib, known⟩ (Text.compatible x) = .ok v) :
    sandboxed lib functions known x scope = .done (.value v) := by
  obtain ⟨c, more, hsplit, -, hall⟩ := Lexeme.split_identifier hx
  have hne : x ≠ [] := hsplit ▸ List.cons_ne_nil c more
  have hnull : x.contains '\x00' = false := by
    rw [List.contains_eq_mem, decide_eq_false_iff_not]
    exact fun hmem => Lexeme.ne_of_isNameChar (hall _ hmem) (by decide) rfl
  unfold sandboxed
  simp only [htrim, if_neg hne, hnull, Bool.false_eq_true, if_false,
    Expr.ofText?_identifier hx hfree, Expr.eval, hv]
  rfl

/-- The standard engine gives for a plain name what the scope binds it to. -/
theorem sandboxed_name (lib : Library) (functions : Registry) (known : Text → Bool) {x : Text}
    (hx : x.IsPlainName) {entries : List (Value × Value)} {v : Value}
    (hv : Value.lookupName? entries x = some v) :
    sandboxed lib functions known x (.dict entries) = .done (.value v) := by
  refine sandboxed_identifier hx.identifier hx.free hx.trim_eq ?_
  rw [Lexeme.compatible_name hx]
  exact Context.lookup_name lib functions known hx hv

end Engine

end Phrasebook
