import Phrasebook.Proofs.Document.OneLine
import Phrasebook.Proofs.Document.Spelling
import Phrasebook.Proofs.Expression.Names

/-!
# Phrases

A phrase is a line of literal texts with names between them.  Written as the only line of a
template, it is read as pieces that stand for the texts and an expression for each name.

* `Phrase.document`: a phrase as a document;
* `Phrase.Writable`: the phrases whose document says what they say;
* `Fills`: pieces that stand for names with texts behind them;
* `Phrase.readDocument`: how the document of a phrase is read.
-/

namespace Phrasebook

open Scan
open Text (infix_append_cons_iff infix_append_iff_of_disjoint)

/-! ## Phrases as documents -/

/-- A name in a phrase, and the text behind it. -/
structure Slot where
  name : Text
  after : Text

/-- A line of literal texts with names between them. -/
structure Phrase where
  first : Text
  slots : List Slot

namespace Slot

/-- The expression that a name is written as. -/
def expression (s : Slot) : Text := '\x7b' :: (s.name ++ ['\x7d'])

/-- A name and the text behind it as they are spelt in a body line. -/
def spelling (s : Slot) : Text := s.expression ++ escape s.after

/-- The name replaced by its value. -/
def filled (value : Text → Text) (s : Slot) : Text := value s.name ++ s.after

end Slot

namespace Phrase

/-- A phrase as it is spelt in a body line. -/
def spelling (p : Phrase) : Text := escape p.first ++ p.slots.flatMap Slot.spelling

/-- A phrase as the only line of a template. -/
def document (p : Phrase) : Text := "#t\n- ".toList ++ (p.spelling ++ ['\n'])

/-- The names replaced by their values. -/
def filled (value : Text → Text) (p : Phrase) : Text :=
  p.first ++ p.slots.flatMap (Slot.filled value)

/-- The phrases whose document says what they say: the names mean nothing else, no text holds the
mark of a block, and the line begins with neither a blank nor a keyword. -/
structure Writable (p : Phrase) : Prop where
  names : ∀ s ∈ p.slots, s.name.IsPlainName
  first : ¬ blockMark <:+: p.first
  after : ∀ s ∈ p.slots, ¬ blockMark <:+: s.after
  blank : p.spelling.head? ≠ some ' '
  keyword : keyword? p.first = none

end Phrase

/-! ## The expression of a name -/

theorem expressionRest_name {x : Text}
    (hx : ∀ c ∈ x, c ≠ '\x7b' ∧ c ≠ '\x7d' ∧ c ≠ '\\' ∧ isLineEnd c = false) (w : Text) :
    expressionRest (x ++ '\x7d' :: w) = some (x.length + 1) := by
  induction x with
  | nil => exact expressionRest_close w
  | cons c x ih =>
    obtain ⟨hopen, hclose, hescape, hline⟩ := hx c List.mem_cons_self
    rw [List.cons_append, expressionRest_cons hclose hescape, hline,
      ih fun d hd => hx d (List.mem_cons_of_mem c hd), if_neg (by simp [hopen])]
    rfl

theorem isExpressionText_name {x : Text} (hx : x.IsPlainName) :
    IsExpressionText ('\x7b' :: (x ++ ['\x7d'])) := by
  refine ⟨x ++ ['\x7d'], [], rfl, ?_⟩
  rw [List.append_nil, List.length_append, List.length_singleton]
  refine expressionRest_name (fun c hc => ?_) []
  have hne := fun d => hx.ne_of_mem (d := d) hc
  refine ⟨hne _ (by decide), hne _ (by decide), hne _ (by decide), ?_⟩
  rw [isLineEnd, Bool.or_eq_false_iff, beq_eq_false_iff_ne, beq_eq_false_iff_ne]
  exact ⟨hne _ (by decide), hne _ (by decide)⟩

theorem stripBraces_name {x : Text} (hx : x.IsPlainName) :
    stripBraces ('\x7b' :: (x ++ ['\x7d'])) = x :=
  Text.strip_between (fun h => hx.ne_of_mem h (by decide) rfl)
    (fun h => hx.ne_of_mem h (by decide) rfl) (by decide)

/-! ## Cutting a phrase -/

/-- The pieces of a line that stand for names with texts behind them. -/
inductive Fills : List Piece → List Slot → Prop
  | nil : Fills [] []
  | cons {line rest : List Piece} {s : Slot} {slots : List Slot} :
      Spells line s.after → Fills rest slots →
        Fills ((.expression, s.expression) :: (line ++ rest)) (s :: slots)

theorem Fills.kind {line : List Piece} {slots : List Slot} (h : Fills line slots) :
    ∀ p ∈ line, p.1.isLiteral = true ∨ p.1 = .expression := by
  induction h with
  | nil => simp
  | @cons line rest s slots hline _ ih =>
    intro p hp
    rcases List.mem_cons.1 hp with rfl | hp
    · exact .inr rfl
    · rcases List.mem_append.1 hp with hp | hp
      · exact .inl (hline.literal p hp)
      · exact ih p hp

theorem Slot.notMem_blockMark {s : Slot} (hs : s.name.IsPlainName) :
    ∀ c ∈ s.expression, c ∉ blockMark := by
  intro c hc
  rw [Slot.expression, List.mem_cons, List.mem_append, List.mem_singleton] at hc
  rcases hc with rfl | hc | rfl
  · decide
  · have hmark := hs.ne_of_mem (d := '\x60') hc (by decide)
    simpa [blockMark] using hmark
  · decide

/-- A phrase has no mark of a block when its texts have none. -/
theorem not_infix_spelling {slots : List Slot} (hnames : ∀ s ∈ slots, s.name.IsPlainName)
    (hafter : ∀ s ∈ slots, ¬ blockMark <:+: s.after) {t : Text} (ht : ¬ blockMark <:+: t) :
    ¬ blockMark <:+: escape t ++ (slots.flatMap Slot.spelling ++ ['\n']) := by
  induction slots generalizing t with
  | nil =>
    rw [List.flatMap_nil, List.nil_append, infix_append_cons_iff (by decide) (by decide)]
    rintro (h | h)
    · exact ht (infix_of_infix_escape h)
    · revert h
      decide
  | cons s slots ih =>
    have hs := hnames s List.mem_cons_self
    have hrest := ih (fun s' hs' => hnames s' (List.mem_cons_of_mem s hs'))
      (fun s' hs' => hafter s' (List.mem_cons_of_mem s hs')) (hafter s List.mem_cons_self)
    rw [List.flatMap_cons, Slot.spelling, Slot.expression, List.cons_append, List.cons_append,
      List.cons_append, infix_append_cons_iff (by decide) (by decide)]
    rintro (h | h)
    · exact ht (infix_of_infix_escape h)
    · have hdisjoint : ∀ c ∈ s.name ++ ['\x7d'], c ∉ blockMark :=
        fun c hc => Slot.notMem_blockMark hs c (List.mem_cons_of_mem _ hc)
      rw [List.append_assoc, List.append_assoc,
        infix_append_iff_of_disjoint hdisjoint (by decide)] at h
      exact hrest h

/-- Behind a literal text stands an expression or the end of the line. -/
theorem head?_slots (slots : List Slot) :
    ∀ c ∈ (slots.flatMap Slot.spelling ++ ['\n']).head?, c = '\x7b' ∨ c = '\n' := by
  cases slots with
  | nil =>
    rintro c ⟨⟩
    exact .inr rfl
  | cons s slots =>
    rintro c ⟨⟩
    exact .inl rfl

/-- The line of a phrase does not begin with layout. -/
theorem Phrase.Writable.isBlank_of_head {p : Phrase} (hp : p.Writable) :
    ∀ c ∈ (p.spelling ++ ['\n']).head?, isBlank c = false := by
  intro c hc
  have hspace := hp.blank
  rw [Phrase.spelling] at hc hspace
  cases hfirst : p.first with
  | nil =>
    rw [hfirst] at hc
    rcases head?_slots p.slots c hc with rfl | rfl <;> rfl
  | cons d t =>
    rw [hfirst] at hc hspace
    cases hd : escapeLetter? d with
    | some e =>
      rw [escape_cons_some hd] at hc
      cases hc
      rfl
    | none =>
      rw [escape_cons_none hd] at hc hspace
      cases hc
      rw [isBlank, Bool.or_eq_false_iff, beq_eq_false_iff_ne, beq_eq_false_iff_ne]
      refine ⟨?_, ?_⟩
      · rintro rfl
        exact hspace rfl
      · rintro rfl
        cases hd

namespace Cuts

variable {pieces : List Piece}

/-- Names with texts behind them are cut at the end of a line. -/
theorem slots (slots : List Slot) (hnames : ∀ s ∈ slots, s.name.IsPlainName)
    (hafter : ∀ s ∈ slots, ¬ blockMark <:+: s.after)
    (h : Cuts (.body false) ['\n'] pieces) :
    ∃ line, Fills line slots ∧
      Cuts (.body false) (slots.flatMap Slot.spelling ++ ['\n']) (line ++ pieces) := by
  induction slots with
  | nil => exact ⟨[], .nil, h⟩
  | cons s slots ih =>
    have hnames' : ∀ s' ∈ slots, s'.name.IsPlainName :=
      fun s' hs' => hnames s' (List.mem_cons_of_mem s hs')
    have hafter' : ∀ s' ∈ slots, ¬ blockMark <:+: s'.after :=
      fun s' hs' => hafter s' (List.mem_cons_of_mem s hs')
    obtain ⟨rest, hrest, hcuts⟩ := ih hnames' hafter'
    obtain ⟨line, hline, hcuts'⟩ := hcuts.literal s.after (head?_slots slots)
      (not_infix_spelling hnames' hafter' (hafter s List.mem_cons_self))
    refine ⟨(.expression, s.expression) :: (line ++ rest), .cons hline hrest, ?_⟩
    have hexpression := hcuts'.expression (isExpressionText_name (hnames s List.mem_cons_self))
    simpa [Slot.spelling, Slot.expression] using hexpression

/-- The document of a phrase is cut into a declaration and the pieces of the phrase. -/
theorem phrase {p : Phrase} (hp : p.Writable) :
    ∃ line₀ line, Spells line₀ p.first ∧ Fills line p.slots ∧
      Cuts .between p.document (Template.onlyLinePieces (line₀ ++ line)) := by
  obtain ⟨line, hline, hslots⟩ := Cuts.lastEnd.slots p.slots hp.names hp.after
  obtain ⟨line₀, hline₀, hcuts⟩ := hslots.literal p.first (head?_slots p.slots)
    (not_infix_spelling hp.names hp.after hp.first)
  have hkeyword : Mode.keywordMove? (p.spelling ++ ['\n']) = none := by
    rw [Mode.keywordMove?, Phrase.spelling, List.append_assoc,
      keyword?_escape (head?_slots p.slots) hp.keyword]
  have hblank := hp.isBlank_of_head
  rw [← List.append_assoc, ← List.append_assoc, ← Phrase.spelling] at hcuts
  refine ⟨line₀, line, hline₀, hline, Cuts.onlyLine hblank ?_⟩
  cases hspelling : p.spelling ++ ['\n'] with
  | nil => exact absurd hspelling (by simp)
  | cons c rest =>
    rw [hspelling] at hcuts hkeyword hblank
    exact hcuts.freshen (hblank c rfl) hkeyword

end Cuts

/-! ## Reading a phrase -/

namespace Phrase

/-- **How the document of a phrase is read**: as one template with one alternative, whose fragments
are the pieces of the phrase. -/
theorem readDocument {p : Phrase} (hp : p.Writable) (label : Text) :
    ∃ t a line₀ line, Template.readDocument label p.document = .ok [t] ∧ t.name = "t".toList ∧
      t.body = .normal [a] ∧ Spells line₀ p.first ∧ Fills line p.slots ∧
      a.fragments.map Fragment.content = (line₀ ++ line).map Piece.content := by
  obtain ⟨line₀, line, hline₀, hline, hcuts⟩ := Cuts.phrase hp
  have hkinds : ∀ q ∈ line₀ ++ line, q.1.endsLine = false ∧ q.1.isKeyword = false := by
    intro q hq
    have hkind : q.1.isLiteral = true ∨ q.1 = .expression := by
      rcases List.mem_append.1 hq with h | h
      · exact .inl (hline₀.literal q h)
      · exact hline.kind q h
    rcases hkind with hkind | hkind
    · cases hk : q.1 <;> rw [hk] at hkind <;> cases hkind <;> exact ⟨rfl, rfl⟩
    · rw [hkind]
      exact ⟨rfl, rfl⟩
  obtain ⟨t, a, hread, hname, hbody, hcontent⟩ :=
    Template.readDocument_onlyLine label hcuts hkinds
  exact ⟨t, a, line₀, line, hread, hname, hbody, hline₀, hline, hcontent⟩

end Phrase

end Phrasebook
