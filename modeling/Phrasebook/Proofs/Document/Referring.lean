import Phrasebook.Proofs.Document.Moves
import Phrasebook.Proofs.Document.OneLine
import Phrasebook.Proofs.Text.Ends
import Phrasebook.Proofs.Text.Words
import Phrasebook.Rendering.Span

/-!
# References with arguments

A reference is written between brackets: the name of a template, and between parentheses the texts
of its arguments.  The texts may hold parentheses, closed or not, since a reference ends at its
bracket and its arguments at the last parenthesis; they hold no comma, no bracket and no line end.

* `Text.IsTemplateName`: the names that declarations give;
* `Reference.AreArguments`: texts that can be written as arguments;
* `Reference.scanFrom_span`: a reference in a body line is one token;
* `Reference.ofSpan_span`, `Reference.argumentTexts_join`: how it is taken apart.
-/

namespace Phrasebook

open Scan
open Text (join trim)

/-- The names that declarations give to templates: words joined by dots. -/
def Text.IsTemplateName (n : Text) : Prop :=
  ∃ part parts, n = join "." (part :: parts) ∧ ∀ p ∈ part :: parts, IsNameText p

namespace Text.IsTemplateName

variable {n : Text}

theorem letter (hn : n.IsTemplateName) : ∀ c ∈ n, Text.isWord c = true ∨ c = '-' ∨ c = '.' := by
  obtain ⟨part, parts, rfl, hparts⟩ := hn
  intro c hc
  rcases Text.mem_join hc with hc | ⟨p, hp, hc⟩
  · exact .inr (.inr (List.mem_singleton.1 hc))
  · have hletter := (hparts p hp).forall_mem c hc
    rw [Bool.or_eq_true, beq_iff_eq] at hletter
    exact hletter.imp_right .inl

/-- Characters of other kinds are in no name. -/
theorem notMem (hn : n.IsTemplateName) {c : Char} (hword : Text.isWord c = false) (hdash : c ≠ '-')
    (hdot : c ≠ '.') : c ∉ n := by
  intro hc
  rcases hn.letter c hc with h | h | h
  · rw [hword] at h
    cases h
  · exact hdash h
  · exact hdot h

theorem isBlank_of_mem (hn : n.IsTemplateName) {c : Char} (hc : c ∈ n) : Text.isBlank c = false := by
  rcases hn.letter c hc with h | rfl | rfl
  · exact Text.isBlank_of_isWord h
  · rfl
  · rfl

theorem trim_eq (hn : n.IsTemplateName) : trim n = n :=
  Text.strip_eq_self (fun _ hc => hn.isBlank_of_mem (List.mem_of_mem_head? hc))
    fun _ hc => hn.isBlank_of_mem (List.mem_of_getLast? hc)

theorem ne_nil (hn : n.IsTemplateName) : n ≠ [] := by
  obtain ⟨part, parts, rfl, hparts⟩ := hn
  obtain ⟨c, r, rfl, -, -⟩ := hparts part List.mem_cons_self
  cases parts with
  | nil => exact List.cons_ne_nil c r
  | cons p parts => exact List.cons_ne_nil c _

end Text.IsTemplateName

namespace Reference

/-- A name with the texts of arguments between parentheses. -/
def callText (n : Text) (as : List Text) : Text := n ++ '(' :: (join "," as ++ [')'])

/-- A reference as it is written. -/
def span (n : Text) (as : List Text) : Text := '[' :: (callText n as ++ [']'])

/-- Texts that can be written as arguments: at least one of them, and no single blank one. -/
structure AreArguments (as : List Text) : Prop where
  nonempty : as ≠ []
  plain : ∀ a ∈ as, ∀ c ∈ a, c ∉ [',', '[', ']', '\r', '\n']
  notBlank : ∀ a, as = [a] → ∃ c ∈ a, Text.isBlank c = false

section

variable {n : Text} {as : List Text}

/-- Brackets and line ends are nowhere in a name with arguments. -/
theorem notMem_callText (hn : n.IsTemplateName) (has : AreArguments as) {c : Char}
    (hc : c ∈ ['[', ']', '\r', '\n']) : c ∉ callText n as := by
  have hname : c ∉ n := by
    simp only [List.mem_cons, List.not_mem_nil, or_false] at hc
    rcases hc with rfl | rfl | rfl | rfl <;> exact hn.notMem (by decide) (by decide) (by decide)
  have harguments : c ∉ join "," as := by
    intro hmem
    rcases Text.mem_join hmem with hmem | ⟨a, ha, hmem⟩
    · rw [List.mem_singleton.1 hmem] at hc
      revert hc
      decide
    · exact has.plain a ha c hmem (List.mem_cons_of_mem ',' hc)
  have hparentheses : c ≠ '(' ∧ c ≠ ')' := by
    constructor <;> rintro rfl <;> revert hc <;> decide
  rw [callText, List.mem_append, List.mem_cons, List.mem_append, List.mem_singleton]
  rintro (h | h | h | h)
  · exact hname h
  · exact hparentheses.1 h
  · exact harguments h
  · exact hparentheses.2 h

theorem trim_callText (hn : n.IsTemplateName) (as : List Text) :
    trim (callText n as) = callText n as := by
  refine Text.strip_eq_self (fun c hc => ?_) fun c hc => ?_
  · obtain ⟨d, rest, rfl⟩ := List.exists_cons_of_ne_nil hn.ne_nil
    cases hc
    exact hn.isBlank_of_mem List.mem_cons_self
  · rw [callText, ← List.cons_append, ← List.append_assoc, List.getLast?_concat] at hc
    cases hc
    rfl

/-! ## Taking a reference apart -/

/-- **How a reference is read**: as the name and what stands between the parentheses. -/
theorem ofSpan_span (hn : n.IsTemplateName) (has : AreArguments as) :
    ofSpan (span n as) = .applied n (join "," as) := by
  have hopen : '[' ∉ callText n as := notMem_callText hn has (by decide)
  have hclose : ']' ∉ callText n as := notMem_callText hn has (by decide)
  have hinside : inside (span n as) = callText n as := by
    rw [inside, span, Text.strip_between hopen hclose (by decide), trim_callText hn]
  have hcut : Text.cut? ['('] (callText n as) = some (n, join "," as ++ [')']) :=
    Text.cut?_of_notMem (hn.notMem (by decide) (by decide) (by decide)) _
  have hlast : beforeLastClose? (join "," as ++ [')']) = some (join "," as) := by
    rw [beforeLastClose?, List.reverse_append, List.reverse_singleton, List.singleton_append,
      List.dropWhile_cons_of_neg (by simp)]
    simp only [List.reverse_reverse]
  obtain ⟨c, rest, hsplit⟩ := List.exists_cons_of_ne_nil hn.ne_nil
  rw [ofSpan]
  simp only [hinside, hcut]
  rw [hsplit]
  simp only [hlast]
  rw [← hsplit, hn.trim_eq]

/-- **The arguments are the texts between the commas**, as they stand. -/
theorem argumentTexts_join (has : AreArguments as) : argumentTexts (join "," as) = as := by
  obtain ⟨a, rest, rfl⟩ := List.exists_cons_of_ne_nil has.nonempty
  have hcomma : ∀ b ∈ a :: rest, ',' ∉ b := fun b hb h => has.plain b hb ',' h List.mem_cons_self
  have hnotBlank : ∃ c ∈ join "," (a :: rest), Text.isBlank c = false := by
    cases rest with
    | nil => exact has.notBlank a rfl
    | cons b rest => exact ⟨',', by simp [join], rfl⟩
  obtain ⟨c, hc, hblank⟩ := hnotBlank
  rw [argumentTexts, if_neg (Text.trim_ne_nil_of_mem hc hblank)]
  have hsplit : Text.split ',' (join [','] (a :: rest)) = a :: rest.map ([] ++ ·) :=
    Text.split_join (by simp) hcomma
  simpa using hsplit

/-! ## Cutting a reference -/

/-- A reference ends at the first closing bracket when no other bracket is in front of it. -/
theorem referenceRest_of_plain {t : Text} (ht : ∀ c ∈ ['[', ']', '\r', '\n'], c ∉ t) (w : Text) :
    referenceRest 1 (t ++ ']' :: w) = some (t.length + 1) := by
  induction t with
  | nil => rfl
  | cons c t ih =>
    have hne : ∀ d ∈ ['[', ']', '\r', '\n'], c ≠ d := by
      rintro d hd rfl
      exact ht c hd List.mem_cons_self
    have hline : isLineEnd c = false := by
      rw [isLineEnd, Bool.or_eq_false_iff, beq_eq_false_iff_ne, beq_eq_false_iff_ne]
      exact ⟨hne _ (by decide), hne _ (by decide)⟩
    rw [List.cons_append, referenceRest, hline, if_neg Bool.false_ne_true,
      if_neg (hne _ (by decide)), if_neg (hne _ (by decide)),
      ih fun d hd hmem => ht d hd (List.mem_cons_of_mem c hmem)]
    rfl

/-- The move at a reference takes all of it. -/
theorem move_span (hn : n.IsTemplateName) (has : AreArguments as) (fresh : Bool) (w : Text) :
    (Mode.body fresh).move '[' (callText n as ++ [']'] ++ w) =
      .ok ⟨some .reference, (callText n as ++ [']']).length, .body false⟩ := by
  have hrest : referenceRest 1 (callText n as ++ [']'] ++ w) =
      some (callText n as ++ [']']).length := by
    rw [List.append_assoc, List.singleton_append, List.length_append]
    exact referenceRest_of_plain (fun c hc => notMem_callText hn has hc) w
  have hblock : blockLength? ('[' :: (callText n as ++ [']'] ++ w)) = none := rfl
  have hcontent : content '[' (callText n as ++ [']'] ++ w) =
      (.reference, (callText n as ++ [']']).length) := by
    unfold content
    simp only [hblock, hrest]
    rfl
  have hkeyword : (if fresh = true then Mode.keywordMove? ('[' :: (callText n as ++ [']'] ++ w))
      else none) = none := by
    rw [Mode.keywordMove?_of_other (by decide) (by decide), ite_self]
  rw [Mode.move, Mode.moveBody, Mode.newline?_of_ne (by decide) (by decide), hkeyword]
  simp only [hcontent]
  rfl

/-- **A reference in a body line is one token**, at any place and before anything. -/
theorem scanFrom_span (hn : n.IsTemplateName) (has : AreArguments as) (fresh : Bool)
    (place : Position) (w : Text) :
    Token.scanFrom (.body fresh) place (span n as ++ w) =
      (Token.scanFrom (.body false) (place.after (span n as)) w).map
        (⟨.reference, span n as, place⟩ :: ·) := by
  have htake := Token.scanFrom_take (move_span hn has fresh w) place
  rwa [List.take_left, List.drop_left] at htake

/-- **How a document with one reference is read**: as one template with one alternative, whose only
fragment is the reference. -/
theorem readDocument_span (hn : n.IsTemplateName) (has : AreArguments as) (label : Text) :
    ∃ t a, Template.readDocument label (Template.onlyLine (span n as)) = .ok [t] ∧
      t.name = "t".toList ∧ t.body = .normal [a] ∧
      a.fragments.map Fragment.content = [(.reference, span n as)] := by
  have hline := @Cuts.take _ _ _ _ _ _ [(.newline, ['\n']), (.finish, [])]
    (move_span hn has true ['\n']) (by rw [List.drop_left]; exact Cuts.lastEnd)
  rw [List.take_left] at hline
  have hcuts : Cuts .between (Template.onlyLine (span n as))
      (Template.onlyLinePieces [(.reference, span n as)]) :=
    Cuts.onlyLine (by rintro c ⟨⟩; rfl) hline
  refine Template.readDocument_onlyLine label hcuts fun q hq => ?_
  rw [List.mem_singleton.1 hq]
  exact ⟨rfl, rfl⟩

end

end Reference

end Phrasebook
