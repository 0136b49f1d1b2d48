import Phrasebook.Proofs.Document.Rejection
import Phrasebook.Proofs.Document.Reprinting

/-!
# Templates in the order of the document

A document is read from its top to its bottom.  No token stands above the one in front of it, and
behind a line end the next line begins; a declaration ends its line.  So the templates of a document
come in the order of their lines, and no two of them are declared on one line.

* `Token.lastLine`, `Laid.lines`: the lines of the tokens of a document;
* `Template.exists_shape`: the definitions of a document;
* `Template.readDocument_lines`: the places of its templates.
-/

namespace Phrasebook

open Scan

/-- The line on which a token ends: a line end leads to the next one. -/
def Token.lastLine (u : Token) : Nat := u.position.line + if u.kind = .newline then 1 else 0

/-- A line end has a line feed. -/
theorem Scan.mem_of_newline? {c : Char} {t : Text} {i : Nat} (h : newline? (c :: t) = some i) :
    '\n' ∈ c :: t.take (i - 1) := by
  unfold newline? at h
  split at h
  · rename_i heq
    cases heq
    exact List.mem_cons_self
  · rename_i heq
    cases heq
    cases h
    simp
  · cases h

theorem Position.line_behind_append (t u : Text) :
    (behind (t ++ u)).line = (behind t).line + List.count '\n' u := by
  rw [behind, behind, List.count_append, Nat.add_assoc]

namespace Laid

variable {m : Mode} {before t : Text} {ss : List Stretch}

/-- **The lines of tokens go up**, and behind a line end the next line begins. -/
theorem lines (h : Laid m before t ss) :
    (∀ u ∈ ss.filterMap Stretch.token?, (Position.behind before).line ≤ u.position.line) ∧
      (ss.filterMap Stretch.token?).Pairwise fun u v => u.lastLine ≤ v.position.line := by
  induction h with
  | finish m before => simp [Stretch.token?]
  | @skip m c before t n ss hmove _ ih =>
    obtain ⟨hlines, hpairs⟩ := ih
    refine ⟨fun u hu => Nat.le_trans ?_ (hlines u hu), hpairs⟩
    rw [Position.line_behind_append]
    exact Nat.le_add_right _ _
  | @take m c before t n k ss hmove _ ih =>
    obtain ⟨hlines, hpairs⟩ := ih
    have hlast : Token.lastLine ⟨k, c :: t.take n, .behind before⟩ ≤
        (Position.behind (before ++ c :: t.take n)).line := by
      rw [Token.lastLine, Position.line_behind_append]
      refine Nat.add_le_add_left ?_ _
      split
      · rename_i hk
        obtain rfl : k = .newline := hk
        obtain ⟨i, hi, rfl⟩ := Mode.move_newline hmove
        exact List.count_pos_iff.2 (mem_of_newline? hi)
      · exact Nat.zero_le _
    have hfirst : ∀ v ∈ ss.filterMap Stretch.token?,
        Token.lastLine ⟨k, c :: t.take n, .behind before⟩ ≤ v.position.line :=
      fun v hv => Nat.le_trans hlast (hlines v hv)
    refine ⟨fun u hu => ?_, List.pairwise_cons.2 ⟨hfirst, hpairs⟩⟩
    rcases List.mem_cons.1 hu with rfl | hu
    · exact Nat.le_refl _
    · exact Nat.le_trans (Nat.le_add_right _ _) (hfirst u hu)

end Laid

namespace Template

variable {label text : Text} {ts : List Template}

/-- **The definitions of a document** that is read, and the templates that they denote. -/
theorem exists_shape (h : readDocument label text = .ok ts) : ∃ tokens ds,
    Token.scan text = .ok tokens ∧ Shape ds tokens ∧
      ts = ds.map (DefinitionTokens.template label) := by
  obtain ⟨tokens, hscan, hdocument⟩ := readDocument_iff.1 h
  obtain ⟨ds, hshape, hts⟩ := (Grammar.document_iff (Token.ended_of_scan hscan)).1 hdocument
  exact ⟨tokens, ds, hscan, hshape, hts⟩

/-- **Templates in the order of the document**: each tells the document it comes from and its line,
which is below the line of the one in front of it. -/
theorem readDocument_lines (h : readDocument label text = .ok ts) :
    (∀ t ∈ ts, t.location = label ++ ":" ++ Text.ofNat t.line) ∧
      ts.Pairwise fun t u => t.line < u.line := by
  obtain ⟨tokens, ds, hscan, hshape, rfl⟩ := exists_shape h
  obtain ⟨ss, hlaid, rfl⟩ := Token.laid_of_scanFrom .between [] text hscan
  obtain ⟨hlines, hpairs⟩ := hlaid.lines
  obtain ⟨e, -, htokens⟩ := hshape.tokens
  rw [htokens] at hlines hpairs
  rw [List.pairwise_append, List.pairwise_flatMap] at hpairs
  obtain ⟨⟨hwithin, hbetween⟩, -, -⟩ := hpairs
  constructor
  · intro t ht
    obtain ⟨d, hd, rfl⟩ := List.mem_map.1 ht
    have hhash : d.hash ∈ ds.flatMap DefinitionTokens.tokens :=
      List.mem_flatMap.2 ⟨d, hd, List.mem_cons_self⟩
    have hline : 1 ≤ d.hash.position.line := hlines _ (List.mem_append_left _ hhash)
    exact if_neg (Nat.ne_of_gt hline)
  · rw [List.pairwise_map]
    refine hbetween.imp_of_mem fun {d d'} hd _ hpair => ?_
    -- the declaration ends its line, and what follows stands below it
    have hinside : d.hash.lastLine ≤ d.newline.position.line :=
      (List.pairwise_cons.1 (hwithin d hd)).1 d.newline (by simp)
    have hbelow : d.newline.lastLine ≤ d'.hash.position.line :=
      hpair d.newline (by simp [DefinitionTokens.tokens]) d'.hash List.mem_cons_self
    rw [Token.lastLine, if_pos (hshape.definitions d hd).newline] at hbelow
    have hhash : d.hash.position.line ≤ d.hash.lastLine := Nat.le_add_right _ _
    exact Nat.lt_of_lt_of_le (Nat.lt_succ_of_le (Nat.le_trans hhash hinside)) hbelow

end Template

end Phrasebook
