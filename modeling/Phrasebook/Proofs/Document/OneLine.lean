import Phrasebook.Proofs.Document.Reprinting

/-!
# Documents of one line

The smallest document with an alternative is a template with one body line.  Whatever that line is
cut into, the template has one alternative, and its fragments are these pieces.

* `Cuts.onlyLine`: how such a document is cut;
* `Template.readDocument_onlyLine`: how it is read.
-/

namespace Phrasebook

/-- A document with one template of one body line. -/
def Template.onlyLine (line : Text) : Text := "#t\n- ".toList ++ (line ++ ['\n'])

/-- The pieces of such a document whose line has these pieces. -/
def Template.onlyLinePieces (line : List Piece) : List Piece :=
  (.hash, ['#']) :: (.identifier, ['t']) :: (.newline, ['\n']) :: (.dash, ['-']) ::
    (line ++ [(.newline, ['\n']), (.finish, [])])

/-- The end of such a document. -/
theorem Cuts.lastEnd : Cuts (.body false) ['\n'] [(.newline, ['\n']), (.finish, [])] :=
  (Cuts.finish .between).newline

/-- A body line behind a blank makes a document. -/
theorem Cuts.onlyLine {t : Text} {line : List Piece}
    (hblank : ∀ c ∈ (t ++ ['\n']).head?, Scan.isBlank c = false)
    (h : Cuts (.body true) (t ++ ['\n']) (line ++ [(.newline, ['\n']), (.finish, [])])) :
    Cuts .between (Template.onlyLine t) (Template.onlyLinePieces line) := by
  have hname : IsNameText ['t'] := ⟨'t', [], rfl, rfl, by simp⟩
  have hbody := ((h.blank hblank).dash).declarationEnd
  exact (hbody.identifier hname (by decide)).hash

/-! ## Reading the line -/

/-- What a fragment says, its place aside. -/
def Fragment.content (f : Fragment) : FragmentKind × Text := (f.kind, f.text)

/-- What the fragment of a piece says. -/
def Piece.content (p : Piece) : FragmentKind × Text := (p.1.fragmentKind, p.2)

theorem BodyLine.content_alternative {dash : Token} {keyword : Option (Keyword × Position)}
    {ts : List Token} {line : List Piece} (h : ts.map Token.piece = line) :
    (BodyLine.alternative ⟨dash, keyword, ts⟩).fragments.map Fragment.content =
      line.map Piece.content := by
  rw [← h, BodyLine.alternative, List.map_map, List.map_map]
  rfl

namespace Template

open Grammar

/-- **How a document of one line is read**: as one template with one alternative, whose fragments
are the pieces of the line. -/
theorem readDocument_onlyLine {t : Text} {line : List Piece} (label : Text)
    (h : Cuts .between t (onlyLinePieces line))
    (hline : ∀ p ∈ line, p.1.endsLine = false ∧ p.1.isKeyword = false) :
    ∃ template a, readDocument label t = .ok [template] ∧ template.name = "t".toList ∧
      template.body = .normal [a] ∧ a.fragments.map Fragment.content = line.map Piece.content := by
  obtain ⟨tokens, hscan, hpieces⟩ := Token.scan_iff.2 h
  obtain ⟨hash, ts₁, rfl, hhash, hpieces⟩ := List.map_eq_cons_iff.1 hpieces
  obtain ⟨i, ts₂, rfl, hi, hpieces⟩ := List.map_eq_cons_iff.1 hpieces
  obtain ⟨e, ts₃, rfl, he, hpieces⟩ := List.map_eq_cons_iff.1 hpieces
  obtain ⟨dash, ts₄, rfl, hdash, hpieces⟩ := List.map_eq_cons_iff.1 hpieces
  obtain ⟨ts, us, rfl, hts, hpieces⟩ := List.map_eq_append_iff.1 hpieces
  obtain ⟨e', us₁, rfl, he', hpieces⟩ := List.map_eq_cons_iff.1 hpieces
  obtain ⟨f, us₂, rfl, hf, -⟩ := List.map_eq_cons_iff.1 hpieces
  have hkinds : ∀ t ∈ ts, t.kind.endsLine = false ∧ t.kind.isKeyword = false := by
    intro t ht
    exact hline t.piece (hts ▸ List.mem_map_of_mem ht)
  have hcontent : Content dash ts ⟨dash, none, ts⟩ :=
    .plain (fun t ht => (hkinds t ht).1) fun t ht => (hkinds t (List.mem_of_mem_head? ht)).2
  have hrest : isAt .dash (f :: us₂) = false :=
    not_isAt_of_kind (l := .finish) (congrArg Prod.fst hf) (by decide) us₂
  have hlines : Lines (dash :: (ts ++ e' :: f :: us₂)) [⟨dash, none, ts⟩] (f :: us₂) :=
    .cons (congrArg Prod.fst hdash) hcontent (.newline (congrArg Prod.fst he')) (.done hrest)
  have hbody : readBody (Text.join "." [i.value]) [⟨dash, none, ts⟩] =
      .ok (.normal [BodyLine.alternative ⟨dash, none, ts⟩]) := rfl
  have hdefinition := @Definition.intro label _ _ _ _ _ _ _ _ _ _ (congrArg Prod.fst hhash)
    (.intro (congrArg Prod.fst hi) .nil) .absent (congrArg Prod.fst he) hlines (by simp) hbody
  have hdocument := Document.cons hdefinition (.done (isAt_of_kind (congrArg Prod.fst hf) us₂))
  exact ⟨_, _, readDocument_iff.2 ⟨_, hscan, hdocument⟩, congrArg Prod.snd hi, rfl,
    BodyLine.content_alternative hts⟩

end Template

end Phrasebook
