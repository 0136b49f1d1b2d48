import Phrasebook.Proofs.Document.Places
import Phrasebook.Proofs.Document.Printing
import Phrasebook.Proofs.Text.Ends

/-!
# A printed document is read again

The templates of a document are printed and read again.  Derivations of the grammar are followed
through the printed text: each line is cut again, with the printed rest of the document behind it,
and no mark of a block may appear in that rest that was not there before.

* `Grammar.Content.reprint`, `Grammar.Lines.reprint`, `Grammar.Definition.reprint`,
  `Grammar.Document.reprint`: the parts of a document;
* `Template.readDocument_printedAll`: the templates of a printed document.
-/

namespace Phrasebook

open Scan
open Text (atLineEnd_cons infix_cons_iff_of_ne isWord join mem_join)

/-- A token somewhere. -/
def Token.ofPiece (p : Piece) : Token := ⟨p.1, p.2, .start⟩

@[simp] theorem Token.piece_ofPiece (p : Piece) : (Token.ofPiece p).piece = p := rfl

theorem Token.map_piece_ofPiece (pieces : List Piece) :
    (pieces.map Token.ofPiece).map Token.piece = pieces := by
  rw [List.map_map]
  exact List.map_id pieces

/-- A stretch of printed text `u` may stand for a stretch of a document `t`: the one is cut into the
given tokens, and has marks of blocks only where the other has. -/
structure Reprint (u t : Text) (pieces : List Piece) : Prop where
  cuts : Cuts .between u pieces
  marks : MarksFrom u t

theorem Reprint.mono {u t t' : Text} {pieces : List Piece} (h : Reprint u t pieces)
    (ht : t <:+: t') : Reprint u t' pieces :=
  ⟨h.cuts, h.marks.trans (.of_isInfix ht)⟩

namespace Cuts

variable {m : Mode} {t : Text} {pieces : List Piece}

/-- Every text is cut up to its end. -/
theorem finish_mem (h : Cuts m t pieces) : (.finish, []) ∈ pieces := by
  induction h with
  | finish => exact List.mem_singleton_self _
  | skip _ _ ih => exact ih
  | take _ _ ih => exact List.mem_cons_of_mem _ ih

theorem dash_value {v : Text} (h : Cuts .between t ((.dash, v) :: pieces)) :
    v = ['-'] ∧ ∃ rest, rest <:+ t ∧ Cuts (.body true) rest pieces := by
  obtain ⟨layout, c, rest, n, rfl, rfl, hmove, hrest⟩ := h.taken (by decide)
  rcases Mode.moveBetween_cases hmove with ⟨-, hm⟩ | ⟨-, hm⟩ | ⟨-, hm⟩ | ⟨rfl, hm⟩
  · cases hm
  · cases hm
  · cases hm
  · cases hm
    exact ⟨rfl, rest, (List.suffix_cons '-' rest).trans (List.suffix_append layout _), hrest⟩

theorem hash_value {v : Text} (h : Cuts .between t ((.hash, v) :: pieces)) :
    v = ['#'] ∧ ∃ rest, rest <:+ t ∧ Cuts .declaration rest pieces := by
  obtain ⟨layout, c, rest, n, rfl, rfl, hmove, hrest⟩ := h.taken (by decide)
  rcases Mode.moveBetween_cases hmove with ⟨-, hm⟩ | ⟨-, hm⟩ | ⟨rfl, hm⟩ | ⟨-, hm⟩
  · cases hm
  · cases hm
  · cases hm
    exact ⟨rfl, rest, (List.suffix_cons '#' rest).trans (List.suffix_append layout _), hrest⟩
  · cases hm

theorem dash (h : Cuts (.body true) t pieces) : Cuts .between ('-' :: t) ((.dash, ['-']) :: pieces) :=
  .take (n := 0) rfl h

theorem hash (h : Cuts .declaration t pieces) :
    Cuts .between ('#' :: t) ((.hash, ['#']) :: pieces) :=
  .take (n := 0) rfl h

end Cuts

namespace Grammar

open Template

variable {label : Text} {ts us vs rest : List Token} {t : Text}

/-! ## Lines -/

/-- What follows the end of a line in a document. -/
theorem LineEnd.follow (hend : LineEnd us vs) (hts : ∀ t ∈ ts, t.kind.endsLine = false)
    {m : Mode} (h : Cuts m t ((ts ++ us).map Token.piece)) :
    ∃ k v pieces, us.map Token.piece = (k, v) :: pieces ∧ k.endsLine = true ∧
      ∀ {m' : Mode} {w : Text}, Cuts m' w ((k, v) :: pieces) →
        ∃ t', t' <:+ w ∧ Cuts .between t' (vs.map Token.piece) := by
  cases hend with
  | @newline e vs he =>
    refine ⟨e.kind, e.value, vs.map Token.piece, rfl, by rw [he]; rfl, ?_⟩
    intro m' w hw
    rw [he] at hw
    obtain ⟨layout, c, rest, n, rfl, -, -, hrest⟩ := hw.taken (by decide)
    refine ⟨rest.drop n, ?_, hrest⟩
    exact (List.drop_suffix n rest).trans
      ((List.suffix_cons c rest).trans (List.suffix_append layout _))
  | finish hat =>
    cases us with
    | nil =>
      -- the tokens of a line do not hold the end of the document
      rw [List.append_nil] at h
      obtain ⟨t, ht, hpiece⟩ := List.mem_map.1 h.finish_mem
      have hkind : t.kind = .finish := congrArg Prod.fst hpiece
      have := hts t ht
      rw [hkind] at this
      cases this
    | cons e us =>
      have he := kind_of_isAt hat
      refine ⟨e.kind, e.value, us.map Token.piece, rfl, by rw [he]; rfl, ?_⟩
      intro m' w hw
      rw [he] at hw
      obtain ⟨hvalue, hnil⟩ := hw.finish_only
      refine ⟨[], List.nil_suffix, ?_⟩
      rw [List.map_cons, hnil, Token.piece, he, hvalue]
      exact .finish _

/-- A body line at the beginning of `t`, with the tokens `vs` behind it, is cut again as it is
printed, whatever printed text follows it. -/
def Reprints (dash : Token) (l : BodyLine) (t : Text) (vs : List Token) : Prop :=
  ∃ t', t' <:+ t ∧ Cuts .between t' (vs.map Token.piece) ∧
    ∀ u pieces, Reprint u t' pieces →
      ∃ ts', Content dash ts' l.core ∧
        Reprint (l.printed ++ u) t
          ((.dash, ['-']) :: (ts'.map Token.piece ++ (.newline, ['\n']) :: pieces))

theorem reprints_plain (dash : Token) (hts : ∀ t ∈ ts, t.kind.endsLine = false)
    (hhead : ∀ t ∈ ts.head?, t.kind.isKeyword = false) (hend : LineEnd us vs)
    (hcuts : Cuts (.body true) t ((ts ++ us).map Token.piece)) (hr : '\r' ∉ t) :
    Reprints dash ⟨dash, none, ts⟩ t vs := by
  obtain ⟨k, v, pieces, hus, hk, hfollow⟩ := hend.follow hts hcuts
  rw [List.map_append, hus] at hcuts
  have hline : ∀ p ∈ ts.map Token.piece, p.1.endsLine = false := by
    intro p hp
    obtain ⟨t, ht, rfl⟩ := List.mem_map.1 hp
    exact hts t ht
  have hfirst : ∀ p ∈ (ts.map Token.piece).head?, p.1.isKeyword = false := by
    intro p hp
    rw [List.head?_map, Option.mem_def, Option.map_eq_some_iff] at hp
    obtain ⟨t, ht, rfl⟩ := hp
    exact hhead t ht
  obtain ⟨layout, w, rfl, hw, hrecut⟩ := hcuts.recut_line hline hfirst hk hr
  obtain ⟨t', hsuffix, ht'⟩ := hfollow hw
  refine ⟨t', hsuffix.trans (List.suffix_append _ w), ht', ?_⟩
  rintro u pieces' ⟨hu, hmarks⟩
  refine ⟨ts, .plain hts hhead, ?_, ?_⟩
  · have hmarks' : MarksFrom ('\n' :: u) w := by
      intro h
      rw [infix_cons_iff_of_ne newline_notMem_blockMark (by decide)] at h
      exact (hmarks h).trans hsuffix.isInfix
    have hagain := (hrecut ('\n' :: u) _ (atLineEnd_cons u) hmarks' hu.newline).dash
    simpa [BodyLine.printed, Alternative.printed, Alternative.source, BodyLine.alternative,
      List.flatMap_map, Token.piece] using hagain
  · have hsource : (ts.map Token.piece).flatMap (·.2) <:+:
        layout ++ (ts.map Token.piece).flatMap (·.2) ++ w := List.infix_append _ _ _
    have hmarks' : MarksFrom ("- ".toList ++ ((ts.map Token.piece).flatMap (·.2) ++ '\n' :: u))
        (layout ++ (ts.map Token.piece).flatMap (·.2) ++ w) := by
      refine .append_of_disjoint (by simp [blockMark]) (.append_cons newline_notMem_blockMark ?_ ?_)
      · exact .of_isInfix hsource
      · exact hmarks.trans (.of_isInfix (hsuffix.trans (List.suffix_append _ w)).isInfix)
    simpa [BodyLine.printed, Alternative.printed, Alternative.source, BodyLine.alternative,
      List.flatMap_map, Token.piece] using hmarks'

theorem reprints_headed (dash : Token) {k : Keyword} {v : Text} {p : Position}
    (hts : ∀ t ∈ ts, t.kind.endsLine = false) (hend : LineEnd us vs)
    (hcuts : Cuts (.body true) t ((⟨.keyword k, v, p⟩ :: ts ++ us).map Token.piece)) :
    Reprints dash ⟨dash, some (k, p), ts⟩ t vs := by
  have hall : ∀ t ∈ ⟨.keyword k, v, p⟩ :: ts, t.kind.endsLine = false := by
    intro t ht
    rcases List.mem_cons.1 ht with rfl | ht
    · rfl
    · exact hts t ht
  obtain ⟨k', v', pieces, hus, -, hfollow⟩ := hend.follow hall hcuts
  have hline := hcuts
  rw [List.map_append, hus] at hline
  obtain ⟨m', w, hw, hafter⟩ := hline.after
  obtain ⟨t', hsuffix, ht'⟩ := hfollow hafter
  refine ⟨t', hsuffix.trans hw, ht', ?_⟩
  rintro u pieces' ⟨hu, hmarks⟩
  have hmarks' : MarksFrom u t := hmarks.trans (.of_isInfix (hsuffix.trans hw).isInfix)
  -- the condition is a token of the line, so its letters are letters of the document
  have hpiece : ∀ tok ∈ ts, tok.piece ∈ ((⟨.keyword k, v, p⟩ :: ts) ++ us).map Token.piece := by
    intro tok htok
    exact List.mem_map_of_mem (List.mem_append_left us (List.mem_cons_of_mem _ htok))
  let l : BodyLine := ⟨dash, some (k, p), ts⟩
  refine ⟨⟨.keyword k, k.name ++ [':'], p⟩ :: l.guardTokens k, .headed ?_, ?_, ?_⟩
  · exact fun tok htok => hts tok (BodyLine.mem_content_of_guardTokens htok)
  · have hcondition : ∀ v ∈ l.guard? k, IsExpressionText v := by
      intro v hv
      obtain ⟨tok, hmem, hvalue⟩ := BodyLine.mem_content_of_guard? hv
      exact hcuts.isExpressionText (.expression, v) (hvalue ▸ hpiece tok hmem) rfl
    have hheading := hu.heading k hcondition
    rw [← BodyLine.piece_guardTokens] at hheading
    exact hheading
  · refine Cuts.marksFrom_heading k ?_ hmarks'
    intro v hv
    obtain ⟨tok, hmem, hvalue⟩ := BodyLine.mem_content_of_guard? hv
    exact .of_isInfix (hcuts.value_isInfix (.expression, v) (hvalue ▸ hpiece tok hmem))

/-- A body line is cut again as it is printed. -/
theorem Content.reprint {dash : Token} {l : BodyLine} (h : Content dash ts l) (hend : LineEnd us vs)
    (hcuts : Cuts (.body true) t ((ts ++ us).map Token.piece)) (hr : '\r' ∉ t) :
    Reprints dash l t vs := by
  cases h with
  | plain hts hhead => exact reprints_plain dash hts hhead hend hcuts hr
  | headed hts => exact reprints_headed dash hts hend hcuts

/-- Body lines are cut again as they are printed. -/
theorem Lines.reprint {ls : List BodyLine} (h : Lines ts ls rest)
    (hcuts : Cuts .between t (ts.map Token.piece)) (hr : '\r' ∉ t) :
    ∃ t', t' <:+ t ∧ Cuts .between t' (rest.map Token.piece) ∧
      ∀ u rest', isAt .dash rest' = false → Reprint u t' (rest'.map Token.piece) →
        ∃ ts', Lines ts' (ls.map BodyLine.core) rest' ∧
          Reprint (ls.flatMap BodyLine.printed ++ u) t (ts'.map Token.piece) := by
  induction h generalizing t with
  | done => exact ⟨t, List.suffix_refl t, hcuts, fun u rest' hat hu => ⟨rest', .done hat, hu⟩⟩
  | @cons dash ts us vs rest l ls hdash hcontent hend _ ih =>
    rw [List.map_cons, Token.piece, hdash] at hcuts
    obtain ⟨hvalue, t₁, ht₁, hline⟩ := hcuts.dash_value
    have hr₁ : '\r' ∉ t₁ := fun hmem => hr (ht₁.subset hmem)
    obtain ⟨t₂, ht₂, hvs, hreprint⟩ := hcontent.reprint hend hline hr₁
    obtain ⟨t', ht', hrest, hmore⟩ := ih hvs fun hmem => hr₁ (ht₂.subset hmem)
    refine ⟨t', ht'.trans (ht₂.trans ht₁), hrest, ?_⟩
    intro u rest' hat hu
    obtain ⟨ts₂, hlines, hu₂⟩ := hmore u rest' hat hu
    obtain ⟨ts', hcontent', hu'⟩ := hreprint _ _ hu₂
    refine ⟨dash :: (ts' ++ Token.ofPiece (.newline, ['\n']) :: ts₂), ?_, ?_⟩
    · exact .cons hdash hcontent' (.newline rfl) hlines
    · have hpieces : (dash :: (ts' ++ Token.ofPiece (.newline, ['\n']) :: ts₂)).map Token.piece =
          (.dash, ['-']) :: (ts'.map Token.piece ++ (.newline, ['\n']) :: ts₂.map Token.piece) := by
        rw [List.map_cons, List.map_append, Token.piece, hdash, hvalue]
        rfl
      rw [hpieces, List.flatMap_cons, List.append_assoc]
      exact hu'.mono ht₁.isInfix

/-! ## Declarations -/

theorem Marked.of_names (mark : TokenKind) (sign : Text) (names : List Text) :
    Marked mark ((names.flatMap fun n => [(mark, sign), (.identifier, n)]).map Token.ofPiece)
      names := by
  induction names with
  | nil => exact .nil
  | cons n names ih => exact .cons rfl rfl ih

theorem Listed.of_names (mark : TokenKind) (sign name : Text) (names : List Text) :
    Listed mark (((.identifier, name) ::
      names.flatMap fun n => [(mark, sign), (.identifier, n)]).map Token.ofPiece) (name :: names) :=
  .intro rfl (.of_names mark sign names)

theorem Marked.mem_names {mark : TokenKind} {names : List Text} (h : Marked mark ts names) :
    ∀ n ∈ names, ∃ i ∈ ts, i.piece = (.identifier, n) := by
  induction h with
  | nil =>
    intro n hn
    cases hn
  | @cons m i ts names _ hi _ ih =>
    intro n hn
    rcases List.mem_cons.1 hn with rfl | hn
    · exact ⟨i, by simp, by rw [Token.piece, hi]⟩
    · obtain ⟨j, hj, hpiece⟩ := ih n hn
      exact ⟨j, by simp [hj], hpiece⟩

theorem Listed.mem_names {mark : TokenKind} {names : List Text} (h : Listed mark ts names) :
    ∀ n ∈ names, ∃ i ∈ ts, i.piece = (.identifier, n) := by
  cases h with
  | @intro i ts names hi hts =>
    intro n hn
    rcases List.mem_cons.1 hn with rfl | hn
    · exact ⟨i, by simp, by rw [Token.piece, hi]⟩
    · obtain ⟨j, hj, hpiece⟩ := hts.mem_names n hn
      exact ⟨j, by simp [hj], hpiece⟩

theorem Parameters.mem_names {names : List Text} (h : Parameters ts names) :
    ∀ n ∈ names, ∃ i ∈ ts, i.piece = (.identifier, n) := by
  cases h with
  | absent =>
    intro n hn
    cases hn
  | empty =>
    intro n hn
    cases hn
  | given _ hts _ =>
    intro n hn
    obtain ⟨i, hi, hpiece⟩ := hts.mem_names n hn
    exact ⟨i, by simp [hi], hpiece⟩

theorem notMem_blockMark {c : Char} (h : (isWord c || c == '-') = true) : c ∉ blockMark := by
  rw [Bool.or_eq_true, beq_iff_eq] at h
  rcases h with h | rfl
  · exact (Cuts.isWord_punctuation h).2.2.2.2.2
  · decide

/-- A declaration is cut as it is printed. -/
theorem reprint_signature {names parameters : List Text} (t : Template) (hus : Listed .dot us names)
    (hname : t.name = join "." names) (hparameters : t.parameters = parameters)
    (hnames : ∀ n ∈ names, IsNameText n) (htexts : ∀ n ∈ parameters, IsNameText n) {u : Text}
    {pieces : List Piece} (hu : Cuts .between u pieces) :
    ∃ us' vs', Listed .dot us' names ∧ Parameters vs' parameters ∧
      Cuts .declaration (t.signature ++ '\n' :: u)
        (us'.map Token.piece ++ (vs'.map Token.piece ++ (.newline, ['\n']) :: pieces)) := by
  obtain ⟨name, names, rfl⟩ : ∃ name rest, names = name :: rest := by
    cases hus
    exact ⟨_, _, rfl⟩
  have hdot : ∃ d s, ".".toList = d :: s ∧ Cuts.EndsName d := ⟨'.', [], rfl, by decide⟩
  have hcomma : ∃ d s, ", ".toList = d :: s ∧ Cuts.EndsName d := ⟨',', [' '], rfl, by decide⟩
  have hend := hu.declarationEnd
  cases parameters with
  | nil =>
    refine ⟨_, [], .of_names .dot ['.'] name names, .absent, ?_⟩
    have hjoined := hend.joined (fun _ _ h => h.dot) hdot hnames (by decide)
    rw [Token.map_piece_ofPiece, Template.signature, if_pos hparameters, hname]
    exact hjoined
  | cons p ps =>
    have hclose := hend.punctuation (c := ')') rfl rfl (by decide)
    have hlist := hclose.joined (fun _ _ h => h.comma) hcomma htexts (by decide)
    have hopen := hlist.punctuation (c := '(') rfl rfl (by decide)
    have hjoined := hopen.joined (fun _ _ h => h.dot) hdot hnames (by decide)
    refine ⟨_, _, .of_names .dot ['.'] name names,
      .given (o := Token.ofPiece (.openParenthesis, ['(']))
        (c := Token.ofPiece (.closeParenthesis, [')'])) rfl (.of_names .comma [','] p ps) rfl, ?_⟩
    rw [Token.map_piece_ofPiece, Template.signature, if_neg (by rw [hparameters]; simp), hname,
      hparameters]
    simp only [List.map_cons, List.map_append, Token.map_piece_ofPiece]
    simpa using hjoined

theorem marksFrom_signature {names parameters : List Text} (tm : Template)
    (hname : tm.name = join "." names) (hparameters : tm.parameters = parameters)
    (hnames : ∀ n ∈ names, IsNameText n) (htexts : ∀ n ∈ parameters, IsNameText n) {u : Text}
    (hu : MarksFrom u t) : MarksFrom ('#' :: (tm.signature ++ '\n' :: u)) t := by
  have hjoin : ∀ (sep : Text) (ns : List Text), (∀ c ∈ sep, c ∉ blockMark) →
      (∀ n ∈ ns, IsNameText n) → ∀ c ∈ join sep ns, c ∉ blockMark := by
    intro sep ns hsep hns c hc
    rcases mem_join hc with hc | ⟨n, hn, hc⟩
    · exact hsep c hc
    · exact notMem_blockMark ((hns n hn).forall_mem c hc)
  have hsignature : ∀ c ∈ tm.signature, c ∉ blockMark := by
    intro c hc
    have hletters := hjoin ".".toList names (by simp [blockMark]) hnames
    rw [Template.signature, hname, hparameters] at hc
    by_cases hnil : parameters = []
    · rw [if_pos hnil] at hc
      exact hletters c hc
    · rw [if_neg hnil, List.mem_append, List.mem_append, List.mem_append] at hc
      rcases hc with ((hc | hc) | hc) | hc
      · exact hletters c hc
      · rw [List.mem_singleton.1 hc]
        decide
      · exact hjoin ", ".toList parameters (by simp [blockMark]) htexts c hc
      · rw [List.mem_singleton.1 hc]
        decide
  refine .append_of_disjoint (a := ['#']) (by simp [blockMark]) (.append_of_disjoint hsignature ?_)
  exact .append_of_disjoint (a := ['\n']) (by simp [blockMark]) hu

/-! ## Documents -/

/-- A definition is cut again as it is printed. -/
theorem Definition.reprint {tm : Template} (h : Definition label ts tm rest)
    (hcuts : Cuts .between t (ts.map Token.piece)) (hr : '\r' ∉ t) :
    ∃ t', t' <:+ t ∧ Cuts .between t' (rest.map Token.piece) ∧
      ∀ u rest', isAt .dash rest' = false → Reprint u t' (rest'.map Token.piece) →
        ∃ ts', Definition label ts' tm rest' ∧ isAt .dash ts' = false ∧
          Reprint (tm.printed ++ u) t (ts'.map Token.piece) := by
  cases h with
  | @intro hash e us vs ws rest names parameters lines body hhash hus hvs he hlines hne hbody =>
    have hnames : ∀ n ∈ names, IsNameText n := by
      intro n hn
      obtain ⟨i, hi, hpiece⟩ := hus.mem_names n hn
      refine hcuts.isNameText (.identifier, n) ?_ rfl
      exact hpiece ▸ List.mem_map_of_mem (by simp [hi])
    have htexts : ∀ n ∈ parameters, IsNameText n := by
      intro n hn
      obtain ⟨i, hi, hpiece⟩ := hvs.mem_names n hn
      refine hcuts.isNameText (.identifier, n) ?_ rfl
      exact hpiece ▸ List.mem_map_of_mem (by simp [hi])
    have hsplit : (hash :: (us ++ (vs ++ e :: ws))).map Token.piece =
        ((hash :: (us ++ vs)).map Token.piece) ++ (.newline, e.value) :: ws.map Token.piece := by
      simp [Token.piece, he]
    have hvalue : hash.piece = (.hash, ['#']) := by
      rw [List.map_cons, Token.piece, hhash] at hcuts
      rw [Token.piece, hhash, hcuts.hash_value.1]
    rw [hsplit] at hcuts
    obtain ⟨m, w, hw, hend⟩ := hcuts.after
    obtain ⟨layout, c, more, n, rfl, -, -, hws⟩ := hend.taken (by decide)
    have hbody₁ : more.drop n <:+ t := by
      refine List.IsSuffix.trans ?_ hw
      exact (List.drop_suffix n more).trans
        ((List.suffix_cons c more).trans (List.suffix_append layout _))
    obtain ⟨t', ht', hrest, hmore⟩ := hlines.reprint hws fun hmem => hr (hbody₁.subset hmem)
    refine ⟨t', ht'.trans hbody₁, hrest, ?_⟩
    intro u rest' hat hu
    obtain ⟨ws', hlines', hu'⟩ := hmore u rest' hat hu
    obtain ⟨us', vs', hus', hvs', hdeclaration⟩ := reprint_signature
      ⟨join "." names, parameters, body, label, hash.position.line⟩ hus rfl rfl hnames htexts
      hu'.cuts
    have hcore : readBody (join "." names) (lines.map BodyLine.core) = .ok body := by
      rw [readBody_core, hbody]
    refine ⟨hash :: (us' ++ (vs' ++ Token.ofPiece (.newline, ['\n']) :: ws')), ?_, ?_, ?_, ?_⟩
    · exact .intro hhash hus' hvs' rfl hlines' (by simpa using hne) hcore
    · exact not_isAt_of_kind hhash (by decide) _
    · have hall := hdeclaration.hash
      simpa [Template.printed, printed_readBody hbody, hvalue] using hall
    · have hmarks := marksFrom_signature
        ⟨join "." names, parameters, body, label, hash.position.line⟩ rfl rfl hnames htexts
        (hu'.mono hbody₁.isInfix).marks
      simpa [Template.printed, printed_readBody hbody] using hmarks

/-- A document is cut again as it is printed. -/
theorem Document.reprint {templates : List Template} (h : Document label ts templates)
    (hcuts : Cuts .between t (ts.map Token.piece)) (hr : '\r' ∉ t) :
    ∃ ts', Document label ts' templates ∧ isAt .dash ts' = false ∧
      Reprint (printedAll templates) t (ts'.map Token.piece) := by
  induction h generalizing t with
  | done =>
    exact ⟨[Token.ofPiece (.finish, [])], .done rfl, rfl, .finish _, .of_isInfix List.nil_infix⟩
  | cons hd _ ih =>
    obtain ⟨t', ht', hrest, hmore⟩ := hd.reprint hcuts hr
    obtain ⟨rest', hdocument, hat, hu⟩ := ih hrest fun hmem => hr (ht'.subset hmem)
    obtain ⟨ts', hdefinition, hat', hu'⟩ := hmore _ rest' hat hu
    exact ⟨ts', .cons hdefinition hdocument, hat', hu'⟩

end Grammar

namespace Template

open Grammar

theorem readDocument_iff {label text : Text} {templates : List Template} :
    readDocument label text = .ok templates ↔
      ∃ tokens, Token.scan text = .ok tokens ∧ Document label tokens templates := by
  unfold readDocument
  cases hscan : Token.scan text with
  | error f => simp
  | ok tokens =>
    cases hread : readAll label tokens with
    | error f => simp [← readAll_iff, hread]
    | ok found => simp [← readAll_iff, hread]

/-- **A printed document denotes the templates it was printed from.**  A document without returns
that is read as some templates may be replaced by what they are printed as: comments, layout and
whatever else is not printed have no influence on how the rest is read. -/
theorem readDocument_printedAll {label source : Text} {templates : List Template}
    (hreturn : '\r' ∉ source) (h : readDocument label source = .ok templates) (label' : Text) :
    ∃ again, readDocument label' (printedAll templates) = .ok again ∧
      again.map bare = templates.map bare := by
  obtain ⟨tokens, hscan, hdocument⟩ := readDocument_iff.1 h
  have hcuts : Cuts .between source (tokens.map Token.piece) :=
    Token.scan_iff.1 ⟨tokens, hscan, rfl⟩
  obtain ⟨ts', hdocument', -, hprinted⟩ := hdocument.reprint hcuts hreturn
  obtain ⟨tokens', hscan', hpieces⟩ := Token.scan_iff.2 hprinted.cuts
  obtain ⟨again, hagain, hbare⟩ := hdocument'.elsewhere label' hpieces
  exact ⟨again, readDocument_iff.2 ⟨tokens', hscan', hagain⟩, hbare⟩

/-- A document with a comment, blanks in its declaration, and text behind its condition. -/
theorem readDocument_printedAll_guarded :
    ∃ source templates again, source = "> note\n# t (x)\n-  IF: \x7bx\x7d rest\n- yes".toList ∧
      '\r' ∉ source ∧ readDocument "d" source = .ok templates ∧
      readDocument "e" (printedAll templates) = .ok again ∧ again.map bare = templates.map bare := by
  have hread : (readDocument "d"
      "> note\n# t (x)\n-  IF: \x7bx\x7d rest\n- yes".toList).toOption.isSome = true := by
    decide +kernel
  cases htemplates : readDocument "d" "> note\n# t (x)\n-  IF: \x7bx\x7d rest\n- yes".toList with
  | error f =>
    rw [htemplates] at hread
    cases hread
  | ok templates =>
    obtain ⟨again, hagain, hbare⟩ := readDocument_printedAll (by decide) htemplates "e"
    exact ⟨_, templates, again, rfl, by decide, htemplates, hagain, hbare⟩

end Template

end Phrasebook
