import Phrasebook.Proofs.Document.Moves
import Phrasebook.Proofs.Document.Relined

/-!
# Documents one behind the other

Complete lines in front of a document leave it as it is, only further down: no mode, no keyword, no
bracket or brace reaches across the end of a line.  The one thing that does is a block that is not
closed.

* `CompleteLines`: lines that are cut into tokens, without an open block;
* `Token.scan_append`: the tokens behind complete lines;
* `Skipped`: lines of blanks and comments;
* `Template.readDocument_append`: the templates of a document behind complete lines.
-/

namespace Phrasebook

open Scan
open Text (atLineEnd_cons firstLine firstLine_append firstLine_cons prefix_firstLine_iff)

/-! ## Further down -/

theorem Position.next_lowered (p : Position) (c : Char) (n : Nat) :
    (p.relined (· + n)).next c = (p.next c).relined (· + n) := by
  by_cases hc : c = '\n'
  · simp [Position.next, Position.relined, hc, Nat.add_right_comm]
  · simp [Position.next, Position.relined, hc]

theorem Position.after_lowered (p : Position) (t : Text) (n : Nat) :
    (p.relined (· + n)).after t = (p.after t).relined (· + n) := by
  induction t generalizing p with
  | nil => rfl
  | cons c t ih =>
    show ((p.relined (· + n)).next c).after t = _
    rw [Position.next_lowered, ih]
    rfl

namespace Token

theorem relinedScan_cons (g : Nat → Nat) (k : Token) (x : Except ScanFault (List Token)) :
    relinedScan g (x.map (k :: ·)) = (relinedScan g x).map (k.relined g :: ·) := by
  cases x <;> rfl

/-- A text that begins some lines further down. -/
theorem scanFrom_lowered (n : Nat) (m : Mode) (p : Position) (t : Text) :
    scanFrom m (p.relined (· + n)) t = relinedScan (· + n) (scanFrom m p t) := by
  induction m, p, t using scanFrom_induction with
  | finish m p =>
    rw [scanFrom_nil, scanFrom_nil]
    rfl
  | fault m p c t cause hmove =>
    rw [scanFrom_error hmove, scanFrom_error hmove]
    rfl
  | skip m p c t i hmove ih => rw [scanFrom_skip hmove, scanFrom_skip hmove, p.after_lowered, ih]
  | take m p c t i k hmove ih =>
    rw [scanFrom_take hmove, scanFrom_take hmove, p.after_lowered, ih, relinedScan_cons]
    rfl

end Token

/-! ## One move with more behind it -/

namespace Mode

variable {m : Mode} {c : Char} {t : Text} {move : Move}

theorem firstLine_append_of_mem (h : '\n' ∈ t) (s : Text) : firstLine (t ++ s) = firstLine t := by
  obtain ⟨a, b, rfl⟩ := List.append_of_mem h
  rw [List.append_assoc, List.cons_append, firstLine_append (atLineEnd_cons _),
    firstLine_append (atLineEnd_cons _)]

theorem newline_notMem_firstLine (t : Text) : '\n' ∉ firstLine t := by
  intro h
  have hall : (firstLine t).all (· ≠ '\n') = true := List.all_takeWhile
  cases List.all_eq_true.1 hall _ h

/-- At the end of a line every move is the same, whatever is behind it. -/
theorem move_newline? {n : Nat} (h : newline? (c :: t) = some n) :
    m.move c t = .ok (m.endMove (n - 1)) ∧ ∀ s, m.move c (t ++ s) = .ok (m.endMove (n - 1)) := by
  unfold newline? at h
  split at h
  · rename_i heq
    cases heq
    cases h
    exact ⟨move_feed m t, fun s => move_feed m (t ++ s)⟩
  · rename_i heq
    cases heq
    cases h
    exact ⟨move_return m _, fun s => move_return m _⟩
  · cases h

/-- A block that is not closed is cut as text. -/
theorem content_open (hblock : blockLength? ('\x60' :: t) = none) :
    (content '\x60' t).1 = .text := by
  unfold content
  rw [hblock]
  rfl

theorem alike_append (hfeed : '\n' ∈ t) (hnewline : newline? (c :: t) = none)
    (hmark : ¬ blockMark <+: c :: t) (s : Text) : Alike c t (t ++ s) := by
  have hc : c ≠ '\n' := ne_newline_of_newline? hnewline
  have hline : ∀ u : Text, firstLine u = u.takeWhile (· ≠ '\n') := fun u => rfl
  have hsame := firstLine_append_of_mem hfeed s
  have hmark' : ¬ blockMark <+: c :: (t ++ s) := by
    rw [← prefix_firstLine_iff newline_notMem_blockMark, firstLine_cons hc, hsame,
      ← firstLine_cons hc, prefix_firstLine_iff newline_notMem_blockMark]
    exact hmark
  have hblock : ∀ u, ¬ blockMark <+: c :: u → blockLength? (c :: u) = none := by
    intro u hu
    rw [blockLength?_eq_none_iff]
    intro rest hrest
    exact absurd ⟨rest, hrest.symm⟩ hu
  have hnewline' : newline? (c :: (t ++ s)) = none := by
    obtain ⟨hfeed', hreturn⟩ := newline?_eq_none_iff.1 hnewline
    refine newline?_eq_none_iff.2 ⟨hfeed', fun h hhead => hreturn h ?_⟩
    cases t with
    | nil => simp at hfeed
    | cons d t => exact hhead
  have hleft := alike_takeWhile keepsLine_ne_newline (decide_eq_true hc)
    (expressionRest_firstLine t) hnewline (hblock t hmark)
  have hright := alike_takeWhile keepsLine_ne_newline (decide_eq_true hc)
    (expressionRest_firstLine (t ++ s)) hnewline' (hblock _ hmark')
  rw [← hline, hsame, hline] at hright
  exact hleft.trans hright.symm

/-- A move is the same with more behind its line, unless it is made at an open block. -/
theorem move_append (hfeed : '\n' ∈ c :: t) (hmove : m.move c t = .ok move)
    (hopen : move.kind = some .text → ¬ blockMark <+: c :: t) (s : Text) :
    m.move c (t ++ s) = .ok move := by
  cases hnewline : newline? (c :: t) with
  | some n =>
    obtain ⟨hsame, hmore⟩ := move_newline? (m := m) hnewline
    rw [hmore s, ← hsame, hmove]
  | none =>
    by_cases hmark : blockMark <+: c :: t
    · obtain ⟨rest, hrest⟩ := hmark
      obtain rfl : '\x60' = c := (List.cons.inj hrest).1
      cases hblock : blockLength? ('\x60' :: t) with
      | some n =>
        have hlength : (('\x60' :: t).take n).length = n := by
          rw [List.length_take, Nat.min_eq_left (blockLength?_le hblock)]
        have hclosed : blockLength? (('\x60' :: t).take n ++ ('\x60' :: t).drop n) =
            some (('\x60' :: t).take n).length := by
          rw [List.take_append_drop, hblock, hlength]
        have hmore := blockLength?_append hclosed (('\x60' :: t).drop n ++ s)
        rw [← List.append_assoc, List.take_append_drop, hlength] at hmore
        rw [move_block hblock] at hmove
        exact (move_block hmore).trans hmove
      | none =>
        rw [move_mark, content_open hblock] at hmove
        cases m with
        | between => cases hmove
        | declaration => cases hmove
        | body fresh =>
          cases hmove
          exact absurd ⟨rest, hrest⟩ (hopen rfl)
    · have hmem : '\n' ∈ t := by
        rcases List.mem_cons.1 hfeed with heq | hmem
        · exact absurd heq.symm (ne_newline_of_newline? hnewline)
        · exact hmem
      rw [move_congr (alike_append hmem hnewline hmark s), hmove]

/-- What takes the last line feed leads between lines. -/
theorem between_of_drop (hend : (c :: t).getLast? = some '\n')
    (hmove : m.move c t = .ok move) (hdrop : t.drop move.extra = []) : move.mode = .between := by
  have htake : t.take move.extra = t := List.take_of_length_le (List.drop_eq_nil_iff.1 hdrop)
  cases hnewline : newline? (c :: t) with
  | some n =>
    rw [(move_newline? hnewline).1] at hmove
    cases hmove
    cases m <;> rfl
  | none =>
    exfalso
    cases hblock : blockLength? (c :: t) with
    | some n =>
      -- the last character of a block is one of its mark
      obtain ⟨inner, hinner⟩ := take_block hblock
      rw [move_block hblock] at hmove
      cases m with
      | between => cases hmove
      | declaration => cases hmove
      | body fresh =>
        cases hmove
        rw [htake] at hinner
        rw [hinner, List.getLast?_append] at hend
        simp [blockMark] at hend
    | none =>
      have hc : c ≠ '\n' := ne_newline_of_newline? hnewline
      have hline := take_move_prefix keepsLine_ne_newline (decide_eq_true hc)
        (expressionRest_firstLine t) hnewline hblock hmove
      rw [htake] at hline
      have hmem : '\n' ∈ t := by
        rcases List.mem_cons.1 (List.mem_of_getLast? hend) with heq | hmem
        · exact absurd heq.symm hc
        · exact hmem
      exact newline_notMem_firstLine t (hline.subset hmem)

end Mode

/-! ## Complete lines -/

/-- Does a text begin nowhere where a block is opened? -/
def BlocksClosed (t : Text) (tokens : List Token) : Prop :=
  ∀ k ∈ tokens, k.kind = .text → ∀ before after, t = before ++ blockMark ++ after →
    k.position ≠ .behind before

instance (t : Text) (tokens : List Token) : Decidable (BlocksClosed t tokens) :=
  decidable_of_iff (∀ k ∈ tokens, k.kind = .text → ∀ before ∈ t.inits,
      blockMark.isPrefixOf (t.drop before.length) = true → k.position ≠ .behind before) <| by
    constructor
    · rintro h k hk htext before after rfl
      refine h k hk htext before ((List.mem_inits _ _).2 ⟨blockMark ++ after, by simp⟩) ?_
      rw [List.append_assoc, List.drop_left, List.isPrefixOf_iff_prefix]
      exact List.prefix_append _ _
    · intro h k hk htext before hbefore hmark
      obtain ⟨rest, rfl⟩ := (List.mem_inits _ _).1 hbefore
      rw [List.drop_left, List.isPrefixOf_iff_prefix] at hmark
      obtain ⟨after, rfl⟩ := hmark
      exact h k hk htext before after (List.append_assoc _ _ _).symm

/-- Lines each of which has its end, cut into tokens, with every block closed. -/
structure CompleteLines (t : Text) (tokens : List Token) : Prop where
  scans : Token.scan t = .ok tokens
  ends : t = [] ∨ t.getLast? = some '\n'
  closed : BlocksClosed t tokens

namespace Token

/-- What is left of lines is lines. -/
theorem getLast?_drop {c : Char} {t : Text} {n : Nat} (h : (c :: t).getLast? = some '\n') :
    t.drop n = [] ∨ (t.drop n).getLast? = some '\n' := by
  have hsplit : c :: t = (c :: t.take n) ++ t.drop n := by
    rw [List.cons_append, List.take_append_drop]
  cases hrest : (t.drop n).getLast? with
  | none => exact .inl (List.getLast?_eq_none_iff.1 hrest)
  | some d =>
    rw [hsplit, List.getLast?_append, hrest] at h
    exact .inr h

/-- The tokens of lines are those of the lines, and the tokens of what is behind them. -/
theorem scanFrom_append (m : Mode) (before t : Text) {tokens : List Token}
    (hmode : t = [] → m = .between) (hend : t = [] ∨ t.getLast? = some '\n')
    (h : scanFrom m (.behind before) t = .ok tokens) (hclosed : BlocksClosed (before ++ t) tokens) :
    ∃ us, tokens = us ++ [⟨.finish, [], .behind (before ++ t)⟩] ∧
      (us.getLast?.map (·.kind.modeBehind)).getD m = .between ∧
      ∀ s, scanFrom m (.behind before) (t ++ s) =
        (scanFrom .between (.behind (before ++ t)) s).map (us ++ ·) := by
  generalize hp : Position.behind before = p at h ⊢
  induction m, p, t using scanFrom_induction generalizing before tokens with
  | finish m p =>
    rw [scanFrom_nil] at h
    cases h
    obtain rfl := hmode rfl
    refine ⟨[], by simp [hp], rfl, fun s => ?_⟩
    rw [List.append_nil, List.nil_append, hp]
    cases scanFrom .between p s <;> rfl
  | fault m p c t cause hmove =>
    rw [scanFrom_error hmove] at h
    cases h
  | skip m p c t n hmove ih =>
    subst hp
    have hlast : (c :: t).getLast? = some '\n' := hend.resolve_left (List.cons_ne_nil c t)
    have hsplit : before ++ c :: t.take n ++ t.drop n = before ++ c :: t := by simp
    rw [scanFrom_skip hmove, Position.after_behind] at h
    rw [Position.after_behind] at ih
    obtain ⟨us, htokens, hbetween, hmore⟩ := ih (before ++ c :: t.take n)
      (fun hnil => Mode.between_of_drop hlast hmove hnil) (getLast?_drop hlast)
      (hsplit ▸ hclosed) rfl h
    refine ⟨us, hsplit ▸ htokens, hbetween, fun s => ?_⟩
    have hmove' := Mode.move_append (List.mem_of_getLast? hlast) hmove (fun htext => by cases htext) s
    have hle := Mode.extra_le hmove
    rw [List.cons_append, scanFrom_skip hmove', Position.after_behind,
      List.take_append_of_le_length hle, List.drop_append_of_le_length hle, hmore s, hsplit]
  | take m p c t n k hmove ih =>
    subst hp
    have hlast : (c :: t).getLast? = some '\n' := hend.resolve_left (List.cons_ne_nil c t)
    have hsplit : before ++ c :: t.take n ++ t.drop n = before ++ c :: t := by simp
    obtain ⟨found, hrest, rfl⟩ := scanFrom_take_ok hmove h
    rw [Position.after_behind] at ih hrest
    obtain ⟨us, rfl, hbetween, hmore⟩ := ih (before ++ c :: t.take n)
      (fun hnil => Mode.between_of_drop hlast hmove hnil) (getLast?_drop hlast)
      (hsplit ▸ fun j hj => hclosed j (List.mem_cons_of_mem _ hj)) rfl hrest
    have hopen : some k = some .text → ¬ blockMark <+: c :: t := by
      rintro htext ⟨rest, hmark⟩
      refine hclosed _ List.mem_cons_self (Option.some.inj htext) before rest ?_ rfl
      rw [List.append_assoc, hmark]
    have hmove' := fun s => Mode.move_append (List.mem_of_getLast? hlast) hmove hopen s
    have hle := Mode.extra_le hmove
    refine ⟨⟨k, c :: t.take n, .behind before⟩ :: us, by rw [hsplit]; rfl, ?_, fun s => ?_⟩
    · rw [List.getLast?_cons]
      cases hus : us.getLast? with
      | none =>
        rw [hus] at hbetween
        exact hbetween
      | some last =>
        rw [hus] at hbetween
        exact hbetween
    · rw [List.cons_append, scanFrom_take (hmove' s), Position.after_behind,
        List.take_append_of_le_length hle, List.drop_append_of_le_length hle, hmore s, hsplit]
      cases scanFrom .between (.behind (before ++ c :: t)) s <;> rfl

/-- Behind lines a line begins. -/
theorem behind_lines {t : Text} (h : t = [] ∨ t.getLast? = some '\n') :
    Position.behind t = Position.start.relined (· + List.count '\n' t) := by
  rcases h with rfl | h
  · rfl
  · obtain ⟨u, rfl⟩ := List.getLast?_eq_some_iff.1 h
    simp [Position.behind, Position.relined, Position.start]

/-- **The tokens behind complete lines**: those of the lines without the end, and those of the
document behind them, so many lines further down. -/
theorem scan_append {t : Text} {tokens : List Token} (h : CompleteLines t tokens) :
    ∃ us e, tokens = us ++ [e] ∧ e.kind = .finish ∧ (∀ k ∈ us.getLast?, k.kind = .newline) ∧
      ∀ s, scan (t ++ s) = (relinedScan (· + List.count '\n' t) (scan s)).map (us ++ ·) := by
  obtain ⟨us, rfl, hbetween, hmore⟩ := scanFrom_append .between [] t (fun _ => rfl) h.ends h.scans h.closed
  refine ⟨us, _, rfl, rfl, fun k hk => ?_, fun s => ?_⟩
  · have hne : k.kind ≠ .finish := by
      obtain ⟨vs, e, heq, -, hvs⟩ := ended_of_scan h.scans
      obtain rfl := (List.append_inj' heq rfl).1
      exact hvs k (List.mem_of_getLast? hk)
    rw [Option.mem_def.1 hk] at hbetween
    cases hkind : k.kind <;> simp [hkind, TokenKind.modeBehind] at hbetween hne ⊢
  · rw [scan, scan, ← scanFrom_lowered, ← behind_lines h.ends]
    exact hmore s

end Token

namespace Template

open Grammar

/-! ## Definitions behind definitions -/

variable {label : Text} {ts rest : List Token}

/-- As many rounds as there are tokens are enough. -/
theorem readFrom_enough {rounds rounds' : Nat} (h : ts.length ≤ rounds) (h' : ts.length ≤ rounds') :
    readFrom label rounds ts = readFrom label rounds' ts := by
  induction rounds generalizing ts rounds' with
  | zero =>
    obtain rfl := List.length_eq_zero_iff.1 (Nat.le_zero.1 h)
    cases rounds' <;> rfl
  | succ rounds ih =>
    cases rounds' with
    | zero =>
      obtain rfl := List.length_eq_zero_iff.1 (Nat.le_zero.1 h')
      rfl
    | succ rounds' =>
      rw [readFrom, readFrom]
      split
      · rfl
      · split
        · rfl
        · cases hexpect : expect .hash ts with
          | error f => rfl
          | ok found =>
            obtain ⟨hash, after⟩ := found
            obtain ⟨rfl, hhash⟩ := expect_ok (by decide) hexpect
            show (readDefinition label hash after >>= fun found => _) =
              (readDefinition label hash after >>= fun found => _)
            cases hread : readDefinition label hash after with
            | error f => rfl
            | ok found =>
              have hlt := length_lt_of_definition (readDefinition_ok hhash hread)
              have hrest : readFrom label rounds found.2 = readFrom label rounds' found.2 :=
                ih (by omega) (by omega)
              show (readFrom label rounds found.2 >>= fun more => _) =
                (readFrom label rounds' found.2 >>= fun more => _)
              rw [hrest]

theorem readFrom_append {ds : List DefinitionTokens} (h : ∀ d ∈ ds, d.IsDefinition)
    (hclosed : ∀ l ∈ ds.flatMap (·.lines), l.newline.isSome = true)
    (hrest : isAt .dash rest = false) (rounds : Nat) :
    readFrom label (rounds + ds.length) (ds.flatMap DefinitionTokens.tokens ++ rest) =
      (readFrom label rounds rest).map (ds.map (DefinitionTokens.template label) ++ ·) := by
  induction ds with
  | nil =>
    show readFrom label rounds rest = _
    cases readFrom label rounds rest <;> rfl
  | cons d ds ih =>
    have hds : ∀ d' ∈ ds, d'.IsDefinition := fun d' hd' => h d' (List.mem_cons_of_mem _ hd')
    rw [List.flatMap_cons] at hclosed
    have hlines : ∀ l ∈ d.lines, l.newline.isSome = true := fun l hl =>
      hclosed l (List.mem_append_left _ hl)
    have hdash : isAt .dash (ds.flatMap DefinitionTokens.tokens ++ rest) = false := by
      by_cases hnil : ds = []
      · rw [hnil]
        exact hrest
      · exact isAt_of_isAt (isAt_hash hnil hds rest) (by decide)
    have hd : Definition label _ (d.template label) _ :=
      definition_of_tokens (h d List.mem_cons_self)
        (fun l hl => hlines l (List.mem_of_mem_dropLast hl)) (.inr hlines) hdash
    rw [List.flatMap_cons, List.append_assoc, List.length_cons, ← Nat.add_assoc, readFrom_cons hd,
      ih hds fun l hl => hclosed l (List.mem_append_right _ hl)]
    cases readFrom label rounds rest <;> rfl

/-- The last token of a line that the end of the document ends is no end of a line. -/
theorem newline_of_last {l : LineTokens} (h : l.IsLine)
    (hlast : ∀ k ∈ l.tokens.getLast?, k.kind = .newline) : l.newline.isSome = true := by
  obtain ⟨dash, inside, newline⟩ := l
  cases newline with
  | some e => rfl
  | none =>
    have hmem : ∀ k ∈ (dash :: inside).getLast?, k.kind ≠ .newline := by
      intro k hk
      rcases List.mem_cons.1 (List.mem_of_getLast? hk) with rfl | hk
      · rw [h.dash]
        decide
      · exact (h.inside k hk).1
    have htokens : LineTokens.tokens ⟨dash, inside, none⟩ = dash :: inside := by
      simp [LineTokens.tokens]
    rw [htokens] at hlast
    obtain ⟨k, hk⟩ : ∃ k, (dash :: inside).getLast? = some k :=
      ⟨_, List.getLast?_eq_some_getLast (List.cons_ne_nil dash inside)⟩
    exact absurd (hlast k hk) (hmem k hk)

/-- Definitions whose last token ends a line have an end to each of their lines. -/
theorem lines_closed {ds : List DefinitionTokens} (h : ∀ d ∈ ds, d.IsDefinition)
    (hclosed : ∀ l ∈ (ds.flatMap (·.lines)).dropLast, l.newline.isSome = true)
    (hlast : ∀ k ∈ (ds.flatMap DefinitionTokens.tokens).getLast?, k.kind = .newline) :
    ∀ l ∈ ds.flatMap (·.lines), l.newline.isSome = true := by
  rcases List.eq_nil_or_concat ds with rfl | ⟨ds', d, rfl⟩
  · simp
  · have hd : d.IsDefinition := h d (by simp)
    obtain ⟨ls, l, hlines⟩ : ∃ ls l, d.lines = ls ++ [l] := by
      rcases List.eq_nil_or_concat d.lines with hnil | ⟨ls, l, hlines⟩
      · exact absurd hnil hd.nonempty
      · exact ⟨ls, l, by simpa using hlines⟩
    have hall : (ds' ++ [d]).flatMap (·.lines) = ds'.flatMap (·.lines) ++ ls ++ [l] := by
      simp [hlines]
    have htokens : ∃ before, (ds' ++ [d]).flatMap DefinitionTokens.tokens = before ++ l.tokens := by
      refine ⟨ds'.flatMap DefinitionTokens.tokens ++ (d.hash :: (d.name ++ (d.parameters ++
        d.newline :: ls.flatMap LineTokens.tokens))), ?_⟩
      simp [DefinitionTokens.tokens, hlines]
    obtain ⟨before, hbefore⟩ := htokens
    have hline : l.newline.isSome = true := by
      refine newline_of_last (hd.lines l (by simp [hlines])) fun k hk => hlast k ?_
      rw [List.concat_eq_append, hbefore, Option.mem_def, List.getLast?_append, Option.mem_def.1 hk]
      rfl
    rw [List.concat_eq_append, hall] at hclosed ⊢
    rw [List.dropLast_concat] at hclosed
    intro l' hl'
    rcases List.mem_append.1 hl' with hl' | hl'
    · exact hclosed l' hl'
    · rw [List.mem_singleton.1 hl']
      exact hline

/-- The templates of tokens behind the tokens of complete lines. -/
theorem readAll_append {us vs : List Token} {e : Token} {templates : List Template}
    (h : readAll label (us ++ [e]) = .ok templates) (hended : Ended (us ++ [e]))
    (hlast : ∀ k ∈ us.getLast?, k.kind = .newline) (hdash : isAt .dash vs = false) :
    readAll label (us ++ vs) = (readAll label vs).map (templates ++ ·) := by
  obtain ⟨ds, ⟨hds, hclosed, e', -, htokens⟩, rfl⟩ := (document_iff hended).1 (readAll_iff.1 h)
  obtain ⟨rfl, -⟩ := List.append_inj' htokens rfl
  have hlines := lines_closed hds hclosed hlast
  generalize hus : ds.flatMap DefinitionTokens.tokens = us
  calc readAll label (us ++ vs)
      = readFrom label ((us ++ vs).length + ds.length) (us ++ vs) :=
        readFrom_enough (Nat.le_refl _) (Nat.le_add_right _ _)
    _ = (readFrom label (us ++ vs).length vs).map (ds.map (DefinitionTokens.template label) ++ ·) := by
        rw [← hus]
        exact readFrom_append hds hlines hdash _
    _ = (readAll label vs).map (ds.map (DefinitionTokens.template label) ++ ·) := by
        rw [readAll, readFrom_enough (by simp) (Nat.le_refl vs.length)]

end Template

/-! ## Skipped lines -/

/-- A line of blanks, or a comment behind blanks. -/
def IsSkipped (l : Text) : Prop :=
  ∃ blanks comment returns : Text, l = blanks ++ (comment ++ (returns ++ ['\n'])) ∧
    (∀ c ∈ blanks, isBlank c = true) ∧
    (comment = [] ∨ ∃ sign inside, comment = sign :: inside ∧ (sign = '>' ∨ sign = '$') ∧
      ∀ c ∈ inside, isLineEnd c = false) ∧
    ∀ c ∈ returns, c = '\r'

namespace Token

theorem scanFrom_layout {u : Text} (hu : ∀ c ∈ u, (isBlank c || isLineEnd c) = true)
    (p : Position) (s : Text) :
    scanFrom .between p (u ++ s) = scanFrom .between (p.after u) s := by
  induction u generalizing p with
  | nil => rfl
  | cons c u ih =>
    have hmove : Mode.between.move c (u ++ s) = .ok ⟨none, 0, .between⟩ := by
      rw [Mode.move, Mode.moveBetween, if_pos (hu c List.mem_cons_self)]
    rw [List.cons_append, scanFrom_skip hmove]
    exact ih (fun d hd => hu d (List.mem_cons_of_mem c hd)) (p.next c)

theorem scanFrom_comment {sign : Char} {inside s : Text} (hsign : sign = '>' ∨ sign = '$')
    (hinside : ∀ c ∈ inside, isLineEnd c = false) (hs : ∀ c ∈ s.head?, isLineEnd c = true)
    (p : Position) :
    scanFrom .between p (sign :: inside ++ s) =
      scanFrom .between (p.after (sign :: inside)) s := by
  have hrun : run (!isLineEnd ·) (inside ++ s) = inside.length := by
    have hkeep : ∀ c ∈ inside, (!isLineEnd c) = true := fun c hc => by simp [hinside c hc]
    rw [run, List.takeWhile_append_of_pos hkeep]
    cases s with
    | nil => simp
    | cons c s => rw [List.takeWhile_cons_of_neg (by simp [hs c rfl]), List.append_nil]
  have hmove : Mode.between.move sign (inside ++ s) = .ok ⟨none, inside.length, .between⟩ := by
    rw [← hrun]
    rcases hsign with rfl | rfl <;> rfl
  rw [List.cons_append, scanFrom_skip hmove, List.take_left, List.drop_left]

/-- A skipped line is layout. -/
theorem scanFrom_skipped {l : Text} (h : IsSkipped l) (p : Position) (s : Text) :
    scanFrom .between p (l ++ s) = scanFrom .between (p.after l) s := by
  obtain ⟨blanks, comment, returns, rfl, hblanks, hcomment, hreturns⟩ := h
  have hend : ∀ c ∈ returns ++ ['\n'], isLineEnd c = true := by
    intro c hc
    rcases List.mem_append.1 hc with hc | hc
    · rw [hreturns c hc]
      rfl
    · rw [List.mem_singleton.1 hc]
      rfl
  have hlayout : ∀ q : Position, scanFrom .between q (returns ++ ['\n'] ++ s) =
      scanFrom .between (q.after (returns ++ ['\n'])) s := fun q =>
    scanFrom_layout (fun c hc => by simp [hend c hc]) q s
  have hafter : ∀ (q : Position) (u v : Text), q.after (u ++ v) = (q.after u).after v :=
    fun q u v => List.foldl_append
  rw [List.append_assoc, scanFrom_layout (fun c hc => by simp [hblanks c hc]), hafter, hafter,
    List.append_assoc]
  rcases hcomment with rfl | ⟨sign, inside, rfl, hsign, hinside⟩
  · exact hlayout _
  · have hhead : ∀ c ∈ (returns ++ ['\n'] ++ s).head?, isLineEnd c = true := by
      intro c hc
      cases returns with
      | nil =>
        cases hc
        rfl
      | cons r returns =>
        cases hc
        exact hend _ List.mem_cons_self
    rw [scanFrom_comment hsign hinside hhead, hlayout]

theorem scanFrom_skippedAll {ls : List Text} (h : ∀ l ∈ ls, IsSkipped l) (p : Position) (s : Text) :
    scanFrom .between p (ls.flatten ++ s) = scanFrom .between (p.after ls.flatten) s := by
  induction ls generalizing p with
  | nil => rfl
  | cons l ls ih =>
    rw [List.flatten_cons, List.append_assoc, scanFrom_skipped (h l List.mem_cons_self),
      ih (fun l' hl' => h l' (List.mem_cons_of_mem l hl'))]
    exact congrArg (scanFrom .between · s) List.foldl_append.symm

theorem getLast?_skippedAll {ls : List Text} (h : ∀ l ∈ ls, IsSkipped l) :
    ls.flatten = [] ∨ ls.flatten.getLast? = some '\n' := by
  rcases List.eq_nil_or_concat ls with rfl | ⟨ls', l, rfl⟩
  · exact .inl rfl
  · obtain ⟨blanks, comment, returns, rfl, -⟩ := h l (by simp)
    exact .inr (by simp)

/-- Skipped lines in front of a document move it down. -/
theorem scan_skippedAll {ls : List Text} (h : ∀ l ∈ ls, IsSkipped l) (s : Text) :
    scan (ls.flatten ++ s) = relinedScan (· + List.count '\n' ls.flatten) (scan s) := by
  have hplace : Position.start.after ls.flatten = Position.start.relined (· + List.count '\n' ls.flatten) := by
    rw [← behind_lines (getLast?_skippedAll h)]
    exact Position.after_behind [] ls.flatten
  rw [scan, scanFrom_skippedAll h, hplace, scanFrom_lowered, scan]

end Token

/-! ## Documents -/

theorem relinedScan_append (g : Nat → Nat) (us : List Token) (x : Except ScanFault (List Token)) :
    relinedScan g (x.map (us ++ ·)) = (relinedScan g x).map (us.map (Token.relined g) ++ ·) := by
  cases x with
  | error f => rfl
  | ok tokens => exact congrArg Except.ok List.map_append

namespace Template

open Token

/-- **Complete lines in front of a document.**  The tokens of both are the tokens of the lines and
those of the document, and if the document begins with no body line, the templates of both are the
templates of the lines and those of the document; what is behind the lines, faults included, is only
told further down.  Lines of blanks and comments change nothing but lines. -/
theorem readDocument_append {t : Text} {tokens : List Token} (h : CompleteLines t tokens) :
    (∀ s, scan (t ++ s) = (relinedScan (· + List.count '\n' t) (scan s)).map (tokens.dropLast ++ ·)) ∧
    (∀ s f, scan s = .error f → ∀ path,
      (scan (t ++ s)).mapError (ScanFault.toFailure path) =
        .error ((f.toFailure path).relined (· + List.count '\n' t))) ∧
    (∀ label templates, readDocument label t = .ok templates →
      ∀ s, (∀ more, scan s = .ok more → ∀ k ∈ more.head?, k.kind ≠ .dash) →
        readDocument label (t ++ s) =
          (relinedRead (· + List.count '\n' t) (readDocument label s)).map (templates ++ ·)) ∧
    (∀ ls : List Text, (∀ l ∈ ls, IsSkipped l) → ∀ s,
      relinedScan (fun _ => 0) (scan (t ++ (ls.flatten ++ s))) =
        relinedScan (fun _ => 0) (scan (t ++ s)) ∧
      ∀ label, relinedRead (fun _ => 0) (readDocument label (t ++ (ls.flatten ++ s))) =
        relinedRead (fun _ => 0) (readDocument label (t ++ s))) := by
  obtain ⟨us, e, rfl, he, hlast, hscan⟩ := scan_append h
  have hended : ∀ s ts, scan s = .ok ts → Grammar.Ended ts := fun s ts => ended_of_scan
  refine ⟨?_, ?_, ?_, ?_⟩
  · rw [List.dropLast_concat]
    exact hscan
  · intro s f hf path
    rw [hscan s, hf, ← f.toFailure_relined]
    rfl
  · intro label templates hread s hdash
    have hlines : readAll label (us ++ [e]) = .ok templates := by
      rw [readDocument_eq_readScan, h.scans, readScan] at hread
      cases hall : readAll label (us ++ [e]) with
      | error f =>
        rw [hall] at hread
        cases hread
      | ok found =>
        rw [hall] at hread
        exact congrArg Except.ok (Except.ok.inj hread)
    rw [readDocument_eq_readScan, readDocument_eq_readScan, hscan s, ← readScan_relined (hended s)]
    cases hs : scan s with
    | error f => rfl
    | ok more =>
      have hat : isAt .dash (relinedAll (· + List.count '\n' t) more) = false := by
        rw [isAt_relined]
        cases more with
        | nil => rfl
        | cons k more => exact decide_eq_false (hdash _ hs k rfl)
      have hread := readAll_append hlines (ended_of_scan h.scans) hlast hat
      show (readAll label (us ++ relinedAll _ more)).mapError _ =
        ((readAll label (relinedAll _ more)).mapError _).map _
      rw [hread]
      cases readAll label (relinedAll (· + List.count '\n' t) more) <;> rfl
  · intro ls hls s
    have hsame : relinedScan (fun _ => 0) (scan (t ++ (ls.flatten ++ s))) =
        relinedScan (fun _ => 0) (scan (t ++ s)) := by
      rw [hscan, hscan, scan_skippedAll hls, relinedScan_append, relinedScan_append,
        relinedScan_relinedScan, relinedScan_relinedScan, relinedScan_relinedScan]
      rfl
    refine ⟨hsame, fun label => ?_⟩
    rw [readDocument_eq_readScan, readDocument_eq_readScan, ← readScan_relined (hended _),
      ← readScan_relined (hended _), hsame]

/-- A block over two lines in front, a comment and an empty line between, and a rule behind. -/
theorem readDocument_append_block :
    ∃ tokens templates, CompleteLines "#a\n- ```x\ny```\n".toList tokens ∧
      readDocument "d" "#a\n- ```x\ny```\n".toList = .ok templates ∧
      readDocument "d" ("#a\n- ```x\ny```\n".toList ++ "#b\n- ELSE:\n- z".toList) =
        (relinedRead (· + 3) (readDocument "d" "#b\n- ELSE:\n- z".toList)).map (templates ++ ·) ∧
      (readDocument "d" "#b\n- ELSE:\n- z".toList).toOption.isSome = true ∧
      relinedRead (fun _ => 0) (readDocument "d" ("#a\n- ```x\ny```\n".toList ++
          ([" > n\r\n".toList, "\n".toList].flatten ++ "#b\n- ELSE:\n- z".toList))) =
        relinedRead (fun _ => 0)
          (readDocument "d" ("#a\n- ```x\ny```\n".toList ++ "#b\n- ELSE:\n- z".toList)) := by
  have hclosed : ((scan "#a\n- ```x\ny```\n".toList).toOption.any fun tokens =>
      BlocksClosed "#a\n- ```x\ny```\n".toList tokens) = true := by
    decide +kernel
  have hread : (readDocument "d" "#a\n- ```x\ny```\n".toList).toOption.isSome = true := by
    decide +kernel
  have hdash : ((scan "#b\n- ELSE:\n- z".toList).toOption.all fun tokens =>
      ∀ k ∈ tokens.head?, k.kind ≠ .dash) = true := by
    decide +kernel
  cases hscan : scan "#a\n- ```x\ny```\n".toList with
  | error f =>
    rw [hscan] at hclosed
    cases hclosed
  | ok tokens =>
    cases htemplates : readDocument "d" "#a\n- ```x\ny```\n".toList with
    | error f =>
      rw [htemplates] at hread
      cases hread
    | ok templates =>
      rw [hscan] at hclosed
      have hlines : CompleteLines "#a\n- ```x\ny```\n".toList tokens :=
        ⟨hscan, .inr (by decide +kernel), of_decide_eq_true hclosed⟩
      obtain ⟨-, -, hdocuments, hskipped⟩ := readDocument_append hlines
      have hskip : ∀ l ∈ [" > n\r\n".toList, "\n".toList], IsSkipped l := by
        intro l hl
        rcases List.mem_cons.1 hl with rfl | hl
        · exact ⟨" ".toList, "> n".toList, "\r".toList, by decide, by simp [isBlank],
            .inr ⟨'>', " n".toList, by decide, .inl rfl, by simp [isLineEnd]⟩, by simp⟩
        · rw [List.mem_singleton.1 hl]
          exact ⟨[], [], [], by decide, by simp, .inl rfl, by simp⟩
      refine ⟨tokens, templates, hlines, rfl, ?_, by decide +kernel, (hskipped _ hskip _).2 "d"⟩
      refine hdocuments "d" templates htemplates _ fun more hmore => ?_
      rw [hmore] at hdash
      exact of_decide_eq_true hdash

end Template

end Phrasebook
