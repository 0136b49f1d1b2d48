import Mathlib.Data.List.Forall2
import Phrasebook.Proofs.Expression.Names

/-!
# Calls with names as arguments

A name with names in parentheses behind it is read as a call.  Where the name is that of a template
and the scope binds the others, the standard engine asks for the template with what they are bound
to, and what comes back is the value: the text, or the error of the language.

* `Text.callOf`: a call as it is written;
* `Lexeme.ofText?_call`, `Expr.ofText?_call`: how it is read;
* `Engine.sandboxed_call`: what the standard engine makes of it.
-/

namespace Phrasebook

/-! ## How it is written -/

namespace Text

/-- A name with names in parentheses behind it. -/
def callOf (n : Text) (xs : List Text) : Text := n ++ '(' :: (join ", " xs ++ [')'])

variable {n : Text} {xs : List Text}

theorem mem_callOf (hn : n.IsPlainName) (hxs : ∀ x ∈ xs, x.IsPlainName) {c : Char}
    (h : c ∈ callOf n xs) : (c.isAlphanum || c == '_') = true ∨ c ∈ "(, )".toList := by
  have hword : ∀ x : Text, x.IsPlainName → c ∈ x → (c.isAlphanum || c == '_') = true := by
    intro x hx hc
    obtain ⟨-, -, -, -, hall⟩ := hx.split
    exact hall c hc
  rcases List.mem_append.1 h with h | h
  · exact .inl (hword n hn h)
  · rcases List.mem_cons.1 h with rfl | h
    · exact .inr (by decide)
    · rcases List.mem_append.1 h with h | h
      · rcases mem_join h with h | ⟨x, hx, h⟩
        · have hsub : ", ".toList <:+: "(, )".toList := ⟨['('], [')'], rfl⟩
          exact .inr (hsub.subset h)
        · exact .inl (hword x (hxs x hx) h)
      · rw [List.mem_singleton.1 h]
        exact .inr (by decide)

theorem notMem_callOf (hn : n.IsPlainName) (hxs : ∀ x ∈ xs, x.IsPlainName) {c : Char}
    (hword : (c.isAlphanum || c == '_') = false) (hmark : c ∉ "(, )".toList) : c ∉ callOf n xs := by
  intro h
  rcases mem_callOf hn hxs h with h | h
  · rw [hword] at h
    cases h
  · exact hmark h

theorem callOf_ne_nil (n : Text) (xs : List Text) : callOf n xs ≠ [] := by
  rw [callOf]
  exact List.append_ne_nil_of_right_ne_nil n (List.cons_ne_nil _ _)

/-- There is nothing to trim. -/
theorem trim_callOf (hn : n.IsPlainName) (xs : List Text) : trim (callOf n xs) = callOf n xs := by
  refine strip_eq_self ?_ ?_
  · obtain ⟨c, rest, hsplit, -⟩ := hn.split
    rw [callOf, hsplit]
    rintro d hd
    cases hd
    exact hn.isBlank_of_mem (hsplit ▸ List.mem_cons_self)
  · rw [callOf, ← List.cons_append, ← List.append_assoc, List.getLast?_concat]
    rintro d hd
    cases hd
    decide

end Text

/-! ## How it is cut -/

namespace Lexeme

open Text (callOf join)

/-- The lexemes of names between commas, and of the closing parenthesis. -/
def argumentList : List Text → List Lexeme
  | [] => [.mark ")"]
  | [x] => [.name x, .mark ")"]
  | x :: y :: rest => .name x :: .mark "," :: argumentList (y :: rest)

theorem endsName_mark {c : Char} (h : c ∈ "(, )".toList) (rest : Text) : EndsName (c :: rest) := by
  rintro d hd
  cases hd
  have hmark : c ∈ ['(', ',', ' ', ')'] := h
  simp only [List.mem_cons, List.not_mem_nil, or_false] at hmark
  rcases hmark with rfl | rfl | rfl | rfl <;> decide

theorem cut_open (fuel : Nat) (rest : Text) :
    cut (fuel + 1) [] ('(' :: rest) = (cut fuel [')'] rest).map (.mark "(" :: ·) := by
  show (do return Lexeme.mark "(" :: (← cut fuel [')'] rest) : Option _) = _
  cases cut fuel [')'] rest <;> rfl

theorem cut_comma (fuel : Nat) (due : List Char) (rest : Text) :
    cut (fuel + 1) due (',' :: rest) = (cut fuel due rest).map (.mark "," :: ·) := by
  show (do return Lexeme.mark "," :: (← cut fuel due rest) : Option _) = _
  cases cut fuel due rest <;> rfl

theorem cut_blank (fuel : Nat) (due : List Char) (rest : Text) :
    cut (fuel + 1) due (' ' :: rest) = cut fuel due rest := rfl

theorem cut_close (fuel : Nat) : cut (fuel + 2) [')'] [')'] = some [.mark ")"] := rfl

/-- The arguments of a call are cut into their names and the marks between them. -/
theorem cut_arguments {xs : List Text} (hxs : ∀ x ∈ xs, x.IsPlainName) {fuel : Nat}
    (hfuel : (join ", " xs ++ [')']).length < fuel) :
    cut fuel [')'] (join ", " xs ++ [')']) = some (argumentList xs) := by
  induction xs generalizing fuel with
  | nil =>
    obtain ⟨k, rfl⟩ : ∃ k, fuel = k + 2 := ⟨fuel - 2, by simp [join] at hfuel; omega⟩
    exact cut_close k
  | cons x rest ih =>
    have hx := hxs x List.mem_cons_self
    have hlength : 1 ≤ x.length := by
      obtain ⟨c, more, rfl, -⟩ := hx.split
      exact Nat.succ_le_succ (Nat.zero_le _)
    cases rest with
    | nil =>
      obtain ⟨k, rfl⟩ : ∃ k, fuel = k + 3 := by
        rw [List.length_append, join, List.length_singleton] at hfuel
        exact ⟨fuel - 3, by omega⟩
      rw [join, cut_name_append hx (endsName_mark (by decide) _), cut_close]
      rfl
    | cons y rest =>
      have hrest : ∀ z ∈ y :: rest, z.IsPlainName := fun z hz => hxs z (List.mem_cons_of_mem x hz)
      have hsplit : join ", " (x :: y :: rest) ++ [')'] =
          x ++ (',' :: ' ' :: (join ", " (y :: rest) ++ [')'])) := by
        rw [join, List.append_assoc, List.append_assoc]
        rfl
      rw [hsplit, List.length_append, List.length_cons, List.length_cons] at hfuel
      obtain ⟨k, rfl⟩ : ∃ k, fuel = k + 3 := ⟨fuel - 3, by omega⟩
      rw [hsplit, cut_name_append hx (endsName_mark (by decide) _), cut_comma, cut_blank,
        ih hrest (by omega)]
      rfl

/-- A call is a name, a parenthesis and its arguments. -/
theorem ofText?_call {n : Text} {xs : List Text} (hn : n.IsPlainName)
    (hxs : ∀ x ∈ xs, x.IsPlainName) :
    ofText? (callOf n xs) = some (.name n :: .mark "(" :: argumentList xs) := by
  have hreturn : '\r' ∉ callOf n xs := Text.notMem_callOf hn hxs (by decide) (by decide)
  have hskip : skipEmptyLines false (callOf n xs) = (callOf n xs, false) :=
    skipEmptyLines_identifier hn.identifier _
  have hlength : 1 ≤ n.length := by
    obtain ⟨c, more, rfl, -⟩ := hn.split
    exact Nat.succ_le_succ (Nat.zero_le _)
  have hcut : cut ((callOf n xs).length + 1) [] (callOf n xs) =
      some (.name n :: .mark "(" :: argumentList xs) := by
    have htotal : (callOf n xs).length = n.length + ((join ", " xs ++ [')']).length + 1) := by
      rw [callOf, List.length_append, List.length_cons]
    obtain ⟨k, hk⟩ : ∃ k, (callOf n xs).length + 1 = k + 2 :=
      ⟨(callOf n xs).length - 1, by omega⟩
    rw [hk, callOf, cut_name_append hn (endsName_mark (by decide) _), cut_open,
      cut_arguments hxs (by omega)]
    rfl
  rw [ofText?, Text.unifyLineEnds_of_notMem hreturn, hskip]
  exact hcut

end Lexeme

/-! ## How it is read -/

namespace Expr

open Lexeme (argumentList)

/-- Nothing that comes next goes on with an operand. -/
structure Stops (ls : List Lexeme) : Prop where
  choice : Lexeme.afterWord? "if" ls = none
  any : Lexeme.afterWord? "or" ls = none
  all : Lexeme.afterWord? "and" ls = none
  compare : compareOp? ls = none
  binary : ∀ ops ∈ binaryLevels, operator? ops ls = none
  power : Lexeme.afterMark? "**" ls = none

theorem stops_nil : Stops [] := ⟨rfl, rfl, rfl, rfl, fun _ _ => rfl, rfl⟩

/-- A comma or a closing parenthesis. -/
def IsBetween (m : Text) : Prop := m = ",".toList ∨ m = ")".toList

theorem IsBetween.stops {m : Text} (hm : IsBetween m) (ls : List Lexeme) :
    Stops (.mark m :: ls) := by
  have hbinary : ∀ ops ∈ binaryLevels, ops.lookup m = none := by
    rcases hm with rfl | rfl <;> decide
  refine ⟨rfl, rfl, rfl, ?_, fun ops hops => ?_, ?_⟩
  · rcases hm with rfl | rfl <;> rfl
  · show (ops.lookup m).map _ = none
    rw [hbinary ops hops]
    rfl
  · rcases hm with rfl | rfl <;> rfl

variable {fuel : Nat} {x : Text} {ls rest : List Lexeme} {e : Expr}

theorem readSigned_name (h : readTrailers (fuel + 1) (.name x) ls = some (e, rest))
    (hstop : Stops rest) : readSigned (fuel + 4) (.name x :: ls) = some (e, rest) := by
  have hprimary : readPrimary (fuel + 2) (.name x :: ls) = some (e, rest) := by
    rw [readPrimary, readAtom]
    exact h
  have hawaited : readAwaited (fuel + 3) (.name x :: ls) = some (e, rest) := by
    rw [readAwaited]
    exact hprimary
  rw [readSigned]
  · rw [hawaited]
    simp only [Option.bind_eq_bind, Option.bind_some, hstop.power]
    rfl
  -- a name is none of the signs
  all_goals nofun

/-- Where no operator follows, all levels of operators read the same. -/
theorem readBinary_of_signed (h : readSigned (fuel + 1) ls = some (e, rest))
    (levels : List (List (Text × BinaryOp))) (hstop : ∀ ops ∈ levels, operator? ops rest = none) :
    readBinary (fuel + 1 + levels.length + 1) levels ls = some (e, rest) := by
  induction levels with
  | nil =>
    rw [readBinary]
    exact h
  | cons ops tighter ih =>
    have hless := ih fun ops' hops' => hstop ops' (List.mem_cons_of_mem _ hops')
    have hmore : readBinaryMore (fuel + 1 + tighter.length + 1) ops tighter e rest =
        some (e, rest) := by
      rw [readBinaryMore, hstop ops List.mem_cons_self]
    rw [List.length_cons, readBinary, ← Nat.add_assoc, hless]
    exact hmore

/-- **A name with its calls is a whole expression** where nothing goes on with it. -/
theorem readExpression_of_trailers (h : readTrailers (fuel + 1) (.name x) ls = some (e, rest))
    (hstop : Stops rest) : readExpression (fuel + 15) (.name x :: ls) = some (e, rest) := by
  have hbinary : readBinary (fuel + 11) binaryLevels (.name x :: ls) = some (e, rest) :=
    readBinary_of_signed (readSigned_name h hstop) binaryLevels hstop.binary
  have hnot : readNot (fuel + 12) (.name x :: ls) = some (e, rest) := by
    have hmore : readCompareMore (fuel + 11) rest = some ([], rest) := by
      rw [readCompareMore, hstop.compare]
    have hword : Lexeme.afterWord? "not" (.name x :: ls) = none := rfl
    rw [readNot, hword, hbinary]
    simp only [Option.bind_eq_bind, Option.bind_some, hmore]
    rfl
  have hall : readAll (fuel + 13) (.name x :: ls) = some (e, rest) := by
    have hmore : readAllMore (fuel + 12) rest = some ([], rest) := by
      rw [readAllMore, hstop.all]
    rw [readAll, hnot]
    simp only [Option.bind_eq_bind, Option.bind_some, hmore]
    rfl
  have hany : readAny (fuel + 14) (.name x :: ls) = some (e, rest) := by
    have hmore : readAnyMore (fuel + 13) rest = some ([], rest) := by
      rw [readAnyMore, hstop.any]
    rw [readAny, hall]
    simp only [Option.bind_eq_bind, Option.bind_some, hmore]
    rfl
  have hword : Lexeme.afterWord? "lambda" (.name x :: ls) = none := rfl
  rw [readExpression, hword, hany]
  simp only [Option.bind_eq_bind, Option.bind_some, hstop.choice]
  rfl

/-! ### Arguments -/

theorem readTrailers_between {m : Text} (hm : IsBetween m) (fuel : Nat) (e : Expr)
    (ls : List Lexeme) :
    readTrailers (fuel + 1) e (.mark m :: ls) = some (e, .mark m :: ls) := by
  rcases hm with rfl | rfl <;> rfl

theorem readArgument_name {m : Text} (hm : IsBetween m) (fuel : Nat) {stage : Nat}
    (hstage : stage ≤ 1) (x : Text) (ls : List Lexeme) :
    readArgument (fuel + 17) stage (.name x :: .mark m :: ls) =
      some ((.positional (.name x), 1), .mark m :: ls) := by
  have hexpression : readExpression (fuel + 15) (.name x :: .mark m :: ls) =
      some (.name x, .mark m :: ls) :=
    readExpression_of_trailers (readTrailers_between hm fuel _ _) (hm.stops ls)
  have hnamed : readNamed (fuel + 16) (.name x :: .mark m :: ls) =
      some (.name x, .mark m :: ls) := by
    rw [readNamed]
    · rw [hexpression]
      rcases hm with rfl | rfl <;> rfl
    · rcases hm with rfl | rfl <;> nofun
  have hclause : startsClause (.mark m :: ls) = false := rfl
  rw [readArgument]
  · rw [if_neg (by omega), hnamed]
    simp only [Option.bind_eq_bind, Option.bind_some, hclause, Bool.false_eq_true, and_false,
      if_false]
    rfl
  · nofun
  · nofun
  · rcases hm with rfl | rfl <;> nofun

/-- Names between commas are read as arguments by position. -/
theorem readArguments_names (xs : List Text) (fuel : Nat) {stage : Nat} (hstage : stage ≤ 1) :
    readArguments (fuel + xs.length + 18) stage (argumentList xs) =
      some (xs.map fun x => .positional (.name x), []) := by
  induction xs generalizing stage with
  | nil => rfl
  | cons x rest ih =>
    have hopen : ∀ ls, Lexeme.afterMark? ")" (.name x :: ls) = none := fun _ => rfl
    have hfuel : fuel + (x :: rest).length + 18 = (fuel + rest.length + 18) + 1 := by
      rw [List.length_cons]
      omega
    rw [hfuel]
    cases rest with
    | nil =>
      have hargument := readArgument_name (.inr rfl) (fuel + 1) hstage x []
      have hcomma : Lexeme.afterMark? "," [.mark ")"] = none := rfl
      have hclose : Lexeme.afterMark? ")" [.mark ")"] = some [] := rfl
      rw [argumentList, readArguments, hopen]
      rw [show fuel + [].length + 18 = fuel + 1 + 17 from rfl, hargument]
      simp only [Option.bind_eq_bind, Option.bind_some, hcomma, hclose]
      rfl
    | cons y rest =>
      have hargument := readArgument_name (.inl rfl) (fuel + (y :: rest).length + 1) hstage x
        (argumentList (y :: rest))
      have hcomma : Lexeme.afterMark? "," (.mark "," :: argumentList (y :: rest)) =
          some (argumentList (y :: rest)) := rfl
      have hrest := ih (Nat.le_refl 1)
      rw [argumentList, readArguments, hopen]
      rw [show fuel + (y :: rest).length + 18 = fuel + (y :: rest).length + 1 + 17 from rfl]
        at hrest ⊢
      rw [hargument]
      simp only [Option.bind_eq_bind, Option.bind_some, hcomma, hrest]
      rfl

theorem splitArguments_names (xs : List Text) :
    splitArguments (xs.map fun x => .positional (.name x)) = (xs.map .name, []) := by
  induction xs with
  | nil => rfl
  | cons x xs ih =>
    have hitems := congrArg Prod.fst ih
    have hkeywords := congrArg Prod.snd ih
    exact Prod.ext (congrArg (Expr.name x :: ·) hitems) hkeywords

/-- **A call with names as arguments** is read as that call. -/
theorem ofText?_call {n : Text} {xs : List Text} (hn : n.IsPlainName)
    (hxs : ∀ x ∈ xs, x.IsPlainName) :
    ofText? (Text.callOf n xs) = some (.call (.name n) (xs.map .name) []) := by
  have hlength : xs.length ≤ (Text.callOf n xs).length := by
    have hjoin := Text.length_le_join ", " fun x hx => (hxs x hx).ne_nil
    rw [Text.callOf, List.length_append, List.length_cons, List.length_append]
    omega
  obtain ⟨fuel, hfuel⟩ : ∃ fuel, roundsPerCharacter * ((Text.callOf n xs).length + 1) =
      (fuel + xs.length + 19) + 15 :=
    ⟨roundsPerCharacter * ((Text.callOf n xs).length + 1) - xs.length - 34, by
      rw [roundsPerCharacter]; omega⟩
  have htrailers : readTrailers (fuel + xs.length + 19 + 1) (.name n)
      (.mark "(" :: argumentList xs) = some (.call (.name n) (xs.map .name) [], []) := by
    have harguments := readArguments_names xs (fuel + 1) (Nat.zero_le 1)
    rw [Nat.add_right_comm fuel 1] at harguments
    rw [show Lexeme.mark "(" = .mark ['('] from rfl, readTrailers]
    rw [show fuel + xs.length + 19 = fuel + xs.length + 1 + 18 from rfl, harguments]
    simp only [Option.bind_eq_bind, Option.bind_some, splitArguments_names]
    rfl
  rw [ofText?, Lexeme.ofText?_call hn hxs]
  dsimp only
  rw [hfuel, readTop, readExpression_of_trailers htrailers stops_nil]

end Expr

/-! ## What it means -/

section

variable {lib : Library} {functions : Registry} {known : Text → Bool}
  {entries : List (Value × Value)}

/-- Names are evaluated to what the scope binds them to. -/
theorem Expr.evalItems_names {xs : List Text} {vs : List Value} (hxs : ∀ x ∈ xs, x.IsPlainName)
    (hvs : List.Forall₂ (fun x v => Value.lookupName? entries x = some v) xs vs) :
    evalItems ⟨.dict entries, functions, lib, known⟩ (xs.map .name) = .done vs := by
  induction hvs with
  | nil => rw [List.map_nil, evalItems]
  | @cons x v xs vs hv _ ih =>
    have hlookup := Context.lookup_name lib functions known (hxs x List.mem_cons_self) hv
    have hrest := ih fun y hy => hxs y (List.mem_cons_of_mem x hy)
    rw [List.map_cons, evalItems, eval, hlookup, hrest]
    rfl

/-- The name of a template stands for the template in a call. -/
theorem Context.callee_template {n : Text} (hn : n.IsPlainName) (hknown : known n = true)
    (scope : Value) : Context.callee ⟨scope, functions, lib, known⟩ n = .ok (.template n) := by
  rw [Context.callee, hn.visible, if_neg Bool.false_ne_true, if_pos hknown]

/-- **The standard engine asks for the template that is called** with what the names are bound to,
and goes on with the text or the failure that comes back. -/
theorem Engine.sandboxed_call {n : Text} {xs : List Text} {vs : List Value} (hn : n.IsPlainName)
    (hxs : ∀ x ∈ xs, x.IsPlainName) (hknown : known n = true)
    (hvs : List.Forall₂ (fun x v => Value.lookupName? entries x = some v) xs vs) :
    sandboxed lib functions known (Text.callOf n xs) (.dict entries) =
      .ask n vs fun answer => settle ((answer.map Value.text).mapError Callee.failed) := by
  have hnull : (Text.callOf n xs).contains '\x00' = false := by
    rw [List.contains_eq_mem, decide_eq_false_iff_not]
    exact Text.notMem_callOf hn hxs (by decide) (by decide)
  have hcallee : Context.callee ⟨.dict entries, functions, lib, known⟩ n = .ok (.template n) :=
    Context.callee_template hn hknown _
  have heval : (Expr.call (.name n) (xs.map .name) []).eval ⟨.dict entries, functions, lib, known⟩ =
      .ask n vs fun answer => .ofExcept ((answer.map Value.text).mapError Callee.failed) := by
    rw [Expr.eval, Expr.evalCallee, hcallee, Expr.evalItems_names hxs hvs]
    rfl
  unfold sandboxed
  simp only [Text.trim_callOf hn, if_neg (Text.callOf_ne_nil n xs), hnull, Bool.false_eq_true,
    if_false, Expr.ofText?_call hn hxs, heval]
  show Dialogue.ask n vs _ = _
  congr 1
  funext answer
  cases answer <;> rfl

end

end Phrasebook
