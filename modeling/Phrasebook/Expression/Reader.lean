import Phrasebook.Expression.Literal
import Phrasebook.Expression.Syntax

/-!
# Reading expressions

Recursive descent over the lexemes.  Each function returns what it read and the lexemes that
follow, or `none` where the text is no expression.  The functions call each other with one
`fuel` less; `Expr.ofText?` supplies enough of it for every text, since no more than
`roundsPerCharacter` calls are nested for each character.

From the loosest to the tightest: choice, `or`, `and`, `not`, comparison, the binary operators,
signs, power, then names with their calls, members and subscripts.
-/

namespace Phrasebook

namespace Expr

/-- The binary operators of each level, loosest first. -/
def binaryLevels : List (List (Text × BinaryOp)) :=
  [[("|", .other)], [("^", .other)], [("&", .other)], [("<<", .other), (">>", .other)],
   [("+", .add), ("-", .sub)],
   [("*", .mul), ("/", .div), ("//", .floorDiv), ("%", .mod), ("@", .other)]]

/-- One of the given operators at the beginning of the lexemes. -/
def operator? (ops : List (Text × BinaryOp)) : List Lexeme → Option (BinaryOp × List Lexeme)
  | .mark m :: rest => (ops.lookup m).map fun op => (op, rest)
  | _ => none

/-- A comparison operator at the beginning of the lexemes. -/
def compareOp? (ls : List Lexeme) : Option (CompareOp × List Lexeme) :=
  match ls with
  | .mark m :: rest =>
    let ops : List (Text × CompareOp) :=
      [("==", .eq), ("!=", .ne), ("<", .relation .lt), ("<=", .relation .le),
       (">", .relation .gt), (">=", .relation .ge)]
    (ops.lookup m).map fun op => (op, rest)
  | _ =>
    match Lexeme.afterWord? "in" ls with
    | some rest => some (.isIn, rest)
    | none =>
      match (Lexeme.afterWord? "not" ls).bind (Lexeme.afterWord? "in") with
      | some rest => some (.notIn, rest)
      | none =>
        match Lexeme.afterWord? "is" ls with
        | none => none
        | some rest =>
          match Lexeme.afterWord? "not" rest with
          | some rest => some (.notSame, rest)
          | none => some (.same, rest)

/-- May the expression stand where values are bound? Names, members and subscripts may, and
tuples and lists of such; a star is allowed inside those when `starred` holds. -/
def isTarget (starAllowed : Bool) : Expr → Bool
  | name _ | member _ _ | subscript _ _ => true
  | tuple items | list items => areTargets items
  | starred e => starAllowed && isTarget false e
  | _ => false
where
  /-- May all of the expressions stand where values are bound? -/
  areTargets : List Expr → Bool
    | [] => true
    | e :: es => isTarget true e && areTargets es

/-- The literals at the beginning of the lexemes. -/
def literals : List Lexeme → List Literal × List Lexeme
  | .literal l :: rest => let (ls, rest) := literals rest; (l :: ls, rest)
  | rest => ([], rest)

/-- The value of adjacent literals, of which none is formatted. -/
def joined? (ls : List Literal) : Option Value :=
  if ls.all (·.bytes) then (ls.mapM Literal.bytes?).map fun parts => .bytes parts.flatten
  else if ls.any (·.bytes) then none
  else (ls.mapM Literal.text?).map fun parts => .text parts.flatten

/-! ## Formatted literals -/

/-- The plain part of a formatted literal at a nesting depth: what it holds before the next
brace, as text to be checked for broken escapes, and the rest, which begins with that brace.
Doubled braces are text on the outermost level. A single closing brace is refused there. -/
def plainPart (raw : Bool) (depth : Nat) : Nat → Text → Option (Text × Text)
  | _, [] => some ([], [])
  | 0, _ :: _ => none
  | fuel + 1, c :: rest =>
    let keep := fun (taken rest : Text) =>
      (plainPart raw depth fuel rest).map fun (t, rest) => (taken ++ t, rest)
    let brace := fun (before : Text) (b : Char) (after : Text) =>
      -- `b :: after` is what follows the part read so far.
      if depth = 0 ∧ after.head? = some b then keep (before ++ [b]) (after.drop 1)
      else if depth = 0 ∧ b = '\x7d' then none
      else some (before, b :: after)
    if c = '\\' ∧ !raw then
      match rest with
      | 'N' :: '\x7b' :: rest =>
        let inner := rest.takeWhile (· ≠ '\x7d')
        keep ("\\N" ++ inner) (rest.drop (inner.length + 1))
      | '\x7b' :: rest => brace ['\\'] '\x7b' rest
      | '\x7d' :: rest => brace ['\\'] '\x7d' rest
      | d :: rest => keep ['\\', d] rest
      | [] => some (['\\'], [])
    else if c = '\x7b' ∨ c = '\x7d' then brace [] c rest
    else keep [c] rest

/-- Where the expression inside a formatted literal ends: its text and the rest. `skip` counts
characters that belong to what was read before, `quote` is the quote of a literal that is open
and whether it is a triple one, and `due` are the brackets still to be closed. -/
def fieldExpression (skip : Nat) (quote : Option (Char × Bool)) (due : List Char) :
    Text → Option (Text × Text)
  | [] => if quote.isNone && due.isEmpty then some ([], []) else none
  | c :: rest =>
    let go := fun (skip : Nat) (quote : Option (Char × Bool)) (due : List Char) =>
      (fieldExpression skip quote due rest).map fun (t, rest) => (c :: t, rest)
    let tripled := Text.startsWith [c, c] rest
    if 0 < skip then go (skip - 1) quote due
    else if c = '\\' then none
    else
      match quote with
      | some (q, true) => if c = q && tripled then go 2 none due else go 0 quote due
      | some (q, false) => go 0 (if c = q then none else quote) due
      | none =>
        if c = '\'' ∨ c = '"' then
          if tripled then go 2 (some (c, true)) due else go 0 (some (c, false)) due
        else
          match Lexeme.closing? c with
          | some d => if due.length < Lexeme.nestingLimit then go 0 none (d :: due) else none
          | none =>
            if c = '#' then none
            else if due.isEmpty && (['!', ':', '\x7d', '=', '<', '>'] : List Char).contains c then
              if (['!', '=', '<', '>'] : List Char).contains c && rest.head? == some '=' then
                go 1 none due
              else if c = '<' ∨ c = '>' then go 0 none due
              else some ([], c :: rest)
            else if c = ')' ∨ c = ']' ∨ c = '\x7d' then
              match due with
              | d :: due => if c = d then go 0 none due else none
              | [] => none
            else go 0 none due

/-- What may stand between the expression of a field and its format: an equals sign, and a
conversion by one of three letters. -/
def fieldConversion (t : Text) : Option Text :=
  let t := match t with
    | '=' :: rest => rest.dropWhile Numeral.isNumeralBlank
    | t => t
  match t with
  | '!' :: c :: rest => if c = 's' ∨ c = 'r' ∨ c = 'a' then some rest else none
  | ['!'] => none
  | t => some t

/-- Does a clause of a comprehension begin here? -/
def startsClause (ls : List Lexeme) : Bool := Lexeme.atWord "for" ls || Lexeme.atWord "async" ls

/-- An argument of a call as it is read. -/
inductive Argument where
  | positional (e : Expr)
  | keyword (name : Option Text) (e : Expr)

/-- The positional and the keyword arguments of a call, each in order. -/
def splitArguments (arguments : List Argument) : List Expr × List (Option Text × Expr) :=
  (arguments.filterMap fun | .positional e => some e | .keyword _ _ => none,
   arguments.filterMap fun | .positional _ => none | .keyword n e => some (n, e))

/-! ## The grammar -/

mutual

/-- A choice, a function form, or what binds tighter. -/
def readExpression (fuel : Nat) (ls : List Lexeme) : Option (Expr × List Lexeme) :=
  match fuel with
  | 0 => none
  | fuel + 1 =>
    match Lexeme.afterWord? "lambda" ls with
    | some ls => do
      let ls ← readParameters fuel false false false false ls
      let ls ← Lexeme.afterMark? ":" ls
      let (_, ls) ← readExpression fuel ls
      return (.unsupported "Lambda", ls)
    | none => do
      let (first, ls) ← readAny fuel ls
      match Lexeme.afterWord? "if" ls with
      | none => return (first, ls)
      | some ls' =>
        match readAny fuel ls' with
        | none => return (first, ls)
        | some (condition, ls') =>
          match Lexeme.afterWord? "else" ls' with
          | none => return (first, ls)
          | some ls' => do
            let (second, ls') ← readExpression fuel ls'
            return (.choice condition first second, ls')

/-- The parameters of a function form up to its colon, which is left. The flags tell whether
there was a parameter, one with a default, a slash, and a star. -/
def readParameters (fuel : Nat) (some? default slash star : Bool) (ls : List Lexeme) :
    Option (List Lexeme) :=
  match fuel with
  | 0 => none
  | fuel + 1 =>
    let continues := fun (some? default slash star : Bool) (ls : List Lexeme) =>
      match Lexeme.afterMark? "," ls with
      | some ls => readParameters fuel some? default slash star ls
      | none => if Lexeme.atMark ":" ls then some ls else none
    match ls with
    | .name _ :: ls =>
      match Lexeme.afterMark? "=" ls with
      | some ls => do
        let (_, ls) ← readExpression fuel ls
        continues true true slash star ls
      | none => if default && !star then none else continues true default slash star ls
    | .mark ['/'] :: ls =>
      if some? && !slash && !star then continues true default true star ls else none
    | .mark ['*'] :: .name _ :: ls =>
      if star || Lexeme.atMark "=" ls then none else continues true default slash true ls
    | .mark ['*'] :: .mark [','] :: .name n :: ls =>
      if star then none else readParameters fuel true default slash true (.name n :: ls)
    | .mark ['*', '*'] :: .name _ :: ls =>
      match Lexeme.afterMark? "," ls with
      | some ls => if Lexeme.atMark ":" ls then some ls else none
      | none => if Lexeme.atMark ":" ls then some ls else none
    | ls => if Lexeme.atMark ":" ls then some ls else none

/-- An expression that may bind a name to its value. -/
def readNamed (fuel : Nat) (ls : List Lexeme) : Option (Expr × List Lexeme) :=
  match fuel with
  | 0 => none
  | fuel + 1 =>
    match ls with
    | .name _ :: .mark [':', '='] :: ls => do
      let (_, ls) ← readExpression fuel ls
      return (.unsupported "NamedExpr", ls)
    | _ => do
      let (e, ls) ← readExpression fuel ls
      if Lexeme.atMark ":=" ls then none else return (e, ls)

/-- An element of a list, tuple or set: an operand with a star, or an expression that may bind
a name. -/
def readElement (fuel : Nat) (ls : List Lexeme) : Option (Expr × List Lexeme) :=
  match fuel with
  | 0 => none
  | fuel + 1 =>
    match Lexeme.afterMark? "*" ls with
    | some ls => do
      let (e, ls) ← readBinary fuel binaryLevels ls
      return (.starred e, ls)
    | none => readNamed fuel ls

/-- Elements separated by commas up to a closing mark, which is taken; a comma may stand before
it. -/
def readElements (fuel : Nat) (close : Text) (ls : List Lexeme) :
    Option (List Expr × List Lexeme) :=
  match fuel with
  | 0 => none
  | fuel + 1 =>
    match Lexeme.afterMark? close ls with
    | some ls => some ([], ls)
    | none => do
      let (e, ls) ← readElement fuel ls
      match Lexeme.afterMark? "," ls with
      | some ls => do
        let (es, ls) ← readElements fuel close ls
        return (e :: es, ls)
      | none => do
        let ls ← Lexeme.afterMark? close ls
        return ([e], ls)

/-- A disjunction. -/
def readAny (fuel : Nat) (ls : List Lexeme) : Option (Expr × List Lexeme) :=
  match fuel with
  | 0 => none
  | fuel + 1 => do
    let (first, ls) ← readAll fuel ls
    let (more, ls) ← readAnyMore fuel ls
    return (if more.isEmpty then first else .any (first :: more), ls)

/-- The further operands of a disjunction. -/
def readAnyMore (fuel : Nat) (ls : List Lexeme) : Option (List Expr × List Lexeme) :=
  match fuel with
  | 0 => none
  | fuel + 1 =>
    match Lexeme.afterWord? "or" ls with
    | none => some ([], ls)
    | some ls => do
      let (e, ls) ← readAll fuel ls
      let (es, ls) ← readAnyMore fuel ls
      return (e :: es, ls)

/-- A conjunction. -/
def readAll (fuel : Nat) (ls : List Lexeme) : Option (Expr × List Lexeme) :=
  match fuel with
  | 0 => none
  | fuel + 1 => do
    let (first, ls) ← readNot fuel ls
    let (more, ls) ← readAllMore fuel ls
    return (if more.isEmpty then first else .all (first :: more), ls)

/-- The further operands of a conjunction. -/
def readAllMore (fuel : Nat) (ls : List Lexeme) : Option (List Expr × List Lexeme) :=
  match fuel with
  | 0 => none
  | fuel + 1 =>
    match Lexeme.afterWord? "and" ls with
    | none => some ([], ls)
    | some ls => do
      let (e, ls) ← readNot fuel ls
      let (es, ls) ← readAllMore fuel ls
      return (e :: es, ls)

/-- A negation, or a comparison. -/
def readNot (fuel : Nat) (ls : List Lexeme) : Option (Expr × List Lexeme) :=
  match fuel with
  | 0 => none
  | fuel + 1 =>
    match Lexeme.afterWord? "not" ls with
    | some ls => do
      let (e, ls) ← readNot fuel ls
      return (.unary .negation e, ls)
    | none => do
      let (first, ls) ← readBinary fuel binaryLevels ls
      let (more, ls) ← readCompareMore fuel ls
      return (if more.isEmpty then first else .compare first more, ls)

/-- The further operands of a comparison. -/
def readCompareMore (fuel : Nat) (ls : List Lexeme) :
    Option ((List (CompareOp × Expr)) × List Lexeme) :=
  match fuel with
  | 0 => none
  | fuel + 1 =>
    match compareOp? ls with
    | none => some ([], ls)
    | some (op, ls) => do
      let (e, ls) ← readBinary fuel binaryLevels ls
      let (es, ls) ← readCompareMore fuel ls
      return ((op, e) :: es, ls)

/-- Operands joined by the binary operators of the given levels. -/
def readBinary (fuel : Nat) (levels : List (List (Text × BinaryOp))) (ls : List Lexeme) :
    Option (Expr × List Lexeme) :=
  match fuel with
  | 0 => none
  | fuel + 1 =>
    match levels with
    | [] => readSigned fuel ls
    | ops :: tighter => do
      let (left, ls) ← readBinary fuel tighter ls
      readBinaryMore fuel ops tighter left ls

/-- The further operands of one level, grouped from the left. -/
def readBinaryMore (fuel : Nat) (ops : List (Text × BinaryOp))
    (tighter : List (List (Text × BinaryOp))) (left : Expr) (ls : List Lexeme) :
    Option (Expr × List Lexeme) :=
  match fuel with
  | 0 => none
  | fuel + 1 =>
    match operator? ops ls with
    | none => some (left, ls)
    | some (op, ls) => do
      let (right, ls) ← readBinary fuel tighter ls
      readBinaryMore fuel ops tighter (.binary op left right) ls

/-- An operand with signs in front. -/
def readSigned (fuel : Nat) (ls : List Lexeme) : Option (Expr × List Lexeme) :=
  match fuel with
  | 0 => none
  | fuel + 1 =>
    match ls with
    | .mark ['+'] :: ls => do
      let (e, ls) ← readSigned fuel ls
      return (.unary .plus e, ls)
    | .mark ['-'] :: ls => do
      let (e, ls) ← readSigned fuel ls
      return (.unary .minus e, ls)
    | .mark ['~'] :: ls => do
      let (e, ls) ← readSigned fuel ls
      return (.unary .complement e, ls)
    | ls => do
      let (base, ls) ← readAwaited fuel ls
      match Lexeme.afterMark? "**" ls with
      | none => return (base, ls)
      | some ls => do
        let (e, ls) ← readSigned fuel ls
        return (.binary .pow base e, ls)

/-- An operand with its calls, members and subscripts, or the wait for one. -/
def readAwaited (fuel : Nat) (ls : List Lexeme) : Option (Expr × List Lexeme) :=
  match fuel with
  | 0 => none
  | fuel + 1 =>
    match Lexeme.afterWord? "await" ls with
    | some ls => do
      let (_, ls) ← readPrimary fuel ls
      return (.unsupported "Await", ls)
    | none => readPrimary fuel ls

/-- An operand with its calls, members and subscripts. -/
def readPrimary (fuel : Nat) (ls : List Lexeme) : Option (Expr × List Lexeme) :=
  match fuel with
  | 0 => none
  | fuel + 1 => do
    let (e, ls) ← readAtom fuel ls
    readTrailers fuel e ls

/-- The calls, members and subscripts after an operand. -/
def readTrailers (fuel : Nat) (e : Expr) (ls : List Lexeme) : Option (Expr × List Lexeme) :=
  match fuel with
  | 0 => none
  | fuel + 1 =>
    match ls with
    | .mark ['.'] :: .name n :: ls => readTrailers fuel (.member e n) ls
    | .mark ['.'] :: _ => none
    | .mark ['('] :: ls => do
      let (arguments, ls) ← readArguments fuel 0 ls
      let (args, keywords) := splitArguments arguments
      readTrailers fuel (.call e args keywords) ls
    | .mark ['['] :: ls => do
      let (index, ls) ← readIndex fuel ls
      readTrailers fuel (.subscript e index) ls
    | ls => some (e, ls)

/-- One argument of a call, and the stage after it. Stages: 0 before the first argument, 1 after
it, 2 after a keyword argument, 3 after an unpacked mapping. -/
def readArgument (fuel : Nat) (stage : Nat) (ls : List Lexeme) :
    Option ((Argument × Nat) × List Lexeme) :=
  match fuel with
  | 0 => none
  | fuel + 1 =>
    match ls with
    | .mark ['*', '*'] :: ls => do
      let (e, ls) ← readExpression fuel ls
      return ((.keyword none e, 3), ls)
    | .mark ['*'] :: ls =>
      if stage = 3 then none
      else do
        let (e, ls) ← readExpression fuel ls
        return ((.positional (.starred e), max stage 1), ls)
    | .name n :: .mark ['='] :: ls => do
      let (e, ls) ← readExpression fuel ls
      return ((.keyword (some n) e, max stage 2), ls)
    | ls =>
      if 2 ≤ stage then none
      else do
        let (e, ls) ← readNamed fuel ls
        if stage = 0 ∧ startsClause ls then
          -- A comprehension without brackets of its own is the only argument.
          let ls ← readClauses fuel ls
          if Lexeme.atMark ")" ls then
            return ((.positional (.unsupported "GeneratorExp"), 1), ls)
          else none
        else return ((.positional e, 1), ls)

/-- The arguments of a call after its bracket, which is taken at the end. -/
def readArguments (fuel : Nat) (stage : Nat) (ls : List Lexeme) :
    Option (List Argument × List Lexeme) :=
  match fuel with
  | 0 => none
  | fuel + 1 =>
    match Lexeme.afterMark? ")" ls with
    | some ls => some ([], ls)
    | none => do
      let ((argument, stage), ls) ← readArgument fuel stage ls
      match Lexeme.afterMark? "," ls with
      | some ls => do
        let (rest, ls) ← readArguments fuel stage ls
        return (argument :: rest, ls)
      | none => do
        let ls ← Lexeme.afterMark? ")" ls
        return ([argument], ls)

/-- The clauses of a comprehension, at least one. -/
def readClauses (fuel : Nat) (ls : List Lexeme) : Option (List Lexeme) :=
  match fuel with
  | 0 => none
  | fuel + 1 => do
    let ls := (Lexeme.afterWord? "async" ls).getD ls
    let ls ← Lexeme.afterWord? "for" ls
    let ls ← readTargets fuel true ls
    let ls ← Lexeme.afterWord? "in" ls
    let (_, ls) ← readAny fuel ls
    let ls ← readConditions fuel ls
    if startsClause ls then readClauses fuel ls else return ls

/-- The conditions of a clause. -/
def readConditions (fuel : Nat) (ls : List Lexeme) : Option (List Lexeme) :=
  match fuel with
  | 0 => none
  | fuel + 1 =>
    match Lexeme.afterWord? "if" ls with
    | none => some ls
    | some ls => do
      let (_, ls) ← readAny fuel ls
      readConditions fuel ls

/-- The targets of a clause, separated by commas, up to the word `in`. -/
def readTargets (fuel : Nat) (first : Bool) (ls : List Lexeme) : Option (List Lexeme) :=
  match fuel with
  | 0 => none
  | fuel + 1 =>
    if Lexeme.atWord "in" ls then (if first then none else some ls)
    else do
      let ls := (Lexeme.afterMark? "*" ls).getD ls
      let (e, ls) ← readPrimary fuel ls
      if isTarget false e then
        match Lexeme.afterMark? "," ls with
        | some ls => readTargets fuel false ls
        | none => return ls
      else none

/-- The index of a subscript after its bracket, which is taken at the end. -/
def readIndex (fuel : Nat) (ls : List Lexeme) : Option (Expr × List Lexeme) :=
  match fuel with
  | 0 => none
  | fuel + 1 => do
    let (first, ls) ← readSlice fuel ls
    match Lexeme.afterMark? "," ls with
    | some ls => do
      let (rest, ls) ← readSlices fuel ls
      return (.tuple (first :: rest), ls)
    | none => do
      let ls ← Lexeme.afterMark? "]" ls
      match first with
      | .starred _ => return (.tuple [first], ls)
      | _ => return (first, ls)

/-- The further parts of a subscript after a comma, up to its closing bracket. -/
def readSlices (fuel : Nat) (ls : List Lexeme) : Option (List Expr × List Lexeme) :=
  match fuel with
  | 0 => none
  | fuel + 1 =>
    match Lexeme.afterMark? "]" ls with
    | some ls => some ([], ls)
    | none => do
      let (e, ls) ← readSlice fuel ls
      match Lexeme.afterMark? "," ls with
      | some ls => do
        let (es, ls) ← readSlices fuel ls
        return (e :: es, ls)
      | none => do
        let ls ← Lexeme.afterMark? "]" ls
        return ([e], ls)

/-- One part of a subscript: a slice, an operand with a star, or an expression. -/
def readSlice (fuel : Nat) (ls : List Lexeme) : Option (Expr × List Lexeme) :=
  match fuel with
  | 0 => none
  | fuel + 1 =>
    match Lexeme.afterMark? "*" ls with
    | some ls => do
      let (e, ls) ← readExpression fuel ls
      return (.starred e, ls)
    | none => do
      if Lexeme.atMark ":" ls then readBounds fuel (.constant .null) ls
      else
        let (e, ls') ← readNamed fuel ls
        if Lexeme.atMark ":" ls' then
          match ls with
          | .name _ :: .mark [':', '='] :: _ => none
          | _ => readBounds fuel e ls'
        else return (e, ls')

/-- The bounds of a slice from its first colon. -/
def readBounds (fuel : Nat) (lower : Expr) (ls : List Lexeme) : Option (Expr × List Lexeme) :=
  match fuel with
  | 0 => none
  | fuel + 1 => do
    let ls ← Lexeme.afterMark? ":" ls
    let (upper, ls) ← readBound fuel ls
    match Lexeme.afterMark? ":" ls with
    | none => return (.slice lower upper (.constant .null), ls)
    | some ls => do
      let (step, ls) ← readBound fuel ls
      return (.slice lower upper step, ls)

/-- A bound of a slice, which may be missing. -/
def readBound (fuel : Nat) (ls : List Lexeme) : Option (Expr × List Lexeme) :=
  match fuel with
  | 0 => none
  | fuel + 1 =>
    if Lexeme.atMark ":" ls || Lexeme.atMark "," ls || Lexeme.atMark "]" ls then
      some (.constant .null, ls)
    else readExpression fuel ls

/-- A name, a constant, or something in brackets. -/
def readAtom (fuel : Nat) (ls : List Lexeme) : Option (Expr × List Lexeme) :=
  match fuel with
  | 0 => none
  | fuel + 1 =>
    match ls with
    | .name n :: ls => some (.name n, ls)
    | .number v :: ls => some (.constant v, ls)
    | .literal _ :: _ => do
      let (parts, ls) := literals ls
      if parts.any (·.formatted) then
        if parts.any (·.bytes) then none
        else if parts.all (fun l => if l.formatted then isFormatted fuel l.raw l.body
            else (Literal.text? l).isSome) then
          return (.unsupported "JoinedStr", ls)
        else none
      else
        let v ← joined? parts
        return (.constant v, ls)
    | .word w :: ls =>
      if w = "None" then some (.constant .null, ls)
      else if w = "True" then some (.constant (.bool true), ls)
      else if w = "False" then some (.constant (.bool false), ls)
      else none
    | .mark ['.', '.', '.'] :: ls => some (.constant .ellipsis, ls)
    | .mark ['('] :: ls => readParenthesised fuel ls
    | .mark ['['] :: ls =>
      match Lexeme.afterMark? "]" ls with
      | some ls => some (.list [], ls)
      | none => do
        let (first, ls) ← readElement fuel ls
        if startsClause ls then
          match first with
          | .starred _ => none
          | _ => do
            let ls ← readClauses fuel ls
            let ls ← Lexeme.afterMark? "]" ls
            return (.unsupported "ListComp", ls)
        else
          match Lexeme.afterMark? "," ls with
          | some ls => do
            let (rest, ls) ← readElements fuel "]" ls
            return (.list (first :: rest), ls)
          | none => do
            let ls ← Lexeme.afterMark? "]" ls
            return (.list [first], ls)
    | .mark ['\x7b'] :: ls => readBraced fuel ls
    | _ => none

/-- What stands in parentheses, after the opening one: a group, a tuple, a comprehension, or
what a coroutine yields. -/
def readParenthesised (fuel : Nat) (ls : List Lexeme) : Option (Expr × List Lexeme) :=
  match fuel with
  | 0 => none
  | fuel + 1 =>
    match Lexeme.afterMark? ")" ls with
    | some ls => some (.tuple [], ls)
    | none =>
      match Lexeme.afterWord? "yield" ls with
      | some ls =>
        match Lexeme.afterWord? "from" ls with
        | some ls => do
          let (_, ls) ← readExpression fuel ls
          let ls ← Lexeme.afterMark? ")" ls
          return (.unsupported "YieldFrom", ls)
        | none =>
          match Lexeme.afterMark? ")" ls with
          | some ls => some (.unsupported "Yield", ls)
          | none => do
            let ls ← readYielded fuel true ls
            return (.unsupported "Yield", ls)
      | none => do
        let (first, ls) ← readElement fuel ls
        if startsClause ls then
          match first with
          | .starred _ => none
          | _ => do
            let ls ← readClauses fuel ls
            let ls ← Lexeme.afterMark? ")" ls
            return (.unsupported "GeneratorExp", ls)
        else
          match Lexeme.afterMark? "," ls with
          | some ls => do
            let (rest, ls) ← readElements fuel ")" ls
            return (.tuple (first :: rest), ls)
          | none => do
            let ls ← Lexeme.afterMark? ")" ls
            match first with
            | .starred _ => none
            | _ => return (first, ls)

/-- The values that are yielded, separated by commas, up to the closing parenthesis. -/
def readYielded (fuel : Nat) (first : Bool) (ls : List Lexeme) : Option (List Lexeme) :=
  match fuel with
  | 0 => none
  | fuel + 1 =>
    match Lexeme.afterMark? ")" ls with
    | some ls => if first then none else some ls
    | none => do
      let (_, ls) ← (match Lexeme.afterMark? "*" ls with
        | some ls => readBinary fuel binaryLevels ls
        | none => readExpression fuel ls)
      match Lexeme.afterMark? "," ls with
      | some ls => readYielded fuel false ls
      | none => Lexeme.afterMark? ")" ls

/-- What stands in braces, after the opening one: a mapping, a set, or a comprehension. -/
def readBraced (fuel : Nat) (ls : List Lexeme) : Option (Expr × List Lexeme) :=
  match fuel with
  | 0 => none
  | fuel + 1 =>
    match ls with
    | .mark ['\x7d'] :: ls => some (.dict [], ls)
    | .mark ['*', '*'] :: _ => do
      let (entry, ls) ← readEntry fuel ls
      readMapping fuel entry ls
    | .mark ['*'] :: _ | .name _ :: .mark [':', '='] :: _ => do
      let (first, ls) ← readElement fuel ls
      readSet fuel first ls
    | ls => do
      let (first, ls) ← readExpression fuel ls
      match Lexeme.afterMark? ":" ls with
      | some ls => do
        let (value, ls) ← readExpression fuel ls
        readMapping fuel (some first, value) ls
      | none => readSet fuel first ls

/-- The rest of a mapping after its first entry. -/
def readMapping (fuel : Nat) (first : Option Expr × Expr) (ls : List Lexeme) :
    Option (Expr × List Lexeme) :=
  match fuel with
  | 0 => none
  | fuel + 1 =>
    if startsClause ls then
      if first.1.isNone then none
      else do
        let ls ← readClauses fuel ls
        let ls ← Lexeme.afterMark? ['\x7d'] ls
        return (.unsupported "DictComp", ls)
    else
      match Lexeme.afterMark? "," ls with
      | some ls => do
        let (rest, ls) ← readEntries fuel ls
        return (.dict (first :: rest), ls)
      | none => do
        let ls ← Lexeme.afterMark? ['\x7d'] ls
        return (.dict [first], ls)

/-- The rest of a set after its first element. -/
def readSet (fuel : Nat) (first : Expr) (ls : List Lexeme) : Option (Expr × List Lexeme) :=
  match fuel with
  | 0 => none
  | fuel + 1 =>
    if startsClause ls then
      match first with
      | .starred _ => none
      | _ => do
        let ls ← readClauses fuel ls
        let ls ← Lexeme.afterMark? ['\x7d'] ls
        return (.unsupported "SetComp", ls)
    else
      match Lexeme.afterMark? "," ls with
      | some ls => do
        let (rest, ls) ← readElements fuel ['\x7d'] ls
        return (.set (first :: rest), ls)
      | none => do
        let ls ← Lexeme.afterMark? ['\x7d'] ls
        return (.set [first], ls)

/-- An entry of a mapping: a key and a value, or a mapping to unpack. -/
def readEntry (fuel : Nat) (ls : List Lexeme) : Option ((Option Expr × Expr) × List Lexeme) :=
  match fuel with
  | 0 => none
  | fuel + 1 =>
    match Lexeme.afterMark? "**" ls with
    | some ls => do
      let (e, ls) ← readBinary fuel binaryLevels ls
      return ((none, e), ls)
    | none => do
      let (key, ls) ← readExpression fuel ls
      let ls ← Lexeme.afterMark? ":" ls
      let (value, ls) ← readExpression fuel ls
      return ((some key, value), ls)

/-- The further entries of a mapping after a comma, up to the closing brace. -/
def readEntries (fuel : Nat) (ls : List Lexeme) :
    Option ((List (Option Expr × Expr)) × List Lexeme) :=
  match fuel with
  | 0 => none
  | fuel + 1 =>
    match Lexeme.afterMark? ['\x7d'] ls with
    | some ls => some ([], ls)
    | none => do
      let (entry, ls) ← readEntry fuel ls
      match Lexeme.afterMark? "," ls with
      | some ls => do
        let (rest, ls) ← readEntries fuel ls
        return (entry :: rest, ls)
      | none => do
        let ls ← Lexeme.afterMark? ['\x7d'] ls
        return ([entry], ls)

/-- Is the body of a formatted literal well formed? -/
def isFormatted (fuel : Nat) (raw : Bool) (body : Text) : Bool :=
  match fuel with
  | 0 => false
  | fuel + 1 => (readFormatted fuel raw 0 body) == some []

/-- Reads the body of a formatted literal at a nesting depth; the result is what follows it, a
closing brace on inner levels. -/
def readFormatted (fuel : Nat) (raw : Bool) (depth : Nat) (t : Text) : Option Text :=
  match fuel with
  | 0 => none
  | fuel + 1 => do
    let (plain, rest) ← plainPart raw depth (t.length + 1) t
    let _ ← Literal.text? ⟨false, raw, false, plain⟩
    match rest with
    | '\x7b' :: rest =>
      if 2 ≤ depth then none
      else
        let (expression, rest) ← fieldExpression 0 none [] rest
        if rest.isEmpty || expression.all (fun c => Lexeme.isLineBlank c || c == '\n') then none
        else
          let ls ← Lexeme.ofText? ('(' :: expression ++ [')'])
          let (_, ls) ← readExpression fuel ls
          if !ls.isEmpty then none
          else
            let rest ← fieldConversion rest
            let rest ← (match rest with
              | ':' :: rest => readFormatted fuel raw (depth + 1) rest
              | rest => some rest)
            match rest with
            | '\x7d' :: rest => readFormatted fuel raw depth rest
            | _ => none
    | rest => return rest

end

/-- How many calls of the reader may be nested for one character. -/
def roundsPerCharacter : Nat := 40

/-- The top level of an expression text: one expression, or several that form a tuple. -/
def readTop (fuel : Nat) (ls : List Lexeme) : Option Expr :=
  match readExpression fuel ls with
  | none => none
  | some (e, []) => some e
  | some (e, rest) =>
    match Lexeme.afterMark? "," rest with
    | none => none
    | some rest => (readMore fuel rest).map fun es => .tuple (e :: es)
where
  /-- The further expressions of a tuple without brackets. -/
  readMore : Nat → List Lexeme → Option (List Expr)
    | _, [] => some []
    | 0, _ :: _ => none
    | fuel + 1, l :: ls =>
      match readExpression (fuel + 1) (l :: ls) with
      | none => none
      | some (e, []) => some [e]
      | some (e, rest) =>
        match Lexeme.afterMark? "," rest with
        | none => none
        | some rest => (readMore fuel rest).map fun es => e :: es

/-- The expression that a text spells, or `none` where it spells none. -/
def ofText? (t : Text) : Option Expr :=
  match Lexeme.ofText? t with
  | none => none
  | some ls => readTop (roundsPerCharacter * (t.length + 1)) ls

end Expr

end Phrasebook
