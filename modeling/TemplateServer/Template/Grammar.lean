import TemplateServer.Template.Expr

/-!
# Reading expressions

Expressions are read by recursive descent with ordered choice: of several forms the first one that
fits is taken, and a repetition takes as much as fits. Every reader takes the characters that are
left and answers what it read with the characters after it, or nothing. White space may stand in
front of every part.

The readers of nested forms take a bound on the depth of their calls; `depthBound` is enough for any
text of a given length, because no more than twelve readers call each other without a character
being read.
-/

namespace TemplateServer.Template

/-- What a reader answers. -/
abbrev Reading (α : Type) := Option (α × List Char)

/-- White space inside of tags. -/
def isSpace (c : Char) : Bool := c == ' ' || c == '\t' || c == '\r' || c == '\n'

/-- Skips white space. -/
def skipSpace (cs : List Char) : List Char := cs.dropWhile isSpace

/-- Characters of names. -/
def isNameChar (c : Char) : Bool := c.isAlphanum || c == '_'

/-- What follows a given text. -/
def after? (text : String) (cs : List Char) : Option (List Char) :=
  let expected := text.toList
  if expected.isPrefixOf cs then some (cs.drop expected.length) else none

/-- What follows a given text, white space in front of it skipped. -/
def symbol? (text : String) (cs : List Char) : Option (List Char) := after? text (skipSpace cs)

/-- What follows a word and one white space character. -/
def word? (text : String) (cs : List Char) : Option (List Char) :=
  match symbol? text cs with
  | some (c :: rest) => if isSpace c then some rest else none
  | _ => none

def name? (cs : List Char) : Reading String :=
  match cs with
  | c :: _ =>
    if isNameChar c && !c.isDigit then
      some (String.ofList (cs.takeWhile isNameChar), cs.dropWhile isNameChar)
    else none
  | [] => none

/-- The digits of a whole number: a zero, or digits that do not start with one. -/
def wholeDigits? : List Char → Reading (List Char)
  | '0' :: cs => some (['0'], cs)
  | cs =>
    let ds := cs.takeWhile Char.isDigit
    if ds.isEmpty then none else some (ds, cs.dropWhile Char.isDigit)

/-- The digits of a whole number, with a minus sign if there is one. -/
def intDigits? : List Char → Reading (List Char)
  | '-' :: cs => (wholeDigits? cs).map fun (ds, rest) => ('-' :: ds, rest)
  | cs => wholeDigits? cs

/-- The number that digits write. -/
def natOfDigits (ds : List Char) : Nat := ds.foldl (fun n d => n * 10 + (d.toNat - 0x30)) 0

/-- The number that digits write after a sign. -/
def intOfDigits : List Char → Int
  | '-' :: ds => -(natOfDigits ds : Int)
  | ds => natOfDigits ds

def int? (cs : List Char) : Reading Operand :=
  (intDigits? cs).map fun (ds, rest) => (.int (intOfDigits ds), rest)

/-- A number with a point and digits on both sides of it. -/
def float? (cs : List Char) : Reading Operand :=
  match intDigits? cs with
  | some (ds, '.' :: rest) =>
    let places := rest.takeWhile Char.isDigit
    if places.isEmpty then none
    else
      let magnitude := Float.ofScientific (natOfDigits (ds.filter Char.isDigit ++ places)) true
        places.length
      some (.float (if ds.head? == some '-' then -magnitude else magnitude),
        rest.dropWhile Char.isDigit)
  | _ => none

def bool? (cs : List Char) : Reading Operand :=
  match after? "true" cs, after? "True" cs, after? "false" cs, after? "False" cs with
  | some rest, _, _, _ | _, some rest, _, _ => some (.bool true, rest)
  | _, _, some rest, _ | _, _, _, some rest => some (.bool false, rest)
  | _, _, _, _ => none

/-- Whether a character is one of the three quotes. -/
def isQuote (c : Char) : Bool := c == '"' || c == '\x27' || c == '\x60'

/-- A text between two equal quotes, and the quote. -/
def quotedText? : List Char → Reading (Char × String)
  | [] => none
  | quote :: cs =>
    if isQuote quote then
      match cs.dropWhile (· != quote) with
      | _ :: rest => some ((quote, String.ofList (cs.takeWhile (· != quote))), rest)
      | [] => none
    else none

def text? (cs : List Char) : Reading Operand :=
  (quotedText? cs).map fun ((_, s), rest) => (.text s, rest)

mutual

/-- What follows a path. -/
def afterPath? : Nat → List Char → Option (List Char)
  | 0, _ => none
  | depth + 1, cs => (name? cs).map fun (_, rest) => afterSteps depth rest

/-- What follows the steps of a path, as many as there are. -/
def afterSteps : Nat → List Char → List Char
  | 0, cs => cs
  | depth + 1, cs =>
    match afterStep? depth cs with
    | none => cs
    | some rest => afterSteps depth rest

/-- What follows one step of a path: a name after a point, or a number, a text or a path in
brackets. -/
def afterStep? : Nat → List Char → Option (List Char)
  | 0, _ => none
  | depth + 1, cs =>
    match cs with
    | '.' :: cs =>
      if (cs.takeWhile isNameChar).isEmpty then none else some (cs.dropWhile isNameChar)
    | '[' :: cs =>
      match intDigits? cs, quotedText? cs, afterPath? depth cs with
      | some (_, ']' :: rest), _, _ | _, some (_, ']' :: rest), _ | _, _, some (']' :: rest) =>
        some rest
      | _, _, _ => none
    | _ => none

end

def path? (depth : Nat) (cs : List Char) : Reading Path :=
  (afterPath? depth cs).map fun rest => (⟨String.ofList (cs.take (cs.length - rest.length))⟩, rest)

def mathOp? (cs : List Char) : Reading MathOp :=
  match skipSpace cs with
  | '+' :: rest => some (.add, rest)
  | '-' :: rest => some (.sub, rest)
  | '*' :: rest => some (.mul, rest)
  | '/' :: rest => some (.div, rest)
  | '%' :: rest => some (.mod, rest)
  | _ => none

/-- Whether a calculation binds its operands more tightly than a sum. -/
def MathOp.isTight : MathOp → Bool
  | mul | div | mod => true
  | add | sub => false

def comparisonOp? (cs : List Char) : Reading LogicOp :=
  match skipSpace cs with
  | '<' :: '=' :: rest => some (.le, rest)
  | '>' :: '=' :: rest => some (.ge, rest)
  | '>' :: rest => some (.gt, rest)
  | '<' :: rest => some (.lt, rest)
  | '=' :: '=' :: rest => some (.eq, rest)
  | '!' :: '=' :: rest => some (.ne, rest)
  | _ => none

def connective? (cs : List Char) : Reading LogicOp :=
  match word? "or" cs, word? "and" cs with
  | some rest, _ => some (.or, rest)
  | none, some rest => some (.and, rest)
  | none, none => none

/-- Joins operands from the left by those operators that are tight; the others are left between the
results. -/
def joinTight {α ω : Type} (isTight : ω → Bool) (join : ω → α → α → α) :
    α → List (ω × α) → α × List (ω × α)
  | first, [] => (first, [])
  | first, (op, x) :: rest =>
    if isTight op then joinTight isTight join (join op first x) rest
    else
      let (x, rest) := joinTight isTight join x rest
      (first, (op, x) :: rest)

/-- Joins operands, tight operators first, and operators of one kind from the left. -/
def joinAll {α ω : Type} (isTight : ω → Bool) (join : ω → α → α → α) (first : α)
    (rest : List (ω × α)) : α :=
  let (first, rest) := joinTight isTight join first rest
  rest.foldl (fun x (op, y) => join op x y) first

/-- Texts that stand beside each other are one text, and empty texts are left out. -/
def joinTexts : List Operand → List Operand
  | [] => []
  | .text s :: items =>
    match joinTexts items with
    | .text t :: rest => .text (s ++ t) :: rest
    | rest => if s.isEmpty then rest else .text s :: rest
  | item :: items => item :: joinTexts items

/-- Things that are joined. Texts alone are joined when they are read, and are one text then. -/
def Operand.joined (items : List Operand) : Operand :=
  match joinTexts items with
  | [] => .text ""
  | [.text s] => .text s
  | items => .concat items

/-- The first of two readings that there is. -/
def orElse? {α : Type} (first : Reading α) (second : Unit → Reading α) : Reading α :=
  match first with
  | some r => some r
  | none => second ()

mutual

/-- A condition: parts between connectives, of which `and` binds more tightly. -/
def logicExpr? : Nat → List Char → Reading Expr
  | 0, _ => none
  | depth + 1, cs =>
    match logicVal? depth cs with
    | none => none
    | some (first, rest) =>
      let (more, rest) := logicRest depth rest
      some (joinAll (· == .and) (fun op x y => .plain (.logic op x y)) first more, rest)

/-- The further parts of a condition. -/
def logicRest : Nat → List Char → List (LogicOp × Expr) × List Char
  | 0, cs => ([], cs)
  | depth + 1, cs =>
    match connective? cs with
    | none => ([], cs)
    | some (op, rest) =>
      match logicVal? depth rest with
      | none => ([], cs)
      | some (x, rest) =>
        let (more, rest) := logicRest depth rest
        ((op, x) :: more, rest)

/-- A part of a condition: a membership or a comparison, which may be negated, or a condition in
parentheses. Parentheses take a negation away that stands for all of what is in them. -/
def logicVal? : Nat → List Char → Reading Expr
  | 0, _ => none
  | depth + 1, cs =>
    let (negated, start) :=
      match word? "not" cs with
      | some rest => (true, rest)
      | none => (false, cs)
    match member? depth start with
    | some (x, rest) => some (x.withNegation negated, rest)
    | none =>
      match comparison? depth start with
      | some (x, rest) => some (x.withNegation negated, rest)
      | none =>
        match symbol? "(" cs with
        | none => none
        | some inside =>
          match logicExpr? depth inside with
          | none => none
          | some (x, rest) => (symbol? ")" rest).map fun rest => (x.withNegation false, rest)

def member? : Nat → List Char → Reading Expr
  | 0, _ => none
  | depth + 1, cs =>
    match orElse? (textFilter? depth cs) (fun _ => valueFilter? depth cs) with
    | none => none
    | some (left, rest) =>
      let (negated, rest) :=
        match word? "not" rest with
        | some rest => (true, rest)
        | none => (false, rest)
      match symbol? "in" rest with
      | none => none
      | some rest =>
        let container :=
          orElse? (textFilter? depth rest) fun _ =>
            orElse? (listFilter? depth rest) fun _ =>
              (path? depth (skipSpace rest)).map fun (p, rest) => (.plain (.path p), rest)
        container.map fun (right, rest) => (.plain (.member negated left right), rest)

/-- A comparison, or one side alone. -/
def comparison? : Nat → List Char → Reading Expr
  | 0, _ => none
  | depth + 1, cs =>
    match side? depth cs with
    | none => none
    | some (left, rest) =>
      match comparisonOp? rest with
      | none => some (left, rest)
      | some (op, right) =>
        match side? depth right with
        | none => some (left, rest)
        | some (right, rest) => some (.plain (.logic op left right), rest)

/-- A side of a comparison: a text, or a calculation with filtered values. -/
def side? : Nat → List Char → Reading Expr
  | 0, _ => none
  | depth + 1, cs =>
    match textFilter? depth cs with
    | some r => some r
    | none =>
      match valueFilter? depth cs with
      | none => none
      | some (first, rest) =>
        let (more, rest) := sideRest depth rest
        some (joinAll MathOp.isTight (fun op x y => .plain (.math op x y)) first more, rest)

/-- The further values of a side. -/
def sideRest : Nat → List Char → List (MathOp × Expr) × List Char
  | 0, cs => ([], cs)
  | depth + 1, cs =>
    match mathOp? cs with
    | none => ([], cs)
    | some (op, rest) =>
      match valueFilter? depth rest with
      | none => ([], cs)
      | some (x, rest) =>
        let (more, rest) := sideRest depth rest
        ((op, x) :: more, rest)

/-- A text, or several things joined to one, with filters. -/
def textFilter? : Nat → List Char → Reading Expr
  | 0, _ => none
  | depth + 1, cs =>
    match orElse? (concat? depth cs) (fun _ => text? (skipSpace cs)) with
    | none => none
    | some (x, rest) =>
      let (fs, rest) := filters depth rest
      some (.mk x false fs, rest)

/-- At least two things with a tilde between each two. -/
def concat? : Nat → List Char → Reading Operand
  | 0, _ => none
  | depth + 1, cs =>
    match concatItem? depth cs with
    | none => none
    | some (first, rest) =>
      let (more, rest) := concatRest depth rest
      if more.isEmpty then none else some (.joined (first :: more), rest)

/-- The further things that are joined. -/
def concatRest : Nat → List Char → List Operand × List Char
  | 0, cs => ([], cs)
  | depth + 1, cs =>
    match symbol? "~" cs with
    | none => ([], cs)
    | some rest =>
      match concatItem? depth rest with
      | none => ([], cs)
      | some (x, rest) =>
        let (more, rest) := concatRest depth rest
        (x :: more, rest)

/-- A thing that is joined to others. -/
def concatItem? : Nat → List Char → Reading Operand
  | 0, _ => none
  | depth + 1, cs =>
    let start := skipSpace cs
    orElse? ((call? depth start).map fun (c, rest) => (.call c, rest)) fun _ =>
      orElse? (float? start) fun _ =>
        orElse? (int? start) fun _ =>
          orElse? (text? start) fun _ =>
            (path? depth start).map fun (p, rest) => (.path p, rest)

/-- A calculation with filters. -/
def valueFilter? : Nat → List Char → Reading Expr
  | 0, _ => none
  | depth + 1, cs =>
    match calculation? depth cs with
    | none => none
    | some (x, rest) =>
      let (fs, rest) := filters depth rest
      some (.mk x false fs, rest)

/-- A calculation with values that have no filters. -/
def calculation? : Nat → List Char → Reading Operand
  | 0, _ => none
  | depth + 1, cs =>
    match term? depth cs with
    | none => none
    | some (first, rest) =>
      let (more, rest) := terms depth rest
      let join op x y := Operand.math op (.plain x) (.plain y)
      some (joinAll MathOp.isTight join first more, rest)

/-- The further terms of a calculation. -/
def terms : Nat → List Char → List (MathOp × Operand) × List Char
  | 0, cs => ([], cs)
  | depth + 1, cs =>
    match mathOp? cs with
    | none => ([], cs)
    | some (op, rest) =>
      match term? depth rest with
      | none => ([], cs)
      | some (x, rest) =>
        let (more, rest) := terms depth rest
        ((op, x) :: more, rest)

/-- A calculation in parentheses, or a value. -/
def term? : Nat → List Char → Reading Operand
  | 0, _ => none
  | depth + 1, cs =>
    let parenthesized : Reading Operand :=
      match symbol? "(" cs with
      | none => none
      | some inside =>
        match calculation? depth inside with
        | none => none
        | some (x, rest) => (symbol? ")" rest).map fun rest => (x, rest)
    let start := skipSpace cs
    orElse? parenthesized fun _ =>
      orElse? (bool? start) fun _ =>
        orElse? ((call? depth start).map fun (c, rest) => (.call c, rest)) fun _ =>
          orElse? ((path? depth start).map fun (p, rest) => (.path p, rest)) fun _ =>
            orElse? (float? start) fun _ => int? start

/-- Filters, as many as there are. -/
def filters : Nat → List Char → List Call × List Char
  | 0, cs => ([], cs)
  | depth + 1, cs =>
    match symbol? "|" cs with
    | none => ([], cs)
    | some rest =>
      let start := skipSpace rest
      let filter :=
        orElse? (call? depth start) fun _ => (name? start).map fun (n, rest) => (.mk n [], rest)
      match filter with
      | none => ([], cs)
      | some (f, rest) =>
        let (more, rest) := filters depth rest
        (f :: more, rest)

/-- A name with arguments in parentheses. -/
def call? : Nat → List Char → Reading Call
  | 0, _ => none
  | depth + 1, cs =>
    match name? cs with
    | none => none
    | some (n, rest) =>
      match symbol? "(" rest with
      | none => none
      | some rest =>
        let (args, rest) := arguments depth rest
        let rest := (symbol? "," rest).filter (fun _ => !args.isEmpty) |>.getD rest
        (symbol? ")" rest).map fun rest => (.mk n args, rest)

/-- Named arguments with a comma between each two. -/
def arguments : Nat → List Char → List (String × Expr) × List Char
  | 0, cs => ([], cs)
  | depth + 1, cs =>
    match argument? depth cs with
    | none => ([], cs)
    | some (first, rest) =>
      match symbol? "," rest with
      | none => ([first], rest)
      | some next =>
        match arguments depth next with
        | ([], _) => ([first], rest)
        | (more, rest) => (first :: more, rest)

def argument? : Nat → List Char → Reading (String × Expr)
  | 0, _ => none
  | depth + 1, cs =>
    match name? (skipSpace cs) with
    | none => none
    | some (n, rest) =>
      match symbol? "=" rest with
      | none => none
      | some rest =>
        (orElse? (logicExpr? depth rest) fun _ => listFilter? depth rest).map fun (x, rest) =>
          ((n, x), rest)

/-- A list with filters. -/
def listFilter? : Nat → List Char → Reading Expr
  | 0, _ => none
  | depth + 1, cs =>
    match symbol? "[" cs with
    | none => none
    | some rest =>
      let (items, rest) := listItems depth rest
      match symbol? "]" rest with
      | none => none
      | some rest =>
        let (fs, rest) := filters depth rest
        some (.mk (.list items) false fs, rest)

/-- The items of a list, each followed by a comma but the last one, which may be. -/
def listItems : Nat → List Char → List Expr × List Char
  | 0, cs => ([], cs)
  | depth + 1, cs =>
    match logicVal? depth cs with
    | none => ([], cs)
    | some (x, rest) =>
      match symbol? "," rest with
      | none => ([x], rest)
      | some rest =>
        let (more, rest) := listItems depth rest
        (x :: more, rest)

end

/-- A depth of calls that is enough for a text. -/
def depthBound (cs : List Char) : Nat := 12 * (cs.length + 2)

/-- A condition, or a list with filters. -/
def expression? (cs : List Char) : Reading Expr :=
  orElse? (logicExpr? (depthBound cs) cs) fun _ => listFilter? (depthBound cs) cs

/-- A condition alone. -/
def condition? (cs : List Char) : Reading Expr := logicExpr? (depthBound cs) cs

/-- What a loop runs over: a value with filters, or a list with filters. -/
def container? (cs : List Char) : Reading Expr :=
  orElse? (valueFilter? (depthBound cs) cs) fun _ => listFilter? (depthBound cs) cs

end TemplateServer.Template
