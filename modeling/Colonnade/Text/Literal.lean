/-!
# Literal expressions

An expression built only of constants: numbers, texts and bytes, `True`, `False`, `None`, `...`,
tuples, lists, sets, dictionaries and `set()`, with signs and a real plus an imaginary number; set
elements and dictionary keys must be hashable.
-/

namespace Colonnade.Text.Literal

/-- What a part of an expression is: a number (imaginary or not, and whether it is a constant
as written, without sign or operator), or another constant or display, hashable or not. -/
inductive Shape where
  | number (imaginary bare : Bool)
  | other (hashable : Bool)
  deriving DecidableEq, Repr

def Shape.hashable : Shape → Bool
  | .number .. => true
  | .other h => h

def isDigit (c : Char) : Bool := '0' ≤ c && c ≤ '9'

def isNameChar (c : Char) : Bool := c.isAlphanum || c == '_' || c.toNat ≥ 128

mutual

/-- Skips blanks, line breaks, comments and escaped line ends. -/
def skipSpace : List Char → List Char
  | ' ' :: rest | '\t' :: rest | '\n' :: rest | '\r' :: rest | '\x0C' :: rest => skipSpace rest
  | '\\' :: '\n' :: rest => skipSpace rest
  | '#' :: rest => skipComment rest
  | cs => cs

/-- Skips the rest of a comment, then what `skipSpace` skips. -/
def skipComment : List Char → List Char
  | [] => []
  | '\n' :: rest => skipSpace rest
  | _ :: rest => skipComment rest

end

/-- Digits by `isDigitOf` with single underscores between them, at least one; what follows. -/
def digitRun (isDigitOf : Char → Bool) : List Char → Option (List Char)
  | c :: rest =>
    if isDigitOf c then
      let rec go : List Char → List Char
        | '_' :: d :: more => if isDigitOf d then go more else '_' :: d :: more
        | d :: more => if isDigitOf d then go more else d :: more
        | [] => []
      some (go rest)
    else none
  | [] => none

/-- An optional exponent: `e` or `E`, a sign and digits. Fails on an exponent without digits. -/
def exponent? : List Char → Option (Bool × List Char)
  | e :: rest =>
    if e == 'e' || e == 'E' then
      let rest := match rest with
        | '+' :: r | '-' :: r => r
        | r => r
      (digitRun isDigit rest).map fun r => (true, r)
    else some (false, e :: rest)
  | [] => some (false, [])

/-- Reads a number; gives whether it is imaginary and what follows. -/
def number? (cs : List Char) : Option (Bool × List Char) := do
  let isHex := fun (c : Char) => isDigit c || ('a' ≤ c && c ≤ 'f') || ('A' ≤ c && c ≤ 'F')
  let based := fun (isDigitOf : Char → Bool) (rest : List Char) =>
    digitRun isDigitOf (match rest with | '_' :: r => r | r => r)
  let (imaginary, rest) ← match cs with
    | '0' :: x :: rest =>
      if x == 'x' || x == 'X' then (based isHex rest).map fun r => (false, r)
      else if x == 'o' || x == 'O' then (based (fun c => '0' ≤ c && c ≤ '7') rest).map fun r => (false, r)
      else if x == 'b' || x == 'B' then (based (fun c => c == '0' || c == '1') rest).map fun r => (false, r)
      else decimal cs
    | _ => decimal cs
  match rest with
  | c :: _ => if isNameChar c || c == '.' then none else some (imaginary, rest)
  | [] => some (imaginary, rest)
where
  /-- A decimal integer, float or imaginary number. -/
  decimal (cs : List Char) : Option (Bool × List Char) := do
    let whole := digitRun isDigit cs
    let afterWhole := whole.getD cs
    let (point, afterFrac) ← match afterWhole with
      | '.' :: r =>
        match digitRun isDigit r with
        | some r' => some (true, r')
        | none => if whole.isSome then some (true, r) else none
      | r => if whole.isSome then some (false, r) else none
    let (exp, rest) ← exponent? afterFrac
    let (imaginary, rest) := match rest with
      | 'j' :: r | 'J' :: r => (true, r)
      | r => (false, r)
    -- a decimal integer other than zero has no leading zero
    let intText := cs.take (cs.length - afterWhole.length)
    if !point && !exp && !imaginary &&
      ((intText.head? == some '0' && intText.any fun c => isDigit c && c != '0') ||
        (intText.filter isDigit).length > 4300)
    then none
    else some (imaginary, rest)

/-- Reads the body of a text after its opening quote `q` (three of them when `triple`); gives
what follows the closing quote, or none when it does not close or an escape is wrong. `raw`
texts take escapes as written; `bytes` may hold ASCII only. -/
def textBody (q : Char) (triple raw bytes : Bool) : Nat → List Char → Option (List Char)
  | 0, _ => none
  | fuel + 1, cs =>
    match cs with
    | [] => none
    | c :: rest =>
      if bytes && c.toNat ≥ 128 then none
      else if c == q && (!triple || rest.take 2 == [q, q]) then
        some (if triple then rest.drop 2 else rest)
      else if c == '\n' && !triple then none
      else if c == '\\' then
        match rest with
        | [] => none
        | e :: more =>
          if raw then textBody q triple raw bytes fuel more
          else
            let hex := fun (n : Nat) =>
              (more.take n).length == n && (more.take n).all fun d =>
                isDigit d || ('a' ≤ d && d ≤ 'f') || ('A' ≤ d && d ≤ 'F')
            let value := fun (n : Nat) => (more.take n).foldl (fun v d =>
              16 * v + (if isDigit d then d.toNat - 48 else if d ≤ 'F' then d.toNat - 55 else d.toNat - 87)) 0
            if e == 'x' then
              if hex 2 then textBody q triple raw bytes fuel (more.drop 2) else none
            else if e == 'u' && !bytes then
              if hex 4 then textBody q triple raw bytes fuel (more.drop 4) else none
            else if e == 'U' && !bytes then
              if hex 8 && value 8 ≤ 0x10FFFF then textBody q triple raw bytes fuel (more.drop 8) else none
            else if e == 'N' && !bytes then
              match more with
              | '{' :: names =>
                let name := names.takeWhile (· != '}')
                if name.isEmpty || names.drop name.length == [] then none
                else textBody q triple raw bytes fuel (names.drop (name.length + 1))
              | _ => none
            else textBody q triple raw bytes fuel more
      else textBody q triple raw bytes fuel rest

/-- Reads one text or bytes literal with its prefix; gives whether it is bytes and what follows,
or none when it is not a literal of constant text. -/
def textLiteral? (cs : List Char) : Option (Bool × List Char) :=
  let pfx := cs.takeWhile Char.isAlpha
  let rest := cs.drop pfx.length
  let low := String.ofList (pfx.map Char.toLower)
  if !(["", "r", "u", "b", "br", "rb"].contains low) then none
  else
    let raw := low.toList.contains 'r'
    let bytes := low.toList.contains 'b'
    match rest with
    | q :: more =>
      if q == '\'' || q == '"' then
        let triple := more.take 2 == [q, q]
        let body := if triple then more.drop 2 else more
        (textBody q triple raw bytes (cs.length + 1) body).map fun r => (bytes, r)
      else none
    | [] => none

/-- Whether characters start a text literal: quotes, or a short prefix and a quote. -/
def startsText (cs : List Char) : Bool :=
  let pfx := cs.takeWhile Char.isAlpha
  pfx.length ≤ 2 && match cs.drop pfx.length with
    | q :: _ => q == '\'' || q == '"'
    | [] => false

mutual

/-- Reads a sign or operand: a signed number, or an atom. -/
def signed : Nat → List Char → Option (Shape × List Char)
  | 0, _ => none
  | fuel + 1, cs =>
    match skipSpace cs with
    | '+' :: rest | '-' :: rest => do
      let (s, rest) ← atom fuel rest
      match s with
      | .number imaginary true => some (.number imaginary false, rest)
      | _ => none
    | cs => atom fuel cs

/-- Reads an expression: a signed number or atom, or a real number and an imaginary constant
joined by `+` or `-`. -/
def expr : Nat → List Char → Option (Shape × List Char)
  | 0, _ => none
  | fuel + 1, cs => do
    let (s, rest) ← signed fuel cs
    match skipSpace rest with
    | '+' :: more | '-' :: more =>
      let (t, more) ← atom fuel more
      match s, t with
      | .number false _, .number true true => some (.number true false, more)
      | _, _ => none
    | rest => some (s, rest)

/-- Reads an atom: a number, adjacent texts, a constant name, a display in brackets, or
`set()`. -/
def atom : Nat → List Char → Option (Shape × List Char)
  | 0, _ => none
  | fuel + 1, cs =>
    match skipSpace cs with
    | [] => none
    | c :: rest =>
      if isDigit c || (c == '.' && (rest.head?.map isDigit).getD false) then
        (number? (c :: rest)).map fun (imaginary, r) => (.number imaginary true, r)
      else if c == '.' then
        match rest with
        | '.' :: '.' :: r => some (.other true, r)
        | _ => none
      else if startsText (c :: rest) then texts fuel none (c :: rest)
      else if isNameChar c then
        let name := String.ofList ((c :: rest).takeWhile isNameChar)
        let after := (c :: rest).drop name.length
        if name == "True" || name == "False" || name == "None" then some (.other true, after)
        else if name == "set" then
          match skipSpace after with
          | '(' :: more =>
            match skipSpace more with
            | ')' :: r => some (.other false, r)
            | _ => none
          | _ => none
        else none
      else if c == '(' then
        match skipSpace rest with
        | ')' :: r => some (.other true, r)
        | _ => do
          let (items, trailing, r) ← exprList fuel (some ')') rest
          match items, trailing with
          | [s], false => some (s, r)
          | _, _ => some (.other (items.all Shape.hashable), r)
      else if c == '[' then do
        let (_, _, r) ← exprList fuel (some ']') rest
        some (.other false, r)
      else if c == '{' then
        match skipSpace rest with
        | '}' :: r => some (.other false, r)
        | _ => display fuel rest
      else none

/-- Reads adjacent texts, which must be all bytes or all text. -/
def texts : Nat → Option Bool → List Char → Option (Shape × List Char)
  | 0, _, _ => none
  | fuel + 1, kind, cs =>
    match textLiteral? (skipSpace cs) with
    | some (bytes, rest) =>
      if kind.isSome && kind != some bytes then none
      else
        if startsText (skipSpace rest) then texts fuel (some bytes) rest
        else some (.other true, rest)
    | none => if kind.isSome then some (.other true, cs) else none

/-- Reads expressions parted by commas up to a closing bracket (or the end of the text, when
`close` is none), with an optional trailing comma; gives them, whether a comma trails, and what
follows the bracket. -/
def exprList : Nat → Option Char → List Char → Option (List Shape × Bool × List Char)
  | 0, _, _ => none
  | fuel + 1, close, cs =>
    match skipSpace cs, close with
    | [], none => some ([], true, [])
    | [], some _ => none
    | c :: rest, _ =>
      if some c == close then some ([], true, rest)
      else do
        let (s, r) ← expr fuel (c :: rest)
        match skipSpace r, close with
        | ',' :: more, _ =>
          let (ss, trailing, r') ← exprList fuel close more
          some (s :: ss, if ss.isEmpty then true else trailing, r')
        | [], none => some ([s], false, [])
        | d :: more, some e => if d == e then some ([s], false, more) else none
        | _, _ => none

/-- Reads a set or dictionary display after its brace; its members must be hashable. -/
def display : Nat → List Char → Option (Shape × List Char)
  | 0, _ => none
  | fuel + 1, cs => do
    let (first, r) ← expr fuel cs
    if !first.hashable then none
    match skipSpace r with
    | ':' :: more =>
      let (_, r) ← expr fuel more
      pairs fuel r
    | r => do
      let (items, _, r) ← exprList fuel (some '}') (match r with | ',' :: more => more | _ => r)
      if items.all Shape.hashable then some (.other false, r) else none

/-- Reads the rest of a dictionary display after a pair: more pairs with hashable keys. -/
def pairs : Nat → List Char → Option (Shape × List Char)
  | 0, _ => none
  | fuel + 1, cs =>
    match skipSpace cs with
    | '}' :: r => some (.other false, r)
    | ',' :: more =>
      match skipSpace more with
      | '}' :: r => some (.other false, r)
      | _ => do
        let (k, r) ← expr fuel more
        if !k.hashable then none
        match skipSpace r with
        | ':' :: more =>
          let (_, r) ← expr fuel more
          pairs fuel r
        | _ => none
    | _ => none

end

/-- Whether a text is a literal expression: one expression, or several parted by commas (a
tuple), and nothing after. A text with a null character is no source at all. -/
def isLiteral (s : String) : Bool :=
  let cs := s.toList
  !cs.contains '\x00' && !(skipSpace cs).isEmpty &&
    (exprList (4 * cs.length + 8) none cs).isSome

end Colonnade.Text.Literal
