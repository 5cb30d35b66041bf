import Doip.Document.Toml.Scalar

/-! The lines of a TOML document: settings with dotted keys, and headers of tables and of tables in lists. -/

namespace Doip.Toml

def quote : Char := '\x22'

def apostrophe : Char := '\x27'

def isSpace (c : Char) : Bool := c = ' ' || c = '\t'

def skip (cs : List Char) : List Char := cs.dropWhile isSpace

/-- What stands in comments and strings: no control but the tab. -/
def isPrintable (c : Char) : Bool := c = '\t' || (0x20 ≤ c.toNat && c.toNat ≤ 0x7E) || 0x80 ≤ c.toNat

def newline? : List Char → Option (List Char)
  | '\n' :: rest => some rest
  | '\r' :: '\n' :: rest => some rest
  | _ => none

/-- Takes the end of a line off a text: blanks, a comment, and the line break unless the text ends. -/
def lineEnd (cs : List Char) : Option (List Char) :=
  let cs := match skip cs with
    | '#' :: rest => rest.dropWhile isPrintable
    | cs => cs
  if cs.isEmpty then some [] else newline? cs

def skipLines (inComment : Bool) : List Char → List Char
  | [] => []
  | '\n' :: rest => skipLines false rest
  | '\r' :: '\n' :: rest => skipLines false rest
  | c :: rest =>
    if inComment then (if isPrintable c then skipLines true rest else c :: rest)
    else if isSpace c then skipLines false rest
    else if c = '#' then skipLines true rest
    else c :: rest

/-! Strings. -/

def scalarValue? (n : Nat) : Option Char := if h : n.isValidChar then some (Char.ofNatAux n h) else none

def codePoint? (digits : List Char) : Option Char :=
  (Numeral.extend 16 0xFFFFFFFF 0 digits).toOption.bind scalarValue?

def escape : List Char → Option (Char × List Char)
  | 'u' :: a :: b :: c :: d :: rest => (codePoint? [a, b, c, d]).map (·, rest)
  | 'U' :: a :: b :: c :: d :: e :: f :: g :: h :: rest => (codePoint? [a, b, c, d, e, f, g, h]).map (·, rest)
  | 'b' :: rest => some ('\x08', rest)
  | 'f' :: rest => some ('\x0C', rest)
  | 'n' :: rest => some ('\n', rest)
  | 'r' :: rest => some ('\r', rest)
  | 't' :: rest => some ('\t', rest)
  | c :: rest => if c = quote ∨ c = '\\' then some (c, rest) else none
  | [] => none

/-- A string of one line behind its opening quote; only between double quotes are there escapes. -/
def lineString (q : Char) : (fuel : Nat) → List Char → Option (List Char × List Char)
  | 0, _ => none
  | _, [] => none
  | fuel + 1, c :: rest =>
    if c = q then some ([], rest)
    else if c = '\\' ∧ q = quote then do
      let (e, rest) ← escape rest
      let (cs, rest) ← lineString q fuel rest
      return (e :: cs, rest)
    else if isPrintable c then do
      let (cs, rest) ← lineString q fuel rest
      return (c :: cs, rest)
    else none

def skipBreaks : List Char → List Char
  | '\n' :: rest => skipBreaks rest
  | '\r' :: '\n' :: rest => skipBreaks rest
  | c :: rest => if isSpace c then skipBreaks rest else c :: rest
  | [] => []

/-- Skips the line break behind a backslash with all blanks and line breaks around it. -/
def foldedLine (cs : List Char) : Option (List Char) := (newline? (skip cs)).map skipBreaks

/-- A string of several lines behind its opening quotes. Three quotes end it, and up to two more that
follow them belong to it. -/
def blockString (q : Char) : (fuel : Nat) → List Char → Option (List Char × List Char)
  | 0, _ => none
  | fuel + 1, cs =>
    if [q, q, q].isPrefixOf cs then
      let rest := cs.drop 3
      let extra := min 2 (rest.takeWhile (· = q)).length
      some (List.replicate extra q, rest.drop extra)
    else match newline? cs with
      | some rest => do
        let (cs, rest) ← blockString q fuel rest
        return ('\n' :: cs, rest)
      | none =>
        match cs with
        | [] => none
        | c :: rest =>
          if c = '\\' ∧ q = quote then
            match foldedLine rest with
            | some rest => blockString q fuel rest
            | none => do
              let (e, rest) ← escape rest
              let (cs, rest) ← blockString q fuel rest
              return (e :: cs, rest)
          else if isPrintable c then do
            let (cs, rest) ← blockString q fuel rest
            return (c :: cs, rest)
          else none

/-- A string behind its first quote; a line break right behind three quotes does not belong to it. -/
def string (q : Char) (cs : List Char) : Option (List Char × List Char) :=
  if [q, q].isPrefixOf cs then
    let body := cs.drop 2
    blockString q (body.length + 1) ((newline? body).getD body)
  else lineString q (cs.length + 1) cs

/-! Keys. -/

def isBareKey (c : Char) : Bool :=
  ('a' ≤ c && c ≤ 'z') || ('A' ≤ c && c ≤ 'Z') || ('0' ≤ c && c ≤ '9') || c = '_' || c = '-'

def simpleKey (cs : List Char) : Option (String × List Char) :=
  match cs with
  | [] => none
  | c :: rest =>
    if c = quote ∨ c = apostrophe then
      (lineString c (rest.length + 1) rest).map fun (key, rest) => (String.ofList key, rest)
    else
      let key := cs.takeWhile isBareKey
      if key.isEmpty then none else some (String.ofList key, cs.drop key.length)

def depthLimit : Nat := 80

def dottedKey : (fuel : Nat) → List Char → Option (List String × List Char)
  | 0, _ => none
  | fuel + 1, cs => do
    let (key, rest) ← simpleKey (skip cs)
    match skip rest with
    | '.' :: rest => do
      let (keys, rest) ← dottedKey fuel rest
      return (key :: keys, rest)
    | rest => return ([key], rest)

def key (cs : List Char) : Option (List String × List Char) := do
  let (keys, rest) ← dottedKey (cs.length + 1) cs
  if keys.length < depthLimit then some (keys, rest) else none

/-! Tables under construction. -/

/-- A table remembers whether it was only mentioned on the way to another (`implicit`) and whether dotted
keys made it. Tables in lists are appended, and the newest one is extended. -/
inductive Node
  | leaf (value : Value)
  | table (implicit dotted : Bool) (members : List (String × Node))
  | tables (elements : List (List (String × Node)))

def setMember (k : String) (n : Node) : List (String × Node) → List (String × Node)
  | [] => [(k, n)]
  | (k', n') :: ms => if k' = k then (k, n) :: ms else (k', n') :: setMember k n ms

/-- Changes the table at a path, making the tables on the way. `f` is told whether dotted keys made the table
it changes. Dotted keys do not reach into a table that has been given. -/
def within (byDots : Bool) (f : Bool → List (String × Node) → Option (List (String × Node))) :
    (dotted : Bool) → List String → List (String × Node) → Option (List (String × Node))
  | dotted, [], ms => f dotted ms
  | _, k :: path, ms =>
    match ms.lookup k with
    | none => do
      let inner ← within byDots f byDots path []
      return setMember k (.table true byDots inner) ms
    | some (.leaf _) => none
    | some (.table implicit dotted inner) => do
      if byDots ∧ !implicit then none
      let inner ← within byDots f dotted path inner
      return setMember k (.table implicit dotted inner) ms
    | some (.tables elements) => do
      let newest ← elements.getLast?
      let newest ← within byDots f false path newest
      return setMember k (.tables (elements.dropLast ++ [newest])) ms

/-- Adds a setting to a table; a key stands only once, and only dotted keys add to what they made. -/
def insert (keys : List String) (v : Value) (ms : List (String × Node)) : Option (List (String × Node)) := do
  let last ← keys.getLast?
  within true (fun dotted inner =>
    if dotted = keys.dropLast.isEmpty ∨ (inner.lookup last).isSome then none
    else some (setMember last (.leaf v) inner)) false keys.dropLast ms

mutual

def Node.toValue : Node → Value
  | .leaf v => v
  | .table _ _ ms => .table (membersToValues ms)
  | .tables es => .list (elementsToValues es)

def membersToValues : List (String × Node) → List (Option String × Value)
  | [] => []
  | (k, n) :: ms => (some k, n.toValue) :: membersToValues ms

def elementsToValues : List (List (String × Node)) → List Value
  | [] => []
  | ms :: es => .table (membersToValues ms) :: elementsToValues es

end

/-! Values. -/

def isScalarChar (c : Char) : Bool := isBareKey c || c = '+' || c = '.' || c = ':'

/-- The characters of a scalar without quotes; one blank may stand between a date and a time. -/
def scalarText (cs : List Char) : List Char :=
  let token := cs.takeWhile isScalarChar
  match date token, cs.drop token.length with
  | some [], ' ' :: c :: rest =>
    if (Numeral.digit? 10 c).isSome then token ++ ' ' :: (c :: rest).takeWhile isScalarChar else token
  | _, _ => token

mutual

def value : (fuel depth : Nat) → List Char → Option (Value × List Char)
  | 0, _, _ => none
  | fuel + 1, depth, cs =>
    match cs with
    | [] => none
    | c :: rest =>
      if c = quote ∨ c = apostrophe then
        (string c rest).map fun (s, rest) => (.text (String.ofList s), rest)
      else if c = '[' then
        if depthLimit ≤ depth + 1 then none
        else (items fuel (depth + 1) (skipLines false rest)).map fun (vs, rest) => (.list vs, rest)
      else if c = '{' then
        if depthLimit ≤ depth + 1 then none
        else match skip rest with
          | '}' :: rest => some (.table [], rest)
          | rest => (members fuel (depth + 1) [] rest).map fun (ms, rest) => (.table (membersToValues ms), rest)
      else
        let token := scalarText cs
        (scalar? token).map (·, cs.drop token.length)

def items : (fuel depth : Nat) → List Char → Option (List Value × List Char)
  | 0, _, _ => none
  | _, _, ']' :: rest => some ([], rest)
  | fuel + 1, depth, cs => do
    let (v, rest) ← value fuel depth cs
    match skipLines false rest with
    | ']' :: rest => return ([v], rest)
    | ',' :: rest => do
      let (vs, rest) ← items fuel depth (skipLines false rest)
      return (v :: vs, rest)
    | _ => none

def members : (fuel depth : Nat) → List (String × Node) → List Char → Option (List (String × Node) × List Char)
  | 0, _, _, _ => none
  | fuel + 1, depth, ms, cs => do
    let (keys, rest) ← key cs
    let rest ← lit '=' rest
    let (v, rest) ← value fuel depth (skip rest)
    let ms ← insert keys v ms
    match skip rest with
    | '}' :: rest => return (ms, rest)
    | ',' :: rest => members fuel depth ms rest
    | _ => none

end

/-! Lines. -/

inductive Line
  | setting (keys : List String) (value : Value)
  | table (path : List String)
  | element (path : List String)

def header (brackets : Nat) (cs : List Char) : Option (List String × List Char) := do
  let (path, rest) ← key (cs.drop brackets)
  let closing := List.replicate brackets ']'
  if closing.isPrefixOf rest then (lineEnd (rest.drop brackets)).map (path, ·) else none

def setting (cs : List Char) : Option (Line × List Char) := do
  let (keys, rest) ← key cs
  let (v, rest) ← value (2 * cs.length) 0 (skip (← lit '=' rest))
  (lineEnd rest).map (.setting keys v, ·)

def lines : (fuel : Nat) → List Char → Option (List Line)
  | 0, _ => none
  | fuel + 1, cs =>
    match skip cs with
    | [] => some []
    | '#' :: rest => (lineEnd ('#' :: rest)).bind (lines fuel)
    | '\n' :: rest => lines fuel rest
    | '\r' :: rest => (newline? ('\r' :: rest)).bind (lines fuel)
    | '[' :: '[' :: rest => do
      let (path, rest) ← header 2 ('[' :: '[' :: rest)
      (lines fuel rest).map (.element path :: ·)
    | '[' :: rest => do
      let (path, rest) ← header 1 ('[' :: rest)
      (lines fuel rest).map (.table path :: ·)
    | cs => do
      let (line, rest) ← setting cs
      (lines fuel rest).map (line :: ·)

end Doip.Toml
