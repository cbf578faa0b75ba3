/-
# Toml.Text -- blanks, strings and keys

A string is basic, with escapes, or literal, without any; both have a form that
runs over several lines.  A key is a bare word or a string of one line, and a
dotted key is a sequence of keys.
-/
import Wikilink.Json.Parser

namespace Wikilink.Toml

set_option autoImplicit false

/-! ## Blanks and line ends -/

/-- A blank inside a line. -/
def isSpace (c : Char) : Bool :=
  c = ' ' || c = '\t'

/-- The text after blanks. -/
def skipSpaces (cs : List Char) : List Char :=
  cs.dropWhile isSpace

/-- A character of a comment or a string of one line. -/
def isPlain (c : Char) : Bool :=
  c = '\t' || (0x20 ≤ c.toNat && c.toNat ≠ 0x7F)

/-- The text after a line end. -/
def newline? : List Char → Option (List Char)
  | '\n' :: rest => some rest
  | '\r' :: '\n' :: rest => some rest
  | _ => none

/-- The text after blanks, line ends and comments; the flag tells whether it starts in a comment. -/
def skipLines : Bool → List Char → List Char
  | _, [] => []
  | _, '\n' :: cs => skipLines false cs
  | _, '\r' :: '\n' :: cs => skipLines false cs
  | true, c :: cs => if isPlain c then skipLines true cs else c :: cs
  | false, c :: cs =>
      if isSpace c then skipLines false cs
      else if c = '#' then skipLines true cs
      else c :: cs

/-- The text after the rest of a line that holds nothing but blanks and a comment. -/
def endLine? (cs : List Char) : Option (List Char) :=
  let rest := match skipSpaces cs with
    | '#' :: comment => comment.dropWhile isPlain
    | other => other
  if rest.isEmpty then some [] else newline? rest

/-! ## Strings -/

/-- The character with a hexadecimal code. -/
def scalar? (digits : List Char) : Option Char := do
  let values ← digits.mapM Json.hexDigit?
  let n := values.foldl (fun n d => n * 16 + d) 0
  if n < 0xD800 ∨ 0xDFFF < n ∧ n < 0x110000 then some (Char.ofNat n) else none

/-- The character behind a backslash that stands for one character. -/
def simpleEscape? : Char → Option Char
  | 'b' => some '\x08'
  | 't' => some '\t'
  | 'n' => some '\n'
  | 'f' => some '\x0c'
  | 'r' => some '\r'
  | '"' => some '"'
  | '\\' => some '\\'
  | _ => none

/-- The rest of a basic string, and what follows it. -/
def basic? : List Char → Option (List Char × List Char)
  | [] => none
  | '"' :: rest => some ([], rest)
  | '\\' :: 'u' :: a :: b :: c :: d :: rest => do
      let ch ← scalar? [a, b, c, d]
      let (cs, after) ← basic? rest
      return (ch :: cs, after)
  | '\\' :: 'U' :: a :: b :: c :: d :: e :: f :: g :: h :: rest => do
      let ch ← scalar? [a, b, c, d, e, f, g, h]
      let (cs, after) ← basic? rest
      return (ch :: cs, after)
  | '\\' :: e :: rest => do
      let ch ← simpleEscape? e
      let (cs, after) ← basic? rest
      return (ch :: cs, after)
  | c :: rest => do
      guard (isPlain c ∧ c ≠ '\\')
      let (cs, after) ← basic? rest
      return (c :: cs, after)

/-- The rest of a literal string, and what follows it. -/
def literal? : List Char → Option (List Char × List Char)
  | [] => none
  | c :: rest =>
      if c = '\x27' then some ([], rest)
      else if isPlain c then do
        let (cs, after) ← literal? rest
        return (c :: cs, after)
      else none

/-- The rest of a basic string of several lines, and what follows it.  A backslash at the end of a
line joins it with the next text, and the flag tells that blanks and line ends are being skipped
for that.  Up to two quotes may stand right before the closing ones. -/
def longBasic? : Bool → List Char → Option (List Char × List Char)
  | _, [] => none
  | true, '\r' :: '\n' :: rest => longBasic? true rest
  | true, ' ' :: rest => longBasic? true rest
  | true, '\t' :: rest => longBasic? true rest
  | true, '\n' :: rest => longBasic? true rest
  | _, '"' :: '"' :: '"' :: '"' :: '"' :: rest => some (['"', '"'], rest)
  | _, '"' :: '"' :: '"' :: '"' :: rest => some (['"'], rest)
  | _, '"' :: '"' :: '"' :: rest => some ([], rest)
  | _, '\r' :: '\n' :: rest => do
      let (cs, after) ← longBasic? false rest
      return ('\n' :: cs, after)
  | _, '\\' :: 'u' :: a :: b :: c :: d :: rest => do
      let ch ← scalar? [a, b, c, d]
      let (cs, after) ← longBasic? false rest
      return (ch :: cs, after)
  | _, '\\' :: 'U' :: a :: b :: c :: d :: e :: f :: g :: h :: rest => do
      let ch ← scalar? [a, b, c, d, e, f, g, h]
      let (cs, after) ← longBasic? false rest
      return (ch :: cs, after)
  | _, '\\' :: e :: rest =>
      if (newline? (skipSpaces (e :: rest))).isSome then longBasic? true (e :: rest)
      else do
        let ch ← simpleEscape? e
        let (cs, after) ← longBasic? false rest
        return (ch :: cs, after)
  | _, c :: rest => do
      guard ((isPlain c ∨ c = '\n') ∧ c ≠ '\\')
      let (cs, after) ← longBasic? false rest
      return (c :: cs, after)

/-- The rest of a literal string of several lines, and what follows it. -/
def longLiteral? : List Char → Option (List Char × List Char)
  | [] => none
  | '\x27' :: '\x27' :: '\x27' :: '\x27' :: '\x27' :: rest => some (['\x27', '\x27'], rest)
  | '\x27' :: '\x27' :: '\x27' :: '\x27' :: rest => some (['\x27'], rest)
  | '\x27' :: '\x27' :: '\x27' :: rest => some ([], rest)
  | '\r' :: '\n' :: rest => do
      let (cs, after) ← longLiteral? rest
      return ('\n' :: cs, after)
  | c :: rest => do
      guard (isPlain c ∨ c = '\n')
      let (cs, after) ← longLiteral? rest
      return (c :: cs, after)

/-- The text without a line end at its start. -/
def dropNewline (cs : List Char) : List Char :=
  (newline? cs).getD cs

/-- The string at the start of a text; `none` if no string begins there or it is malformed. -/
def string? : List Char → Option (List Char × List Char)
  | '"' :: '"' :: '"' :: rest => longBasic? false (dropNewline rest)
  | '\x27' :: '\x27' :: '\x27' :: rest => longLiteral? (dropNewline rest)
  | '"' :: rest => basic? rest
  | '\x27' :: rest => literal? rest
  | _ => none

/-! ## Keys -/

/-- A character of a bare key. -/
def isBare (c : Char) : Bool :=
  c.isAlphanum || c = '_' || c = '-'

/-- The key at the start of a text. -/
def key? : List Char → Option (String × List Char)
  | '"' :: rest => (basic? rest).map fun (cs, after) => (String.ofList cs, after)
  | '\x27' :: rest => (literal? rest).map fun (cs, after) => (String.ofList cs, after)
  | cs =>
      let word := cs.takeWhile isBare
      if word.isEmpty then none else some (String.ofList word, cs.dropWhile isBare)

/-- The greatest number of keys in a dotted key, and of arrays and inline tables around a value. -/
def depthLimit : Nat := 79

/-- The dotted key of at most so many keys at the start of a text, blanks around its dots and after
it included. -/
def dotted? : Nat → List Char → Option (List String × List Char)
  | 0, _ => none
  | limit + 1, cs => do
      let (name, rest) ← key? (skipSpaces cs)
      match skipSpaces rest with
      | '.' :: more =>
          let (names, after) ← dotted? limit more
          return (name :: names, after)
      | after => return ([name], after)

/-- The dotted key at the start of a text. -/
def path? (cs : List Char) : Option (List String × List Char) :=
  dotted? depthLimit cs

end Wikilink.Toml
