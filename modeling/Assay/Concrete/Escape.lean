import Assay.Text.Basic

/-!
# Escapes in string literals

`Escape.resolve` gives the text that the body of a string literal or of a template stands for. An
escape names a code point in hexadecimal (`\u` with four digits or with digits in braces, `\x` with
two), or stands for a control character, or joins two lines, or stands for the code point behind
the backslash. Each escape names one code point, so a pair of surrogate escapes stays two.
-/

set_option autoImplicit false

namespace Assay.Escape

/-- Why an escape names no code point. -/
inductive Failure where
  /-- The number is no code point. -/
  | notCodePoint
  /-- The number does not even fit into a signed word of 32 bits. -/
  | notWord

/-- The words for a failure. -/
def Failure.message : Failure → Text
  | .notCodePoint => "chr() arg not in range(0x110000)"
  | .notWord => "signed integer is greater than maximum"

/-- The code point of a number. -/
def codePoint (n : Nat) : Except Failure CodePoint :=
  if h : n < 0x110000 then .ok ⟨n, h⟩
  else if n < 0x80000000 then .error .notCodePoint
  else .error .notWord

/-- The value of hexadecimal digits in braces at the start of a text, and the length of all. -/
def bracedHex? (t : Text) : Option (Nat × Nat) :=
  match t with
  | c :: rest =>
    let digits := rest.takeWhile fun (d : CodePoint) => d.hexValue?.isSome
    if c == '\x7b' && !digits.isEmpty && (rest.drop digits.length).head? == some '\x7d' then
      (Text.hexValue? digits).map (·, digits.length + 2)
    else none
  | [] => none

/-- The control characters that a letter stands for. -/
def letters : List (Char × Nat) :=
  [('n', 0x0A), ('t', 0x09), ('r', 0x0D), ('b', 0x08), ('f', 0x0C), ('v', 0x0B), ('0', 0x00)]

/-- Whether a line ends with the code point, so that a backslash before it joins the lines. -/
def endsLine (c : CodePoint) : Bool :=
  c == '\n' || c == '\r' || c.val == 0x2028 || c.val == 0x2029

/-- The code point that one letter behind a backslash stands for. -/
def letterValue (c : CodePoint) : CodePoint :=
  match letters.find? fun entry => CodePoint.ofChar entry.1 == c with
  | some entry => CodePoint.ofChar (Char.ofNat entry.2)
  | none => c

/-- What the escape behind a backslash stands for, and the number of code points it takes; `c` is
the first of them. -/
def single (c : CodePoint) (rest : Text) : Except Failure (Text × Nat) :=
  if c == 'u' then
    match bracedHex? rest, rest.hexAtStart? 4 with
    | some (value, length), _ => return ([← codePoint value], length + 1)
    | none, some value => return ([← codePoint value], 5)
    | none, none => .ok ([c], 1)
  else if c == 'x' then
    match rest.hexAtStart? 2 with
    | some value => return ([← codePoint value], 3)
    | none => .ok ([c], 1)
  else if c == '\r' && rest.head? == some '\n' then .ok ([], 2)
  else if endsLine c then .ok ([], 1)
  else .ok ([letterValue c], 1)

/-- The text after the first `skip` code points, with its escapes resolved. -/
def resolveFrom : Nat → Text → Except Failure Text
  | _, [] => .ok []
  | skip + 1, _ :: rest => resolveFrom skip rest
  | 0, c :: rest =>
    if c == '\\' then
      match rest with
      | [] => .ok [c]
      | d :: after => do
        let (value, length) ← single d after
        return value ++ (← resolveFrom length rest)
    else return c :: (← resolveFrom 0 rest)

/-- The text that a literal body stands for. -/
def resolve (body : Text) : Except Failure Text := resolveFrom 0 body

end Assay.Escape
