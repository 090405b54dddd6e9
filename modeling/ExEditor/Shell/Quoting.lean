import ExEditor.Text.Basic

/-! Names in messages, quoted as a shell would have to be given them. -/
namespace ExEditor
namespace Shell

/-- Whether a character can be seen. -/
def isVisible (c : Char) : Bool := ' ' ≤ c && c ≤ '~'

/-- Whether a name with this character in it has to be quoted; `first` is set at its front. -/
def needsQuotes (first : Bool) (c : Char) : Bool :=
  !isVisible c || " !\"$&()*;<=>[^|?\\':".toList.contains c || c = '\x60' || (first && (c = '#' || c = '~'))

/-- Whether a character means nothing between double quotes. -/
def isPlain (c : Char) : Bool := c.isAlphanum || "%+,-./:@_] '".toList.contains c

/-- A character that cannot be seen, as an escape. -/
def escaped (c : Char) : Text :=
  match [('\x07', 'a'), ('\x08', 'b'), ('\x0c', 'f'), ('\n', 'n'), ('\r', 'r'), ('\t', 't'), ('\x0b', 'v')].lookup c with
  | some letter => ['\\', letter]
  | none =>
    let digits := Nat.toDigits 8 c.toNat
    '\\' :: List.replicate (3 - digits.length) '0' ++ digits

/-- What stands between the outer quotes. `inEscapes` is set behind an escape. -/
def quotedBody (inEscapes : Bool) : Text → Text
  | [] => []
  | c :: t =>
    if c = '\'' then "'\\''".toList ++ quotedBody false t
    else if isVisible c then (if inEscapes then ['\'', '\'', c] else [c]) ++ quotedBody false t
    else (if inEscapes then [] else "'$'".toList) ++ escaped c ++ quotedBody true t

/-- A name in quotes. -/
def quoted (t : Text) : Text :=
  if t.contains '\'' && t.all isPlain then '"' :: t ++ ['"'] else '\'' :: quotedBody false t ++ ['\'']

/-- A name in quotes if it needs them. -/
def quotedIfNeeded (t : Text) : Text :=
  match t with
  | [] => quoted []
  | c :: rest => if needsQuotes true c || rest.any (needsQuotes false) then quoted t else t

end Shell
end ExEditor
