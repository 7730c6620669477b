import MeteredChecker.Text.Basic

/-!
# Media types

The one thing that is wanted from a media type is its `charset` parameter, but
the parameter counts only if the *whole* text is a media type: anything that
breaks the grammar makes the text say nothing at all.

    media type  :=  token "/" token *( ";" parameter )
    parameter   :=  *" " token "=" ( token | quoted ) *" "

The blanks after a value are allowed after a quoted one only.  Inside quotes
everything but a control character stands for itself, there are no escapes, and
the character right after the opening quote is taken as content even when it is
a quote again.  A trailing `;` is allowed, a value that is empty only at the end
of the text.
-/

namespace MeteredChecker
namespace Text
namespace MediaType

/-- The characters of a token. -/
def isTokenChar (c : Char) : Bool :=
  c.isAlphanum || "!#$%&'*+-.^_\x60|~".toList.contains c

/-- The characters that may stand between quotes. -/
def isQuotedChar (c : Char) : Bool := 0x1F < c.toNat && c.toNat != 0x7F

/-- A parameter's name and value. -/
structure Parameter where
  name : String
  value : String
  deriving DecidableEq, Repr

/-- The end of a quoted value: blanks, then the end of the text or a `;`. -/
def afterQuoted (s : List Char) : Option (List Char) :=
  match s.dropWhile (· == ' ') with
  | [] => some []
  | ';' :: rest => some rest
  | _ => none

/-- A parameter's value and what comes after the `;` that ends it. -/
def value (s : List Char) : Option (List Char × List Char) :=
  match s with
  | '"' :: first :: rest =>
      let content := rest.takeWhile fun c => isQuotedChar c && c != '"'
      match rest.drop content.length with
      | '"' :: tail =>
          if isQuotedChar first then (afterQuoted tail).map fun r => (first :: content, r)
          else none
      | _ => none
  | _ =>
      let content := s.takeWhile isTokenChar
      match s.drop content.length with
      | [] => some (content, [])
      | ';' :: rest => if content.isEmpty then none else some (content, rest)
      | _ => none

/-- The parameters, in order.  `fuel` bounds their number; every parameter takes
at least two characters, so the length of the text is enough. -/
def parameters : Nat → List Char → Option (List Parameter)
  | 0, _ => none
  | fuel + 1, s =>
      match s.dropWhile (· == ' ') with
      | [] => some []
      | s =>
          let name := s.takeWhile isTokenChar
          match s.drop name.length with
          | '=' :: rest =>
              if name.isEmpty then none
              else do
                let (content, rest) ← value rest
                let more ← parameters fuel rest
                pure (⟨lower (String.ofList name), String.ofList content⟩ :: more)
          | _ => none

/-- The parameters of a media type, or `none` for a text that is not one. -/
def parameters? (s : String) : Option (List Parameter) :=
  let s := s.toList
  let kind := s.takeWhile isTokenChar
  match s.drop kind.length with
  | '/' :: rest =>
      let subtype := rest.takeWhile isTokenChar
      match kind, rest.drop subtype.length with
      | [], _ => none
      | _, [] => some []
      | _, ';' :: rest => if subtype.isEmpty then none else parameters (rest.length + 1) rest
      | _, _ => none
  | _ => none

/-- The value of the first parameter with a name, given in small letters. -/
def parameter? (name s : String) : Option String := do
  let all ← parameters? s
  let found ← all.find? fun p => p.name == name
  pure found.value

end MediaType
end Text
end MeteredChecker
