import MeteredChecker.Json.Record

/-!
# JSON texts, from the side of the writer

One thing can be written in many ways.  There may be blanks between the tokens, a character of
a string may stand for itself or be escaped in up to three ways, and the members of an object
may come in any order.  This file says which texts are written for what.  Nothing in it reads
anything: the readers are held against it in the files that follow.

## Strings are two things

Where a string is wanted, its pieces have to denote characters.  Four hexadecimal digits are a
number of sixteen bits, which denotes a character if it is not a surrogate; a high surrogate
and a low one that follows it denote one together.  `Spells` is this relation, between what is
between the quotes and the text that it denotes.

In a value that nobody asked for a string is not read as a text.  There, any four digits will
do, and so they do in the names inside such a value: `IsString`.

## Values

`WellFormed` has all values, nested to any depth.  It is one family and not three, since what
stands between the brackets of a list and of an object differs only in what comes in front
of each value: `Frame.Lead`.

An object that somebody reads is looked at more closely.  `IsObject` relates it to the names
of its members and to the texts of their values.
-/

namespace MeteredChecker
namespace Json

/-- Nothing but blanks. -/
def Blanks (s : List Char) : Prop := ∀ c ∈ s, c = ' ' ∨ c = '\t' ∨ c = '\n' ∨ c = '\r'

-- looks at the members of the text, and not at all characters that there are
instance (s : List Char) : Decidable (Blanks s) := List.decidableBAll _ s

/-! ## Strings -/

/-- A hexadecimal digit, in either case, and its value. -/
def HexDigit (c : Char) (n : Nat) : Prop :=
  "0123456789abcdef".toList[n]? = some c ∨ "0123456789ABCDEF".toList[n]? = some c

instance (c : Char) (n : Nat) : Decidable (HexDigit c n) := inferInstanceAs (Decidable (_ ∨ _))

/-- Four hexadecimal digits, and the number that they spell. -/
inductive Hex4 : List Char → Nat → Prop
  | intro {a b c d : Char} {i j k l : Nat} (ha : HexDigit a i) (hb : HexDigit b j)
      (hc : HexDigit c k) (hd : HexDigit d l) :
      Hex4 [a, b, c, d] (((i * 16 + j) * 16 + k) * 16 + l)

/-- The characters behind a backslash that stand for a character, and for which. -/
def shortEscapes : List (Char × Char) :=
  [('"', '"'), ('\\', '\\'), ('/', '/'), ('b', '\x08'), ('f', '\x0c'), ('n', '\n'), ('r', '\r'),
    ('t', '\t')]

/-- A character that stands for itself in a string. -/
structure IsPlain (c : Char) : Prop where
  noControl : 0x20 ≤ c.toNat
  noQuote : c ≠ '"'
  noBackslash : c ≠ '\\'

instance (c : Char) : Decidable (IsPlain c) :=
  decidable_of_iff (0x20 ≤ c.toNat ∧ c ≠ '"' ∧ c ≠ '\\')
    ⟨fun ⟨hcontrol, hquote, hbackslash⟩ => ⟨hcontrol, hquote, hbackslash⟩,
      fun ⟨hcontrol, hquote, hbackslash⟩ => ⟨hcontrol, hquote, hbackslash⟩⟩

/-- A piece of a string, and the character that it denotes. -/
inductive Piece : List Char → Char → Prop
  | plain {c : Char} (h : IsPlain c) : Piece [c] c
  | short {e c : Char} (h : (e, c) ∈ shortEscapes) : Piece ['\\', e] c
  | number {digits : List Char} {c : Char} (h : Hex4 digits c.toNat) :
      Piece ('\\' :: 'u' :: digits) c
  /-- A character past U+FFFF, by the two halves of its number. -/
  | pair {high low : List Char} {c : Char} {i j : Nat} (hhigh : Hex4 high (0xD800 + i))
      (hlow : Hex4 low (0xDC00 + j)) (hi : i < 0x400) (hj : j < 0x400)
      (hc : c.toNat = 0x10000 + i * 0x400 + j) :
      Piece ('\\' :: 'u' :: (high ++ '\\' :: 'u' :: low)) c

/-- What is between the quotes of a string, and the text that it denotes. -/
inductive Spells : List Char → List Char → Prop
  | nil : Spells [] []
  | cons {piece body text : List Char} {c : Char} (hpiece : Piece piece c)
      (hbody : Spells body text) : Spells (piece ++ body) (c :: text)

/-- All characters stand for themselves. -/
def ArePlain (s : List Char) : Prop := ∀ c ∈ s, IsPlain c

instance (s : List Char) : Decidable (ArePlain s) := List.decidableBAll _ s

/-- A text of plain characters is spelled by itself. -/
theorem Spells.plain {text : List Char} (h : ArePlain text) : Spells text text := by
  induction text with
  | nil => exact .nil
  | cons c text ih =>
    obtain ⟨hc, htext⟩ := List.forall_mem_cons.1 h
    exact .cons (.plain hc) (ih htext)

/-- Between quotes. -/
def quoted (body : List Char) : List Char := '"' :: (body ++ ['"'])

/-- What may be between the quotes of a string that is not read as a text. -/
inductive IsString : List Char → Prop
  | nil : IsString []
  | plain {c : Char} {s : List Char} (h : IsPlain c) (hs : IsString s) : IsString (c :: s)
  | short {e c : Char} {s : List Char} (h : (e, c) ∈ shortEscapes) (hs : IsString s) :
      IsString ('\\' :: e :: s)
  | number {digits : List Char} {n : Nat} {s : List Char} (h : Hex4 digits n) (hs : IsString s) :
      IsString ('\\' :: 'u' :: (digits ++ s))

/-! ## Numbers -/

/-- Digits, and at least one. -/
structure Digits (s : List Char) : Prop where
  nonempty : s ≠ []
  digit : ∀ c ∈ s, c.isDigit = true

instance (s : List Char) : Decidable (Digits s) :=
  decidable_of_iff (s ≠ [] ∧ s.all Char.isDigit = true)
    ⟨fun ⟨hs, hall⟩ => ⟨hs, List.all_eq_true.1 hall⟩,
      fun h => ⟨h.nonempty, List.all_eq_true.2 h.digit⟩⟩

/-- The digits in front of a point: a zero that begins them is all of them. -/
inductive IsWhole : List Char → Prop
  | zero : IsWhole ['0']
  | positive {c : Char} {s : List Char} (hs : Digits (c :: s)) (hc : c ≠ '0') : IsWhole (c :: s)

/-- A point and the digits behind it, or nothing. -/
inductive IsFraction : List Char → Prop
  | absent : IsFraction []
  | present {s : List Char} (hs : Digits s) : IsFraction ('.' :: s)

/-- A power of ten, or nothing. -/
inductive IsExponent : List Char → Prop
  | absent : IsExponent []
  | present {mark : Char} {sign s : List Char} (hmark : mark = 'e' ∨ mark = 'E')
      (hsign : sign = [] ∨ sign = ['+'] ∨ sign = ['-']) (hs : Digits s) :
      IsExponent (mark :: (sign ++ s))

/-- A number. -/
inductive IsNumber : List Char → Prop
  | intro {sign whole fraction exponent : List Char} (hsign : sign = [] ∨ sign = ['-'])
      (hwhole : IsWhole whole) (hfraction : IsFraction fraction) (hexponent : IsExponent exponent) :
      IsNumber (sign ++ (whole ++ (fraction ++ exponent)))

/-! ## Values -/

/-- The character that opens a frame. -/
def Frame.opener : Frame → Char
  | .list => '['
  | .record => '\x7b'

/-- What stands in a frame in front of a value. -/
inductive Frame.Lead : Frame → List Char → Prop
  | list {b : List Char} (hb : Blanks b) : Lead .list b
  | record {b name b₁ b₂ : List Char} (hb : Blanks b) (hname : IsString name) (hb₁ : Blanks b₁)
      (hb₂ : Blanks b₂) : Lead .record (b ++ (quoted name ++ (b₁ ++ ':' :: b₂)))

/-- The text of a value, for `none`, and for a frame what stands between its brackets if there
is something in it. -/
inductive WellFormed : Option Frame → List Char → Prop
  | word {w : String} (hw : w ∈ ["null", "true", "false"]) : WellFormed none w.toList
  | number {s : List Char} (hs : IsNumber s) : WellFormed none s
  | string {s : List Char} (hs : IsString s) : WellFormed none (quoted s)
  | empty (frame : Frame) {b : List Char} (hb : Blanks b) :
      WellFormed none (frame.opener :: (b ++ [frame.closer]))
  | filled {frame : Frame} {s : List Char} (hs : WellFormed (some frame) s) :
      WellFormed none (frame.opener :: (s ++ [frame.closer]))
  | last {frame : Frame} {lead v b : List Char} (hlead : frame.Lead lead)
      (hv : WellFormed none v) (hb : Blanks b) : WellFormed (some frame) (lead ++ (v ++ b))
  | more {frame : Frame} {lead v b s : List Char} (hlead : frame.Lead lead)
      (hv : WellFormed none v) (hb : Blanks b) (hs : WellFormed (some frame) s) :
      WellFormed (some frame) (lead ++ (v ++ (b ++ ',' :: s)))

/-- A value. -/
abbrev IsValue (v : List Char) : Prop := WellFormed none v

/-! ## Objects -/

/-- A member, with its name and with the text of its value. -/
inductive IsMember : List Char × List Char → List Char → Prop
  | intro {b body name b₁ b₂ v b₃ : List Char} (hb : Blanks b) (hname : Spells body name)
      (hb₁ : Blanks b₁) (hb₂ : Blanks b₂) (hb₃ : Blanks b₃) :
      IsMember (name, v) (b ++ (quoted body ++ (b₁ ++ ':' :: (b₂ ++ (v ++ b₃)))))

/-- Members in their order, at least one, with commas between them. -/
inductive AreMembers : List (List Char × List Char) → List Char → Prop
  | last {m : List Char × List Char} {s : List Char} (hs : IsMember m s) : AreMembers [m] s
  | more {m : List Char × List Char} {ms : List (List Char × List Char)} {s t : List Char}
      (hs : IsMember m s) (ht : AreMembers ms t) : AreMembers (m :: ms) (s ++ ',' :: t)

/-- What stands between the brackets of an object. -/
inductive IsBody : List (List Char × List Char) → List Char → Prop
  | empty {b : List Char} (hb : Blanks b) : IsBody [] b
  | filled {ms : List (List Char × List Char)} {s : List Char} (hs : AreMembers ms s) : IsBody ms s

/-- An object, with its members in their order. -/
inductive IsObject : List (List Char × List Char) → List Char → Prop
  | intro {ms : List (List Char × List Char)} {b s b' : List Char} (hb : Blanks b)
      (hs : IsBody ms s) (hb' : Blanks b') : IsObject ms (b ++ '\x7b' :: (s ++ '\x7d' :: b'))

end Json
end MeteredChecker
