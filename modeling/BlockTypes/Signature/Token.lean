import BlockTypes.Signature.Error
import BlockTypes.Text.Characters

/-!
# Tokens of a signature

A signature is cut into identifiers and symbols, each as long as it can be, with blanks between
them. `scan` goes through the text character by character and steps over the rest of a token once
its first character has named it.
-/

namespace BlockTypes.Signature

/-- An identifier or a symbol. -/
inductive Lexeme where
  | ident (name : String)
  | arrow
  | implies
  | leftParen
  | rightParen
  | leftBracket
  | rightBracket
  | comma
deriving DecidableEq

namespace Lexeme

/-- The text of a lexeme. -/
def text : Lexeme → String
  | ident name => name
  | arrow => "->"
  | implies => "=>"
  | leftParen => "("
  | rightParen => ")"
  | leftBracket => "["
  | rightBracket => "]"
  | comma => ","

/-- Whether the lexeme is an identifier. -/
def isIdent : Lexeme → Bool
  | ident _ => true
  | _ => false

end Lexeme

/-- A lexeme and the position of its first character. -/
structure Token where
  lexeme : Lexeme
  position : Nat
deriving DecidableEq

/-- An identifier starts with an unaccented letter or an underscore. -/
def isIdentStart (c : Char) : Bool := c.isAlpha || c == '_'

/-- An identifier goes on with letters, digits, underscores and quote marks. -/
def isIdentRest (c : Char) : Bool := c.isAlphanum || c == '_' || c == '\''

/-- The names of type variables start with a small letter or an underscore. -/
def isVariableName (name : String) : Bool :=
  match name.toList with
  | [] => false
  | c :: _ => c.isLower || c == '_'

/-- The symbol at the start of the text. -/
def symbol? : List Char → Option Lexeme
  | '-' :: '>' :: _ => some .arrow
  | '=' :: '>' :: _ => some .implies
  | '(' :: _ => some .leftParen
  | ')' :: _ => some .rightParen
  | '[' :: _ => some .leftBracket
  | ']' :: _ => some .rightBracket
  | ',' :: _ => some .comma
  | _ => none

/-- The longest lexeme at the start of the text. -/
def lexeme? : List Char → Option Lexeme
  | [] => none
  | c :: cs =>
    if isIdentStart c then some (.ident (String.ofList (c :: cs.takeWhile isIdentRest)))
    else symbol? (c :: cs)

/-- The tokens of the text from `position` on, after `skip` characters that belong to a token
already named. -/
def scan : List Char → (position skip : Nat) → Except Problem (List Token)
  | [], _, _ => .ok []
  | _ :: cs, position, skip + 1 => scan cs (position + 1) skip
  | c :: cs, position, 0 =>
    if Text.isBlank c then scan cs (position + 1) 0
    else
      match lexeme? (c :: cs) with
      | some x => (scan cs (position + 1) (x.text.length - 1)).map (⟨x, position⟩ :: ·)
      | none => .error ⟨.character (.char c), position⟩

/-- The tokens of a signature. -/
def tokens (text : String) : Except Problem (List Token) := scan text.toList 0 0

end BlockTypes.Signature
