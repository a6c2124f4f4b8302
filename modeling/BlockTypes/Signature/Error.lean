import BlockTypes.Text.Quoted

/-!
# What can be wrong with a signature

A complaint says what is wrong, and the error where: at a position in the text, counted in
characters.
-/

namespace BlockTypes.Signature

/-- What is wrong with the text of a signature. -/
inductive Complaint where
  | character (c : CodePoint)
  | emptySignature
  | emptyContext
  | unclosedContext
  | assertion
  | notVariable (name : String)
  | unknownClass (name : String)
  | unexpected (token : String)
  | expected (symbol : String)
  | endOfText
deriving DecidableEq

/-- The complaint in words. -/
def Complaint.message : Complaint → String
  | character c => "Unexpected character " ++ (WideText.mk [c]).quoted
  | emptySignature => "Empty type signature"
  | emptyContext => "Empty context before '=>'"
  | unclosedContext => "Unclosed context"
  | assertion => "Expected a class assertion like 'Num a'"
  | notVariable name => "Expected a type variable, got " ++ Text.quote name
  | unknownClass name => "Unknown type class " ++ Text.quote name
  | unexpected token => "Unexpected " ++ Text.quote token
  | expected symbol => "Expected " ++ Text.quote symbol
  | endOfText => "Unexpected end of signature"

/-- A complaint about a place in a text. -/
structure Problem where
  complaint : Complaint
  position : Nat
deriving DecidableEq

/-- A text that is no signature. -/
structure Error extends Problem where
  text : WideText
deriving DecidableEq

/-- The error in words. -/
def Error.message (e : Error) : String :=
  e.complaint.message ++ " at position " ++ toString e.position ++ " in " ++ e.text.quoted

end BlockTypes.Signature
