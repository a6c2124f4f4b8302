import BlockTypes.TypeError

/-!
# The log

What the program does is told in entries, which keep the values they speak of and are put in words
when they are shown. Which of them are shown is a matter of the level of the log.
-/

namespace BlockTypes.Log

/-- The part of the program that an entry comes from. -/
inductive Source where
  | unifier
  | checker
  | catalog
deriving DecidableEq

/-- One entry. -/
inductive Entry where
  | unifier (context : Option Expr) (note : Note)
  | checker (error : TypeError)
  | catalog (classes functions : Nat)
deriving DecidableEq

namespace Entry

/-- Where the entry comes from. -/
def source : Entry → Source
  | unifier _ _ => .unifier
  | checker _ => .checker
  | catalog _ _ => .catalog

/-- An event of unification in words. -/
def eventText (s : Store) : Event → String
  | .unifying a b => "Unifying types " ++ s.text a ++ " and " ++ s.text b
  | .mismatch a b => "Mismatching TypeCon " ++ s.text a ++ " and " ++ s.text b
  | .givenUp a b => "Given up to unify types " ++ s.text a ++ " and " ++ s.text b
  | .recursion a b => "Recursion in types " ++ s.text a ++ " and " ++ s.text b
  | .unable t cs => "Unable to unify types " ++ s.text t ++ " with constraints " ++ cs.text

/-- The entry in words. -/
def message : Entry → String
  | unifier context note =>
    eventText note.store note.event ++ " for context " ++ ((context.map (·.text)).getD "None")
  | checker error =>
    "Type error " ++ error.text ++ " located at " ++ ((error.site?.map (·.spelled)).getD "None")
  | catalog classes functions =>
    "Loaded catalog with " ++ toString classes ++ " classes and " ++ toString functions
      ++ " functions"

end Entry

end BlockTypes.Log
