import BlockTypes.Store.Layout

/-!
# Unification

Two types are made equal by binding variables of the store and merging unbound ones. Bindings made
before a failure stay. Each attempt is recorded with the store as it stood, so that what a journal
says about types can be written later.

A chain of recursive calls descends through each of the two types, passing every cell at most once
on either side while the bindings have no cycle; that bounds its length (`Store.unifyDepth`).
-/

namespace BlockTypes

/-- Why two types cannot be made equal. -/
inductive Cause where
  /-- The variable would have to contain itself. -/
  | recursive (v : TypeVar) (t : Ty)
  /-- Two different constructors meet. -/
  | mismatch (a b : String)
  /-- The type is no instance of the classes that constrain a variable. -/
  | unsatisfied (t : Ty) (constraints : ConstraintSet)
  /-- The types differ in shape. -/
  | shape (a b : Ty)
deriving DecidableEq

/-- How unification ends without success: the types do not fit, a variable was misused, or the
bindings run in a circle. Only the first happens in a store without cycles. -/
inductive Failure where
  | type (cause : Cause)
  | misuse (error : Store.VarError)
  | endless
deriving DecidableEq

/-- What happened to a pair of types, or to a type and a set of constraints. -/
inductive Event where
  | unifying (a b : Ty)
  | mismatch (a b : Ty)
  | givenUp (a b : Ty)
  | recursion (a b : Ty)
  | unable (t : Ty) (constraints : ConstraintSet)
deriving DecidableEq

/-- An event, and the store at its time. -/
structure Note where
  store : Store
  event : Event
deriving DecidableEq

/-- The result of unification: the store it leaves, what happened in order, and how it failed, if it
did. -/
structure Outcome where
  store : Store
  notes : List Note
  failure : Option Failure
deriving DecidableEq

namespace Outcome

/-- Success, with nothing to tell. -/
def done (s : Store) : Outcome := ⟨s, [], none⟩

/-- Failure for the given reason, noted as `event`. -/
def refuse (s : Store) (event : Event) (cause : Cause) : Outcome :=
  ⟨s, [⟨s, event⟩], some (.type cause)⟩

/-- The outcome of a write to the store. -/
def ofWrite (s : Store) : Except Store.VarError Store → Outcome
  | .ok s' => done s'
  | .error e => ⟨s, [], some (.misuse e)⟩

/-- The outcome after the given note. -/
def after (note : Note) (o : Outcome) : Outcome := { o with notes := note :: o.notes }

/-- Goes on from a success in the store it left. -/
def andThen (o : Outcome) (next : Store → Outcome) : Outcome :=
  match o.failure with
  | some _ => o
  | none =>
    let o' := next o.store
    { o' with notes := o.notes ++ o'.notes }

end Outcome

namespace Store

/-- The type may take the place of a variable with these constraints: only constructors are
instances of classes. -/
def Satisfies : Ty → ConstraintSet → Prop
  | .con name, cs => cs.Admits name
  | _, cs => cs.isEmpty = true

instance : (t : Ty) → (cs : ConstraintSet) → Decidable (Satisfies t cs)
  | .con name, cs => inferInstanceAs (Decidable (cs.Admits name))
  | .var _, cs => inferInstanceAs (Decidable (cs.isEmpty = true))
  | .arrow _ _, cs => inferInstanceAs (Decidable (cs.isEmpty = true))
  | .app _ _, cs => inferInstanceAs (Decidable (cs.isEmpty = true))

/-- Checks that the type may take the place of a variable with these constraints. -/
def satisfy (s : Store) (t : Ty) (cs : ConstraintSet) : Outcome :=
  if Satisfies t cs then .done s else .refuse s (.unable t cs) (.unsatisfied t cs)

/-- Makes a variable equal to a type that is not the same variable. `again` unifies what bound
variables stand for. -/
def unifyVar (again : Store → Ty → Ty → Outcome) (s : Store) (v : TypeVar) (b : Ty) : Outcome :=
  if s.occurs v b then .refuse s (.recursion (.var v) b) (.recursive v b)
  else
    match s.bound? v.cell, b with
    | some t, b => again s t b
    | none, .var w =>
      match s.bound? w.cell with
      | some u => again s (.var v) u
      | none => .ofWrite s (s.merge w v)
    | none, b => (s.satisfy b (s.constraints v.cell)).andThen fun s => .ofWrite s (s.bind v b)

/-- Makes two types equal, with at most `n` calls one inside the other. -/
def unifyWithin : (n : Nat) → Store → Ty → Ty → Outcome
  | 0, s, _, _ => ⟨s, [], some .endless⟩
  | n + 1, s, a, b =>
    .after ⟨s, .unifying a b⟩ <|
      if s.Same a b then .done s
      else
        match a, b with
        | .var v, b => unifyVar (unifyWithin n) s v b
        | a, .var w => unifyVar (unifyWithin n) s w a
        | .con c, .con d => .refuse s (.mismatch (.con c) (.con d)) (.mismatch c d)
        | .arrow a b, .arrow a' b' => (unifyWithin n s a a').andThen fun s => unifyWithin n s b b'
        | .app a b, .app a' b' => (unifyWithin n s a a').andThen fun s => unifyWithin n s b b'
        | a, b => .refuse s (.givenUp a b) (.shape a b)

/-- The size of the type that a cell stands for. -/
def cellWeight : Cell → Nat
  | .root (some t) _ => t.size
  | _ => 0

/-- The size of all that the cells of the store stand for. -/
def weight (s : Store) : Nat := s.cells.toList.foldr (fun c n => cellWeight c + n) 0

/-- A bound for the calls of unification that stand one inside the other. On either side they
descend through at most one type more than there are cells, each within the size of what is at
hand. -/
def unifyDepth (s : Store) (a b : Ty) : Nat :=
  2 * (s.size + 1) * (a.size + b.size + s.weight + 1)

/-- Makes two types equal by binding and merging variables. -/
def unify (s : Store) (a b : Ty) : Outcome := unifyWithin (s.unifyDepth a b) s a b

end Store

end BlockTypes
