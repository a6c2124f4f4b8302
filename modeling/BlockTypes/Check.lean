import BlockTypes.Log.Entry
import BlockTypes.Store.Resolve

/-!
# Type checking

The type of an expression is found block by block: a value has its declared type, a reference a new
copy of its signature, and an application makes the type of its function equal to an arrow from the
type of its argument to a new variable. A block's type is kept once it is found. When an application
fails, what was found and bound before it stays.
-/

namespace BlockTypes

/-- The type variables of a program, the number of its blocks, and the types found for them. -/
structure Workspace where
  store : Store
  nodes : Nat
  found : List (NodeId × Ty)
deriving DecidableEq

/-- How typing fails: with a type error, or as unification does in a store that is not in order. -/
inductive Fault where
  | type (error : TypeError)
  | misuse (error : Store.VarError)
  | endless
deriving DecidableEq

/-- What typing gives: the workspace it leaves, what it told the log, and a type or a fault. -/
structure Finding (α : Type) where
  workspace : Workspace
  log : List Log.Entry
  result : Except Fault α

namespace Finding

/-- A result that needed no work. -/
def ok {α : Type} (w : Workspace) (a : α) : Finding α := ⟨w, [], .ok a⟩

/-- Goes on from a success in the workspace it left. -/
def andThen {α β : Type} (f : Finding α) (next : Workspace → α → Finding β) : Finding β :=
  match f.result with
  | .error fault => ⟨f.workspace, f.log, .error fault⟩
  | .ok a =>
    let g := next f.workspace a
    { g with log := f.log ++ g.log }

end Finding

namespace Workspace

/-- A workspace without variables and blocks. -/
def empty : Workspace := ⟨∅, 0, []⟩

instance : EmptyCollection Workspace := ⟨empty⟩

instance : Inhabited Workspace := ⟨∅⟩

/-! ## Making blocks -/

/-- A new value block. -/
def value (w : Workspace) (type : Ty) (text : String) : Expr × Workspace :=
  (.value w.nodes type text, { w with nodes := w.nodes + 1 })

/-- A new reference block. -/
def ident (w : Workspace) (name : String) (signature : Ty) : Expr × Workspace :=
  (.ident w.nodes name signature, { w with nodes := w.nodes + 1 })

/-- A new application block. -/
def apply (w : Workspace) (f x : Expr) : Expr × Workspace :=
  (.apply w.nodes f x, { w with nodes := w.nodes + 1 })

/-- New application blocks for a call with several arguments. -/
def applyAll (w : Workspace) (f : Expr) : List Expr → Expr × Workspace
  | [] => (f, w)
  | x :: xs => (w.apply f x).2.applyAll (w.apply f x).1 xs

/-! ## Types of blocks -/

/-- The type found for a block. -/
def found? (w : Workspace) (n : NodeId) : Option Ty := w.found.lookup n

/-- Keeps the type of a block. -/
def keep (w : Workspace) (n : NodeId) (t : Ty) : Workspace :=
  { w with found := (n, t) :: w.found }

/-- What the outcome of a unification is for the expression that was being typed. -/
def fault (context : Option Expr) (s : Store) : Failure → Fault
  | .type cause => .type (cause.error s context)
  | .misuse e => .misuse e
  | .endless => .endless

/-- The outcome of work on the store as a finding. -/
def adopt (w : Workspace) (context : Option Expr) (o : Outcome) : Finding Unit where
  workspace := { w with store := o.store }
  log := o.notes.map (.unifier context)
  result :=
    match o.failure with
    | none => .ok ()
    | some failure => .error (fault context o.store failure)

/-- Makes two types equal while an expression is typed. -/
def unify (w : Workspace) (context : Option Expr) (a b : Ty) : Finding Unit :=
  w.adopt context (w.store.unify a b)

/-- Checks that a type satisfies constraints while an expression is typed. -/
def satisfy (w : Workspace) (context : Option Expr) (t : Ty) (cs : ConstraintSet) : Finding Unit :=
  w.adopt context (w.store.satisfy t cs)

/-- The type of an expression. -/
def findType (w : Workspace) : Expr → Finding Ty
  | .value n t _ =>
    match w.found? n with
    | some t => .ok w t
    | none => .ok (w.keep n t) t
  | .ident n _ signature =>
    match w.found? n with
    | some t => .ok w t
    | none =>
      let copy := w.store.instantiate signature
      .ok ({ w with store := copy.2 }.keep n copy.1) copy.1
  | .apply n f x =>
    match w.found? n with
    | some t => .ok w t
    | none =>
      (w.findType f).andThen fun w functionType =>
      (w.findType x).andThen fun w argumentType =>
      let result := w.store.fresh "t" ∅
      ({ w with store := result.2 }.unify (some (.apply n f x)) functionType
        (.arrow argumentType (.var result.1))).andThen fun w _ =>
      .ok (w.keep n (.var result.1)) (.var result.1)

end Workspace

/-! ## Reports -/

/-- The result of checking an expression: its resolved type, or the type error. -/
inductive Report where
  | passed (type : Ty)
  | failed (error : TypeError)
deriving DecidableEq

namespace Report

/-- The report as lines of text; the type is written as the store has it. -/
def format (s : Store) : Report → String
  | passed t => "Type check passed: " ++ s.text t
  | failed e =>
    "\n".intercalate <|
      ["Type error: " ++ e.message]
        ++ (e.expression.map fun expr => "  In:    " ++ expr.text).toList
        ++ (e.site?.map fun site => "  Blame: " ++ site.describe).toList

end Report

/-- Checks an expression. A type error is a result like any other, and is told to the log. -/
def Workspace.check (w : Workspace) (e : Expr) : Finding Report :=
  let f := w.findType e
  match f.result with
  | .ok t => ⟨f.workspace, f.log, .ok (.passed (f.workspace.store.resolve t))⟩
  | .error (.type error) => ⟨f.workspace, f.log ++ [.checker error], .ok (.failed error)⟩
  | .error fault => ⟨f.workspace, f.log, .error fault⟩

end BlockTypes
