import BlockTypes.Store.Basic

/-!
# Looking through bindings

A bound variable stands for a type, whose variables may be bound in turn. `resolve` replaces bound
variables by what they stand for, `occurs` asks whether a class is met on the way, and `instantiate`
copies a type with new variables. In a store without cycles a chain of bindings passes each cell at
most once, so following as many bindings as there are cells reaches the end of every chain.
-/

namespace BlockTypes.Store

/-- The type after bound variables are replaced by what they stand for, `n` times over. -/
def resolveWithin (s : Store) : (n : Nat) → Ty → Ty
  | 0, t => t
  | n + 1, t => t.bind fun v =>
    match s.bound? v.cell with
    | some u => s.resolveWithin n u
    | none => .var v

/-- The type with every bound variable replaced by what it stands for. -/
def resolve (s : Store) (t : Ty) : Ty := s.resolveWithin s.size t

/-- Whether the class with root `r` is met in the type, through at most `n` bindings. -/
def occursWithin (s : Store) (r : CellId) : (n : Nat) → Ty → Bool
  | 0, t => t.vars.any fun v => s.root v.cell == r
  | n + 1, t => t.vars.any fun v =>
    s.root v.cell == r ||
      match s.bound? v.cell with
      | some u => s.occursWithin r n u
      | none => false

/-- Whether the class of `v` is met in the type, directly or through bindings. -/
def occurs (s : Store) (v : TypeVar) (t : Ty) : Bool :=
  s.occursWithin (s.root v.cell) s.size t

/-- Whether all chains of bindings from the type end within `n` bindings. -/
def endsWithin (s : Store) : (n : Nat) → Ty → Bool
  | 0, t => t.vars.all fun v => (s.bound? v.cell).isNone
  | n + 1, t => t.vars.all fun v =>
    match s.bound? v.cell with
    | some u => s.endsWithin n u
    | none => true

/-- Whether all chains of bindings from the type end, so that it stands for a finite type. -/
def isFinite (s : Store) (t : Ty) : Bool := s.endsWithin s.size t

/-! ## Copies with new variables -/

/-- New variables for classes of a store, and the store that has them. -/
structure Renewal where
  store : Store
  copies : List (CellId × TypeVar)

/-- Makes a new variable for the class of `v` in `s`, unless it has one: named after `v`, and with
the same constraints. -/
def Renewal.add (s : Store) (r : Renewal) (v : TypeVar) : Renewal :=
  match r.copies.lookup (s.root v.cell) with
  | some _ => r
  | none =>
    let made := r.store.fresh v.name (s.constraints v.cell)
    ⟨made.2, (s.root v.cell, made.1) :: r.copies⟩

/-- New variables for the classes of the given variables, in their order. -/
def renew (s : Store) (vs : List TypeVar) : Renewal := vs.foldl (Renewal.add s) ⟨s, []⟩

/-- A copy of the resolved type with new variables for its variables. -/
def instantiate (s : Store) (t : Ty) : Ty × Store :=
  let resolved := s.resolve t
  let r := s.renew resolved.vars
  (resolved.map fun v => (r.copies.lookup (s.root v.cell)).getD v, r.store)

end BlockTypes.Store
