import BlockTypes.Proofs.Store.Write

/-!
# Calls on variables

A program sees a store only by calls on type variables: it makes, merges and binds them, and asks for
their constraints, their types and whether they are equal. Every call shortens the links that it follows.

A program does not hold cells but handles, each with the cell it has at present: the handle that is merged
into another one is given the cell that was found for the other, while all others keep theirs. `Handles` is
a store with the cells of the handles. A handle has always a cell of the class of the one that it was made
with (`Holds`), so that no sequence of calls can tell whether handles are given other cells
(`Holds.answers`).
-/

namespace BlockTypes

/-- A call on variables of a store. -/
inductive Call where
  | newVar (name : String) (cs : ConstraintSet)
  | freshVar (stem : String) (cs : ConstraintSet)
  | merge (v w : TypeVar)
  | bind (v : TypeVar) (t : Ty)
  | constraints (v : TypeVar)
  | isBound (v : TypeVar)
  | get (v : TypeVar)
  | same (v w : TypeVar)
  | cell (v : TypeVar)
deriving DecidableEq

/-- What a call gives back. -/
inductive Answer where
  | made (v : TypeVar)
  | done
  | refused (error : Store.VarError)
  | constraints (cs : ConstraintSet)
  | truth (b : Bool)
  | type (t : Ty)
  | cell (c : CellId)
deriving DecidableEq

namespace Call

/-- The variables that the call is about. -/
def vars : Call → List TypeVar
  | newVar _ _ | freshVar _ _ => []
  | merge v w | same v w => [v, w]
  | bind v _ | constraints v | isBound v | get v | cell v => [v]

/-- The call only asks. -/
def IsQuestion : Call → Prop
  | newVar _ _ | freshVar _ _ | merge _ _ | bind _ _ => False
  | constraints _ | isBound _ | get _ | same _ _ | cell _ => True

end Call

/-! ## Calls on a store -/

namespace Store

/-- Looks up the roots of the cells, and shortens the links on the way to each. -/
def follow (s : Store) (cs : List CellId) : Store := cs.foldl shorten s

/-- The store after what a call does with the roots of its variables, and the answer. -/
def act (s : Store) : Call → Store × Answer
  | .newVar name cs => ((s.newVar name cs).2, .made (s.newVar name cs).1)
  | .freshVar stem cs => ((s.fresh stem cs).2, .made (s.fresh stem cs).1)
  | .merge v w =>
    match s.merge v w with
    | .ok s' => (s', .done)
    | .error e => (s, .refused e)
  | .bind v t =>
    match s.bind v t with
    | .ok s' => (s', .done)
    | .error e => (s, .refused e)
  | .constraints v => (s, .constraints (s.constraints v.cell))
  | .isBound v => (s, .truth (s.bound? v.cell).isSome)
  | .get v =>
    match s.get v with
    | .ok t => (s, .type t)
    | .error e => (s, .refused e)
  | .same v w => (s, .truth (s.Same (.var v) (.var w)))
  | .cell v => (s, .cell (s.root v.cell))

/-- The store after a call, which looks up the roots of its variables first, and the answer. -/
def call (s : Store) (x : Call) : Store × Answer := (s.follow (x.vars.map (·.cell))).act x

/-- The store after a sequence of calls. -/
def afterCalls (s : Store) (calls : List Call) : Store := calls.foldl (fun s x => (s.call x).1) s

/-- The answers to a sequence of calls. -/
def answers (s : Store) : List Call → List Answer
  | [] => []
  | x :: calls => (s.call x).2 :: (s.call x).1.answers calls

/-- The call is about variables that there are. -/
def AllowsCall (s : Store) (x : Call) : Prop := ∀ v ∈ x.vars, v.cell < s.size

instance (s : Store) (x : Call) : Decidable (s.AllowsCall x) :=
  inferInstanceAs (Decidable (∀ v ∈ x.vars, v.cell < s.size))

/-- All calls of the sequence are about variables that there are when their turn comes. -/
def LegalCalls : Store → List Call → Prop
  | _, [] => True
  | s, x :: calls => s.AllowsCall x ∧ (s.call x).1.LegalCalls calls

instance decidableLegalCalls : (s : Store) → (calls : List Call) → Decidable (s.LegalCalls calls)
  | _, [] => inferInstanceAs (Decidable True)
  | s, x :: calls =>
    have := decidableLegalCalls (s.call x).1 calls
    inferInstanceAs (Decidable (s.AllowsCall x ∧ (s.call x).1.LegalCalls calls))

end Store

/-! ## Calls on handles -/

/-- A store, and the cell that each handle has. Handles are numbered as the cells they were made with. -/
structure Handles where
  store : Store
  cellOf : CellId → CellId

namespace Handles

/-- There are no handles yet. -/
def start : Handles := ⟨∅, id⟩

/-- The handle with the given number is given a cell. -/
def point (m : Handles) (handle c : CellId) : Handles :=
  { m with cellOf := fun h => if h = handle then c else m.cellOf h }

/-- What a call does with the roots of the cells that its handles have, and the answer. -/
def act (m : Handles) : Call → Handles × Answer
  | .newVar name cs =>
    ({ m with store := (m.store.newVar name cs).2 }.point m.store.size m.store.size,
      .made (m.store.newVar name cs).1)
  | .freshVar stem cs =>
    ({ m with store := (m.store.fresh stem cs).2 }.point m.store.size m.store.size,
      .made (m.store.fresh stem cs).1)
  | .merge v w =>
    let mine := m.cellOf v.cell
    let theirs := m.cellOf w.cell
    if m.store.root mine = m.store.root theirs then (m, .done)
    else if (m.store.bound? mine).isSome || (m.store.bound? theirs).isSome then
      (m, .refused (.mergeBound v w))
    else ({ m with store := m.store.join mine theirs }.point v.cell (m.store.root theirs), .done)
  | .bind v t =>
    match m.store.bound? (m.cellOf v.cell) with
    | some u => (m, .refused (.alreadyBound v u))
    | none => ({ m with store := m.store.assign (m.cellOf v.cell) t }, .done)
  | .constraints v => (m, .constraints (m.store.constraints (m.cellOf v.cell)))
  | .isBound v => (m, .truth (m.store.bound? (m.cellOf v.cell)).isSome)
  | .get v =>
    match m.store.bound? (m.cellOf v.cell) with
    | some t => (m, .type t)
    | none => (m, .refused (.unbound v))
  | .same v w => (m, .truth (m.store.root (m.cellOf v.cell) = m.store.root (m.cellOf w.cell)))
  | .cell v => (m, .cell (m.store.root (m.cellOf v.cell)))

/-- The handles after a call, which looks up the roots from their cells first, and the answer. -/
def call (m : Handles) (x : Call) : Handles × Answer :=
  { m with store := m.store.follow (x.vars.map fun v : TypeVar => m.cellOf v.cell) }.act x

/-- The answers to a sequence of calls. -/
def answers (m : Handles) : List Call → List Answer
  | [] => []
  | x :: calls => (m.call x).2 :: (m.call x).1.answers calls

end Handles

/-! ## Handles hold their classes -/

namespace Store

theorem size_follow (s : Store) (cs : List CellId) : (s.follow cs).size = s.size := by
  induction cs generalizing s with
  | nil => rfl
  | cons c cs ih => exact (ih _).trans (size_shorten s c)

theorem serial_follow (s : Store) (cs : List CellId) : (s.follow cs).serial = s.serial := by
  induction cs generalizing s with
  | nil => rfl
  | cons c cs ih => exact ih (s.shorten c)

theorem agrees_follow (s : Store) (cs : List CellId) (d : CellId) : s.Agrees (s.follow cs) d := by
  induction cs generalizing s with
  | nil => exact ⟨rfl, rfl, rfl⟩
  | cons c cs ih =>
    have hshorten : s.Agrees (s.shorten c) d :=
      ⟨root_shorten s c d, bound?_shorten s c d, constraints_shorten s c d⟩
    exact hshorten.trans (ih (s.shorten c))

end Store

namespace Handles

variable {m : Handles} {s : Store}

/-- The handles hold the variables of the store: their own store says the same about all cells, and each has
a cell of the class of the one that it was made with. -/
structure Holds (m : Handles) (s : Store) : Prop where
  size : m.store.size = s.size
  serial : m.store.serial = s.serial
  agrees : ∀ c, s.Agrees m.store c
  inside : ∀ h < s.size, m.cellOf h < s.size
  root : ∀ h < s.size, s.root (m.cellOf h) = s.root h

namespace Holds

theorem start : Handles.start.Holds ∅ :=
  ⟨rfl, rfl, fun _ => ⟨rfl, rfl, rfl⟩, fun _ h => h, fun _ _ => rfl⟩

theorem root_eq (h : m.Holds s) {c : CellId} (hc : c < s.size) : m.store.root (m.cellOf c) = s.root c :=
  (h.agrees _).root.trans (h.root c hc)

theorem bound_eq (h : m.Holds s) {c : CellId} (hc : c < s.size) : m.store.bound? (m.cellOf c) = s.bound? c :=
  (h.agrees _).bound.trans (Store.bound?_congr (h.root c hc))

theorem constraints_eq (h : m.Holds s) {c : CellId} (hc : c < s.size) :
    m.store.constraints (m.cellOf c) = s.constraints c :=
  (h.agrees _).constraints.trans (Store.constraints_congr (h.root c hc))

theorem follow (h : m.Holds s) (cs ds : List CellId) :
    { m with store := m.store.follow cs }.Holds (s.follow ds) := by
  have hback : ∀ c, (s.follow ds).Agrees s c := fun c => (Store.agrees_follow s ds c).symm
  refine ⟨?_, ?_, fun c => (hback c).trans ((h.agrees c).trans (Store.agrees_follow _ cs c)), ?_, ?_⟩
  · rw [Store.size_follow, Store.size_follow, h.size]
  · rw [Store.serial_follow, Store.serial_follow, h.serial]
  · rw [Store.size_follow]
    exact h.inside
  · intro c hc
    rw [Store.size_follow] at hc
    rw [← (hback _).root, ← (hback _).root]
    exact h.root c hc

/-- A new handle has the new cell. -/
theorem push (h : m.Holds s) (cs : ConstraintSet) {k n : Nat} (serial : k = n) :
    ({ m with store := { m.store.push cs with serial := k } }.point m.store.size m.store.size).Holds
      { s.push cs with serial := n } where
  size := by
    show (m.store.push cs).size = (s.push cs).size
    rw [Store.size_push, Store.size_push, h.size]
  serial := serial
  agrees c :=
    { root := by
        show (m.store.push cs).root c = (s.push cs).root c
        rw [Store.root_push, Store.root_push, (h.agrees c).root]
      bound := by
        show (m.store.push cs).bound? c = (s.push cs).bound? c
        rw [Store.bound?_push, Store.bound?_push, (h.agrees c).bound]
      constraints := by
        show (m.store.push cs).constraints c = (s.push cs).constraints c
        rw [Store.constraints_push, Store.constraints_push, h.size, (h.agrees c).constraints] }
  inside c hc := by
    have hc : c < s.size + 1 := by simpa using (show c < (s.push cs).size from hc)
    show (if c = m.store.size then m.store.size else m.cellOf c) < (s.push cs).size
    rw [Store.size_push, h.size]
    split
    · exact Nat.lt_succ_self _
    · exact Nat.lt_succ_of_lt (h.inside c (by omega))
  root c hc := by
    have hc : c < s.size + 1 := by simpa using (show c < (s.push cs).size from hc)
    show (s.push cs).root (if c = m.store.size then m.store.size else m.cellOf c) = (s.push cs).root c
    rw [Store.root_push, Store.root_push, h.size]
    split
    · rename_i heq
      rw [heq]
    · exact h.root c (by omega)

theorem assign (h : m.Holds s) {c : CellId} (hc : c < s.size) (t : Ty) :
    { m with store := m.store.assign (m.cellOf c) t }.Holds (s.assign c t) where
  size := by rw [Store.size_assign, Store.size_assign, h.size]
  serial := h.serial
  agrees d :=
    { root := by rw [Store.root_assign, Store.root_assign, (h.agrees d).root]
      bound := by
        have hcell : m.cellOf c < m.store.size := h.size ▸ h.inside c hc
        rw [Store.bound?_assign hcell, Store.bound?_assign hc, h.root_eq hc, (h.agrees d).root,
          (h.agrees d).bound]
      constraints := by rw [Store.constraints_assign, Store.constraints_assign, (h.agrees d).constraints] }
  inside d hd := by
    rw [Store.size_assign] at hd ⊢
    exact h.inside d hd
  root d hd := by
    rw [Store.size_assign] at hd
    rw [Store.root_assign, Store.root_assign, h.root d hd]

/-- The handle that is merged into another one is given the cell that stands for both classes. -/
theorem join (h : m.Holds s) {c d : CellId} (apart : s.Apart c d) :
    ({ m with store := m.store.join (m.cellOf c) (m.cellOf d) }.point c (m.store.root (m.cellOf d))).Holds
      (s.join c d) := by
  have hc := apart.left_lt
  have hd := apart.right_lt
  have apart' : m.store.Apart (m.cellOf c) (m.cellOf d) := by
    refine ⟨?_, h.size ▸ h.inside c hc, h.size ▸ h.inside d hd⟩
    rw [h.root_eq hc, h.root_eq hd]
    exact apart.ne
  refine ⟨?_, ?_, fun e => ⟨?_, ?_, ?_⟩, fun e he => ?_, fun e he => ?_⟩
  · show (m.store.join _ _).size = _
    rw [Store.size_join, Store.size_join, h.size]
  · show (m.store.join _ _).serial = _
    rw [Store.serial_join, Store.serial_join, h.serial]
  · show (m.store.join _ _).root e = _
    rw [Store.root_join apart', Store.root_join apart, h.root_eq hc, h.root_eq hd, (h.agrees e).root]
  · show (m.store.join _ _).bound? e = _
    rw [Store.bound?_join apart', Store.bound?_join apart, h.root_eq hc, h.root_eq hd, (h.agrees e).root,
      (h.agrees e).bound]
  · show (m.store.join _ _).constraints e = _
    rw [Store.constraints_join apart', Store.constraints_join apart, h.root_eq hc, h.root_eq hd,
      (h.agrees e).root, h.constraints_eq hc, h.constraints_eq hd, (h.agrees e).constraints]
  · show (if e = c then m.store.root (m.cellOf d) else m.cellOf e) < (s.join c d).size
    rw [Store.size_join] at he ⊢
    split
    · rw [h.root_eq hd]
      exact Store.root_lt hd
    · exact h.inside e he
  · show (s.join c d).root (if e = c then m.store.root (m.cellOf d) else m.cellOf e) = (s.join c d).root e
    rw [Store.size_join] at he
    split
    · rename_i heq
      rw [heq, h.root_eq hd, Store.root_join apart, Store.root_join apart, Store.root_root, if_pos rfl,
        if_neg apart.ne.symm]
    · rw [Store.root_join apart, Store.root_join apart, h.root e he]

/-- What a call does and answers is the same for handles and for the cells they were made with. -/
theorem act (h : m.Holds s) {x : Call} (allowed : s.AllowsCall x) :
    (m.act x).1.Holds (s.act x).1 ∧ (m.act x).2 = (s.act x).2 := by
  cases x with
  | newVar name cs =>
    refine ⟨h.push cs h.serial, ?_⟩
    simp [Handles.act, Store.act, Store.newVar, h.size]
  | freshVar stem cs =>
    refine ⟨h.push cs (congrArg (· + 1) h.serial), ?_⟩
    simp [Handles.act, Store.act, Store.fresh, h.size, h.serial]
  | merge v w =>
    have hv : v.cell < s.size := allowed v (by simp [Call.vars])
    have hw : w.cell < s.size := allowed w (by simp [Call.vars])
    simp only [Handles.act, Store.act, Store.merge, h.root_eq hv, h.root_eq hw, h.bound_eq hv, h.bound_eq hw]
    by_cases hvw : s.root v.cell = s.root w.cell
    · simp only [hvw, if_pos]
      exact ⟨h, trivial⟩
    · by_cases hbound : ((s.bound? v.cell).isSome || (s.bound? w.cell).isSome) = true
      · simp only [hvw, hbound, if_false, if_true]
        exact ⟨h, trivial⟩
      · simp only [hvw, hbound, if_false]
        have hjoin := h.join ⟨hvw, hv, hw⟩
        rw [h.root_eq hw] at hjoin
        exact ⟨hjoin, rfl⟩
  | bind v t =>
    have hv : v.cell < s.size := allowed v (by simp [Call.vars])
    simp only [Handles.act, Store.act, Store.bind, h.bound_eq hv]
    cases s.bound? v.cell with
    | some u => exact ⟨h, rfl⟩
    | none => exact ⟨h.assign hv t, rfl⟩
  | get v =>
    have hv : v.cell < s.size := allowed v (by simp [Call.vars])
    simp only [Handles.act, Store.act, Store.get, h.bound_eq hv]
    cases s.bound? v.cell with
    | some t => exact ⟨h, rfl⟩
    | none => exact ⟨h, rfl⟩
  | constraints v =>
    have hv : v.cell < s.size := allowed v (by simp [Call.vars])
    exact ⟨h, by simp only [Handles.act, Store.act, h.constraints_eq hv]⟩
  | isBound v =>
    have hv : v.cell < s.size := allowed v (by simp [Call.vars])
    exact ⟨h, by simp only [Handles.act, Store.act, h.bound_eq hv]⟩
  | same v w =>
    have hv : v.cell < s.size := allowed v (by simp [Call.vars])
    have hw : w.cell < s.size := allowed w (by simp [Call.vars])
    refine ⟨h, ?_⟩
    simp [Handles.act, Store.act, h.root_eq hv, h.root_eq hw, Store.Same, Store.classes, TypeExpr.map]
  | cell v =>
    have hv : v.cell < s.size := allowed v (by simp [Call.vars])
    exact ⟨h, by simp only [Handles.act, Store.act, h.root_eq hv]⟩

theorem call (h : m.Holds s) {x : Call} (allowed : s.AllowsCall x) :
    (m.call x).1.Holds (s.call x).1 ∧ (m.call x).2 = (s.call x).2 := by
  refine (h.follow _ _).act fun v hv => ?_
  rw [Store.size_follow]
  exact allowed v hv

/-- Handles give the same answers as the cells they were made with. -/
theorem answers (h : m.Holds s) {calls : List Call} (legal : s.LegalCalls calls) :
    m.answers calls = s.answers calls := by
  induction calls generalizing m s with
  | nil => rfl
  | cons x calls ih =>
    obtain ⟨hnext, hanswer⟩ := h.call legal.1
    rw [Handles.answers, Store.answers, hanswer, ih hnext legal.2]

end Holds

end Handles

end BlockTypes
