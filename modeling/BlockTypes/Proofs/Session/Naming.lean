import BlockTypes.Proofs.Catalog.Document
import BlockTypes.Proofs.Session.Basic
import BlockTypes.Proofs.Store.Naming

/-!
# Generated names in a session

Variables are generated on their own, for copies of types, and for the results of applications, and by nothing
else: all other operations leave the number for the next name as it is. `Session.generated` lists the variables
in the order in which they were generated, so `Store.Generates` holds of whole sessions, and says when two of
their names are one.
-/

namespace BlockTypes

open Config (Scalar Data)

/-! ## What generates no names -/

/-- The work has left the number of cells and the number for the next name. -/
def Outcome.Quiet (s : Store) (o : Outcome) : Prop := o.store.serial = s.serial ∧ o.store.size = s.size

theorem Outcome.Quiet.after {s : Store} {o : Outcome} (h : o.Quiet s) (note : Note) : (o.after note).Quiet s := h

theorem Outcome.Quiet.andThen {s : Store} {o : Outcome} {next : Store → Outcome} (h : o.Quiet s)
    (hnext : ∀ s', (next s').Quiet s') : (o.andThen next).Quiet s := by
  cases hfailure : o.failure with
  | some failure =>
    rw [andThen_of_failure hfailure]
    exact h
  | none =>
    rw [andThen_of_success hfailure]
    exact ⟨(hnext o.store).1.trans h.1, (hnext o.store).2.trans h.2⟩

namespace Store

variable {s s' : Store}

theorem merge_quiet {v w : TypeVar} (h : s.merge v w = .ok s') : s'.serial = s.serial ∧ s'.size = s.size := by
  obtain ⟨-, rfl⟩ | ⟨-, -, -, rfl⟩ := merge_cases h
  · exact ⟨rfl, rfl⟩
  · exact ⟨serial_join _ _ _, size_join _ _ _⟩

theorem bind_quiet {v : TypeVar} {t : Ty} (h : s.bind v t = .ok s') :
    s'.serial = s.serial ∧ s'.size = s.size := by
  unfold bind at h
  split at h
  · cases h
  · cases h
    exact ⟨rfl, size_assign _ _ _⟩

theorem ofWrite_quiet {written : Except VarError Store}
    (h : ∀ s', written = .ok s' → s'.serial = s.serial ∧ s'.size = s.size) :
    (Outcome.ofWrite s written).Quiet s := by
  cases written with
  | error e => exact ⟨rfl, rfl⟩
  | ok s' => exact h s' rfl

theorem unifyVar_quiet {again : Store → Ty → Ty → Outcome} (hagain : ∀ s a b, (again s a b).Quiet s)
    (s : Store) (v : TypeVar) (b : Ty) : (unifyVar again s v b).Quiet s := by
  unfold unifyVar
  split
  · exact ⟨rfl, rfl⟩
  · split
    · exact hagain _ _ _
    · split
      · exact hagain _ _ _
      · exact ofWrite_quiet fun s' h => merge_quiet h
    · refine Outcome.Quiet.andThen ?_ fun s' => ofWrite_quiet fun s'' h => bind_quiet h
      unfold satisfy
      split <;> exact ⟨rfl, rfl⟩

theorem unifyWithin_quiet (n : Nat) (s : Store) (a b : Ty) : (unifyWithin n s a b).Quiet s := by
  induction n generalizing s a b with
  | zero => exact ⟨rfl, rfl⟩
  | succ n ih =>
    unfold unifyWithin
    refine Outcome.Quiet.after ?_ _
    split
    · exact ⟨rfl, rfl⟩
    · split
      · exact unifyVar_quiet ih _ _ _
      · exact unifyVar_quiet ih _ _ _
      · exact ⟨rfl, rfl⟩
      · exact (ih _ _ _).andThen fun s' => ih _ _ _
      · exact (ih _ _ _).andThen fun s' => ih _ _ _
      · exact ⟨rfl, rfl⟩

theorem unify_quiet (s : Store) (a b : Ty) : (s.unify a b).Quiet s := unifyWithin_quiet _ s a b

end Store

theorem Signature.serial_build (sig : Signature) (s : Store) : (sig.build s).2.serial = s.serial := by
  have hscope : ∀ (names : List String) (scope : Scope),
      (names.foldl (Scope.add sig) scope).store.serial = scope.store.serial := by
    intro names
    induction names with
    | nil => exact fun _ => rfl
    | cons name names ih =>
      intro scope
      rw [List.foldl_cons, ih, Scope.add]
      split <;> rfl
  exact hscope _ _

theorem Store.ofSignature_serial {s s' : Store} {classes : Signature.Classes} {text : WideText} {t : Ty}
    (h : s.ofSignature classes text = .ok (t, s')) : s'.serial = s.serial := by
  obtain ⟨sig, -, hbuild⟩ := Signature.map_eq_ok_iff.1 h
  have hserial := sig.serial_build s
  rwa [hbuild] at hserial

namespace Catalog

variable {c c' : Catalog} {s s' : Store}

theorem add_serial {name category : Scalar} {text : Data} {f : FunctionInfo}
    (h : c.add s name category text = .ok (f, c', s')) : s'.serial = s.serial := by
  obtain ⟨-, written, sig, -, -, hbuild, -⟩ := add_eq_ok_iff.1 h
  have hserial := sig.serial_build s
  rwa [hbuild] at hserial

theorem addEach_serial {rs : List Request} (h : addEach (c, s) rs = .ok (c', s')) : s'.serial = s.serial := by
  induction rs generalizing c s with
  | nil =>
    cases h
    rfl
  | cons r rest ih =>
    obtain ⟨f, c₁, s₁, hadd, hrest⟩ := addEach_cons_eq_ok_iff.1 h
    exact (ih hrest).trans (add_serial hadd)

theorem ofEntries_serial {entries : List (Scalar × Data)} (h : ofEntries s entries = .ok (c, s')) :
    s'.serial = s.serial := by
  obtain ⟨classes, functions, table, -, -, -, -, hadded⟩ := (ofEntries_eq_ok_iff (known_of_ofEntries h)).1 h
  exact addEach_serial hadded

end Catalog

/-! ## What generates names -/

namespace Workspace

variable {w : Workspace}

/-- The variables that are generated when the type of the expression is found. -/
def generated (w : Workspace) : Expr → List Generated
  | .value _ _ _ => []
  | .ident n _ signature =>
    match w.found? n with
    | some _ => []
    | none => w.store.generated signature
  | .apply n f x =>
    match w.found? n with
    | some _ => []
    | none =>
      w.generated f ++
        match w.findType f with
        | ⟨_, _, .error _⟩ => []
        | ⟨w, _, .ok _⟩ =>
          w.generated x ++
            match w.findType x with
            | ⟨_, _, .error _⟩ => []
            | ⟨w, _, .ok _⟩ => [⟨"t", w.result⟩]

theorem store_conclude (w : Workspace) (n : NodeId) (context : Expr) (o : Outcome) :
    (w.conclude n context o).workspace.store = o.store := by
  cases h : o.failure with
  | some failure => rw [conclude_failed h]
  | none =>
    rw [conclude_met h]
    rfl

theorem findType_generates (w : Workspace) (e : Expr) :
    w.store.Generates (w.generated e) (w.findType e).workspace.store := by
  induction e generalizing w with
  | value n t text =>
    rw [findType, generated]
    split <;> exact .quiet rfl (Nat.le_refl _)
  | ident n name signature =>
    rw [findType, generated]
    cases w.found? n with
    | some t => exact .quiet rfl (Nat.le_refl _)
    | none => exact Store.instantiate_generates w.store signature
  | apply n f x ihf ihx =>
    cases new : w.found? n with
    | some t =>
      rw [findType, generated, new]
      exact .quiet rfl (Nat.le_refl _)
    | none =>
      rw [findType_apply new, generated, new]
      dsimp only
      have hf := ihf w
      generalize w.findType f = gf at hf ⊢
      obtain ⟨w₁, log₁, _ | tf⟩ := gf
      · exact hf.trans (.quiet rfl (Nat.le_refl _))
      refine hf.trans ?_
      have hx := ihx w₁
      rw [Finding.andThen_ok]
      dsimp only
      generalize w₁.findType x = gx at hx ⊢
      obtain ⟨w₂, log₂, _ | tx⟩ := gx
      · exact hx.trans (.quiet rfl (Nat.le_refl _))
      refine hx.trans ?_
      rw [Finding.andThen_ok]
      dsimp only
      rw [store_conclude]
      -- The result has its name before the types meet, so it counts also where they do not fit.
      have hmeet : (w₂.meet tf tx).Quiet (w₂.store.fresh "t" ∅).2 := Store.unify_quiet _ _ _
      have hresult := (Store.Generates.fresh w₂.store "t" ∅).trans (.quiet hmeet.1 hmeet.2.ge)
      exact hresult

end Workspace

namespace Session

/-- The variables that an operation generates. -/
def generatedBy (s : Session) : Op → List Generated
  | .freshVar stem cs => [⟨stem, (s.store.fresh stem cs).1⟩]
  | .instantiate t => s.store.generated t
  | .findType e => s.workspace.generated e
  | .check e => s.workspace.generated e
  | _ => []

/-- The variables that a sequence of operations generates. -/
def generated : Session → List Op → List Generated
  | _, [] => []
  | s, op :: ops => s.generatedBy op ++ (s.perform op).generated ops

theorem perform_generates (s : Session) (op : Op) :
    s.store.Generates (s.generatedBy op) (s.perform op).store := by
  cases op with
  | newVar name cs => exact .quiet rfl ((Nat.le_succ _).trans_eq (Store.size_push s.store cs).symm)
  | freshVar stem cs => exact .fresh s.store stem cs
  | signature classes text =>
    unfold perform
    dsimp only
    split
    · rename_i hsig
      exact .quiet (Store.ofSignature_serial hsig) (Store.ofSignature_new hsig).1.size
    · exact .quiet rfl (Nat.le_refl _)
  | instantiate t => exact Store.instantiate_generates s.store t
  | merge v w =>
    unfold perform
    dsimp only
    split
    · rename_i hmerge
      obtain ⟨hserial, hsize⟩ := Store.merge_quiet hmerge
      exact .quiet hserial hsize.ge
    · exact .quiet rfl (Nat.le_refl _)
  | unify context a b =>
    obtain ⟨hserial, hsize⟩ := Store.unify_quiet s.store a b
    exact .quiet hserial hsize.ge
  | loadCatalog entries =>
    unfold perform
    dsimp only
    split
    · rename_i hmade
      exact .quiet (Catalog.ofEntries_serial hmade) (Catalog.ofEntries_new hmade).1.size
    · exact .quiet rfl (Nat.le_refl _)
  | addFunction c name category text =>
    unfold perform
    dsimp only
    split
    · rename_i hadd
      exact .quiet (Catalog.add_serial hadd) (Catalog.add_extends hadd).size
    · exact .quiet rfl (Nat.le_refl _)
  | value t text => exact .quiet rfl (Nat.le_refl _)
  | ident name sig => exact .quiet rfl (Nat.le_refl _)
  | apply f x => exact .quiet rfl (Nat.le_refl _)
  | findType e => exact s.workspace.findType_generates e
  | check e =>
    have hfound := s.workspace.findType_generates e
    rw [← Workspace.check_workspace] at hfound
    exact hfound

theorem run_generates (s : Session) (ops : List Op) : s.store.Generates (s.generated ops) (s.run ops).store := by
  induction ops generalizing s with
  | nil => exact .quiet rfl (Nat.le_refl _)
  | cons op ops ih => exact (s.perform_generates op).trans (ih (s.perform op))

/-- From any session on, variables are generated with one number after the other, and with cells of their own.
Two of them have one name if and only if the stem of the earlier one is that of the later one, and then the
digits that the later number begins with. So the names of any ten in a row differ, and all do if no stem ends in
a digit. The same holds of the variables in a copy of one type. -/
theorem names_generated (s : Session) (ops : List Op) :
    let made := s.generated ops
    let number : Nat → String := fun i => toString (s.store.serial + i)
    let later := (s.run ops).store
    later.serial = s.store.serial + made.length ∧
    (∀ i g, made[i]? = some g → g.var.name = g.stem ++ number i) ∧
    (made.Pairwise fun g k => g.var.cell < k.var.cell) ∧
    (∀ i j g k, i < j → made[i]? = some g → made[j]? = some k →
      (g.var.name = k.var.name ↔ ∃ lead, g.stem = k.stem ++ lead ∧ number j = lead ++ number i) ∧
      (g.var.name = k.var.name → i + 10 ≤ j ∧ EndsInDigit g.stem)) ∧
    (made.length ≤ 10 ∨ (∀ g ∈ made, ¬ EndsInDigit g.stem) → (made.map (·.var.name)).Nodup) ∧
    ∀ t, (later.freeClasses t).card ≤ 10 ∨ (∀ u ∈ (later.resolve t).vars, ¬ EndsInDigit u.name) →
      ∀ v ∈ (later.instantiate t).1.vars, ∀ w ∈ (later.instantiate t).1.vars, v ≠ w → v.name ≠ w.name := by
  intro made number later
  have hmade := s.run_generates ops
  refine ⟨hmade.serial, hmade.name, hmade.ascending, fun i j g k hij hi hj => ?_, hmade.nodup_names, ?_⟩
  · exact ⟨hmade.name_eq_iff hij hi hj, hmade.of_name_eq hij hi hj⟩
  · exact fun t ht v hv w hw hne => Store.name_ne_of_instantiate ht hv hw hne

/-- A variable is made on its own, and then a function is applied to itself: both references have a copy of its
signature, and the application has a variable for its result. -/
theorem names_generated_mixed :
    let t : Ty := .arrow (.var ⟨"a", 0⟩) (.var ⟨"a", 0⟩)
    let e : Expr := .apply 2 (.ident 0 "id" t) (.ident 1 "id" t)
    let s := start.run [.newVar "a" ∅]
    let ops : List Op :=
      [.freshVar "x1" ∅, .ident "id" t, .ident "id" t, .apply (.ident 0 "id" t) (.ident 1 "id" t), .check e]
    (s.generated ops).map (·.var) = [⟨"x10", 1⟩, ⟨"a1", 2⟩, ⟨"a2", 3⟩, ⟨"t3", 4⟩] ∧
      (s.run ops).store.serial = 4 ∧ ((s.generated ops).map (·.var.name)).Nodup := by
  intro t e s ops
  have hlength : (s.generated ops).length = 4 := by decide +kernel
  obtain ⟨hserial, -, -, -, hnodup, -⟩ := names_generated s ops
  rw [hlength] at hserial
  exact ⟨by decide +kernel, hserial, hnodup (.inl (by rw [hlength]; decide))⟩

/-- A signature whose copy has two different variables of one name: the first is named after `a1` and has the
number 0, and the last is named after `a` and has the number 10. -/
theorem names_generated_clash :
    let stems := ["a1", "b", "c", "d", "e", "f", "g", "h", "i", "j"]
    let t : Ty := stems.zipIdx.foldr (fun stem t => .arrow (.var ⟨stem.1, stem.2⟩) t) (.var ⟨"a", 10⟩)
    let s : Store := (List.replicate 11 ∅).foldl Store.push ∅
    let copy := s.instantiate t
    (∅ : Store).ofSignature (fun _ => none) "a1 -> b -> c -> d -> e -> f -> g -> h -> i -> j -> a" = .ok (t, s) ∧
      copy.2.text copy.1 = "a10 -> b1 -> c2 -> d3 -> e4 -> f5 -> g6 -> h7 -> i8 -> j9 -> a10" ∧
      ∃ v ∈ copy.1.vars, ∃ w ∈ copy.1.vars, v.name = w.name ∧ copy.2.bound? v.cell = none ∧
        copy.2.bound? w.cell = none ∧ copy.2.root v.cell ≠ copy.2.root w.cell := by
  intro stems t s copy
  refine ⟨rfl, by decide +kernel, ⟨"a10", 11⟩, by decide +kernel, ⟨"a10", 21⟩, by decide +kernel, rfl, ?_, ?_, ?_⟩
  · decide +kernel
  · decide +kernel
  · decide +kernel

end Session

end BlockTypes
