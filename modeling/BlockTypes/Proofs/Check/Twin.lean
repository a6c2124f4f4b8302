import BlockTypes.Proofs.Check.Kept
import BlockTypes.Proofs.Unify.Mirror

/-!
# Expressions in twin workspaces

Two workspaces are twins if their stores are, and if they have found the same types for the blocks of a
zone. An expression of the one and its copy in the other then have the same types, or fail at the same
block for the same kind of reason, and the workspaces are twins afterwards (`Twin.findType`). So the checks
of the two give the same report (`Twin.check`).
-/

namespace BlockTypes

/-- The second expression is built like the first one, of blocks whose nodes are `δ` higher. -/
inductive Expr.Copy (ρ : CellId → CellId) (δ : Nat) : Expr → Expr → Prop
  | value {n : NodeId} {t t' : Ty} (text : String) (type : Renamed ρ t t') :
      Copy ρ δ (.value n t text) (.value (n + δ) t' text)
  | ident {n : NodeId} {t t' : Ty} (name : String) (signature : Renamed ρ t t') :
      Copy ρ δ (.ident n name t) (.ident (n + δ) name t')
  | apply {n : NodeId} {f x f' x' : Expr} (function : Copy ρ δ f f') (argument : Copy ρ δ x x') :
      Copy ρ δ (.apply n f x) (.apply (n + δ) f' x')

theorem getElem?_cases {R : Expr → Expr → Prop} {l l' : List Expr} (h : List.Forall₂ R l l') (i : Nat) :
    (∃ e e', l[i]? = some e ∧ l'[i]? = some e' ∧ R e e') ∨ l[i]? = none ∧ l'[i]? = none := by
  induction h generalizing i with
  | nil => exact .inr ⟨rfl, rfl⟩
  | @cons e e' _ _ he _ ih =>
    cases i with
    | zero => exact .inl ⟨e, e', rfl, rfl, he⟩
    | succ i => exact ih i

namespace Expr.Copy

variable {ρ : CellId → CellId} {δ : Nat} {e e' : Expr}

theorem node (h : Copy ρ δ e e') : e'.node = e.node + δ := by
  cases h <;> rfl

theorem walk (h : Copy ρ δ e e') : List.Forall₂ (Copy ρ δ) e.walk e'.walk := by
  induction h with
  | value text type => exact .cons (.value text type) .nil
  | ident name signature => exact .cons (.ident name signature) .nil
  | apply function argument ihf ihx => exact .cons (.apply function argument) (List.rel_append ihf ihx)

theorem index (h : Copy ρ δ e e') : e'.site.index = e.site.index := by
  induction h with
  | value => rfl
  | ident => rfl
  | apply _ _ ihf _ => exact congrArg (· + 1) ihf

/-- A block stands in the places in which its copy does. -/
theorem place {blocks blocks' : List Expr} {d d' : Expr} (h : Copy ρ δ e e') (hd : Copy ρ δ d d')
    (hpool : Pool blocks) (hpool' : Pool blocks') (he : e ∈ blocks) (he' : e' ∈ blocks')
    (hmem : d ∈ e.walk) (hmem' : d' ∈ e'.walk) (i : Nat) :
    e.walk[i]? = some d ↔ e'.walk[i]? = some d' := by
  rcases getElem?_cases h.walk i with ⟨a, a', ha, ha', hcopy⟩ | ⟨ha, ha'⟩
  · rw [ha, ha', Option.some.injEq, Option.some.injEq]
    have hblock := hpool.walk he a (List.mem_of_getElem? ha)
    have hblock' := hpool'.walk he' a' (List.mem_of_getElem? ha')
    -- Blocks of one pool are the same if their nodes are, and copying keeps the nodes apart.
    constructor
    · rintro rfl
      exact hpool'.one _ hblock' _ (hpool'.walk he' _ hmem') (hcopy.node.trans hd.node.symm)
    · rintro rfl
      refine hpool.one _ hblock _ (hpool.walk he _ hmem) ?_
      exact Nat.add_right_cancel (hcopy.node.symm.trans hd.node)
  · rw [ha, ha']
    exact iff_of_false nofun nofun

end Expr.Copy

namespace Workspace

variable {ρ : CellId → CellId} {δ : Nat} {Z Z' : Zone} {w w' : Workspace} {e e' : Expr}
  {t t' tf tf' tx tx' : Ty} {n : NodeId}

/-- The stores are twins, and the same types are found for the blocks of the zone. -/
structure Twin (ρ : CellId → CellId) (δ : Nat) (Z : Zone) (w w' : Workspace) : Prop where
  store : Store.Twin ρ w.store w'.store
  nodes : w'.nodes = w.nodes + δ
  found : ∀ n, Z.nodes n → Option.Rel (Renamed ρ) (w.found? n) (w'.found? (n + δ))

/-- The types are the same up to the cells, or the errors are of the same kind and at the same block. -/
inductive SameResult (ρ : CellId → CellId) (δ : Nat) (e e' : Expr) :
    Except Fault Ty → Except Fault Ty → Prop
  | ok {t t' : Ty} (type : Renamed ρ t t') : SameResult ρ δ e e' (.ok t) (.ok t')
  | error {error error' : TypeError} {d d' : Expr} (kind : error'.kind = error.kind)
      (left : error.expression = some d) (right : error'.expression = some d')
      (copy : d.Copy ρ δ d') (inLeft : d ∈ e.walk) (inRight : d' ∈ e'.walk) :
      SameResult ρ δ e e' (.error (.type error)) (.error (.type error'))

/-- The reports say the same of two expressions, each with its store. Both give a type, the same but for
its variables, and these have the same constraints. Or both give an error of the same kind, at the same
place of the expression, that is blamed on the same input. -/
inductive SameReport (s s' : Store) (e e' : Expr) : Report → Report → Prop
  | passed {t t' : Ty} (ρ : CellId → CellId) (injective : Function.Injective ρ)
      (type : s'.classes t' = (s.classes t).map ρ)
      (constraints : ∀ c ∈ (s.classes t).vars, s'.constraints (ρ c) = s.constraints c) :
      SameReport s s' e e' (.passed t) (.passed t')
  | failed {error error' : TypeError} {d d' : Expr} (kind : error'.kind = error.kind)
      (left : error.expression = some d) (right : error'.expression = some d') (inside : d ∈ e.walk)
      (place : ∀ i : Nat, e.walk[i]? = some d ↔ e'.walk[i]? = some d')
      (index : error'.site?.map (·.index) = error.site?.map (·.index)) :
      SameReport s s' e e' (.failed error) (.failed error')

/-- The second expression is built like the first one, both can be checked, and the reports are the same. -/
def ChecksAlike (w w' : Workspace) (e e' : Expr) : Prop :=
  (∃ ρ δ, e.Copy ρ δ e') ∧ ∃ report report',
    (w.check e).result = .ok report ∧ (w'.check e').result = .ok report' ∧
    SameReport (w.check e).workspace.store (w'.check e').workspace.store e e' report report'

namespace Twin

theorem keep (h : Twin ρ δ Z w w') (ht : Renamed ρ t t') (n : NodeId) :
    Twin ρ δ Z (w.keep n t) (w'.keep (n + δ) t') := by
  refine { h with found := fun m hm => ?_ }
  rw [found?_keep, found?_keep]
  by_cases hmn : m = n
  · rw [if_pos hmn, if_pos (by rw [hmn])]
    exact .some ht
  · rw [if_neg hmn, if_neg (mt Nat.add_right_cancel hmn)]
    exact h.found m hm

theorem withStore (h : Twin ρ δ Z w w') {s s' : Store} (hs : Store.Twin ρ s s') :
    Twin ρ δ Z { w with store := s } { w' with store := s' } :=
  { h with store := hs }

theorem kept_or_new (h : Twin ρ δ Z w w') (hn : Z.nodes n) :
    (∃ t t', w.found? n = some t ∧ w'.found? (n + δ) = some t' ∧ Renamed ρ t t') ∨
      w.found? n = none ∧ w'.found? (n + δ) = none := by
  have hrel := h.found n hn
  generalize w.found? n = o, w'.found? (n + δ) = o' at hrel
  cases hrel with
  | some ht => exact .inl ⟨_, _, rfl, rfl, ht⟩
  | none => exact .inr ⟨rfl, rfl⟩

/-- The types of the parts of an application meet in the same way. -/
theorem meet (h : Twin ρ δ Z w w') (hw : w.InOrder Z) (hw' : w'.InOrder Z')
    (hf : w.store.Within Z.cells tf) (hx : w.store.Within Z.cells tx)
    (hf' : w'.store.Within Z'.cells tf') (hx' : w'.store.Within Z'.cells tx')
    (htf : Renamed ρ tf tf') (htx : Renamed ρ tx tx') :
    ∃ r r' : Option Cause, (w.meet tf tx).failure = r.map .type ∧
      (w'.meet tf' tx').failure = r'.map .type ∧ r'.map Cause.kind = r.map Cause.kind ∧
      Store.Twin ρ (w.meet tf tx).store (w'.meet tf' tx').store := by
  have hready := hw.meet_ready hf hx
  have hready' := hw'.meet_ready hf' hx'
  have hfresh : Store.Twin ρ (w.store.fresh "t" ∅).2 (w'.store.fresh "t" ∅).2 := h.store.push ∅ _ _
  obtain ⟨r, hu⟩ := Store.exists_unifies hready.prepared
  obtain ⟨s', r', hu', hmirror, hkind⟩ := hu.mirror hready.prepared hready'.prepared hfresh.toMirror htf
    (.arrow htx (.var h.store.next_cell))
  obtain ⟨-, hfailure⟩ := (Store.unify_iff hready.prepared).1 hu
  obtain ⟨rfl, hfailure'⟩ := (Store.unify_iff hready'.prepared).1 hu'
  exact ⟨r, r', hfailure, hfailure', hkind,
    hfresh.writes hmirror (Store.Writes.size_eq (hu.writes hready.prepared))
      (Store.Writes.size_eq (hu'.writes hready'.prepared))⟩

/-- What comes of the meeting is the same. -/
theorem conclude (h : Twin ρ δ Z w w') (hw : w.InOrder Z) (hw' : w'.InOrder Z')
    (hf : w.store.Within Z.cells tf) (hx : w.store.Within Z.cells tx)
    (hf' : w'.store.Within Z'.cells tf') (hx' : w'.store.Within Z'.cells tx')
    (htf : Renamed ρ tf tf') (htx : Renamed ρ tx tx') {f x f' x' : Expr}
    (hcopy : Expr.Copy ρ δ (.apply n f x) (.apply (n + δ) f' x')) :
    let o := w.conclude n (.apply n f x) (w.meet tf tx)
    let o' := w'.conclude (n + δ) (.apply (n + δ) f' x') (w'.meet tf' tx')
    Twin ρ δ Z o.workspace o'.workspace ∧
      SameResult ρ δ (.apply n f x) (.apply (n + δ) f' x') o.result o'.result := by
  intro o o'
  obtain ⟨r, r', hfailure, hfailure', hkind, hstore⟩ := h.meet hw hw' hf hx hf' hx' htf htx
  cases r with
  | none =>
    obtain rfl : r' = none := Option.map_eq_none_iff.1 hkind
    have hresult : Renamed ρ (.var w.result) (.var w'.result) := .var h.store.next_cell
    rw [show o = _ from conclude_met hfailure, show o' = _ from conclude_met hfailure']
    exact ⟨(h.withStore hstore).keep hresult n, .ok hresult⟩
  | some cause =>
    obtain ⟨cause', rfl, hsame⟩ := Option.map_eq_some_iff.1 hkind
    rw [show o = _ from conclude_failed hfailure, show o' = _ from conclude_failed hfailure']
    exact ⟨h.withStore hstore, .error hsame rfl rfl hcopy List.mem_cons_self List.mem_cons_self⟩

theorem findType (h : Twin ρ δ Z w w') (hcopy : e.Copy ρ δ e') (hw : w.InOrder Z) (hw' : w'.InOrder Z')
    (he : e.Within Z w.store) (he' : e'.Within Z' w'.store) :
    Twin ρ δ Z (w.findType e).workspace (w'.findType e').workspace ∧
      SameResult ρ δ e e' (w.findType e).result (w'.findType e').result := by
  induction hcopy generalizing w w' with
  | @value n t t' text type =>
    rcases h.kept_or_new he.1 with ⟨u, u', hu, hu', hrenamed⟩ | ⟨new, new'⟩
    · rw [findType_kept hu, findType_kept hu']
      exact ⟨h, .ok hrenamed⟩
    · unfold Workspace.findType
      rw [new, new']
      exact ⟨h.keep type n, .ok type⟩
  | @ident n t t' name signature =>
    rcases h.kept_or_new he.1 with ⟨u, u', hu, hu', hrenamed⟩ | ⟨new, new'⟩
    · rw [findType_kept hu, findType_kept hu']
      exact ⟨h, .ok hrenamed⟩
    · obtain ⟨hstore, hcopy⟩ := h.store.instantiate hw.wellFormed hw'.wellFormed signature
      unfold Workspace.findType
      rw [new, new']
      exact ⟨(h.withStore hstore).keep hcopy n, .ok hcopy⟩
  | @apply n f x f' x' function argument ihf ihx =>
    rcases h.kept_or_new he.1 with ⟨u, u', hu, hu', hrenamed⟩ | ⟨new, new'⟩
    · rw [findType_kept hu, findType_kept hu']
      exact ⟨h, .ok hrenamed⟩
    rw [findType_apply new, findType_apply new']
    have hfair := (w.findType_finds f).fair hw he.2.1
    have hfair' := (w'.findType_finds f').fair hw' he'.2.1
    obtain ⟨h₁, hresult⟩ := ihf h hw hw' he.2.1 he'.2.1
    generalize w.findType f = g, w'.findType f' = g' at hfair hfair' h₁ hresult
    obtain ⟨w₁, log₁, r₁⟩ := g
    obtain ⟨w₁', log₁', r₁'⟩ := g'
    cases hresult with
    | error kind left right copy inLeft inRight =>
      exact ⟨h₁, .error kind left right copy (List.mem_cons_of_mem _ (List.mem_append_left _ inLeft))
        (List.mem_cons_of_mem _ (List.mem_append_left _ inRight))⟩
    | ok htf =>
      rw [Finding.andThen_ok, Finding.andThen_ok]
      have hex := he.2.2.grows hfair.evolves.grows
      have hex' := he'.2.2.grows hfair'.evolves.grows
      have hfairx := (w₁.findType_finds x).fair hfair.inOrder hex
      have hfairx' := (w₁'.findType_finds x').fair hfair'.inOrder hex'
      obtain ⟨h₂, hresult⟩ := ihx h₁ hfair.inOrder hfair'.inOrder hex hex'
      generalize w₁.findType x = g, w₁'.findType x' = g' at hfairx hfairx' h₂ hresult
      obtain ⟨w₂, log₂, r₂⟩ := g
      obtain ⟨w₂', log₂', r₂'⟩ := g'
      cases hresult with
      | error kind left right copy inLeft inRight =>
        exact ⟨h₂, .error kind left right copy (List.mem_cons_of_mem _ (List.mem_append_right _ inLeft))
          (List.mem_cons_of_mem _ (List.mem_append_right _ inRight))⟩
      | ok htx =>
        rw [Finding.andThen_ok, Finding.andThen_ok]
        exact h₂.conclude hfairx.inOrder hfairx'.inOrder
          ((hfair.type _ rfl).grows hfairx.evolves.grows) (hfairx.type _ rfl)
          ((hfair'.type _ rfl).grows hfairx'.evolves.grows) (hfairx'.type _ rfl) htf htx
          (.apply function argument)

theorem check (h : Twin ρ δ Z w w') (hcopy : e.Copy ρ δ e') (hw : w.InOrder Z) (hw' : w'.InOrder Z')
    (he : e.Within Z w.store) (he' : e'.Within Z' w'.store) {blocks blocks' : List Expr}
    (hpool : Pool blocks) (hpool' : Pool blocks') (hmem : e ∈ blocks) (hmem' : e' ∈ blocks') :
    ChecksAlike w w' e e' := by
  refine ⟨⟨ρ, δ, hcopy⟩, ?_⟩
  have hwf := ((w.findType_finds e).fair hw he).inOrder.wellFormed
  have hwf' := ((w'.findType_finds e').fair hw' he').inOrder.wellFormed
  obtain ⟨htwin, hresult⟩ := h.findType hcopy hw hw' he he'
  generalize hr : (w.findType e).result = r, hr' : (w'.findType e').result = r' at hresult
  cases hresult with
  | ok type =>
    refine ⟨_, _, check_passed_iff.2 ⟨_, hr, rfl⟩, check_passed_iff.2 ⟨_, hr', rfl⟩, ?_⟩
    rw [check_workspace, check_workspace]
    have hresolved := htwin.store.resolve hwf hwf' type
    exact .passed ρ htwin.store.injective (htwin.store.classes hresolved) fun c _ =>
      htwin.store.constraints c
  | error kind left right copy inLeft inRight =>
    refine ⟨_, _, check_failed hr, check_failed hr', .failed kind left right inLeft
      (hcopy.place copy hpool hpool' hmem hmem' inLeft inRight) ?_⟩
    simp only [TypeError.site?, left, right, Option.map_some, copy.index]

end Twin

end Workspace

end BlockTypes
