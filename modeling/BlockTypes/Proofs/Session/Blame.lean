import BlockTypes.Proofs.Session.Retry

/-!
# Where an error is put

Types are found in post-order: those of the function, of the argument, and of the application itself. When
a check fails, the error names the first application in that order whose parts do not fit
(`check_blames_first`): everything before it has a type, and neither it nor an application around it has
one. Its site is the function at the far end of its applications with the number of the input that it
fills, so that this input is the argument that did not fit.
-/

namespace BlockTypes

namespace Expr

variable {d e : Expr} {above before : List Expr}

/-- The expression and all that it is built from, each block after its parts and the function side
first. -/
def postOrder : Expr → List Expr
  | apply n f x => f.postOrder ++ x.postOrder ++ [apply n f x]
  | e => [e]

/-- The block stands in the expression inside of the blocks `above`, the outermost one first, and after the
blocks `before` in post-order. -/
inductive StandsIn (d : Expr) : Expr → List Expr → List Expr → Prop
  | here : StandsIn d d [] d.postOrder.dropLast
  | function {n : NodeId} {f x : Expr} {above before : List Expr} (inside : StandsIn d f above before) :
      StandsIn d (.apply n f x) (.apply n f x :: above) before
  | argument {n : NodeId} {f x : Expr} {above before : List Expr} (inside : StandsIn d x above before) :
      StandsIn d (.apply n f x) (.apply n f x :: above) (f.postOrder ++ before)

/-- The function applied to one argument after the other. Each argument comes with the node of its
application. -/
def call (g : Expr) (args : List (NodeId × Expr)) : Expr :=
  args.foldl (fun e arg => .apply arg.1 e arg.2) g

theorem mem_postOrder : d ∈ e.postOrder ↔ d ∈ e.walk := by
  induction e with
  | value n t text => rfl
  | ident n name sig => rfl
  | apply n f x ihf ihx =>
    simp only [postOrder, walk, List.mem_append, List.mem_cons, List.not_mem_nil, or_false, ihf, ihx]
    exact or_comm

theorem postOrder_dropLast (e : Expr) : e.postOrder.dropLast ++ [e] = e.postOrder := by
  cases e with
  | value n t text => rfl
  | ident n name sig => rfl
  | apply n f x => rw [postOrder, List.dropLast_concat]

theorem StandsIn.postOrder_eq (h : StandsIn d e above before) :
    ∃ rest, e.postOrder = before ++ d :: rest := by
  induction h with
  | here => exact ⟨[], (postOrder_dropLast d).symm⟩
  | function _ ih =>
    obtain ⟨rest, hrest⟩ := ih
    rw [postOrder, hrest, List.append_assoc, List.append_assoc]
    exact ⟨_, rfl⟩
  | argument _ ih =>
    obtain ⟨rest, hrest⟩ := ih
    rw [postOrder, hrest, List.append_assoc, List.append_assoc]
    exact ⟨_, (List.append_assoc _ _ _).symm⟩

theorem call_append (g : Expr) (args : List (NodeId × Expr)) (n : NodeId) (x : Expr) :
    g.call (args ++ [(n, x)]) = .apply n (g.call args) x := by
  rw [call, List.foldl_append]
  rfl

/-- Every expression is a call of the function that its site names. The index of the site is the number of
the last argument, if there is one. -/
theorem site_call (e : Expr) :
    (∀ n f x, e.site.function ≠ .apply n f x) ∧
      ∃ args, e = e.site.function.call args ∧ e.site.index = (args.length : Int) - 1 := by
  induction e with
  | value n t text => exact ⟨nofun, [], rfl, rfl⟩
  | ident n name sig => exact ⟨nofun, [], rfl, rfl⟩
  | apply n f x ihf _ =>
    obtain ⟨hfunction, args, hcall, hindex⟩ := ihf
    refine ⟨hfunction, args ++ [(n, x)], ?_, ?_⟩
    · show _ = f.site.function.call (args ++ [(n, x)])
      rw [call_append, ← hcall]
    · show f.site.index + 1 = _
      rw [hindex, List.length_append]
      simp

/-- An application fills the last input of the call that it is. -/
theorem site_apply (n : NodeId) (f x : Expr) :
    ∃ g args, apply n f x = g.call args ∧ (∀ m a b, g ≠ .apply m a b) ∧ 1 ≤ args.length ∧
      (apply n f x).site = ⟨g, (args.length : Int) - 1⟩ ∧ args[args.length - 1]? = some (n, x) := by
  obtain ⟨hfunction, args, hcall, hindex⟩ := (apply n f x).site_call
  rcases List.eq_nil_or_concat args with rfl | ⟨init, ⟨m, y⟩, rfl⟩
  · exact absurd hcall.symm (hfunction n f x)
  · rw [List.concat_eq_append] at hcall hindex
    obtain ⟨rfl, -, rfl⟩ : n = m ∧ f = (apply n f x).site.function.call init ∧ x = y := by
      simpa only [call_append, apply.injEq] using hcall
    exact ⟨_, _, hcall, hfunction, by simp, by rw [← hindex], by simp⟩

end Expr

namespace Workspace

variable {w : Workspace} {d e : Expr} {blocks above before : List Expr} {base : Store}
  {P : CellId → Prop}

/-- Finding the type of the expression has come to the block and no further. What comes before the block
has a type, and from there upwards nothing has. -/
structure HaltsAt (w : Workspace) (d e : Expr) (above before : List Expr) : Prop where
  place : d.StandsIn e above before
  new : w.found? d.node = none
  above : ∀ c ∈ above, w.found? c.node = none
  before : ∀ c ∈ before, ∃ t, w.found? c.node = some t

/-- The types of the parts of the application are found, and it fails when they meet. -/
def Fails (w : Workspace) : Expr → Prop
  | .apply _ f x => ∃ tf tx, w.found? f.node = some tf ∧ w.found? x.node = some tx ∧
      (w.meet tf tx).failure ≠ none
  | _ => False

theorem HaltsAt.not_mem_before (h : w.HaltsAt d e above before) : d ∉ before := by
  intro hd
  obtain ⟨t, ht⟩ := h.before d hd
  rw [h.new] at ht
  cases ht

theorem Consistent.found_postOrder (h : w.Consistent P base blocks) (hb : Pool blocks) (he : e ∈ blocks)
    {t : Ty} (ht : w.found? e.node = some t) : ∀ d ∈ e.postOrder, ∃ u, w.found? d.node = some u :=
  fun d hd => h.found_walk hb he ht d (Expr.mem_postOrder.1 hd)

/-- Where an expression is stuck, it is in the first place without a type. -/
theorem Stuck.haltsAt (h : Stuck w d e) (hc : w.Consistent P base blocks) (hb : Pool blocks)
    (he : e ∈ blocks) : ∃ above before, w.HaltsAt d e above before := by
  induction h with
  | here impasse =>
    refine ⟨[], _, .here, impasse.new, by simp, ?_⟩
    cases d with
    | value => exact impasse.elim
    | ident => exact impasse.elim
    | apply n f x =>
      obtain ⟨-, tf, tx, htf, htx, -⟩ := impasse
      rw [Expr.postOrder, List.dropLast_concat]
      intro c hmem
      rcases List.mem_append.1 hmem with hmem | hmem
      · exact hc.found_postOrder hb (hb.function he).1 htf c hmem
      · exact hc.found_postOrder hb (hb.argument he).1 htx c hmem
  | function new _ ih =>
    obtain ⟨above, before, hhalts⟩ := ih (hb.function he).1
    exact ⟨_, before, .function hhalts.place, hhalts.new, List.forall_mem_cons.2 ⟨new, hhalts.above⟩,
      hhalts.before⟩
  | argument new found _ ih =>
    obtain ⟨above, before, hhalts⟩ := ih (hb.argument he).1
    refine ⟨_, _, .argument hhalts.place, hhalts.new, List.forall_mem_cons.2 ⟨new, hhalts.above⟩, ?_⟩
    exact List.forall_mem_append.2 ⟨hc.found_postOrder hb (hb.function he).1 found, hhalts.before⟩

theorem Clashes.fails_after {f x : Expr} {tf tx : Ty} {cause : Cause} (h : Clashes w f x tf tx cause)
    (n : NodeId) : Fails { w with store := (w.meet tf tx).store } (.apply n f x) := by
  obtain ⟨cause', hagain, -⟩ := h.again
  exact ⟨tf, tx, hagain.function, hagain.argument, by simp [hagain.failed]⟩

/-- An application that has a type does not fail. -/
theorem Consistent.not_fails (h : w.Consistent P base blocks) (hw : w.InOrder .all) (he : e ∈ blocks)
    {t : Ty} (ht : w.found? e.node = some t) : ¬ w.Fails e := by
  cases e with
  | value => exact id
  | ident => exact id
  | apply n f x =>
    rintro ⟨tf, tx, htf, htx, hfails⟩
    have hf := hw.found _ _ trivial htf
    have hx := hw.found _ _ trivial htx
    -- The store has a solution, and the type is explained by what solutions make of its parts.
    obtain ⟨tf', tx', htf', htx', heq⟩ := h _ he t ht
    obtain rfl : tf = tf' := Option.some.inj (htf.symm.trans htf')
    obtain rfl : tx = tx' := Option.some.inj (htx.symm.trans htx')
    have hunfit := (hw.unfit_iff hf hx).2 ((hw.meet hf hx).failure_cases.resolve_left hfails)
    have hσ := Store.solves_spread_var hw.wellFormed
    exact hunfit _ _ _ hσ _ (heq _ _ _ hσ)

end Workspace

namespace Session

/-- A check that does not pass has found a type error. -/
theorem Orderly.exists_error {s : Session} {e : Expr} (hs : s.Orderly) (he : e ∈ s.blocks)
    (failed : ∀ t, (s.workspace.check e).result ≠ .ok (.passed t)) :
    ∃ error, (s.workspace.findType e).result = .error (.type error) := by
  cases hresult : (s.workspace.findType e).result with
  | ok t => exact absurd (Workspace.check_passed_iff.2 ⟨t, hresult, rfl⟩) (failed _)
  | error fault =>
    have hfair := (s.workspace.findType_finds e).fair hs.inOrder (hs.within e he)
    obtain ⟨error, rfl⟩ := hfair.typeError fault hresult
    exact ⟨error, rfl⟩

/-- When a check fails, the error names an application in the expression, the first one in post-order that
fails. It has no type after the check, nor has an application around it, but all blocks before it have.
The error is what the types of its parts have come to, and the input that is blamed is its argument. -/
theorem check_blames_first (ops : List Op) (legal : start.Legal ops) (e : Expr)
    (he : e ∈ (start.run ops).blocks)
    (failed : ∀ t, ((start.run ops).workspace.check e).result ≠ .ok (.passed t)) :
    let w := (start.run ops).workspace
    let after := (w.check e).workspace
    ∃ error n f x,
      ((w.check e).result = .ok (.failed error) ∧ error.expression = some (.apply n f x) ∧
        .apply n f x ∈ e.walk) ∧
      (∃ above before rest, after.HaltsAt (.apply n f x) e above before ∧
        e.postOrder = before ++ .apply n f x :: rest ∧ .apply n f x ∉ before ∧
        after.Fails (.apply n f x) ∧ ∀ d ∈ before, ¬ after.Fails d) ∧
      (∃ (m : Workspace) (tf tx : Ty) (cause : Cause), m.found = after.found ∧
        after.found? f.node = some tf ∧ after.found? x.node = some tx ∧
        (m.meet tf tx).failure = some (.type cause) ∧ (m.meet tf tx).store = after.store ∧
        error = cause.error after.store (some (.apply n f x))) ∧
      ∃ g args, .apply n f x = g.call args ∧ (∀ m a b, g ≠ .apply m a b) ∧ 1 ≤ args.length ∧
        error.site? = some ⟨g, (args.length : Int) - 1⟩ ∧ args[args.length - 1]? = some (n, x) := by
  intro w after
  have hs : (start.run ops).Proper := proper_start.run legal
  have hafter : after = (w.findType e).workspace := w.check_workspace e
  have hproper := hs.findType he
  have hinOrder : after.InOrder .all := hafter ▸ hproper.inOrder
  have hconsistent : after.Consistent (fun _ => True) ∅ (start.run ops).blocks :=
    hafter ▸ hproper.consistent
  obtain ⟨error, herror⟩ := hs.orderly.exists_error he failed
  obtain ⟨m, n, f, x, tf, tx, cause, hclash, hstuck, hm, hcause⟩ :=
    (w.findType_finds e).exists_stuck hs.pool he hs.inOrder (hs.within e he) herror
  obtain rfl : error = cause.error (m.meet tf tx).store (some (.apply n f x)) := by
    cases hcause
    rfl
  replace hafter : after = { m with store := (m.meet tf tx).store } := hafter.trans hm
  have hlater : after.Stuck (.apply n f x) e := hafter ▸ hstuck.after_clash hclash
  obtain ⟨above, before, hhalts⟩ := hlater.haltsAt hconsistent hs.pool he
  obtain ⟨rest, hrest⟩ := hhalts.place.postOrder_eq
  have hwalk : ∀ d ∈ before ++ .apply n f x :: rest, d ∈ e.walk :=
    fun d hd => Expr.mem_postOrder.1 (hrest ▸ hd)
  have hfails : after.Fails (.apply n f x) := hafter ▸ hclash.fails_after n
  obtain ⟨g, args, hcall, hfunction, hargs, hsite, hlast⟩ := Expr.site_apply n f x
  refine ⟨_, n, f, x, ⟨Workspace.check_failed herror, rfl, hwalk _ (by simp)⟩,
    ⟨above, before, rest, hhalts, hrest, hhalts.not_mem_before, hfails, fun d hd => ?_⟩,
    ⟨m, tf, tx, cause, ?_⟩, g, args, hcall, hfunction, hargs, congrArg some hsite, hlast⟩
  · obtain ⟨t, ht⟩ := hhalts.before d hd
    have hmem := hs.pool.walk he d (hwalk d (by simp [hd]))
    exact hconsistent.not_fails hinOrder hmem ht
  · rw [hafter]
    exact ⟨rfl, hclash.function, hclash.argument, hclash.failed, rfl, rfl⟩

/-- A call is made of parts that occur in it several times, and one of them has got its type before. The
second input of `f` does not fit where that is met first. -/
theorem check_blames_first_shared :
    let int : Ty := .con "Int"
    let fType : Ty := .arrow int (.arrow (.con "Bool") int)
    let gType : Ty := .arrow (.var ⟨"a", 0⟩) (.arrow int int)
    let f : Expr := .ident 0 "f" fType
    let one : Expr := .value 1 int "1"
    let first : Expr := .apply 2 f one
    let bad : Expr := .apply 3 first one
    let g : Expr := .ident 4 "g" gType
    let inner : Expr := .apply 5 g first
    let outer : Expr := .apply 6 inner bad
    let e : Expr := .apply 7 outer bad
    let ops : List Op := [.newVar "a" ∅, .ident "f" fType, .value int "1", .apply f one, .apply first one,
      .ident "g" gType, .apply g first, .apply inner bad, .apply outer bad, .check first]
    let w := (start.run ops).workspace
    let after := (w.check e).workspace
    (start.Legal ops ∧ e ∈ (start.run ops).blocks) ∧
      ∃ error above before rest, (w.check e).result = .ok (.failed error) ∧
        error.expression = some bad ∧ error.site? = some ⟨f, 1⟩ ∧
        after.HaltsAt bad e above before ∧ e.postOrder = before ++ bad :: rest ∧ bad ∉ before ∧
        after.Fails bad ∧ ∀ d ∈ before, ¬ after.Fails d := by
  intro int fType gType f one first bad g inner outer e ops w after
  have legal : start.Legal ops := by decide +kernel
  have he : e ∈ (start.run ops).blocks := by decide +kernel
  have hresult : (w.check e).result = .ok (.failed ⟨.mismatch, "Bool ⊥ Int", some bad⟩) := by
    decide +kernel
  have failed : ∀ t, (w.check e).result ≠ .ok (.passed t) := by
    intro t ht
    rw [hresult] at ht
    cases ht
  obtain ⟨error, n, f', x, ⟨herror, hexpr, -⟩, ⟨above, before, rest, hhalts, hrest, hnot, hfails, hbefore⟩,
    -, -⟩ := check_blames_first ops legal e he failed
  cases hresult.symm.trans herror
  have hbad : .apply n f' x = bad := (Option.some.inj hexpr).symm
  rw [hbad] at hhalts hrest hnot hfails
  exact ⟨⟨legal, he⟩, _, above, before, rest, hresult, rfl, rfl, hhalts, hrest, hnot, hfails, hbefore⟩

end Session

end BlockTypes
