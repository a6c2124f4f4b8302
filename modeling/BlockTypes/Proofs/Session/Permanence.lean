import BlockTypes.Proofs.Session.Basic
import BlockTypes.Proofs.Unify.Again

/-!
# Unification is permanent

Whatever a session does, a bound variable keeps its type and merged variables stay merged. So types that
were unified stay the same, through all later operations and their failures, and to unify them again
finds nothing to do (`unify_permanent`).
-/

namespace BlockTypes

variable {a b : Ty}

/-- To unify the two types succeeds, whatever it is done for, and leaves everything as it is. -/
def Workspace.Settled (w : Workspace) (a b : Ty) : Prop :=
  ∀ context, (w.unify context a b).result = .ok () ∧ (w.unify context a b).workspace = w

namespace Workspace

variable {w : Workspace}

theorem settled_of_image_eq (hw : w.store.WellFormed) (ha : w.store.Over a) (hb : w.store.Over b)
    (heq : a.image (w.store.spread .var) = b.image (w.store.spread .var)) : w.Settled a b := by
  intro context
  have hprepared := Store.Prepared.ofOver hw.grounded ha hb
  have hu := Store.unifies_of_image_eq hprepared hw heq
  obtain ⟨hstore, hfailure⟩ := (Store.unify_iff hprepared).1 hu
  refine ⟨adopt_result_ok.2 hfailure, ?_⟩
  unfold unify adopt
  rw [hstore]

/-- Types that have been unified are the same in every store that comes from there. -/
theorem image_eq_of_unified {context : Option Expr} {s : Store} (hw : w.store.WellFormed)
    (ha : w.store.Over a) (hb : w.store.Over b) (unified : (w.unify context a b).result = .ok ())
    (later : Store.Evolves (fun _ => True) (w.unify context a b).workspace.store s) :
    a.image (s.spread .var) = b.image (s.spread .var) := by
  have hprepared := Store.Prepared.ofOver hw.grounded ha hb
  have hu : Store.Unifies w.store a b (w.store.unify a b).store none :=
    (Store.unify_iff hprepared).2 ⟨rfl, adopt_result_ok.1 unified⟩
  have hs := later.wellFormed (hu.wellFormed hprepared hw)
  -- A solution of the later store solves the earlier one, and there the two types were made equal.
  exact hu.sound hprepared hw ((Store.solves_spread_var hs).of_grows later.grows hs)

end Workspace

namespace Session

/-- In a session that is in order, what is bound or merged stays so, whatever operations follow. Types
that were unified resolve to the same type after any later operations, and to unify them again, either
way round, changes nothing. The same holds of any two types that resolve to the same type. -/
theorem unify_permanent (s : Session) (hs : s.Orderly) :
    (∀ ops, s.Legal ops →
      (∀ c t, s.store.bound? c = some t → (s.run ops).store.bound? c = some t) ∧
      ∀ c d, s.store.root c = s.store.root d → (s.run ops).store.root c = (s.run ops).store.root d) ∧
    (∀ context a b, s.store.Over a → s.store.Over b → (s.workspace.unify context a b).result = .ok () →
      ∀ ops, (s.perform (.unify context a b)).Legal ops →
        let later := (s.perform (.unify context a b)).run ops
        later.store.Same (later.store.resolve a) (later.store.resolve b) ∧
          later.workspace.Settled a b ∧ later.workspace.Settled b a) ∧
    ∀ a b, s.store.Over a → s.store.Over b → s.store.Same (s.store.resolve a) (s.store.resolve b) →
      s.workspace.Settled a b := by
  refine ⟨fun ops legal => ?_, ?_, fun a b ha hb hsame => ?_⟩
  · have hgrows := (hs.evolves_run legal).grows
    exact ⟨hgrows.bound, hgrows.root⟩
  · intro context a b ha hb unified ops legal later
    have hnext : (s.perform (.unify context a b)).Orderly := hs.perform ⟨ha, hb⟩
    have hev := hnext.evolves_run legal
    have hlater := (hnext.run legal).inOrder.wellFormed
    have hlegal : s.Legal (.unify context a b :: ops) := ⟨⟨ha, hb⟩, legal⟩
    have hgrows := (hs.evolves_run hlegal).grows
    have heq := Workspace.image_eq_of_unified hs.inOrder.wellFormed ha hb unified hev
    exact ⟨(Store.same_resolve_iff hlater).2 heq,
      Workspace.settled_of_image_eq hlater (ha.grows hgrows) (hb.grows hgrows) heq,
      Workspace.settled_of_image_eq hlater (hb.grows hgrows) (ha.grows hgrows) heq.symm⟩
  · have hwell := hs.inOrder.wellFormed
    exact Workspace.settled_of_image_eq hwell ha hb ((Store.same_resolve_iff hwell).1 hsame)

/-- Two functions are unified. Then a unification fails after it has bound the argument of one of them,
and the argument of the other is bound with it. -/
theorem unify_permanent_failing :
    let a : TypeVar := ⟨"a", 0⟩
    let b : TypeVar := ⟨"b", 1⟩
    let f : Ty := .arrow (.var a) (.var a)
    let g : Ty := .arrow (.var b) (.var a)
    let s := start.run [.newVar "a" ∅, .newVar "b" ∅]
    let ops : List Op := [.unify none f (.arrow (.con "Int") (.con "Bool"))]
    let later := (s.perform (.unify none f g)).run ops
    (s.workspace.unify none f g).result = .ok () ∧ (s.perform (.unify none f g)).Legal ops ∧
      later.store.bound? b.cell = some (.con "Int") ∧
      later.store.Same (later.store.resolve f) (later.store.resolve g) ∧
      later.workspace.Settled f g ∧ later.workspace.Settled g f := by
  intro a b f g s ops later
  have hs : s.Orderly := (proper_start.run (by decide +kernel)).orderly
  have unified : (s.workspace.unify none f g).result = .ok () := by decide +kernel
  have legal : (s.perform (.unify none f g)).Legal ops := by decide +kernel
  exact ⟨unified, legal, by decide +kernel,
    (unify_permanent s hs).2.1 none f g (by decide +kernel) (by decide +kernel) unified ops legal⟩

end Session

end BlockTypes
