import BlockTypes.Proofs.Signature.Denotation
import BlockTypes.Proofs.Store.Layout

/-!
# Written types are read back

A type that a signature denotes is written as a signature of the same type, with new variables of the same names,
unless a spine in it gives a tuple constructor more arguments than it takes (`Store.ofSignature_text`). Such types
exist, since a tuple may be applied like any other type, but what is written for them is refused.
-/

namespace BlockTypes

open Signature

namespace TypeExpr

variable {ν μ : Type}

/-! ## Spines -/

/-- The type is an argument of the application `t`, or a side of the arrow that is applied there. -/
def IsPartOf (a t : TypeExpr ν) : Prop :=
  a ∈ t.spine.2 ∨ ∃ b, t.spine.1 = arrow a b ∨ t.spine.1 = arrow b a

/-- The type `u` stands in `t`, and is not the function of an application there: its spine is as long as it can be. -/
inductive SpineIn (u : TypeExpr ν) : TypeExpr ν → Prop
  | self : SpineIn u u
  | part {a t : TypeExpr ν} (h : a.IsPartOf t) (inner : SpineIn u a) : SpineIn u t

/-- The type is a tuple constructor of at least two parts with more arguments than it takes. -/
def Crowded (t : TypeExpr ν) : Prop := ∃ n, 2 ≤ n ∧ t.spine.1 = con (tupleCon n) ∧ n < t.spine.2.length

/-- Some spine in the type is crowded. -/
def HasCrowdedSpine (t : TypeExpr ν) : Prop := ∃ u : TypeExpr ν, u.SpineIn t ∧ u.Crowded

theorem isPartOf_arrow {c a b : TypeExpr ν} : c.IsPartOf (arrow a b) ↔ c = a ∨ c = b := by
  simp only [IsPartOf, spine, List.not_mem_nil, false_or, arrow.injEq]
  constructor
  · rintro ⟨d, ⟨rfl, -⟩ | ⟨-, rfl⟩⟩
    · exact .inl rfl
    · exact .inr rfl
  · rintro (rfl | rfl)
    · exact ⟨b, .inl ⟨rfl, rfl⟩⟩
    · exact ⟨a, .inr ⟨rfl, rfl⟩⟩

theorem isPartOf_app {c t a : TypeExpr ν} : c.IsPartOf (app t a) ↔ c.IsPartOf t ∨ c = a := by
  simp only [IsPartOf, spine, List.mem_append, List.mem_singleton]
  exact or_right_comm

theorem overfull_iff {t : TypeExpr ν} {count : Nat} : t.Overfull count ↔
    (∃ n, 2 ≤ n ∧ t.spine.1 = con (tupleCon n) ∧ n < t.spine.2.length + count) ∨
      ∃ a : TypeExpr ν, a.IsPartOf t ∧ a.Overfull 0 := by
  induction t generalizing count with
  | var v => simp [Overfull, spine, IsPartOf]
  | con name => simp [Overfull, spine, IsPartOf]
  | arrow a b => simp [Overfull, spine, isPartOf_arrow, or_and_right, exists_or]
  | app t a iht _ =>
    rw [Overfull, iht]
    simp [spine, isPartOf_app, or_and_right, exists_or, or_assoc, Nat.add_right_comm, Nat.add_assoc]

theorem hasCrowdedSpine_of_parts {t : TypeExpr ν} (full : t.Overfull 0)
    (parts : ∀ a : TypeExpr ν, a.IsPartOf t → a.Overfull 0 → a.HasCrowdedSpine) : t.HasCrowdedSpine := by
  rcases overfull_iff.1 full with crowded | ⟨a, part, full⟩
  · exact ⟨t, .self, crowded⟩
  · obtain ⟨u, hu, crowded⟩ := parts a part full
    exact ⟨u, .part part hu, crowded⟩

/-- Crowded spines are what makes a type overfull. -/
theorem overfull_zero_iff {t : TypeExpr ν} : t.Overfull 0 ↔ t.HasCrowdedSpine := by
  constructor
  · intro full
    refine hasCrowdedSpine_of_parts full ?_
    -- The parts of an application are those of its function, which has no spine of its own, and the argument.
    clear full
    induction t with
    | var v => simp [spine, IsPartOf]
    | con name => simp [spine, IsPartOf]
    | arrow a b iha ihb =>
      intro c part full
      rcases isPartOf_arrow.1 part with rfl | rfl
      · exact hasCrowdedSpine_of_parts full iha
      · exact hasCrowdedSpine_of_parts full ihb
    | app t a iht iha =>
      intro c part full
      rcases isPartOf_app.1 part with part | rfl
      · exact iht c part full
      · exact hasCrowdedSpine_of_parts full iha
  · rintro ⟨u, hu, crowded⟩
    induction hu with
    | self => exact overfull_iff.2 (.inl crowded)
    | part h _ ih => exact overfull_iff.2 (.inr ⟨_, h, ih⟩)

theorem overfull_map {f : ν → μ} {t : TypeExpr ν} {count : Nat} : (t.map f).Overfull count ↔ t.Overfull count := by
  induction t generalizing count with
  | var | con => rfl
  | arrow a b iha ihb => simp [map, Overfull, iha, ihb]
  | app t a iht iha => simp [map, Overfull, iht, iha]

end TypeExpr

/-! ## Reading back -/

/-- No type is read from lexemes with a bare tuple constructor. -/
theorem Signature.Reading.takes?_bareTuple {xs : List Lexeme} (h : BareTuple xs) (r : Reading) :
    r.takes? xs = none := by
  obtain ⟨ys, zs, rfl⟩ := h
  rw [List.append_assoc, takes?_append]
  cases r.takes? ys with
  | none => rfl
  | some next => rfl

theorem Signature.Tree.not_bareTuple (t : Tree .type) : ¬ BareTuple t.lexemes := by
  intro bare
  obtain ⟨l, taken, -⟩ := t.isTaken [] []
  rw [Reading.takes?_bareTuple bare] at taken
  cases taken

/-- A type that was read has the names that a signature can have. -/
theorem Store.exists_denotes {s s' : Store} {classes : Classes} {text : WideText} {t : Ty}
    (made : s.ofSignature classes text = .ok (t, s')) :
    ∃ sig : Signature, sig.type.Readable 0 ∧ sig.Denotes s t s' := by
  obtain ⟨ts, ⟨str, -, scanned⟩, d, lexemes, built⟩ := ofSignature_eq_ok_iff.1 made
  have denotes := d.meaning.build_denotes s
  rw [built] at denotes
  refine ⟨d.meaning, ?_, denotes⟩
  have names : ∀ name, .ident name ∈ d.lexemes → IsIdent name := by
    intro name mem
    rw [lexemes] at mem
    exact isIdent_of_scan scanned mem
  cases d with
  | plain t => exact t.meansReadable names
  | qualified c t => exact t.meansReadable fun name mem => names name (by simp [SignatureTree.lexemes, mem])

/-- The type `t'` is `t` with a new variable of the same name for each variable, and without constraints. -/
def Store.Renewed (s : Store) (t t' : Ty) (s' : Store) : Prop :=
  ∃ ρ : TypeVar → TypeVar, t' = t.map ρ ∧ ∀ v ∈ t.vars,
    (ρ v).name = v.name ∧ s.size ≤ (ρ v).cell ∧ (ρ v).cell < s'.size ∧ s'.bound? (ρ v).cell = none ∧
      s'.constraints (ρ v).cell = ∅ ∧ ∀ w ∈ t.vars, (ρ v).cell = (ρ w).cell ↔ v.cell = w.cell

theorem Signature.build_renewed (s : Store) {t : Ty}
    (same : ∀ v ∈ t.vars, ∀ w ∈ t.vars, v.cell = w.cell ↔ v.name = w.name) :
    let sig : Signature := ⟨[], t.map (·.name)⟩
    s.Renewed t (sig.build s).1 (sig.build s).2 := by
  intro sig
  have denotes := sig.build_denotes s
  obtain ⟨ρ, built, renamed⟩ := sig.build_renames s rfl same
  refine ⟨ρ, built, fun v mem => ?_⟩
  obtain ⟨image, name, cells⟩ := renamed v mem
  refine ⟨name, (denotes.new _ image).1, (denotes.new _ image).2, denotes.unbound _ image, ?_, cells⟩
  rw [denotes.constraints _ image]
  rfl

/-- The tokens that are written for a type that a signature denotes. -/
theorem Store.tokens_text {s₀ s₁ s : Store} {classes : Classes} {text : WideText} {t : Ty}
    (made : s₀.ofSignature classes text = .ok (t, s₁)) (free : ∀ v ∈ t.vars, s.bound? v.cell = none) :
    ∃ ts, tokens (s.text t) = .ok ts ∧ Conveys .arrow 0 (ts.map (·.lexeme)) (t.map (·.name)) := by
  obtain ⟨sig, readable, denotes⟩ := exists_denotes made
  rw [← denotes.shape] at readable
  obtain ⟨xs, spelled, conveys⟩ := (TypeExpr.shows_layoutWith .nil readable).inPlace .whole
  rw [Layout.inPlace_whole] at spelled
  rw [text_of_unbound free]
  obtain ⟨ts, scanned, rfl⟩ := spelled.tokens
  exact ⟨ts, scanned, conveys⟩

/-- What is written for a type that a signature denotes is read as that type with new variables if and only if no
spine of the type is crowded, and otherwise it is refused. -/
theorem Store.ofSignature_text {s₀ s₁ s : Store} {classes : Classes} {text : WideText} {t : Ty}
    (made : s₀.ofSignature classes text = .ok (t, s₁)) (free : ∀ v ∈ t.vars, s.bound? v.cell = none) :
    ((∃ t' s', s.ofSignature (fun _ => none) (s.text t) = .ok (t', s') ∧ s.Renewed t t' s' ∧ s'.text t' = s.text t) ↔
      ¬ t.HasCrowdedSpine) ∧
    (t.HasCrowdedSpine → ∃ e, s.ofSignature (fun _ => none) (s.text t) = .error e) := by
  obtain ⟨origin, -, denotes⟩ := exists_denotes made
  obtain ⟨ts, scanned, conveys⟩ := tokens_text made free
  rw [← TypeExpr.overfull_zero_iff, ← TypeExpr.overfull_map (f := TypeVar.name)]
  have refused : (t.map (·.name)).Overfull 0 → ∀ r, s.ofSignature (fun _ => none) (s.text t) ≠ .ok r := by
    intro full r accepted
    obtain ⟨ts', tokenized, d, lexemes, -⟩ := ofSignature_eq_ok_iff.1 accepted
    obtain rfl : ts' = ts := Except.ok.inj ((tokenized_ofString.1 tokenized).symm.trans scanned)
    cases d with
    | plain u =>
      have bare := conveys.bare full
      rw [← lexemes] at bare
      exact u.not_bareTuple bare
    | qualified c u =>
      -- Without classes there is no assertion.
      cases c with
      | single a => cases a.known
      | paren a more => cases a.known
  refine ⟨⟨fun ⟨t', s', accepted, _⟩ full => refused full _ accepted, fun fine => ?_⟩, fun full => ?_⟩
  · obtain ⟨u, lexemes, meaning⟩ := conveys.derives fine
    let sig : Signature := ⟨[], t.map (·.name)⟩
    have accepted : s.ofSignature (fun _ => none) (s.text t) = .ok (sig.build s) :=
      ofSignature_eq_ok_iff.2
        ⟨ts, tokenized_ofString.2 scanned, .plain u, lexemes, by rw [SignatureTree.meaning, meaning]⟩
    refine ⟨(sig.build s).1, (sig.build s).2, accepted, build_renewed s denotes.same, ?_⟩
    rw [text_of_unbound (sig.build_denotes s).unbound, (sig.build_denotes s).shape, text_of_unbound free]
  · cases accepted : s.ofSignature (fun _ => none) (s.text t) with
    | ok r => exact absurd accepted (refused full r)
    | error e => exact ⟨e, rfl⟩

/-- A tuple that is applied is not read back, and a list of tuples is. -/
theorem Store.ofSignature_text_applied_tuple :
    let a : Ty := .var ⟨"a", 0⟩
    let b : Ty := .var ⟨"b", 1⟩
    let t : Ty := .app (.app (.app (.con "(,)") a) b) a
    let u : Ty := .app (.con "[]") (.app (.app (.con "(,)") a) b)
    let s : Store := (Store.push (∅ : Store) ∅).push ∅
    (s.text t = "(,) a b a" ∧ ∃ e, s.ofSignature (fun _ => none) (s.text t) = .error e) ∧
      s.text u = "[(a, b)]" ∧ ∃ u' s', s.ofSignature (fun _ => none) (s.text u) = .ok (u', s') ∧ s.Renewed u u' s' := by
  intro a b t u s
  have madeT : (∅ : Store).ofSignature (fun _ => none) (.ofString "(a, b) a") = .ok (t, s) := by decide +kernel
  have madeU : (∅ : Store).ofSignature (fun _ => none) (.ofString "[(a, b)]") = .ok (u, s) := by decide +kernel
  have crowded : t.HasCrowdedSpine := ⟨t, .self, 2, by decide, by decide +kernel, by decide⟩
  have fine : ¬ u.HasCrowdedSpine := by
    rw [← TypeExpr.overfull_zero_iff]
    decide +kernel
  have freeT : ∀ v ∈ t.vars, s.bound? v.cell = none := by decide +kernel
  have freeU : ∀ v ∈ u.vars, s.bound? v.cell = none := by decide +kernel
  refine ⟨⟨by decide +kernel, (ofSignature_text madeT freeT).2 crowded⟩, by decide +kernel, ?_⟩
  obtain ⟨u', s', accepted, renewed, -⟩ := (ofSignature_text madeU freeU).1.2 fine
  exact ⟨u', s', accepted, renewed⟩

end BlockTypes
