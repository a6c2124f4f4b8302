import BlockTypes.Proofs.Signature.Denotation

/-!
# Names and contexts of a signature

All occurrences of a name in a signature are one new variable, and its constraints are the classes that the context
asserts of the name. What else the context says does not matter, nor in which order it says it and how often: texts
whose contexts are rearranged denote the same type with the same constraints, up to the cells of the variables
(`Store.ofSignature_scope`).
-/

namespace BlockTypes

namespace Signature

variable {classes : Classes}

/-- The assertions of the context, if there is one. -/
def SignatureTree.assertions : SignatureTree classes → List (AssertionTree classes)
  | plain _ => []
  | qualified (.single a) _ => [a]
  | qualified (.paren a more) _ => a :: more

/-- One of the assertions names the class `c` and is about the name. -/
def Assert (as : List (AssertionTree classes)) (c : TypeClass) (name : String) : Prop :=
  ∃ a ∈ as, a.subject = name ∧ classes a.name = some c

theorem SignatureTree.context_meaning (d : SignatureTree classes) :
    d.meaning.context = d.assertions.map (·.meaning) := by
  match d with
  | plain _ => rfl
  | qualified (.single _) _ => rfl
  | qualified (.paren _ _) _ => rfl

/-- The constraints of a variable are the classes that are asserted of its name. -/
theorem SignatureTree.mem_constraintsOn {d : SignatureTree classes} {name : String} {c : TypeClass} :
    c ∈ d.meaning.constraintsOn name ↔ Assert d.assertions c name := by
  rw [constraintsOn, SortedSet.mem_ofList, context_meaning]
  constructor
  · intro h
    obtain ⟨_, mem, rfl⟩ := List.mem_map.1 h
    obtain ⟨mem, subject⟩ := List.mem_filter.1 mem
    obtain ⟨a, asserted, rfl⟩ := List.mem_map.1 mem
    exact ⟨a, asserted, of_decide_eq_true subject, a.known⟩
  · rintro ⟨a, mem, subject, known⟩
    have asserted : a.meaning ∈ (d.assertions.map (·.meaning)).filter (·.subject = name) :=
      List.mem_filter.2 ⟨List.mem_map.2 ⟨a, mem, rfl⟩, decide_eq_true subject⟩
    exact List.mem_map.2 ⟨a.meaning, asserted, Option.some.inj (a.known.symm.trans known)⟩

/-- Assertions are put in another order, or repeated, or there are more or fewer about names that are not among the
given ones. -/
inductive Rearranged (names : List String) : (as bs : List (AssertionTree classes)) → Prop
  | order {as bs : List (AssertionTree classes)} (h : as.Perm bs) : Rearranged names as bs
  | repeated {as : List (AssertionTree classes)} {a : AssertionTree classes} (h : a ∈ as) : Rearranged names as (a :: as)
  | unrelated {as : List (AssertionTree classes)} {a : AssertionTree classes} (h : a.subject ∉ names) :
    Rearranged names as (a :: as)
  | back {as bs : List (AssertionTree classes)} (h : Rearranged names as bs) : Rearranged names bs as
  | trans {as bs cs : List (AssertionTree classes)} (h : Rearranged names as bs) (h' : Rearranged names bs cs) :
    Rearranged names as cs

/-- Rearranged assertions say the same about the names. -/
theorem Rearranged.assert_iff {names : List String} {as bs : List (AssertionTree classes)}
    (h : Rearranged names as bs) {name : String} (mem : name ∈ names) (c : TypeClass) :
    Assert as c name ↔ Assert bs c name := by
  induction h with
  | order h => simp only [Assert, h.mem_iff]
  | @repeated as a h =>
    constructor
    · rintro ⟨b, hb, said⟩
      exact ⟨b, List.mem_cons_of_mem _ hb, said⟩
    · rintro ⟨b, hb, said⟩
      rcases List.mem_cons.1 hb with rfl | hb
      · exact ⟨b, h, said⟩
      · exact ⟨b, hb, said⟩
  | @unrelated as a h =>
    constructor
    · rintro ⟨b, hb, said⟩
      exact ⟨b, List.mem_cons_of_mem _ hb, said⟩
    · rintro ⟨b, hb, subject, known⟩
      rcases List.mem_cons.1 hb with rfl | hb
      · exact absurd (subject ▸ mem) h
      · exact ⟨b, hb, subject, known⟩
  | back _ ih => exact ih.symm
  | trans _ _ ih ih' => exact ih.trans ih'

end Signature

open Signature

namespace Store

/-- The types are the same up to their cells: variables of one class correspond to variables of one class, with the
same names and constraints. -/
def SameUpToCells (s : Store) (t : Ty) (s' : Store) (t' : Ty) : Prop :=
  ∃ ρ : TypeVar → TypeVar, t' = t.map ρ ∧ ∀ v ∈ t.vars,
    (ρ v).name = v.name ∧ s'.constraints (ρ v).cell = s.constraints v.cell ∧
      ∀ w ∈ t.vars, s'.root (ρ v).cell = s'.root (ρ w).cell ↔ s.root v.cell = s.root w.cell

/-- Cells that a signature makes are the roots of their classes. -/
theorem root_of_ofSignature {s s' : Store} {classes : Classes} {text : WideText} {t : Ty}
    (made : s.ofSignature classes text = .ok (t, s')) : ∀ v ∈ t.vars, s'.root v.cell = v.cell := by
  intro v mem
  obtain ⟨hextends, new⟩ := ofSignature_new made
  rw [hextends.root, root_of_size_le (new v mem).1]

/-- Signatures of one type whose contexts say the same about its names are built alike. -/
theorem sameUpToCells_build {s s' s₂ s₂' : Store} {classes : Classes} {text text₂ : WideText} {t t₂ : Ty}
    {sig sig₂ : Signature} (denotes : sig.Denotes s t s') (made : s.ofSignature classes text = .ok (t, s'))
    (made₂ : s₂.ofSignature classes text₂ = .ok (t₂, s₂')) (built : sig₂.build s₂ = (t₂, s₂'))
    (type : sig₂.type = sig.type)
    (context : ∀ name ∈ sig.type.vars, sig₂.constraintsOn name = sig.constraintsOn name) :
    s'.SameUpToCells t s₂' t₂ := by
  obtain ⟨ρ, renamed, hρ⟩ := sig₂.build_renames s₂ (denotes.shape.trans type.symm) denotes.same
  have denotes₂ := sig₂.build_denotes s₂
  rw [built] at renamed hρ denotes₂
  refine ⟨ρ, renamed, fun v mem => ?_⟩
  obtain ⟨image, name, cells⟩ := hρ v mem
  refine ⟨name, ?_, fun w hw => ?_⟩
  · have occurs : v.name ∈ sig.type.vars := by
      rw [← denotes.shape]
      exact TypeExpr.mem_vars_map.2 ⟨v, mem, rfl⟩
    rw [denotes₂.constraints _ image, denotes.constraints v mem, name, context _ occurs]
  · rw [root_of_ofSignature made₂ _ image, root_of_ofSignature made₂ _ (hρ w hw).1, root_of_ofSignature made v mem,
      root_of_ofSignature made w hw, cells w hw]

/-- In the type of a signature, variables are one if and only if they have one name, all of them are new and unbound,
and constrained by the classes that the context asserts of their names. A rearranged context gives the same type and
constraints. -/
theorem ofSignature_scope {s s' : Store} {classes : Classes} {text : WideText} {t : Ty}
    (made : s.ofSignature classes text = .ok (t, s')) :
    (∃ ts, Tokenized text ts ∧ ∃ d : SignatureTree classes, d.lexemes = ts.map (·.lexeme)) ∧
    ∀ ts, Tokenized text ts → ∀ d : SignatureTree classes, d.lexemes = ts.map (·.lexeme) →
      t.map (·.name) = d.meaning.type ∧
      (∀ v ∈ t.vars, ∀ w ∈ t.vars, s'.root v.cell = s'.root w.cell ↔ v.name = w.name) ∧
      (∀ v ∈ t.vars, s.size ≤ s'.root v.cell ∧ s'.root v.cell < s'.size ∧ s'.bound? v.cell = none) ∧
      (∀ v ∈ t.vars, ∀ c, c ∈ s'.constraints v.cell ↔ Assert d.assertions c v.name) ∧
      ∀ text₂ ts₂, Tokenized text₂ ts₂ → ∀ d₂ : SignatureTree classes, d₂.lexemes = ts₂.map (·.lexeme) →
        d₂.meaning.type = d.meaning.type → Rearranged d.meaning.type.vars d.assertions d₂.assertions →
        ∀ s₂ : Store, ∃ t₂ s₂', s₂.ofSignature classes text₂ = .ok (t₂, s₂') ∧ s'.SameUpToCells t s₂' t₂ := by
  obtain ⟨ts, tokenized, d, lexemes, built⟩ := ofSignature_eq_ok_iff.1 made
  refine ⟨⟨ts, tokenized, d, lexemes⟩, fun ts' tokenized' d' lexemes' => ?_⟩
  -- The text has these tokens only, and they have this derivation only.
  obtain rfl := tokenized.unique tokenized'
  obtain rfl : d = d' := SignatureTree.lexemes_injective (lexemes.trans lexemes'.symm)
  have denotes := d.meaning.build_denotes s
  rw [built] at denotes
  have root := root_of_ofSignature made
  refine ⟨denotes.shape, fun v hv w hw => ?_, fun v hv => ?_, fun v hv c => ?_, ?_⟩
  · rw [root v hv, root w hw, denotes.same v hv w hw]
  · rw [root v hv]
    exact ⟨(denotes.new v hv).1, (denotes.new v hv).2, denotes.unbound v hv⟩
  · rw [denotes.constraints v hv, SignatureTree.mem_constraintsOn]
  · intro text₂ ts₂ tokenized₂ d₂ lexemes₂ type rearranged s₂
    obtain ⟨t₂, s₂', built₂⟩ : ∃ t₂ s₂', d₂.meaning.build s₂ = (t₂, s₂') := ⟨_, _, rfl⟩
    have made₂ : s₂.ofSignature classes text₂ = .ok (t₂, s₂') :=
      ofSignature_eq_ok_iff.2 ⟨ts₂, tokenized₂, d₂, lexemes₂, built₂⟩
    refine ⟨t₂, s₂', made₂, sameUpToCells_build denotes made made₂ built₂ type fun name mem => ?_⟩
    refine SortedSet.ext fun c => ?_
    rw [SignatureTree.mem_constraintsOn, SignatureTree.mem_constraintsOn, rearranged.assert_iff mem]

/-- Assertions in another order, one of them twice, and one about a name that the type does not have. -/
theorem ofSignature_scope_rearranged :
    let num : TypeClass := ⟨"Num", .ofList ["Int"]⟩
    let ord : TypeClass := ⟨"Ord", .ofList ["Int", "Bool"]⟩
    let classes : Classes := fun name => if name = "Num" then some num else if name = "Ord" then some ord else none
    ∃ t s', (∅ : Store).ofSignature classes (.ofString "(Num a, Ord b) => a -> b -> a") = .ok (t, s') ∧
      (∀ v ∈ t.vars, ∀ w ∈ t.vars, s'.root v.cell = s'.root w.cell ↔ v.name = w.name) ∧
      (∀ v ∈ t.vars, v.name = "a" → ∀ c, c ∈ s'.constraints v.cell ↔ c = num) ∧
      ∃ t₂ s₂', s'.ofSignature classes (.ofString "(Ord b, Ord c, Num a, Num a) => a -> b -> a") = .ok (t₂, s₂') ∧
        s'.SameUpToCells t s₂' t₂ := by
  intro num ord classes
  let a : Tree .btype := .apply (.var "a" (by decide)) .noOperand
  let b : Tree .btype := .apply (.var "b" (by decide)) .noOperand
  let type : Tree .type := .arrow a (.arrow b (.plain a))
  let numA : AssertionTree classes := ⟨"Num", num, rfl, "a", by decide⟩
  let ordB : AssertionTree classes := ⟨"Ord", ord, rfl, "b", by decide⟩
  let ordC : AssertionTree classes := ⟨"Ord", ord, rfl, "c", by decide⟩
  let d : SignatureTree classes := .qualified (.paren numA [ordB]) type
  let d₂ : SignatureTree classes := .qualified (.paren ordB [ordC, numA, numA]) type
  have tokenized : Tokenized (.ofString "(Num a, Ord b) => a -> b -> a") [⟨.leftParen, 0⟩, ⟨.ident "Num", 1⟩,
      ⟨.ident "a", 5⟩, ⟨.comma, 6⟩, ⟨.ident "Ord", 8⟩, ⟨.ident "b", 12⟩, ⟨.rightParen, 13⟩, ⟨.implies, 15⟩,
      ⟨.ident "a", 18⟩, ⟨.arrow, 20⟩, ⟨.ident "b", 23⟩, ⟨.arrow, 25⟩, ⟨.ident "a", 28⟩] := ⟨_, rfl, by decide +kernel⟩
  have tokenized₂ : Tokenized (.ofString "(Ord b, Ord c, Num a, Num a) => a -> b -> a") [⟨.leftParen, 0⟩,
      ⟨.ident "Ord", 1⟩, ⟨.ident "b", 5⟩, ⟨.comma, 6⟩, ⟨.ident "Ord", 8⟩, ⟨.ident "c", 12⟩, ⟨.comma, 13⟩,
      ⟨.ident "Num", 15⟩, ⟨.ident "a", 19⟩, ⟨.comma, 20⟩, ⟨.ident "Num", 22⟩, ⟨.ident "a", 26⟩, ⟨.rightParen, 27⟩,
      ⟨.implies, 29⟩, ⟨.ident "a", 32⟩, ⟨.arrow, 34⟩, ⟨.ident "b", 37⟩, ⟨.arrow, 39⟩, ⟨.ident "a", 42⟩] :=
    ⟨_, rfl, by decide +kernel⟩
  have rearranged : Rearranged d.meaning.type.vars d.assertions d₂.assertions := by
    have twice : Rearranged d.meaning.type.vars [numA, ordB] [numA, numA, ordB] := .repeated List.mem_cons_self
    have more : Rearranged d.meaning.type.vars [numA, numA, ordB] [ordC, numA, numA, ordB] := .unrelated (by decide)
    have turned : ([ordC, numA, numA] ++ [ordB]).Perm ([ordB] ++ [ordC, numA, numA]) := List.perm_append_comm
    exact (twice.trans more).trans (.order turned)
  obtain ⟨t, s', made⟩ : ∃ t s', (∅ : Store).ofSignature classes (.ofString "(Num a, Ord b) => a -> b -> a") =
      .ok (t, s') := ⟨_, _, ofSignature_eq_ok_iff.2 ⟨_, tokenized, d, rfl, rfl⟩⟩
  obtain ⟨-, same, -, constraints, edited⟩ := (ofSignature_scope made).2 _ tokenized d rfl
  refine ⟨t, s', made, same, fun v mem name c => ?_, edited _ _ tokenized₂ d₂ rfl rfl rearranged s'⟩
  rw [constraints v mem, name]
  constructor
  · rintro ⟨x, hx, subject, known⟩
    rcases List.mem_cons.1 hx with rfl | hx
    · exact (Option.some.inj known).symm
    · obtain rfl := List.mem_singleton.1 hx
      simp [ordB] at subject
  · rintro rfl
    exact ⟨numA, List.mem_cons_self, rfl, rfl⟩

end Store

end BlockTypes
