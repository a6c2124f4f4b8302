import Mathlib.Data.List.TakeWhile
import BlockTypes.Proofs.Signature.Lexing
import BlockTypes.Proofs.Signature.Reading
import BlockTypes.Proofs.Store.Copy

/-!
# Signatures denote what their derivations mean

The context of a signature is cut off at the first double arrow and split at commas, and no derivation has such
a lexeme elsewhere. So the signatures that are read are those that the grammar derives
(`ofTokens_eq_ok_iff`), and the type that is built has one new variable for each name (`Denotes`).
-/

namespace BlockTypes

namespace Signature

variable {classes : Classes}

theorem map_eq_ok_iff {ε α β : Type} {f : α → β} {x : Except ε α} {b : β} :
    x.map f = .ok b ↔ ∃ a, x = .ok a ∧ f a = b := by
  cases x <;> simp [Except.map]

/-! ## Contexts -/

theorem map_groups (ts : List Token) :
    (groups ts).map (·.map (·.lexeme)) = (ts.map (·.lexeme)).splitOn .comma := by
  induction ts with
  | nil => rfl
  | cons token rest ih =>
    rw [groups, List.map_cons, List.splitOn, List.splitOnP_cons_eq_if_modifyHead, ← List.splitOn, ← ih]
    cases h : groups rest with
    | nil =>
      -- There is always a group, if only an empty one.
      simp [h] at ih
    | cons group more => by_cases hc : token.lexeme = .comma <;> simp [hc]

theorem readAssertion_eq_ok_iff {position : Nat} {ts : List Token} {a : Assertion} :
    readAssertion classes position ts = .ok a ↔
      ∃ d : AssertionTree classes, d.lexemes = ts.map (·.lexeme) ∧ d.meaning = a := by
  constructor
  · intro h
    unfold readAssertion at h
    split at h
    next name classAt v varAt =>
      split at h
      next isVar =>
        split at h
        next c known =>
          obtain rfl := Except.ok.inj h
          exact ⟨⟨name, c, known, v, isVar⟩, rfl, rfl⟩
        next => cases h
      next => cases h
    next => cases h
    next => cases h
  · rintro ⟨⟨name, c, known, v, isVar⟩, lexemes, rfl⟩
    obtain ⟨⟨x, p⟩, ts, rfl, hx, lexemes⟩ := List.map_eq_cons_iff.1 lexemes.symm
    obtain ⟨⟨y, q⟩, ts, rfl, hy, lexemes⟩ := List.map_eq_cons_iff.1 lexemes
    obtain rfl := List.map_eq_nil_iff.1 lexemes
    simp only at hx hy
    subst hx hy
    simp [readAssertion, isVar, known, AssertionTree.meaning]

theorem mapM_readAssertion_eq_ok_iff {position : Nat} {gs : List (List Token)} {as : List Assertion} :
    gs.mapM (readAssertion classes position) = .ok as ↔ ∃ ds : List (AssertionTree classes),
      ds.map (·.lexemes) = gs.map (·.map (·.lexeme)) ∧ ds.map (·.meaning) = as := by
  induction gs generalizing as with
  | nil => simp [pure, Except.pure]
  | cons g gs ih =>
    have first : (g :: gs).mapM (readAssertion classes position) = .ok as ↔ ∃ a more,
        readAssertion classes position g = .ok a ∧ gs.mapM (readAssertion classes position) = .ok more ∧
          a :: more = as := by
      rw [List.mapM_cons]
      cases readAssertion classes position g <;>
        cases gs.mapM (readAssertion classes position) <;> simp [bind, Except.bind, pure, Except.pure]
    rw [first]
    constructor
    · rintro ⟨a, more, ha, hmore, rfl⟩
      obtain ⟨d, hd, rfl⟩ := readAssertion_eq_ok_iff.1 ha
      obtain ⟨ds, hds, rfl⟩ := ih.1 hmore
      exact ⟨d :: ds, by simp [hd, hds], rfl⟩
    · rintro ⟨ds, lexemes, rfl⟩
      obtain ⟨d, ds, rfl, hd, hds⟩ := List.map_eq_cons_iff.1 lexemes
      exact ⟨_, _, readAssertion_eq_ok_iff.2 ⟨d, hd, rfl⟩, ih.2 ⟨ds, hds, rfl⟩, rfl⟩

/-- Assertions between commas are the groups that the commas leave. -/
theorem map_lexemes_eq_groups_iff {d : AssertionTree classes} {more : List (AssertionTree classes)}
    {ts : List Token} : (d :: more).map (·.lexemes) = (groups ts).map (·.map (·.lexeme)) ↔
      d.lexemes ++ more.flatMap (fun e => .comma :: e.lexemes) = ts.map (·.lexeme) := by
  have joined : [.comma].intercalate ((d :: more).map (·.lexemes)) =
      d.lexemes ++ more.flatMap (fun e => .comma :: e.lexemes) := by
    simp [intercalate_cons, List.flatMap_map]
  rw [map_groups, ← joined]
  constructor
  · intro h
    rw [h, List.intercalate_splitOn]
  · intro h
    rw [← h, List.splitOn_intercalate]
    · simp [AssertionTree.lexemes]
    · simp

theorem readContext_eq_ok_iff {stop : Nat} {ts : List Token} {as : List Assertion} :
    readContext classes stop ts = .ok as ↔
      ∃ c : ContextTree classes, c.lexemes = ts.map (·.lexeme) ∧ c.meaning = as := by
  constructor
  · intro h
    cases ts with
    | nil => cases h
    | cons first rest =>
      rw [readContext] at h
      split at h
      next opened =>
        simp only at h
        split at h
        next closed =>
          obtain ⟨ds, lexemes, rfl⟩ := mapM_readAssertion_eq_ok_iff.1 h
          rcases List.eq_nil_or_concat rest with rfl | ⟨init, last, rfl⟩
          · simp [opened] at closed
          · cases ds with
            | nil => simp [map_groups] at lexemes
            | cons d more =>
              simp only [List.concat_eq_append, List.dropLast_concat] at lexemes
              refine ⟨.paren d more, ?_, rfl⟩
              rw [ContextTree.lexemes, map_lexemes_eq_groups_iff.1 lexemes]
              simpa [opened] using closed.symm
        next => cases h
      next =>
        cases ha : readAssertion classes first.position (first :: rest) with
        | error problem => simp [ha, Except.map] at h
        | ok a =>
          obtain ⟨d, hd, rfl⟩ := readAssertion_eq_ok_iff.1 ha
          exact ⟨.single d, hd, by simpa [ha, Except.map, ContextTree.meaning] using h⟩
  · rintro ⟨c, lexemes, rfl⟩
    cases c with
    | single d =>
      obtain ⟨first, rest, rfl, hfirst, -⟩ := List.map_eq_cons_iff.1 lexemes.symm
      rw [readContext, if_neg (by simp [hfirst]), readAssertion_eq_ok_iff.2 ⟨d, lexemes, rfl⟩]
      rfl
    | paren d more =>
      obtain ⟨first, rest, rfl, hfirst, inner⟩ := List.map_eq_cons_iff.1 lexemes.symm
      obtain ⟨init, last, rfl, hinit, hlast⟩ := List.map_eq_append_iff.1 inner
      obtain ⟨last, rfl, closed⟩ := List.map_eq_singleton_iff.1 hlast
      have read : (groups init).mapM (readAssertion classes first.position) = .ok ((d :: more).map (·.meaning)) :=
        mapM_readAssertion_eq_ok_iff.2 ⟨d :: more, map_lexemes_eq_groups_iff.2 hinit.symm, rfl⟩
      simp [readContext, hfirst, closed, read, ContextTree.meaning]

/-! ## Signatures -/

theorem ne_implies_of_notMem {ts : List Token} (h : .implies ∉ ts.map (·.lexeme)) :
    ∀ token ∈ ts, decide (token.lexeme ≠ .implies) = true := by
  intro token mem
  simp only [decide_eq_true_eq]
  rintro e
  exact h (List.mem_map.2 ⟨token, mem, e⟩)

theorem span_of_notMem {ts : List Token} (h : .implies ∉ ts.map (·.lexeme)) :
    ts.span (·.lexeme ≠ .implies) = (ts, []) := by
  have absent := ne_implies_of_notMem h
  rw [List.span_eq_takeWhile_dropWhile, List.takeWhile_eq_self_iff.2 absent, List.dropWhile_eq_nil_iff.2 absent]

theorem span_implies {ts : List Token} {xs ys : List Lexeme} (e : ts.map (·.lexeme) = xs ++ .implies :: ys)
    (h : .implies ∉ xs) : ∃ context double type, ts.span (·.lexeme ≠ .implies) = (context, double :: type) ∧
      context.map (·.lexeme) = xs ∧ type.map (·.lexeme) = ys := by
  obtain ⟨context, rest, rfl, rfl, hrest⟩ := List.map_eq_append_iff.1 e
  obtain ⟨double, type, rfl, hdouble, rfl⟩ := List.map_eq_cons_iff.1 hrest
  have before := ne_implies_of_notMem h
  refine ⟨context, double, type, ?_, rfl, rfl⟩
  rw [List.span_eq_takeWhile_dropWhile, List.takeWhile_append_of_pos before, List.dropWhile_append_of_pos before]
  simp [hdouble]

theorem eq_of_span {ts context rest : List Token} (h : ts.span (·.lexeme ≠ .implies) = (context, rest)) :
    ts = context ++ rest ∧ ∀ token ∈ rest.head?, token.lexeme = .implies := by
  rw [List.span_eq_takeWhile_dropWhile, Prod.mk.injEq] at h
  obtain ⟨rfl, rfl⟩ := h
  refine ⟨List.takeWhile_append_dropWhile.symm, fun token mem => ?_⟩
  have stops := List.head?_dropWhile_not (fun token : Token => decide (token.lexeme ≠ .implies)) ts
  rw [Option.mem_def] at mem
  rw [mem] at stops
  simpa using stops

theorem SignatureTree.lexemes_ne_nil (d : SignatureTree classes) : d.lexemes ≠ [] := by
  cases d with
  | plain t =>
    obtain ⟨x, rest, h, -⟩ := t.exists_lexemes_eq_cons (by simp) (by simp)
    simp [lexemes, h]
  | qualified c t => simp [lexemes]

/-- The signatures that are read are those that the grammar derives. -/
theorem ofTokens_eq_ok_iff {length : Nat} {ts : List Token} {sig : Signature} :
    ofTokens classes length ts = .ok sig ↔
      ∃ d : SignatureTree classes, d.lexemes = ts.map (·.lexeme) ∧ d.meaning = sig := by
  constructor
  · intro h
    unfold ofTokens at h
    split at h
    next => cases h
    next =>
      split at h
      next type hspan =>
        obtain ⟨rfl, -⟩ := eq_of_span hspan
        obtain ⟨t, ht, rfl⟩ := map_eq_ok_iff.1 h
        obtain ⟨u, hu, rfl⟩ := readType_eq_ok_iff.1 ht
        exact ⟨.plain u, by simpa [SignatureTree.lexemes] using hu, rfl⟩
      next context double type hspan =>
        obtain ⟨rfl, hdouble⟩ := eq_of_span hspan
        split at h
        next => cases h
        next assertions read =>
          obtain ⟨t, ht, rfl⟩ := map_eq_ok_iff.1 h
          obtain ⟨u, hu, rfl⟩ := readType_eq_ok_iff.1 ht
          obtain ⟨c, hc, rfl⟩ := readContext_eq_ok_iff.1 read
          exact ⟨.qualified c u, by simp [SignatureTree.lexemes, hu, hc, hdouble double rfl], rfl⟩
  · rintro ⟨d, lexemes, rfl⟩
    have nonempty : ts.isEmpty = false := by
      rw [List.isEmpty_eq_false_iff]
      rintro rfl
      exact d.lexemes_ne_nil lexemes
    rw [ofTokens, if_neg (by simp [nonempty])]
    cases d with
    | plain t =>
      have absent := t.implies_notMem_lexemes
      rw [show t.lexemes = _ from lexemes] at absent
      rw [span_of_notMem absent]
      simp only [readType_eq_ok_iff.2 ⟨t, lexemes, rfl⟩]
      rfl
    | qualified c t =>
      obtain ⟨context, double, type, hspan, hc, ht⟩ := span_implies lexemes.symm c.implies_notMem_lexemes
      rw [hspan]
      simp only [readContext_eq_ok_iff.2 ⟨c, hc.symm, rfl⟩, readType_eq_ok_iff.2 ⟨t, ht.symm, rfl⟩]
      rfl

/-- The text is a string, and these are its tokens. -/
def Tokenized (text : WideText) (ts : List Token) : Prop :=
  ∃ str : String, text = .ofString str ∧ tokens str = .ok ts

theorem tokenized_ofString {str : String} {ts : List Token} :
    Tokenized (.ofString str) ts ↔ tokens str = .ok ts := by
  constructor
  · rintro ⟨str', same, scanned⟩
    have := congrArg WideText.toString? same
    rw [WideText.toString?_ofString, WideText.toString?_ofString, Option.some.injEq] at this
    rwa [this]
  · exact fun scanned => ⟨str, rfl, scanned⟩

theorem Tokenized.unique {text : WideText} {ts ts' : List Token} (h : Tokenized text ts) (h' : Tokenized text ts') :
    ts = ts' := by
  obtain ⟨str, rfl, scanned⟩ := h
  exact Except.ok.inj (scanned.symm.trans (tokenized_ofString.1 h'))

theorem read_eq_ok_iff {text : String} {sig : Signature} : read classes text = .ok sig ↔
    ∃ ts, tokens text = .ok ts ∧ ofTokens classes text.length ts = .ok sig := by
  unfold read
  cases tokens text with
  | error problem => simp [bind, Except.bind]
  | ok ts => cases h : ofTokens classes text.length ts <;> simp [bind, Except.bind, h]

/-- A text with a half of a pair is no signature. -/
theorem readWide_eq_ok_iff {text : WideText} {sig : Signature} : readWide classes text = .ok sig ↔
    ∃ ts, Tokenized text ts ∧ ∃ d : SignatureTree classes, d.lexemes = ts.map (·.lexeme) ∧ d.meaning = sig := by
  constructor
  · intro h
    unfold readWide at h
    split at h
    next cs whole =>
      obtain ⟨ts, hts, read⟩ := read_eq_ok_iff.1 h
      refine ⟨ts, ⟨_, ?_, hts⟩, ofTokens_eq_ok_iff.1 read⟩
      cases text
      obtain ⟨rfl, -⟩ := CodePoint.eq_append_of_untilHalf whole
      simp [WideText.ofString, WideText.ofChars]
    next => split at h <;> cases h
  · rintro ⟨ts, ⟨str, rfl, hts⟩, derived⟩
    rw [readWide_ofString]
    exact read_eq_ok_iff.2 ⟨ts, hts, ofTokens_eq_ok_iff.2 derived⟩

/-! ## Variables -/

/-- The type has the shape of the signature's, and for each name one new variable, with the classes that are
asserted of that name. -/
structure Denotes (sig : Signature) (s : Store) (t : Ty) (s' : Store) : Prop where
  shape : t.map (·.name) = sig.type
  new : ∀ v ∈ t.vars, s.size ≤ v.cell ∧ v.cell < s'.size
  same : ∀ v ∈ t.vars, ∀ w ∈ t.vars, v.cell = w.cell ↔ v.name = w.name
  unbound : ∀ v ∈ t.vars, s'.bound? v.cell = none
  constraints : ∀ v ∈ t.vars, s'.constraints v.cell = sig.constraintsOn v.name

theorem name_of_lookup_scope (sig : Signature) (s : Store) {name : String} {v : TypeVar}
    (h : (sig.scope s).vars.lookup name = some v) : v.name = name := by
  unfold scope at h
  generalize sig.type.vars = names at h
  induction names using List.reverseRecOn with
  | nil => cases h
  | append_singleton names last ih =>
    rw [List.foldl_append, List.foldl_cons, List.foldl_nil, Scope.add] at h
    split at h
    · exact ih h
    · rcases Store.lookup_cons_cases h with ⟨rfl, rfl⟩ | ⟨-, old⟩
      · rfl
      · exact ih old

theorem build_denotes (sig : Signature) (s : Store) : sig.Denotes s (sig.build s).1 (sig.build s).2 := by
  obtain ⟨makes, covers⟩ := sig.scope_makes s
  have found : ∀ v ∈ (sig.build s).1.vars, (sig.scope s).vars.lookup v.name = some v := by
    intro v mem
    obtain ⟨name, hname, rfl⟩ := TypeExpr.mem_vars_map.1 mem
    obtain ⟨w, hw⟩ := covers name hname
    rw [hw, Option.getD_some, sig.name_of_lookup_scope s hw, hw]
  refine ⟨?_, ?_, ?_, ?_, ?_⟩
  · rw [build, TypeExpr.map_eq_bind, TypeExpr.bind_map]
    nth_rewrite 2 [← TypeExpr.bind_var sig.type]
    refine TypeExpr.bind_congr fun name hname => ?_
    obtain ⟨w, hw⟩ := covers name hname
    rw [hw, Option.getD_some, sig.name_of_lookup_scope s hw]
  · intro v mem
    exact ⟨(makes.cell (found v mem)).1, (makes.cell (found v mem)).2.1⟩
  · intro v hv w hw
    constructor
    · exact makes.key_eq (found v hv) (found w hw)
    · intro e
      have same := found v hv
      rw [e, found w hw] at same
      rw [Option.some.inj same]
  · intro v mem
    rw [build, makes.toExtends.bound, Store.bound?_of_size_le (makes.cell (found v mem)).1]
  · intro v mem
    exact (makes.cell (found v mem)).2.2

/-- A signature whose type is written as `t` is, and has cells by name as `t` has, is built as `t` with other cells. -/
theorem build_renames (sig : Signature) (s : Store) {t : Ty} (shape : t.map (·.name) = sig.type)
    (same : ∀ v ∈ t.vars, ∀ w ∈ t.vars, v.cell = w.cell ↔ v.name = w.name) :
    ∃ ρ : TypeVar → TypeVar, (sig.build s).1 = t.map ρ ∧ ∀ v ∈ t.vars,
      ρ v ∈ (sig.build s).1.vars ∧ (ρ v).name = v.name ∧ ∀ w ∈ t.vars, (ρ v).cell = (ρ w).cell ↔ v.cell = w.cell := by
  have denotes := sig.build_denotes s
  have covers := (sig.scope_makes s).2
  let ρ : TypeVar → TypeVar := fun v => ((sig.scope s).vars.lookup v.name).getD ⟨v.name, 0⟩
  have built : (sig.build s).1 = t.map ρ := by
    rw [build, ← shape, TypeExpr.map_eq_bind, TypeExpr.bind_map, TypeExpr.map_eq_bind]
  have image : ∀ v ∈ t.vars, ρ v ∈ (sig.build s).1.vars := by
    intro v mem
    rw [built]
    exact TypeExpr.mem_vars_map.2 ⟨v, mem, rfl⟩
  have name : ∀ v ∈ t.vars, (ρ v).name = v.name := by
    intro v mem
    have occurs : v.name ∈ sig.type.vars := by
      rw [← shape]
      exact TypeExpr.mem_vars_map.2 ⟨v, mem, rfl⟩
    obtain ⟨w, hw⟩ := covers v.name occurs
    show (((sig.scope s).vars.lookup v.name).getD ⟨v.name, 0⟩).name = v.name
    rw [hw, Option.getD_some, sig.name_of_lookup_scope s hw]
  refine ⟨ρ, built, fun v hv => ⟨image v hv, name v hv, fun w hw => ?_⟩⟩
  rw [denotes.same _ (image v hv) _ (image w hw), name v hv, name w hw, same v hv w hw]

end Signature

open Signature

theorem Store.ofSignature_eq_ok_iff {s : Store} {classes : Classes} {text : WideText} {r : Ty × Store} :
    s.ofSignature classes text = .ok r ↔ ∃ ts, Tokenized text ts ∧
      ∃ d : SignatureTree classes, d.lexemes = ts.map (·.lexeme) ∧ d.meaning.build s = r := by
  rw [ofSignature, map_eq_ok_iff]
  constructor
  · rintro ⟨sig, read, rfl⟩
    obtain ⟨ts, hts, d, lexemes, rfl⟩ := readWide_eq_ok_iff.1 read
    exact ⟨ts, hts, d, lexemes, rfl⟩
  · rintro ⟨ts, hts, d, lexemes, rfl⟩
    exact ⟨d.meaning, readWide_eq_ok_iff.2 ⟨ts, hts, d, lexemes, rfl⟩, rfl⟩

/-- A text is accepted if and only if its tokens have a derivation; they have one only, and the type that is
built is what the derivation means. -/
theorem Store.ofSignature_grammar (s : Store) (classes : Classes) (text : WideText) :
    ((∃ r, s.ofSignature classes text = .ok r) ↔
      ∃ ts, Tokenized text ts ∧ ∃ d : SignatureTree classes, d.lexemes = ts.map (·.lexeme)) ∧
    ∀ ts, Tokenized text ts → ∀ d : SignatureTree classes, d.lexemes = ts.map (·.lexeme) →
      (∀ e : SignatureTree classes, e.lexemes = ts.map (·.lexeme) → e = d) ∧
      ∃ t s', s.ofSignature classes text = .ok (t, s') ∧ d.meaning.Denotes s t s' := by
  refine ⟨?_, fun ts hts d hd => ⟨fun e he => SignatureTree.lexemes_injective (he.trans hd.symm), ?_⟩⟩
  · constructor
    · rintro ⟨r, h⟩
      obtain ⟨ts, hts, d, hd, -⟩ := ofSignature_eq_ok_iff.1 h
      exact ⟨ts, hts, d, hd⟩
    · rintro ⟨ts, hts, d, hd⟩
      exact ⟨_, ofSignature_eq_ok_iff.2 ⟨ts, hts, d, hd, rfl⟩⟩
  · exact ⟨_, _, ofSignature_eq_ok_iff.2 ⟨ts, hts, d, hd, rfl⟩, d.meaning.build_denotes s⟩

/-- A context, arrows, a list and a tuple. -/
theorem Store.ofSignature_grammar_qualified :
    let num : TypeClass := ⟨"Num", .ofList ["Int"]⟩
    let classes : Classes := fun name => if name = "Num" then some num else none
    ∃ t s', (∅ : Store).ofSignature classes (.ofString "Num a => [a] -> (b, a)") = .ok (t, s') ∧
      t.map (·.name) = .arrow (.app (.con "[]") (.var "a")) (.app (.app (.con "(,)") (.var "b")) (.var "a")) ∧
      ∀ v ∈ t.vars, v.name = "a" → s'.constraints v.cell = .ofList [num] := by
  intro num classes
  let a : Tree .btype := .apply (.var "a" (by decide)) .noOperand
  let b : Tree .btype := .apply (.var "b" (by decide)) .noOperand
  let d : SignatureTree classes := .qualified (.single ⟨"Num", num, rfl, "a", by decide⟩)
    (.arrow (.apply (.list (.plain a)) .noOperand)
      (.plain (.apply (.paren (.plain b) (.part (.plain a) .noPart)) .noOperand)))
  have tokenized : Tokenized (.ofString "Num a => [a] -> (b, a)") [⟨.ident "Num", 0⟩, ⟨.ident "a", 4⟩, ⟨.implies, 6⟩,
      ⟨.leftBracket, 9⟩, ⟨.ident "a", 10⟩, ⟨.rightBracket, 11⟩, ⟨.arrow, 13⟩, ⟨.leftParen, 16⟩, ⟨.ident "b", 17⟩,
      ⟨.comma, 18⟩, ⟨.ident "a", 20⟩, ⟨.rightParen, 21⟩] := ⟨_, rfl, by decide +kernel⟩
  obtain ⟨-, t, s', built, denotes⟩ := (ofSignature_grammar ∅ classes _).2 _ tokenized d rfl
  refine ⟨t, s', built, denotes.shape, fun v mem name => ?_⟩
  rw [denotes.constraints v mem, name]
  rfl

end BlockTypes
