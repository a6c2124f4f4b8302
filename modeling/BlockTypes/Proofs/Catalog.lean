import BlockTypes.Catalog.Basic
import BlockTypes.Proofs.Store.Copy

/-!
# Catalogues and their store

A catalogue is built of new cells only: what was in the store before stays as it is, and the signatures
of all functions belong to the store (`ofEntries_new`).
-/

namespace BlockTypes.Catalog

open Config (Scalar Data)

variable {c c' : Catalog} {s s' : Store}

/-- The signatures of all functions are types of the store. -/
def Over (s : Store) (c : Catalog) : Prop := ∀ f ∈ c.functions, s.Over f.signature

theorem Over.grows (h : c.Over s) (hg : s.Grows s') : c.Over s' := fun f hf => (h f hf).grows hg

theorem add_new {name category : Scalar} {text : Data} {f : FunctionInfo} (hc : c.Over s)
    (h : c.add s name category text = .ok (f, c', s')) : s.Extends s' ∧ c'.Over s' := by
  unfold add at h
  split at h
  · cases h
  split at h
  · split at h
    · cases h
    · rename_i hsig
      cases h
      obtain ⟨hext, hnew⟩ := Store.ofSignature_new hsig
      refine ⟨hext, fun g hg => ?_⟩
      rcases List.mem_append.1 hg with hg | hg
      · exact (hc g hg).grows hext.grows
      · obtain rfl := List.mem_singleton.1 hg
        exact fun v hv => (hnew v hv).2
  · cases h

theorem addAll_new {category : Scalar} {entries : List (Scalar × Data)} (hc : c.Over s)
    (h : addAll category (c, s) entries = .ok (c', s')) : s.Extends s' ∧ c'.Over s' := by
  induction entries generalizing c s with
  | nil =>
    cases h
    exact ⟨.refl _, hc⟩
  | cons entry rest ih =>
    unfold addAll at h
    split at h
    · cases h
    · rename_i hadd
      obtain ⟨hext, hc'⟩ := add_new hc hadd
      obtain ⟨hext', hc''⟩ := ih hc' h
      exact ⟨hext.trans hext', hc''⟩

theorem addCategories_new {entries : List (Scalar × Data)} (hc : c.Over s)
    (h : addCategories (c, s) entries = .ok (c', s')) : s.Extends s' ∧ c'.Over s' := by
  induction entries generalizing c s with
  | nil =>
    cases h
    exact ⟨.refl _, hc⟩
  | cons entry rest ih =>
    unfold addCategories at h
    split at h
    · cases h
    split at h
    · cases h
    · rename_i cs hall
      obtain ⟨c₁, s₁⟩ := cs
      obtain ⟨hext, hc'⟩ := addAll_new hc hall
      obtain ⟨hext', hc''⟩ := ih hc' h
      exact ⟨hext.trans hext', hc''⟩

theorem exists_of_isOk {ε α : Type} {x : Except ε α} (h : x.isOk = true) : ∃ a, x = .ok a := by
  cases x with
  | error e => cases h
  | ok a => exact ⟨a, rfl⟩

theorem exists_of_bind_ok {ε α β : Type} {x : Except ε α} {next : α → Except ε β} {b : β}
    (h : x >>= next = .ok b) : ∃ a, x = .ok a ∧ next a = .ok b := by
  cases x with
  | error e => cases h
  | ok a => exact ⟨a, rfl, h⟩

theorem ofEntries_new {entries : List (Scalar × Data)} (h : ofEntries s entries = .ok (c, s')) :
    s.Extends s' ∧ c.Over s' := by
  unfold ofEntries at h
  dsimp only at h
  split at h
  · obtain ⟨_, -, h⟩ := exists_of_bind_ok h
    obtain ⟨classes, -, h⟩ := exists_of_bind_ok h
    obtain ⟨functions, -, h⟩ := exists_of_bind_ok h
    exact addCategories_new (fun f hf => by cases hf) h
  · split at h
    · cases h
    · cases h

/-! ## Blocks -/

theorem lookup_mem {name : String} {f : FunctionInfo} (h : c.lookup name = .ok f) : f ∈ c.functions := by
  unfold lookup at h
  split at h
  · rename_i hf
    cases h
    exact List.mem_of_find?_eq_some hf
  · cases h

theorem ident_ok {w : Workspace} {name : String} {made : Expr × Workspace}
    (h : c.ident w name = .ok made) : ∃ f ∈ c.functions, made = w.ident name f.signature := by
  unfold ident at h
  cases hf : c.lookup name with
  | error err =>
    rw [hf] at h
    cases h
  | ok f =>
    rw [hf] at h
    cases h
    exact ⟨f, lookup_mem hf, rfl⟩

theorem value_ok {w : Workspace} {typeText text : String} {made : Expr × Workspace}
    (h : c.value w typeText text = .ok made) :
    ∃ t s, w.store.ofSignature c.signatureClasses typeText = .ok (t, s) ∧
      made = { w with store := s }.value t text := by
  unfold value at h
  cases hsig : w.store.ofSignature c.signatureClasses typeText with
  | error err =>
    rw [hsig] at h
    cases h
  | ok built =>
    rw [hsig] at h
    cases h
    exact ⟨built.1, built.2, rfl, rfl⟩

end BlockTypes.Catalog
