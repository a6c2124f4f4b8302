import BlockTypes.Proofs.Catalog
import BlockTypes.Proofs.Signature.Scope

/-!
# Adding functions

What adding a function comes to (`add_eq_ok_iff`), and which errors it can end with (`add_error`). `addEach`
adds functions one after the other. It goes through if and only if they are `Addable`, which is a condition on
the whole list that does not follow the steps, and then the functions are those that were asked for
(`addEach_files`).
-/

namespace BlockTypes.Catalog

open Config (Scalar Data)

variable {c c' : Catalog} {s s' : Store}

/-- What is asked for when a function is added: the text is what was given for its signature. -/
structure Request where
  name : Scalar
  category : Scalar
  text : Data

/-- The text is that of a signature, if the given classes are those that there are. -/
def Readable (classes : Signature.Classes) (text : Data) : Prop :=
  ∃ written sig, text = .scalar (.text written) ∧ Signature.readWide classes written = .ok sig

/-- The error is one of the catalogue: it is not that keys cannot be sorted, or a value cannot be shown, when
the error is put into words. -/
def Error.IsOwn : Error → Prop
  | .keysNotSortable => False
  | .notShowable => False
  | _ => True

/-! ## Adding one function -/

theorem add_eq_ok_iff {name category : Scalar} {text : Data} {f : FunctionInfo} :
    c.add s name category text = .ok (f, c', s') ↔
      c.find? name = none ∧ ∃ written sig, text = .scalar (.text written) ∧
        Signature.readWide c.signatureClasses written = .ok sig ∧ sig.build s = (f.signature, s') ∧
        f.name = name ∧ f.category = category ∧ c' = { c with functions := c.functions ++ [f] } := by
  constructor
  · intro h
    unfold add at h
    split at h
    · cases h
    · rename_i hnew
      refine ⟨by simpa using hnew, ?_⟩
      split at h
      · rename_i written
        split at h
        · cases h
        · rename_i hsig
          cases h
          obtain ⟨sig, hread, hbuild⟩ := Signature.map_eq_ok_iff.1 hsig
          exact ⟨written, sig, rfl, hread, hbuild, rfl, rfl, rfl⟩
      · cases h
  · rintro ⟨hnew, written, sig, rfl, hread, hbuild, rfl, rfl, rfl⟩
    have hsig : s.ofSignature c.signatureClasses written = .ok (f.signature, s') :=
      Signature.map_eq_ok_iff.2 ⟨sig, hread, hbuild⟩
    unfold add
    rw [hnew]
    simp only [Option.isSome_none, Bool.false_eq_true, if_false, hsig]

theorem build_extends (sig : Signature) (s : Store) : s.Extends (sig.build s).2 :=
  (sig.scope_makes s).1.toExtends

/-- Only new cells are made for a function. -/
theorem add_extends {name category : Scalar} {text : Data} {f : FunctionInfo}
    (h : c.add s name category text = .ok (f, c', s')) : s.Extends s' := by
  obtain ⟨-, written, sig, -, -, hbuild, -⟩ := add_eq_ok_iff.1 h
  have hmade := build_extends sig s
  rwa [hbuild] at hmade

theorem add_error {name category : Scalar} {text : Data} {e : Error}
    (h : c.add s name category text = .error e) :
    e.IsOwn ∨ e = .notShowable ∧ (∀ written, text ≠ .scalar (.text written)) ∧ text.isShowable = false := by
  unfold add at h
  split at h
  · cases h
    exact .inl trivial
  · split at h
    · split at h
      · cases h
        exact .inl trivial
      · cases h
    · rename_i hnot
      cases h
      by_cases hshow : text.isShowable = true
      · rw [if_pos hshow]
        exact .inl trivial
      · rw [if_neg hshow]
        exact .inr ⟨rfl, fun written hw => hnot written hw, by simpa using hshow⟩

theorem find?_append {f : FunctionInfo} {name : Scalar} :
    ({ c with functions := c.functions ++ [f] } : Catalog).find? name = none ↔
      c.find? name = none ∧ ¬ f.name.SameKey name := by
  unfold find?
  rw [List.find?_append, Option.or_eq_none_iff, List.find?_singleton]
  simp

/-! ## Adding one function after the other -/

/-- Adds functions until one cannot be added. -/
def addEach : Catalog × Store → List Request → Except Error (Catalog × Store)
  | cs, [] => .ok cs
  | (c, s), r :: rest =>
    match c.add s r.name r.category r.text with
    | .error e => .error e
    | .ok (_, c, s) => addEach (c, s) rest

theorem addEach_cons_eq_ok_iff {r : Request} {rest : List Request} {cs : Catalog × Store} :
    addEach (c, s) (r :: rest) = .ok cs ↔
      ∃ f c₁ s₁, c.add s r.name r.category r.text = .ok (f, c₁, s₁) ∧ addEach (c₁, s₁) rest = .ok cs := by
  rw [addEach]
  cases h : c.add s r.name r.category r.text with
  | error e => simp
  | ok made =>
    obtain ⟨f, c₁, s₁⟩ := made
    simp

/-- The functions can be added one after the other: all their texts are signatures, and their names are new
and differ from each other. -/
structure Addable (c : Catalog) (rs : List Request) : Prop where
  readable : ∀ r ∈ rs, Readable c.signatureClasses r.text
  new : ∀ r ∈ rs, c.find? r.name = none
  apart : rs.Pairwise fun r r' => ¬ r.name.SameKey r'.name

theorem exists_addEach_iff {rs : List Request} :
    (∃ cs, addEach (c, s) rs = .ok cs) ↔ c.Addable rs := by
  induction rs generalizing c s with
  | nil => exact iff_of_true ⟨_, rfl⟩ ⟨by simp, by simp, .nil⟩
  | cons r rest ih =>
    constructor
    · rintro ⟨cs, h⟩
      obtain ⟨f, c₁, s₁, hadd, hrest⟩ := addEach_cons_eq_ok_iff.1 h
      obtain ⟨hnew, written, sig, htext, hread, -, hname, -, rfl⟩ := add_eq_ok_iff.1 hadd
      have hadded := ih.1 ⟨cs, hrest⟩
      refine ⟨?_, ?_, List.pairwise_cons.2 ⟨fun r' hr' => ?_, hadded.apart⟩⟩
      · exact List.forall_mem_cons.2 ⟨⟨written, sig, htext, hread⟩, hadded.readable⟩
      · exact List.forall_mem_cons.2 ⟨hnew, fun r' hr' => (find?_append.1 (hadded.new r' hr')).1⟩
      · exact hname ▸ (find?_append.1 (hadded.new r' hr')).2
    · rintro ⟨readable, new, apart⟩
      obtain ⟨⟨written, sig, htext, hread⟩, readable⟩ := List.forall_mem_cons.1 readable
      obtain ⟨hnew, new⟩ := List.forall_mem_cons.1 new
      obtain ⟨hapart, apart⟩ := List.pairwise_cons.1 apart
      -- The rest can be added to what the first one leaves, whichever cells it has taken.
      let f : FunctionInfo := ⟨r.name, r.category, (sig.build s).1⟩
      have hadd : c.add s r.name r.category r.text =
          .ok (f, { c with functions := c.functions ++ [f] }, (sig.build s).2) :=
        add_eq_ok_iff.2 ⟨hnew, written, sig, htext, hread, rfl, rfl, rfl, rfl⟩
      have hrest : ({ c with functions := c.functions ++ [f] } : Catalog).Addable rest :=
        ⟨readable, fun r' hr' => find?_append.2 ⟨new r' hr', hapart r' hr'⟩, apart⟩
      obtain ⟨cs, hcs⟩ := ih.2 hrest
      exact ⟨cs, addEach_cons_eq_ok_iff.2 ⟨f, _, _, hadd, hcs⟩⟩

theorem addEach_error {rs : List Request} {e : Error} (h : addEach (c, s) rs = .error e) :
    ∃ r ∈ rs, ∃ c' s', add c' s' r.name r.category r.text = .error e := by
  induction rs generalizing c s with
  | nil => cases h
  | cons r rest ih =>
    rw [addEach] at h
    split at h
    · rename_i hadd
      cases h
      exact ⟨r, List.mem_cons_self, c, s, hadd⟩
    · obtain ⟨r', hr', found⟩ := ih h
      exact ⟨r', List.mem_cons_of_mem _ hr', found⟩

/-- The function is what was asked for, and its signature was built of new cells on the way from one store to
the other. -/
structure Filed (classes : Signature.Classes) (s s' : Store) (r : Request) (f : FunctionInfo) : Prop where
  name : f.name = r.name
  category : f.category = r.category
  signature : ∃ written sig before, r.text = .scalar (.text written) ∧
    Signature.readWide classes written = .ok sig ∧ s.Extends before ∧
    (sig.build before).1 = f.signature ∧ (sig.build before).2.Extends s'

/-- The functions that are added are those that were asked for, in their order. -/
theorem addEach_files {rs : List Request} (h : addEach (c, s) rs = .ok (c', s')) :
    c'.classes = c.classes ∧ s.Extends s' ∧
      ∃ fs, c'.functions = c.functions ++ fs ∧ List.Forall₂ (Filed c.signatureClasses s s') rs fs := by
  induction rs generalizing c s with
  | nil =>
    cases h
    exact ⟨rfl, .refl _, [], by simp, .nil⟩
  | cons r rest ih =>
    obtain ⟨f, c₁, s₁, hadd, hrest⟩ := addEach_cons_eq_ok_iff.1 h
    have hfirst := add_extends hadd
    obtain ⟨-, written, sig, htext, hread, hbuild, hname, hcategory, rfl⟩ := add_eq_ok_iff.1 hadd
    obtain ⟨hclasses, hext, fs, hfs, hfiled⟩ := ih hrest
    refine ⟨hclasses, hfirst.trans hext, f :: fs, by simp [hfs], .cons ⟨hname, hcategory, ?_⟩ ?_⟩
    · refine ⟨written, sig, s, htext, hread, .refl s, by rw [hbuild], ?_⟩
      rw [hbuild]
      exact hext
    · refine hfiled.imp fun r' f' filed => ⟨filed.name, filed.category, ?_⟩
      obtain ⟨written, sig, before, htext, hread, hbefore, hsig, hafter⟩ := filed.signature
      exact ⟨written, sig, before, htext, hread, hfirst.trans hbefore, hsig, hafter⟩

theorem addEach_append_eq_ok_iff {cs cs' : Catalog × Store} {rs rs' : List Request} :
    addEach cs (rs ++ rs') = .ok cs' ↔ ∃ mid, addEach cs rs = .ok mid ∧ addEach mid rs' = .ok cs' := by
  induction rs generalizing cs with
  | nil => simp [addEach]
  | cons r rest ih =>
    obtain ⟨c, s⟩ := cs
    rw [List.cons_append, addEach_cons_eq_ok_iff]
    constructor
    · rintro ⟨f, c₁, s₁, hadd, h⟩
      obtain ⟨mid, hmid, h⟩ := ih.1 h
      exact ⟨mid, addEach_cons_eq_ok_iff.2 ⟨f, c₁, s₁, hadd, hmid⟩, h⟩
    · rintro ⟨mid, hmid, h⟩
      obtain ⟨f, c₁, s₁, hadd, hmid⟩ := addEach_cons_eq_ok_iff.1 hmid
      exact ⟨f, c₁, s₁, hadd, ih.2 ⟨mid, hmid, h⟩⟩

end BlockTypes.Catalog
