import BlockTypes.Proofs.Catalog.Document

/-!
# Catalogues through every history

A catalogue begins without functions, or as the one that a document describes, and then functions are asked for
in any order, with or without success, while others go on with the store. `step_functions` says all that an act
does to a catalogue. So the functions are those that were added, in their order (`run_functions`), and their
names stay apart (`Apart.run`). Categories are keys in the order in which they came first (`Scalar.distinct`).

Names and categories are texts where programs give them, but a document can have any scalar for a key. A function
whose category is an undefined number is in no category at all (`existsUnique_category_iff`), so that
`categories_partition` is about texts, and `not_partitioned_uncategorized` is a catalogue that is not
partitioned.
-/

namespace BlockTypes

open Config (Scalar Data)

/-! ## Keys in the order in which they came -/

namespace Config.Scalar

variable {k l : Scalar} {keys : List Scalar}

theorem SameKey.decide_eq (h : k.SameKey l) :
    (fun m : Scalar => decide (m.SameKey k)) = fun m => decide (m.SameKey l) :=
  funext fun _ => decide_eq_decide.2 ⟨fun hm => hm.trans h, fun hm => hm.trans (Eq.symm h)⟩

theorem mem_distinct : k ∈ distinct keys ↔ keys.find? (·.SameKey k) = some k := by
  induction keys with
  | nil => simp [distinct]
  | cons first rest ih =>
    rw [distinct, List.mem_cons, List.mem_filter, ih, List.find?_cons]
    by_cases hfirst : first.SameKey k
    · have hback : k.SameKey first := Eq.symm hfirst
      simp [hfirst, hback, eq_comm]
    · have hne : k ≠ first := fun h => hfirst (congrArg asKey h.symm)
      have hback : ¬ k.SameKey first := fun h => hfirst (Eq.symm h)
      simp [hfirst, hback, hne]

theorem exists_mem_distinct (h : k ∈ keys) : ∃ l ∈ distinct keys, k.SameKey l := by
  have hsome : (keys.find? (·.SameKey k)).isSome := List.find?_isSome.2 ⟨k, h, by simp [SameKey]⟩
  obtain ⟨l, hl⟩ := Option.isSome_iff_exists.1 hsome
  have hsame : l.SameKey k := by simpa using List.find?_some hl
  refine ⟨l, mem_distinct.2 ?_, Eq.symm hsame⟩
  rw [hsame.decide_eq, hl]

/-- A key stands for itself alone. -/
theorem eq_of_mem_distinct (hk : k ∈ distinct keys) (hl : l ∈ distinct keys) (h : k.SameKey l) : k = l := by
  have hfound := mem_distinct.1 hk
  rw [h.decide_eq] at hfound
  exact Option.some.inj (hfound.symm.trans (mem_distinct.1 hl))

/-- The keys stand in the order in which they came first. -/
theorem distinct_ordered (keys : List Scalar) :
    (distinct keys).Pairwise fun k l => keys.findIdx (·.SameKey k) < keys.findIdx (·.SameKey l) := by
  induction keys with
  | nil => exact .nil
  | cons first rest ih =>
    have hlater : ∀ l ∈ (distinct rest).filter (¬ SameKey · first),
        (first :: rest).findIdx (·.SameKey l) = rest.findIdx (·.SameKey l) + 1 := by
      intro l hl
      have hl : ¬ l.SameKey first := by simpa using (List.mem_filter.1 hl).2
      have hback : ¬ first.SameKey l := fun h => hl (Eq.symm h)
      simp [List.findIdx_cons, hback]
    refine List.pairwise_cons.2 ⟨fun l hl => ?_, ?_⟩
    · rw [hlater l hl]
      simp [List.findIdx_cons, SameKey]
    · refine (ih.filter _).imp_of_mem fun {k l} hk hl hlt => ?_
      rw [hlater k hk, hlater l hl]
      exact Nat.succ_lt_succ hlt

end Config.Scalar

namespace Catalog

variable {c : Catalog} {s₀ s : Store} {cs : Catalog × Store} {f : FunctionInfo}

/-! ## Acts -/

/-- What can happen to a catalogue and its store: a function is asked for, or others change the store. -/
inductive Act where
  | add (r : Request)
  | elsewhere (s : Store)

/-- The function that an act adds, if it adds one. -/
def added? (cs : Catalog × Store) : Act → Option FunctionInfo
  | .add r =>
    match cs.1.add cs.2 r.name r.category r.text with
    | .ok (f, _) => some f
    | .error _ => none
  | .elsewhere _ => none

/-- The catalogue and the store after an act. A request that fails leaves both. -/
def step (cs : Catalog × Store) : Act → Catalog × Store
  | .add r =>
    match cs.1.add cs.2 r.name r.category r.text with
    | .ok (_, cs) => cs
    | .error _ => cs
  | .elsewhere s => (cs.1, s)

/-- The catalogue and the store after a sequence of acts. -/
def run (cs : Catalog × Store) (acts : List Act) : Catalog × Store := acts.foldl step cs

/-- The function that is added by the act at the given place of a sequence. -/
def addedAt (cs : Catalog × Store) (acts : List Act) (i : Nat) : Option FunctionInfo :=
  acts[i]?.bind (added? (run cs (acts.take i)))

/-- A request succeeds or fails. -/
theorem request_cases (cs : Catalog × Store) (r : Request) :
    (∃ f cs', cs.1.add cs.2 r.name r.category r.text = .ok (f, cs') ∧
      added? cs (.add r) = some f ∧ step cs (.add r) = cs') ∨
    ∃ e, cs.1.add cs.2 r.name r.category r.text = .error e ∧
      added? cs (.add r) = none ∧ step cs (.add r) = cs := by
  unfold added? step
  dsimp only
  cases hadd : cs.1.add cs.2 r.name r.category r.text with
  | ok made => exact .inl ⟨made.1, made.2, rfl, rfl, rfl⟩
  | error e => exact .inr ⟨e, rfl, rfl, rfl⟩

theorem added?_eq_some {a : Act} (h : added? cs a = some f) :
    ∃ r, a = .add r ∧ f.name = r.name ∧ f.category = r.category ∧ cs.1.find? r.name = none := by
  cases a with
  | elsewhere s => cases h
  | add r =>
    rcases request_cases cs r with ⟨g, cs', hadd, hadded, -⟩ | ⟨e, -, hadded, -⟩
    · obtain rfl := Option.some.inj (hadded.symm.trans h)
      obtain ⟨hnew, -, -, -, -, -, hname, hcategory, -⟩ := add_eq_ok_iff.1 hadd
      exact ⟨r, rfl, hname, hcategory, hnew⟩
    · cases hadded.symm.trans h

/-- All that an act does to the catalogue. -/
theorem step_functions (cs : Catalog × Store) (a : Act) :
    (step cs a).1 = { cs.1 with functions := cs.1.functions ++ (added? cs a).toList } := by
  cases a with
  | elsewhere s => simp [step, added?]
  | add r =>
    rcases request_cases cs r with ⟨g, cs', hadd, hadded, hstep⟩ | ⟨e, -, hadded, hstep⟩
    · obtain ⟨-, -, -, -, -, -, -, -, hfunctions⟩ := add_eq_ok_iff.1 hadd
      rw [hstep, hadded]
      exact hfunctions
    · simp [hstep, hadded]

/-- A function cannot be added if its name is taken, or if what was given is not the text of a signature. -/
theorem added?_eq_none_iff {r : Request} : added? cs (.add r) = none ↔
    (∃ f, cs.1.find? r.name = some f) ∨ ¬ Readable cs.1.signatureClasses r.text := by
  have hadd : added? cs (.add r) = none ↔ ¬ ∃ made, addEach cs [r] = .ok made := by
    rcases request_cases cs r with ⟨g, cs', hadd, hadded, -⟩ | ⟨e, hadd, hadded, -⟩
    · simp [addEach, hadd, hadded]
    · simp [addEach, hadd, hadded]
  rw [hadd, exists_addEach_iff]
  constructor
  · intro h
    by_contra hnot
    rw [not_or, not_not, not_exists] at hnot
    refine h ⟨by simpa using hnot.2, ?_, by simp⟩
    simpa [Option.eq_none_iff_forall_ne_some] using hnot.1
  · rintro (⟨f, hf⟩ | hnot) h
    · have hnew := h.new r List.mem_cons_self
      rw [hf] at hnew
      cases hnew
    · exact hnot (h.readable r List.mem_cons_self)

theorem step_of_added?_eq_none {r : Request} (h : added? cs (.add r) = none) : step cs (.add r) = cs := by
  rcases request_cases cs r with ⟨g, cs', -, hadded, -⟩ | ⟨e, -, -, hstep⟩
  · cases hadded.symm.trans h
  · exact hstep

/-! ## Sequences of acts -/

/-- No two functions have one name. -/
def Apart (c : Catalog) : Prop := c.functions.Pairwise fun f g => ¬ f.name.SameKey g.name

theorem Apart.step (h : cs.1.Apart) (a : Act) : (step cs a).1.Apart := by
  rw [step_functions]
  cases hadded : added? cs a with
  | none => simpa [Apart] using h
  | some f =>
    obtain ⟨r, -, hname, -, hnew⟩ := added?_eq_some hadded
    refine List.pairwise_append.2 ⟨h, by simp, fun g hg g' hg' => ?_⟩
    obtain rfl : g' = f := by simpa using hg'
    rw [hname]
    simpa using List.find?_eq_none.1 hnew g hg

theorem Apart.run (h : cs.1.Apart) (acts : List Act) : (run cs acts).1.Apart := by
  induction acts generalizing cs with
  | nil => exact h
  | cons a rest ih => exact ih (h.step a)

theorem run_functions (cs : Catalog × Store) (acts : List Act) :
    (run cs acts).1 =
      { cs.1 with functions := cs.1.functions ++ (List.range acts.length).filterMap (addedAt cs acts) } := by
  induction acts generalizing cs with
  | nil => simp [run]
  | cons a rest ih =>
    -- Past the first act, the log is that of the other acts from where the first one leads.
    have hlater : (addedAt cs (a :: rest) ∘ Nat.succ) = addedAt (Catalog.step cs a) rest := rfl
    have hfirst : addedAt cs (a :: rest) 0 = added? cs a := rfl
    have hlog : (List.range (a :: rest).length).filterMap (addedAt cs (a :: rest)) =
        (added? cs a).toList ++ (List.range rest.length).filterMap (addedAt (Catalog.step cs a) rest) := by
      rw [List.length_cons, List.range_succ_eq_map, List.filterMap_cons, List.filterMap_map, hlater, hfirst]
      cases added? cs a <;> rfl
    show (run (Catalog.step cs a) rest).1 = _
    rw [ih, step_functions, hlog, List.append_assoc]

theorem run_of_addEach {rs : List Request} {cs' : Catalog × Store} (h : addEach cs rs = .ok cs') :
    run cs (rs.map .add) = cs' := by
  induction rs generalizing cs with
  | nil => exact Except.ok.inj h
  | cons r rest ih =>
    obtain ⟨f, c₁, s₁, hadd, hrest⟩ := addEach_cons_eq_ok_iff.1 h
    have hstep : Catalog.step cs (.add r) = (c₁, s₁) := by
      unfold Catalog.step
      dsimp only
      rw [hadd]
    show run (Catalog.step cs (.add r)) (rest.map .add) = cs'
    rw [hstep]
    exact ih hrest

/-- How a catalogue begins, and the functions that were asked for until then: there are none, or those of a
document. -/
inductive Begun (s₀ : Store) : Catalog × Store → List Request → Prop
  | empty : Begun s₀ (∅, s₀) []
  | loaded {entries : List (Scalar × Data)} {cs : Catalog × Store} (h : ofEntries s₀ entries = .ok cs) :
    Begun s₀ cs (requests entries)

/-- A catalogue that has begun is one without functions to which these were added. -/
theorem Begun.eq_run {first : List Request} (h : Begun s₀ cs first) :
    run (⟨cs.1.classes, []⟩, s₀) (first.map .add) = cs := by
  cases h with
  | empty => rfl
  | loaded hmade =>
    obtain ⟨classes, functions, table, -, hfunctions, -, -, hadded⟩ :=
      (ofEntries_eq_ok_iff (known_of_ofEntries hmade)).1 hmade
    obtain ⟨hclasses, -⟩ := addEach_files hadded
    rw [requests, sectionOf_eq hfunctions, hclasses]
    exact run_of_addEach hadded

/-! ## Questions -/

theorem lookup_eq_ok_iff {name : String} : c.lookup name = .ok f ↔ c.find? (.text name) = some f := by
  unfold lookup
  cases c.find? (.text name) <;> simp

theorem addedAt_of_le {acts : List Act} {i : Nat} (h : acts.length ≤ i) : addedAt cs acts i = none := by
  rw [addedAt, List.getElem?_eq_none h, Option.bind_none]

theorem addedAt_eq_some {acts : List Act} {i : Nat} (h : addedAt cs acts i = some f) :
    ∃ r, acts[i]? = some (.add r) ∧ f.name = r.name ∧ f.category = r.category := by
  obtain ⟨a, ha, hadded⟩ := Option.bind_eq_some_iff.1 h
  obtain ⟨r, rfl, hname, hcategory, -⟩ := added?_eq_some hadded
  exact ⟨r, ha, hname, hcategory⟩

/-- The function of a name is the one that was added first under it. -/
theorem find?_eq_some_iff {acts : List Act} {name : Scalar}
    (hc : c.functions = (List.range acts.length).filterMap (addedAt cs acts)) :
    c.find? name = some f ↔ ∃ i, addedAt cs acts i = some f ∧ f.name.SameKey name ∧
      ∀ j < i, ∀ g, addedAt cs acts j = some g → ¬ g.name.SameKey name := by
  rw [find?, hc, List.find?_filterMap, Option.bind_eq_some_iff]
  refine exists_congr fun i => ?_
  rw [List.find?_range_eq_some]
  constructor
  · rintro ⟨⟨hname, -, hbefore⟩, hadded⟩
    refine ⟨hadded, by simpa [hadded] using hname, fun j hj g hg => ?_⟩
    simpa [hg] using hbefore j hj
  · rintro ⟨hadded, hname, hbefore⟩
    have hi : i < acts.length := by
      by_contra hle
      rw [addedAt_of_le (Nat.le_of_not_lt hle)] at hadded
      cases hadded
    refine ⟨⟨by simpa [hadded] using hname, List.mem_range.2 hi, fun j hj => ?_⟩, hadded⟩
    cases hg : addedAt cs acts j with
    | none => rfl
    | some g => simpa using hbefore j hj g hg

/-! ## Categories -/

theorem mem_functionsIn {k : Scalar} :
    f ∈ c.functionsIn k ↔ f ∈ c.functions ∧ f.category.SameKey k ∧ f.category ≠ .float .undefined := by
  rw [functionsIn, List.mem_filter, decide_eq_true_iff]
  rfl

theorem exists_mem_categories (hf : f ∈ c.functions) : ∃ k ∈ c.categories, f.category.SameKey k :=
  Scalar.exists_mem_distinct (List.mem_map.2 ⟨f, hf, rfl⟩)

/-- A function is in one category, unless its category is an undefined number, which is not equal to itself. -/
theorem existsUnique_category_iff (hf : f ∈ c.functions) :
    (∃! k, k ∈ c.categories ∧ f ∈ c.functionsIn k) ↔ f.category ≠ .float .undefined := by
  constructor
  · rintro ⟨k, ⟨-, hin⟩, -⟩
    exact (mem_functionsIn.1 hin).2.2
  · intro hdefined
    obtain ⟨k, hk, hsame⟩ := exists_mem_categories hf
    refine ⟨k, ⟨hk, mem_functionsIn.2 ⟨hf, hsame, hdefined⟩⟩, fun l hl => ?_⟩
    obtain ⟨-, hsame', -⟩ := mem_functionsIn.1 hl.2
    exact Scalar.eq_of_mem_distinct hl.1 hk ((Eq.symm hsame').trans hsame)

/-- The categories partition the functions. Each stands once, in the order of their first functions, and each
function is in exactly one. In a category the functions are in the order in which they were added. -/
structure Partitioned (c : Catalog) : Prop where
  distinct : c.categories.Nodup
  given : ∀ k, k ∈ c.categories ↔ ∃ f ∈ c.functions, f.category = k
  ordered : c.categories.Pairwise fun k l =>
    c.functions.findIdx (·.category = k) < c.functions.findIdx (·.category = l)
  unique : ∀ f ∈ c.functions, ∃! k, k ∈ c.categories ∧ f ∈ c.functionsIn k
  inOrder : ∀ k, c.functionsIn k = c.functions.filter (·.category = k)
  others : ∀ k, k ∉ c.categories → c.functionsIn k = []

section Texts

variable (texts : ∀ f ∈ c.functions, ∃ key, f.category = .text key)

include texts

theorem mem_categories {k : Scalar} : k ∈ c.categories ↔ ∃ f ∈ c.functions, f.category = k := by
  constructor
  · intro hk
    exact List.mem_map.1 (List.mem_of_find?_eq_some (Scalar.mem_distinct.1 hk))
  · rintro ⟨f, hf, rfl⟩
    obtain ⟨k, hk, hsame⟩ := exists_mem_categories hf
    rwa [(sameKey_iff_eq (texts f hf)).1 hsame]

theorem categories_ordered : c.categories.Pairwise fun k l =>
    c.functions.findIdx (·.category = k) < c.functions.findIdx (·.category = l) := by
  have hidx : ∀ k ∈ c.categories, (c.functions.map (·.category)).findIdx (·.SameKey k) =
      c.functions.findIdx (·.category = k) := by
    intro k hk
    obtain ⟨f, hf, rfl⟩ := (mem_categories texts).1 hk
    obtain ⟨key, hkey⟩ := texts f hf
    rw [List.findIdx_map, hkey]
    simp only [Function.comp_def, sameKey_text]
  refine (Scalar.distinct_ordered _).imp_of_mem fun {k l} hk hl hlt => ?_
  rwa [hidx k hk, hidx l hl] at hlt

theorem functionsIn_eq (k : Scalar) : c.functionsIn k = c.functions.filter (·.category = k) := by
  refine List.filter_congr fun f hf => decide_eq_decide.2 ?_
  obtain ⟨key, hkey⟩ := texts f hf
  rw [Scalar.Equals, sameKey_iff_eq ⟨key, hkey⟩, hkey]
  simp

theorem partitioned : c.Partitioned where
  distinct := (categories_ordered texts).imp fun {k l} hlt heq => by
    rw [heq] at hlt
    exact Nat.lt_irrefl _ hlt
  given k := mem_categories texts
  ordered := categories_ordered texts
  unique f hf := by
    obtain ⟨key, hkey⟩ := texts f hf
    exact (existsUnique_category_iff hf).2 (by simp [hkey])
  inOrder := functionsIn_eq texts
  others k hk := by
    rw [functionsIn_eq texts, List.filter_eq_nil_iff]
    exact fun f hf heq => hk ((mem_categories texts).2 ⟨f, hf, by simpa using heq⟩)

end Texts

/-- A function of a document whose category is an undefined number. -/
def uncategorized : List (Scalar × Data) :=
  [(.text "functions", .map [(.float .undefined, .map [(.text "id", .scalar (.text "a -> a"))])])]

/-- Categories that are no texts need not partition the functions of a catalogue. -/
theorem not_partitioned_uncategorized : ∃ cs, Begun ∅ cs (requests uncategorized) ∧
    cs.1.categories = [.float .undefined] ∧ cs.1.functionsIn (.float .undefined) = [] ∧ ¬ cs.1.Partitioned := by
  have hmade : (ofEntries ∅ uncategorized).toOption.map
      (fun cs => (cs.1.categories, cs.1.functionsIn (.float .undefined))) = some ([.float .undefined], []) := by
    decide +kernel
  cases hcs : ofEntries ∅ uncategorized with
  | error e =>
    rw [hcs] at hmade
    cases hmade
  | ok cs =>
    rw [hcs] at hmade
    obtain ⟨hcategories, hin⟩ := Prod.mk.inj (Option.some.inj hmade)
    refine ⟨cs, .loaded hcs, hcategories, hin, fun h => ?_⟩
    obtain ⟨f, hf, hcategory⟩ := (h.given (.float .undefined)).1 (by simp [hcategories])
    exact (existsUnique_category_iff hf).1 (h.unique f hf) hcategory

/-! ## Catalogues that have begun -/

/-- What is asked for has texts for its name and its category. -/
def Act.HasTexts : Act → Prop
  | .add r => (∃ key, r.name = .text key) ∧ ∃ key, r.category = .text key
  | .elsewhere _ => True

instance : (a : Act) → Decidable a.HasTexts
  | .add r => inferInstanceAs (Decidable ((∃ key, r.name = .text key) ∧ ∃ key, r.category = .text key))
  | .elsewhere _ => inferInstanceAs (Decidable True)

/-- Whatever was asked for since a catalogue began, where names and categories are texts: the functions are those
that were added, in their order and with the names and categories that were asked for. No two have one name, and
a name leads to the function that was added first under it. The categories partition them. Another function
cannot be added if its name is taken or its text is not that of a signature, and then nothing changes. -/
theorem Begun.categories_partition {first : List Request} (begun : Begun s₀ cs first) (acts : List Act)
    (texts : ∀ a ∈ first.map Act.add ++ acts, a.HasTexts) :
    let history := first.map .add ++ acts
    let later := run cs acts
    let added := addedAt (⟨cs.1.classes, []⟩, s₀) history
    later.1.classes = cs.1.classes ∧
    later.1.functions = (List.range history.length).filterMap added ∧
    (∀ i f, added i = some f → ∃ r, history[i]? = some (.add r) ∧ f.name = r.name ∧ f.category = r.category) ∧
    (later.1.functions.map (·.name)).Nodup ∧
    (∀ name f, later.1.lookup name = .ok f ↔ ∃ i, added i = some f ∧ f.name = .text name ∧
      ∀ j < i, ∀ g, added j = some g → g.name ≠ .text name) ∧
    later.1.Partitioned ∧
    ∀ r, (added? later (.add r) = none ↔
        (∃ f ∈ later.1.functions, f.name = r.name) ∨ ¬ Readable later.1.signatureClasses r.text) ∧
      (added? later (.add r) = none → step later (.add r) = later) := by
  intro history later added
  have hrun : run (⟨cs.1.classes, []⟩, s₀) history = later := by
    rw [run, List.foldl_append]
    exact congrArg (run · acts) begun.eq_run
  have hmade := run_functions (⟨cs.1.classes, []⟩, s₀) history
  rw [hrun] at hmade
  have hfunctions : later.1.functions = (List.range history.length).filterMap added := by
    rw [hmade]
    exact List.nil_append _
  have htexts : ∀ f ∈ later.1.functions, (∃ key, f.name = .text key) ∧ ∃ key, f.category = .text key := by
    intro f hf
    rw [hfunctions] at hf
    obtain ⟨i, -, hi⟩ := List.mem_filterMap.1 hf
    obtain ⟨r, hr, hname, hcategory⟩ := addedAt_eq_some hi
    rw [hname, hcategory]
    exact texts _ (List.mem_of_getElem? hr)
  have hnone : (⟨cs.1.classes, []⟩ : Catalog).Apart := .nil
  have hapart : later.1.Apart := by
    rw [← hrun]
    exact Apart.run hnone history
  refine ⟨by rw [hmade], hfunctions, fun i f hf => addedAt_eq_some hf, ?_, fun name f => ?_,
    Catalog.partitioned fun f hf => (htexts f hf).2, fun r => ⟨?_, step_of_added?_eq_none⟩⟩
  · exact List.pairwise_map.2 (hapart.imp fun {f g} hne heq => hne (congrArg Scalar.asKey heq))
  · rw [lookup_eq_ok_iff, find?_eq_some_iff hfunctions]
    simp only [sameKey_text]
    rfl
  · rw [added?_eq_none_iff, ← Option.isSome_iff_exists, find?, List.find?_isSome]
    simp only [decide_eq_true_iff]
    refine or_congr (exists_congr fun f => and_congr_right fun hf => ?_) Iff.rfl
    exact sameKey_iff_eq (htexts f hf).1

/-- Functions of two categories are added in turns, and between them a name is asked for that is taken, a
number is given in place of a signature, and a class is named that there is not. -/
theorem categories_partition_turns :
    let text : String → Data := fun t => .scalar (.text t)
    let acts : List Act :=
      [.add ⟨"not", "Logic", text "Bool -> Bool"⟩, .add ⟨"id", "Functions", text "a -> a"⟩,
        .add ⟨"not", "Functions", text "a -> b"⟩, .add ⟨"five", "Numbers", .scalar (.int 5)⟩,
        .add ⟨"same", "Logic", text "Eq a => a -> a -> Bool"⟩, .add ⟨"(&&)", "Logic", text "Bool -> Bool -> Bool"⟩]
    let later := run (∅, ∅) acts
    Begun ∅ (∅, ∅) [] ∧ (∀ a ∈ acts, a.HasTexts) ∧ later.1.Partitioned ∧
      later.1.functions = (List.range 6).filterMap (addedAt (∅, ∅) acts) ∧
      later.1.functions.map (·.name) = ["not", "id", "(&&)"] ∧ later.1.categories = ["Logic", "Functions"] ∧
      (later.1.functionsIn "Logic").map (·.name) = ["not", "(&&)"] ∧ later.1.functionsIn "Numbers" = [] := by
  intro text acts later
  have texts : ∀ a ∈ acts, a.HasTexts := by decide +kernel
  obtain ⟨-, hfunctions, -, -, -, hparts, -⟩ :=
    Begun.categories_partition (.empty : Begun ∅ (∅, ∅) []) acts texts
  exact ⟨.empty, texts, hparts, hfunctions, by decide +kernel, by decide +kernel, by decide +kernel,
    by decide +kernel⟩

end Catalog

end BlockTypes
