import BlockTypes.Proofs.Catalog.Requests

/-!
# Documents that describe a catalogue

A catalogue is built from a document in one pass: its classes first, and then its functions, one after the
other. `IsDocument` says what a document has to be for that, part by part and without an order. The functions
of all categories are one list of requests, and the pass over them is `addEach`.
-/

namespace BlockTypes

open Config (Scalar Data)

/-- The entries of a value that is a mapping, or null for a mapping without entries. -/
def Config.Data.entries? (d : Data) : Option (List (Scalar × Data)) :=
  match d.opened with
  | .scalar .null => some []
  | .map entries => some entries
  | _ => none

namespace Catalog

variable {c c' : Catalog} {s s' : Store} {entries functions : List (Scalar × Data)}

/-- The entries of a section; one that is left out has none. -/
def sectionOf (entries : List (Scalar × Data)) (name : String) : List (Scalar × Data) :=
  (Data.get entries (.text name)).entries?.getD []

theorem sectionOf_eq {name : String} {parts : List (Scalar × Data)}
    (h : (Data.get entries (.text name)).entries? = some parts) : sectionOf entries name = parts := by
  rw [sectionOf, h, Option.getD_some]

/-- The functions of all categories in their order. -/
def requestsOf (functions : List (Scalar × Data)) : List Request :=
  functions.flatMap fun category =>
    (category.2.entries?.getD []).map fun function => ⟨function.1, category.1, function.2⟩

/-- The functions of a document in their order. -/
def requests (entries : List (Scalar × Data)) : List Request := requestsOf (sectionOf entries "functions")

/-- The classes of a document by name. -/
def classTable (entries : List (Scalar × Data)) : Signature.Classes := fun name =>
  ((sectionOf entries "classes").lookup (.text name)).bind fun members =>
    members.texts?.map fun names => ⟨name, .ofList names⟩

/-- The keys are texts, and each stands once. -/
structure Keyed (entries : List (Scalar × Data)) : Prop where
  texts : ∀ e ∈ entries, ∃ key, e.1 = .text key
  distinct : (entries.map (·.1)).Nodup

instance (k : Scalar) : Decidable (∃ key, k = .text key) :=
  match k with
  | .text key => .isTrue ⟨key, rfl⟩
  | .null | .bool _ | .int _ | .float _ | .date _ | .moment _ | .bytes _ => .isFalse (by simp)

instance : Decidable (Keyed entries) :=
  decidable_of_iff ((∀ e ∈ entries, ∃ key, e.1 = .text key) ∧ (entries.map (·.1)).Nodup)
    ⟨fun h => ⟨h.1, h.2⟩, fun h => ⟨h.texts, h.distinct⟩⟩

/-- The keys are texts that stand once, in a mapping and in those inside of it, `depth` levels in all. -/
def KeyedTo : (depth : Nat) → List (Scalar × Data) → Prop
  | 0, _ => True
  | depth + 1, entries => Keyed entries ∧ ∀ e ∈ entries, ∀ parts ∈ e.2.entries?, KeyedTo depth parts

instance decidableKeyedTo : (depth : Nat) → (entries : List (Scalar × Data)) → Decidable (KeyedTo depth entries)
  | 0, _ => .isTrue trivial
  | depth + 1, entries =>
    have := decidableKeyedTo depth
    inferInstanceAs (Decidable (Keyed entries ∧ ∀ e ∈ entries, ∀ parts ∈ e.2.entries?, KeyedTo depth parts))

/-- All keys are names of sections. -/
def Known (entries : List (Scalar × Data)) : Prop :=
  ∀ e ∈ entries, e.1 = .text "classes" ∨ e.1 = .text "functions"

/-- What a document has to be for a catalogue to be made of it. -/
structure IsDocument (entries : List (Scalar × Data)) : Prop where
  sections : Known entries
  mappings : ∀ e ∈ entries, ∃ parts, e.2.entries? = some parts
  instances : ∀ e ∈ sectionOf entries "classes",
    ∃ names : List WideText, e.2.opened = .list (names.map fun name => .scalar (.text name))
  categories : ∀ e ∈ sectionOf entries "functions", ∃ parts, e.2.entries? = some parts
  signatures : ∀ r ∈ requests entries, Readable (classTable entries) r.text
  apart : (sectionOf entries "functions").Pairwise fun a b =>
    ∀ f ∈ a.2.entries?.getD [], ∀ g ∈ b.2.entries?.getD [], f.1 ≠ g.1

/-! ## Categories -/

theorem part_eq_ok_iff {error : Error} {d : Data} {parts : List (Scalar × Data)} :
    part error d = .ok parts ↔ d.entries? = some parts := by
  unfold part Data.entries?
  generalize d.opened = shape
  split <;> simp

theorem part_error {error e : Error} {d : Data} (h : part error d = .error e) : e = error := by
  unfold part at h
  split at h
  · cases h
  · cases h
  · cases h
    rfl

theorem addAll_eq (category : Scalar) (cs : Catalog × Store) (functions : List (Scalar × Data)) :
    addAll category cs functions = addEach cs (functions.map fun f => ⟨f.1, category, f.2⟩) := by
  induction functions generalizing cs with
  | nil => rfl
  | cons f rest ih =>
    obtain ⟨c, s⟩ := cs
    rw [addAll, List.map_cons, addEach]
    cases c.add s f.1 category f.2 with
    | error e => rfl
    | ok made => exact ih _

theorem requestsOf_cons {category : Scalar} {d : Data} {parts : List (Scalar × Data)}
    (h : d.entries? = some parts) (rest : List (Scalar × Data)) :
    requestsOf ((category, d) :: rest) = (parts.map fun f => ⟨f.1, category, f.2⟩) ++ requestsOf rest := by
  simp [requestsOf, h]

theorem addCategories_eq_ok_iff {cs cs' : Catalog × Store} :
    addCategories cs functions = .ok cs' ↔
      (∀ e ∈ functions, ∃ parts, e.2.entries? = some parts) ∧ addEach cs (requestsOf functions) = .ok cs' := by
  induction functions generalizing cs with
  | nil => simp [addCategories, requestsOf, addEach]
  | cons e rest ih =>
    obtain ⟨category, d⟩ := e
    rw [addCategories]
    cases hpart : part (.categoryNotMapping category) d with
    | error error =>
      refine iff_of_false (by simp) fun h => ?_
      obtain ⟨parts, hparts⟩ := h.1 _ List.mem_cons_self
      rw [part_eq_ok_iff.2 hparts] at hpart
      cases hpart
    | ok parts =>
      have hparts := part_eq_ok_iff.1 hpart
      dsimp only
      rw [requestsOf_cons hparts, addEach_append_eq_ok_iff, ← addAll_eq, List.forall_mem_cons]
      cases hall : addAll category cs parts with
      | error error => simp
      | ok mid => simp [ih, hparts]

theorem addCategories_error {cs : Catalog × Store} {e : Error} (h : addCategories cs functions = .error e) :
    e.IsOwn ∨ ∃ r ∈ requestsOf functions, ∃ c' s', add c' s' r.name r.category r.text = .error e := by
  induction functions generalizing cs with
  | nil => cases h
  | cons entry rest ih =>
    obtain ⟨category, d⟩ := entry
    rw [addCategories] at h
    split at h
    · rename_i hpart
      cases h
      rw [part_error hpart]
      exact .inl trivial
    · rename_i parts hpart
      rw [requestsOf_cons (part_eq_ok_iff.1 hpart)]
      split at h
      · rename_i hall
        cases h
        rw [addAll_eq] at hall
        obtain ⟨r, hr, failed⟩ := addEach_error hall
        exact .inr ⟨r, List.mem_append_left _ hr, failed⟩
      · rcases ih h with own | ⟨r, hr, failed⟩
        · exact .inl own
        · exact .inr ⟨r, List.mem_append_right _ hr, failed⟩

/-! ## Classes -/

theorem texts?_list_eq_some_iff {items : List Data} {names : List WideText} :
    (Data.list items).texts? = some names ↔ items = names.map fun name => .scalar (.text name) := by
  unfold Data.texts? Data.opened
  dsimp only
  induction items generalizing names with
  | nil => cases names <;> simp
  | cons item rest ih =>
    rw [List.mapM_cons]
    constructor
    · intro h
      obtain ⟨name, hname, h⟩ := Option.bind_eq_some_iff.1 h
      obtain ⟨more, hmore, hnames⟩ := Option.bind_eq_some_iff.1 h
      cases hnames
      split at hname
      · cases hname
        rw [ih.1 hmore, List.map_cons]
      · cases hname
    · intro hitems
      cases names with
      | nil => cases hitems
      | cons first names =>
        obtain ⟨rfl, hrest⟩ := List.cons.inj hitems
        simp [ih.2 hrest]

theorem texts?_eq_some_iff {d : Data} {names : List WideText} :
    d.texts? = some names ↔ d.opened = .list (names.map fun name => .scalar (.text name)) := by
  cases hopened : d.opened with
  | list items =>
    have hlist : d.texts? = (Data.list items).texts? := by
      unfold Data.texts?
      rw [hopened]
      rfl
    rw [hlist, texts?_list_eq_some_iff, Data.list.injEq]
  | _ => simp [Data.texts?, hopened]

/-- The class is what is read from the entry. -/
def ReadsTo (entry : Scalar × Data) (made : Scalar × TypeClass) : Prop := readClass entry = .ok made

theorem readClass_eq_ok_iff {entry : Scalar × Data} {made : Scalar × TypeClass} :
    readClass entry = .ok made ↔
      ∃ names, entry.2.texts? = some names ∧ made = (entry.1, ⟨entry.1.written, .ofList names⟩) := by
  unfold readClass
  cases entry.2.texts? with
  | none => simp
  | some names => simp [eq_comm]

theorem readClass_error {entry : Scalar × Data} {e : Error} (h : readClass entry = .error e) : e.IsOwn := by
  unfold readClass at h
  split at h
  · cases h
  · cases h
    trivial

theorem mapM_readClass_eq_ok_iff {classes : List (Scalar × Data)} {table : List (Scalar × TypeClass)} :
    classes.mapM readClass = .ok table ↔ List.Forall₂ ReadsTo classes table := by
  induction classes generalizing table with
  | nil => cases table <;> simp [pure, Except.pure]
  | cons entry rest ih =>
    rw [List.mapM_cons]
    cases h : readClass entry with
    | error e => cases table <;> simp [bind, Except.bind, ReadsTo, h]
    | ok made =>
      cases hrest : rest.mapM readClass with
      | error e => cases table <;> simp [bind, Except.bind, ReadsTo, h, ← ih, hrest]
      | ok more => cases table <;> simp [bind, Except.bind, pure, Except.pure, ReadsTo, h, ← ih, hrest]

theorem mapM_readClass_error {classes : List (Scalar × Data)} {e : Error}
    (h : classes.mapM readClass = .error e) : e.IsOwn := by
  induction classes with
  | nil => cases h
  | cons entry rest ih =>
    rw [List.mapM_cons] at h
    cases hentry : readClass entry with
    | error e' =>
      rw [hentry] at h
      cases h
      exact readClass_error hentry
    | ok made =>
      cases hrest : rest.mapM readClass with
      | error e' =>
        rw [hentry, hrest] at h
        cases h
        exact ih hrest
      | ok more =>
        rw [hentry, hrest] at h
        cases h

/-- The class table of a catalogue is that of the document it was read from. -/
theorem lookup_table {classes : List (Scalar × Data)} {table : List (Scalar × TypeClass)}
    (h : List.Forall₂ ReadsTo classes table) (name : String) :
    table.lookup (.text name) = (classes.lookup (.text name)).bind fun members =>
      members.texts?.map fun names => ⟨name, .ofList names⟩ := by
  induction h with
  | nil => rfl
  | @cons entry made classes table hentry _ ih =>
    obtain ⟨key, members⟩ := entry
    obtain ⟨names, hnames, rfl⟩ := readClass_eq_ok_iff.1 hentry
    by_cases hkey : Scalar.text name = key
    · subst hkey
      simp [hnames, Scalar.written]
    · rw [List.lookup_cons, List.lookup_cons, beq_false_of_ne hkey]
      exact ih

/-! ## Keys -/

theorem lookup_eq_some_iff_mem (h : (entries.map (·.1)).Nodup) {key : Scalar} {d : Data} :
    entries.lookup key = some d ↔ (key, d) ∈ entries := by
  induction entries with
  | nil => simp
  | cons e rest ih =>
    obtain ⟨k, x⟩ := e
    obtain ⟨hnew, hrest⟩ := List.nodup_cons.1 h
    by_cases hk : key = k
    · subst hk
      have hnot : (key, d) ∉ rest := fun hmem => hnew (List.mem_map.2 ⟨_, hmem, rfl⟩)
      simp [hnot, eq_comm]
    · rw [List.lookup_cons, beq_false_of_ne hk, ih hrest]
      simp [hk]

/-- What a mapping has under a key does not depend on the order of its entries. -/
theorem get_of_perm {entries' : List (Scalar × Data)} (h : (entries.map (·.1)).Nodup)
    (hp : entries'.Perm entries) (key : Scalar) : Data.get entries' key = Data.get entries key := by
  have h' : (entries'.map (·.1)).Nodup := (hp.map _).nodup_iff.2 h
  have hlookup : entries'.lookup key = entries.lookup key := by
    refine Option.ext fun d => ?_
    rw [lookup_eq_some_iff_mem h', lookup_eq_some_iff_mem h, hp.mem_iff]
  rw [Data.get, Data.get, hlookup]

theorem get_eq_of_mem (h : (entries.map (·.1)).Nodup) {e : Scalar × Data} (he : e ∈ entries) :
    Data.get entries e.1 = e.2 := by
  rw [Data.get, (lookup_eq_some_iff_mem h).2 he, Option.getD_some]

/-- A section is left out, or it is the value of an entry. -/
theorem get_cases (h : (entries.map (·.1)).Nodup) (key : Scalar) :
    Data.get entries key = .scalar .null ∨ (key, Data.get entries key) ∈ entries := by
  unfold Data.get
  cases hd : entries.lookup key with
  | none => exact .inl rfl
  | some d => exact .inr ((lookup_eq_some_iff_mem h).1 hd)

theorem ranked?_texts {keys : List Scalar} (h : ∀ k ∈ keys, ∃ key, k = .text key) :
    ∃ ranked, Scalar.ranked? keys = some ranked ∧ ∀ r ∈ ranked, ∃ codes, r.1 = .text codes := by
  induction keys with
  | nil => exact ⟨[], rfl, by simp⟩
  | cons k rest ih =>
    obtain ⟨⟨key, rfl⟩, hrest⟩ := List.forall_mem_cons.1 h
    obtain ⟨ranked, hranked, htexts⟩ := ih hrest
    refine ⟨(.text (key.points.map CodePoint.number), .text key) :: ranked, ?_, ?_⟩
    · simp [Scalar.ranked?, Scalar.rank?, hranked]
    · exact List.forall_mem_cons.2 ⟨⟨_, rfl⟩, htexts⟩

/-- Texts can be compared with each other, and so be sorted. -/
theorem sorted?_texts {keys : List Scalar} (h : ∀ k ∈ keys, ∃ key, k = .text key) :
    ∃ sorted, Scalar.sorted? keys = some sorted := by
  obtain ⟨ranked, hranked, htexts⟩ := ranked?_texts h
  have hall : (ranked.all fun a => ranked.all fun b => (a.1.before? b.1).isSome) = true := by
    simp only [List.all_eq_true]
    intro a ha b hb
    obtain ⟨codes, hcodes⟩ := htexts a ha
    obtain ⟨codes', hcodes'⟩ := htexts b hb
    rw [hcodes, hcodes']
    rfl
  unfold Scalar.sorted?
  split
  · exact ⟨_, rfl⟩
  · rw [hranked, Option.bind_some, if_pos hall]
    exact ⟨_, rfl⟩

/-! ## Whole documents -/

theorem unknownKeys_eq_nil_iff :
    Config.unknownKeys entries ["classes", "functions"] = [] ↔ Known entries := by
  unfold Config.unknownKeys Known
  rw [List.filter_eq_nil_iff, List.forall_mem_map]
  refine forall₂_congr fun e _ => ?_
  simp [@eq_comm _ e.1, or_iff_not_imp_left]

theorem ofEntries_known (known : Known entries) (s : Store) :
    ofEntries s entries = (do
      let classes ← part (.sectionNotMapping "classes") (Data.get entries (.text "classes"))
      let table ← classes.mapM readClass
      let functions ← part (.sectionNotMapping "functions") (Data.get entries (.text "functions"))
      addCategories (⟨table, []⟩, s) functions) := by
  unfold ofEntries
  rw [unknownKeys_eq_nil_iff.2 known]
  rfl

theorem known_of_ofEntries {made : Catalog × Store} (h : ofEntries s entries = .ok made) : Known entries := by
  rw [← unknownKeys_eq_nil_iff, ← List.isEmpty_iff]
  by_contra hne
  unfold ofEntries at h
  rw [Bool.not_eq_true] at hne
  simp only [hne] at h
  cases hsorted : Scalar.sorted? (Config.unknownKeys entries ["classes", "functions"]) with
  | some keys =>
    rw [hsorted] at h
    cases h
  | none =>
    rw [hsorted] at h
    cases h

theorem ofEntries_unknown (unknown : ¬ Known entries) (keyed : Keyed entries) (s : Store) :
    ∃ e, ofEntries s entries = .error e ∧ e.IsOwn := by
  have hkeys : ∀ k ∈ Config.unknownKeys entries ["classes", "functions"], ∃ key, k = .text key := by
    intro k hk
    obtain ⟨e, he, rfl⟩ := List.mem_map.1 (List.mem_filter.1 hk).1
    exact keyed.texts e he
  obtain ⟨sorted, hsorted⟩ := sorted?_texts hkeys
  refine ⟨.unknownSections sorted, ?_, trivial⟩
  have hne : (Config.unknownKeys entries ["classes", "functions"]).isEmpty = false :=
    List.isEmpty_eq_false_iff.2 (mt unknownKeys_eq_nil_iff.1 unknown)
  unfold ofEntries
  simp only [hne, hsorted]
  rfl

theorem ofEntries_eq_ok_iff (known : Known entries) {cs : Catalog × Store} :
    ofEntries s entries = .ok cs ↔
      ∃ classes functions table, (Data.get entries (.text "classes")).entries? = some classes ∧
        (Data.get entries (.text "functions")).entries? = some functions ∧
        List.Forall₂ ReadsTo classes table ∧
        (∀ e ∈ functions, ∃ parts, e.2.entries? = some parts) ∧
        addEach (⟨table, []⟩, s) (requestsOf functions) = .ok cs := by
  rw [ofEntries_known known]
  constructor
  · intro h
    obtain ⟨classes, hclasses, h⟩ := exists_of_bind_ok h
    obtain ⟨table, htable, h⟩ := exists_of_bind_ok h
    obtain ⟨functions, hfunctions, h⟩ := exists_of_bind_ok h
    obtain ⟨hcategories, h⟩ := addCategories_eq_ok_iff.1 h
    exact ⟨classes, functions, table, part_eq_ok_iff.1 hclasses, part_eq_ok_iff.1 hfunctions,
      mapM_readClass_eq_ok_iff.1 htable, hcategories, h⟩
  · rintro ⟨classes, functions, table, hclasses, hfunctions, htable, hcategories, h⟩
    rw [part_eq_ok_iff.2 hclasses, part_eq_ok_iff.2 hfunctions]
    show (classes.mapM readClass >>= fun table => addCategories (⟨table, []⟩, s) functions) = _
    rw [mapM_readClass_eq_ok_iff.2 htable]
    exact addCategories_eq_ok_iff.2 ⟨hcategories, h⟩

theorem error_of_bind {ε α β : Type} {x : Except ε α} {next : α → Except ε β} {e : ε}
    (h : x >>= next = .error e) : x = .error e ∨ ∃ a, x = .ok a ∧ next a = .error e := by
  cases x with
  | error e' =>
    cases h
    exact .inl rfl
  | ok a => exact .inr ⟨a, rfl, h⟩

theorem ofEntries_error (known : Known entries) {e : Error} (h : ofEntries s entries = .error e) :
    e.IsOwn ∨ ∃ r ∈ requests entries, ∃ c' s', add c' s' r.name r.category r.text = .error e := by
  rw [ofEntries_known known] at h
  rcases error_of_bind h with hclasses | ⟨classes, -, h⟩
  · rw [part_error hclasses]
    exact .inl trivial
  rcases error_of_bind h with htable | ⟨table, -, h⟩
  · exact .inl (mapM_readClass_error htable)
  rcases error_of_bind h with hfunctions | ⟨functions, hfunctions, h⟩
  · rw [part_error hfunctions]
    exact .inl trivial
  · rw [requests, sectionOf_eq (part_eq_ok_iff.1 hfunctions)]
    exact addCategories_error h

theorem ofEntries_perm {entries' : List (Scalar × Data)} (known : Known entries) (keyed : Keyed entries)
    (hp : entries'.Perm entries) (s : Store) : ofEntries s entries' = ofEntries s entries := by
  have known' : Known entries' := fun e he => known e (hp.mem_iff.1 he)
  rw [ofEntries_known known, ofEntries_known known', get_of_perm keyed.distinct hp,
    get_of_perm keyed.distinct hp]

/-! ## Names in categories -/

theorem sameKey_text {k : Scalar} {key : WideText} : k.SameKey (.text key) ↔ k = .text key :=
  Scalar.asKey_eq_text

theorem sameKey_iff_eq {k l : Scalar} (h : ∃ key, k = .text key) : k.SameKey l ↔ k = l := by
  obtain ⟨key, rfl⟩ := h
  exact ⟨fun hsame => (sameKey_text.1 (Eq.symm hsame)).symm, fun heq => congrArg Scalar.asKey heq⟩

/-- In categories whose keys are texts, all names differ if and only if no name is in two categories. -/
theorem requestsOf_apart_iff (keyed : KeyedTo 2 functions) :
    (requestsOf functions).Pairwise (fun r r' => ¬ r.name.SameKey r'.name) ↔
      functions.Pairwise fun a b =>
        ∀ f ∈ a.2.entries?.getD [], ∀ g ∈ b.2.entries?.getD [], f.1 ≠ g.1 := by
  have hparts : ∀ e ∈ functions, Keyed (e.2.entries?.getD []) := by
    intro e he
    cases hentries : e.2.entries? with
    | none => exact ⟨by simp, by simp⟩
    | some parts => exact (keyed.2 e he parts hentries).1
  have hdiffer : ∀ e ∈ functions, ∀ f ∈ e.2.entries?.getD [], ∀ g : Scalar,
      ¬ f.1.SameKey g ↔ f.1 ≠ g := fun e he f hf g =>
    not_congr (sameKey_iff_eq ((hparts e he).texts f hf))
  rw [requestsOf, List.pairwise_flatMap]
  constructor
  · rintro ⟨-, h⟩
    refine h.imp_of_mem fun {a b} ha _ hab f hf g hg => (hdiffer a ha f hf g.1).1 ?_
    exact hab ⟨f.1, a.1, f.2⟩ (List.mem_map.2 ⟨f, hf, rfl⟩) ⟨g.1, b.1, g.2⟩ (List.mem_map.2 ⟨g, hg, rfl⟩)
  · intro h
    refine ⟨fun e he => ?_, h.imp_of_mem fun {a b} ha _ hab r hr r' hr' => ?_⟩
    · rw [List.pairwise_map]
      have hnodup := List.pairwise_map.1 (hparts e he).distinct
      exact hnodup.imp_of_mem fun {f g} hf _ hfg => (hdiffer e he f hf g.1).2 hfg
    · obtain ⟨f, hf, rfl⟩ := List.mem_map.1 hr
      obtain ⟨g, hg, rfl⟩ := List.mem_map.1 hr'
      exact (hdiffer a ha f hf g.1).2 (hab f hf g hg)

/-! ## What is accepted, and what comes of it -/

theorem exists_entries?_iff (known : Known entries) (keyed : Keyed entries) :
    (∀ e ∈ entries, ∃ parts, e.2.entries? = some parts) ↔
      (∃ parts, (Data.get entries (.text "classes")).entries? = some parts) ∧
        ∃ parts, (Data.get entries (.text "functions")).entries? = some parts := by
  constructor
  · intro h
    have hsection : ∀ key : Scalar, ∃ parts, (Data.get entries key).entries? = some parts := by
      intro key
      rcases get_cases keyed.distinct key with hnull | hmem
      · rw [hnull]
        exact ⟨[], rfl⟩
      · exact h _ hmem
    exact ⟨hsection _, hsection _⟩
  · rintro ⟨hclasses, hfunctions⟩ e he
    rw [← get_eq_of_mem keyed.distinct he]
    rcases known e he with hkey | hkey
    · rw [hkey]
      exact hclasses
    · rw [hkey]
      exact hfunctions

/-- Each class has its list of instances if and only if the classes can be read. -/
theorem exists_table_iff {classes : List (Scalar × Data)} :
    (∃ table, List.Forall₂ ReadsTo classes table) ↔
      ∀ e ∈ classes, ∃ names : List WideText, e.2.opened = .list (names.map fun name => .scalar (.text name)) := by
  constructor
  · rintro ⟨table, htable⟩
    induction htable with
    | nil => simp
    | cons hmade _ ih =>
      obtain ⟨names, hnames, -⟩ := readClass_eq_ok_iff.1 hmade
      exact List.forall_mem_cons.2 ⟨⟨names, texts?_eq_some_iff.1 hnames⟩, ih⟩
  · intro h
    induction classes with
    | nil => exact ⟨[], .nil⟩
    | cons e rest ih =>
      obtain ⟨⟨names, hopened⟩, hrest⟩ := List.forall_mem_cons.1 h
      obtain ⟨table, htable⟩ := ih hrest
      have hnames := texts?_eq_some_iff.2 hopened
      exact ⟨_ :: table, .cons (readClass_eq_ok_iff.2 ⟨names, hnames, rfl⟩) htable⟩

/-- The catalogue that was read has the class table of its document. -/
theorem signatureClasses_eq {classes : List (Scalar × Data)} {table : List (Scalar × TypeClass)}
    (hclasses : (Data.get entries (.text "classes")).entries? = some classes)
    (htable : List.Forall₂ ReadsTo classes table)
    (functions : List FunctionInfo) : (⟨table, functions⟩ : Catalog).signatureClasses = classTable entries := by
  funext name
  rw [classTable, sectionOf_eq hclasses, ← lookup_table htable]
  rfl

theorem exists_ofEntries_iff (keyed : KeyedTo 3 entries) :
    (∃ made, ofEntries s entries = .ok made) ↔ IsDocument entries := by
  have hsections : ∀ key parts, (Data.get entries key).entries? = some parts → KeyedTo 2 parts := by
    intro key parts hparts
    rcases get_cases keyed.1.distinct key with hnull | hmem
    · rw [hnull] at hparts
      cases hparts
      exact ⟨⟨by simp, by simp⟩, by simp⟩
    · exact keyed.2 _ hmem parts hparts
  constructor
  · rintro ⟨made, h⟩
    have known := known_of_ofEntries h
    obtain ⟨classes, functions, table, hclasses, hfunctions, htable, hcategories, hadded⟩ :=
      (ofEntries_eq_ok_iff known).1 h
    have haddable := exists_addEach_iff.1 ⟨made, hadded⟩
    have hreadable := haddable.readable
    rw [signatureClasses_eq hclasses htable] at hreadable
    have hsection := sectionOf_eq hfunctions
    refine ⟨known, ?_, ?_, ?_, ?_, ?_⟩
    · exact (exists_entries?_iff known keyed.1).2 ⟨⟨classes, hclasses⟩, ⟨functions, hfunctions⟩⟩
    · rw [sectionOf_eq hclasses]
      exact exists_table_iff.1 ⟨table, htable⟩
    · rwa [hsection]
    · rwa [requests, hsection]
    · rw [hsection]
      exact (requestsOf_apart_iff (hsections _ _ hfunctions)).1 haddable.apart
  · intro h
    obtain ⟨⟨classes, hclasses⟩, ⟨functions, hfunctions⟩⟩ :=
      (exists_entries?_iff h.sections keyed.1).1 h.mappings
    have hinstances := h.instances
    rw [sectionOf_eq hclasses] at hinstances
    obtain ⟨table, htable⟩ := exists_table_iff.2 hinstances
    have hcategories := h.categories
    have hsignatures := h.signatures
    have hapart := h.apart
    rw [requests] at hsignatures
    rw [sectionOf_eq hfunctions] at hcategories hsignatures hapart
    -- No name is taken at the start, so that only names of the document itself can be in the way.
    have haddable : Addable ⟨table, []⟩ (requestsOf functions) :=
      ⟨by rwa [signatureClasses_eq hclasses htable], fun r _ => rfl,
        (requestsOf_apart_iff (hsections _ _ hfunctions)).2 hapart⟩
    obtain ⟨made, hadded⟩ := exists_addEach_iff.2 haddable
    exact ⟨made, (ofEntries_eq_ok_iff h.sections).2
      ⟨classes, functions, table, hclasses, hfunctions, htable, hcategories, hadded⟩⟩

/-- The class has the name of its entry, and exactly the instances that are listed there. -/
structure Enrolled (entry : Scalar × Data) (made : Scalar × TypeClass) : Prop where
  key : made.1 = entry.1
  name : made.2.name = entry.1.written
  instances : ∃ names : List WideText, entry.2.opened = .list (names.map fun name => .scalar (.text name)) ∧
    ∀ con, made.2.Admits con ↔ con ∈ names

theorem readClass_enrolled {entry : Scalar × Data} {made : Scalar × TypeClass}
    (h : readClass entry = .ok made) : Enrolled entry made := by
  obtain ⟨names, hnames, rfl⟩ := readClass_eq_ok_iff.1 h
  exact ⟨rfl, rfl, names, texts?_eq_some_iff.1 hnames, fun con => SortedSet.mem_ofList⟩

/-- The classes that constrain a variable of a signature are those of the table. -/
theorem Filed.known {classes : Signature.Classes} {r : Request} {f : FunctionInfo}
    (h : Filed classes s s' r f) {v : TypeVar} (hv : v ∈ f.signature.vars) {k : TypeClass}
    (hk : k ∈ s'.constraints v.cell) : ∃ name, classes name = some k := by
  obtain ⟨written, sig, before, -, hread, -, hsig, hafter⟩ := h.signature
  have denotes := sig.build_denotes before
  rw [hsig] at denotes
  rw [hafter.constraints _ (denotes.new v hv).2, denotes.constraints v hv] at hk
  obtain ⟨ts, -, d, -, rfl⟩ := Signature.readWide_eq_ok_iff.1 hread
  obtain ⟨a, -, -, known⟩ := Signature.SignatureTree.mem_constraintsOn.1 hk
  exact ⟨a.name, known⟩

theorem classTable_name {name : String} {k : TypeClass} (h : classTable entries name = some k) :
    k.name = name := by
  obtain ⟨members, -, h⟩ := Option.bind_eq_some_iff.1 h
  obtain ⟨names, -, rfl⟩ := Option.map_eq_some_iff.1 h
  rfl

/-- What is made of a document: its classes and its functions in their order, constrained by its classes only. -/
theorem ofEntries_makes (h : ofEntries s entries = .ok (c, s')) :
    List.Forall₂ Enrolled (sectionOf entries "classes") c.classes ∧
      List.Forall₂ (Filed (classTable entries) s s') (requests entries) c.functions ∧
      ∀ f ∈ c.functions, ∀ v ∈ f.signature.vars, ∀ k ∈ s'.constraints v.cell,
        c.class? (.text k.name) = some k := by
  obtain ⟨classes, functions, table, hclasses, hfunctions, htable, -, hadded⟩ :=
    (ofEntries_eq_ok_iff (known_of_ofEntries h)).1 h
  obtain ⟨hsame, -, fs, hfs, hfiled⟩ := addEach_files hadded
  have hclassTable := signatureClasses_eq hclasses htable
  rw [hclassTable] at hfiled
  have hknown : ∀ f ∈ fs, ∀ v ∈ f.signature.vars, ∀ k ∈ s'.constraints v.cell,
      ∃ name, classTable entries name = some k := by
    clear hfs hadded
    generalize requestsOf functions = rs at hfiled
    induction hfiled with
    | nil => simp
    | cons filed _ ih => exact List.forall_mem_cons.2 ⟨fun v hv k hk => filed.known hv hk, ih⟩
  obtain ⟨classes', functions'⟩ := c
  obtain rfl : classes' = table := hsame
  obtain rfl : functions' = fs := hfs
  refine ⟨?_, ?_, fun f hf v hv k hk => ?_⟩
  · rw [sectionOf_eq hclasses]
    exact htable.imp fun _ _ => readClass_enrolled
  · rw [requests, sectionOf_eq hfunctions]
    exact hfiled
  · obtain ⟨name, hname⟩ := hknown f hf v hv k hk
    rw [classTable_name hname]
    rw [← hclassTable functions'] at hname
    exact hname

/-- A document with text keys is accepted if and only if it is one that describes a catalogue. If it is not,
the error is one of the catalogue, unless a value that was given for a signature cannot be shown. If it is,
the catalogue has the classes and the functions of the document in their order, and no signature is
constrained by other classes than these. Which section comes first makes no difference. -/
theorem ofEntries_accepts (s : Store) (entries : List (Scalar × Data)) (keyed : KeyedTo 3 entries) :
    ((∃ made, ofEntries s entries = .ok made) ↔ IsDocument entries) ∧
    (∀ e, ofEntries s entries = .error e → e.IsOwn ∨ e = .notShowable ∧
      ∃ r ∈ requests entries, (∀ written, r.text ≠ .scalar (.text written)) ∧ r.text.isShowable = false) ∧
    (∀ c s', ofEntries s entries = .ok (c, s') →
      List.Forall₂ Enrolled (sectionOf entries "classes") c.classes ∧
      List.Forall₂ (Filed (classTable entries) s s') (requests entries) c.functions ∧
      ∀ f ∈ c.functions, ∀ v ∈ f.signature.vars, ∀ k ∈ s'.constraints v.cell,
        c.class? (.text k.name) = some k) ∧
    (Known entries → ∀ entries', entries'.Perm entries → ofEntries s entries' = ofEntries s entries) := by
  refine ⟨exists_ofEntries_iff keyed, fun e h => ?_, fun c s' h => ofEntries_makes h,
    fun known entries' hp => ofEntries_perm known keyed.1 hp s⟩
  by_cases known : Known entries
  · rcases ofEntries_error known h with own | ⟨r, hr, c', s', failed⟩
    · exact .inl own
    · rcases add_error failed with own | ⟨rfl, hnot, hshow⟩
      · exact .inl own
      · exact .inr ⟨rfl, r, hr, hnot, hshow⟩
  · obtain ⟨e', he', own⟩ := ofEntries_unknown known keyed.1 s
    rw [h] at he'
    cases he'
    exact .inl own

/-- Classes that come after the functions whose signatures name them, and a category without functions. -/
def backwards : List (Scalar × Data) :=
  [(.text "functions", .map [(.text "Empty", .scalar .null),
      (.text "Logic", .map [(.text "same", .scalar (.text "Eq a => a -> a -> Bool"))])]),
    (.text "classes", .map [(.text "Eq", .list [.scalar (.text "Int"), .scalar (.text "Bool")])])]

theorem ofEntries_accepts_backwards : KeyedTo 3 backwards ∧ IsDocument backwards ∧
    ofEntries ∅ backwards.reverse = ofEntries ∅ backwards ∧
    ∃ c s, ofEntries ∅ backwards = .ok (c, s) ∧
      List.Forall₂ Enrolled (sectionOf backwards "classes") c.classes ∧
      List.Forall₂ (Filed (classTable backwards) ∅ s) (requests backwards) c.functions := by
  have hkeyed : KeyedTo 3 backwards := by decide +kernel
  obtain ⟨haccepts, -, hmakes, horder⟩ := ofEntries_accepts ∅ backwards hkeyed
  obtain ⟨⟨c, s⟩, hmade⟩ : ∃ made, ofEntries ∅ backwards = .ok made := exists_of_isOk (by decide +kernel)
  have hdocument := haccepts.1 ⟨_, hmade⟩
  obtain ⟨hclasses, hfunctions, -⟩ := hmakes c s hmade
  exact ⟨hkeyed, hdocument, horder hdocument.sections _ (List.reverse_perm _), c, s, hmade, hclasses,
    hfunctions⟩

/-- A number in place of a signature. -/
def numbered (n : Int) : List (Scalar × Data) :=
  [(.text "functions", .map [(.text "Numbers", .map [(.text "huge", .scalar (.int n))])])]

theorem ofEntries_numbered (n : Int) :
    ofEntries ∅ (numbered n) = .error (if (Scalar.int n).isShowable then
      .signatureNotText (.text "huge") (.scalar (.int n)) else .notShowable) :=
  rfl

theorem not_isShowable_of_le {n : Nat} (h : Nat.pow 10 Config.digitLimit ≤ n) :
    (Scalar.int n).isShowable = false := by
  rw [Scalar.isShowable, Int.natAbs_natCast, decide_eq_false_iff_not]
  exact Nat.not_lt.2 h

/-- Not every document that is refused is refused with an error of the catalogue: a number that has one digit
too many cannot be shown in it. -/
theorem ofEntries_oversized :
    let entries := numbered (Nat.pow 10 Config.digitLimit : Nat)
    KeyedTo 3 entries ∧ ¬ IsDocument entries ∧
      ofEntries ∅ entries = .error .notShowable ∧ ¬ Error.IsOwn .notShowable := by
  refine ⟨by decide +kernel, fun h => ?_, ?_, id⟩
  · obtain ⟨written, sig, htext, -⟩ := h.signatures ⟨.text "huge", .text "Numbers", _⟩ List.mem_cons_self
    cases htext
  · rw [ofEntries_numbered, not_isShowable_of_le (Nat.le_refl _)]
    rfl

end Catalog

end BlockTypes
