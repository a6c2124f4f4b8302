import BlockTypes.Store.Layout
import BlockTypes.Proofs.Signature.Writing
import BlockTypes.Proofs.Store.Write

/-!
# Text through bindings

A type is written through its bindings as its resolved type is, part by part, with one exception
(`WellFormed.textIn_resolve`). The arguments of an application are collected without looking through
bindings. Where its head is a variable that stands for an application, the arguments found there are kept
apart in parentheses, while the resolved type has all of them in one spine. The two texts differ in length:
the parentheses are two characters more, and an enclosed list or tuple is shorter than the constructor and
its arguments in a row.
-/

namespace BlockTypes

namespace Layout

@[simp] theorem inPlace_whole (l : Layout) : l.inPlace .whole = l.text := by
  obtain ⟨text, grip⟩ := l
  cases grip <;> rfl

theorem inPlace_of_closed {l : Layout} (h : l.grip = .closed) (place : Place) : l.inPlace place = l.text := by
  simp [inPlace, h, Grip.needsParens]

theorem length_text_le (l : Layout) (place : Place) : l.text.length ≤ (l.inPlace place).length := by
  rw [inPlace]
  split
  · simp only [String.length_append]
    omega
  · exact Nat.le_refl _

/-! ## Lengths of rows -/

/-- The length of texts with a separator before each of them. -/
def runLength (sep : String) : List String → Nat
  | [] => 0
  | text :: texts => sep.length + text.length + runLength sep texts

theorem length_intercalate (sep text : String) (texts : List String) :
    (sep.intercalate (text :: texts)).length = text.length + runLength sep texts := by
  induction texts generalizing text with
  | nil => rw [String.intercalate_singleton]; rfl
  | cons next texts ih =>
    rw [String.intercalate_cons_cons, String.length_append, String.length_append, ih, runLength]
    omega

theorem runLength_append (sep : String) (texts more : List String) :
    runLength sep (texts ++ more) = runLength sep texts + runLength sep more := by
  induction texts with
  | nil => exact (Nat.zero_add _).symm
  | cons text texts ih =>
    rw [List.cons_append, runLength, runLength, ih]
    omega

/-- The length of arguments that follow a head, with a blank before each of them. -/
def spread (args : List Layout) : Nat := runLength " " (args.map (·.inPlace .operand))

theorem spread_cons (l : Layout) (args : List Layout) :
    spread (l :: args) = 1 + (l.inPlace .operand).length + spread args := rfl

theorem spread_append (args more : List Layout) : spread (args ++ more) = spread args + spread more := by
  rw [spread, List.map_append, runLength_append]
  rfl

theorem length_applied {head : Layout} {args : List Layout} (some : args ≠ []) :
    (applied head args).text.length = (head.inPlace .operand).length + spread args := by
  rw [applied_of_ne_nil some, length_intercalate]
  rfl

theorem length_applied_operand {head : Layout} {args : List Layout} (some : args ≠ []) :
    ((applied head args).inPlace .operand).length = (head.inPlace .operand).length + spread args + 2 := by
  rw [← length_applied some, applied_of_ne_nil some]
  show ("(" ++ _ ++ ")").length = _
  rw [String.length_append, String.length_append, Nat.add_comm "(".length]
  rfl

/-- Commas need no more room than the blanks and the commas in the name of the constructor. -/
theorem runLength_parts_le (args : List Layout) :
    runLength ", " (args.map (·.inPlace .whole)) ≤ spread args + args.length := by
  induction args with
  | nil => exact Nat.le_refl _
  | cons l args ih =>
    have part := length_text_le l .operand
    have comma : ", ".length = 2 := rfl
    rw [List.map_cons, runLength, spread_cons, List.length_cons, inPlace_whole, comma]
    omega

/-! ## Constructors -/

theorem length_list_lt (l : Layout) : (constructor TypeExpr.listCon [l]).text.length <
    (applied (closed TypeExpr.listCon) [l]).text.length := by
  have part := length_text_le l .operand
  have marks : "[".length = 1 ∧ "]".length = 1 ∧ "[]".length = 2 := ⟨rfl, rfl, rfl⟩
  rw [length_applied (List.cons_ne_nil _ _), spread_cons]
  show ("[" ++ l.inPlace .whole ++ "]").length < "[]".length + _
  rw [String.length_append, String.length_append, inPlace_whole]
  omega

theorem constructor_tuple {args : List Layout} (two : 2 ≤ args.length) :
    constructor (TypeExpr.tupleCon args.length) args =
      closed ("(" ++ ", ".intercalate (args.map (·.inPlace .whole)) ++ ")") := by
  match args with
  | [] | [_] => contradiction
  | _ :: _ :: _ => exact if_pos rfl

theorem length_tuple_lt {args : List Layout} (two : 2 ≤ args.length) :
    (constructor (TypeExpr.tupleCon args.length) args).text.length <
      (applied (closed (TypeExpr.tupleCon args.length)) args).text.length := by
  have word : (TypeExpr.tupleCon args.length).length = args.length + 1 := by
    rw [← String.length_toList, toList_tupleCon]
    simp
    omega
  have marks : "(".length = 1 ∧ ")".length = 1 := ⟨rfl, rfl⟩
  rw [constructor_tuple two, length_applied (List.ne_nil_of_length_pos (Nat.zero_lt_of_lt two))]
  show ("(" ++ _ ++ ")").length < (TypeExpr.tupleCon args.length).length + spread args
  match args with
  | [] => contradiction
  | l :: rest =>
    have commas := runLength_parts_le rest
    have part := length_text_le l .operand
    rw [word, List.map_cons, String.length_append, String.length_append, length_intercalate, inPlace_whole,
      spread_cons, List.length_cons]
    omega

end Layout

namespace TypeExpr

/-- The head is written around that many arguments. -/
def Encloses (head : TypeExpr String) (count : Nat) : Prop :=
  (head = con listCon ∧ count = 1) ∨ (2 ≤ count ∧ head = con (tupleCon count))

theorem Encloses.unique {head : TypeExpr String} {m n : Nat} (h : head.Encloses m) (h' : head.Encloses n) :
    m = n := by
  have apart (k : Nat) (e : (con listCon : TypeExpr String) = con (tupleCon k)) : False := by
    have chars := congrArg String.toList (con.inj e)
    simp [toList_tupleCon, listCon] at chars
  rcases h with ⟨rfl, rfl⟩ | ⟨two, rfl⟩ <;> rcases h' with ⟨list, rfl⟩ | ⟨two', tuple⟩
  · rfl
  · exact (apart _ tuple).elim
  · exact (apart _ list.symm).elim
  · exact tupleCon_injective two two' (con.inj tuple)

theorem constructor_of_not_encloses {name : String} {args : List Layout}
    (bare : ¬ (con name : TypeExpr String).Encloses args.length) :
    Layout.constructor name args = .applied (.closed name) args := by
  match args with
  | [] => rfl
  | [l] => exact if_neg fun list => bare (.inl ⟨by rw [list], rfl⟩)
  | l :: l' :: rest => exact if_neg fun tuple => bare (.inr ⟨by simp, by rw [← tuple]⟩)

/-- A head is written before its arguments, or around them, and that is shorter. -/
theorem layoutWith_cases {head : TypeExpr String} (alone : head.spine.2 = []) (args : List Layout) :
    (¬ head.Encloses args.length ∧ head.layoutWith args = .applied head.layout args) ∨
      (head.Encloses args.length ∧ (head.layoutWith args).grip = .closed ∧
        (head.layoutWith args).text.length < (Layout.applied head.layout args).text.length) := by
  by_cases encloses : head.Encloses args.length
  · refine .inr ⟨encloses, ?_⟩
    rcases encloses with ⟨rfl, one⟩ | ⟨two, rfl⟩
    · obtain ⟨l, rfl⟩ := List.length_eq_one_iff.1 one
      exact ⟨rfl, Layout.length_list_lt l⟩
    · exact ⟨by rw [layoutWith, Layout.constructor_tuple two]; rfl, Layout.length_tuple_lt two⟩
  · refine .inl ⟨encloses, ?_⟩
    cases head with
    | var | arrow => rfl
    | con name => exact constructor_of_not_encloses encloses
    | app t a => simp [spine] at alone

/-! ## Spines -/

variable {ν : Type}

theorem spine_head (t : TypeExpr ν) : t.spine.1.spine.2 = [] := by
  induction t with
  | var | con | arrow => rfl
  | app t a iht => exact iht

theorem layoutWith_spine (t : TypeExpr String) (args : List Layout) :
    t.layoutWith args = t.spine.1.layoutWith (t.spine.2.map layout ++ args) := by
  induction t generalizing args with
  | var | con | arrow => rfl
  | app t a iht =>
    rw [layoutWith, iht, spine, List.map_append, List.append_assoc]
    rfl

/-- An application in parentheses before further arguments is not written as all the arguments in one spine. -/
theorem text_applied_ne {t : TypeExpr String} (inner : t.spine.2 ≠ []) {args args' : List Layout} (some : args ≠ [])
    (same : args.map (·.inPlace .operand) = args'.map (·.inPlace .operand)) :
    (Layout.applied t.layout args).text ≠ (t.layoutWith args').text := by
  intro e
  have length := congrArg String.length e
  have spread : Layout.spread args = Layout.spread args' := congrArg (Layout.runLength " ") same
  have count : args.length = args'.length := by simpa using congrArg List.length same
  have some' : t.spine.2.map layout ≠ [] := by simpa using inner
  have all : t.spine.2.map layout ++ args' ≠ [] := by simp [inner]
  have row := Layout.spread_append (t.spine.2.map layout) args'
  have whole := layoutWith_spine t args'
  have part := layoutWith_spine t []
  rw [List.append_nil] at part
  rw [Layout.length_applied some, layout, part, whole] at length
  -- In a row the parentheses are two characters too many. An enclosed row is too short, and only one of the two rows
  -- can be enclosed, since they are not of one length.
  rcases layoutWith_cases (spine_head t) (t.spine.2.map layout) with ⟨-, open₁⟩ | ⟨encloses₁, grip, short₁⟩
  · rw [open₁, Layout.length_applied_operand some'] at length
    rcases layoutWith_cases (spine_head t) (t.spine.2.map layout ++ args') with ⟨-, open₂⟩ | ⟨-, -, short₂⟩
    · rw [open₂, Layout.length_applied all, row] at length
      omega
    · rw [Layout.length_applied all, row] at short₂
      omega
  · rw [Layout.inPlace_of_closed grip] at length
    rw [Layout.length_applied some'] at short₁
    rcases layoutWith_cases (spine_head t) (t.spine.2.map layout ++ args') with ⟨-, open₂⟩ | ⟨encloses₂, -, -⟩
    · rw [open₂, Layout.length_applied all, row] at length
      omega
    · have longer := encloses₁.unique encloses₂
      have := List.length_pos_of_ne_nil some
      rw [List.length_append] at longer
      omega

end TypeExpr

namespace Store

variable {s : Store} {t u : Ty}

/-! ## Text of unbound variables -/

theorem layoutVia_of_unbound (follow : Ty → Layout) (free : ∀ v ∈ t.vars, s.bound? v.cell = none)
    (args : List Layout) : s.layoutVia follow t args = (t.map (·.name)).layoutWith args := by
  induction t generalizing args with
  | var v =>
    have hv : s.bound? v.cell = none := free v (by simp [TypeExpr.vars])
    cases args with
    | nil => simp [layoutVia, hv, TypeExpr.map, TypeExpr.layoutWith, Layout.applied]
    | cons l args => rw [layoutVia, resolve_of_unbound free]; rfl; simp
  | con name => rfl
  | arrow a b iha ihb =>
    obtain ⟨ha, hb⟩ := TypeExpr.forall_vars_arrow.1 free
    cases args with
    | nil => rw [layoutVia, iha ha, ihb hb]; rfl
    | cons l args => rw [layoutVia, resolve_of_unbound free]; rfl; simp
  | app t a iht iha =>
    obtain ⟨ht, ha⟩ := TypeExpr.forall_vars_app.1 free
    rw [layoutVia, iht ht, iha ha]
    rfl

theorem layout_of_unbound (free : ∀ v ∈ t.vars, s.bound? v.cell = none) : s.layout t = (t.map (·.name)).layout := by
  rw [layout, layoutWithin, layoutVia_of_unbound _ free]
  rfl

theorem text_of_unbound (free : ∀ v ∈ t.vars, s.bound? v.cell = none) :
    s.text t = (t.map (·.name)).layout.text := by
  rw [text, textIn, Layout.inPlace_whole, layout_of_unbound free]

theorem WellFormed.layout_resolve (hs : s.WellFormed) (t : Ty) :
    s.layout (s.resolve t) = ((s.resolve t).map (·.name)).layout :=
  layout_of_unbound (hs.unbound_of_mem_resolve t)

/-! ## Text of bound variables -/

theorem layoutVia_congr {follow follow' : Ty → Layout}
    (h : ∀ v ∈ t.vars, ∀ u, s.bound? v.cell = some u → follow u = follow' u) (args : List Layout) :
    s.layoutVia follow t args = s.layoutVia follow' t args := by
  induction t generalizing args with
  | var v =>
    cases args with
    | nil =>
      rw [layoutVia, layoutVia]
      split
      next u hu => exact h v (by simp [TypeExpr.vars]) u hu
      next => rfl
    | cons l args => simp only [layoutVia]
  | con name => rfl
  | arrow a b iha ihb =>
    obtain ⟨ha, hb⟩ := TypeExpr.forall_vars_arrow.1 h
    cases args with
    | nil => rw [layoutVia, layoutVia, iha ha, ihb hb]
    | cons l args => simp only [layoutVia]
  | app t a iht iha =>
    obtain ⟨ht, ha⟩ := TypeExpr.forall_vars_app.1 h
    rw [layoutVia, layoutVia, iht ht, iha ha]

theorem WellFormed.layoutWithin_stable (hs : s.WellFormed) {n m : Nat} (h : ∀ v ∈ t.vars, s.rank v.cell ≤ n)
    (hm : n ≤ m) : s.layoutWithin m t = s.layoutWithin n t := by
  induction n generalizing t m with
  | zero =>
    cases m with
    | zero => rfl
    | succ m => exact layoutVia_of_unbound _ (fun v hv => unbound_of_rank_le_zero (h v hv)) []
  | succ n ih =>
    cases m with
    | zero => omega
    | succ m =>
      refine layoutVia_congr (fun v hv u hu => ih (fun w hw => ?_) (by omega)) []
      have := hs.grounded.rank_lt_of_mem hu hw
      have := h v hv
      omega

/-- The bound on the number of bindings that are followed is never reached. -/
theorem WellFormed.layout_eq (hs : s.WellFormed) (t : Ty) : s.layout t = s.layoutVia s.layout t [] :=
  layoutVia_congr (fun _ _ _ _ => (hs.layoutWithin_stable (fun w _ => rank_le_size s w.cell) (Nat.le_succ _)).symm) []

theorem WellFormed.layout_bound (hs : s.WellFormed) {v : TypeVar} (h : s.bound? v.cell = some u) :
    s.layout (.var v) = s.layout u := by
  rw [hs.layout_eq, layoutVia, h]

/-- An arrow or a variable with arguments is written as its resolved type with them. -/
theorem layoutVia_head {follow : Ty → Layout} (alone : t.spine.2 = []) {args : List Layout} (some : args ≠ []) :
    s.layoutVia follow t args = layoutHead (s.resolve t) args := by
  cases args with
  | nil => exact absurd rfl some
  | cons l args =>
    cases t with
    | var | arrow => simp only [layoutVia]
    | con name => rw [resolve_con]; rfl
    | app t a => simp [TypeExpr.spine] at alone

theorem layoutVia_spine (follow : Ty → Layout) (t : Ty) (args : List Layout) :
    s.layoutVia follow t args = s.layoutVia follow t.spine.1 (t.spine.2.map (s.layoutVia follow · []) ++ args) := by
  induction t generalizing args with
  | var | con | arrow => rfl
  | app t a iht =>
    rw [layoutVia, iht, TypeExpr.spine, List.map_append, List.append_assoc]
    rfl

/-- A head that is no application is written before its arguments as in one spine. -/
theorem layoutHead_eq (alone : t.spine.2 = []) (args : List Layout) :
    layoutHead t args = (t.map (·.name)).layoutWith args := by
  cases t with
  | var | con | arrow => rfl
  | app t a => simp [TypeExpr.spine] at alone

/-! ## Hidden spines -/

/-- The type is an application whose head is a variable that stands for an application. -/
def HidesSpine (s : Store) (t : Ty) : Prop :=
  t.spine.2 ≠ [] ∧ ∃ v f a, t.spine.1 = .var v ∧ s.bound? v.cell = some (.app f a)

/-- The text of `u` stands in the text of `t`: for `t` itself, for what the variable `t` stands for, for a side of
the arrow `t`, or for an argument of the application `t`. What is applied is resolved first, and not followed. -/
inductive WrittenIn (s : Store) (u : Ty) : Ty → Prop
  | self : WrittenIn s u u
  | through {v : TypeVar} {t : Ty} (bound : s.bound? v.cell = some t) (inner : WrittenIn s u t) : WrittenIn s u (.var v)
  | domain {a b : Ty} (inner : WrittenIn s u a) : WrittenIn s u (.arrow a b)
  | codomain {a b : Ty} (inner : WrittenIn s u b) : WrittenIn s u (.arrow a b)
  | argument {a t : Ty} (mem : a ∈ t.spine.2) (inner : WrittenIn s u a) : WrittenIn s u t

theorem WrittenIn.trans {w : Ty} (h : s.WrittenIn u t) (h' : s.WrittenIn w u) : s.WrittenIn w t := by
  induction h with
  | self => exact h'
  | through bound _ ih => exact .through bound ih
  | domain _ ih => exact .domain ih
  | codomain _ ih => exact .codomain ih
  | argument mem _ ih => exact .argument mem ih

/-- No spine is hidden in the type. -/
def Plain (s : Store) (t : Ty) : Prop := ∀ u, s.WrittenIn u t → ¬ s.HidesSpine u

/-- No spine is hidden in the type before further arguments. -/
def PlainHead (s : Store) (t : Ty) : Prop :=
  (∀ a ∈ t.spine.2, s.Plain a) ∧ ∀ v f a, t.spine.1 = .var v → s.bound? v.cell ≠ some (.app f a)

theorem plainHead_app {a : Ty} : s.PlainHead (.app t a) ↔ s.PlainHead t ∧ s.Plain a := by
  simp only [PlainHead, TypeExpr.spine, List.forall_mem_append, List.forall_mem_singleton]
  exact and_right_comm

theorem Plain.plainHead {a : Ty} (h : s.Plain (.app t a)) : s.PlainHead (.app t a) := by
  refine ⟨fun b mem u hu => h u (.argument mem hu), fun v f b head bound => ?_⟩
  exact h _ .self ⟨by simp [TypeExpr.spine], v, f, b, head, bound⟩

/-- Without hidden spines the layout through bindings is that of the resolved type. -/
theorem WellFormed.layoutVia_resolve (hs : s.WellFormed) (t : Ty) : ∀ args : List Layout,
    (args = [] → s.Plain t) → (args ≠ [] → s.PlainHead t) →
      s.layoutVia s.layout t args = ((s.resolve t).map (·.name)).layoutWith args := by
  induction t using hs.through with
  | unbound v hv =>
    intro args _ _
    have free : ∀ w ∈ (TypeExpr.var v).vars, s.bound? w.cell = none := by simpa [TypeExpr.vars] using hv
    rw [hs.resolve_unbound hv, layoutVia_of_unbound _ free]
  | bound v u hv ih =>
    intro args whole head
    cases args with
    | nil =>
      have plain : s.Plain u := fun w hw => whole rfl w (.through hv hw)
      rw [← hs.layout_eq, hs.layout_bound hv, hs.resolve_bound hv, hs.layout_eq, ih [] (fun _ => plain) (absurd rfl)]
    | cons l args =>
      have some : l :: args ≠ [] := List.cons_ne_nil _ _
      rw [layoutVia_head rfl some, hs.resolve_bound hv]
      -- What is applied was resolved, so only the head of what it stands for matters here.
      refine layoutHead_eq ?_ _
      cases u with
      | var w => exact absurd rfl (hs.concrete _ _ hv w)
      | con | arrow => simp [TypeExpr.spine]
      | app f a => exact absurd hv ((head some).2 v f a rfl)
  | con name =>
    intro args _ _
    rw [resolve_con]
    rfl
  | arrow a b iha ihb =>
    intro args whole _
    cases args with
    | nil =>
      have plainA : s.Plain a := fun u hu => whole rfl u (.domain hu)
      have plainB : s.Plain b := fun u hu => whole rfl u (.codomain hu)
      rw [layoutVia, iha [] (fun _ => plainA) (absurd rfl), ihb [] (fun _ => plainB) (absurd rfl), resolve_arrow]
      rfl
    | cons l args =>
      rw [layoutVia_head rfl (List.cons_ne_nil _ _)]
      exact layoutHead_eq (by simp [TypeExpr.spine]) _
  | app t a iht iha =>
    intro args whole head
    have plain : s.PlainHead (.app t a) := by
      by_cases none : args = []
      · exact (whole none).plainHead
      · exact head none
    obtain ⟨plainT, plainA⟩ := plainHead_app.1 plain
    rw [layoutVia, iha [] (fun _ => plainA) (absurd rfl), iht _ (fun e => by cases e) (fun _ => plainT), resolve_app]
    rfl

theorem WellFormed.layout_of_plain (hs : s.WellFormed) (plain : s.Plain t) : s.layout t = s.layout (s.resolve t) := by
  rw [hs.layout_eq, hs.layoutVia_resolve t [] (fun _ => plain) (absurd rfl), hs.layout_resolve]
  rfl

theorem resolve_spine (s : Store) (t : Ty) (args : List Layout) :
    ((s.resolve t).map (·.name)).layoutWith args = ((s.resolve t.spine.1).map (·.name)).layoutWith
      (t.spine.2.map (fun a => ((s.resolve a).map (·.name)).layout) ++ args) := by
  induction t generalizing args with
  | var | con | arrow => rfl
  | app t a iht =>
    rw [resolve_app, TypeExpr.map, TypeExpr.layoutWith, iht, TypeExpr.spine, List.map_append, List.append_assoc]
    rfl

/-- A hidden spine is written as one operand. -/
theorem WellFormed.layout_of_hidesSpine (hs : s.WellFormed) (hidden : s.HidesSpine t) :
    s.layout t = .applied (s.layout (s.resolve t.spine.1)) (t.spine.2.map s.layout) := by
  obtain ⟨some, v, f, a, head, bound⟩ := hidden
  have alone : t.spine.1.spine.2 = [] := t.spine_head
  rw [hs.layout_eq t, layoutVia_spine, List.append_nil]
  simp only [← hs.layout_eq]
  rw [layoutVia_head alone (by simpa using some), head, hs.layout_resolve, hs.resolve_bound bound, resolve_app]
  rfl

/-- A hidden spine can be told from the text, if the arguments are the same. -/
theorem WellFormed.text_ne_of_hidesSpine (hs : s.WellFormed) (hidden : s.HidesSpine t)
    (same : ∀ a ∈ t.spine.2, s.textIn .operand a = s.textIn .operand (s.resolve a)) :
    s.text t ≠ s.text (s.resolve t) := by
  have through := hs.layout_of_hidesSpine hidden
  have whole : s.layout (s.resolve t) = ((s.resolve t.spine.1).map (·.name)).layoutWith
      (t.spine.2.map fun a => s.layout (s.resolve a)) := by
    simp only [hs.layout_resolve]
    rw [TypeExpr.layout, resolve_spine, List.append_nil]
  obtain ⟨some, v, f, a, head, bound⟩ := hidden
  rw [text, text, textIn, textIn, Layout.inPlace_whole, Layout.inPlace_whole, through, whole, hs.layout_resolve]
  refine TypeExpr.text_applied_ne ?_ (by simpa using some) ?_
  · rw [head, hs.resolve_bound bound, resolve_app]
    simp [TypeExpr.map, TypeExpr.spine]
  · simpa [textIn] using same

/-- The text of a type through its bindings is that of the resolved type, in every place and for every part that
is written in it, exactly if no part is an application that hides the spine of another behind its head. Such an
application is written with its resolved head as an operand, before the arguments that it has itself. -/
theorem WellFormed.textIn_resolve (hs : s.WellFormed) (t : Ty) :
    ((∀ u, s.WrittenIn u t → ∀ place, s.textIn place u = s.textIn place (s.resolve u)) ↔
      ∀ u, s.WrittenIn u t → ¬ s.HidesSpine u) ∧
    (s.HidesSpine t →
      s.text t = " ".intercalate (s.textIn .operand (s.resolve t.spine.1) :: t.spine.2.map (s.textIn .operand))) := by
  refine ⟨⟨fun same u hu hidden => ?_, fun plain u hu place => ?_⟩, fun hidden => ?_⟩
  · refine hs.text_ne_of_hidesSpine hidden (fun a mem => ?_) (same u hu .whole)
    exact same a (hu.trans (.argument mem .self)) .operand
  · have inner : s.Plain u := fun w hw => plain w (hu.trans hw)
    rw [textIn, textIn, hs.layout_of_plain inner]
  · rw [text, textIn, Layout.inPlace_whole, hs.layout_of_hidesSpine hidden,
      Layout.applied_of_ne_nil (by simpa using hidden.1), List.map_map]
    rfl

/-- Unifying `f Int` with a pair leaves `f` standing for a tuple constructor with one argument. The text of the
first is not that of the second from then on, though they are one type. -/
theorem text_resolve_ne_of_pair :
    let t : Ty := .app (.var ⟨"f", 0⟩) (.con "Int")
    let pair : Ty := .tupleOf [.con "Bool", .con "Int"]
    let outcome := ((∅ : Store).push ∅).unify t pair
    let s := outcome.store
    outcome.failure = none ∧ s.WellFormed ∧ s.resolve t = pair ∧
      s.text t = "((,) Bool) Int" ∧ s.text (s.resolve t) = "(Bool, Int)" := by
  intro t pair outcome s
  have made : ((∅ : Store).push ∅).WellFormed := (extends_push _ ∅).wellFormed wellFormed_empty
  have hs : (((∅ : Store).push ∅).assign 0 (.app (.con "(,)") (.con "Bool"))).WellFormed :=
    made.assign (by decide) (by decide) (by simp) (by decide) (mt (made.grounded.occurs_iff ⟨"f", 0⟩ _).2 (by decide))
  have unified : s = ((∅ : Store).push ∅).assign 0 (.app (.con "(,)") (.con "Bool")) := by decide +kernel
  exact ⟨by decide +kernel, unified ▸ hs, by decide +kernel, by decide +kernel, by decide +kernel⟩

/-- Of two variables one hides a spine and the other does not: `f (m Int)` and its argument `m Int`. -/
theorem textIn_resolve_nested :
    let argument : Ty := .app (.var ⟨"m", 1⟩) (.con "Int")
    let t : Ty := .app (.var ⟨"f", 0⟩) argument
    let made := ((∅ : Store).push ∅).push ∅
    let s := (made.assign 0 (.app (.con "Either") (.con "Bool"))).assign 1 (.con "Maybe")
    s.WellFormed ∧ (∀ place, s.textIn place argument = s.textIn place (s.resolve argument)) ∧
      (¬ ∀ u, s.WrittenIn u t → ∀ place, s.textIn place u = s.textIn place (s.resolve u)) ∧
      s.text t = "(Either Bool) (Maybe Int)" ∧ s.text (s.resolve t) = "Either Bool (Maybe Int)" := by
  intro argument t made s
  have hmade : made.WellFormed := (extends_push _ ∅).wellFormed ((extends_push _ ∅).wellFormed wellFormed_empty)
  have hassign : (made.assign 0 (.app (.con "Either") (.con "Bool"))).WellFormed :=
    hmade.assign (by decide) (by decide) (by simp) (by decide)
      (mt (hmade.grounded.occurs_iff ⟨"f", 0⟩ _).2 (by decide))
  have hs : s.WellFormed :=
    hassign.assign (by decide) (by decide) (by simp) (by decide)
      (mt (hassign.grounded.occurs_iff ⟨"m", 1⟩ _).2 (by decide))
  have hidden : s.HidesSpine t :=
    ⟨by simp [t, TypeExpr.spine], ⟨"f", 0⟩, .con "Either", .con "Bool", rfl, by decide +kernel⟩
  have plain : ∀ u, s.WrittenIn u (.app (.var ⟨"m", 1⟩) (.con "Int")) → ¬ s.HidesSpine u := by
    rintro u (_ | _ | _ | _ | ⟨mem, inner⟩) ⟨some, v, f, a, head, bound⟩
    · obtain rfl : ⟨"m", 1⟩ = v := TypeExpr.var.inj head
      have con : s.bound? 1 = .some (.con "Maybe") := by decide +kernel
      cases con.symm.trans bound
    · obtain rfl := List.mem_singleton.1 mem
      rcases inner with _ | _ | _ | _ | ⟨mem, -⟩
      · exact some rfl
      · cases mem
  have texts := (hs.textIn_resolve t).2 hidden
  refine ⟨hs, (hs.textIn_resolve argument).1.2 plain argument .self, fun same => ?_, ?_, by decide +kernel⟩
  · exact (hs.textIn_resolve t).1.1 same t .self hidden
  · rw [texts]
    decide +kernel

end Store

end BlockTypes
