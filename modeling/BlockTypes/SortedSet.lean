import BlockTypes.Text.Wide

/-!
# Finite sets as ascending lists

A finite set is kept as a strictly ascending list, so that two sets with the same members are the
same value and a set is listed in one order. `SortedSet.ext` is that fact; `mem_insert`,
`mem_ofList` and `mem_union` say what the operations do to the members.
-/

namespace BlockTypes

/-- A strict order that a program can decide. -/
class Ranked (α : Type) where
  before : α → α → Bool
  irrefl (a : α) : before a a = false
  trans {a b c : α} : before a b → before b c → before a c
  total (a b : α) : before a b ∨ a = b ∨ before b a

/-- Values are ranked by a key that tells them apart. -/
abbrev Ranked.byKey {α κ : Type} [LT κ] [DecidableLT κ] (key : α → κ)
    (injective : ∀ {a b}, key a = key b → a = b) (irrefl : ∀ k : κ, ¬ k < k)
    (trans : ∀ {k l m : κ}, k < l → l < m → k < m) (total : ∀ k l : κ, k < l ∨ k = l ∨ l < k) : Ranked α where
  before a b := decide (key a < key b)
  irrefl a := decide_eq_false (irrefl (key a))
  trans h k := decide_eq_true (trans (of_decide_eq_true h) (of_decide_eq_true k))
  total a b := (total (key a) (key b)).imp decide_eq_true (.imp injective decide_eq_true)

/-- A finite set, listed in strictly ascending order. -/
structure SortedSet (α : Type) [Ranked α] where
  toList : List α
  ascending : toList.Pairwise fun a b => Ranked.before a b = true
deriving DecidableEq

namespace SortedSet

variable {α : Type} [Ranked α]

instance : Membership α (SortedSet α) := ⟨fun s a => a ∈ s.toList⟩

theorem mem_def {s : SortedSet α} {a : α} : a ∈ s ↔ a ∈ s.toList := Iff.rfl

instance [DecidableEq α] (s : SortedSet α) (a : α) : Decidable (a ∈ s) :=
  inferInstanceAs (Decidable (a ∈ s.toList))

/-! ## Operations -/

/-- The set without members. -/
def empty : SortedSet α := ⟨[], .nil⟩

instance : EmptyCollection (SortedSet α) := ⟨empty⟩

instance : Inhabited (SortedSet α) := ⟨∅⟩

/-- Whether the set has no member. -/
def isEmpty (s : SortedSet α) : Bool := s.toList.isEmpty

/-- The number of members. -/
def size (s : SortedSet α) : Nat := s.toList.length

/-- Puts `a` in its place in an ascending list, unless it is there. -/
def place (a : α) : List α → List α
  | [] => [a]
  | b :: rest =>
    if Ranked.before a b then a :: b :: rest
    else if Ranked.before b a then b :: place a rest
    else b :: rest

theorem mem_place {a x : α} {l : List α} : x ∈ place a l ↔ x = a ∨ x ∈ l := by
  induction l with
  | nil => simp [place]
  | cons b rest ih =>
    rw [place]
    split
    · simp
    · split
      · simp only [List.mem_cons, ih]
        exact or_left_comm
      · rcases Ranked.total a b with h | rfl | h
        · contradiction
        · simp
        · contradiction

theorem place_ascending {a : α} {l : List α}
    (h : l.Pairwise fun x y => Ranked.before x y = true) :
    (place a l).Pairwise fun x y => Ranked.before x y = true := by
  induction l with
  | nil => simp [place]
  | cons b rest ih =>
    have ⟨hb, hr⟩ := List.pairwise_cons.1 h
    rw [place]
    split
    · rename_i hab
      refine List.pairwise_cons.2 ⟨fun x hx => ?_, h⟩
      rcases List.mem_cons.1 hx with rfl | hx
      · exact hab
      · exact Ranked.trans hab (hb x hx)
    · split
      · rename_i hba
        refine List.pairwise_cons.2 ⟨fun x hx => ?_, ih hr⟩
        rcases mem_place.1 hx with rfl | hx
        · exact hba
        · exact hb x hx
      · exact h

/-- The set with one member more. -/
def insert (a : α) (s : SortedSet α) : SortedSet α :=
  ⟨place a s.toList, place_ascending s.ascending⟩

/-- The set of the members of a list. -/
def ofList (l : List α) : SortedSet α := l.foldr insert ∅

/-- The members of either set. -/
def union (s t : SortedSet α) : SortedSet α := t.toList.foldr insert s

/-! ## Members -/

theorem not_mem_empty (a : α) : a ∉ (∅ : SortedSet α) := by
  simp [mem_def, EmptyCollection.emptyCollection, empty]

@[simp] theorem mem_insert {a x : α} {s : SortedSet α} : x ∈ insert a s ↔ x = a ∨ x ∈ s :=
  mem_place

theorem mem_foldr_insert {x : α} {l : List α} {s : SortedSet α} :
    x ∈ l.foldr insert s ↔ x ∈ l ∨ x ∈ s := by
  induction l with
  | nil => simp
  | cons a l ih => simp [ih, or_assoc]

@[simp] theorem mem_ofList {x : α} {l : List α} : x ∈ ofList l ↔ x ∈ l := by
  simp [ofList, mem_foldr_insert, not_mem_empty]

@[simp] theorem mem_union {x : α} {s t : SortedSet α} : x ∈ s.union t ↔ x ∈ s ∨ x ∈ t := by
  rw [union, mem_foldr_insert, or_comm]
  rfl

theorem isEmpty_iff {s : SortedSet α} : s.isEmpty = true ↔ ∀ a, a ∉ s := by
  rw [isEmpty, List.isEmpty_iff, List.eq_nil_iff_forall_not_mem]
  rfl

/-- An ascending list is determined by its members. -/
theorem ascending_ext {l r : List α} (hl : l.Pairwise fun a b => Ranked.before a b = true)
    (hr : r.Pairwise fun a b => Ranked.before a b = true) (h : ∀ a, a ∈ l ↔ a ∈ r) : l = r := by
  have back : ∀ {a b : α}, Ranked.before a b = true → ¬ Ranked.before b a = true := by
    intro a b hab hba
    have := Ranked.trans hab hba
    rw [Ranked.irrefl] at this
    contradiction
  induction l generalizing r with
  | nil =>
    cases r with
    | nil => rfl
    | cons b r => exact absurd ((h b).2 List.mem_cons_self) List.not_mem_nil
  | cons a l ih =>
    cases r with
    | nil => exact absurd ((h a).1 List.mem_cons_self) List.not_mem_nil
    | cons b r =>
      have ⟨ha, hl'⟩ := List.pairwise_cons.1 hl
      have ⟨hb, hr'⟩ := List.pairwise_cons.1 hr
      have hab : a = b := by
        rcases List.mem_cons.1 ((h a).1 List.mem_cons_self) with e | e
        · exact e
        · rcases List.mem_cons.1 ((h b).2 List.mem_cons_self) with e' | e'
          · exact e'.symm
          · exact absurd (hb a e) (back (ha b e'))
      subst hab
      refine congrArg _ (ih hl' hr' fun x => ?_)
      have hx := h x
      have not_head : ∀ {t : List α}, (∀ y ∈ t, Ranked.before a y = true) → a ∉ t := by
        intro t ht hat
        have := ht a hat
        rw [Ranked.irrefl] at this
        contradiction
      constructor <;> intro hm
      · rcases List.mem_cons.1 (hx.1 (List.mem_cons_of_mem _ hm)) with rfl | e
        · exact absurd hm (not_head ha)
        · exact e
      · rcases List.mem_cons.1 (hx.2 (List.mem_cons_of_mem _ hm)) with rfl | e
        · exact absurd hm (not_head hb)
        · exact e

/-- Sets with the same members are equal. -/
theorem ext {s t : SortedSet α} (h : ∀ a, a ∈ s ↔ a ∈ t) : s = t := by
  cases s; cases t
  congr
  exact ascending_ext (by assumption) (by assumption) h

end SortedSet

/-! ## Names -/

/-- Names are ranked by their code points. -/
instance : Ranked WideText :=
  .byKey WideText.numbers WideText.numbers_injective List.lt_irrefl List.lt_trans Std.lt_trichotomy

/-- A finite set of names. -/
abbrev NameSet := SortedSet WideText

end BlockTypes
