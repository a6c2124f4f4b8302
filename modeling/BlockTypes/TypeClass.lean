import BlockTypes.SortedSet
import BlockTypes.Text.Quoted

/-!
# Type classes and constraint sets

Type classes are flat: a class is a name and the constructors that are its instances. A type
variable carries a set of classes, and may only stand for a constructor that all of them admit.
-/

namespace BlockTypes

/-- A type class, with the names of the constructors that are instances of it. -/
structure TypeClass where
  name : WideText
  members : NameSet
deriving DecidableEq

namespace TypeClass

/-- The class admits the constructor named `con`. -/
def Admits (c : TypeClass) (con : WideText) : Prop := con ∈ c.members

instance (c : TypeClass) (con : WideText) : Decidable (c.Admits con) :=
  inferInstanceAs (Decidable (con ∈ c.members))

/-- Classes are told apart, and listed, by their names and then by their instances. -/
def key (c : TypeClass) : List (List Nat) := c.name.numbers :: c.members.toList.map WideText.numbers

theorem key_injective {c d : TypeClass} (h : c.key = d.key) : c = d := by
  obtain ⟨n, ⟨l, hl⟩⟩ := c
  obtain ⟨m, ⟨r, hr⟩⟩ := d
  obtain ⟨hname, hmembers⟩ := List.cons.inj h
  obtain rfl := WideText.numbers_injective hname
  obtain rfl := (List.map_inj_right fun _ _ => WideText.numbers_injective).1 hmembers
  rfl

instance : Ranked TypeClass := .byKey key key_injective List.lt_irrefl List.lt_trans Std.lt_trichotomy

end TypeClass

/-- The classes that constrain a type variable. -/
abbrev ConstraintSet := SortedSet TypeClass

namespace ConstraintSet

/-- Every class of the set admits the constructor named `con`. -/
def Admits (cs : ConstraintSet) (con : String) : Prop := ∀ c ∈ cs.toList, c.Admits con

instance (cs : ConstraintSet) (con : String) : Decidable (cs.Admits con) :=
  inferInstanceAs (Decidable (∀ c ∈ cs.toList, c.Admits con))

/-- The names of the classes, in ascending order. -/
def names (cs : ConstraintSet) : List WideText := cs.toList.map (·.name)

/-- The set in a message: the class names between parentheses. -/
def text (cs : ConstraintSet) : String := "(" ++ ", ".intercalate (cs.names.map (·.shown)) ++ ")"

/-- The set spelled out: the quoted class names under the name of the type. -/
def spelled (cs : ConstraintSet) : String := "ConstraintSet(" ++ Text.quoteList cs.names ++ ")"

end ConstraintSet

end BlockTypes
