import BlockTypes.Config.Moment
import BlockTypes.Decimal.Shortest
import BlockTypes.RunSort
import BlockTypes.Text.Quoted

/-!
# Configuration data

Configuration documents hold scalars, lists and mappings, and less often sets and pairs. A mapping
keeps its entries in the order in which their keys first came, and its keys are scalars. Keys are one
when they are equal as values: a truth value is the number one or zero, a number with a fraction may
be a whole number, and a moment is the same on any clock. A collection may be a part of itself; it is
then known by its place in the document, and looking into it opens one more round of the circle.
-/

namespace BlockTypes.Config

/-- A value without parts. -/
inductive Scalar where
  | null
  | bool (b : Bool)
  | int (n : Int)
  | float (x : Decimal.Number)
  | text (s : WideText)
  | date (d : Date)
  | moment (m : Moment)
  | bytes (bs : List UInt8)
deriving DecidableEq

/-- A configuration value. -/
inductive Data where
  | scalar (s : Scalar)
  | list (items : List Data)
  | map (entries : List (Scalar × Data))
  | pair (first second : Data)
  | set (items : List Scalar)
  /-- A collection at a place of the document that is part of itself, or of one that is around it. -/
  | circular (place : Nat) (content : Data)
  /-- The collection at a place, inside itself. -/
  | itself (place : Nat)

instance : Inhabited Data := ⟨.scalar .null⟩

/-- The most digits that a whole number may have where it is read or written in decimal. -/
def digitLimit : Nat := 4300

/-- Where a whole number of too many digits is to be shown. -/
def notShowableMessage : String :=
  "Exceeds the limit (" ++ toString digitLimit ++ " digits) for integer string conversion; "
    ++ "use sys.set_int_max_str_digits() to increase the limit"

namespace Scalar

/-- The scalar as it is shown in a list or after "got": text between quote marks. -/
def quoted : Scalar → String
  | null => "None"
  | bool true => "True"
  | bool false => "False"
  | int n => toString n
  | float x => x.text
  | .text s => s.quoted
  | date d => d.spelled
  | moment m => m.spelled
  | bytes bs => Text.quoteBytes bs

/-- The scalar as a text of its own. -/
def written : Scalar → WideText
  | .text s => s
  | date d => d.text
  | moment m => m.text
  | s => s.quoted

/-- The scalar as it is shown on its own. -/
def shown (s : Scalar) : String := s.written.shown

instance : Coe String Scalar := ⟨fun s => .text s⟩

/-- Whether the scalar can be shown: whole numbers of too many digits cannot. -/
def isShowable : Scalar → Bool
  | int n => n.natAbs < Nat.pow 10 digitLimit
  | _ => true

/-! ## Keys -/

/-- What counts of a scalar as a key. -/
inductive Key where
  | value (s : Scalar)
  | instant (n : Int)
deriving DecidableEq

/-- The scalar as a key: numbers of one value are one key, and so are moments of one point of time. -/
def asKey : Scalar → Key
  | bool b => .value (int (if b then 1 else 0))
  | float x => .value ((x.whole?.map int).getD (float x))
  | moment m => (m.instant?.map Key.instant).getD (.value (moment m))
  | s => .value s

/-- The scalars are one key. -/
def SameKey (k l : Scalar) : Prop := k.asKey = l.asKey

instance (k l : Scalar) : Decidable (SameKey k l) := inferInstanceAs (Decidable (k.asKey = l.asKey))

/-- The scalars are equal as values. They are one key then, but an undefined number is not equal to any
number, also not to itself. -/
def Equals (k l : Scalar) : Prop := k.SameKey l ∧ k ≠ float .undefined

instance (k l : Scalar) : Decidable (Equals k l) :=
  inferInstanceAs (Decidable (k.SameKey l ∧ k ≠ float .undefined))

/-- The keys without those that came before. -/
def distinct : List Scalar → List Scalar
  | [] => []
  | k :: rest => k :: (distinct rest).filter (¬ SameKey · k)

theorem asKey_eq_text {k : Scalar} {s : WideText} : k.asKey = .value (.text s) ↔ k = .text s := by
  cases k with
  | float x => cases h : x.whole? <;> simp [asKey, h]
  | moment m => cases h : m.instant? <;> simp [asKey, h]
  | _ => simp [asKey]

/-! ## Order -/

/-- Where a scalar stands among those that it can be compared with. An undefined number is neither
below nor above any number. -/
inductive Rank where
  | text (codes : List Nat)
  | bytes (codes : List Nat)
  | number (e : Option Decimal.Extent)
  | day (n : Int)
  | clock (n : Int)
  | instant (n : Int)

/-- Whether the first sequence comes before the second in the order of dictionaries. -/
def codesBefore : List Nat → List Nat → Bool
  | _, [] => false
  | [], _ :: _ => true
  | a :: as, b :: bs => a < b || (a == b && codesBefore as bs)

/-- Whether the first is below the second, if the two can be compared. -/
def Rank.before? : Rank → Rank → Option Bool
  | text a, text b => some (codesBefore a b)
  | bytes a, bytes b => some (codesBefore a b)
  | number (some a), number (some b) => some (a.lt b)
  | number _, number _ => some false
  | day a, day b => some (a < b)
  | clock a, clock b => some (a < b)
  | instant a, instant b => some (a < b)
  | _, _ => none

/-- Where the scalar stands; nothing is above or below the null value. -/
def rank? : Scalar → Option Rank
  | null => none
  | bool b => some (.number (some (.ratio (if b then 1 else 0) 1)))
  | int n => some (.number (some (.ratio n 1)))
  | float x => some (.number x.extent?)
  | .text s => some (.text (s.points.map CodePoint.number))
  | date d => some (.day d.number)
  | moment m => some ((m.instant?.map Rank.instant).getD (.clock m.clock))
  | bytes bs => some (.bytes (bs.map UInt8.toNat))

/-- Scalars with where they stand, if all stand somewhere. -/
def ranked? : List Scalar → Option (List (Rank × Scalar))
  | [] => some []
  | k :: rest => k.rank?.bind fun r => (ranked? rest).map ((r, k) :: ·)

/-- The scalars in ascending order, if they can be compared: texts with texts, numbers with numbers,
and so on. -/
def sorted? (keys : List Scalar) : Option (List Scalar) :=
  if keys.length ≤ 1 then some keys
  else
    (ranked? keys).bind fun ranked =>
      if ranked.all fun a => ranked.all fun b => (a.1.before? b.1).isSome then
        some ((RunSort.sort (fun a b => (a.1.before? b.1).getD false) ranked).map (·.2))
      else none

/-- A list of scalars in a message. -/
def listText (keys : List Scalar) : String := "[" ++ ", ".intercalate (keys.map quoted) ++ "]"

end Scalar

namespace Data

/-! ## Collections that are part of themselves -/

mutual
/-- The value with another one wherever it names the collection at the place. -/
def fill (place : Nat) (whole : Data) : Data → Data
  | scalar s => scalar s
  | list items => list (fillItems place whole items)
  | map entries => map (fillEntries place whole entries)
  | pair a b => pair (fill place whole a) (fill place whole b)
  | set items => set items
  | circular p d => if p = place then circular p d else circular p (fill place whole d)
  | itself p => if p = place then whole else itself p

/-- The items of a list, filled. -/
def fillItems (place : Nat) (whole : Data) : List Data → List Data
  | [] => []
  | d :: rest => fill place whole d :: fillItems place whole rest

/-- The entries of a mapping, filled. -/
def fillEntries (place : Nat) (whole : Data) : List (Scalar × Data) → List (Scalar × Data)
  | [] => []
  | (k, d) :: rest => (k, fill place whole d) :: fillEntries place whole rest
end

/-- The value as it looks from outside: where a collection is part of itself, it stands there again. -/
def opened : Data → Data
  | circular p d => fill p (circular p d) d
  | d => d

mutual
/-- The places of the collections around the value that it names. -/
def outerPlaces : Data → List Nat
  | scalar _ => []
  | list items => outerOfItems items
  | map entries => outerOfEntries entries
  | pair a b => a.outerPlaces ++ b.outerPlaces
  | set _ => []
  | circular p d => d.outerPlaces.filter (· ≠ p)
  | itself p => [p]

/-- The places that the items of a list name. -/
def outerOfItems : List Data → List Nat
  | [] => []
  | d :: rest => d.outerPlaces ++ outerOfItems rest

/-- The places that the values of a mapping name. -/
def outerOfEntries : List (Scalar × Data) → List Nat
  | [] => []
  | (_, d) :: rest => d.outerPlaces ++ outerOfEntries rest
end

mutual
/-- Whether no collection in the value is part of itself. -/
def isTree : Data → Bool
  | scalar _ => true
  | list items => treeItems items
  | map entries => treeEntries entries
  | pair a b => a.isTree && b.isTree
  | set _ => true
  | circular _ _ => false
  | itself _ => false

/-- Whether no collection in the items is part of itself. -/
def treeItems : List Data → Bool
  | [] => true
  | d :: rest => d.isTree && treeItems rest

/-- Whether no collection in the values of the entries is part of itself. -/
def treeEntries : List (Scalar × Data) → Bool
  | [] => true
  | (_, d) :: rest => d.isTree && treeEntries rest
end

/-! ## Messages -/

/-- What is shown of a collection inside itself. -/
def dots : Data → String
  | map _ => "\x7b...\x7d"
  | set _ => "set(...)"
  | _ => "[...]"

mutual
/-- The value as it is shown in a message, inside the collections at the given places. -/
def quotedIn (around : List (Nat × String)) : Data → String
  | scalar s => s.quoted
  | list items => "[" ++ ", ".intercalate (quotedItems around items) ++ "]"
  | map entries => "\x7b" ++ ", ".intercalate (quotedEntries around entries) ++ "\x7d"
  | pair a b => "(" ++ a.quotedIn around ++ ", " ++ b.quotedIn around ++ ")"
  | set [] => "set()"
  | set items => "\x7b" ++ ", ".intercalate (items.map Scalar.quoted) ++ "\x7d"
  | circular p d =>
    match around.lookup p with
    | some shown => shown
    | none => d.quotedIn ((p, d.dots) :: around)
  | itself p => (around.lookup p).getD "..."

/-- The items of a list as they are shown. -/
def quotedItems (around : List (Nat × String)) : List Data → List String
  | [] => []
  | d :: rest => d.quotedIn around :: quotedItems around rest

/-- The entries of a mapping as they are shown. -/
def quotedEntries (around : List (Nat × String)) : List (Scalar × Data) → List String
  | [] => []
  | (k, d) :: rest => (k.quoted ++ ": " ++ d.quotedIn around) :: quotedEntries around rest
end

/-- The value as it is shown in a message. -/
def quoted (d : Data) : String := d.quotedIn []

mutual
/-- Whether all scalars of the value can be shown. -/
def isShowable : Data → Bool
  | scalar s => s.isShowable
  | list items => showableItems items
  | map entries => showableEntries entries
  | pair a b => a.isShowable && b.isShowable
  | set items => items.all Scalar.isShowable
  | circular _ d => d.isShowable
  | itself _ => true

/-- Whether all items of a list can be shown. -/
def showableItems : List Data → Bool
  | [] => true
  | d :: rest => d.isShowable && showableItems rest

/-- Whether all entries of a mapping can be shown. -/
def showableEntries : List (Scalar × Data) → Bool
  | [] => true
  | (k, d) :: rest => k.isShowable && d.isShowable && showableEntries rest
end

/-! ## Mappings and lists -/

/-- The entries with one more: a key that is there stays as it is, and gets the new value. -/
def put (entries : List (Scalar × Data)) (key : Scalar) (value : Data) : List (Scalar × Data) :=
  if entries.any (·.1.SameKey key) then
    entries.map fun e => if e.1.SameKey key then (e.1, value) else e
  else entries ++ [(key, value)]

/-- The mapping with the given entries; of entries with one key the last counts. -/
def mapOf (entries : List (Scalar × Data)) : Data :=
  map (entries.foldl (fun es e => put es e.1 e.2) [])

/-- The value of a key, null if it is not there. -/
def get (entries : List (Scalar × Data)) (key : Scalar) : Data :=
  (entries.lookup key).getD (scalar .null)

/-- The texts of a list of texts. -/
def texts? (d : Data) : Option (List WideText) :=
  match d.opened with
  | list items => items.mapM fun
    | scalar (.text s) => some s
    | _ => none
  | _ => none

end Data

/-- The keys of a mapping that are not among the known ones. -/
def unknownKeys (entries : List (Scalar × Data)) (known : List String) : List Scalar :=
  (entries.map (·.1)).filter fun key => !known.any fun name => .text name = key

end BlockTypes.Config
