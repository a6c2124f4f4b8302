import BlockTypes.Config.Yaml.Node

/-!
# Documents

The nodes of a document stand for configuration data. Entries of other mappings may be merged into a
mapping: they come before its own, so that its own count, and of several mappings the first counts
most. All values at one depth are found before those below, so that of two faults the less deep is the
one that is told. Collections that are used inside themselves make circular data. `fuel` bounds how
deep the functions call each other: a collection is never built inside itself, and a mapping that is
merged into itself has one entry less to merge each time.
-/

namespace BlockTypes.Config.Yaml

/-- A fault, and how far below it lies. -/
abbrev DeepFault := Option (Nat × Fault)

namespace DeepFault

/-- The fault that is told of two: the less deep, or else the first. -/
def first (a b : DeepFault) : DeepFault :=
  match a, b with
  | none, b => b
  | a, none => a
  | some x, some y => if y.1 < x.1 then some y else some x

/-- The fault as it lies below what is one level higher. -/
def deeper (a : DeepFault) : DeepFault := a.map fun (depth, f) => (depth + 1, f)

/-- A fault that lies at once. -/
def here (f : Fault) : DeepFault := some (0, f)

end DeepFault

/-- The data that a node stands for, the fault that is told if it stands for none, and the places of
the collections around it that it names. -/
structure Built where
  data : Data
  fault : DeepFault
  names : List Nat

namespace Built

/-- What has no data for a fault. -/
def failed (f : Fault) : Built := ⟨.scalar .null, .here f, []⟩

/-- The built scalar. -/
def ofScalar : Except Fault Scalar → Built
  | .ok s => ⟨.scalar s, none, []⟩
  | .error f => failed f

/-- The collection at a place, inside itself. -/
def inside (place : Nat) : Built := ⟨.itself place, none, [place]⟩

/-- The scalar of a key; collections cannot be keys. -/
def key (b : Built) : Except Fault Scalar :=
  match b.data with
  | .scalar s => .ok s
  | _ => .error .malformed

/-- The fault of a key, which has to be a scalar. -/
def keyFault (b : Built) : DeepFault :=
  match b.key with
  | .ok _ => b.fault
  | .error f => .here f

/-- The first fault of several values. -/
def firstFault (faults : List DeepFault) : DeepFault := faults.foldl DeepFault.first none

/-- A collection of the given parts at a place. It is circular if it names itself or one around it;
not every part that does so need be in it, since entries with one key are one. -/
def collection (place : Nat) (data : Data) (faults : List DeepFault) (parts : List Built) : Built :=
  let names := if parts.all (·.names.isEmpty) then [] else data.outerPlaces
  ⟨if names.isEmpty then data else .circular place data, (firstFault faults).deeper,
    names.filter (· ≠ place)⟩

/-- The list of the given items. -/
def ofItems (place : Nat) (items : List Built) : Built :=
  collection place (.list (items.map (·.data))) (items.map (·.fault)) items

/-- The keys and values of entries. -/
def keyed (entries : List (Built × Built)) : List (Scalar × Data) :=
  entries.filterMap fun (k, v) => k.key.toOption.map (·, v.data)

/-- The collection that the entries make, given what it makes of their keys and values. -/
def ofEntries (place : Nat) (make : List (Scalar × Data) → Data) (entries : List (Built × Built)) :
    Built :=
  collection place (make (keyed entries)) (entries.flatMap fun (k, v) => [k.keyFault, v.fault])
    (entries.map (·.2))

/-- The pair of a key and a value. -/
def ofPair (a b : Built) : Built :=
  ⟨.pair a.data b.data, a.fault.first b.fault, a.names ++ b.names⟩

end Built

/-- Where a scalar stands in place of a collection, or the other way round. -/
def misfit (tag : Tag) : Built :=
  if tag.isCollection then ⟨.list [], (DeepFault.here .malformed).deeper, []⟩ else .failed .malformed

/-- The text of the scalar that a mapping stands for, if it has one under an equals sign. -/
def equalsText? : List (Node × Node) → Option WideText
  | [] => none
  | (k, v) :: rest =>
    if k.tag = .value then
      match v with
      | .scalar _ text => some text
      | .map _ _ entries => equalsText? entries
      | _ => none
    else equalsText? rest

namespace Root

/-- The node itself, where a collection is used inside itself. -/
def target (root : Root) : Node → Node
  | .inside place => (root.named.lookup place).getD (.inside place)
  | n => n

/-- A key that looks like an equals sign is its text. -/
def plainKey : Node → Node
  | .scalar .value text => .scalar .text text
  | k => k

/-- The entries of a mapping that are its own. -/
def ownEntries (entries : List (Node × Node)) : List (Node × Node) :=
  (entries.filter (·.1.tag ≠ .merge)).map fun (k, v) => (plainKey k, v)

/-- The places of the mappings into which others are being merged, and what is left of their entries
when those that were merged are taken away. -/
abbrev Merging := List (Nat × List (Node × Node))

mutual
/-- The entries of a mapping, after those that are merged into it. -/
def allEntries (root : Root) : (fuel : Nat) → Merging → (place : Nat) → List (Node × Node) →
    Except Fault (List (Node × Node))
  | 0, _, _, _ => .error .malformed
  | fuel + 1, merging, place, entries =>
    match entries.find? (·.1.tag = .merge) with
    | none => .ok (ownEntries entries)
    | some e =>
      let rest := entries.eraseP (·.1.tag = .merge)
      match merged root fuel ((place, rest) :: merging) e.2 with
      | .error f => .error f
      | .ok first => (allEntries root fuel merging place rest).map (first ++ ·)

/-- The entries of a node that is merged into a mapping: a mapping, or a list of mappings, the first
of which counts most. -/
def merged (root : Root) : (fuel : Nat) → Merging → Node → Except Fault (List (Node × Node))
  | 0, _, _ => .error .malformed
  | fuel + 1, merging, n =>
    match root.target n with
    | .list _ _ items => (items.mapM (mergedMap root fuel merging)).map fun groups =>
      groups.reverse.flatten
    | n => mergedMap root fuel merging n

/-- The entries of a mapping that is merged. -/
def mergedMap (root : Root) : (fuel : Nat) → Merging → Node → Except Fault (List (Node × Node))
  | 0, _, _ => .error .malformed
  | fuel + 1, merging, n =>
    match root.target n with
    | .map place _ entries => allEntries root fuel merging place ((merging.lookup place).getD entries)
    | _ => .error .malformed
end

mutual
/-- The data that a node stands for, inside the collections at the given places. -/
def build (root : Root) : (fuel : Nat) → (around : List Nat) → Node → Built
  | 0, _, _ => .failed .malformed
  | fuel + 1, around, n =>
    match n with
    | .scalar tag text => if tag.isCollection then misfit tag else .ofScalar (tag.scalarValue text)
    | .list place tag items =>
      if around.contains place then .inside place
      else
        match tag with
        | .list => .ofItems place (items.map (build root fuel (place :: around)))
        | .orderedMap | .pairs => .ofItems place (items.map (buildPair root fuel (place :: around)))
        | tag => misfit tag
    | .map place tag entries =>
      if around.contains place then .inside place
      else
        match tag with
        | .map => buildEntries root fuel around place Data.mapOf entries
        | .set =>
          buildEntries root fuel around place (fun es => .set (Scalar.distinct (es.map (·.1)))) entries
        | tag =>
          if tag.isCollection then misfit tag
          else
            match equalsText? entries with
            | some text =>
              .ofScalar (if tag = .timestamp then .error .timeInMapping else tag.scalarValue text)
            | none => misfit tag
    | .inside place =>
      if around.contains place then .inside place else build root fuel around (root.target n)

/-- The data of an item that is a mapping of one entry. -/
def buildPair (root : Root) : (fuel : Nat) → (around : List Nat) → Node → Built
  | 0, _, _ => .failed .malformed
  | fuel + 1, around, n =>
    match root.target n with
    | .map _ _ [(k, v)] => .ofPair (build root fuel around k) (build root fuel around v)
    | _ => .failed .malformed

/-- The data of a mapping or a set, with the entries that are merged into it. -/
def buildEntries (root : Root) : (fuel : Nat) → (around : List Nat) → (place : Nat) →
    (make : List (Scalar × Data) → Data) → List (Node × Node) → Built
  | 0, _, _, _, _ => .failed .malformed
  | fuel + 1, around, place, make, entries =>
    match allEntries root (fuel + 1) [] place entries with
    | .error f => .collection place (make []) [.here f] []
    | .ok all =>
      .ofEntries place make (all.map fun (k, v) =>
        (build root fuel (place :: around) k, build root fuel (place :: around) v))
end

end Root

/-- The value of a document; nothing is in an empty one. -/
def parse (text : String) : Except Fault Data :=
  let ts := tokens text
  match document ts with
  | .error f => .error f
  | .ok none => .ok (.scalar .null)
  | .ok (some root) =>
    let built := root.build (8 * ts.length + 8) [] root.node
    match built.fault with
    | some (_, f) => .error f
    | none => .ok built.data

end BlockTypes.Config.Yaml
