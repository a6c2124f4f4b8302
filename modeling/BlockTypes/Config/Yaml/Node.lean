import BlockTypes.Config.Yaml.Token

/-!
# Nodes of a document

The tokens of a document form a tree of nodes, each with its tag. A node with a name can be used again
after it, and also inside it; a name is given once. A collection has a place of its own, which is the
number of tokens from its start on. The functions here read a part of the tree and give what is left
of the tokens; `fuel` bounds how deep they call each other, and there are never more calls one inside
the other than a few for each token.
-/

namespace BlockTypes.Config.Yaml

/-- A scalar, a list of nodes, or a mapping from nodes to nodes, with its tag, or a collection that is
used inside itself. -/
inductive Node where
  | scalar (tag : Tag) (text : WideText)
  | list (place : Nat) (tag : Tag) (items : List Node)
  | map (place : Nat) (tag : Tag) (entries : List (Node × Node))
  | inside (place : Nat)

/-- The tag of a node. -/
def Node.tag : Node → Tag
  | scalar t _ => t
  | list _ t _ => t
  | map _ t _ => t
  | inside _ => .map

/-- The place of a collection. -/
def Node.place? : Node → Option Nat
  | scalar _ _ => none
  | list p _ _ => some p
  | map p _ _ => some p
  | inside p => some p

/-- The node where nothing is written. -/
def Node.empty : Node := .scalar .null ""

/-- What is left of the tokens, the nodes that have names, all names that were given, with the places
of their nodes, and what the handles of tags stand for. -/
structure Remainder where
  tokens : List Token
  named : List (String × Node)
  places : List (String × Nat)
  handles : List (String × String)

namespace Remainder

/-- The remainder with other tokens. -/
def withTokens (r : Remainder) (ts : List Token) : Remainder := { r with tokens := ts }

/-- The fault of a remainder that cannot be read on. -/
def fault (r : Remainder) : Fault :=
  match r.tokens with
  | .fault f :: _ => f
  | _ => .malformed

/-- The place of what comes next. -/
def place (r : Remainder) : Nat := r.tokens.length

/-- The node of a name, which may still be in reading. -/
def find? (r : Remainder) (name : String) : Option Node :=
  (r.named.lookup name).or ((r.places.lookup name).map .inside)

/-- Whether the next token is one of the given ones. -/
def nextIn (r : Remainder) (among : List Token) : Bool := r.tokens.head?.any among.contains

end Remainder

/-- Where a node stands: in a flow collection, in a block collection, or in a block mapping, where a
list may be indented no deeper than its key. -/
inductive Around where
  | flow
  | block
  | mapping
deriving DecidableEq

/-- What is written as the tag of a node: nothing, an exclamation mark alone, or a tag. -/
inductive Tagging where
  | absent
  | bare
  | tag (t : Tag)

namespace Tagging

/-- The tag of a scalar. Where it is not written, a plain one has it by its look. -/
def scalarTag (tagging : Tagging) (text : WideText) (plain : Bool) : Tag :=
  match tagging with
  | absent => if plain then .ofWord text else .text
  | bare => .ofWord text
  | tag t => t

/-- The tag of a collection, which is `usual` where none is written. -/
def collectionTag (tagging : Tagging) (usual : Tag) : Tag :=
  match tagging with
  | tag t => t
  | _ => usual

end Tagging

/-- What stands before a node. -/
structure Properties where
  anchor : Option String
  tagging : Tagging

/-- What a tag stands for; its handle must be known. -/
def tagging? (handles : List (String × String)) (mark : TagMark) : Option Tagging :=
  let full := match mark.handle with
    | none => some mark.suffix
    | some handle => (handles.lookup handle).map (· ++ mark.suffix)
  full.map fun uri => if uri = "!" then .bare else .tag (.ofUri uri)

/-- The name and the tag before a node, in either order, and what is left. A name must be new. What
follows is known before a name is found not to be, and where a tag stands alone also before its handle
is found to be unknown. -/
def properties (r : Remainder) : Except Fault (Properties × Remainder) :=
  let (anchor, mark, rest) := match r.tokens with
    | .anchor a :: .tag t :: rest => (some a, some t, rest)
    | .anchor a :: rest => (some a, none, rest)
    | .tag t :: .anchor a :: rest => (some a, some t, rest)
    | .tag t :: rest => (none, some t, rest)
    | rest => (none, none, rest)
  match mark.map (tagging? r.handles), anchor with
  | some none, none => .error (r.withTokens rest).fault
  | some none, some _ => .error .malformed
  | tagging, anchor =>
    if anchor.any fun a => (r.places.lookup a).isSome then .error (r.withTokens rest).fault
    else
      .ok (⟨anchor, (tagging.bind id).getD .absent⟩,
        { r with tokens := rest, places := (anchor.map (·, rest.length)).toList ++ r.places })

/-- Gives a node its name. -/
def Remainder.name (r : Remainder) (anchor : Option String) (n : Node) : Remainder :=
  { r with named := (anchor.map (·, n)).toList ++ r.named }

mutual
/-- One node, with what stands before it. -/
def node : (fuel : Nat) → Around → Remainder → Except Fault (Node × Remainder)
  | 0, _, _ => .error .malformed
  | fuel + 1, around, r =>
    match r.tokens with
    | .alias name :: rest =>
      match r.find? name with
      | some n => .ok (n, r.withTokens rest)
      | none => .error .malformed
    | _ =>
      match properties r with
      | .error f => .error f
      | .ok (p, r) =>
        match content fuel around p r with
        | .error f => .error f
        | .ok (n, r) => .ok (n, r.name p.anchor n)

/-- What follows the name and the tag of a node. If there is one of them, it may be nothing. -/
def content : (fuel : Nat) → Around → Properties → Remainder → Except Fault (Node × Remainder)
  | 0, _, _, _ => .error .malformed
  | fuel + 1, around, p, r =>
    let listTag := p.tagging.collectionTag .list
    let mapTag := p.tagging.collectionTag .map
    let otherwise : Except Fault (Node × Remainder) :=
      match p, r.tokens with
      | _, .fault f :: _ => .error f
      | ⟨none, .absent⟩, _ => .error .malformed
      | _, _ => .ok (.scalar (p.tagging.scalarTag "" true) "", r)
    match r.tokens, around with
    | .scalar text plain :: rest, _ =>
      .ok (.scalar (p.tagging.scalarTag text plain) text, r.withTokens rest)
    | .openList :: rest, _ => flowItems fuel (.list r.place listTag) true (r.withTokens rest) []
    | .openMap :: rest, _ => flowEntries fuel (.map r.place mapTag) true (r.withTokens rest) []
    | .sequenceStart :: _, .flow => otherwise
    | .sequenceStart :: rest, _ => blockItems fuel (.list r.place listTag) (r.withTokens rest) []
    | .mappingStart :: _, .flow => otherwise
    | .mappingStart :: rest, _ => blockEntries fuel (.map r.place mapTag) (r.withTokens rest) []
    | .entry :: _, .mapping => bareItems fuel (.list r.place listTag) r []
    | _, _ => otherwise

/-- One node, or the empty one where one of the given tokens comes. -/
def nodeUnless : (fuel : Nat) → Around → (among : List Token) → Remainder →
    Except Fault (Node × Remainder)
  | 0, _, _, _ => .error .malformed
  | fuel + 1, around, among, r => if r.nextIn among then .ok (.empty, r) else node fuel around r

/-- The node after a key, if there is a colon. -/
def nodeAfter : (fuel : Nat) → Around → (among : List Token) → Remainder →
    Except Fault (Node × Remainder)
  | 0, _, _, _ => .error .malformed
  | fuel + 1, around, among, r =>
    match r.tokens with
    | .value :: rest => nodeUnless fuel around among (r.withTokens rest)
    | _ => .ok (.empty, r)

/-- The key and the value of an entry after the token that announces the key. `ends` are the tokens
that end the entry. -/
def entry : (fuel : Nat) → Around → (ends : List Token) → Remainder →
    Except Fault ((Node × Node) × Remainder)
  | 0, _, _, _ => .error .malformed
  | fuel + 1, around, ends, r =>
    match nodeUnless fuel around (.value :: ends) r with
    | .error f => .error f
    | .ok (k, r) =>
      let ends := if around = .flow then ends else .value :: ends
      match nodeAfter fuel around ends r with
      | .error f => .error f
      | .ok (v, r) => .ok ((k, v), r)

/-- The items of a list in block form, to its end. -/
def blockItems : (fuel : Nat) → (List Node → Node) → Remainder → List Node →
    Except Fault (Node × Remainder)
  | 0, _, _, _ => .error .malformed
  | fuel + 1, make, r, items =>
    match r.tokens with
    | .entry :: rest =>
      match nodeUnless fuel .block [.entry, .blockEnd] (r.withTokens rest) with
      | .error f => .error f
      | .ok (n, r) => blockItems fuel make r (items ++ [n])
    | .blockEnd :: rest => .ok (make items, r.withTokens rest)
    | _ => .error r.fault

/-- The items of a list in block form that is indented no deeper than its key. -/
def bareItems : (fuel : Nat) → (List Node → Node) → Remainder → List Node →
    Except Fault (Node × Remainder)
  | 0, _, _, _ => .error .malformed
  | fuel + 1, make, r, items =>
    match r.tokens with
    | .entry :: rest =>
      match nodeUnless fuel .block [.entry, .key, .value, .blockEnd] (r.withTokens rest) with
      | .error f => .error f
      | .ok (n, r) => bareItems fuel make r (items ++ [n])
    | _ => .ok (make items, r)

/-- The entries of a mapping in block form, to its end. -/
def blockEntries : (fuel : Nat) → (List (Node × Node) → Node) → Remainder → List (Node × Node) →
    Except Fault (Node × Remainder)
  | 0, _, _, _ => .error .malformed
  | fuel + 1, make, r, entries =>
    match r.tokens with
    | .key :: rest =>
      match entry fuel .mapping [.key, .blockEnd] (r.withTokens rest) with
      | .error f => .error f
      | .ok (e, r) => blockEntries fuel make r (entries ++ [e])
    | .blockEnd :: rest => .ok (make entries, r.withTokens rest)
    | _ => .error r.fault

/-- The items of a list in flow form; one of them may be a single entry of a mapping. -/
def flowItems : (fuel : Nat) → (List Node → Node) → (first : Bool) → Remainder → List Node →
    Except Fault (Node × Remainder)
  | 0, _, _, _, _ => .error .malformed
  | fuel + 1, make, first, r, items =>
    match r.tokens, first with
    | .closeList :: rest, _ => .ok (make items, r.withTokens rest)
    | .comma :: rest, false => flowItem fuel make (r.withTokens rest) items
    | _, true => flowItem fuel make r items
    | _, _ => .error r.fault

/-- One item of a list in flow form, and those after it. -/
def flowItem : (fuel : Nat) → (List Node → Node) → Remainder → List Node →
    Except Fault (Node × Remainder)
  | 0, _, _, _ => .error .malformed
  | fuel + 1, make, r, items =>
    match r.tokens with
    | .closeList :: rest => .ok (make items, r.withTokens rest)
    | .key :: rest =>
      match entry fuel .flow [.comma, .closeList] (r.withTokens rest) with
      | .error f => .error f
      | .ok (e, after) => flowItems fuel make false after (items ++ [.map r.place .map [e]])
    | _ =>
      match node fuel .flow r with
      | .error f => .error f
      | .ok (n, r) => flowItems fuel make false r (items ++ [n])

/-- The entries of a mapping in flow form. -/
def flowEntries : (fuel : Nat) → (List (Node × Node) → Node) → (first : Bool) → Remainder →
    List (Node × Node) → Except Fault (Node × Remainder)
  | 0, _, _, _, _ => .error .malformed
  | fuel + 1, make, first, r, entries =>
    match r.tokens, first with
    | .closeMap :: rest, _ => .ok (make entries, r.withTokens rest)
    | .comma :: rest, false => flowEntry fuel make (r.withTokens rest) entries
    | _, true => flowEntry fuel make r entries
    | _, _ => .error r.fault

/-- One entry of a mapping in flow form, and those after it. A key without a colon has no value. -/
def flowEntry : (fuel : Nat) → (List (Node × Node) → Node) → Remainder → List (Node × Node) →
    Except Fault (Node × Remainder)
  | 0, _, _, _ => .error .malformed
  | fuel + 1, make, r, entries =>
    match r.tokens with
    | .closeMap :: rest => .ok (make entries, r.withTokens rest)
    | .key :: rest =>
      match entry fuel .flow [.comma, .closeMap] (r.withTokens rest) with
      | .error f => .error f
      | .ok (e, r) => flowEntries fuel make false r (entries ++ [e])
    | _ =>
      match node fuel .flow r with
      | .error f => .error f
      | .ok (k, r) => flowEntries fuel make false r (entries ++ [(k, .empty)])
end

/-! ## Documents -/

/-- What the handles of tags stand for where no directive says otherwise. -/
def usualHandles : List (String × String) := [("!", "!"), ("!!", Tag.usual)]

/-- The handles that directives at the start of the tokens give a meaning, whether the version was
said, and what is left. The version and a handle are said once, and the version is the first. -/
def directives (handles : List (String × String)) (versioned : Bool) :
    List Token → Except Fault (List (String × String) × List Token)
  | .directive (.version major) :: rest =>
    if versioned || major != 1 then .error .malformed else directives handles true rest
  | .directive (.handle name start) :: rest =>
    if (handles.lookup name).isSome then .error .malformed
    else directives ((name, start) :: handles) versioned rest
  | .directive .reserved :: rest => directives handles versioned rest
  | ts => .ok (handles, ts)

/-- The node that all others are in, and those with names by their places. -/
structure Root where
  node : Node
  named : List (Nat × Node)

/-- Checks that only ends of documents are left. The start of another document is a fault, which is
met after its directives. -/
def finish (n : Node) (r : Remainder) : Except Fault Root :=
  match r.tokens.dropWhile (· == .documentEnd) with
  | [] => .ok ⟨n, r.named.filterMap fun (_, n) => n.place?.map (·, n)⟩
  | ts =>
    match directives [] false ts with
    | .error f => .error f
    | .ok (_, rest) => .error (r.withTokens rest).fault

/-- The root of the one document that the tokens make, if there is one. -/
def document (ts : List Token) : Except Fault (Option Root) :=
  let fuel := 8 * ts.length + 8
  match ts with
  | [] => .ok none
  | .directive _ :: _ | .documentStart :: _ =>
    match directives [] false ts with
    | .error f => .error f
    | .ok (handles, .documentStart :: rest) =>
      let r : Remainder := ⟨rest, [], [], handles ++ usualHandles⟩
      let empty : Bool := match rest with
        | [] => true
        | .directive _ :: _ => true
        | t :: _ => t == .documentStart || t == .documentEnd
      if empty then (finish .empty r).map some
      else (node fuel .block r).bind fun (n, r) => (finish n r).map some
    | .ok (handles, rest) => .error (Remainder.mk rest [] [] handles).fault
  | ts =>
    (node fuel .block ⟨ts, [], [], usualHandles⟩).bind fun (n, r) => (finish n r).map some

end BlockTypes.Config.Yaml
