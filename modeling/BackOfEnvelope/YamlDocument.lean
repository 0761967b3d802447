import BackOfEnvelope.YamlNode
import BackOfEnvelope.YamlScalar

/-!
# Values of YAML documents

The value of a document is that of its node, with every reference replaced by
the value of the node that it refers to.  Sequences and mappings stand at most
128 deep inside each other, counting those that references bring in, and the
count of references that are followed is bounded by the size of the document,
so a document cannot unfold without end.
-/

namespace BackOfEnvelope

namespace YamlNode

/-- The number of the anchor of a node. -/
def anchor? : YamlNode → Option Nat
  | .reference _ => none
  | .scalar anchor _ _ _ => anchor
  | .sequence anchor _ _ => anchor
  | .mapping anchor _ _ => anchor

mutual

/-- A node and the nodes inside it, in the order of the document. -/
def preorder : YamlNode → List YamlNode
  | .sequence anchor tag items => .sequence anchor tag items :: preorderItems items
  | .mapping anchor tag entries => .mapping anchor tag entries :: preorderEntries entries
  | node => [node]

/-- The nodes of the items of a sequence. -/
def preorderItems : List YamlNode → List YamlNode
  | [] => []
  | item :: rest => preorder item ++ preorderItems rest

/-- The nodes of the entries of a mapping. -/
def preorderEntries : List (YamlNode × YamlNode) → List YamlNode
  | [] => []
  | (key, value) :: rest => preorder key ++ (preorder value ++ preorderEntries rest)

end

/-- The weight of a node in the bound on references: sequences and mappings
count at their beginning and at their end. -/
def weight : YamlNode → Nat
  | .sequence _ _ _ | .mapping _ _ _ => 2
  | _ => 1

/-- What references need: the nodes with anchors, the last one first, and how
many references may be followed. -/
structure Composition where
  anchored : List (Nat × YamlNode)
  mostReferences : Nat

def composition (root : YamlNode) : Composition :=
  let nodes := root.preorder
  { anchored := (nodes.filterMap fun node => node.anchor?.map fun anchor => (anchor, node)).reverse
    mostReferences := 100 * nodes.foldl (fun total node => total + weight node) 0 }

/-- A step of composing, which counts the references that are followed and may
fail. -/
abbrev Composer := StateT Nat Option

def refuse {α : Type} : Composer α :=
  fun _ => none

/-- The value with its local tag, if there is one. -/
def withTag (tag : Option YamlTagMeaning) (value : Yaml) : Yaml :=
  match tag with
  | some (.named name) => .tagged name value
  | _ => value

/-- The value of a scalar.  The tags of truth values, integers, numbers and null
ask for their spellings.  Under a local tag and without any tag a plain scalar
counts by its spelling and any other is a string. -/
def scalarValue? (tag : Option YamlTagMeaning) (text : String) (plain : Bool) : Option Yaml :=
  match tag with
  | some .boolean => (YamlScalar.truth? text).map .boolean
  | some .integer => YamlScalar.ofIntegerTag? text
  | some .float => (YamlScalar.float? text.toList).map .float
  | some .null => if YamlScalar.isNullWord text then some .null else none
  | some .text => some (.text text)
  | some (.named _) | none => if plain then YamlScalar.ofPlain? text else some (.text text)

/-- Compose the entries of a mapping; no two keys may be the same. -/
def composeEntries (compose : YamlNode → Composer Yaml) (seen : List (Yaml × Yaml)) :
    List (YamlNode × YamlNode) → Composer (List (Yaml × Yaml))
  | [] => return seen.reverse
  | (keyNode, valueNode) :: rest => do
      let key ← compose keyNode
      if seen.any fun entry => Yaml.same entry.1 key then refuse
      else
        let value ← compose valueNode
        composeEntries compose ((key, value) :: seen) rest

/-- Compose a node that is no reference, given how to compose the nodes
inside. -/
def composeContent (inside : Option (YamlNode → Composer Yaml)) : YamlNode → Composer Yaml
  | .reference _ => refuse
  | .scalar _ tag text plain =>
      match scalarValue? tag text plain with
      | some value => return withTag tag value
      | none => refuse
  | .sequence _ tag items =>
      match inside with
      | none => refuse
      | some compose => return withTag tag (.sequence (← items.mapM compose))
  | .mapping _ tag entries =>
      match inside with
      | none => refuse
      | some compose => return withTag tag (.mapping (← composeEntries compose [] entries))

/-- Compose a node, following a reference. -/
def composeNode (document : Composition) (inside : Option (YamlNode → Composer Yaml)) :
    YamlNode → Composer Yaml
  | .reference anchor => do
      let followed := (← get) + 1
      set followed
      if document.mostReferences < followed then refuse
      else
        match document.anchored.lookup anchor with
        | some node => composeContent inside node
        | none => refuse
  | node => composeContent inside node

/-- Compose a node in which `levels` further levels of nesting are allowed. -/
def compose (document : Composition) : Nat → YamlNode → Composer Yaml
  | 0 => composeNode document none
  | levels + 1 => composeNode document (some (compose document levels))

/-- Sequences and mappings stand at most this deep inside each other. -/
def deepestNesting : Nat := 128

/-- The value of the node of a whole document. -/
def toYaml? (root : YamlNode) : Option Yaml :=
  ((compose root.composition deepestNesting root).run 0).map Prod.fst

end YamlNode

/-- Read a text as one YAML document. -/
def Yaml.ofText? (text : String) : Option Yaml :=
  (YamlNode.ofText? text).bind YamlNode.toYaml?

end BackOfEnvelope
