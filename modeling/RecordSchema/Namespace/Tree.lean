import RecordSchema.Namespace.Ident
import RecordSchema.Event
import RecordSchema.KeyMap

set_option autoImplicit false

/-!
The tree of namespaces. Nodes are numbered in the order of their creation from the root, 0; they
are created on demand and never replaced.
-/

namespace RecordSchema

structure Namespace where
  name : String
  qualifiedName : String
  parent : Option Nat
  children : KeyMap Nat
  /-- The names bound here and the keys of the types that they mean. -/
  bindings : KeyMap String

namespace Namespace

def root : Namespace := ⟨"", "", none, .empty, .empty⟩

end Namespace

structure NamespaceTree where
  nodes : List Namespace

namespace NamespaceTree

def empty : NamespaceTree := ⟨[Namespace.root]⟩

def size (t : NamespaceTree) : Nat := t.nodes.length

def get (t : NamespaceTree) (id : Nat) : Namespace := t.nodes.getD id Namespace.root

/-- The child of a node, created if it is missing. -/
def findOrCreate (t : NamespaceTree) (parent : Nat) (segment : String) : NamespaceTree × Nat :=
  match (t.get parent).children.get? segment with
  | some existing => (t, existing)
  | none =>
      let id := t.size
      let node : Namespace :=
        ⟨segment, qualify (t.get parent).qualifiedName segment, some parent, .empty, .empty⟩
      let linked := t.nodes.modify parent fun p =>
        { p with children := p.children.insert segment id }
      (⟨linked ++ [node]⟩, id)

/-- Goes down from a node by path segments, which become names; blank segments are skipped. Nodes
created before a segment fails stay. -/
def namespaceFor (t : NamespaceTree) (current : Nat) :
    List String → NamespaceTree × Except DefinitionFault Nat
  | [] => (t, .ok current)
  | segment :: rest =>
      match Text.nonBlank? segment with
      | none => t.namespaceFor current rest
      | some trimmed =>
          match Namespace.ident trimmed with
          | .error fault => (t, .error fault)
          | .ok name =>
              let (t, child) := t.findOrCreate current name
              t.namespaceFor child rest

def descendTo? (t : NamespaceTree) (current : Nat) : List String → Option Nat
  | [] => some current
  | name :: rest =>
      ((t.get current).children.get? name).bind fun child => t.descendTo? child rest

/-- The node of a qualified name. -/
def find? (t : NamespaceTree) (qualifiedName : String) : Option Nat :=
  t.descendTo? 0
    (((separated qualifiedName.toList).filter fun part => !part.isEmpty).map String.ofList)

/-- A name bound again means the new key. -/
def bind (t : NamespaceTree) (id : Nat) (name key : String) : NamespaceTree :=
  ⟨t.nodes.modify id fun node => { node with bindings := node.bindings.insert name key }⟩

/-- Each node that is new since an earlier state of the tree is announced. -/
def creationLog (earlier later : NamespaceTree) : List Event :=
  (later.nodes.drop earlier.size).map fun node =>
    ⟨.debug, "creating namespace", [("namespace", node.qualifiedName)]⟩

end NamespaceTree

end RecordSchema
