import RecordSchema.Yaml.Lexer

set_option autoImplicit false

/-!
YAML documents as trees. A node may be anchored by a number, and an alias refers to such a number;
what it means is found in the whole document, so that an alias may also stand inside of its own
anchor.
-/

namespace RecordSchema.Yaml

structure Properties where
  anchor : Option Nat
  tag : Option String

inductive Node where
  | reference (anchor : Nat)
  | scalar (properties : Properties) (style : ScalarStyle) (text : String)
  | sequence (properties : Properties) (items : List Node)
  | mapping (properties : Properties) (entries : List (Node × Node))
  deriving Inhabited

namespace Node

def empty : Node := scalar ⟨none, none⟩ .plain ""

def properties : Node → Properties
  | reference _ => ⟨none, none⟩
  | scalar p _ _ => p
  | sequence p _ => p
  | mapping p _ => p

mutual

/-- The number of nodes, where a collection counts twice, for its start and its end. -/
def weight : Node → Nat
  | reference _ => 1
  | scalar _ _ _ => 1
  | sequence _ items => 2 + weightAll items
  | mapping _ entries => 2 + weightEntries entries

def weightAll : List Node → Nat
  | [] => 0
  | n :: rest => n.weight + weightAll rest

def weightEntries : List (Node × Node) → Nat
  | [] => 0
  | (k, v) :: rest => k.weight + v.weight + weightEntries rest

end

mutual

/-- The anchored nodes in the order of their starts. -/
def anchored : Node → List (Nat × Node)
  | reference _ => []
  | scalar p style text => (p.anchor.toList.map fun id => (id, scalar p style text))
  | sequence p items =>
      (p.anchor.toList.map fun id => (id, sequence p items)) ++ anchoredAll items
  | mapping p entries =>
      (p.anchor.toList.map fun id => (id, mapping p entries)) ++ anchoredEntries entries

def anchoredAll : List Node → List (Nat × Node)
  | [] => []
  | n :: rest => n.anchored ++ anchoredAll rest

def anchoredEntries : List (Node × Node) → List (Nat × Node)
  | [] => []
  | (k, v) :: rest => k.anchored ++ v.anchored ++ anchoredEntries rest

end

end Node

/-- What is left of the tokens, the anchors by name, and the handles of tags. -/
structure Remaining where
  tokens : List Token
  anchors : List (String × Nat)
  handles : List (String × String)

namespace Remaining

def next (r : Remaining) : Option Token := r.tokens.head?

def drop (r : Remaining) : Remaining := { r with tokens := r.tokens.drop 1 }

/-- The next token is one of these, or there is none and that is allowed. -/
def nextIsAny (r : Remaining) (tokens : List Token) : Bool := r.next.any tokens.contains

/-- Anchors are numbered by how many names there are; a name used again is not counted twice. -/
def bindAnchor (r : Remaining) (name : Option String) : Option Nat × Remaining :=
  match name with
  | none => (none, r)
  | some name =>
      let id := r.anchors.length
      let others := r.anchors.filter fun e => e.1 != name
      (some id, { r with anchors := (name, id) :: others })

def resolveTag? (r : Remaining) (handle suffix : String) : Option String :=
  if handle.isEmpty then some suffix
  else (r.handles.lookup handle).map fun stem => stem ++ suffix

end Remaining

/-- An anchor name and a tag before a node, in either order. -/
def nodePrefix? (r : Remaining) : Option (Option String × Option String × Remaining) :=
  match r.tokens with
  | .anchor name :: .tag handle suffix :: _ =>
      (r.resolveTag? handle suffix).map fun tag => (some name, some tag, r.drop.drop)
  | .anchor name :: _ => some (some name, none, r.drop)
  | .tag handle suffix :: .anchor name :: _ =>
      (r.resolveTag? handle suffix).map fun tag => (some name, some tag, r.drop.drop)
  | .tag handle suffix :: _ =>
      (r.resolveTag? handle suffix).map fun tag => (none, some tag, r.drop)
  | _ => some (none, none, r)

mutual

/-- A node. Block collections are read only where they may stand, and a sequence that is not
indented only as a part of a mapping. -/
def node? (fuel : Nat) (block indentless : Bool) (r : Remaining) : Option (Node × Remaining) :=
  match fuel with
  | 0 => none
  | fuel + 1 =>
      match r.next with
      | some (.reference name) => (r.anchors.lookup name).map fun id => (.reference id, r.drop)
      | _ =>
          match nodePrefix? r with
          | none => none
          | some (anchorName, tag, r) =>
              let (anchor, r) := r.bindAnchor anchorName
              let properties : Properties := ⟨anchor, tag⟩
              match r.next with
              | some .blockEntry =>
                  if indentless then sequenceNode (indentlessItems? fuel r) properties
                  else bareNode properties r
              | some (.scalar text style) => some (.scalar properties style text, r.drop)
              | some .flowSequenceStart => sequenceNode (flowItems? fuel true r.drop) properties
              | some .flowMappingStart => mappingNode (flowEntries? fuel true r.drop) properties
              | some .blockSequenceStart =>
                  if block then sequenceNode (blockItems? fuel r.drop) properties
                  else bareNode properties r
              | some .blockMappingStart =>
                  if block then mappingNode (blockEntries? fuel r.drop) properties
                  else bareNode properties r
              | _ => bareNode properties r
where
  /-- Only an anchor or a tag make a node without content. -/
  bareNode (properties : Properties) (r : Remaining) : Option (Node × Remaining) :=
    if properties.anchor.isSome || properties.tag.isSome then
      some (.scalar properties .plain "", r)
    else none
  sequenceNode (items : Option (List Node × Remaining)) (properties : Properties) :
      Option (Node × Remaining) :=
    items.map fun (items, r) => (.sequence properties items, r)
  mappingNode (entries : Option (List (Node × Node) × Remaining)) (properties : Properties) :
      Option (Node × Remaining) :=
    entries.map fun (entries, r) => (.mapping properties entries, r)

def blockItems? (fuel : Nat) (r : Remaining) : Option (List Node × Remaining) :=
  match fuel with
  | 0 => none
  | fuel + 1 =>
      match r.next with
      | some .blockEntry =>
          let r := r.drop
          let item? :=
            if r.nextIsAny [.blockEntry, .blockEnd] then some (Node.empty, r)
            else node? fuel true false r
          item?.bind fun (item, r) => (blockItems? fuel r).map fun (items, r) => (item :: items, r)
      | some .blockEnd => some ([], r.drop)
      | _ => none

def indentlessItems? (fuel : Nat) (r : Remaining) : Option (List Node × Remaining) :=
  match fuel with
  | 0 => none
  | fuel + 1 =>
      match r.next with
      | some .blockEntry =>
          let r := r.drop
          let item? :=
            if r.nextIsAny [.blockEntry, .key, .value, .blockEnd] then some (Node.empty, r)
            else node? fuel true false r
          item?.bind fun (item, r) =>
            (indentlessItems? fuel r).map fun (items, r) => (item :: items, r)
      | _ => some ([], r)

def blockEntries? (fuel : Nat) (r : Remaining) : Option (List (Node × Node) × Remaining) :=
  match fuel with
  | 0 => none
  | fuel + 1 =>
      match r.next with
      | some .key =>
          let r := r.drop
          let key? :=
            if r.nextIsAny [.key, .value, .blockEnd] then some (Node.empty, r)
            else node? fuel true true r
          key?.bind fun (key, r) =>
            (blockValue? fuel r).bind fun (value, r) =>
              (blockEntries? fuel r).map fun (entries, r) => ((key, value) :: entries, r)
      | some .blockEnd => some ([], r.drop)
      | _ => none

def blockValue? (fuel : Nat) (r : Remaining) : Option (Node × Remaining) :=
  match fuel with
  | 0 => none
  | fuel + 1 =>
      if r.next == some .value then
        let r := r.drop
        if r.nextIsAny [.key, .value, .blockEnd] then some (Node.empty, r)
        else node? fuel true true r
      else some (Node.empty, r)

def flowItems? (fuel : Nat) (first : Bool) (r : Remaining) : Option (List Node × Remaining) :=
  match fuel with
  | 0 => none
  | fuel + 1 =>
      if r.next == some .flowSequenceEnd then some ([], r.drop)
      else if !first && r.next ≠ some .flowEntry then none
      else
        let r := if first then r else r.drop
        match r.next with
        | some .flowSequenceEnd => some ([], r.drop)
        | some .key =>
            (flowPair? fuel r.drop).bind fun (item, r) =>
              (flowItems? fuel false r).map fun (items, r) => (item :: items, r)
        | _ =>
            (node? fuel false false r).bind fun (item, r) =>
              (flowItems? fuel false r).map fun (items, r) => (item :: items, r)

/-- A mapping of a single entry without braces, behind the token of its key. An empty key takes
the token after it along. -/
def flowPair? (fuel : Nat) (r : Remaining) : Option (Node × Remaining) :=
  match fuel with
  | 0 => none
  | fuel + 1 =>
      let key? :=
        if r.nextIsAny [.value, .flowEntry, .flowSequenceEnd] then some (Node.empty, r.drop)
        else node? fuel false false r
      key?.bind fun (key, r) =>
        let value? :=
          if r.next == some .value then
            let r := r.drop
            if r.nextIsAny [.flowEntry, .flowSequenceEnd] then some (Node.empty, r)
            else node? fuel false false r
          else some (Node.empty, r)
        value?.map fun (value, r) => (.mapping ⟨none, none⟩ [(key, value)], r)

def flowEntries? (fuel : Nat) (first : Bool) (r : Remaining) :
    Option (List (Node × Node) × Remaining) :=
  match fuel with
  | 0 => none
  | fuel + 1 =>
      if r.next == some .flowMappingEnd then some ([], r.drop)
      else if !first && r.next ≠ some .flowEntry then none
      else
        let r := if first then r else r.drop
        match r.next with
        | some .flowMappingEnd => some ([], r.drop)
        | some .key =>
            let r := r.drop
            let key? :=
              if r.nextIsAny [.value, .flowEntry, .flowMappingEnd] then some (Node.empty, r)
              else node? fuel false false r
            key?.bind fun (key, r) =>
              (flowValue? fuel r).bind fun (value, r) =>
                (flowEntries? fuel false r).map fun (entries, r) => ((key, value) :: entries, r)
        | _ =>
            (node? fuel false false r).bind fun (key, r) =>
              (flowEntries? fuel false r).map fun (entries, r) => ((key, Node.empty) :: entries, r)

def flowValue? (fuel : Nat) (r : Remaining) : Option (Node × Remaining) :=
  match fuel with
  | 0 => none
  | fuel + 1 =>
      if r.next == some .value then
        let r := r.drop
        if r.nextIsAny [.flowEntry, .flowMappingEnd] then some (Node.empty, r)
        else node? fuel false false r
      else some (Node.empty, r)

end

/-! Documents -/

def isDirective : Token → Bool
  | .version _ _ => true
  | .tagHandle _ _ => true
  | _ => false

def defaultHandles : List (String × String) := [("!", "!"), ("!!", "tag:yaml.org,2002:")]

/-- The tag handles that the directives before a document declare, each at most once; at most one
version may be given, 1.1 or 1.2. -/
def declaredHandles? : List Token → Bool → List (String × String) → Option (List (String × String))
  | [], _, handles => some handles
  | .version major minor :: rest, hasVersion, handles =>
      if hasVersion || major ≠ 1 || (minor ≠ 1 && minor ≠ 2) then none
      else declaredHandles? rest true handles
  | .tagHandle handle stem :: rest, hasVersion, handles =>
      if (handles.lookup handle).isSome then none
      else declaredHandles? rest hasVersion (handles ++ [(handle, stem)])
  | _ :: rest, hasVersion, handles => declaredHandles? rest hasVersion handles

def content? (tokens : List Token) (handles : List (String × String)) :
    Option (Node × List Token) :=
  (node? (3 * tokens.length + 3) true false ⟨tokens, [], handles⟩).map fun (n, r) => (n, r.tokens)

/-- A document without content before the next one or the end. -/
def isBare (tokens : List Token) : Bool :=
  match tokens with
  | [] => true
  | token :: _ => isDirective token || token == .documentStart || token == .documentEnd

/-- The first document and the tokens behind it. -/
def firstDocument? (tokens : List Token) : Option (Node × List Token) :=
  let directives := tokens.takeWhile isDirective
  let body := tokens.dropWhile isDirective
  match body with
  | .documentStart :: body =>
      (declaredHandles? directives false []).bind fun handles =>
        if isBare body then some (Node.empty, body)
        else content? body (handles ++ defaultHandles)
  | _ => if directives.isEmpty then content? body defaultHandles else none

/-- The only document of a text; inside, none when the text holds no document. -/
def document? (s : String) : Option (Option Node) :=
  (tokens? s).bind fun tokens =>
    if tokens.isEmpty then some none
    else
      (firstDocument? tokens).bind fun (n, rest) =>
        if (rest.dropWhile (· == .documentEnd)).isEmpty then some (some n) else none

end RecordSchema.Yaml
