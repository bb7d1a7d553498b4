/-
BreakCheck/Yaml/Tree/Composition.lean

The first document of a sequence of tokens.

The functions below follow the productions of the YAML grammar.  Each takes the
tokens it needs from a `Progress` and leaves the rest there.  Where a production
needs another token than the one that follows, or tokens run out, the text
breaks off: the fault is recorded, the tree gets a `cut`, and everything around
it ends there.

The `fuel` of the functions is more than twice the number of tokens, of which
every second step takes one.
-/
import BreakCheck.Yaml.Token.Stream
import BreakCheck.Yaml.Tree

namespace BreakCheck.Yaml

/-- How far the tokens have been made into a tree. -/
structure Progress where
  tokens : List Token
  /-- The handles of tags, with what they stand for. -/
  handles : List (String × Tag) := []
  /-- The names of anchors with their numbers; the latest first. -/
  names : List (String × Nat) := []
  anchors : List Anchor := []
  /-- How many beginnings and ends of nodes there have been. -/
  size : Nat := 0
  fault : Option Fault := none

namespace Progress

/-- Whether the text has broken off. -/
def isOver (p : Progress) : Bool := p.fault.isSome

/-- Step over the next token. -/
def skip (p : Progress) : Progress := { p with tokens := p.tokens.tail }

/-- Count a beginning or an end. -/
def count (p : Progress) : Progress := { p with size := p.size + 1 }

/-- Let the text break off. -/
def fail (p : Progress) (fault : Fault := .grammar) : Progress := { p with fault }

/-- Give a number to the name of an anchor.  The number is how many different
names there have been. -/
def number (p : Progress) (name : String) : Nat × Progress :=
  let known := (p.names.map Prod.fst).eraseDups.length
  (known, { p with names := (name, known) :: p.names })

/-- Begin a node, perhaps one with a name. -/
def start (p : Progress) (anchor : Option String) : Option (Nat × Nat) × Progress :=
  match anchor with
  | none => (none, p.count)
  | some name =>
    let (number, p) := p.number name
    (some (number, p.size), p.count)

/-- Keep a node that has a name. -/
def keep (p : Progress) (named : Option (Nat × Nat)) (tree : Tree) : Tree × Progress :=
  match named with
  | none => (tree, p)
  | some (number, position) =>
    (tree, { p with anchors := { number, position, tree } :: p.anchors })

/-- A scalar that is not written, perhaps with a name and a tag. -/
def missing (p : Progress) (anchor : Option String := none) (tag : Option Tag := none) :
    Tree × Progress :=
  let (named, p) := p.start anchor
  p.keep named (.scalar .plain tag "")

/-! ### Properties -/

/-- What stands in front of a node. -/
structure Properties where
  anchor : Option String := none
  tag : Option (String × Tag) := none

/-- Take an anchor and a tag, in either order. -/
def properties (p : Progress) : Properties × Progress :=
  match p.tokens with
  | .anchor name :: .tag handle suffix :: rest =>
    ({ anchor := name, tag := some (handle, suffix) }, { p with tokens := rest })
  | .tag handle suffix :: .anchor name :: rest =>
    ({ anchor := name, tag := some (handle, suffix) }, { p with tokens := rest })
  | .anchor name :: rest => ({ anchor := name }, { p with tokens := rest })
  | .tag handle suffix :: rest => ({ tag := some (handle, suffix) }, { p with tokens := rest })
  | _ => ({}, p)

/-- The tag that a handle and a suffix make; none if the handle is not known. -/
def tagOf? (p : Progress) (handle : String) (suffix : Tag) : Option Tag :=
  if handle.isEmpty then some suffix else (p.handles.lookup handle).map (· ++ suffix)

/-! ### Nodes -/

/-- Where a node stands, as far as its form depends on it. -/
structure Place where
  /-- Whether block collections may begin. -/
  block : Bool
  /-- Whether a sequence may begin that is not indented. -/
  level : Bool

/-- In a block sequence, or at the root. -/
def Place.item : Place := ⟨true, false⟩

/-- In a block mapping. -/
def Place.entry : Place := ⟨true, true⟩

/-- In a flow collection. -/
def Place.flow : Place := ⟨false, false⟩

/-- Whether the tokens go on, but with none of those that end a place. -/
def hasNode (p : Progress) (ends : List Token) : Bool :=
  match p.tokens with
  | [] => true
  | token :: _ => !ends.contains token

mutual

/-- A node. -/
def node (place : Place) : Nat → Progress → Tree × Progress
  | 0, p => (.cut, p.fail)
  | fuel + 1, p =>
    match p.tokens with
    | .reference name :: rest =>
      match p.names.lookup name with
      | some number => (.reference number, { p with tokens := rest }.count)
      | none => (.cut, p.fail .unknownAnchor)
    | _ =>
      let (found, p) := p.properties
      match found.tag.map fun (handle, suffix) => p.tagOf? handle suffix with
      | some none => (.cut, p.fail)
      | resolved =>
        let tag := resolved.join
        match p.tokens with
        | .scalar style text :: _ =>
          let (named, p) := p.skip.start found.anchor
          p.keep named (.scalar style tag text)
        | .flowSequenceStart :: _ =>
          let (named, p) := p.skip.start found.anchor
          let (items, p) := flowItems true fuel p
          p.keep named (.sequence tag items)
        | .flowMappingStart :: _ =>
          let (named, p) := p.skip.start found.anchor
          let (entries, p) := flowEntries true fuel p
          p.keep named (.mapping tag entries)
        | .blockEntry :: _ =>
          if place.level then
            let (named, p) := p.start found.anchor
            let (items, p) := levelItems fuel p
            p.keep named (.sequence tag items)
          else if found.anchor.isSome || tag.isSome then p.missing found.anchor tag
          else (.cut, p.fail)
        | .blockSequenceStart :: _ =>
          if place.block then
            let (named, p) := p.skip.start found.anchor
            let (items, p) := blockItems fuel p
            p.keep named (.sequence tag items)
          else if found.anchor.isSome || tag.isSome then p.missing found.anchor tag
          else (.cut, p.fail)
        | .blockMappingStart :: _ =>
          if place.block then
            let (named, p) := p.skip.start found.anchor
            let (entries, p) := blockEntries fuel p
            p.keep named (.mapping tag entries)
          else if found.anchor.isSome || tag.isSome then p.missing found.anchor tag
          else (.cut, p.fail)
        | [] => (.cut, p.fail)
        -- properties alone make an empty scalar
        | _ =>
          if found.anchor.isSome || tag.isSome then p.missing found.anchor tag
          else (.cut, p.fail)

/-- A node, unless one of the given tokens follows. -/
def nodeUnless (ends : List Token) (place : Place) : Nat → Progress → Tree × Progress
  | 0, p => (.cut, p.fail)
  | fuel + 1, p => if p.hasNode ends then node place fuel p else p.missing

/-- The items of a block sequence, up to its end. -/
def blockItems : Nat → Progress → List Tree × Progress
  | 0, p => ([.cut], p.fail)
  | fuel + 1, p =>
    match p.tokens with
    | .blockEntry :: _ =>
      let (item, p) := nodeUnless [.blockEntry, .blockEnd] .item fuel p.skip
      if p.isOver then ([item], p)
      else
        let (items, p) := blockItems fuel p
        (item :: items, p)
    | .blockEnd :: _ => ([], p.skip.count)
    | _ => ([.cut], p.fail)

/-- The items of a block sequence that is not indented; it ends with its last item. -/
def levelItems : Nat → Progress → List Tree × Progress
  | 0, p => ([.cut], p.fail)
  | fuel + 1, p =>
    match p.tokens with
    | .blockEntry :: _ =>
      let (item, p) := nodeUnless [.blockEntry, .key, .value, .blockEnd] .item fuel p.skip
      if p.isOver then ([item], p)
      else
        let (items, p) := levelItems fuel p
        (item :: items, p)
    | [] => ([.cut], p.fail)
    | _ => ([], p.count)

/-- The entries of a block mapping, up to its end. -/
def blockEntries : Nat → Progress → List (Tree × Tree) × Progress
  | 0, p => ([(.cut, .cut)], p.fail)
  | fuel + 1, p =>
    match p.tokens with
    | .key :: _ =>
      let (key, p) := nodeUnless [.key, .value, .blockEnd] .entry fuel p.skip
      if p.isOver then ([(key, .cut)], p) else blockValue key fuel p
    | .blockEnd :: _ => ([], p.skip.count)
    | _ => ([(.cut, .cut)], p.fail)

/-- The value of a key in a block mapping, and the entries after it. -/
def blockValue (key : Tree) : Nat → Progress → List (Tree × Tree) × Progress
  | 0, p => ([(key, .cut)], p.fail)
  | fuel + 1, p =>
    match p.tokens with
    | [] => ([(key, .cut)], p.fail)
    | token :: _ =>
      let (value, p) :=
        if token = .value then nodeUnless [.key, .value, .blockEnd] .entry fuel p.skip
        else p.missing
      if p.isOver then ([(key, value)], p)
      else
        let (entries, p) := blockEntries fuel p
        ((key, value) :: entries, p)

/-- The items of a flow sequence, up to its end.  A key in it makes an item that is
a mapping with one entry. -/
def flowItems (first : Bool) : Nat → Progress → List Tree × Progress
  | 0, p => ([.cut], p.fail)
  | fuel + 1, p =>
    match p.tokens with
    | .flowSequenceEnd :: _ => ([], p.skip.count)
    | tokens =>
      if !first && tokens.head? != some .flowEntry then ([.cut], p.fail)
      else
        let p := if first then p else p.skip
        match p.tokens with
        | .flowSequenceEnd :: _ => ([], p.skip.count)
        | .key :: _ =>
          let (pair, p) := flowPair fuel p.skip.count
          if p.isOver then ([pair], p)
          else
            let (items, p) := flowItems false fuel p
            (pair :: items, p)
        | _ =>
          let (item, p) := node .flow fuel p
          if p.isOver then ([item], p)
          else
            let (items, p) := flowItems false fuel p
            (item :: items, p)

/-- A single entry in a flow sequence.  If the key is not written, the token in its
place is dropped. -/
def flowPair : Nat → Progress → Tree × Progress
  | 0, p => (.mapping none [(.cut, .cut)], p.fail)
  | fuel + 1, p =>
    let (key, p) :=
      if p.hasNode [.value, .flowEntry, .flowSequenceEnd] then node .flow fuel p
      else p.skip.missing
    if p.isOver then (.mapping none [(key, .cut)], p)
    else
      let (value, p) :=
        match p.tokens with
        | .value :: _ => nodeUnless [.flowEntry, .flowSequenceEnd] .flow fuel p.skip
        | [] => (.cut, p.fail)
        | _ => p.missing
      if p.isOver then (.mapping none [(key, value)], p)
      -- the end of the entry shows only when another token follows
      else if p.tokens.isEmpty then (.mapping none [(key, value), (.cut, .cut)], p.fail)
      else (.mapping none [(key, value)], p.count)

/-- The entries of a flow mapping, up to its end.  A key without an indicator has
no value. -/
def flowEntries (first : Bool) : Nat → Progress → List (Tree × Tree) × Progress
  | 0, p => ([(.cut, .cut)], p.fail)
  | fuel + 1, p =>
    match p.tokens with
    | .flowMappingEnd :: _ => ([], p.skip.count)
    | tokens =>
      if !first && tokens.head? != some .flowEntry then ([(.cut, .cut)], p.fail)
      else
        let p := if first then p else p.skip
        match p.tokens with
        | .flowMappingEnd :: _ => ([], p.skip.count)
        | .key :: _ =>
          let (key, p) := nodeUnless [.value, .flowEntry, .flowMappingEnd] .flow fuel p.skip
          if p.isOver then ([(key, .cut)], p)
          else
            let (value, p) :=
              match p.tokens with
              | .value :: _ => nodeUnless [.flowEntry, .flowMappingEnd] .flow fuel p.skip
              | [] => (.cut, p.fail)
              | _ => p.missing
            if p.isOver then ([(key, value)], p)
            else
              let (entries, p) := flowEntries false fuel p
              ((key, value) :: entries, p)
        | _ =>
          let (key, p) := node .flow fuel p
          if p.isOver then ([(key, .cut)], p)
          else if p.tokens.isEmpty then ([(key, .cut)], p.fail)
          else
            let (value, p) := p.missing
            let (entries, p) := flowEntries false fuel p
            ((key, value) :: entries, p)

end

/-! ### Documents -/

/-- Take the directives in front of a document.  There may be one version, which
has to be 1.1 or 1.2, and one meaning for each handle. -/
def directives : List Token → Bool → List (String × Tag) →
    Option (List Token × List (String × Tag))
  | .versionDirective major minor :: rest, versioned, handles =>
    if versioned || major != 1 || !(minor == 1 || minor == 2) then none
    else directives rest true handles
  | .tagDirective handle start :: rest, versioned, handles =>
    if (handles.lookup handle).isSome then none
    else directives rest versioned (handles ++ [(handle, start)])
  | tokens, _, handles => some (tokens, handles)

/-- The handles that every document knows, unless it gives them another meaning. -/
def commonHandles : List (String × Tag) := [("!", .mark), ("!!", .commonStart)]

/-- Begin the first document: with its directives and a mark, or without either. -/
def begin? (tokens : List Token) : Option (List Token × List (String × Tag) × Bool) :=
  match tokens with
  | .versionDirective .. :: _ | .tagDirective .. :: _ | .documentStart :: _ => do
    let (tokens, handles) ← directives tokens false []
    match tokens with
    | .documentStart :: rest => some (rest, handles ++ commonHandles, true)
    | _ => none
  | tokens => some (tokens, commonHandles, false)

/-- Whether a document follows whose tokens these are.  A document that begins with
a mark may be empty. -/
def rootOf (marked : Bool) (p : Progress) : Tree × Progress :=
  let fuel := 2 * p.tokens.length + 4
  if marked then
    match p.tokens with
    | .versionDirective .. :: _ | .tagDirective .. :: _ | .documentStart :: _
    | .documentEnd :: _ | .streamEnd :: _ => p.missing
    | _ => node .item fuel p
  else node .item fuel p

/-- Whether the text goes on behind a document, marks of its end aside. -/
def goesOn : List Token → Bool
  | .documentEnd :: rest => goesOn rest
  | .streamEnd :: _ => false
  | _ => true

/-- The first document of a sequence of tokens. -/
def firstDocument (tokens : List Token) : Document :=
  match tokens with
  | [] => { root := .cut, anchors := [], size := 0, fault := some .grammar, continues := true }
  | .streamEnd :: _ => { root := .void, anchors := [], size := 1, fault := none, continues := false }
  | tokens =>
    match begin? tokens with
    | none =>
      { root := .cut, anchors := [], size := 0, fault := some .grammar, continues := true }
    | some (rest, handles, marked) =>
      let (root, p) := rootOf marked { tokens := rest, handles }
      let p := if !p.isOver && p.tokens.isEmpty then p.fail else p
      { root
        anchors := p.anchors
        size := p.size
        fault := p.fault
        continues := goesOn p.tokens }

end Progress

/-- The first document of a text. -/
def Document.ofText (text : String) : Document :=
  Progress.firstDocument (Token.ofSource (Source.ofText text))

end BreakCheck.Yaml
