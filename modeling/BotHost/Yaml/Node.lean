/-
The nodes of a YAML document: scalars, sequences and mappings. An alias stands for the node that its
anchor was last given to.
-/

import BotHost.Yaml.Token

namespace BotHost.Yaml

inductive Node where
  | protected scalar (text : String) (plain : Bool) (tag : Option String)
  | protected sequence (items : List Node) (tag : Option String)
  | protected mapping (pairs : List (Node × Node)) (tag : Option String)
deriving Repr

/-- The node of a missing value. -/
def Node.empty : Node := .scalar "" true none

/-- What the handles of tags stand for: those of the document in front of the standard ones. -/
abbrev TagHandles := List (String × String)

namespace TagHandles

def standard : TagHandles := [("!", "!"), ("!!", "tag:yaml.org,2002:")]

/-- The full name of a tag. -/
def resolve? (handles : TagHandles) (handle suffix : String) : Option String :=
  if handle.isEmpty then some suffix
  else (handles.find? fun entry => entry.1 == handle).map fun entry => entry.2 ++ suffix

end TagHandles

/-- What has not been read yet, what the handles of tags stand for, and the nodes with anchors, the
last first. -/
structure Reading where
  tokens : List Token
  handles : TagHandles := .standard
  anchors : List (String × Node) := []

/-- The anchor and the tag in front of a node. -/
structure Properties where
  anchor : Option String := none
  tag : Option String := none

namespace Properties

/-- Takes an anchor and a tag in either order, at most one of each. -/
def take? (handles : TagHandles) (tokens : List Token) : Option (Properties × List Token) :=
  match tokens with
  | .anchor name :: .tag handle suffix :: rest | .tag handle suffix :: .anchor name :: rest =>
    (handles.resolve? handle suffix).map fun tag => (⟨some name, some tag⟩, rest)
  | .anchor name :: rest => some (⟨some name, none⟩, rest)
  | .tag handle suffix :: rest =>
    (handles.resolve? handle suffix).map fun tag => (⟨none, some tag⟩, rest)
  | rest => some ({}, rest)

def isEmpty (properties : Properties) : Bool :=
  properties.anchor.isNone && properties.tag.isNone

/-- Gives a node its anchor. -/
def anchored (properties : Properties) (result : Node × Reading) : Node × Reading :=
  match properties.anchor with
  | some name => (result.1, { result.2 with anchors := (name, result.1) :: result.2.anchors })
  | none => result

end Properties

/-- Whether a token is one of those that end a missing node of a block mapping. -/
def endsBlockValue : Token → Bool
  | .key | .value | .blockEnd => true
  | _ => false

mutual

/-- Reads a node. Block collections are there only outside brackets, and only a key or a value of a
block mapping may be a sequence without an indentation of its own. -/
def readNode? : (fuel : Nat) → (block bare : Bool) → Reading → Option (Node × Reading)
  | 0, _, _, _ => none
  | fuel + 1, block, bare, reading => do
    match reading.tokens with
    | .alias name :: rest =>
      let (_, node) ← reading.anchors.find? fun anchor => anchor.1 == name
      some (node, { reading with tokens := rest })
    | tokens =>
      let (properties, tokens) ← Properties.take? reading.handles tokens
      let tag := properties.tag
      let inside (rest : List Token) : Reading := { reading with tokens := rest }
      match tokens with
      | .entry :: _ =>
        if bare then
          let (items, reading) ← readBareEntries? fuel [] (inside tokens)
          some (properties.anchored (.sequence items tag, reading))
        else if properties.isEmpty then none
        else some (properties.anchored (.scalar "" true tag, inside tokens))
      | .scalar text plain :: rest =>
        some (properties.anchored (.scalar text plain tag, inside rest))
      | .flowSequence :: rest =>
        let (items, reading) ← readFlowItems? fuel [] (inside rest)
        some (properties.anchored (.sequence items tag, reading))
      | .flowMapping :: rest =>
        let (pairs, reading) ← readFlowPairs? fuel [] (inside rest)
        some (properties.anchored (.mapping pairs tag, reading))
      | .blockSequence :: rest =>
        if block then
          let (items, reading) ← readBlockEntries? fuel [] (inside rest)
          some (properties.anchored (.sequence items tag, reading))
        else if properties.isEmpty then none
        else some (properties.anchored (.scalar "" true tag, inside tokens))
      | .blockMapping :: rest =>
        if block then
          let (pairs, reading) ← readBlockPairs? fuel [] (inside rest)
          some (properties.anchored (.mapping pairs tag, reading))
        else if properties.isEmpty then none
        else some (properties.anchored (.scalar "" true tag, inside tokens))
      | _ =>
        if properties.isEmpty then none
        else some (properties.anchored (.scalar "" true tag, inside tokens))

/-- Reads the entries of a block sequence up to its end. -/
def readBlockEntries? : (fuel : Nat) → (done : List Node) → Reading → Option (List Node × Reading)
  | 0, _, _ => none
  | fuel + 1, done, reading =>
    match reading.tokens with
    | .blockEnd :: rest => some (done.reverse, { reading with tokens := rest })
    | .entry :: rest =>
      match rest with
      | .entry :: _ | .blockEnd :: _ =>
        readBlockEntries? fuel (.empty :: done) { reading with tokens := rest }
      | _ => do
        let (node, reading) ← readNode? fuel true false { reading with tokens := rest }
        readBlockEntries? fuel (node :: done) reading
    | _ => none

/-- Reads the entries of a sequence without an indentation of its own. -/
def readBareEntries? : (fuel : Nat) → (done : List Node) → Reading → Option (List Node × Reading)
  | 0, _, _ => none
  | fuel + 1, done, reading =>
    match reading.tokens with
    | .entry :: rest =>
      match rest with
      | .entry :: _ | .key :: _ | .value :: _ | .blockEnd :: _ =>
        readBareEntries? fuel (.empty :: done) { reading with tokens := rest }
      | _ => do
        let (node, reading) ← readNode? fuel true false { reading with tokens := rest }
        readBareEntries? fuel (node :: done) reading
    | _ => some (done.reverse, reading)

/-- Reads a key or a value of a block mapping, which may be missing. -/
def readBlockPart? : (fuel : Nat) → Reading → Option (Node × Reading)
  | 0, _ => none
  | fuel + 1, reading =>
    if reading.tokens.head?.any endsBlockValue then some (.empty, reading)
    else readNode? fuel true true reading

/-- Reads the pairs of a block mapping up to its end. -/
def readBlockPairs? : (fuel : Nat) → (done : List (Node × Node)) → Reading →
    Option (List (Node × Node) × Reading)
  | 0, _, _ => none
  | fuel + 1, done, reading =>
    match reading.tokens with
    | .blockEnd :: rest => some (done.reverse, { reading with tokens := rest })
    | .key :: rest => do
      let (key, reading) ← readBlockPart? fuel { reading with tokens := rest }
      match reading.tokens with
      | .value :: rest =>
        let (value, reading) ← readBlockPart? fuel { reading with tokens := rest }
        readBlockPairs? fuel ((key, value) :: done) reading
      | _ => readBlockPairs? fuel ((key, .empty) :: done) reading
    | _ => none

/-- Reads the items of a sequence in brackets up to its end. A single pair among them is a mapping. -/
def readFlowItems? : (fuel : Nat) → (done : List Node) → Reading → Option (List Node × Reading)
  | 0, _, _ => none
  | fuel + 1, done, reading => do
    match reading.tokens with
    | .flowSequenceEnd :: rest => some (done.reverse, { reading with tokens := rest })
    | tokens =>
      let (node, reading) ← match tokens with
        | .key :: rest => do
          let (pair, reading) ← readSinglePair? fuel { reading with tokens := rest }
          some (Node.mapping [pair] none, reading)
        | _ => readNode? fuel false false reading
      match reading.tokens with
      | .comma :: rest => readFlowItems? fuel (node :: done) { reading with tokens := rest }
      | .flowSequenceEnd :: rest => some ((node :: done).reverse, { reading with tokens := rest })
      | _ => none

/-- Reads a key or a value in brackets, which may be missing. -/
def readFlowPart? : (fuel : Nat) → Reading → Option (Node × Reading)
  | 0, _ => none
  | fuel + 1, reading =>
    match reading.tokens with
    | .value :: _ | .comma :: _ | .flowMappingEnd :: _ | .flowSequenceEnd :: _ =>
      some (.empty, reading)
    | _ => readNode? fuel false false reading

/-- Reads the value of a pair in brackets, which may be missing together with its colon. -/
def readFlowValue? : (fuel : Nat) → (key : Node) → Reading → Option ((Node × Node) × Reading)
  | 0, _, _ => none
  | fuel + 1, key, reading => do
    match reading.tokens with
    | .value :: rest =>
      let (value, reading) ← readFlowPart? fuel { reading with tokens := rest }
      some ((key, value), reading)
    | _ => some ((key, .empty), reading)

/-- Reads a pair in brackets, from behind the token that announces its key. -/
def readFlowPair? : (fuel : Nat) → Reading → Option ((Node × Node) × Reading)
  | 0, _ => none
  | fuel + 1, reading => do
    let (key, reading) ← readFlowPart? fuel reading
    readFlowValue? fuel key reading

/-- Reads the pair that is an item of a sequence in brackets. What stands in place of a missing key is
passed over. -/
def readSinglePair? : (fuel : Nat) → Reading → Option ((Node × Node) × Reading)
  | 0, _ => none
  | fuel + 1, reading => do
    match reading.tokens with
    | .value :: rest | .comma :: rest | .flowSequenceEnd :: rest =>
      readFlowValue? fuel .empty { reading with tokens := rest }
    | _ =>
      let (key, reading) ← readNode? fuel false false reading
      readFlowValue? fuel key reading

/-- Reads the pairs of a mapping in brackets up to its end. -/
def readFlowPairs? : (fuel : Nat) → (done : List (Node × Node)) → Reading →
    Option (List (Node × Node) × Reading)
  | 0, _, _ => none
  | fuel + 1, done, reading => do
    match reading.tokens with
    | .flowMappingEnd :: rest => some (done.reverse, { reading with tokens := rest })
    | tokens =>
      let (pair, reading) ← match tokens with
        | .key :: rest => readFlowPair? fuel { reading with tokens := rest }
        | _ => do
          let (key, reading) ← readNode? fuel false false reading
          some ((key, Node.empty), reading)
      match reading.tokens with
      | .comma :: rest => readFlowPairs? fuel (pair :: done) { reading with tokens := rest }
      | .flowMappingEnd :: rest => some ((pair :: done).reverse, { reading with tokens := rest })
      | _ => none

end

/-! ### Documents -/

/-- Whether a token is one of those between documents. -/
def isBoundary : Token → Bool
  | .version _ _ | .tagHandle _ _ | .documentStart | .documentEnd | .streamEnd => true
  | _ => false

/-- Reads the directives of a document: one version at most, which has to be 1.1 or 1.2, and no handle
twice. Gives the handles and the tokens behind. -/
def readDirectives? (versioned : Bool) (handles : TagHandles) : List Token →
    Option (TagHandles × List Token)
  | .version major minor :: rest =>
    if versioned || major ≠ 1 || (minor ≠ 1 && minor ≠ 2) then none
    else readDirectives? true handles rest
  | .tagHandle handle start :: rest =>
    if handles.any fun entry => entry.1 == handle then none
    else readDirectives? versioned ((handle, start) :: handles) rest
  | tokens => some (handles, tokens)

/-- The node of a document whose directives and start have been read, and the tokens behind it. -/
def readRoot? (handles : TagHandles) (tokens : List Token) : Option (Node × List Token) :=
  (readNode? (5 * tokens.length + 5) true false
    { tokens, handles := handles ++ .standard }).map fun (node, reading) => (node, reading.tokens)

/-- Whether nothing but ends of documents is left. -/
def isOver (tokens : List Token) : Bool :=
  tokens.dropWhile (· == .documentEnd) == [.streamEnd]

/-- The only document of a stream: none if there is no document in it, and no result if there is more
than one. -/
def document? (tokens : List Token) : Option (Option Node) := do
  let (node, rest) ← match tokens with
    | [.streamEnd] => return none
    | .version _ _ :: _ | .tagHandle _ _ :: _ | .documentStart :: _ =>
      match ← readDirectives? false [] tokens with
      | (handles, .documentStart :: rest) =>
        if rest.head?.any isBoundary then some (Node.empty, rest) else readRoot? handles rest
      | _ => none
    | _ => readRoot? [] tokens
  if isOver rest then some (some node) else none

end BotHost.Yaml
