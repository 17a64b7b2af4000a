import HeaderTypes.Document.Yaml.Scalar
import HeaderTypes.Text.Utf8
import HeaderTypes.Text.Word

namespace HeaderTypes.Document.Yaml

/-- The marks of a document and what stands between them. -/
inductive Token
  | version (major : Int)
  | handle (name start : String)
  /-- A directive of no known kind. -/
  | directive
  | documentStart
  | documentEnd
  | sequenceStart
  | mappingStart
  | blockEnd
  | entry
  | key
  | value
  | flowSequenceStart
  | flowSequenceEnd
  | flowMappingStart
  | flowMappingEnd
  | comma
  | anchor (name : String)
  | alias (name : String)
  | tag (handle : Option String) (suffix : String)
  /-- The code points of a text, whose form tells its kind only if it is plain. -/
  | scalar (plain : Bool) (points : List Nat)
  deriving DecidableEq, Repr

/-- The characters of names of anchors, handles and directives. -/
def isNameChar (c : Char) : Bool := c.isAlphanum || c = '-' || c = '_'

/-- The characters of tags; a percent sign begins the number of a byte. -/
def isTagChar (c : Char) : Bool := c.isAlphanum || "-;/?:@&=+$,_.!~*'()[]%".toList.contains c

/-- A space, the end of a line or the end of the text. -/
def endsTag : List Char → Bool
  | [] => true
  | c :: _ => c = ' ' || isBreak c

/-- The bytes that percent signs with two digits each spell, and what follows them. -/
def readBytes : List Char → Option (List UInt8 × List Char)
  | '%' :: a :: b :: s => do
    let byte ← Text.hexNumber? [a, b]
    let (bytes, rest) ← readBytes s
    return (UInt8.ofNat byte :: bytes, rest)
  | '%' :: _ => none
  | s => some ([], s)

theorem readBytes_length_le {s rest : List Char} {bytes : List UInt8}
    (read : readBytes s = some (bytes, rest)) : rest.length ≤ s.length := by
  fun_induction readBytes s generalizing bytes rest with
  | case1 a b s ih =>
    cases digits : Text.hexNumber? [a, b] with
    | none => simp [digits] at read
    | some byte =>
      cases inner : readBytes s with
      | none => simp [digits, inner] at read
      | some parts =>
        obtain ⟨bytes, last⟩ := parts
        simp only [digits, inner, Option.bind_eq_bind, Option.bind_some, Option.pure_def,
          Option.some.injEq, Prod.mk.injEq] at read
        have := ih inner
        rw [← read.2]; simp only [List.length_cons]; omega
  | case2 => simp at read
  | case3 => cases read; simp

/-- A tag with its bytes spelled out. -/
def unescapeTag : List Char → Option (List Char)
  | [] => some []
  | '%' :: a :: b :: s =>
    match Text.hexNumber? [a, b], read : readBytes s with
    | some byte, some (bytes, rest) =>
      have _ := readBytes_length_le read
      match Text.decodeUtf8 (UInt8.ofNat byte :: bytes) with
      | .ok cs => (unescapeTag rest).map (cs ++ ·)
      | .error _ => none
    | _, _ => none
  | c :: s => if c = '%' then none else (unescapeTag s).map (c :: ·)
termination_by s => s.length

/-- The tag at the head of a text, one character at least. -/
def readTagText (s : List Char) : Option (String × List Char) := do
  let text ← unescapeTag (s.takeWhile isTagChar)
  if text = [] then none else some (String.ofList text, s.dropWhile isTagChar)

/-- The handle at the head of a text: an exclamation mark, or a name between two. -/
def readHandle : List Char → Option (String × List Char)
  | '!' :: s =>
    if Text.startsWith (· = ' ') s then some ("!", s)
    else
      match s.dropWhile isNameChar with
      | '!' :: rest => some (String.ofList ('!' :: s.takeWhile isNameChar ++ ['!']), rest)
      | _ => none
  | _ => none

/-- The tag of a value, which stands alone. -/
def readTag (s : List Char) : Option (Token × List Char) := do
  let (token, rest) ← match s with
    | '!' :: '<' :: s => do
      let (text, rest) ← readTagText s
      match rest with
      | '>' :: rest => some (Token.tag none text, rest)
      | _ => none
    | '!' :: s =>
      if endsWord s then some (Token.tag none "!", s)
      else if (s.takeWhile fun c => c != ' ' && !isBreak c).contains '!' then do
        let (handle, rest) ← readHandle ('!' :: s)
        let (text, rest) ← readTagText rest
        some (Token.tag (some handle) text, rest)
      else do
        let (text, rest) ← readTagText s
        some (Token.tag (some "!") text, rest)
    | _ => none
  if endsTag rest then some (token, rest) else none

/-- A name and a blank, a mark or the end after it. -/
def readAnchorName (s : List Char) : Option (String × List Char) :=
  let name := s.takeWhile isNameChar
  let rest := s.dropWhile isNameChar
  let marked := Text.startsWith (fun c => "?:,]\x7d%@`".toList.contains c) rest
  if name ≠ [] && (endsWord rest || marked) then
    some (String.ofList name, rest)
  else none

/-- The number at the head of a text. -/
def readNumber (s : List Char) : Attempt (Int × List Char) :=
  match s.takeWhile Char.isDigit with
  | [] => .error .malformed
  | digits => do
    let n ← (Decimal.readWhole 10 (Text.pointsOf digits)).mapError Fault.number
    return (n, s.dropWhile Char.isDigit)

/-- A version of two numbers with a point between them. -/
def readVersion (s : List Char) : Attempt (Token × List Char) := do
  let (major, s) ← readNumber (s.dropWhile (· = ' '))
  let s ← Attempt.ofOption (Text.dropText? ['.'] s)
  let (_, s) ← readNumber s
  if endsTag s then return (.version major, s) else .error .malformed

/-- A handle and what it stands for. -/
def readHandleStart (s : List Char) : Option (Token × List Char) := do
  let (handle, s) ← readHandle (s.dropWhile (· = ' '))
  if !Text.startsWith (· = ' ') s then none
  else
    let (start, s) ← readTagText (s.dropWhile (· = ' '))
    if endsTag s then some (.handle handle start, s) else none

/-- A directive, read from behind its percent sign to the end of its line. -/
def readDirective (s : List Char) : Attempt (Token × List Char) := do
  let name := s.takeWhile isNameChar
  let s := s.dropWhile isNameChar
  if name = [] || !endsTag s then .error .malformed
  else
    let (token, s) ←
      if name = "YAML".toList then readVersion s
      else if name = "TAG".toList then Attempt.ofOption (readHandleStart s)
      else .ok (.directive, s.dropWhile (!isBreak ·))
    let rest ← Attempt.ofOption (restOfLine? s)
    return (token, rest)

/-- A token that becomes a key if a colon follows it on its line, soon enough.
In block collections the first token of a line has to. -/
structure Candidate where
  token : Nat
  required : Bool
  place : Place

/-- How far a text has been cut into tokens. -/
structure Lexer where
  rest : List Char
  place : Place
  /-- The tokens so far, the last one first. -/
  tokens : List Token
  /-- The tokens that turned out to begin a key, and whether a mapping begins there. -/
  keys : List (Nat × Bool)
  candidate : Option Candidate
  /-- The candidates around each open flow collection. -/
  outer : List (Option Candidate)
  /-- The columns of the open block collections, the innermost one first. -/
  indents : List Int
  /-- A key may begin here. -/
  keyAllowed : Bool

namespace Lexer

def start (text : List Char) : Lexer := ⟨text, {}, [], [], none, [], [], true⟩

def inFlow (l : Lexer) : Bool := !l.outer.isEmpty

/-- The column of the innermost block collection. -/
def indent (l : Lexer) : Int := l.indents.headD (-1)

/-- Goes on to a later part of the text. -/
def goTo (l : Lexer) (rest : List Char) : Lexer :=
  { l with rest, place := (l.rest.take (l.rest.length - rest.length)).foldl .after l.place }

def push (l : Lexer) (token : Token) : Lexer := { l with tokens := token :: l.tokens }

/-- Skips spaces, comments and line ends, and tells whether a line has ended. -/
def gap (inComment : Bool) : List Char → Bool × List Char
  | [] => (false, [])
  | c :: s =>
    if isBreak c then (true, (gap false s).2)
    else if inComment || c = '#' then gap true s
    else if c = ' ' then gap false s
    else (false, c :: s)

/-- Goes on to the next token. A key may begin on a new line of a block collection. -/
def skipGap (l : Lexer) : Lexer :=
  let l := if l.place.index = 0 && l.rest.head? = some '\uFEFF' then l.goTo l.rest.tail else l
  let (lineEnded, rest) := gap false l.rest
  let l := l.goTo rest
  if lineEnded && !l.inFlow then { l with keyAllowed := true } else l

/-- A candidate is given up on a later line or after 1024 characters. -/
def stale (l : Lexer) (candidate : Candidate) : Bool :=
  candidate.place.line ≠ l.place.line || l.place.index > candidate.place.index + 1024

/-- Gives up candidates that have become stale, none of which may be required. -/
def dropStale (l : Lexer) : Attempt Lexer :=
  let lost (c : Option Candidate) := c.any fun c => c.required && l.stale c
  if lost l.candidate || l.outer.any lost then .error .malformed
  else
    .ok { l with
      candidate := l.candidate.filter (!l.stale ·)
      outer := l.outer.map (·.filter (!l.stale ·)) }

/-- Gives up the present candidate, which may not be required. -/
def dropCandidate (l : Lexer) : Attempt Lexer :=
  if l.candidate.any (·.required) then .error .malformed else .ok { l with candidate := none }

/-- Makes the next token a candidate if a key may begin here. -/
def save (l : Lexer) : Attempt Lexer :=
  if l.keyAllowed then do
    let l ← l.dropCandidate
    let required := !l.inFlow && l.indent = l.place.column
    return { l with candidate := some ⟨l.tokens.length, required, l.place⟩ }
  else .ok l

/-- Ends the block collections that are further in than a column. -/
def closeBlocks (l : Lexer) (column : Int) : Lexer :=
  if l.inFlow then l
  else
    let closed := (l.indents.takeWhile (column < ·)).length
    { l with
      indents := l.indents.drop closed
      tokens := List.replicate closed .blockEnd ++ l.tokens }

/-- Begins a block collection at a column if that is further in. -/
def openBlock (l : Lexer) (column : Nat) (token : Token) : Lexer :=
  if l.indent < column then { l with indents := column :: l.indents }.push token else l

/-- A mark at the head of a line, after which all blocks are closed. -/
def mark (l : Lexer) (token : Token) (rest : List Char) : Attempt Lexer := do
  let l ← (l.closeBlocks (-1)).dropCandidate
  return { l.push token with keyAllowed := false }.goTo rest

def openFlow (l : Lexer) (token : Token) (rest : List Char) : Attempt Lexer := do
  let l ← l.save
  return { l.push token with
    outer := l.candidate :: l.outer
    candidate := none
    keyAllowed := true }.goTo rest

def closeFlow (l : Lexer) (token : Token) (rest : List Char) : Attempt Lexer := do
  let l ← l.dropCandidate
  match l.outer with
  | [] => .error .malformed
  | candidate :: outer =>
    return { l.push token with candidate, outer, keyAllowed := false }.goTo rest

def comma (l : Lexer) (rest : List Char) : Attempt Lexer := do
  let l ← l.dropCandidate
  return { l.push .comma with keyAllowed := true }.goTo rest

/-- An entry of a sequence, or a key that is told by a question mark. -/
def entry (l : Lexer) (collection token : Token) (keyAllowed : Bool) (rest : List Char) :
    Attempt Lexer := do
  if !l.inFlow && !l.keyAllowed then .error .malformed
  else
    let l := if l.inFlow then l else l.openBlock l.place.column collection
    let l ← l.dropCandidate
    return { l.push token with keyAllowed }.goTo rest

/-- A value. The candidate, if there is one, becomes its key. -/
def value (l : Lexer) (rest : List Char) : Attempt Lexer :=
  match l.candidate with
  | some key =>
    let opens := !l.inFlow && l.indent < key.place.column
    let indents := if opens then (key.place.column : Int) :: l.indents else l.indents
    .ok ({ l.push .value with
      keys := (key.token, opens) :: l.keys
      candidate := none
      indents
      keyAllowed := false }.goTo rest)
  | none => l.entry .mappingStart .value (!l.inFlow) rest

/-- A token that may be a key, or an anchor or tag in front of one. -/
def keyPart (l : Lexer) (read : Attempt (Token × List Char)) : Attempt Lexer := do
  let l ← l.save
  let (token, rest) ← read
  return { l.push token with keyAllowed := false }.goTo rest

def quoted (l : Lexer) (double : Bool) (s : List Char) : Attempt Lexer :=
  l.keyPart <| (readQuoted double s).map fun (points, rest) => (.scalar false points, rest)

def block (l : Lexer) (folded : Bool) (s : List Char) : Attempt Lexer := do
  let l ← l.dropCandidate
  let (text, rest) ← Attempt.ofOption (readBlock? folded l.indent s)
  return { l.push (.scalar false (text.map Char.toNat)) with keyAllowed := true }.goTo rest

def plain (l : Lexer) : Attempt Lexer := do
  let l ← l.save
  let read := readPlain l.inFlow l.indent l.rest
  return { l.push (.scalar true (read.text.map Char.toNat)) with
    keyAllowed := read.lineEnded }.goTo read.rest

/-- A text without quotes may begin with a character that is no mark, or with
some of the marks when a word goes on after them. -/
def beginsPlain (l : Lexer) (c : Char) (s : List Char) : Bool :=
  !(isBlank c || isBreak c || "-?:,[]\x7b\x7d#&*!|>'\"%@`".toList.contains c) ||
    !endsWord s && (c = '-' || !l.inFlow && (c = '?' || c = ':'))

/-- Flow collections inside each other beyond this number are not looked into. -/
def deepest : Nat := 2000

/-- Reads the next token. -/
def next (l : Lexer) : Attempt Lexer := do
  let l ← l.skipGap.dropStale
  let l := l.closeBlocks l.place.column
  match l.rest with
  | [] => (l.closeBlocks (-1)).dropCandidate
  | c :: s =>
    let name (token : String → Token) : Attempt (Token × List Char) :=
      Attempt.ofOption ((readAnchorName s).map fun (name, rest) => (token name, rest))
    if c = '%' && l.place.column = 0 then
      let (token, rest) ← readDirective s
      l.mark token rest
    else if l.place.column = 0 && isMarker l.rest then
      l.mark (if c = '-' then .documentStart else .documentEnd) (l.rest.drop 3)
    else if deepest < l.outer.length then .error .depth
    else if c = '[' then l.openFlow .flowSequenceStart s
    else if c = '\x7b' then l.openFlow .flowMappingStart s
    else if c = ']' then l.closeFlow .flowSequenceEnd s
    else if c = '\x7d' then l.closeFlow .flowMappingEnd s
    else if c = ',' then l.comma s
    else if c = '-' && endsWord s then l.entry .sequenceStart .entry true s
    else if c = '?' && (l.inFlow || endsWord s) then l.entry .mappingStart .key (!l.inFlow) s
    else if c = ':' && (l.inFlow || endsWord s) then l.value s
    else if c = '*' then l.keyPart (name .alias)
    else if c = '&' then l.keyPart (name .anchor)
    else if c = '!' then l.keyPart (Attempt.ofOption (readTag (c :: s)))
    else if c = '|' && !l.inFlow then l.block false s
    else if c = '>' && !l.inFlow then l.block true s
    else if c = '\'' then l.quoted false s
    else if c = '"' then l.quoted true s
    else if l.beginsPlain c s then l.plain
    else .error .malformed

/-- Reads tokens to the end of the text or up to a fault, which comes with the
state before it. Every token takes a character, so a text has no more of them
than it is long. -/
def finish : (fuel : Nat) → Lexer → Lexer × Option Fault
  | 0, l => (l, some .malformed)
  | fuel + 1, l =>
    match l.next with
    | .error fault => (l, some fault)
    | .ok next =>
      if next.rest = [] then
        match next.next with
        | .error fault => (next, some fault)
        | .ok last => (last, none)
      else finish fuel next

/-- Tokens in order, those that begin a key with a mark for it in front. They
are given with the last one first. -/
def withKeys (keys : List (Nat × Bool)) (tokens : List Token) : List Token :=
  tokens.reverse.zipIdx.flatMap fun (token, index) =>
    match keys.lookup index with
    | some true => [.mappingStart, .key, token]
    | some false => [.key, token]
    | none => [token]

/-- The number of tokens that can be told before the next one is read. A token
that may yet become a key cannot be told, nor can those after it. -/
def settled (l : Lexer) : Nat :=
  (((l.candidate :: l.outer).filterMap id).filter (!l.stale ·)).foldl
    (fun count candidate => min count candidate.token) l.tokens.length

end Lexer

/-- The tokens of a text, up to a fault that lies behind them. -/
structure Tokens where
  tokens : List Token
  fault : Option Fault

/-- Cuts a text into tokens. It may hold no character that documents may not hold. -/
def Tokens.ofText (text : List Char) : Tokens :=
  if text.all allowedRanges.holds then
    let (l, fault) := (Lexer.start text).finish (text.length + 1)
    let tokens := if fault.isNone then l.tokens else l.tokens.drop (l.tokens.length - l.settled)
    ⟨Lexer.withKeys l.keys tokens, fault⟩
  else ⟨[], some .malformed⟩

end HeaderTypes.Document.Yaml
