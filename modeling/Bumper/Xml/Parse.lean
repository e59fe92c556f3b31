import Bumper.Xml.Element

/-!
# Bumper — `ElementTree.fromstring`: expat with a tree builder

`parse_data` hands each wrapped chunk to `ET.fromstring`, which runs expat with
namespace processing and ElementTree's `TreeBuilder`, and reads the error text of
the `ParseError` it raises. This module is that parser, as a machine that reads
one character at a time (`feedChar`: the reader `scan` turns it into a token, the
tree builder `build` applies it), so that reading `a ++ b` is reading `a`
and then `b` (`feed_append`); `close` is the end of input.

What is modelled, in expat's order of detection:

* character data with the five predefined entities and character references,
  line-end normalisation, and the characters XML forbids;
* start, empty and end tags with attributes in either quote, whitespace where
  the grammar needs it, and qualified names (one colon, a name on each side);
* namespace declarations and the expansion of element and attribute names to
  `{uri}local`, with expat's errors for duplicate and unbound names and for the
  reserved prefixes and namespace names;
* the tree: text before the first child is the element's `text`, text after a
  child is that child's `tail`;
* comments, processing instructions and CDATA sections, in each place they may
  stand; the tree builder drops comments and processing instructions without
  ending the character data around them, and a CDATA section is character data;
* `]]>` in character data, which expat refuses only when its three characters
  come from one run of data (not across a reference or markup);
* the document element, and what may stand before and after it: expat cuts
  that text into the tokens of a declaration (names, literals, `%`, `#`, `]`,
  `)` and the rest), refuses a malformed one as an invalid token, and a
  complete one as a syntax error before the element and as junk after it;
* the end of input inside markup or inside an element.

Not modelled: a document type declaration reads as a syntax error (expat parses
it), and an XML declaration at the start of the document as a misplaced one
(`wrap` replaces every well-formed one before the parser sees it); every
non-ASCII character counts as a name character. When the input ends inside a
reference or a `<![` that is already malformed, expat and this reader may name
the two errors the other way round (expat checks a reference character by
character, and `CDATA[` only once six characters are there); a wrapped chunk
ends in `</root>`, so `parse_data` never sees the difference.
-/

namespace Bumper.Xml

/-- The errors expat raises for the modelled documents. -/
inductive XmlError
  | syntaxError
  | noElements
  | invalidToken
  | unclosedToken
  | tagMismatch
  | duplicateAttribute
  | junkAfterDocElement
  | undefinedEntity
  | badCharRef
  | unboundPrefix
  | undeclaringPrefix
  | reservedPrefixXml
  | reservedPrefixXmlns
  | reservedNamespaceUri
  | unclosedCdata
  | misplacedXmlPi
  deriving DecidableEq, Repr

/-- `XML_ErrorString`: the text `ParseError.msg` starts with. -/
def XmlError.message : XmlError → String
  | .syntaxError => "syntax error"
  | .noElements => "no element found"
  | .invalidToken => "not well-formed (invalid token)"
  | .unclosedToken => "unclosed token"
  | .tagMismatch => "mismatched tag"
  | .duplicateAttribute => "duplicate attribute"
  | .junkAfterDocElement => "junk after document element"
  | .undefinedEntity => "undefined entity"
  | .badCharRef => "reference to invalid character number"
  | .unboundPrefix => "unbound prefix"
  | .undeclaringPrefix => "must not undeclare prefix"
  | .reservedPrefixXml =>
    "reserved prefix (xml) must not be undeclared or bound to another namespace name"
  | .reservedPrefixXmlns => "reserved prefix (xmlns) must not be declared or undeclared"
  | .reservedNamespaceUri => "prefix must not be bound to one of the reserved namespace names"
  | .unclosedCdata => "unclosed CDATA section"
  | .misplacedXmlPi => "XML or text declaration not at start of entity"

/-! ## Characters and names -/

def isSpace (c : Char) : Bool := c = ' ' || c = '\t' || c = '\n' || c = '\r'

def isNameStart (c : Char) : Bool := c.isAlpha || c = '_' || 0x80 ≤ c.toNat

def isNameChar (c : Char) : Bool :=
  isNameStart c || c.isDigit || c = '.' || c = '-' || c = ':'

/-- A character of the keyword of a declaration `<!…`: an ASCII letter or `_`. -/
def isDeclChar (c : Char) : Bool := c.isAlpha || c = '_'

/-- A character XML 1.0 allows in a document. -/
def isXmlChar (c : Char) : Bool :=
  c = '\t' || c = '\n' || c = '\r' || (0x20 ≤ c.toNat && c.toNat ≠ 0xFFFE && c.toNat ≠ 0xFFFF)

/-- A name without a colon whose first character may start a name. -/
def ncNameOk : List Char → Bool
  | [] => false
  | c :: cs => isNameStart c && cs.all fun d => isNameChar d && d ≠ ':'

/-- A qualified name: a name, or a prefix and a local name around one colon. -/
def qnameOk (name : List Char) : Bool :=
  match Py.splitList ':' name with
  | [n] => ncNameOk n
  | [p, l] => ncNameOk p && ncNameOk l
  | _ => false

/-- The value of a reference `&ref;`: the five predefined entities, `#N` and `#xH`. -/
def refValue (ref : List Char) : Except XmlError Char :=
  let digits (base : Nat) (ds : List Char) : Option Nat :=
    ds.foldl (fun acc d => acc.bind fun n =>
      let v := if d.isDigit then some (d.toNat - 48)
        else if base = 16 && 'a' ≤ d && d ≤ 'f' then some (d.toNat - 87)
        else if base = 16 && 'A' ≤ d && d ≤ 'F' then some (d.toNat - 55)
        else none
      v.map (n * base + ·)) (some 0)
  let ofCode (v : Option Nat) : Except XmlError Char :=
    match v with
    | none => .error .invalidToken
    | some n => if n.isValidChar && isXmlChar (Char.ofNat n) then .ok (Char.ofNat n)
        else .error .badCharRef
  match ref with
  | '#' :: 'x' :: ds@(_ :: _) => ofCode (digits 16 ds)
  | '#' :: ds@(_ :: _) => ofCode (digits 10 ds)
  | _ =>
    if ref = "amp".data then .ok '&' else if ref = "lt".data then .ok '<'
    else if ref = "gt".data then .ok '>' else if ref = "quot".data then .ok '"'
    else if ref = "apos".data then .ok '\x27'
    else if ncNameOk ref then .error .undefinedEntity else .error .invalidToken

/-! ## Namespaces -/

def xmlNamespace : String := "http://www.w3.org/XML/1998/namespace"
def xmlnsNamespace : String := "http://www.w3.org/2000/xmlns/"

/-- Namespace bindings in force, innermost first; prefix `""` is the default
namespace, bound to `""` when undeclared. -/
abbrev Scope := List (String × String)

def initialScope : Scope := [("xml", xmlNamespace)]

/-- The binding an attribute `xmlns` or `xmlns:p` adds, with expat's checks. -/
def declare (scope : Scope) (name : List Char) (value : String) :
    Option (Except XmlError Scope) :=
  match Py.splitList ':' name with
  | [n] =>
    if n = "xmlns".data then
      some <| if value = xmlNamespace || value = xmlnsNamespace then .error .reservedNamespaceUri
        else .ok (("", value) :: scope)
    else none
  | [p, l] =>
    if p = "xmlns".data then
      some <| if l = "xmlns".data then .error .reservedPrefixXmlns
        else if l = "xml".data then
          (if value = xmlNamespace then .ok scope else .error .reservedPrefixXml)
        else if value = "" then .error .undeclaringPrefix
        else if value = xmlNamespace || value = xmlnsNamespace then .error .reservedNamespaceUri
        else .ok ((String.mk l, value) :: scope)
    else none
  | _ => none

/-- ElementTree's name for a qualified name: `{uri}local`, or the name itself when
it is in no namespace. `dflt`: whether the default namespace applies (element
names) or not (attribute names). -/
def expandName (scope : Scope) (dflt : Bool) (name : List Char) : Except XmlError String :=
  let clark (uri : String) (l : List Char) : String :=
    if uri = "" then String.mk l else "\x7b" ++ uri ++ "\x7d" ++ String.mk l
  match Py.splitList ':' name with
  | [p, l] =>
    match scope.lookup (String.mk p) with
    | some uri => .ok (clark uri l)
    | none => .error .unboundPrefix
  | _ => .ok (if dflt then clark ((scope.lookup "").getD "") name else String.mk name)

/-! ## The machine -/

/-- Where markup other than a tag stands: before, in or after the document element. -/
inductive Place
  | prolog
  | content
  | epilog
  deriving DecidableEq, Repr

/-- What a name token outside the document element is so far, in expat's prolog
tokenizer: a name, a name just followed by a colon, a prefixed name, or a name
token (one that may not start a name). -/
inductive NameTok
  | name
  | colon
  | prefixed
  | nmtoken
  deriving DecidableEq, Repr

/-- Where the character reader is. Tag states carry the tag read so far: its
name, the attributes completed (raw name and value), and the attribute being
read. Character data remembers whether its last character was a CR, whose LF is
then dropped, and how many `]` it ends in. -/
inductive Lex
  | prolog
  | epilog
  | content (cr : Bool) (rsqb : Nat)
  | contentRef (ref : List Char)
  | ltProlog
  | ltContent
  | ltEpilog
  | startName (name : List Char)
  | inTag (name : List Char) (attrs : List (List Char × String)) (sep : Bool)
  | attrName (name : List Char) (attrs : List (List Char × String)) (aname : List Char)
  | attrEq (name : List Char) (attrs : List (List Char × String)) (aname : List Char)
  | attrQuote (name : List Char) (attrs : List (List Char × String)) (aname : List Char)
  | attrValue (name : List Char) (attrs : List (List Char × String)) (aname : List Char)
      (q : Char) (value : List Char) (cr : Bool)
  | attrRef (name : List Char) (attrs : List (List Char × String)) (aname : List Char)
      (q : Char) (value : List Char) (ref : List Char)
  | emptyEnd (name : List Char) (attrs : List (List Char × String))
  | endOpen
  | endName (name : List Char)
  | endSpace (name : List Char)
  /-- `<!` -/
  | bang (pl : Place)
  /-- `<!` and the keyword of a declaration -/
  | decl (pl : Place)
  /-- a declaration's keyword and a `%` -/
  | declPercent (pl : Place)
  /-- `<!-` -/
  | commentOpen (pl : Place)
  /-- a comment, after `dashes` dashes -/
  | comment (pl : Place) (dashes : Nat)
  /-- `<![` and the first `n` characters of `CDATA[` -/
  | cdataOpen (n : Nat)
  /-- a CDATA section, holding back the `rsqb` last `]` that may start `]]>` -/
  | cdata (cr : Bool) (rsqb : Nat)
  /-- `<?` -/
  | piStart (pl : Place)
  | piTarget (pl : Place) (target : List Char)
  /-- a processing instruction's data, after a `?` or not -/
  | piData (pl : Place) (target : List Char) (quest : Bool)
  /-- a processing instruction's target and a `?` -/
  | piQuest (pl : Place) (target : List Char)
  /-- a literal in double (`dq`) or single quotes, outside the document element -/
  | lit (pl : Place) (dq : Bool)
  | litEnd (pl : Place)
  /-- `%`, and `%` and a name -/
  | percent (pl : Place)
  | percentName (pl : Place)
  /-- `#`, and `#` and a name -/
  | pound (pl : Place)
  | poundName (pl : Place)
  /-- `]`, and `]]` -/
  | rsqb (pl : Place)
  | rsqb2 (pl : Place)
  /-- `)` -/
  | rpar (pl : Place)
  | tokName (pl : Place) (k : NameTok)

/-- The reader state after markup that builds nothing. -/
def Place.after : Place → Lex
  | .prolog => .prolog
  | .content => .content false 0
  | .epilog => .epilog

/-- A complete token outside the document element that is not space, a comment
or a processing instruction: expat's prolog has no rule for it, and after the
document element it is junk. -/
def Place.tokenError : Place → XmlError
  | .epilog => .junkAfterDocElement
  | _ => .syntaxError

/-- A processing instruction target that spells `xml` in another case. -/
def xmlVariant (target : List Char) : Bool :=
  target.map Char.toLower = "xml".data && target ≠ "xml".data

/-- An element whose end tag has not been read yet. -/
structure Frame where
  rawName : List Char
  tag : String
  attrib : List (String × String)
  text : Option String
  children : List Element
  scope : Scope

/-- The parser: reader state, character data since the last tag, the open
elements (innermost first) and the document element once it has ended. -/
structure Parser where
  lex : Lex
  pending : List Char
  stack : List Frame
  root : Option Element

def Parser.init : Parser := ⟨.prolog, [], [], none⟩

/-- `TreeBuilder._flush` on the innermost open element: pending text becomes its
text, or the tail of its last child. -/
def Frame.flush : List Char → Frame → Frame
  | [], f => f
  | p, f =>
    match f.children.getLast? with
    | none => { f with text := some (String.mk p) }
    | some last =>
      { f with children := f.children.dropLast ++ [{ last with tail := some (String.mk p) }] }

/-- `TreeBuilder._flush`: the pending text goes to the innermost open element. -/
def flush (pending : List Char) : List Frame → List Frame
  | [] => []
  | f :: fs => f.flush pending :: fs

/-- `storeAtts`, first pass: duplicate raw names and namespace declarations, in
document order; returns the scope and the remaining attributes. -/
def declareAll (scope : Scope) (seen : List (List Char)) :
    List (List Char × String) → Except XmlError (Scope × List (List Char × String))
  | [] => .ok (scope, [])
  | (n, v) :: rest =>
    if n ∈ seen then .error .duplicateAttribute
    else match declare scope n v with
      | some (.error e) => .error e
      | some (.ok scope') => declareAll scope' (n :: seen) rest
      | none => (declareAll scope (n :: seen) rest).map fun r => (r.1, (n, v) :: r.2)

/-- `storeAtts`, second pass: expanded attribute names, again without duplicates. -/
def expandAttrs (scope : Scope) (seen : List String) :
    List (List Char × String) → Except XmlError (List (String × String))
  | [] => .ok []
  | (n, v) :: rest => do
    let k ← expandName scope false n
    if k ∈ seen then .error .duplicateAttribute
    else ((k, v) :: ·) <$> expandAttrs scope (k :: seen) rest

/-- The element a frame becomes at its end tag. -/
def Frame.toElement (f : Frame) : Element := ⟨f.tag, f.attrib, f.text, none, f.children⟩

/-- The end of the innermost element: it becomes the last child of its parent,
or the document element. -/
def endElement (p : Parser) (name : List Char) : Except XmlError Parser :=
  match flush p.pending p.stack with
  | [] => .error .tagMismatch
  | f :: fs =>
    if f.rawName ≠ name then .error .tagMismatch
    else match fs with
      | [] => .ok ⟨.epilog, [], [], some f.toElement⟩
      | g :: gs =>
        .ok ⟨.content false 0, [], { g with children := g.children ++ [f.toElement] } :: gs, p.root⟩

/-- The namespace bindings a start tag is read in: those of the innermost open
element. -/
def outerScope : List Frame → Scope
  | [] => initialScope
  | f :: _ => f.scope

/-- The frame a start tag opens: its bindings, its attributes and its name, in
`storeAtts`' order. -/
def openFrame (outer : Scope) (name : List Char) (attrs : List (List Char × String)) :
    Except XmlError Frame := do
  let (scope, plain) ← declareAll outer [] attrs
  let attrib ← expandAttrs scope [] plain
  let tag ← expandName scope true name
  pure ⟨name, tag, attrib, none, [], scope⟩

/-- A complete start tag (`empty`: written `<name …/>`). -/
def startElement (p : Parser) (name : List Char) (attrs : List (List Char × String))
    (empty : Bool) : Except XmlError Parser := do
  let f ← openFrame (outerScope p.stack) name attrs
  let p' : Parser := ⟨.content false 0, [], f :: flush p.pending p.stack, p.root⟩
  if empty then endElement p' name else pure p'

/-- One character of an attribute value: a tab or line end is a space, `<` and
the characters XML forbids are refused; the flag says whether it was a CR. -/
def attrChar (value : List Char) (c : Char) : Except XmlError (List Char × Bool) :=
  if c = '<' then .error .invalidToken
  else if c = '\t' || c = '\n' || c = '\r' then .ok (value ++ [' '], c = '\r')
  else if isXmlChar c then .ok (value ++ [c], false)
  else .error .invalidToken

/-- What the reader hands the tree builder for one character: a new reader state
only, characters of data (a reference's, or those a CDATA section held back)
with the reader state after them, or a complete tag. -/
inductive Token
  | go (l : Lex)
  | text (cs : List Char) (l : Lex)
  | start (name : List Char) (attrs : List (List Char × String)) (empty : Bool)
  | stop (name : List Char)

/-- The `?>` that ends a processing instruction: the target `xml` is refused
anywhere but at the start of the document. -/
def piEnd (pl : Place) (target : List Char) : Except XmlError Token :=
  if target = "xml".data then .error (if pl = .epilog then .junkAfterDocElement else .misplacedXmlPi)
  else .ok (.go pl.after)

/-- The first character of a token outside the document element (expat's
`prologTok`): space, markup, a literal, a `%`, `#`, `]` or `)` token, a name or
name token, a token of one character, or an invalid one. -/
def outside (pl : Place) (c : Char) : Except XmlError Token :=
  if isSpace c then .ok (.go pl.after)
  else if c = '<' then .ok (.go (if pl = .epilog then .ltEpilog else .ltProlog))
  else if c = '"' then .ok (.go (.lit pl true)) else if c = '\x27' then .ok (.go (.lit pl false))
  else if c = '%' then .ok (.go (.percent pl)) else if c = '#' then .ok (.go (.pound pl))
  else if c = ']' then .ok (.go (.rsqb pl)) else if c = ')' then .ok (.go (.rpar pl))
  else if c = ',' || c = '[' || c = '(' || c = '|' || c = '>' then .error pl.tokenError
  else if isNameStart c then .ok (.go (.tokName pl .name))
  else if isNameChar c then .ok (.go (.tokName pl .nmtoken))
  else .error .invalidToken

/-- A character after a name token outside the document element: a name
character goes on, a delimiter ends the token, a colon after a name makes a
prefixed name and any other a name token, and `+`, `*` or `?` end a name. -/
def nameTok (pl : Place) (k : NameTok) (c : Char) : Except XmlError Token :=
  if c = ':' then .ok (.go (.tokName pl (if k = .name then .colon else .nmtoken)))
  else if isNameChar c then .ok (.go (.tokName pl k))
  else if isSpace c || c = '>' || c = ')' || c = ',' || c = '|' || c = '[' || c = '%' then
    .error pl.tokenError
  else if c = '+' || c = '*' || c = '?' then
    .error (if k = .nmtoken then .invalidToken else pl.tokenError)
  else .error .invalidToken

/-- The reader: what one character does in a reader state. A LF right after a CR
is dropped here and a CR read as a LF (line-end normalisation). -/
def scan (l : Lex) (c : Char) : Except XmlError Token :=
  let go (l : Lex) : Except XmlError Token := .ok (.go l)
  let named (n : List Char) (l : Lex) : Except XmlError Token :=
    if qnameOk n then go l else .error .invalidToken
  match l with
  | .prolog => outside .prolog c
  | .epilog => outside .epilog c
  | .ltProlog =>
    if isNameStart c then go (.startName [c]) else if c = '!' then go (.bang .prolog)
    else if c = '?' then go (.piStart .prolog) else .error .invalidToken
  | .ltEpilog =>
    if isNameStart c then .error .junkAfterDocElement else if c = '!' then go (.bang .epilog)
    else if c = '?' then go (.piStart .epilog) else .error .invalidToken
  | .content cr k =>
    if c = '<' then go .ltContent else if c = '&' then go (.contentRef [])
    else if c = '\n' && cr then go (.content false 0)
    else if c = '\r' then .ok (.text ['\n'] (.content true 0))
    else if c = '>' && 2 ≤ k then .error .invalidToken
    else if isXmlChar c then .ok (.text [c] (.content false (if c = ']' then k + 1 else 0)))
    else .error .invalidToken
  | .contentRef ref =>
    if c = ';' then (refValue ref).map fun ch => .text [ch] (.content false 0)
    else if isNameChar c || c = '#' then go (.contentRef (ref ++ [c])) else .error .invalidToken
  | .ltContent =>
    if c = '/' then go .endOpen else if c = '!' then go (.bang .content)
    else if c = '?' then go (.piStart .content)
    else if isNameStart c then go (.startName [c]) else .error .invalidToken
  | .startName n =>
    if isNameChar c then go (.startName (n ++ [c]))
    else if isSpace c then named n (.inTag n [] true)
    else if c = '>' then (if qnameOk n then .ok (.start n [] false) else .error .invalidToken)
    else if c = '/' then named n (.emptyEnd n [])
    else .error .invalidToken
  | .inTag n as sep =>
    if isSpace c then go (.inTag n as true)
    else if c = '>' then .ok (.start n as false)
    else if c = '/' then go (.emptyEnd n as)
    else if isNameStart c && sep then go (.attrName n as [c])
    else .error .invalidToken
  | .attrName n as a =>
    if isNameChar c then go (.attrName n as (a ++ [c]))
    else if isSpace c then named a (.attrEq n as a)
    else if c = '=' then named a (.attrQuote n as a)
    else .error .invalidToken
  | .attrEq n as a =>
    if isSpace c then go (.attrEq n as a)
    else if c = '=' then go (.attrQuote n as a) else .error .invalidToken
  | .attrQuote n as a =>
    if isSpace c then go (.attrQuote n as a)
    else if c = '"' || c = '\x27' then go (.attrValue n as a c [] false) else .error .invalidToken
  | .attrValue n as a q v cr =>
    if c = q then go (.inTag n (as ++ [(a, String.mk v)]) false)
    else if c = '&' then go (.attrRef n as a q v [])
    else if c = '\n' && cr then go (.attrValue n as a q v false)
    else (attrChar v c).map fun r => .go (.attrValue n as a q r.1 r.2)
  | .attrRef n as a q v ref =>
    if c = ';' then (refValue ref).map fun ch => .go (.attrValue n as a q (v ++ [ch]) false)
    else if isNameChar c || c = '#' then go (.attrRef n as a q v (ref ++ [c]))
    else .error .invalidToken
  | .emptyEnd n as => if c = '>' then .ok (.start n as true) else .error .invalidToken
  | .endOpen => if isNameStart c then go (.endName [c]) else .error .invalidToken
  | .endName n =>
    if isNameChar c then go (.endName (n ++ [c]))
    else if isSpace c then named n (.endSpace n)
    else if c = '>' then (if qnameOk n then .ok (.stop n) else .error .invalidToken)
    else .error .invalidToken
  | .endSpace n =>
    if isSpace c then go (.endSpace n) else if c = '>' then .ok (.stop n)
    else .error .invalidToken
  | .bang pl =>
    if c = '-' then go (.commentOpen pl)
    else if c = '[' then (if pl = .content then go (.cdataOpen 0) else .error pl.tokenError)
    else if isDeclChar c && pl ≠ .content then go (.decl pl) else .error .invalidToken
  | .decl pl =>
    if isDeclChar c then go (.decl pl) else if isSpace c then .error pl.tokenError
    else if c = '%' then go (.declPercent pl) else .error .invalidToken
  | .declPercent pl => if isSpace c || c = '%' then .error .invalidToken else .error pl.tokenError
  | .commentOpen pl => if c = '-' then go (.comment pl 0) else .error .invalidToken
  | .comment pl d =>
    if d = 2 then (if c = '>' then go pl.after else .error .invalidToken)
    else if c = '-' then go (.comment pl (d + 1))
    else if isXmlChar c then go (.comment pl 0) else .error .invalidToken
  | .cdataOpen n =>
    if "CDATA[".data.get? n = some c then go (if n = 5 then .cdata false 0 else .cdataOpen (n + 1))
    else .error .invalidToken
  | .cdata cr k =>
    if c = ']' then (if k < 2 then go (.cdata false (k + 1)) else .ok (.text [']'] (.cdata false 2)))
    else if c = '>' && k = 2 then go (.content false 0)
    else if c = '\n' && cr then go (.cdata false 0)
    else if c = '\r' then .ok (.text (List.replicate k ']' ++ ['\n']) (.cdata true 0))
    else if isXmlChar c then .ok (.text (List.replicate k ']' ++ [c]) (.cdata false 0))
    else .error .invalidToken
  | .piStart pl => if isNameStart c then go (.piTarget pl [c]) else .error .invalidToken
  | .piTarget pl t =>
    if c = ':' then .error .invalidToken else if isNameChar c then go (.piTarget pl (t ++ [c]))
    else if isSpace c then (if xmlVariant t then .error .invalidToken else go (.piData pl t false))
    else if c = '?' then (if xmlVariant t then .error .invalidToken else go (.piQuest pl t))
    else .error .invalidToken
  | .piData pl t q =>
    if c = '>' && q then piEnd pl t else if c = '?' then go (.piData pl t true)
    else if isXmlChar c then go (.piData pl t false) else .error .invalidToken
  | .piQuest pl t => if c = '>' then piEnd pl t else .error .invalidToken
  | .lit pl dq =>
    if c = (if dq then '"' else '\x27') then go (.litEnd pl)
    else if isXmlChar c then go (.lit pl dq) else .error .invalidToken
  | .litEnd pl =>
    if isSpace c || c = '>' || c = '%' || c = '[' then .error pl.tokenError else .error .invalidToken
  | .percent pl =>
    if isNameStart c then go (.percentName pl)
    else if isSpace c || c = '%' then .error pl.tokenError else .error .invalidToken
  | .percentName pl =>
    if c = ';' then .error pl.tokenError
    else if isNameChar c && c ≠ ':' then go (.percentName pl) else .error .invalidToken
  | .pound pl => if isNameStart c then go (.poundName pl) else .error .invalidToken
  | .poundName pl =>
    if isNameChar c && c ≠ ':' then go (.poundName pl)
    else if isSpace c || c = ')' || c = '>' || c = '%' || c = '|' then .error pl.tokenError
    else .error .invalidToken
  | .rsqb pl => if c = ']' then go (.rsqb2 pl) else .error pl.tokenError
  | .rsqb2 pl => .error pl.tokenError
  | .rpar pl =>
    if c = '*' || c = '?' || c = '+' || isSpace c || c = '>' || c = ',' || c = '|' || c = ')' then
      .error pl.tokenError
    else .error .invalidToken
  | .tokName pl .colon =>
    if isNameChar c && c ≠ ':' then go (.tokName pl .prefixed) else nameTok pl .nmtoken c
  | .tokName pl k => nameTok pl k c

/-- The tree builder: what a token does to the parser. Comments and processing
instructions reach it as reader states only, and leave the pending text open. -/
def build (p : Parser) : Token → Except XmlError Parser
  | .go l => .ok { p with lex := l }
  | .text cs l => .ok { p with lex := l, pending := p.pending ++ cs }
  | .start n as empty => startElement p n as empty
  | .stop n => endElement p n

/-- Read one character. -/
def feedChar (p : Parser) (c : Char) : Except XmlError Parser := scan p.lex c >>= build p

/-- `XMLParser.feed`: read the characters in order, stopping at the first error. -/
def feed (p : Parser) : List Char → Except XmlError Parser
  | [] => .ok p
  | c :: cs => feedChar p c >>= fun p' => feed p' cs

/-- `XMLParser.close`: the end of the input. -/
def close (p : Parser) : Except XmlError Element :=
  match p.lex, p.root with
  | .epilog, some e => .ok e
  | .prolog, _ | .content _ _, _ | .epilog, none => .error .noElements
  | .cdata _ _, _ => .error .unclosedCdata
  | .litEnd pl, _ | .poundName pl, _ | .rsqb pl, _ | .rpar pl, _ => .error pl.tokenError
  | .tokName pl k, _ => .error (if k = .colon then .unclosedToken else pl.tokenError)
  | _, _ => .error .unclosedToken

/-- `ET.fromstring(text)`. -/
def fromstring (text : String) : Except XmlError Element := feed .init text.data >>= close

/-- Reading a concatenation is reading its parts in turn. -/
theorem feed_append (p : Parser) (a b : List Char) :
    feed p (a ++ b) = feed p a >>= fun p' => feed p' b := by
  induction a generalizing p with
  | nil => rfl
  | cons c cs ih =>
    simp only [List.cons_append, feed]
    cases feedChar p c <;> simp [ih, bind, Except.bind]

end Bumper.Xml
