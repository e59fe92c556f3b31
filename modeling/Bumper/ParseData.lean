import Bumper.Handshake

/-!
# Bumper — `parse_data` and `_handle_iq`

One inbound chunk is decoded, wrapped in an artificial `<root>` element and
parsed on its own. When it parses, `root.iter()` visits every element in document
order and each is dispatched by its tag: an `iq` to `_handle_iq`, an `auth` in the
SASL namespace to `_handle_sasl_auth`, a `starttls` to a new `_handle_starttls`
task, a `presence` to `_handle_presence`. The handlers of `iq`, SASL `auth` and
`presence` clear the element after it is handled, so the walk skips its children;
every other element's children are visited. When the chunk does not parse, the
text of the `ParseError` decides: a stream header is answered in `CONNECT` and
`INIT`, and a `</stream:stream>` closes the stream.

Every handler receives the whole wrapped chunk as its raw `data`, whatever
element it is handling.
-/

namespace Bumper

open Xml

/-- `_handle_iq`, dispatching on the local name of the first child. The `result`
and `set` branches test `self.type == self.BOT` and call `_handle_result` on both
sides of the test. -/
def handleIq (cfg : Config) (w : World) (me : Nat) (xml : Element) (data : String) : World :=
  let child := xml.first?.map (tagStripUri ·.tag)
  if xml.tag = "iq" then
    if child = some "bind" then handleBind w me xml
    else if child = some "session" then handleSession w me xml
    else if child = some "ping" then handlePing w me xml
    else if child = some "query" then
      if (w.sessions me).type = .bot then handleResult cfg w me xml data
      else handleCtl w me xml data
    else if xml.get "type" = some "result" then handleResult cfg w me xml data
    else if xml.get "type" = some "set" then handleResult cfg w me xml data
    else w
  else w

mutual
/-- One element of `root.iter()` and, unless its handler clears it, its children. -/
def dispatch (cfg : Config) (me : Nat) (data : String) (w : World) : Element → World
  | e@⟨tag, _, _, _, cs⟩ =>
    if tag = "root" then dispatchList cfg me data w cs
    else if tag = "iq" then handleIq cfg w me e data
    else if Py.contains tag "auth" then
      if Py.contains tag "urn:ietf:params:xml:ns:xmpp-sasl" then handleSaslAuth cfg w me e
      else dispatchList cfg me data w cs
    else if Py.contains tag "-tls" then
      let w := if (w.sessions me).tlsUpgraded then w else { w with tasks := w.tasks ++ [.starttls me] }
      dispatchList cfg me data w cs
    else if Py.contains tag "presence" then handlePresence w me e
    else dispatchList cfg me data w cs
/-- Elements of `root.iter()` in turn. -/
def dispatchList (cfg : Config) (me : Nat) (data : String) (w : World) : List Element → World
  | [] => w
  | e :: es => dispatchList cfg me data (dispatch cfg me data w e) es
end

/-- The length of a match of `<\?xml[^>]+\?>` after its first character `<`. -/
def xmlDeclLength (cs : List Char) : Option Nat :=
  let rest := cs.drop 4
  let body := rest.takeWhile (· ≠ '>')
  if Py.isPrefix "?xml".data cs && 2 ≤ body.length && body.getLast? = some '?' &&
      body.length < rest.length then some (4 + body.length + 1)
  else none

/-- `re.sub(r"(<\?xml[^>]+\?>)", r"<root>", text)`; `skip` counts the characters of
the last match still to be passed over. -/
def subXmlDecl : Nat → List Char → List Char
  | _, [] => []
  | skip + 1, _ :: cs => subXmlDecl skip cs
  | 0, c :: cs =>
    match (if c = '<' then xmlDeclLength cs else none) with
    | some n => "<root>".data ++ subXmlDecl n cs
    | none => c :: subXmlDecl 0 cs

/-- The chunk with the artificial root: `newdata`. -/
def wrap (text : String) : String :=
  if Py.startswith text "<?xml" then ⟨subXmlDecl 0 text.data⟩ ++ "</root>"
  else "<root>" ++ text ++ "</root>"

/-- The `except ET.ParseError` branches of `parse_data`. -/
def handleParseError (cfg : Config) (w : World) (me : Nat) (newdata msg : String) : World :=
  let st := (w.sessions me).state
  if Py.contains msg "no element found" then
    if Py.contains newdata "<stream:stream " && (st = .connect || st = .init) then
      handleConnect cfg w me newdata none
    else w
  else if Py.contains msg "not well-formed (invalid token)" then
    if Py.contains newdata "</stream:stream>" then w.send me "</stream:stream>" else w
  else if Py.contains newdata "<stream:stream" then
    if st = .connect || st = .init then handleConnect cfg w me newdata none else w
  else if Py.contains newdata "</stream:stream>" then
    (w.send me "</stream:stream>").setState me .disconnect
  else w

/-- `parse_data(data)`; `none` when `data.decode("utf-8")`, which stands outside
the method's `try`, raises. -/
def parseData (cfg : Config) (w : World) (me : Nat) (data : List UInt8) : Option World :=
  (Py.utf8Decode data).map fun text =>
    let newdata := wrap text
    match fromstring newdata with
    | .ok root => dispatch cfg me newdata w root
    | .error e => handleParseError cfg w me newdata e.message

end Bumper
