import Bumper.Xml.Element
import Mathlib.Data.List.Sort

/-!
# Bumper — `ElementTree.tostring`

Every forwarded stanza is written out by `ET.tostring(xml)`, whose default
encoding is `us-ascii`: no XML declaration, and every non-ASCII character as a
decimal character reference. Namespaces are serialised as ElementTree does:
`_namespaces` walks the tree in document order and gives each namespace URI of a
tag or attribute name a prefix, the well-known one from `_namespace_map` or else
`ns0`, `ns1`, … by order of appearance; the declarations go on the outermost
element, sorted by prefix. This is what produces the `ns0:` artefacts that the
handlers strip afterwards.

A tag written `{uri` without a closing brace makes `_namespaces` raise
`ValueError`; `tostring` is then `none`.
-/

namespace Bumper.Xml

/-- `_namespace_map`: well-known namespace URIs and their prefixes. -/
def namespaceMap : List (String × String) :=
  [("http://www.w3.org/XML/1998/namespace", "xml"), ("http://www.w3.org/1999/xhtml", "html"),
   ("http://www.w3.org/1999/02/22-rdf-syntax-ns#", "rdf"),
   ("http://schemas.xmlsoap.org/wsdl/", "wsdl"), ("http://www.w3.org/2001/XMLSchema", "xs"),
   ("http://www.w3.org/2001/XMLSchema-instance", "xsi"),
   ("http://purl.org/dc/elements/1.1/", "dc")]

/-- A name in Clark notation split as `qname[1:].rsplit("}", 1)`: `some none` for a
plain name, `none` when the split raises. -/
def clarkParts (q : String) : Option (Option (String × String)) :=
  match q.data with
  | '\x7b' :: rest => (Py.rsplitOnce '\x7d' rest).map fun ul => some (String.mk ul.1, String.mk ul.2)
  | _ => some none

/-- `add_qname`'s effect on the URI-to-prefix table. -/
def registerUri (ns : List (String × String)) (uri : String) : List (String × String) :=
  if (ns.lookup uri).isSome then ns
  else match namespaceMap.lookup uri with
    | some "xml" => ns
    | some p => ns ++ [(uri, p)]
    | none => ns ++ [(uri, "ns" ++ toString ns.length)]

mutual
/-- The tag and attribute names of a tree, in the order `_namespaces` visits them. -/
def Element.names : Element → List String
  | ⟨tag, attrib, _, _, cs⟩ => tag :: attrib.map Prod.fst ++ namesList cs
def namesList : List Element → List String
  | [] => []
  | e :: es => e.names ++ namesList es
end

/-- `_namespaces`: the URI-to-prefix table of a tree. -/
def namespaces (e : Element) : Option (List (String × String)) :=
  e.names.foldlM (fun ns q => (clarkParts q).map fun
    | some (uri, _) => registerUri ns uri
    | none => ns) []

/-- `qnames[q]`: the serialised form of a name. -/
def serialName (ns : List (String × String)) (q : String) : String :=
  match clarkParts q with
  | some (some (uri, l)) =>
    match ns.lookup uri <|> namespaceMap.lookup uri with
    | some p => p ++ ":" ++ l
    | none => l
  | _ => q

/-- `_escape_cdata`, one character. -/
def escapeCdataChar : Char → List Char
  | '&' => "&amp;".data
  | '<' => "&lt;".data
  | '>' => "&gt;".data
  | c => [c]

/-- `_escape_attrib`, one character. -/
def escapeAttribChar : Char → List Char
  | '&' => "&amp;".data
  | '<' => "&lt;".data
  | '>' => "&gt;".data
  | '"' => "&quot;".data
  | '\r' => "&#13;".data
  | '\n' => "&#10;".data
  | '\t' => "&#09;".data
  | c => [c]

def escapeCdata (s : String) : String := ⟨s.data.flatMap escapeCdataChar⟩
def escapeAttrib (s : String) : String := ⟨s.data.flatMap escapeAttribChar⟩

/-- Text that Python treats as true: present and non-empty. -/
def truthy : Option String → Bool
  | some s => s ≠ ""
  | none => false

mutual
/-- `_serialize_xml`; `decls` is written after the tag name (the namespace
declarations, on the outermost element only). -/
def Element.serial (ns : List (String × String)) (decls : String) : Element → String
  | ⟨tag, attrib, text, tail, cs⟩ =>
    let name := serialName ns tag
    let attrs := String.join (attrib.map fun kv =>
      " " ++ serialName ns kv.1 ++ "=\"" ++ escapeAttrib kv.2 ++ "\"")
    let body :=
      if truthy text || !cs.isEmpty then
        ">" ++ escapeCdata (text.getD "") ++ serialList ns cs ++ "</" ++ name ++ ">"
      else " />"
    "<" ++ name ++ decls ++ attrs ++ body ++ (if truthy tail then escapeCdata (tail.getD "") else "")
def serialList (ns : List (String × String)) : List Element → String
  | [] => ""
  | e :: es => e.serial ns "" ++ serialList ns es
end

/-- The namespace declarations written on the outermost element. -/
def nsDecls (ns : List (String × String)) : String :=
  String.join ((ns.insertionSort fun a b => Py.le a.2 b.2).map fun up =>
    " xmlns:" ++ up.2 ++ "=\"" ++ escapeAttrib up.1 ++ "\"")

/-- The `us-ascii` encoding with `xmlcharrefreplace`. -/
def asciiCharref (s : String) : String :=
  ⟨s.data.flatMap fun c => if c.toNat < 128 then [c] else ("&#" ++ toString c.toNat ++ ";").data⟩

/-- `ET.tostring(xml).decode("utf-8")`. -/
def tostring (e : Element) : Option String :=
  (namespaces e).map fun ns => asciiCharref (e.serial ns (nsDecls ns))

end Bumper.Xml
