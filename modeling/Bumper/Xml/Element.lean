import Bumper.Py.Str

/-!
# Bumper — `xml.etree.ElementTree.Element`

The parsed form of a stanza. An element has a tag (in ElementTree's Clark
notation `{uri}local` when it is in a namespace), its attributes in document
order (a Python `dict` keeps insertion order), the text before its first child,
the tail text after its end tag, and its children.

Only the operations `xmppserver.py` performs are modelled: `xml.get(k)`,
`k in xml.attrib`, `xml.attrib[k] = v`, `len(xml)` and `xml[0]`.
-/

namespace Bumper.Xml

/-- An `ElementTree.Element`. -/
structure Element where
  tag : String
  attrib : List (String × String)
  text : Option String
  tail : Option String
  children : List Element
  deriving Repr

namespace Element

/-- `xml.get(key)`. -/
def get (e : Element) (key : String) : Option String := e.attrib.lookup key

/-- `key in xml.attrib`. -/
def has (e : Element) (key : String) : Bool := (e.get key).isSome

/-- `xml.attrib[key] = value`: an existing key keeps its place, a new one goes last. -/
def set (e : Element) (key value : String) : Element :=
  if e.has key then { e with attrib := e.attrib.map fun kv => if kv.1 = key then (key, value) else kv }
  else { e with attrib := e.attrib ++ [(key, value)] }

/-- `xml[0]`, when `len(xml) > 0`. -/
def first? (e : Element) : Option Element := e.children.head?

@[simp] theorem set_tag (e : Element) (k v : String) : (e.set k v).tag = e.tag := by
  unfold set; split <;> rfl

@[simp] theorem set_children (e : Element) (k v : String) :
    (e.set k v).children = e.children := by
  unfold set; split <;> rfl

@[simp] theorem set_first? (e : Element) (k v : String) : (e.set k v).first? = e.first? := by
  simp [first?]

end Element

end Bumper.Xml
