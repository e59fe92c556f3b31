import Bumper.Lifecycle
import Bumper.Xml.Concat

/-!
# Bumper — chunks and stanzas

`data_received` hands each chunk TCP delivers to `parse_data`, which keeps no
buffer: the chunk is decoded on its own, wrapped in `<root>` on its own and
parsed on its own. What it does therefore depends on how the byte stream is cut.

* `parseData_append` — two chunks of complete stanzas, with nothing before the
  second one's first stanza, are one chunk, as long as none of the texts the routing
  handlers look for in the raw chunk occurs in them; a stream header next to a
  stanza is not (`header_with_auth_in_one_chunk`), nor is a roster request next to
  a control query (`roster_with_query_in_one_chunk`), nor a stanza followed by a
  newline and another (`text_before_stanza_in_one_chunk`);
* `parseData_join` — so a stream of stanzas may be cut between any of them;
* `unparsed_chunk_dropped` — a chunk that does not parse changes nothing unless
  it carries a stream header or `</stream:stream>`; one that is not UTF-8 closes
  the connection.
-/

namespace Bumper

open Xml

/-! ## Chunks of complete stanzas

Of the raw chunk `data` that every handler receives, `_handle_ctl` and
`_handle_result` only ask whether it contains one of five texts. -/

/-- The texts `_handle_ctl` and `_handle_result` look for in the raw chunk. -/
def routeMarkers : List String := ["roster", "disco#items", "disco#info", "com:sf", "errno='103'"]

/-- Two raw chunks the handlers cannot tell apart. -/
def SameMarkers (d₁ d₂ : String) : Prop := ∀ m ∈ routeMarkers, Py.contains d₁ m = Py.contains d₂ m

theorem handleCtl_congr {d₁ d₂ : String} (h : SameMarkers d₁ d₂) (w : World) (me : Nat)
    (xml : Element) : handleCtl w me xml d₁ = handleCtl w me xml d₂ := by
  simp only [handleCtl, h "roster" (by decide), h "disco#items" (by decide),
    h "disco#info" (by decide), h "com:sf" (by decide)]

theorem handleResult_congr {d₁ d₂ : String} (h : SameMarkers d₁ d₂) (cfg : Config) (w : World)
    (me : Nat) (xml : Element) : handleResult cfg w me xml d₁ = handleResult cfg w me xml d₂ := by
  simp only [handleResult, h "errno='103'" (by decide)]

theorem handleIq_congr {d₁ d₂ : String} (h : SameMarkers d₁ d₂) (cfg : Config) (w : World)
    (me : Nat) (xml : Element) : handleIq cfg w me xml d₁ = handleIq cfg w me xml d₂ := by
  simp only [handleIq, handleCtl_congr h, handleResult_congr h]

mutual
/-- **The raw chunk only matters through the five texts.** -/
theorem dispatch_congr (cfg : Config) (me : Nat) {d₁ d₂ : String} (h : SameMarkers d₁ d₂) :
    ∀ (w : World) (e : Element), dispatch cfg me d₁ w e = dispatch cfg me d₂ w e
  | w, ⟨tag, attrib, text, tail, cs⟩ => by
    have ih : ∀ w, dispatchList cfg me d₁ w cs = dispatchList cfg me d₂ w cs :=
      fun w => dispatchList_congr cfg me h w cs
    simp only [dispatch, ih, handleIq_congr h]
theorem dispatchList_congr (cfg : Config) (me : Nat) {d₁ d₂ : String} (h : SameMarkers d₁ d₂) :
    ∀ (w : World) (es : List Element), dispatchList cfg me d₁ w es = dispatchList cfg me d₂ w es
  | w, [] => rfl
  | w, e :: es => by
    simp only [dispatchList, dispatch_congr cfg me h w e, dispatchList_congr cfg me h _ es]
end

theorem dispatchList_append (cfg : Config) (me : Nat) (d : String) (w : World) (xs ys : List Element) :
    dispatchList cfg me d w (xs ++ ys) = dispatchList cfg me d (dispatchList cfg me d w xs) ys := by
  induction xs generalizing w with
  | nil => rfl
  | cons e es ih => exact ih _

theorem dispatch_root (cfg : Config) (me : Nat) (d : String) (w : World) {r : Element}
    (h : r.tag = "root") : dispatch cfg me d w r = dispatchList cfg me d w r.children := by
  rcases r with ⟨tag, _, _, _, cs⟩
  cases h
  simp [dispatch]

/-- The wrapping of a chunk that does not start with an XML declaration. -/
theorem wrap_plain {t : String} (h : Py.startswith t "<?xml" = false) :
    wrap t = "<root>" ++ t ++ "</root>" := by
  simp [wrap, h]

/-- Wrapping adds none of the five texts. -/
theorem contains_wrap_plain {t m : String} (ht : Py.startswith t "<?xml" = false)
    (hm : m ∈ routeMarkers) : Py.contains (wrap t) m = Py.contains t m := by
  have hm' : m.data ≠ [] ∧ '<' ∉ m.data ∧ '>' ∉ m.data ∧
      Py.containsList m.data "<root".data = false ∧ Py.containsList m.data "/root>".data = false := by
    revert m; decide
  obtain ⟨hne, hlt, hgt, h₁, h₂⟩ := hm'
  rw [wrap_plain ht, Py.contains, show ("<root>" ++ t ++ "</root>").data =
    ("<root".data ++ '>' :: t.data) ++ '<' :: "/root>".data by simp,
    Py.containsList_append_cons hne hlt, Py.containsList_append_cons hne hgt, h₁, h₂]
  simp [Py.contains]

/-- A chunk of complete stanzas: it does not start with an XML declaration, it parses
once wrapped in `<root>`, and no character data stands before its first stanza. -/
def isStanzas (t : String) : Bool :=
  !Py.startswith t "<?xml" && match fromstring (wrap t) with
    | .ok r => r.text.isNone
    | .error _ => false

theorem isStanzas_parse {t : String} (h : isStanzas t = true) :
    Py.startswith t "<?xml" = false ∧ ∃ r, fromstring ("<root>" ++ t ++ "</root>") = .ok r ∧ r.text = none := by
  unfold isStanzas at h
  rcases hx : Py.startswith t "<?xml" with _ | _ <;> simp only [hx, Bool.not_false, Bool.true_and,
    Bool.not_true, Bool.false_and] at h
  · refine ⟨rfl, ?_⟩
    rw [← wrap_plain hx]
    split at h
    · exact ⟨_, ‹_›, Option.isNone_iff_eq_none.1 h⟩
    · cases h
  · cases h

/-- A CDATA section, a comment and a processing instruction in and between
stanzas; a chunk cut inside a comment does not parse. -/
example : isStanzas "<message><body><![CDATA[a<b]]></body></message><!--x--><?p d?>" = true ∧
    fromstring (wrap "<presence/><!--") = .error .unclosedToken := ⟨by decide, rfl⟩

/-- A chunk of stanzas cannot end in the first characters of an XML declaration:
`<`, `<?`, `<?x` and `<?xm` each leave the wrapped chunk unclosed markup. -/
theorem startswith_append {a b : String} {ra : Element}
    (ha : fromstring ("<root>" ++ a ++ "</root>") = .ok ra)
    (hxa : Py.startswith a "<?xml" = false) (hxb : Py.startswith b "<?xml" = false) :
    Py.startswith (a ++ b) "<?xml" = false := by
  rw [Xml.fromstring_root] at ha
  unfold Py.startswith at hxa hxb ⊢
  rw [Bool.eq_false_iff, ne_eq, Py.isPrefix_iff] at hxa hxb ⊢
  rw [String.data_append]
  intro h
  rcases List.prefix_or_prefix_of_prefix h (List.prefix_append a.data b.data) with h' | h'
  · exact hxa h'
  · have hin : a.data ∈ "<?xml".data.inits := List.mem_inits _ _ |>.2 h'
    simp only [show "<?xml".data.inits = [[], ['<'], ['<', '?'], ['<', '?', 'x'], ['<', '?', 'x', 'm'],
      ['<', '?', 'x', 'm', 'l']] from rfl, List.mem_cons, List.not_mem_nil, or_false] at hin
    rcases hin with hd | hd | hd | hd | hd | hd <;> rw [hd] at ha h
    · exact hxb h
    iterate 4 cases ha
    · exact hxa (hd ▸ List.prefix_refl _)

/-- Two texts of complete stanzas, parsed as one chunk and as two. -/
theorem parseData_text_append (cfg : Config) (w : World) (me : Nat) (a b : String)
    (ha : isStanzas a = true) (hb : isStanzas b = true)
    (hm : ∀ m ∈ routeMarkers, Py.contains (a ++ b) m = false) :
    parseData cfg w me (Py.utf8Encode (a ++ b)) =
      (parseData cfg w me (Py.utf8Encode a)).bind fun w' => parseData cfg w' me (Py.utf8Encode b) := by
  obtain ⟨hxa, ra, hra, -⟩ := isStanzas_parse ha
  obtain ⟨hxb, rb, hrb, hbt⟩ := isStanzas_parse hb
  have hx := startswith_append hra hxa hxb
  have same : ∀ t, Py.startswith t "<?xml" = false → (∀ m ∈ routeMarkers, Py.contains t m = false) →
      SameMarkers (wrap (a ++ b)) (wrap t) := fun t ht htm m hm' => by
    rw [contains_wrap_plain hx hm', contains_wrap_plain ht hm', hm m hm', htm m hm']
  have hma : ∀ m ∈ routeMarkers, Py.contains a m = false := fun m h => (Py.contains_append_eq_false (hm m h)).1
  have hmb : ∀ m ∈ routeMarkers, Py.contains b m = false := fun m h => (Py.contains_append_eq_false (hm m h)).2
  simp only [parseData, Py.utf8Decode_utf8Encode, Option.map_some', Option.some_bind]
  rw [wrap_plain hx, Xml.fromstring_root_append hra hrb hbt, ← wrap_plain hx, wrap_plain hxa, hra,
    ← wrap_plain hxa, wrap_plain hxb, hrb, ← wrap_plain hxb]
  simp only
  rw [@dispatch_root cfg me _ w (rb.prefixed ra.text ra.children) (Xml.fromstring_root_tag hrb).1,
    dispatch_root _ _ _ _ (Xml.fromstring_root_tag hrb).1, dispatch_root _ _ _ _ (Xml.fromstring_root_tag hra).1]
  simp only [Xml.Element.prefixed]
  rw [dispatchList_append, dispatchList_congr cfg me (same a hxa hma) w ra.children,
    dispatchList_congr cfg me (same b hxb hmb) _ rb.children]

/-- **Two chunks of complete stanzas are one chunk.** When a and b each encode a
sequence of complete stanzas and none of `roster`, `disco#items`, `disco#info`,
`com:sf` and `errno='103'` occurs in a ++ b, `parse_data` of the bytes of a and b
together does what `parse_data` of a and then of b does. -/
theorem parseData_append (cfg : Config) (w : World) (me : Nat) (a b : String)
    (ha : isStanzas a = true) (hb : isStanzas b = true)
    (hm : ∀ m ∈ routeMarkers, Py.contains (a ++ b) m = false) :
    parseData cfg w me (Py.utf8Encode a ++ Py.utf8Encode b) =
      (parseData cfg w me (Py.utf8Encode a)).bind fun w' => parseData cfg w' me (Py.utf8Encode b) := by
  rw [← Py.utf8Encode_append]
  exact parseData_text_append cfg w me a b ha hb hm

/-- A presence and then a ping in one chunk. -/
theorem presence_ping_one_chunk :
    isStanzas "<presence/>" = true ∧
    isStanzas "<iq id=\"p\" type=\"get\"><ping xmlns=\"urn:xmpp:ping\"/></iq>" = true ∧
    (∀ m ∈ routeMarkers, Py.contains ("<presence/>" ++
      "<iq id=\"p\" type=\"get\"><ping xmlns=\"urn:xmpp:ping\"/></iq>") m = false) ∧
    parseData cfgOpen freshServer 0 (Py.utf8Encode "<presence/>" ++
      Py.utf8Encode "<iq id=\"p\" type=\"get\"><ping xmlns=\"urn:xmpp:ping\"/></iq>") =
    (parseData cfgOpen freshServer 0 (Py.utf8Encode "<presence/>")).bind fun w' =>
      parseData cfgOpen w' 0 (Py.utf8Encode "<iq id=\"p\" type=\"get\"><ping xmlns=\"urn:xmpp:ping\"/></iq>") :=
  ⟨by decide, by decide, by decide, parseData_append cfgOpen freshServer 0 _ _ (by decide) (by decide) (by decide)⟩

/-- A bot's stream header and its `<auth>` in one chunk: the chunk does not parse,
and only the header is answered; sent one after the other, the bot authenticates. -/
theorem header_with_auth_in_one_chunk :
    ((dataReceived cfgOpen (acceptConnection freshServer) 0
      (Py.utf8Encode (botHeader ++ saslAuth "AFNOMTIzAHB3"))).sessions 0).type = .unknown ∧
    ((dataReceived cfgOpen (dataReceived cfgOpen (acceptConnection freshServer) 0 (Py.utf8Encode botHeader))
      0 (Py.utf8Encode (saslAuth "AFNOMTIzAHB3"))).sessions 0).type = .bot := by
  rw [dataReceived_utf8Encode _ _ _ (botHeader ++ _), show fromstring (wrap (botHeader ++
    saslAuth "AFNOMTIzAHB3")) = .error .unboundPrefix by rfl, saslAuth_received _ _ _ "AFNOMTIzAHB3" rfl,
    botHeader_received]
  decide

/-- A control query to the bot `SN1`. -/
def querySN1 : String := "<iq id=\"q\" to=\"SN1\"><query xmlns=\"com:ctl\"/></iq>"

/-- The element of `querySN1`, with a tail. -/
def querySN1Element (tail : Option String) : Element :=
  ⟨"iq", [("id", "q"), ("to", "SN1")], none, tail, [⟨"{com:ctl}query", [], none, none, []⟩]⟩

/-- A roster request. -/
def rosterIq : String := "<iq id=\"r\"><query xmlns=\"jabber:iq:roster\"/></iq>"

/-- The element of `rosterIq`. -/
def rosterElement : Element :=
  ⟨"iq", [("id", "r")], none, none, [⟨"{jabber:iq:roster}query", [], none, none, []⟩]⟩

/-- A roster request and a control query in one chunk: the chunk contains
`roster`, so `_handle_ctl` answers both with feature-not-implemented and the
query never reaches the bot; sent one after the other, the bot is written it. -/
theorem roster_with_query_in_one_chunk :
    isStanzas rosterIq = true ∧ isStanzas querySN1 = true ∧
    (parseData cfgOpen (pairWorld botSN1 ctlAlice) 1
      (Py.utf8Encode rosterIq ++ Py.utf8Encode querySN1)).map (·.effects) =
      some [.write 1 ("<iq type=\"error\" id=\"r\"><error type=\"cancel\" code=\"501\">" ++
          "<feature-not-implemented xmlns=\"urn:ietf:params:xml:ns:xmpp-stanzas\"/></error></iq>"),
        .write 1 ("<iq type=\"error\" id=\"q\"><error type=\"cancel\" code=\"501\">" ++
          "<feature-not-implemented xmlns=\"urn:ietf:params:xml:ns:xmpp-stanzas\"/></error></iq>")] ∧
    ((parseData cfgOpen (pairWorld botSN1 ctlAlice) 1 (Py.utf8Encode rosterIq)).bind fun w' =>
      parseData cfgOpen w' 1 (Py.utf8Encode querySN1)).map (·.effects) =
      some [.write 1 ("<iq type=\"error\" id=\"r\"><error type=\"cancel\" code=\"501\">" ++
          "<feature-not-implemented xmlns=\"urn:ietf:params:xml:ns:xmpp-stanzas\"/></error></iq>"),
        .write 0 "<iq id=\"q\" to=\"SN1\" from=\"alice@ecouser.net/r\"><query xmlns=\"com:ctl\" /></iq>"] := by
  have hr : fromstring ("<root>" ++ rosterIq ++ "</root>") = .ok (rootOf [rosterElement]) := rfl
  have hq : fromstring ("<root>" ++ querySN1 ++ "</root>") = .ok (rootOf [querySN1Element none]) := rfl
  refine ⟨by decide, by decide, ?_, ?_⟩ <;>
    simp only [← Py.utf8Encode_append, parseData, Py.utf8Decode_utf8Encode, Option.map_some',
      Option.some_bind, wrap_plain (show Py.startswith rosterIq "<?xml" = false by decide),
      wrap_plain (show Py.startswith querySN1 "<?xml" = false by decide),
      wrap_plain (show Py.startswith (rosterIq ++ querySN1) "<?xml" = false by decide),
      Xml.fromstring_root_append hr hq rfl, hr, hq] <;>
    decide

/-- A control query and then a presence after a newline: apart, the newline is
text before the presence and the bot is written the query; in one chunk it is
the query's tail, which `tostring` writes to the bot with it. -/
theorem text_before_stanza_in_one_chunk :
    isStanzas querySN1 = true ∧ isStanzas "\n<presence/>" = false ∧
    (parseData cfgOpen (pairWorld botSN1 ctlAlice) 1
      (Py.utf8Encode querySN1 ++ Py.utf8Encode "\n<presence/>")).map (·.effects) =
      some [.write 0 "<iq id=\"q\" to=\"SN1\" from=\"alice@ecouser.net/r\"><query xmlns=\"com:ctl\" /></iq>\n",
        .write 1 "<presence to=\"alice@ecouser.net/r\"> dummy </presence>"] ∧
    ((parseData cfgOpen (pairWorld botSN1 ctlAlice) 1 (Py.utf8Encode querySN1)).bind fun w' =>
      parseData cfgOpen w' 1 (Py.utf8Encode "\n<presence/>")).map (·.effects) =
      some [.write 0 "<iq id=\"q\" to=\"SN1\" from=\"alice@ecouser.net/r\"><query xmlns=\"com:ctl\" /></iq>",
        .write 1 "<presence to=\"alice@ecouser.net/r\"> dummy </presence>"] := by
  have hq : fromstring ("<root>" ++ querySN1 ++ "</root>") = .ok (rootOf [querySN1Element none]) := rfl
  have hp : fromstring ("<root>" ++ "\n<presence/>" ++ "</root>") =
      .ok ⟨"root", [], some "\n", none, [⟨"presence", [], none, none, []⟩]⟩ := rfl
  have hqp : fromstring ("<root>" ++ (querySN1 ++ "\n<presence/>") ++ "</root>") =
      .ok (rootOf [querySN1Element (some "\n"), ⟨"presence", [], none, none, []⟩]) := rfl
  refine ⟨by decide, by decide, ?_, ?_⟩ <;>
    simp only [← Py.utf8Encode_append, parseData, Py.utf8Decode_utf8Encode, Option.map_some',
      Option.some_bind, wrap_plain (show Py.startswith querySN1 "<?xml" = false by decide),
      wrap_plain (show Py.startswith "\n<presence/>" "<?xml" = false by decide),
      wrap_plain (show Py.startswith (querySN1 ++ "\n<presence/>") "<?xml" = false by decide),
      hq, hp, hqp] <;>
    decide

/-- Chunks of complete stanzas joined are again one. -/
theorem isStanzas_append {a b : String} (ha : isStanzas a = true) (hb : isStanzas b = true) :
    isStanzas (a ++ b) = true := by
  obtain ⟨hxa, ra, hra, hat⟩ := isStanzas_parse ha
  obtain ⟨hxb, rb, hrb, hbt⟩ := isStanzas_parse hb
  have hx := startswith_append hra hxa hxb
  simp [isStanzas, hx, wrap_plain hx, Xml.fromstring_root_append hra hrb hbt, Xml.Element.prefixed, hat]

theorem isStanzas_join {ts : List String} (h : ∀ t ∈ ts, isStanzas t = true) :
    isStanzas (String.join ts) = true := by
  induction ts with
  | nil => decide
  | cons t ts ih =>
    rw [Py.join_cons]
    exact isStanzas_append (h t (List.mem_cons_self _ _)) (ih fun u hu => h u (List.mem_cons_of_mem _ hu))

/-- The empty chunk changes nothing. -/
theorem parseData_empty (cfg : Config) (w : World) (me : Nat) :
    parseData cfg w me (Py.utf8Encode "") = some w := rfl

/-- **A stream of stanzas, cut anywhere between stanzas.** However TCP cuts a
text of complete stanzas into chunks, each a sequence of complete stanzas, and as
long as none of the five texts occurs in it, `parse_data` of the chunks in turn does
what `parse_data` of the whole text does. -/
theorem parseData_join (cfg : Config) (w : World) (me : Nat) (ts : List String)
    (hs : ∀ t ∈ ts, isStanzas t = true)
    (hm : ∀ m ∈ routeMarkers, Py.contains (String.join ts) m = false) :
    parseData cfg w me (Py.utf8Encode (String.join ts)) =
      ts.foldlM (fun w t => parseData cfg w me (Py.utf8Encode t)) w := by
  induction ts generalizing w with
  | nil => exact parseData_empty cfg w me
  | cons t ts ih =>
    have hts : ∀ u ∈ ts, isStanzas u = true := fun u hu => hs u (List.mem_cons_of_mem _ hu)
    rw [Py.join_cons] at hm ⊢
    rw [parseData_text_append cfg w me t _ (hs t (List.mem_cons_self _ _)) (isStanzas_join hts) hm,
      List.foldlM_cons]
    cases parseData cfg w me (Py.utf8Encode t) with
    | none => rfl
    | some w' => exact ih w' hts fun m h => (Py.contains_append_eq_false (hm m h)).2

/-- A session iq, a ping and a presence, sent as one chunk and as three. -/
example :
    (∀ t ∈ [sessionIq, "<iq id=\"p\" type=\"get\"><ping xmlns=\"urn:xmpp:ping\"/></iq>", "<presence/>"],
      isStanzas t = true) ∧
    (∀ m ∈ routeMarkers, Py.contains (String.join [sessionIq,
      "<iq id=\"p\" type=\"get\"><ping xmlns=\"urn:xmpp:ping\"/></iq>", "<presence/>"]) m = false) ∧
    parseData cfgOpen (acceptConnection freshServer) 0 (Py.utf8Encode (String.join [sessionIq,
      "<iq id=\"p\" type=\"get\"><ping xmlns=\"urn:xmpp:ping\"/></iq>", "<presence/>"])) =
    [sessionIq, "<iq id=\"p\" type=\"get\"><ping xmlns=\"urn:xmpp:ping\"/></iq>", "<presence/>"].foldlM
      (fun w t => parseData cfgOpen w 0 (Py.utf8Encode t)) (acceptConnection freshServer) :=
  ⟨by decide, by decide, parseData_join _ _ _ _ (by decide) (by decide)⟩

/-! ## A chunk that does not parse -/

/-- **A chunk that does not parse is dropped.** A chunk that is not well-formed
UTF-8 closes the transport and changes nothing else; one that decodes but does
not parse, and has neither a stream header nor `</stream:stream>` in it, changes
nothing at all. -/
theorem unparsed_chunk_dropped (cfg : Config) (w : World) (c : Nat) :
    (∀ text e, fromstring (wrap text) = .error e →
      Py.contains (wrap text) "<stream:stream" = false →
      Py.contains (wrap text) "</stream:stream>" = false →
      dataReceived cfg w c (Py.utf8Encode text) = w) ∧
    (∀ data, Py.utf8Decode data = none →
      dataReceived cfg w c data = { w with effects := w.effects ++ [.close c] }) := by
  refine ⟨fun text e he hs hc => ?_, fun data hd => by simp [dataReceived, parseData, hd]⟩
  have hs' : Py.contains (wrap text) "<stream:stream " = false := by
    cases h : Py.contains (wrap text) "<stream:stream " with
    | false => rfl
    | true => simpa [hs] using @Py.contains_of_contains_append (wrap text) "<stream:stream" " " h
  rw [dataReceived_utf8Encode, he]
  simp [handleParseError, hs, hs', hc]

/-- The half stanza `<pres` is dropped, and a lone `0xFF` byte closes the
connection. -/
theorem unparsed_chunk_dropped_pres :
    dataReceived cfgOpen freshServer 0 (Py.utf8Encode "<pres") = freshServer ∧
    dataReceived cfgOpen freshServer 0 [0xFF] =
      { freshServer with effects := freshServer.effects ++ [.close 0] } :=
  ⟨(unparsed_chunk_dropped cfgOpen freshServer 0).1 "<pres" .invalidToken rfl (by decide) (by decide),
   (unparsed_chunk_dropped cfgOpen freshServer 0).2 [0xFF] (by decide)⟩

/-- `<presence/>` is answered; cut after `<pres`, neither part is. -/
theorem split_presence_lost :
    Py.utf8Encode "<pres" ++ Py.utf8Encode "ence/>" = Py.utf8Encode "<presence/>" ∧
    (dataReceived cfgOpen (acceptConnection freshServer) 0 (Py.utf8Encode "<presence/>")).effects =
      [.write 0 "<presence to=\"\"> dummy </presence>"] ∧
    (dataReceived cfgOpen (dataReceived cfgOpen (acceptConnection freshServer) 0 (Py.utf8Encode "<pres"))
      0 (Py.utf8Encode "ence/>")).effects = [] := by
  refine ⟨by decide, ?_, ?_⟩
  · rw [dataReceived_utf8Encode, show fromstring (wrap "<presence/>") =
      .ok (rootOf [⟨"presence", [], none, none, []⟩]) by rfl]
    decide
  · rw [dataReceived_utf8Encode _ _ _ "ence/>", show fromstring (wrap "ence/>") =
        .ok ⟨"root", [], some "ence/>", none, []⟩ by rfl, dataReceived_utf8Encode _ _ _ "<pres",
      show fromstring (wrap "<pres") = .error .invalidToken by rfl]
    decide

end Bumper
