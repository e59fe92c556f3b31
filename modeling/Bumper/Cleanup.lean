import Bumper.Routing

/-!
# Bumper — the namespace cleanup of forwarded stanzas

`_handle_ctl`, `_handle_ping` and `_handle_result` write `ET.tostring(xml)`
after four blind `str.replace` calls, `clean`. What that text is:

* `forwarded_lt_i` — the text of a forwarded `iq` still opens with `<i`: no
  replacement reaches into its first characters.
* `clean_clean_iff` — applied to its own output, once the `ns0` artefacts and the
  `xmlns` of the `iq` are gone, the cleanup changes nothing exactly when no
  `<query` (resp. `<ping`) is left. The last replacement writes `<query` again,
  so the cleanup is not idempotent on any control query (`clean_twice_query`).
* `listQuery_forwarded_not_xml` — the last replacement also matches `<query` as
  the start of a longer name, and the text written to the bot is then not XML.
-/

namespace Bumper

open Xml

/-! ## The first characters of a forwarded text -/

/-- A replacement whose pattern matches neither at the `<` nor at the `i` of a
text opening with `<i`, or whose replacement there opens with `i` again, keeps
the opening `<i`. -/
theorem replace_lt_i {s old new : String} {r : List Char} (hs : s.data = '<' :: 'i' :: r)
    (hold : old.data ≠ []) (h0 : Py.isPrefix old.data ('<' :: 'i' :: r) = false)
    (h1 : Py.isPrefix old.data ('i' :: r) = true → ∃ n, new.data = 'i' :: n) :
    ∃ r', (Py.replace s old new).data = '<' :: 'i' :: r' := by
  simp only [Py.replace, hold, if_false, hs, Py.replaceScan, h0, Bool.false_eq_true]
  split
  · obtain ⟨n, hn⟩ := h1 ‹_›
    exact ⟨_, by rw [hn]; rfl⟩
  · exact ⟨_, rfl⟩

/-- A pattern that does not open with `<` or `i` matches at neither place. -/
theorem replace_lt_i_of_head {s old : String} (new : String) {r : List Char} {a : Char}
    (hs : s.data = '<' :: 'i' :: r) (ha : old.data.head? = some a) (h₁ : a ≠ '<') (h₂ : a ≠ 'i') :
    ∃ r', (Py.replace s old new).data = '<' :: 'i' :: r' :=
  replace_lt_i hs (fun h => by simp [h] at ha)
    (Py.isPrefix_eq_false_of_head ha (show ('<' :: 'i' :: r).head? = some '<' from rfl) h₁)
    fun h => absurd h (by
      rw [Py.isPrefix_eq_false_of_head ha (show ('i' :: r).head? = some 'i' from rfl) h₂]; decide)

/-- The cleanup keeps the opening `<i` of a text, when the element it namespaces
does not start with `i`. -/
theorem clean_lt_i (ns child : String) {s : String} {r : List Char} (hs : s.data = '<' :: 'i' :: r)
    {a : Char} {cs : List Char} (hc : child.data = a :: cs) (ha : a ≠ 'i') :
    ∃ r', (clean ns child s).data = '<' :: 'i' :: r' := by
  obtain ⟨r₁, h₁⟩ := replace_lt_i_of_head "xmlns=" hs (show "xmlns:ns0=".data.head? = some 'x' from rfl)
    (by decide) (by decide)
  obtain ⟨r₂, h₂⟩ := replace_lt_i_of_head "" h₁ (show "ns0:".data.head? = some 'n' from rfl)
    (by decide) (by decide)
  have hi : ("iq xmlns=\"" ++ ns ++ "\"").data.head? = some 'i' := rfl
  obtain ⟨r₃, h₃⟩ := @replace_lt_i _ ("iq xmlns=\"" ++ ns ++ "\"") "iq" _ h₂ (fun h => by simp [h] at hi)
    (Py.isPrefix_eq_false_of_head hi (show ('<' :: 'i' :: r₂).head? = some '<' from rfl) (by decide))
    fun _ => ⟨_, rfl⟩
  have hq : ("<" ++ child).data = '<' :: a :: cs := by rw [String.data_append, hc]; rfl
  exact @replace_lt_i _ ("<" ++ child) _ r₃ h₃ (by rw [hq]; exact List.cons_ne_nil _ _)
    (by rw [hq]; simp [Py.isPrefix, ha]) fun h => absurd h (by rw [hq]; simp [Py.isPrefix])

/-- `ET.tostring` of an `iq` opens with `<iq`. -/
theorem tostring_iq {e : Element} {s : String} (ht : e.tag = "iq") (h : tostring e = some s) :
    ∃ r, s.data = '<' :: 'i' :: 'q' :: r := by
  obtain ⟨ns, -, rfl⟩ := Option.map_eq_some'.1 h
  rcases e with ⟨tag, attrib, text, tail, cs⟩
  cases ht
  rw [Element.serial.eq_1]
  exact ⟨_, rfl⟩

/-- **A forwarded text opens with `<i`**: the cleaned `ET.tostring` of an `iq`,
for both cleanups. -/
theorem forwarded_lt_i {e : Element} {s : String} (ht : e.tag = "iq") (h : tostring e = some s) :
    (∃ r, (cleanCtl s).data = '<' :: 'i' :: r) ∧ ∃ r, (cleanPing s).data = '<' :: 'i' :: r := by
  obtain ⟨r, hr⟩ := tostring_iq ht h
  exact ⟨clean_lt_i _ _ hr (show "query".data = 'q' :: "uery".data from rfl) (by decide),
    clean_lt_i _ _ hr (show "ping".data = 'p' :: "ing".data from rfl) (by decide)⟩

/-! ## Cleaning twice -/

/-- **When cleaning twice changes nothing.** For a text the cleanup has left
without `ns0` and without the `xmlns` of the `iq`, a second cleanup changes
nothing exactly when the text has no `<query` (resp. `<ping`): every one the
first cleanup wrote gets another `xmlns`. -/
theorem clean_clean_iff (ns child x : String) (h0 : Py.contains (clean ns child x) "ns0" = false)
    (hiq : Py.contains (clean ns child x) ("iq xmlns=\"" ++ ns ++ "\"") = false) :
    clean ns child (clean ns child x) = clean ns child x ↔
      Py.contains (clean ns child x) ("<" ++ child) = false := by
  generalize clean ns child x = y at h0 hiq ⊢
  have hns : ∀ p, Py.contains p "ns0" = true → Py.contains y p = false := fun p hp => by
    cases h : Py.contains y p
    · rfl
    · rw [Py.contains_trans hp h] at h0; cases h0
  have hq : ("<" ++ child).data = '<' :: child.data := by rw [String.data_append]; rfl
  simp only [clean, Py.replace_of_contains_false _ (hns "xmlns:ns0=" (by decide)),
    Py.replace_of_contains_false _ (hns "ns0:" (by decide)), Py.replace_of_contains_false _ hiq]
  constructor
  · intro he
    cases hc : Py.contains y ("<" ++ child)
    · rfl
    · refine absurd he (Py.replace_ne_of_contains (by rw [hq]; exact List.cons_ne_nil _ _) ?_ hc)
      simp [String.data_append, hq]
  · exact Py.replace_of_contains_false _

/-- The serialisation of an `iq` whose child is a control query, as `ET.tostring`
writes it. -/
def serialQuery : String := "<iq xmlns:ns0=\"com:ctl\"><ns0:query /></iq>"

theorem clean_clean_serialQuery :
    Py.contains (cleanCtl serialQuery) "ns0" = false ∧
    Py.contains (cleanCtl serialQuery) "iq xmlns=\"com:ctl\"" = false ∧
    (cleanCtl (cleanCtl serialQuery) = cleanCtl serialQuery ↔
      Py.contains (cleanCtl serialQuery) "<query" = false) :=
  ⟨by decide, by decide, clean_clean_iff "com:ctl" "query" serialQuery (by decide) (by decide)⟩

/-- Cleaning `serialQuery` twice writes a second `xmlns` on the query. -/
theorem clean_twice_query :
    cleanCtl (cleanCtl serialQuery) ≠ cleanCtl serialQuery ∧
    cleanCtl (cleanCtl serialQuery) = "<iq><query xmlns=\"com:ctl\" xmlns=\"com:ctl\" /></iq>" := by
  decide

/-! ## A name that starts with `query` -/

/-- A control query whose `ctl` holds an element named `queryList`. -/
def listQuery : String :=
  "<iq id=\"q2\" type=\"get\" to=\"SN1@xyz.ecorobot.net\"><query xmlns=\"com:ctl\">" ++
    "<ctl td=\"GetCleanLogs\"><queryList/></ctl></query></iq>"

/-- The element of `listQuery`. -/
def listQueryElement : Element :=
  ⟨"iq", [("id", "q2"), ("type", "get"), ("to", "SN1@xyz.ecorobot.net")], none, none,
    [⟨"{com:ctl}query", [], none, none, [⟨"{com:ctl}ctl", [("td", "GetCleanLogs")], none, none,
      [⟨"{com:ctl}queryList", [], none, none, []⟩]⟩]⟩]⟩

set_option maxRecDepth 4000 in
/-- The controller `alice` sends `listQuery` to the bot `SN1`: the text the bot
is written has `<query xmlns="com:ctl"List />` for `<queryList/>`, and it does not
parse. -/
theorem listQuery_forwarded_not_xml :
    (dataReceived cfgOpen (pairWorld botSN1 ctlAlice) 1 (Py.utf8Encode listQuery)).effects =
      [.write 0 ("<iq id=\"q2\" type=\"get\" to=\"SN1@xyz.ecorobot.net\" from=\"alice@ecouser.net/r\">" ++
        "<query xmlns=\"com:ctl\"><ctl td=\"GetCleanLogs\"><query xmlns=\"com:ctl\"List /></ctl>" ++
        "</query></iq>")] ∧
    fromstring ("<iq id=\"q2\" type=\"get\" to=\"SN1@xyz.ecorobot.net\" from=\"alice@ecouser.net/r\">" ++
        "<query xmlns=\"com:ctl\"><ctl td=\"GetCleanLogs\"><query xmlns=\"com:ctl\"List /></ctl>" ++
        "</query></iq>") = .error .invalidToken := by
  refine ⟨?_, rfl⟩
  rw [dataReceived_utf8Encode,
    show fromstring (wrap listQuery) = .ok ⟨"root", [], none, none, [listQueryElement]⟩ from rfl]
  decide

end Bumper
