import Bumper.Lifecycle

/-!
# Bumper — who a session says it is

The stream header gives a session its devclass, and the SASL `<auth>` its uid,
its resource and, through the devclass, its type. This module says what
`_handle_sasl_auth` does when it does not authenticate, what it reads out of
the forms of PLAIN payload, and where `_handle_connect` finds a devclass.

* `saslAuth_failure` — `_handle_sasl_auth` sends `<success/>`, or raises and
  changes nothing, or rejects the credentials: it sends `<response/>`, and the
  uid and resource of the payload, which it assigns before it looks at the
  credentials, stay on the session; its type and state are as before.
* `standard_form_password_as_resource` — the RFC 4616 form `\0u\0p` records the
  password as the resource and checks the empty authcode; `u/r/p` raises.
* `header_devclass_from_other_attribute` — the devclass is sliced out of the raw
  chunk, from the first `to=` up to the first `.ecorobot.net` anywhere in it.
-/

namespace Bumper

open Xml

/-- `use_auth` on, over a credentials store that accepts only `alice` with the
authcode `secret`. -/
def cfgAlice : Config := ⟨true, fun u a => u = "alice" && a = "secret", true⟩

/-- The server with one connection made, `0`, in `CONNECT`. -/
def connected : World := acceptConnection freshServer

/-! ## An `<auth>` that does not succeed -/

/-- **What a SASL `<auth>` can do.** `_handle_sasl_auth` sends `<success/>`; or
it raises (no text, a payload that does not decode, no NUL field to take the uid
from) and changes nothing; or it rejects the credentials, sending `<response/>`
after it has set the uid and resource of the payload on the session, and
changing nothing else. -/
theorem saslAuth_failure (cfg : Config) (w : World) (me : Nat) (xml : Element) :
    (handleSaslAuth cfg w me xml).effects = w.effects ++ [.write me saslSuccess] ∨
    handleSaslAuth cfg w me xml = w ∨
    ∃ t u r a, xml.text = some t ∧ (Py.b64decode t >>= Py.utf8Decode >>= saslFields) = some (u, r, a) ∧
      handleSaslAuth cfg w me xml = (w.setClient me
        { w.sessions me with uid := u, clientresource := r.getD (w.sessions me).clientresource }).send
          me saslResponse := by
  unfold handleSaslAuth
  split
  · exact .inr (.inl rfl)
  · rename_i t ht
    by_cases he : t = ""
    · rw [if_pos he]
      exact .inr (.inl rfl)
    rw [if_neg he]
    split
    · exact .inr (.inl rfl)
    · rename_i u r a hd
      dsimp only
      split_ifs
      · refine .inl ?_
        rw [World.setState_effects_of_ne _ _ (by decide)]
        rfl
      · refine .inl ?_
        rw [World.send_effects, World.setState_effects_of_ne _ _ (by decide)]
        rfl
      · exact .inr (.inr ⟨t, u, r, a, ht, hd, rfl⟩)

/-- An `<auth>` for `bob` (`\0bob\0pw`), rejected: the reply is `<response/>`,
and the session, whose uid was empty, now has the uid `bob`. -/
theorem rejected_auth_sets_uid :
    (handleSaslAuth cfgAlice connected 0 (authElement "AGJvYgBwdw==")).effects =
      connected.effects ++ [.write 0 saslResponse] ∧
    ((handleSaslAuth cfgAlice connected 0 (authElement "AGJvYgBwdw==")).sessions 0).uid = "bob" ∧
    (connected.sessions 0).uid = "" := by
  decide

/-! ## The forms of PLAIN payload -/

/-- A field of a PLAIN payload in the grammars of §4.4: no NUL and no `/`. -/
def PlainField (s : String) : Prop := '\x00' ∉ s.data ∧ '/' ∉ s.data

instance : DecidablePred PlainField := fun _ => inferInstanceAs (Decidable (_ ∧ _))

/-- **What `_handle_sasl_auth` reads from each form**, as (uid, resource,
authcode): the standard form `\0u\0p` gives the password as the resource and an
empty authcode, `\0u\0r\0p` an empty authcode, and in `u/r/p` there is no NUL
field to take the uid from, so the handler raises. -/
theorem saslFields_forms {u r p : String} (hu : PlainField u) (hr : PlainField r) (hp : PlainField p) :
    saslFields ("\x00" ++ u ++ "\x00" ++ p) = some (u, some p, "") ∧
    saslFields ("\x00" ++ u ++ "\x00" ++ r ++ "\x00" ++ p) = some (u, some r, "") ∧
    saslFields (u ++ "/" ++ r ++ "/" ++ p) = none := by
  obtain ⟨hu0, hu1⟩ := hu
  obtain ⟨hr0, hr1⟩ := hr
  obtain ⟨hp0, hp1⟩ := hp
  have nul : ∀ ys, Py.splitList '\x00' ('\x00' :: ys) = [] :: Py.splitList '\x00' ys := fun ys =>
    Py.splitList_append_sep ys (List.not_mem_nil _)
  refine ⟨?_, ?_, ?_⟩ <;>
    simp [saslFields, Py.split, nul, Py.splitList_append_sep, Py.splitList_of_not_mem, *]

/-- A payload whose fields cannot be read: `_handle_sasl_auth` raises before it
changes anything. -/
theorem handleSaslAuth_unreadable (cfg : Config) (w : World) (me : Nat) {x : Element} {t : String}
    (hx : x.text = some t) (hd : (Py.b64decode t >>= Py.utf8Decode >>= saslFields) = none) :
    handleSaslAuth cfg w me x = w := by
  simp only [handleSaslAuth, hx, hd, ite_self]

/-- Credentials a session without a devclass cannot log in with: the uid and
resource of the payload stay on the session, and the reply is `<response/>`. -/
theorem handleSaslAuth_rejected (cfg : Config) (w : World) (me : Nat) {x : Element} {t u a : String}
    {r : Option String} (hx : x.text = some t) (ht : t ≠ "")
    (hd : (Py.b64decode t >>= Py.utf8Decode >>= saslFields) = some (u, r, a))
    (hdev : (w.sessions me).devclass = "") (hc : (cfg.checkAuthcode u a || !cfg.useAuth) = false) :
    handleSaslAuth cfg w me x = (w.setClient me
      { w.sessions me with uid := u, clientresource := r.getD (w.sessions me).clientresource }).send
        me saslResponse := by
  simp only [handleSaslAuth, hx, ht, hd, hdev, hc, if_false, ne_eq, not_true_eq_false]
  rfl

/-- `alice` with the authcode `secret`: the RFC 4616 form `\0alice\0secret` is
rejected, as the authcode checked is empty, and the resource recorded is the
password; in the form `alice/r/secret` taking the uid raises and nothing is
changed. -/
theorem standard_form_password_as_resource :
    ((handleSaslAuth cfgAlice connected 0 (authElement "AGFsaWNlAHNlY3JldA==")).sessions 0).clientresource =
      "secret" ∧
    (handleSaslAuth cfgAlice connected 0 (authElement "AGFsaWNlAHNlY3JldA==")).effects =
      connected.effects ++ [.write 0 saslResponse] ∧
    (handleSaslAuth cfgAlice connected 0 (authElement "YWxpY2Uvci9zZWNyZXQ=")).sessions 0 =
      connected.sessions 0 ∧
    (handleSaslAuth cfgAlice connected 0 (authElement "YWxpY2Uvci9zZWNyZXQ=")).effects =
      connected.effects := by
  have hstd : (Py.b64decode "AGFsaWNlAHNlY3JldA==" >>= Py.utf8Decode >>= saslFields) =
      some ("alice", some "secret", "") := by
    rw [show Py.b64decode "AGFsaWNlAHNlY3JldA==" >>= Py.utf8Decode = some ("\x00" ++ "alice" ++ "\x00" ++ "secret")
      by decide]
    exact (@saslFields_forms "alice" "" "secret" (by decide) (by decide) (by decide)).1
  have hslash : (Py.b64decode "YWxpY2Uvci9zZWNyZXQ=" >>= Py.utf8Decode >>= saslFields) = none := by
    rw [show Py.b64decode "YWxpY2Uvci9zZWNyZXQ=" >>= Py.utf8Decode = some ("alice" ++ "/" ++ "r" ++ "/" ++ "secret")
      by decide]
    exact (@saslFields_forms "alice" "r" "secret" (by decide) (by decide) (by decide)).2.2
  rw [handleSaslAuth_rejected cfgAlice connected 0 rfl (by decide) hstd rfl rfl,
    handleSaslAuth_unreadable cfgAlice connected 0 rfl hslash]
  exact ⟨rfl, rfl, rfl, rfl⟩

/-! ## The devclass of a stream header -/

/-- A controller's stream header to `ecouser.net` whose `from` is in a
`.ecorobot.net` domain. -/
def fromRobotHeader : String :=
  "<stream:stream to=\"ecouser.net\" xmlns=\"jabber:client\" from=\"alice@x.ecorobot.net\">"

/-- The header `fromRobotHeader` gives the session in `CONNECT` a devclass,
the text from its `to` value to the `from` value's `.ecorobot.net`, and the
`<auth>` that follows makes it a bot. -/
theorem header_devclass_from_other_attribute :
    ((run cfgOpen freshServer [.accept, .data 0 (Py.utf8Encode fromRobotHeader)]).sessions 0).devclass =
      "ecouser.net\" xmlns=\"jabber:client\" from=\"alice@x" ∧
    ((run cfgOpen freshServer [.accept, .data 0 (Py.utf8Encode fromRobotHeader),
      .data 0 (Py.utf8Encode (saslAuth "AGFsaWNlAHB3"))]).sessions 0).type = .bot := by
  simp only [run, List.foldl_cons, List.foldl_nil, step, saslAuth_received _ _ _ "AGFsaWNlAHB3" rfl,
    dataReceived_utf8Encode, show fromstring (wrap fromRobotHeader) = .error .unboundPrefix by rfl]
  decide

end Bumper
