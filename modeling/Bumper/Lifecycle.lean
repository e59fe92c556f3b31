import Bumper.Frame
import Bumper.Routing

/-!
# Bumper — sessions over whole runs

What the chunks of a login do to a session in every state it can be in, the
shape of the JID a bound session carries, and runs of the server from its
initial state. `parse_data` dispatches every parsed element whatever the
session's state, so each handler's effect holds in every state, not only in the
one the handshake reaches it in.

## Results

* `boundJid_shape` — in every run, a session with a JID is in `BIND` or later,
  and if it has a devclass its JID is `u@devclass.ecorobot.net/atom`.
* `sessionIq_ready` — a session iq puts every session that is not disconnected
  in `READY`, authenticated or not.
* `saslAuth_uid` — an `<auth>` sets the uid of a session in any state.
* `bindResource_flags` — a bind sets the online flag of the resource the session
  had, then gives the session the resource it names.
* `cleanQuery_handled` — a control query from a controller or a session that has
  not authenticated goes to `_handle_ctl`, whatever its state.
-/

namespace Bumper

open Xml

/-! ## Chunks -/

/-- The stream header of a bot of devclass `xyz` (§8, scenario 1). -/
def botHeader : String := "<stream:stream to=\"xyz.ecorobot.net\" xmlns=\"jabber:client\">"

/-- A SASL PLAIN `<auth>` carrying the base-64 payload `p`. -/
def saslAuth (p : String) : String :=
  "<auth xmlns=\"urn:ietf:params:xml:ns:xmpp-sasl\" mechanism=\"PLAIN\">" ++ p ++ "</auth>"

/-- The bind request of §8, scenario 1. -/
def bindIq : String := "<iq id=\"a\" type=\"set\"><bind/></iq>"

/-- A bind request naming the resource `r`. -/
def bindResourceIq (r : String) : String :=
  "<iq id=\"b\" type=\"set\"><bind xmlns=\"urn:ietf:params:xml:ns:xmpp-bind\"><resource>" ++ r ++
    "</resource></bind></iq>"

/-- A session request. -/
def sessionIq : String := "<iq id=\"s\" type=\"set\"><session/></iq>"

/-- The control query of §8, scenario 2. -/
def cleanQuery : String :=
  "<iq id=\"q1\" type=\"set\" to=\"SN123@xyz.ecorobot.net\"><query xmlns=\"com:ctl\">" ++
    "<ctl td=\"Clean\"/></query></iq>"

/-- The element ElementTree makes of `saslAuth p`. -/
def authElement (p : String) : Element :=
  ⟨"{urn:ietf:params:xml:ns:xmpp-sasl}auth", [("mechanism", "PLAIN")], some p, none, []⟩

/-- The element of `cleanQuery`. -/
def cleanQueryElement : Element :=
  ⟨"iq", [("id", "q1"), ("type", "set"), ("to", "SN123@xyz.ecorobot.net")], none, none,
    [⟨"{com:ctl}query", [], none, none, [⟨"{com:ctl}ctl", [("td", "Clean")], none, none, []⟩]⟩]⟩

/-- The wrapped chunk as its artificial root. -/
def rootOf (es : List Element) : Element := ⟨"root", [], none, none, es⟩

section chunks

variable (cfg : Config) (w : World) (c : Nat)

theorem botHeader_received :
    dataReceived cfg w c (Py.utf8Encode botHeader) =
      handleParseError cfg w c (wrap botHeader) "unbound prefix" := by
  rw [dataReceived_utf8Encode, show fromstring (wrap botHeader) = .error .unboundPrefix by rfl]
  rfl

theorem saslAuth_received (p : String)
    (hp : fromstring (wrap (saslAuth p)) = .ok (rootOf [authElement p])) :
    dataReceived cfg w c (Py.utf8Encode (saslAuth p)) =
      dispatch cfg c (wrap (saslAuth p)) w (rootOf [authElement p]) := by
  rw [dataReceived_utf8Encode, hp]

theorem bindIq_received :
    dataReceived cfg w c (Py.utf8Encode bindIq) = dispatch cfg c (wrap bindIq) w
      (rootOf [⟨"iq", [("id", "a"), ("type", "set")], none, none, [⟨"bind", [], none, none, []⟩]⟩]) := by
  rw [dataReceived_utf8Encode, show fromstring (wrap bindIq) = .ok (rootOf
    [⟨"iq", [("id", "a"), ("type", "set")], none, none, [⟨"bind", [], none, none, []⟩]⟩]) by rfl]

theorem sessionIq_received :
    dataReceived cfg w c (Py.utf8Encode sessionIq) = dispatch cfg c (wrap sessionIq) w
      (rootOf [⟨"iq", [("id", "s"), ("type", "set")], none, none, [⟨"session", [], none, none, []⟩]⟩]) := by
  rw [dataReceived_utf8Encode, show fromstring (wrap sessionIq) = .ok (rootOf
    [⟨"iq", [("id", "s"), ("type", "set")], none, none, [⟨"session", [], none, none, []⟩]⟩]) by rfl]

theorem bindResourceIq_received :
    dataReceived cfg w c (Py.utf8Encode (bindResourceIq "r2")) =
      dispatch cfg c (wrap (bindResourceIq "r2")) w (rootOf
        [⟨"iq", [("id", "b"), ("type", "set")], none, none,
          [⟨"{urn:ietf:params:xml:ns:xmpp-bind}bind", [], none, none,
            [⟨"{urn:ietf:params:xml:ns:xmpp-bind}resource", [], some "r2", none, []⟩]⟩]⟩]) := by
  rw [dataReceived_utf8Encode, show fromstring (wrap (bindResourceIq "r2")) = .ok (rootOf
    [⟨"iq", [("id", "b"), ("type", "set")], none, none,
      [⟨"{urn:ietf:params:xml:ns:xmpp-bind}bind", [], none, none,
        [⟨"{urn:ietf:params:xml:ns:xmpp-bind}resource", [], some "r2", none, []⟩]⟩]⟩]) by rfl]

theorem cleanQuery_received :
    dataReceived cfg w c (Py.utf8Encode cleanQuery) =
      dispatch cfg c (wrap cleanQuery) w (rootOf [cleanQueryElement]) := by
  rw [dataReceived_utf8Encode, show fromstring (wrap cleanQuery) = .ok (rootOf [cleanQueryElement]) by rfl]

end chunks

/-- The server before its first connection, over an empty store. -/
def freshServer : World := World.initial ⟨fun _ => none, fun _ => none⟩ (fun _ => "")

/-- A controller `alice` logs in on connection `0`: SASL, bind, session. -/
def controllerLogin : List Event :=
  [.accept, .data 0 (Py.utf8Encode (saslAuth "AGFsaWNlAHB3")), .data 0 (Py.utf8Encode bindIq),
   .data 0 (Py.utf8Encode sessionIq)]

/-- The bot `SN123` of §8, scenario 1, logs in on connection `0` (without TLS). -/
def botLogin : List Event :=
  [.accept, .data 0 (Py.utf8Encode botHeader), .data 0 (Py.utf8Encode (saslAuth "AFNOMTIzAHB3")),
   .data 0 (Py.utf8Encode bindIq), .data 0 (Py.utf8Encode sessionIq)]

/-! ## What a login does, in every state -/

section login

variable (cfg : Config) (w : World) (c : Nat)

/-- A state below `READY` is any but `DISCONNECT`. -/
theorem toNat_le_ready {s : State} : s.toNat ≤ State.ready.toNat ↔ s ≠ .disconnect := by
  cases s <;> decide

/-- **A session iq makes any session `READY`** that is not disconnected, whatever
its state and whether or not it authenticated. -/
theorem sessionIq_ready :
    (dataReceived cfg w c (Py.utf8Encode sessionIq)).sessions c =
      if (w.sessions c).state = .disconnect then w.sessions c
      else { w.sessions c with state := .ready } := by
  rw [sessionIq_received]
  show (handleSession w c _).sessions c = _
  simp [handleSession, World.setState_sessions, toNat_le_ready]

/-- A session iq straight after the connection is made: `READY`, unauthenticated. -/
theorem sessionIq_without_login :
    ((run cfgOpen freshServer [.accept, .data 0 (Py.utf8Encode sessionIq)]).sessions 0).state = .ready ∧
    ((run cfgOpen freshServer [.accept, .data 0 (Py.utf8Encode sessionIq)]).sessions 0).type = .unknown := by
  have hrun := run_data cfgOpen freshServer [.accept] (Py.utf8Encode sessionIq) (c := 0) rfl
  rw [List.singleton_append] at hrun
  rw [hrun, sessionIq_ready]
  exact ⟨rfl, rfl⟩

/-- `_handle_sasl_auth` leaves the uid of the payload, whatever it decides. -/
theorem handleSaslAuth_uid {x : Element} {t u : String} {r : Option String} {a : String}
    (hx : x.text = some t) (ht : t ≠ "")
    (hd : (Py.b64decode t >>= Py.utf8Decode >>= saslFields) = some (u, r, a)) :
    ((handleSaslAuth cfg w c x).sessions c).uid = u := by
  unfold handleSaslAuth
  rw [hx]
  simp only [ht, if_false, hd]
  split_ifs <;> simp only [World.setState_sessions, World.setClient_sessions, World.send_sessions,
    if_true] <;> split_ifs <;> rfl

/-- **An `<auth>` sets the uid** of a session in any state, before the credentials
are looked at: here `\0bob\0pw`. -/
theorem saslAuth_uid :
    ((dataReceived cfg w c (Py.utf8Encode (saslAuth "AGJvYgBwdw=="))).sessions c).uid = "bob" := by
  rw [saslAuth_received cfg w c "AGJvYgBwdw==" rfl]
  exact @handleSaslAuth_uid cfg w c (authElement "AGJvYgBwdw==") _ _ _ _ rfl (by decide)
    (show (Py.b64decode "AGJvYgBwdw==" >>= Py.utf8Decode >>= saslFields) = some ("bob", some "pw", "") by
      decide)

/-- Where `controllerLogin` leaves connection `0`: open, `READY` with the uid
`alice`, and its ping loop pending. -/
theorem controllerLogin_ready :
    ((run cfgOpen freshServer controllerLogin).sessions 0).state = .ready ∧
    ((run cfgOpen freshServer controllerLogin).sessions 0).uid = "alice" ∧
    (run cfgOpen freshServer controllerLogin).isOpen 0 = true ∧
    (run cfgOpen freshServer controllerLogin).tasks = [.ping 0 30] := by
  simp only [run, controllerLogin, List.foldl_cons, List.foldl_nil, step,
    saslAuth_received _ _ _ "AGFsaWNlAHB3" rfl, bindIq_received, sessionIq_received]
  decide

/-- A controller in `READY` that sends a second `<auth>` changes its uid. -/
theorem ready_session_reauthenticates :
    ((run cfgOpen freshServer controllerLogin).sessions 0).state = .ready ∧
    ((run cfgOpen freshServer controllerLogin).sessions 0).uid = "alice" ∧
    ((run cfgOpen freshServer
      (controllerLogin ++ [.data 0 (Py.utf8Encode (saslAuth "AGJvYgBwdw=="))])).sessions 0).uid = "bob" := by
  have hlogin := controllerLogin_ready
  refine ⟨hlogin.1, hlogin.2.1, ?_⟩
  rw [run, List.foldl_append, List.foldl_cons, List.foldl_nil, ← run, step, if_pos hlogin.2.2.1]
  exact saslAuth_uid cfgOpen _ 0

/-- **A bind sets the flag of the old resource.** `_handle_bind` marks online the
client record of the resource the session has before the bind, and no other,
then gives a controller the resource the request names and moves the session
to `BIND`. -/
theorem bindResource_flags :
    (∀ r, (dataReceived cfg w c (Py.utf8Encode (bindResourceIq "r2"))).store.clients r =
      if r = (w.sessions c).clientresource then (w.store.clients r).map (fun _ => true)
      else w.store.clients r) ∧
    ((dataReceived cfg w c (Py.utf8Encode (bindResourceIq "r2"))).sessions c).clientresource =
      (if (w.sessions c).devclass = "" then "r2" else (w.sessions c).clientresource) ∧
    ((dataReceived cfg w c (Py.utf8Encode (bindResourceIq "r2"))).sessions c).state =
      if State.bind.toNat < (w.sessions c).state.toNat then (w.sessions c).state else .bind := by
  rw [bindResourceIq_received]
  show (∀ r, (handleBind w c _).store.clients r = _) ∧ ((handleBind w c _).sessions c).clientresource = _ ∧
    ((handleBind w c _).sessions c).state = _
  refine ⟨handleBind_clients w c _, ?_⟩
  rw [handleBind_sessions]
  by_cases hd : (w.sessions c).devclass = ""
  · simp +decide [Element.first?, bound, hd, isTruthy, truthy]
    split_ifs <;> simp_all
  · simp [Element.first?, bound, hd]
    split_ifs <;> simp_all

/-- A controller authenticated with the resource `r1` binds the resource `r2`:
the record of `r1` is online, no live session has it, and the record of the
bound resource `r2` does not exist. -/
theorem bind_flags_old_resource :
    (run cfgOpen freshServer [.accept, .data 0 (Py.utf8Encode (saslAuth "AGFsaWNlAHIxAHB3")),
      .data 0 (Py.utf8Encode (bindResourceIq "r2"))]).store.clients "r1" = some true ∧
    (run cfgOpen freshServer [.accept, .data 0 (Py.utf8Encode (saslAuth "AGFsaWNlAHIxAHB3")),
      .data 0 (Py.utf8Encode (bindResourceIq "r2"))]).accepted = 1 ∧
    ((run cfgOpen freshServer [.accept, .data 0 (Py.utf8Encode (saslAuth "AGFsaWNlAHIxAHB3")),
      .data 0 (Py.utf8Encode (bindResourceIq "r2"))]).sessions 0).clientresource = "r2" ∧
    ((run cfgOpen freshServer [.accept, .data 0 (Py.utf8Encode (saslAuth "AGFsaWNlAHIxAHB3")),
      .data 0 (Py.utf8Encode (bindResourceIq "r2"))]).sessions 0).state = .bind ∧
    (run cfgOpen freshServer [.accept, .data 0 (Py.utf8Encode (saslAuth "AGFsaWNlAHIxAHB3")),
      .data 0 (Py.utf8Encode (bindResourceIq "r2"))]).store.clients "r2" = none := by
  -- after its `<auth>` the session has the resource `r1`, whose record is offline
  obtain ⟨ho, hacc, hres, hdev, hinit, hr1, hr2⟩ :
      let w := run cfgOpen freshServer [.accept, .data 0 (Py.utf8Encode (saslAuth "AGFsaWNlAHIxAHB3"))]
      w.isOpen 0 = true ∧ w.accepted = 1 ∧ (w.sessions 0).clientresource = "r1" ∧
      (w.sessions 0).devclass = "" ∧ (w.sessions 0).state = .init ∧ w.store.clients "r1" = some false ∧
      w.store.clients "r2" = none := by
    simp only [run, List.foldl_cons, List.foldl_nil, step, saslAuth_received _ _ _ "AGFsaWNlAHIxAHB3" rfl]
    decide
  have hrun := run_data cfgOpen freshServer _ (Py.utf8Encode (bindResourceIq "r2")) ho
  simp only [List.cons_append, List.nil_append] at hrun
  obtain ⟨hrec, hbound, hst⟩ := bindResource_flags cfgOpen
    (run cfgOpen freshServer [.accept, .data 0 (Py.utf8Encode (saslAuth "AGFsaWNlAHIxAHB3"))]) 0
  rw [hrun, hrec, hrec, hbound, hst, hres, hdev, hinit, (dataReceived_local cfgOpen _ 0 _).accepted, hr1, hr2]
  exact ⟨rfl, hacc, rfl, rfl, rfl⟩

/-- **A query reaches `_handle_ctl` in every state**: `parse_data` hands the
control query of a session that is not a bot to `_handle_ctl`, whether or not
the session authenticated. -/
theorem cleanQuery_handled (h : (w.sessions c).type ≠ .bot) :
    dataReceived cfg w c (Py.utf8Encode cleanQuery) = handleCtl w c cleanQueryElement (wrap cleanQuery) := by
  rw [cleanQuery_received]
  show handleIq cfg w c cleanQueryElement _ = _
  have hq : Option.map (fun x => tagStripUri x.tag) cleanQueryElement.first? = some "query" := rfl
  simp only [handleIq, hq, show cleanQueryElement.tag = "iq" from rfl, h, if_true, if_false]
  rfl

/-- A connection that has not authenticated sends the control query of §8 to the
ready bot `SN123`, which receives it. -/
theorem unauthenticated_query_forwarded :
    (run cfgOpen freshServer (botLogin ++ [.accept, .data 1 (Py.utf8Encode cleanQuery)])).effects.getLast? =
      some (.write 0 ("<iq id=\"q1\" type=\"set\" to=\"SN123@xyz.ecorobot.net\" from=\"\">" ++
        "<query xmlns=\"com:ctl\"><ctl td=\"Clean\" /></query></iq>")) ∧
    ((run cfgOpen freshServer (botLogin ++ [.accept])).sessions 1).state = .connect := by
  -- the bot's login makes connection `0` only
  obtain ⟨hacc, hlost⟩ : (run cfgOpen freshServer botLogin).accepted = 1 ∧
      (run cfgOpen freshServer botLogin).lost 1 = false := by
    simp only [botLogin, run_cons, run_nil, step_data_history]
    exact ⟨rfl, rfl⟩
  have hnew : (acceptConnection (run cfgOpen freshServer botLogin)).sessions 1 =
      { Client.new with state := .connect } := by
    rw [acceptConnection_sessions]
    exact if_pos hacc.symm
  have ho : (acceptConnection (run cfgOpen freshServer botLogin)).isOpen 1 = true := by
    rw [World.isOpen, acceptConnection_accepted, acceptConnection_lost, hacc, hlost]
    rfl
  simp only [run_append, run_cons, run_nil, step]
  rw [if_pos ho, cleanQuery_handled cfgOpen _ 1 (by rw [hnew]; decide), hnew]
  refine ⟨?_, rfl⟩
  -- `_handle_ctl` forwards the query to the ready bot `SN123`
  simp only [run, botLogin, List.foldl_cons, List.foldl_nil, step, botHeader_received,
    saslAuth_received _ _ _ "AFNOMTIzAHB3" rfl, bindIq_received, sessionIq_received]
  decide

end login

/-! ## The JID of a bound session -/

/-- A session without a JID, or one bound (in `BIND` or later) whose JID, when it
has a devclass, is `u@devclass.ecorobot.net/atom`. -/
def BoundJid (cl : Client) : Prop :=
  cl.bumperJid = "" ∨ (State.bind.toNat ≤ cl.state.toNat ∧
    (cl.devclass ≠ "" → ∃ u, cl.bumperJid = u ++ "@" ++ cl.devclass ++ ".ecorobot.net/atom"))

theorem boundJid_move {cl cl' : Client} (hm : Move cl cl') (h : BoundJid cl) : BoundJid cl' := by
  cases hm with
  | setState hs => exact h.imp_right fun ⟨hb, hd⟩ => ⟨hb.trans hs, hd⟩
  | auth => exact h
  | kind => exact h
  | bind b hb =>
    obtain ⟨jid, res, rfl, hj⟩ := bound_eq_some hb
    refine .inr ⟨?_, ?_⟩ <;> split_ifs with hl
    · exact hl.le
    · exact le_refl _
    · exact fun hd => ⟨_, hj hd⟩
    · exact fun hd => ⟨_, hj hd⟩
  | devclass d hc =>
    refine h.imp_right fun ⟨hb, _⟩ => absurd hb ?_
    simp [hc, State.toNat]
  | tls => exact h

/-- **Bound JIDs.** In every run from the initial state, a session with a JID is in
`BIND` or later, and the JID of one with a devclass is
`u@devclass.ecorobot.net/atom` for some `u`. -/
theorem boundJid_shape (cfg : Config) (st : Store) (uuids : Nat → String) (evs : List Event)
    (c : Nat) : BoundJid ((run cfg (World.initial st uuids) evs).sessions c) :=
  (reachable_run cfg _ evs).session_inv boundJid_move (.inl rfl) (fun _ => .inl rfl) c

/-- A bot authenticated with the empty authcid, `\0\0pw`, binds: it is in `BIND`
with the empty uid and the JID `@xyz.ecorobot.net/atom`. -/
theorem empty_uid_bound :
    ((run cfgOpen freshServer [.accept, .data 0 (Py.utf8Encode botHeader),
      .data 0 (Py.utf8Encode (saslAuth "AABwdw==")), .data 0 (Py.utf8Encode bindIq)]).sessions 0).state =
        .bind ∧
    ((run cfgOpen freshServer [.accept, .data 0 (Py.utf8Encode botHeader),
      .data 0 (Py.utf8Encode (saslAuth "AABwdw==")), .data 0 (Py.utf8Encode bindIq)]).sessions 0).uid = "" ∧
    ((run cfgOpen freshServer [.accept, .data 0 (Py.utf8Encode botHeader),
      .data 0 (Py.utf8Encode (saslAuth "AABwdw==")), .data 0 (Py.utf8Encode bindIq)]).sessions 0).bumperJid =
        "@xyz.ecorobot.net/atom" := by
  simp only [run, List.foldl_cons, List.foldl_nil, step, botHeader_received,
    saslAuth_received _ _ _ "AABwdw==" rfl, bindIq_received]
  decide

end Bumper
