import Bumper.Route

/-!
# Bumper — stream set-up, SASL, bind, session and presence

The handlers that move a session through its states: `_handle_connect` answers
a stream header (and takes the devclass out of it), `_handle_sasl_auth`
authenticates, `_handle_bind` gives the session its JID, `_handle_session` makes
it `READY` and starts the ping loop, and `_handle_presence` answers presence or
ends the session. Each is written as the source has it, including the order of
its assignments against the places where it can raise: where Python raises
inside the handler's `try`, the model stops with what was done so far.
-/

namespace Bumper

open Xml

/-- `_tag_strip_uri`: the local part of a `{uri}local` tag. -/
def tagStripUri (tag : String) : String :=
  match tag.data with
  | '\x7b' :: rest => String.mk (Py.partitionAfter '\x7d' rest)
  | _ => tag

/-! ## SASL -/

/-- What `_handle_sasl_auth` reads from a decoded PLAIN payload: the uid (the
second NUL-separated field of the first `/`-separated one), the resource (the
second `/`-field, else the third NUL-field) and the authcode (the third
`/`-field, else empty); `none` when indexing the uid raises. -/
def saslFields (decoded : String) : Option (String × Option String × String) :=
  let saslauth := Py.split decoded '/'
  let nul := Py.split (saslauth.headD "") '\x00'
  (nul.get? 1).map fun username =>
    (username,
     if saslauth.length > 1 then saslauth.get? 1 else if nul.length > 2 then nul.get? 2 else none,
     if saslauth.length > 2 then (saslauth.get? 2).getD "" else "")

def saslSuccess : String := "<success xmlns=\"urn:ietf:params:xml:ns:xmpp-sasl\"/>"
def saslResponse : String := "<response xmlns=\"urn:ietf:params:xml:ns:xmpp-sasl\"/>"

/-- `_handle_sasl_auth`. The uid and resource are assigned before the credentials
are checked; a bot (non-empty devclass) is accepted unconditionally. -/
def handleSaslAuth (cfg : Config) (w : World) (me : Nat) (xml : Element) : World :=
  match xml.text with
  | none => w
  | some text =>
    if text = "" then w
    else match Py.b64decode text >>= Py.utf8Decode >>= saslFields with
      | none => w
      | some (uid, resource, authcode) =>
        let self := { w.sessions me with
          uid := uid, clientresource := resource.getD (w.sessions me).clientresource }
        let w := w.setClient me self
        if self.devclass ≠ "" then
          let w := { w with store := w.store.botAdd uid uid self.devclass "atom" "eco-legacy" }
          ((w.setClient me { self with type := .bot }).send me saslSuccess).setState me .init
        else if cfg.checkAuthcode uid authcode || !cfg.useAuth then
          let w := w.setClient me { self with type := .controller }
          let w := { w with store := w.store.clientAdd uid "bumper" self.clientresource }
          (w.setState me .init).send me saslSuccess
        else w.send me saslResponse

/-! ## Bind and session -/

/-- The reply to a bind request. -/
def bindResult (xml : Element) (jid : String) : String :=
  "<iq type=\"result\" id=\"" ++ pyStr (xml.get "id") ++
    "\"><bind xmlns=\"urn:ietf:params:xml:ns:xmpp-bind\"><jid>" ++ jid ++ "</jid></bind></iq>"

/-- The client after a bind: a bot's JID from its uid and devclass, a
controller's from its uid and the resource the request names, if any; `none`
where `assert clientresourcexml[0].text` fails. -/
def bound (self : Client) (bind : Element) : Option Client :=
  if self.devclass ≠ "" then
    some { self with bumperJid := self.uid ++ "@" ++ self.devclass ++ ".ecorobot.net/atom" }
  else match bind.first? with
    | some r =>
      if isTruthy r.text then
        some { self with clientresource := r.text.getD "",
                         bumperJid := self.uid ++ "@" ++ serverId ++ "/" ++ r.text.getD "" }
      else none
    | none => some { self with bumperJid := self.uid ++ "@" ++ serverId }

/-- `_handle_bind`: both online flags are set first, under the uid and the
resource the session has before the bind. -/
def handleBind (w : World) (me : Nat) (xml : Element) : World :=
  let self := w.sessions me
  let st := if w.store.botGet self.uid then w.store.botSetXmpp self.uid true else w.store
  let st := if st.clientGet self.clientresource then st.clientSetXmpp self.clientresource true
    else st
  let w := { w with store := st }
  match xml.first? >>= bound self with
  | none => w
  | some cl => ((w.setClient me cl).setState me .bind).send me (bindResult xml cl.bumperJid)

/-- `_handle_bind` marks online the client record of the resource the session has
before the bind, and no other. -/
theorem handleBind_clients (w : World) (me : Nat) (xml : Element) (r : String) :
    (handleBind w me xml).store.clients r =
      if r = (w.sessions me).clientresource then (w.store.clients r).map (fun _ => true)
      else w.store.clients r := by
  unfold handleBind
  dsimp only
  split
  · rw [Store.clients_setXmpp_of_get, Store.clients_botSetXmpp_of_get]
  · rw [World.send_store, World.setState_store_of_ne _ _ (by decide), World.setClient_store,
      Store.clients_setXmpp_of_get, Store.clients_botSetXmpp_of_get]

/-- The client object `_handle_bind` leaves: the bound one, moved to `BIND` unless
it is past it. -/
theorem handleBind_sessions (w : World) (me : Nat) (xml : Element) :
    (handleBind w me xml).sessions me = match xml.first? >>= bound (w.sessions me) with
      | none => w.sessions me
      | some cl => if State.bind.toNat < cl.state.toNat then cl else { cl with state := .bind } := by
  unfold handleBind
  dsimp only
  split
  · rfl
  · simp only [World.send_sessions, World.setState_sessions, World.setClient_sessions, if_true, true_and]
    split_ifs <;> first | rfl | omega

/-- `_handle_session`: `READY`, the reply, and a new `schedule_ping(30)` task. -/
def handleSession (w : World) (me : Nat) (xml : Element) : World :=
  let w := (w.setState me .ready).send me ("<iq type=\"result\" id=\"" ++ pyStr (xml.get "id") ++ "\" />")
  { w with tasks := w.tasks ++ [.ping me 30] }

/-! ## Presence -/

def dummyPresence (jid : String) : String := "<presence to=\"" ++ jid ++ "\"> dummy </presence>"

/-- `_handle_presence`. -/
def handlePresence (w : World) (me : Nat) (xml : Element) : World :=
  let self := w.sessions me
  if xml.first?.map (·.tag) = some "status" then
    let w := w.send me (dummyPresence self.bumperJid)
    if self.type = .bot then
      w.send me ("<iq type=\"set\" id=\"14\" to=\"" ++ self.bumperJid ++ "\" from=\"" ++ serverId ++
        "\"><query xmlns=\"com:ctl\"><ctl td=\"GetDeviceInfo\"/></query></iq>")
    else w
  else if xml.get "type" = some "available" then w.send me (dummyPresence self.bumperJid)
  else if xml.get "type" = some "unavailable" then w.setState me .disconnect
  else w.send me (dummyPresence self.bumperJid)

/-! ## Stream headers -/

def streamHeader : String :=
  "<stream:stream xmlns:stream=\"http://etherx.jabber.org/streams\" xmlns=\"jabber:client\" " ++
    "version=\"1.0\" id=\"1\" from=\"" ++ serverId ++ "\">"

def tlsFeatures : String :=
  "<stream:features><starttls xmlns=\"urn:ietf:params:xml:ns:xmpp-tls\"><required/></starttls>" ++
    "<mechanisms xmlns=\"urn:ietf:params:xml:ns:xmpp-sasl\"><mechanism>PLAIN</mechanism>" ++
    "</mechanisms></stream:features>"

def saslFeatures : String :=
  "<stream:features><mechanisms xmlns=\"urn:ietf:params:xml:ns:xmpp-sasl\">" ++
    "<mechanism>PLAIN</mechanism></mechanisms></stream:features>"

def bindFeatures : String :=
  "<stream:features><bind xmlns=\"urn:ietf:params:xml:ns:xmpp-bind\"/>" ++
    "<session xmlns=\"urn:ietf:params:xml:ns:xmpp-session\"/></stream:features>"

/-- The devclass `_handle_connect` slices out of a chunk: from four characters
after the first `to=` up to the first `.ecorobot.net`, when there is one. -/
def devclassOf (data : String) : Option String :=
  let sc := Py.find data "to="
  let ec := Py.find data ".ecorobot.net"
  if ec > -1 then some (Py.slice data (sc + 4).toNat ec.toNat) else none

/-- `_handle_connect(data, xml)`. `parse_data` calls it with `xml = None` only; the
branches for an element are kept as the source has them. -/
def handleConnect (cfg : Config) (w : World) (me : Nat) (data : String)
    (xml : Option Element) : World :=
  let self := w.sessions me
  if self.state = .connect then
    match xml with
    | none =>
      if Py.find data "jabber:client" > -1 then
        let w := match devclassOf data with
          | some d => w.setClient me { self with devclass := d }
          | none => w
        (w.send me streamHeader).send me (if self.tlsUpgraded then saslFeatures else tlsFeatures)
      else w.send me "</stream>"
    | some x =>
      if Py.contains x.tag "urn:ietf:params:xml:ns:xmpp-sasl" then handleSaslAuth cfg w me x else w
  else if self.state = .init then
    match xml with
    | none =>
      if Py.find data "jabber:client" > -1 then (w.send me streamHeader).send me bindFeatures
      else w
    | some x =>
      if x.tag = "iq" ∧ x.first?.map (tagStripUri ·.tag) = some "bind" then handleBind w me x
      else w
  else w

end Bumper
