import Bumper.Client

/-!
# Bumper — the forwarding handlers

`_handle_ctl`, `_handle_ping` and `_handle_result` are where a stanza leaves its
session for others. Each serialises the stanza, cleans ElementTree's namespace
artefacts out of the text by string replacement, and runs a loop over
`XMPPServer.clients` that sends the text to the clients its test selects.

The three cleanups are one function `clean` of the namespace and child element
they restore; the loops are one function `World.forward` of the test, and the
tests share `peerReady` (another session, in `READY`). What differs between the
handlers stays in their own bodies: the replies `_handle_ctl` sends for roster
and disco queries, the server-addressed ping reply, and in `_handle_result` the
auto-enrolment on `errno='103'`, the broadcast of a bot's result to
`de.ecorobot.net`, and the rewriting of `to` before the loop.
-/

namespace Bumper

open Xml

/-- Python's `"{}".format(x)` of an attribute read by `xml.get`: `None` prints as `None`. -/
def pyStr : Option String → String
  | some s => s
  | none => "None"

/-- An `Option String` Python treats as true. -/
def isTruthy (s : Option String) : Bool := truthy s

/-- The namespace cleanup: `ns0` artefacts removed, an `xmlns` on the `iq` dropped,
and the namespace `ns` written on every `<child`. -/
def clean (ns child : String) (s : String) : String :=
  let s := Py.replace s "xmlns:ns0=" "xmlns="
  let s := Py.replace s "ns0:" ""
  let s := Py.replace s ("iq xmlns=\"" ++ ns ++ "\"") "iq"
  Py.replace s ("<" ++ child) ("<" ++ child ++ " xmlns=\"" ++ ns ++ "\"")

/-- The cleanup of `_handle_ctl` and `_handle_result`. -/
def cleanCtl : String → String := clean "com:ctl" "query"

/-- The cleanup of `_handle_ping`. -/
def cleanPing : String → String := clean "urn:xmpp:ping" "ping"

/-- `client.bumper_jid != self.bumper_jid and client.state == client.READY`. -/
def peerReady (self cl : Client) : Bool := cl.bumperJid != self.bumperJid && cl.state == State.ready

/-- `client.uid.lower() in to.lower()`. -/
def uidMatches (dest : String) (cl : Client) : Bool := Py.contains (Py.lower dest) (Py.lower cl.uid)

/-- `str.lower` is Unicode's: `İ` lowers to `i` and a combining dot, so the uid
`i` matches a destination `İ@…`, and `ΟΔΟΣ@…` lowers to a final `ς`, which the
uid `οδοσ` does not match. -/
example : uidMatches "İ@ecouser.net" { Client.new with uid := "i" } = true ∧
    uidMatches "ΟΔΟΣ@ecouser.net" { Client.new with uid := "οδοσ" } = false := by decide

namespace World

/-- The sessions of the registry a forwarding loop's test selects, in registry order. -/
def select (w : World) (sel : Client → Bool) : List Nat :=
  w.clients.filter fun c => sel (w.sessions c)

/-- `for client in XMPPServer.clients: if sel(client): client.send(data)`. -/
def forward (w : World) (sel : Client → Bool) (data : String) : World :=
  w.sendAll (w.select sel) data

theorem mem_select {w : World} {sel : Client → Bool} {c : Nat} :
    c ∈ w.select sel ↔ c ∈ w.clients ∧ sel (w.sessions c) = true := by
  simp [select]

@[simp] theorem select_send (w : World) (c : Nat) (s : String) (sel : Client → Bool) :
    (w.send c s).select sel = w.select sel := rfl
@[simp] theorem select_sendAll (w : World) (cs : List Nat) (s : String) (sel : Client → Bool) :
    (w.sendAll cs s).select sel = w.select sel := rfl

end World

/-- `xml` with `from` set to `jid` unless it has one. -/
def withFrom (xml : Element) (jid : String) : Element :=
  if xml.has "from" then xml else xml.set "from" jid

/-- The 501 reply to a roster or disco query. -/
def featureNotImplemented (xml : Element) : String :=
  "<iq type=\"error\" id=\"" ++ pyStr (xml.get "id") ++ "\"><error type=\"cancel\" code=\"501\">" ++
    "<feature-not-implemented xmlns=\"urn:ietf:params:xml:ns:xmpp-stanzas\"/></error></iq>"

/-- The test of `_handle_ctl`'s loop: a ready peer that is a bot and whose uid
occurs in the stanza's `to`. -/
def ctlSelect (self : Client) (dest : Option String) (cl : Client) : Bool :=
  peerReady self cl && (cl.type == Kind.bot && isTruthy dest && uidMatches (dest.getD "") cl)

/-- The acknowledgement `_handle_ctl` sends for a `com:sf` set to `rl.ecorobot.net`. -/
def rlAck (xml : Element) (self : Client) : String :=
  "<iq id=\"" ++ pyStr (xml.get "id") ++ "\" to=\"" ++ self.uid ++ "@" ++ serverId ++ "/" ++
    self.clientresource ++ "\" from=\"rl.ecorobot.net\" type=\"result\"/>"

/-- The end of `_handle_ctl`: a bot's stanza whose `ctl` names an `admin` stops
here, any other is serialised and sent to the clients `ctlSelect` picks
(`xml[0]` raises when the stanza has no child). -/
def ctlForward (w : World) (self : Client) (xml : Element) : World :=
  match xml.first? with
  | none => w
  | some query =>
    let adminFromBot := match query.first? with
      | some ctl => isTruthy (ctl.get "admin") && self.type == Kind.bot
      | none => false
    if adminFromBot then w
    else match tostring (withFrom xml self.bumperJid) with
      | none => w
      | some s => w.forward (ctlSelect self (xml.get "to")) (cleanCtl s)

/-- `_handle_ctl`: a control query from a controller. -/
def handleCtl (w : World) (me : Nat) (xml : Element) (data : String) : World :=
  let self := w.sessions me
  if Py.contains data "roster" then w.send me (featureNotImplemented xml)
  else if Py.contains data "disco#items" then w.send me (featureNotImplemented xml)
  else if Py.contains data "disco#info" then w.send me (featureNotImplemented xml)
  else
    let w := if xml.get "type" = some "set" && Py.contains data "com:sf" &&
        xml.get "to" = some "rl.ecorobot.net" then w.send me (rlAck xml self) else w
    ctlForward w self xml

/-- The test of `_handle_ping`'s loop: a ready peer whose uid occurs in `to`. -/
def pingSelect (self : Client) (dest : Option String) (cl : Client) : Bool :=
  peerReady self cl && isTruthy dest && uidMatches (dest.getD "") cl

/-- `_handle_ping`: a ping to the server is answered, any other is forwarded. -/
def handlePing (w : World) (me : Nat) (xml : Element) : World :=
  let self := w.sessions me
  let pingto := xml.get "to"
  if isTruthy pingto && Py.find (pingto.getD "") "@" = -1 then
    w.send me ("<iq type=\"result\" id=\"" ++ pyStr (xml.get "id") ++ "\" from=\"" ++
      pyStr (xml.get "to") ++ "\" />")
  else match tostring (withFrom xml self.bumperJid) with
    | none => w
    | some s => w.forward (pingSelect self pingto) (cleanPing s)

/-- The administrator named in a bot's `errno='103'` answer: the `error` text
without its fixed wording and spaces, else the `admin` attribute. -/
def adminUser (ctl : Element) : Option String :=
  match ctl.get "error" with
  | some err => some (Py.replace (Py.replace err "permission denied, please contact " "") " " "")
  | none => ctl.get "admin"

/-- The three stanzas of the auto-enrolment, with their `uuid4()` ids. -/
def enrolment (ids : Nat → String) (admin jid newuser : String) : List String :=
  let head (i : Nat) := "<iq type=\"set\" id=\"" ++ ids i ++ "\" from=\"" ++ admin ++ "\" to=\"" ++
    jid ++ "\"><query xmlns=\"com:ctl\">"
  [head 0 ++ "<ctl td=\"AddUser\" id=\"0000\" jid=\"" ++ newuser ++ "\" /></query></iq>",
   head 1 ++ "<ctl td=\"SetAC\" id=\"1111\" jid=\"" ++ newuser ++ "\"><acs>" ++
     "<ac name=\"userman\" allow=\"1\"/><ac name=\"setting\" allow=\"1\"/>" ++
     "<ac name=\"clean\" allow=\"1\"/></acs></ctl></query></iq>",
   head 2 ++ "<ctl td=\"GetUserInfo\" id=\"4444\" /><UserInfos/></query></iq>"]

/-- The `to` that `_handle_result` matches uids against: an address without `@`
as it is, any other reduced to its local part at `ecouser.net`; `none` where
`assert ctl_to` fails. -/
def resultTarget (dest : Option String) : Option String :=
  match dest with
  | some t =>
    if t ≠ "" && Py.find t "@" = -1 then some t
    else if t ≠ "" then some (((Py.split t '@').headD "") ++ "@ecouser.net") else none
  | none => none

/-- The test of `_handle_result`'s loop: a ready peer, and the uid occurs in the
target unless the target has no `@`. -/
def resultSelect (self : Client) (target : String) (cl : Client) : Bool :=
  peerReady self cl && (!Py.contains target "@" || uidMatches target cl)

/-- The `errno='103'` branch of `_handle_result`: a bot that refuses a controller
is sent, on its own session, the stanzas that enrol the controller, unless the
administrator is an `fuid_` or `fusername_` user or authentication is on. -/
def enrol (cfg : Config) (w : World) (me : Nat) (xml : Element) : World :=
  let self := w.sessions me
  let ctlTo := xml.get "to"
  if self.type = .bot then
    match xml.first? >>= Element.first? with
    | none => w
    | some ctl =>
      if isTruthy ctlTo then
        match adminUser ctl with
        | none => w
        | some admin =>
          if Py.startswith admin "fuid_" || Py.startswith admin "fusername_" || cfg.useAuth then w
          else
            let newuser := (Py.split (ctlTo.getD "") '/').headD ""
            { w with uuidNext := w.uuidNext + 3 }.sendList me
              (enrolment (fun i => w.uuids (w.uuidNext + i)) admin self.bumperJid newuser)
      else w
  else w

/-- A bot's result addressed to `de.ecorobot.net` goes to every registered client. -/
def broadcastDe (w : World) (self : Client) (ctlTo : Option String) (r : String) : World :=
  if self.type = .bot ∧ ctlTo = some "de.ecorobot.net" then w.sendAll w.clients r else w

/-- The routing loop of `_handle_result`, after `to` is rewritten. -/
def resultRoute (w : World) (self : Client) (ctlTo : Option String) (r : String) : World :=
  match resultTarget ctlTo with
  | none => w
  | some t => w.forward (resultSelect self t) r

/-- `_handle_result`: results and events, mostly from bots. -/
def handleResult (cfg : Config) (w : World) (me : Nat) (xml : Element) (data : String) : World :=
  let self := w.sessions me
  if Py.contains data "errno='103'" then enrol cfg w me xml
  else match tostring (withFrom xml self.bumperJid) with
    | none => w
    | some s => resultRoute (broadcastDe w self (xml.get "to") (cleanCtl s)) self (xml.get "to")
        (cleanCtl s)

end Bumper
