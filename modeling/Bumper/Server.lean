import Bumper.ParseData

/-!
# Bumper — the server: protocol callbacks, tasks and runs

asyncio drives the server through `XMPPServer_Protocol`: `connection_made` on a
fresh protocol creates and registers a client, `data_received` runs
`parse_data`, `connection_lost` unregisters and disconnects it, and the
`connection_made` that `_handle_starttls` calls after the TLS handshake only
replaces the transport. Between these callbacks the loop runs the tasks the
handlers created, one step (up to the next `await`) at a time: `_handle_starttls`
until `loop.start_tls`, then to its end; `schedule_ping` until its sleep, then
to the creation of its successor. `XMPPServer.disconnect` disconnects every
registered client.

`step` is one such event; `run` a sequence of them; `Reachable` the states a run
from an initial state reaches. Events asyncio cannot deliver (data or loss on a
connection not open) change nothing. Which connections have been made and which
lost is asyncio's own record, written by the loop around the callbacks
(`acceptConnection`, `callConnectionLost`), never by the callbacks themselves.
-/

namespace Bumper

open Xml

/-- `connection_made` on a fresh protocol, whose transport is connection `c`. -/
def connectionMade (w : World) (c : Nat) : World :=
  { w with sessions := fun d => if d = c then { Client.new with state := .connect } else w.sessions d,
           clients := w.clients ++ [c] }

/-- `connection_lost`: `XMPPServer.clients.remove` raises `ValueError` when the
client is not registered, and `set_state("DISCONNECT")` is then skipped. -/
def connectionLost (w : World) (c : Nat) : World :=
  if c ∈ w.clients then { w with clients := w.clients.erase c }.setState c .disconnect else w

/-- asyncio's `_accept_connection`: the new transport is connection
`w.accepted`, recorded as made, and `connection_made` runs on a fresh protocol. -/
def acceptConnection (w : World) : World :=
  connectionMade { w with accepted := w.accepted + 1 } w.accepted

/-- asyncio's `_call_connection_lost`: `connection_lost` runs, then the
transport is closed and recorded as lost. -/
def callConnectionLost (w : World) (c : Nat) : World :=
  { connectionLost w c with lost := fun d => d = c || w.lost d }

@[simp] theorem acceptConnection_sessions (w : World) (d : Nat) :
    (acceptConnection w).sessions d =
      if d = w.accepted then { Client.new with state := .connect } else w.sessions d := rfl

@[simp] theorem acceptConnection_accepted (w : World) :
    (acceptConnection w).accepted = w.accepted + 1 := rfl

@[simp] theorem acceptConnection_lost (w : World) : (acceptConnection w).lost = w.lost := rfl

/-- `data_received`: an exception escaping `parse_data` is asyncio's fatal error,
which closes the transport. -/
def dataReceived (cfg : Config) (w : World) (c : Nat) (data : List UInt8) : World :=
  (parseData cfg w c data).getD { w with effects := w.effects ++ [.close c] }

/-- A chunk that encodes a text is parsed as that text. -/
theorem dataReceived_utf8Encode (cfg : Config) (w : World) (c : Nat) (text : String) :
    dataReceived cfg w c (Py.utf8Encode text) = match fromstring (wrap text) with
      | .ok root => dispatch cfg c (wrap text) w root
      | .error e => handleParseError cfg w c (wrap text) e.message := by
  rcases h : fromstring (wrap text) with e | root <;>
    simp [dataReceived, parseData, Py.utf8Decode_utf8Encode, h]

/-- `XMPPServer.disconnect`: `_disconnect` on every registered client. -/
def serverDisconnect (w : World) : World := w.clients.foldl World.disconnect w

/-- The keepalive `schedule_ping` sends. -/
def pingStanza (jid : String) : String :=
  "<iq from=\x27" ++ serverId ++ "\x27 to=\x27" ++ jid ++
    "\x27 id=\x27s2c1\x27 type=\x27get\x27><ping xmlns=\x27urn:xmpp:ping\x27/></iq>"

/-- One step of a task: the world after it and the tasks it leaves behind. `ok`:
whether the TLS handshake succeeds. -/
def taskStep (cfg : Config) (w : World) (t : Task) (ok : Bool) : World × List Task :=
  match t with
  | .starttls c =>
    let cl := w.sessions c
    if cl.tlsUpgraded then (w, [])
    else
      let w := (w.setClient c { cl with tlsUpgraded := true }).send c
        "<proceed xmlns=\x27urn:ietf:params:xml:ns:xmpp-tls\x27/>"
      if cfg.certsLoad then ({ w with effects := w.effects ++ [.startTls c] }, [.handshake c])
      else (w, [])
  | .handshake c => (if ok then { w with effects := w.effects ++ [.replaceTransport c] } else w, [])
  | .ping c time =>
    if (w.sessions c).state = .disconnect then (w, [])
    else (w.send c (pingStanza (w.sessions c).bumperJid), [.pingSleep c time])
  | .pingSleep c time => (w, [.ping c time])

/-- Run the `i`-th pending task one step. -/
def runTask (cfg : Config) (w : World) (i : Nat) (ok : Bool) : World :=
  match w.tasks.get? i with
  | none => w
  | some t =>
    let r := taskStep cfg { w with tasks := w.tasks.eraseIdx i } t ok
    { r.1 with tasks := r.1.tasks ++ r.2 }

/-- What the event loop can do next. -/
inductive Event
  | accept
  | data (conn : Nat) (chunk : List UInt8)
  | lost (conn : Nat)
  | task (i : Nat) (ok : Bool)
  | shutdown

/-- A connection asyncio still delivers to. -/
def World.isOpen (w : World) (c : Nat) : Bool := c < w.accepted && !w.lost c

/-- One event. The connections made and lost are asyncio's record, kept by the
loop around the callbacks; the callbacks only register and unregister clients. -/
def step (cfg : Config) (w : World) : Event → World
  | .accept => acceptConnection w
  | .data c chunk => if w.isOpen c then dataReceived cfg w c chunk else w
  | .lost c => if w.isOpen c then callConnectionLost w c else w
  | .task i ok => runTask cfg w i ok
  | .shutdown => serverDisconnect w

/-- A sequence of events. -/
def run (cfg : Config) (w : World) (es : List Event) : World := es.foldl (step cfg) w

theorem run_append (cfg : Config) (w : World) (es es' : List Event) :
    run cfg w (es ++ es') = run cfg (run cfg w es) es' :=
  List.foldl_append _ _ _ _

theorem run_nil (cfg : Config) (w : World) : run cfg w [] = w := rfl

theorem run_cons (cfg : Config) (w : World) (e : Event) (es : List Event) :
    run cfg w (e :: es) = run cfg (step cfg w e) es := rfl

/-- A chunk on a connection open at the end of a run goes to `data_received`. -/
theorem run_data (cfg : Config) (w : World) (es : List Event) {c : Nat} (chunk : List UInt8)
    (h : (run cfg w es).isOpen c = true) :
    run cfg w (es ++ [.data c chunk]) = dataReceived cfg (run cfg w es) c chunk := by
  rw [run_append]
  exact if_pos h

/-- The server before its first connection, over a store and a `uuid4()` supply. -/
def World.initial (store : Store) (uuids : Nat → String) : World :=
  ⟨[], fun _ => Client.new, store, [], [], uuids, 0, 0, fun _ => false⟩

/-- The states reachable from `w0`. -/
inductive Reachable (cfg : Config) (w0 : World) : World → Prop
  | init : Reachable cfg w0 w0
  | step {w : World} (e : Event) : Reachable cfg w0 w → Reachable cfg w0 (step cfg w e)

theorem reachable_run (cfg : Config) (w0 : World) (es : List Event) :
    Reachable cfg w0 (run cfg w0 es) := by
  suffices ∀ w, Reachable cfg w0 w → Reachable cfg w0 (es.foldl (step cfg) w) from this w0 .init
  induction es with
  | nil => exact fun w h => h
  | cons e es ih => exact fun w h => ih _ (h.step e)

end Bumper
